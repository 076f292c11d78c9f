import WebTransport.H2.Honest
import WebTransport.H2.Ledger
import WebTransport.H2.Prompts

/-!
# H2.Endpoint — one endpoint of a session that is used as it should be

The application opens streams, sends, resets what it may send on and stops what it may receive on;
the peer does the same.  `Standing` is what holds of the session entry then, together with the
capsules queued and heard so far.

* `Standing.api`     : a call of the application keeps it;
* `Standing.react`   : a capsule that may follow what was heard keeps it, and reports no error;
* `Standing.expects` : what the peer has queued behind what was heard may follow it.
-/

namespace WebTransport
namespace H2

open Bindings
open Received
open WtSessionInfo (Trans Wf Emits Bounded)

/-! ## What an application may do -/

/-- The call leaves the session open, resets no stream it only receives on, and stops none it only
sends on. -/
def Op.Honest (isServer : Bool) : Op → Prop
  | .resetStream streamId _ => isReceivableFlowCapsule streamId isServer = true
  | .stopSending streamId _ => isReceivableDataCapsule streamId isServer = true
  | .closeSession _ _ => False
  | .receive _ => False
  | _ => True

/-- The runs of an honest endpoint. -/
def Permits.honest (isServer : Bool) : Permits where
  reset streamId := isReceivableFlowCapsule streamId isServer = true
  stop streamId := isReceivableDataCapsule streamId isServer = true
  create _ _ := True
  lateFin _ := True

theorem Permits.honest_directed (isServer : Bool) :
    (Permits.honest isServer).Directed isServer := by
  refine ⟨?_, ?_⟩
  · intro streamId hreset
    rw [isReceivableDataCapsule_not]
    exact hreset
  · intro streamId hstop
    rw [isReceivableFlowCapsule_not]
    exact hstop

theorem Permits.honest_admits (isServer : Bool) (w : WtSessionInfo) (r : Received) :
    (Permits.honest isServer).Admits isServer w r :=
  ⟨fun _ _ _ hdir => hdir, fun _ _ _ _ => trivial, fun _ _ _ _ _ => trivial⟩

/-! ## The session -/

/-- The limit of a stream was raised only behind data on it. -/
def Prompted (said heard : List Received) : Prop :=
  ∀ id, streamGrants (about id said) ≠ [] → begun (about id heard) = true

/-- Among queued capsules, a higher limit of a stream is one that the stream was raised for. -/
theorem raised_of_streamGrants {id : Nat} {cs : List Capsule}
    (h : streamGrants (about id (cs.map Capsule.received)) ≠ []) :
    ∃ c ∈ cs, c.raised = some id := by
  rcases List.exists_mem_of_ne_nil _ h with ⟨limit, hlimit⟩
  rcases List.mem_filterMap.1 hlimit with ⟨r, hr, hgrant⟩
  rcases List.mem_filter.1 hr with ⟨hmem, hid⟩
  rcases List.mem_map.1 hmem with ⟨c, hc, rfl⟩
  refine ⟨c, hc, ?_⟩
  have hstream : c.received.stream? = some id := of_decide_eq_true hid
  cases c with
  | wtMaxStreamData streamId value => exact hstream
  | _ => cases hgrant

theorem Prompted.append {said heard : List Received} (more : List Received) {cs : List Capsule}
    (h : Prompted said heard)
    (hraised : ∀ c ∈ cs, ∀ id, c.raised = some id → begun (about id (heard ++ more)) = true) :
    Prompted (said ++ cs.map Capsule.received) (heard ++ more) := by
  intro id hgrants
  rw [about_append, streamGrants_append] at hgrants
  by_cases hold : streamGrants (about id said) = []
  · rw [hold, List.nil_append] at hgrants
    rcases raised_of_streamGrants hgrants with ⟨c, hc, hid⟩
    exact hraised c hc id hid
  · rw [about_append, begun_append, h id hold]
    rfl

/-- An established session that stands at `w`: the application has sent `calls`, the capsules `cs`
are queued, and `heard` was taken in. -/
structure Standing (isServer : Bool) (own other : H2SessionConfig) (w : WtSessionInfo)
    (calls : Nat → List PendingSend) (cs : List Capsule) (heard : List Received) : Prop where
  live : w.isTerminated = false
  established : w.isEstablished = true
  open_end : w.preAcceptEndStream = false
  wf : Wf isServer w
  bounded : Bounded w
  encodable : ∀ c ∈ cs, c.Encodable
  inRange : ∀ c ∈ cs, c.InRange
  tally : Tally isServer own other w calls cs heard
  prompted : Prompted (cs.map Capsule.received) heard

/-- An effect that ends nothing and reports no error. -/
def Effect.Calm : Effect → Prop
  | .event e => e.reportsEnd = false
  | .capsule c => c.isClose = false
  | .consumeRecvBytes _ => True
  | .dispatch _ _ => True
  | .discardStreamRecvBytes => False
  | .eraseStreamBuffers => False
  | .endStreamPending => False
  | .shutdownStream _ => False

/-- Calm effects that relay the received capsules `rs` to the application. -/
structure Effect.Delivers (es : List Effect) (rs : List Received) : Prop where
  calm : ∀ e ∈ es, e.Calm
  relays : Effect.Relays es rs

theorem Effect.Delivers.append {es es' : List Effect} {rs rs' : List Received}
    (h : Effect.Delivers es rs) (h' : Effect.Delivers es' rs') :
    Effect.Delivers (es ++ es') (rs ++ rs') := by
  refine ⟨?_, h.relays.append h'.relays⟩
  intro e he
  exact (List.mem_append.1 he).elim (h.calm e) (h'.calm e)

/-- A history of an honest endpoint holds no WT_CLOSE_SESSION. -/
theorem Received.Lawful.not_close {isServer : Bool} {config : H2SessionConfig} {cs : List Capsule}
    (h : Lawful isServer config (cs.map Capsule.received)) : ∀ c ∈ cs, c.isClose = false := by
  intro c hc
  rcases List.mem_iff_append.1 hc with ⟨before, after, rfl⟩
  rw [List.map_append, List.map_cons] at h
  have hnext := h.next
  cases c with
  | wtCloseSession errorCode message => cases hnext
  | _ => rfl

/-- What a caller put in is in range, and so is the rest. -/
theorem Capsule.Given.encodable {c : Capsule} (h : c.Given) (hrange : c.InRange)
    (hclose : c.isClose = false) : c.Encodable := by
  have hvarints : ∀ value ∈ c.varintFields, value ≤ kMaxQuicVarint :=
    fun value hvalue => hrange value (List.mem_append_left _ hvalue)
  cases c with
  | wtCloseSession errorCode message => cases hclose
  | wtResetStream streamId errorCode size =>
      exact ⟨hvarints, h, Nat.zero_le _, fun hne => absurd rfl hne⟩
  | wtStopSending streamId errorCode =>
      exact ⟨hvarints, h, Nat.zero_le _, fun hne => absurd rfl hne⟩
  | _ => exact ⟨hvarints, Nat.zero_le _, Nat.zero_le _, fun hne => absurd rfl hne⟩

section Standing

variable {isServer : Bool} {own other : H2SessionConfig} {w w' : WtSessionInfo}
  {calls : Nat → List PendingSend} {cs : List Capsule} {heard : List Received} {sc : SessionScope}

theorem Standing.account (h : Standing isServer own other w calls cs heard) :
    Account isServer own other w (cs.map Capsule.received) heard := h.tally.account

/-- The buffer plays no part. -/
theorem Standing.withBuffer (h : Standing isServer own other w calls cs heard) (buffer : Bytes) :
    Standing isServer own other (w.withBuffer buffer) calls cs heard := by
  have hbounded : Bounded (w.withBuffer buffer) := h.bounded.same rfl rfl rfl rfl
  have hwf : Wf isServer (w.withBuffer buffer) := ⟨h.wf.stream, h.wf.sent_le⟩
  have haccount : Account isServer own other (w.withBuffer buffer)
      (cs.map Capsule.received) heard := by
    refine ⟨h.account.lawful, ⟨h.account.credits.credit, h.account.credits.advertised⟩, ?_,
      h.account.sent, h.account.received, h.account.data_granted, h.account.data_limit,
      h.account.data_heard, ?_⟩
    · exact fun id => (h.account.stream id).beside rfl fun _ => le_rfl
    · intro isUni
      have hcount := h.account.count isUni
      exact ⟨hcount.granted, hcount.granted_le, hcount.limit, hcount.limit_le, hcount.limit_heard,
        hcount.opened, hcount.opened_le⟩
  have htally : Tally isServer own other (w.withBuffer buffer) calls cs heard :=
    ⟨haccount, h.tally.ledger.kept, h.tally.ledger.front⟩
  exact ⟨h.live, h.established, h.open_end, hwf, hbounded, h.encodable, h.inRange, htally,
    h.prompted⟩

/-- The session behind an operation that took in `more`. -/
theorem Standing.after (h : Standing isServer own other w calls cs heard) {ls : List Label}
    (more : List Received) {calls' : Nat → List PendingSend} {q : Queued}
    (hpath : Path (Trans (Permits.honest isServer) own isServer) w ls q.1)
    (hbounded : Bounded q.1) (hgiven : q.Given) (hrange : ∀ c ∈ q.2, c.InRange)
    (htally : Tally isServer own other q.1 calls' (cs ++ q.2) (heard ++ more))
    (hraises : q.Raises fun id => begun (about id (heard ++ more)) = true) :
    Standing isServer own other q.1 calls' (cs ++ q.2) (heard ++ more) := by
  rcases SessionScope.path_keeps hpath h.wf with ⟨hwf, hstage⟩
  have hprompted := h.prompted.append more hraises
  rw [← List.map_append] at hprompted
  have hclose := htally.account.lawful.not_close
  refine ⟨?_, ?_, ?_, hwf, hbounded, ?_, ?_, htally, hprompted⟩
  · exact (congrArg (fun v => v.2.1) hstage).trans h.live
  · exact (congrArg Prod.fst hstage).trans h.established
  · exact (congrArg (fun v => v.2.2.1) hstage).trans h.open_end
  · intro c hc
    rcases List.mem_append.1 hc with hold | hnew
    · exact h.encodable c hold
    · exact (hgiven c hnew).encodable (hrange c hnew) (hclose c (List.mem_append_right _ hnew))
  · intro c hc
    rcases List.mem_append.1 hc with hold | hnew
    · exact h.inRange c hold
    · exact hrange c hnew

/-- A scope whose session stands at `w` and that has done nothing yet. -/
theorem Standing.fitting (h : Standing isServer own other w calls cs heard)
    (hentry : sc.entry = some w) (hrole : sc.isServer = isServer) (hconfig : sc.config = own)
    (hfresh : sc.effects = []) : SessionScope.Fitting isServer own sc := by
  refine ⟨⟨hrole, ?_⟩, hconfig, ?_, ?_⟩
  · intro w' hw'
    cases hentry.symm.trans hw'
    exact h.wf
  · intro w' hw'
    cases hentry.symm.trans hw'
    exact h.bounded
  · rw [hfresh]
    exact fun c hc => absurd hc List.not_mem_nil

end Standing

/-! ## Calls of the application -/

/-- A call of the application that stays within the rules stores what it queued. -/
theorem SessionScope.step_honest {sc : SessionScope} {w : WtSessionInfo} {isServer : Bool}
    {own : H2SessionConfig} (hentry : sc.entry = some w) (hrole : sc.isServer = isServer)
    (hconfig : sc.config = own) (hwf : Wf isServer w) {op : Op} (hop : op.Honest isServer) :
    (sc.step op = sc ∧ ∀ id, op.taken w id = []) ∨
    ∃ q : Queued, sc.step op = sc.store q ∧ (∀ streams, q.Raises streams) ∧
      ∃ ls, Path (Trans (Permits.honest isServer) own isServer) w ls q.1 ∧
        Label.sentOf ls = q.2 ∧ Label.receivedOf ls = [] ∧
        ∀ id, WtSessionInfo.callsOf id ls = op.taken w id := by
  subst hrole hconfig
  have hstore : ∀ f : WtSessionInfo → Queued, sc.onEntry f = sc.store (f w) := by
    intro f
    unfold SessionScope.onEntry
    rw [hentry]
  have hemits : ∀ {f : WtSessionInfo → Queued},
      Emits (Permits.honest sc.isServer) sc.config sc.isServer w (f w) →
      (∀ streams, (f w).Raises streams) →
      ∃ q : Queued, sc.onEntry f = sc.store q ∧ (∀ streams, q.Raises streams) ∧
        ∃ ls, Path (Trans (Permits.honest sc.isServer) sc.config sc.isServer) w ls q.1 ∧
          Label.sentOf ls = q.2 ∧ Label.receivedOf ls = [] ∧
          ∀ id, WtSessionInfo.callsOf id ls = [] := by
    intro f hf hraises
    rcases hf with ⟨ls, hpath, hsent, hsilent, haccepted⟩
    refine ⟨f w, hstore f, hraises, ls, hpath, hsent, hsilent, ?_⟩
    intro id
    rw [WtSessionInfo.callsOf_eq, haccepted]
    rfl
  cases op with
  | openStream isUni =>
      exact Or.inr (hemits (f := fun w => (w.openStream sc.config sc.isServer isUni).1)
        (WtSessionInfo.openStream_emits w isUni fun _ _ => trivial)
        fun _ => WtSessionInfo.openStream_raises _ _ _ w)
  | sendStreamData streamId data fin =>
      rcases WtSessionInfo.sendStreamData_path hwf streamId data fin with
        ⟨ls, hpath, hsent, hsilent, haccepted⟩
      refine Or.inr ⟨_, hstore _, fun _ => WtSessionInfo.sendStreamData_raises _ _ _ w, ls, hpath,
        hsent, hsilent, ?_⟩
      intro id
      rw [WtSessionInfo.callsOf_eq, haccepted]
      unfold Op.taken
      by_cases hid : streamId = id
      · subst hid
        cases w.takesData streamId <;> simp
      · cases w.takesData streamId <;> simp [hid]
  | resetStream streamId errorCode =>
      unfold SessionScope.step
      dsimp only
      split_ifs
      · exact Or.inl ⟨rfl, fun _ => rfl⟩
      · exact Or.inr (hemits (WtSessionInfo.resetStream_emits w hop _)
          fun _ => WtSessionInfo.resetStream_raises _ _ w)
  | stopSending streamId errorCode =>
      unfold SessionScope.step
      dsimp only
      split_ifs
      · exact Or.inl ⟨rfl, fun _ => rfl⟩
      · exact Or.inr (hemits (WtSessionInfo.stopSending_emits w hop _)
          fun _ => WtSessionInfo.stopSending_raises _ _ w)
  | sendDatagram data =>
      exact Or.inr (hemits (WtSessionInfo.sendDatagram_emits w data)
        fun _ => WtSessionInfo.sendDatagram_raises _ w)
  | drainSession =>
      exact Or.inr (hemits (WtSessionInfo.drainSession_emits w)
        fun _ => WtSessionInfo.drainSession_raises w)
  | closeSession errorCode message => exact hop.elim
  | receive c => exact hop.elim

section Step

variable {isServer : Bool} {own other : H2SessionConfig} {w w' : WtSessionInfo}
  {calls : Nat → List PendingSend} {cs : List Capsule} {heard : List Received} {sc : SessionScope}

/-- A call of the application keeps the session standing. -/
theorem Standing.api (h : Standing isServer own other w calls cs heard)
    (hentry : sc.entry = some w) (hrole : sc.isServer = isServer) (hconfig : sc.config = own)
    (hfresh : sc.effects = []) {op : Op} (hop : op.Honest isServer) (hrange : op.InRange) :
    ∃ w' cs', (sc.step op).entry = some w' ∧ (sc.step op).effects = cs'.map .capsule ∧
      w'.capsuleBuffer = w.capsuleBuffer ∧
      Standing isServer own other w' (fun id => calls id ++ op.taken w id) (cs ++ cs') heard := by
  have hreceive : ∀ c, op ≠ .receive c := by
    rintro c rfl
    exact hop
  have hfitting := (h.fitting hentry hrole hconfig hfresh).step op hreceive hrange
  have hadds := @SessionScope.step_addsGiven sc op hreceive hrange
  rcases SessionScope.step_honest hentry hrole hconfig h.wf hop with
    ⟨hsame, hnothing⟩ | ⟨q, hstore, hraises, ls, hpath, hsent, hsilent, htaken⟩
  · refine ⟨w, [], ?_, ?_, rfl, ?_⟩
    · rw [hsame]
      exact hentry
    · rw [hsame]
      exact hfresh
    · have hcalls : (fun id => calls id ++ op.taken w id) = calls := by
        funext id
        rw [hnothing id, List.append_nil]
      rw [List.append_nil, hcalls]
      exact h
  · rw [hstore] at hfitting hadds ⊢
    have heffects : (sc.store q).effects = q.2.map .capsule := by
      simp only [SessionScope.store, hfresh, List.nil_append]
    have hcapsules : Effect.capsules (sc.store q).effects = q.2 := by
      rw [heffects, SessionScope.capsules_map_capsule]
    have hgiven : q.Given := by
      have hall := hadds (q.2.map .capsule) rfl
      rwa [SessionScope.capsules_map_capsule] at hall
    have hinRange : ∀ c ∈ q.2, c.InRange := by
      have hall := hfitting.capsules
      rwa [hcapsules] at hall
    have htally := h.tally.path hpath h.wf (Permits.honest_directed isServer) hsilent
    have hcalls : (fun id => calls id ++ WtSessionInfo.callsOf id ls) =
        fun id => calls id ++ op.taken w id := by
      funext id
      rw [htaken id]
    rw [hsent, hcalls] at htally
    have hstage := (SessionScope.path_keeps hpath h.wf).2
    refine ⟨q.1, q.2, rfl, heffects, congrArg (fun v => v.2.2.2) hstage, ?_⟩
    rw [← List.append_nil heard] at htally
    have hafter := h.after [] hpath (hfitting.bounded q.1 rfl) hgiven hinRange htally (hraises _)
    rw [List.append_nil] at hafter
    exact hafter

/-! ## Received capsules -/

/-- Only the kinds of effects an honest session has. -/
theorem calm_accepted {before after : List H2Event} {q : Queued} (sc : SessionScope)
    (hevents : ∀ e ∈ before ++ after, e.reportsEnd = false)
    (hclose : ∀ c ∈ q.2, c.isClose = false) :
    ∀ e ∈ before.map sc.eventEffect ++ q.2.map Effect.capsule ++ after.map sc.eventEffect,
      e.Calm := by
  have hmap : ∀ events : List H2Event, (∀ e ∈ events, e.reportsEnd = false) →
      ∀ e ∈ events.map sc.eventEffect, e.Calm := by
    intro events hall e he
    rcases List.mem_map.1 he with ⟨event, hevent, rfl⟩
    exact hall event hevent
  intro e he
  rcases List.mem_append.1 he with he | he
  · rcases List.mem_append.1 he with he | he
    · exact hmap before (fun e he => hevents e (List.mem_append_left _ he)) e he
    · rcases List.mem_map.1 he with ⟨c, hc, rfl⟩
      exact hclose c hc
  · exact hmap after (fun e he => hevents e (List.mem_append_right _ he)) e he

/-- What is told of a capsule that is taken in. -/
theorem Standing.relays (h : Standing isServer own other w calls cs heard) {r : Received}
    {before after : List H2Event} {q : Queued}
    (hanswers : WtSessionInfo.Answers (Permits.honest isServer) own isServer w r
      (before ++ after) q)
    (hnext : Next (!isServer) other heard r) :
    Effect.Relays (before.map sc.eventEffect ++ q.2.map Effect.capsule ++
      after.map sc.eventEffect) [r] := by
  rcases hanswers with ⟨ls, ⟨mid, hstep, -⟩, -⟩
  have hlive : ∀ fin streamId data, r = .stream fin streamId data →
      streamId ∉ w.releasedStreamIds := by
    rintro fin streamId data rfl hmem
    have hreceives : isReceivableDataCapsule streamId isServer = true := by
      rw [← isReceivableFlowCapsule_not]
      exact hnext.1
    have hended := ((h.account.stream streamId).released hmem).recv hreceives
    exact absurd (hnext.2.symm.trans hended) Bool.false_ne_true
  have hevents : Effect.events (before.map sc.eventEffect ++ q.2.map Effect.capsule ++
      after.map sc.eventEffect) =
      (before ++ after).map fun e => { e with sessionId := sc.sessionId } := by
    rw [Effect.events_append, Effect.events_append, SessionScope.Speaks.events_map,
      SessionScope.Speaks.events_map, Effect.events_capsules, List.append_nil, List.map_append]
  intro id
  have htold := hstep.told hlive id
  unfold Effect.dataTold Effect.finTold
  rw [hevents, List.flatMap_map, List.any_map, List.flatMap_singleton]
  refine ⟨htold.1, ?_⟩
  have hone : [r].any (finFor id) = r.finFor id := Bool.or_false _
  rw [hone]
  exact htold.2

/-- A capsule that may follow what was heard is taken in. -/
theorem Standing.react (h : Standing isServer own other w calls cs heard)
    (hentry : sc.entry = some w) (hrole : sc.isServer = isServer) (hconfig : sc.config = own)
    {r : Received} (hfits : r.Fits) (hnext : Next (!isServer) other heard r)
    (hexpected : Expected isServer (cs.map Capsule.received) r)
    (hcovered : Covered isServer own w (cs.map Capsule.received) heard r) :
    ∃ w' es, (sc.react w (.received r)).entry = some w' ∧
      (sc.react w (.received r)).effects = sc.effects ++ es ∧ Effect.Delivers es [r] ∧
      w'.capsuleBuffer = w.capsuleBuffer ∧
      Standing isServer own other w' calls (cs ++ Effect.capsules es) (heard ++ [r]) := by
  subst hrole hconfig
  have haccepts := h.account.accepts hnext hexpected hcovered
  have hjudgeGiven := WtSessionInfo.judge_given sc.config sc.isServer w hfits
  have hjudgeRaises := @WtSessionInfo.judge_raises
    (fun id => begun (about id (heard ++ [r])) = true) sc.config sc.isServer w r
  -- The same capsule on a scope that has done nothing yet.
  have hentry₀ : ({ sc with effects := [] } : SessionScope).entry = some w := hentry
  have hreading : (Reading.received r).Fits := hfits
  have hfitting := (h.fitting hentry₀ rfl rfl rfl).react hentry₀ h.live hreading
  have hreact : sc.react w (.received r) = sc.carryOut (w.judge sc.config sc.isServer r) :=
    SessionScope.receive_eq hentry r
  have hreact₀ : ({ sc with effects := [] } : SessionScope).react w (.received r) =
      ({ sc with effects := [] } : SessionScope).carryOut (w.judge sc.config sc.isServer r) :=
    SessionScope.receive_eq hentry₀ r
  rw [hreact]
  rw [hreact₀] at hfitting
  cases hverdict : w.judge sc.config sc.isServer r with
  | refuse w' event errorCode message =>
      rw [hverdict] at haccepts
      exact haccepts.elim
  | close event =>
      rw [hverdict] at haccepts
      exact haccepts.elim
  | accept before q after =>
      rw [hverdict] at hfitting hjudgeGiven hjudgeRaises
      have hanswers := WtSessionInfo.judge_answers h.wf
        (Permits.honest_admits sc.isServer w r) hverdict
      have htally := h.tally.answer hanswers h.wf (Permits.honest_directed sc.isServer) hnext
        hexpected
      -- What is told of it, if it is stream data: the stream was not released.
      have hrelays : Effect.Relays (before.map sc.eventEffect ++ q.2.map Effect.capsule ++
          after.map sc.eventEffect) [r] := h.relays hanswers hnext
      rcases hanswers with ⟨ls, hpath, hsent, -⟩
      have hevents : ∀ e ∈ before ++ after, e.reportsEnd = false := by
        rcases hpath with ⟨mid, hstep, -⟩
        exact SessionScope.reportsEnd_of_trans hstep
      have hclose : ∀ c ∈ q.2, c.isClose = false := by
        have hall := SessionScope.sentOf_isClose hpath
        rw [← hsent]
        exact hall
      have hcapsules : ∀ sc : SessionScope, Effect.capsules (before.map sc.eventEffect ++
          q.2.map Effect.capsule ++ after.map sc.eventEffect) = q.2 := by
        intro sc
        rw [Effect.capsules_append, Effect.capsules_append, SessionScope.capsules_events,
          SessionScope.capsules_events, SessionScope.capsules_map_capsule, List.append_nil,
          List.nil_append]
      have hinRange : ∀ c ∈ q.2, c.InRange := by
        have hall := hfitting.capsules
        dsimp only [SessionScope.carryOut] at hall
        rwa [List.nil_append, hcapsules] at hall
      have hraises : q.Raises fun id => begun (about id (heard ++ [r])) = true := by
        refine hjudgeRaises ?_
        rintro fin streamId data rfl
        rw [about_append, begun_append, about_self rfl]
        exact Bool.or_true _
      have hstage := (SessionScope.path_keeps hpath h.wf).2
      refine ⟨q.1, _, rfl, rfl, ⟨calm_accepted sc hevents hclose, hrelays⟩,
        congrArg (fun v => v.2.2.2) hstage, ?_⟩
      rw [hcapsules]
      exact h.after [r] hpath (hfitting.bounded q.1 rfl) hjudgeGiven hinRange htally hraises

/-! ## The peer -/

/-- What the peer queued behind the part that was heard may follow it. -/
theorem Standing.expects {w' : WtSessionInfo} {cs' : List Capsule} {heard' : List Received}
    {calls' : Nat → List PendingSend} {r : Received} {rest : List Received}
    (h : Standing isServer own other w calls cs heard)
    (h' : Standing (!isServer) other own w' calls' cs' heard')
    (hheard : heard' <+: cs.map Capsule.received)
    (hqueued : cs'.map Capsule.received = heard ++ r :: rest) :
    Next (!isServer) other heard r ∧ Expected isServer (cs.map Capsule.received) r ∧
      Covered isServer own w (cs.map Capsule.received) heard r := by
  have haccount := h.account
  have haccount' := h'.account
  have hprompted' := h'.prompted
  rw [hqueued] at haccount' hprompted'
  generalize cs.map Capsule.received = said at hheard haccount ⊢
  rcases hheard with ⟨unheard, rfl⟩
  have hlast : heard ++ r :: rest = (heard ++ [r]) ++ rest := by
    rw [List.append_assoc]
    rfl
  have habout : ∀ {id}, r.stream? = some id → r ∈ about id (heard ++ r :: rest) := by
    intro id hid
    refine List.mem_filter.2 ⟨List.mem_append_right _ List.mem_cons_self, decide_eq_true hid⟩
  -- What the peer heard is part of what was said here.
  have hbegun : ∀ {id}, begun (about id heard') = true →
      begun (about id (heard' ++ unheard)) = true := by
    intro id hid
    rw [about_append, begun_append, hid]
    rfl
  have hpeer : ∀ {id : Nat}, isServerId id ≠ isServer → isServerId id = !isServer := by
    intro id hid
    exact (Bool.eq_not.2 hid)
  refine ⟨haccount'.lawful.next, ?_, ?_, ?_, ?_⟩
  · intro id hid hor
    refine hbegun ?_
    rcases hor with ⟨-, hown⟩ | hgrant
    · refine (haccount'.stream id).answered ?_ (Or.inr (List.ne_nil_of_mem (habout hid)))
      rw [hown]
      exact (Bool.not_ne_self isServer).symm
    · refine hprompted' id ?_
      rcases Option.ne_none_iff_exists'.1 hgrant with ⟨limit, hlimit⟩
      exact List.ne_nil_of_mem (List.mem_filterMap.2 ⟨r, habout hid, hlimit⟩)
  · calc
      dataBytes (heard ++ [r]) ≤ dataBytes (heard ++ r :: rest) := by
        rw [hlast, dataBytes_append (heard ++ [r])]
        exact Nat.le_add_right _ _
      _ = w'.bytesSent := haccount'.sent.symm
      _ ≤ w'.maxDataLocal := h'.wf.sent_le
      _ = top own.wtInitialMaxData (dataGrants heard') := haccount'.data_limit
      _ ≤ top own.wtInitialMaxData (dataGrants (heard' ++ unheard)) := by
        rw [dataGrants_append]
        exact top_le_append _ _ _
      _ = w.maxDataRemote := top_of_ascends haccount.data_granted
  · intro id
    calc
      dataBytes (about id (heard ++ [r])) ≤ dataBytes (about id (heard ++ r :: rest)) := by
        rw [hlast, about_append id (heard ++ [r]), dataBytes_append]
        exact Nat.le_add_right _ _
      _ ≤ top own.wtInitialMaxStreamData (streamGrants (about id heard')) :=
        (haccount'.stream id).within
      _ ≤ top own.wtInitialMaxStreamData (streamGrants (about id (heard' ++ unheard))) := by
        rw [about_append, streamGrants_append]
        exact top_le_append _ _ _
  · intro id hid hdata hside
    have hopened : id / 4 < w'.nextCounter (isUniId id) := by
      by_contra hle
      have hsilent := ((haccount'.stream id).unopened (hpeer hside) (not_lt.1 hle)).2
      have hmem := habout hid
      rw [hsilent] at hmem
      exact List.not_mem_nil hmem
    have hcount := haccount'.count (isUniId id)
    calc
      id / 4 < w'.nextCounter (isUniId id) := hopened
      _ ≤ w'.maxStreamsLocal (isUniId id) := hcount.opened_le
      _ = top (own.wtInitialMaxStreams (isUniId id)) (countGrants (isUniId id) heard') :=
        hcount.limit
      _ ≤ top (own.wtInitialMaxStreams (isUniId id))
          (countGrants (isUniId id) (heard' ++ unheard)) := by
        rw [countGrants_append]
        exact top_le_append _ _ _
      _ = w.maxStreamsRemote (isUniId id) :=
        top_of_ascends (haccount.count (isUniId id)).granted

end Step

end H2
end WebTransport
