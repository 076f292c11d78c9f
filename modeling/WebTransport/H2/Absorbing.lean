import WebTransport.H2.Endings

/-!
# H2.Absorbing — nothing follows the end of a session

The entry of a terminated session stays until its stream closes.  Until then the session is not
established, queues no capsule and tells of nothing but `SessionClosed`, as long as nobody calls one of
the three methods that do not look at `is_terminated`.

* `Heeded`      : what a session did, up to its end and behind it;
* `call_heeded` : every method on an entry goes on like that, if it heeds the end;
* `run_heeded`  : so does a run, from any of its states on.
-/

namespace WebTransport
namespace H2

open Bindings

/-! ## What is done up to the end and behind it -/

namespace Capsule

/-- Nothing is queued behind a WT_CLOSE_SESSION. -/
def ClosesLast (cs : List Capsule) : Prop :=
  ∀ front c back, cs = front ++ c :: back → c.isClose = true → back = []

theorem closesLast_of_open {cs : List Capsule} (h : ∀ c ∈ cs, c.isClose = false) : ClosesLast cs := by
  intro front c back hcs hclose
  have hopen := h c (hcs ▸ List.mem_append_right front List.mem_cons_self)
  rw [hclose] at hopen
  cases hopen

theorem closesLast_singleton (c : Capsule) : ClosesLast [c] := by
  intro front c' back hcs _
  cases front with
  | nil => exact (List.cons.inj hcs).2.symm
  | cons b front =>
      exact absurd (List.cons.inj hcs).2.symm
        (List.append_ne_nil_of_right_ne_nil _ (List.cons_ne_nil _ _))

theorem ClosesLast.behind {cs cs' : List Capsule} (h : ∀ c ∈ cs, c.isClose = false)
    (h' : ClosesLast cs') : ClosesLast (cs ++ cs') := by
  intro front c back hcs hclose
  rcases List.append_eq_append_iff.1 hcs with ⟨as, -, hback⟩ | ⟨bs, hfront, hback⟩
  · exact h' as c back hback hclose
  · cases bs with
    | nil => exact h' [] c back hback.symm hclose
    | cons b bs =>
        rw [List.cons_append] at hback
        obtain ⟨rfl, -⟩ := List.cons.inj hback
        have hopen := h c (hfront ▸ List.mem_append_right front List.mem_cons_self)
        rw [hclose] at hopen
        cases hopen

end Capsule

namespace Effect

open Capsule (ClosesLast)

/-- No capsule is queued, and nothing but `SessionClosed` is told. -/
structure Still (es : List Effect) : Prop where
  capsules : Effect.capsules es = []
  events : ∀ e ∈ Effect.events es, e.type = .sessionClosed

theorem Still.none : Still [] := ⟨rfl, fun _ he => absurd he List.not_mem_nil⟩

theorem Still.append {es es' : List Effect} (h : Still es) (h' : Still es') : Still (es ++ es') := by
  constructor
  · rw [capsules_append, h.capsules, h'.capsules]
    rfl
  · intro e he
    rw [events_append] at he
    rcases List.mem_append.1 he with he | he
    · exact h.events e he
    · exact h'.events e he

/-- What a session did that ends with `entry`; with `ended` it had been terminated before. -/
structure Heeded (ended : Prop) (entry : Option WtSessionInfo) (es : List Effect) : Prop where
  closesLast : ClosesLast (Effect.capsules es)
  live : ∀ w, entry = some w → w.isTerminated = false →
    ¬ ended ∧ ∀ c ∈ Effect.capsules es, c.isClose = false
  terminated : ∀ w, entry = some w → w.isTerminated = true → w.isEstablished = false
  still : ended → Still es

namespace Heeded

variable {ended : Prop} {entry entry' : Option WtSessionInfo} {es es' : List Effect}
  {w : WtSessionInfo}

/-- Nothing has been done yet. -/
theorem start (h : ∀ w, entry = some w → w.isTerminated = true → w.isEstablished = false) :
    Heeded (∃ w, entry = some w ∧ w.isTerminated = true) entry [] := by
  refine ⟨Capsule.closesLast_of_open fun _ hc => absurd hc List.not_mem_nil, ?_, h, fun _ => .none⟩
  intro w hentry hlive
  refine ⟨?_, fun _ hc => absurd hc List.not_mem_nil⟩
  rintro ⟨w', hentry', hterm⟩
  rw [hentry] at hentry'
  cases hentry'
  rw [hlive] at hterm
  cases hterm

/-- A live entry goes on without WT_CLOSE_SESSION. -/
theorem goOn (h : Heeded ended (some w) es) (hlive : w.isTerminated = false)
    (hopen : ∀ c ∈ Effect.capsules es', c.isClose = false)
    (hterm : ∀ w', entry' = some w' → w'.isTerminated = true → w'.isEstablished = false) :
    Heeded ended entry' (es ++ es') := by
  obtain ⟨hnot, hes⟩ := h.live w rfl hlive
  have hall : ∀ c ∈ Effect.capsules (es ++ es'), c.isClose = false := by
    intro c hc
    rw [capsules_append] at hc
    rcases List.mem_append.1 hc with hc | hc
    · exact hes c hc
    · exact hopen c hc
  exact ⟨Capsule.closesLast_of_open hall, fun _ _ _ => ⟨hnot, hall⟩, hterm,
    fun hended => absurd hended hnot⟩

/-- A live entry sends what it sends, and perhaps its WT_CLOSE_SESSION. -/
theorem sends (h : Heeded ended (some w) es) (hlive : w.isTerminated = false) {cs : List Capsule}
    (hsends : Sends es' cs entry') (hcs : ∀ c ∈ cs, c.isClose = false)
    (hterm : ∀ w', entry' = some w' → w'.isTerminated = true → w'.isEstablished = false) :
    Heeded ended entry' (es ++ es') := by
  rcases hsends with hopen | ⟨errorCode, message, hclose, -, w', hw', hw'term⟩
  · exact h.goOn hlive (hopen ▸ hcs) hterm
  · obtain ⟨hnot, hes⟩ := h.live w rfl hlive
    refine ⟨?_, ?_, hterm, fun hended => absurd hended hnot⟩
    · rw [capsules_append, hclose]
      exact .behind hes (.behind hcs (Capsule.closesLast_singleton _))
    · intro w'' hw'' hlive'
      rw [hw'] at hw''
      cases hw''
      rw [hw'term] at hlive'
      cases hlive'

/-- Behind the end nothing is left to be done but to go. -/
theorem stays (h : Heeded ended entry es) (hstill : Still es')
    (hterm : ∀ w, entry' = some w → w.isTerminated = true ∧ w.isEstablished = false) :
    Heeded ended entry' (es ++ es') := by
  refine ⟨?_, ?_, fun w hw _ => (hterm w hw).2, fun hended => (h.still hended).append hstill⟩
  · rw [capsules_append, hstill.capsules, List.append_nil]
    exact h.closesLast
  · intro w hw hlive
    rw [(hterm w hw).1] at hlive
    cases hlive

end Heeded

end Effect

/-! ## Methods that heed the end -/

namespace Call

/-- The method looks at `is_terminated`, or has no need to. -/
def isPlain : Call → Bool
  | .request _ _ | .establish _ | .beRejected _ | .reject _ _ | .markEstablished => false
  | _ => true

/-- The method is called on the entry when it heeds the end. -/
def Heeds (w : WtSessionInfo) : Call → Prop
  | .request _ _ => False
  | .establish _ | .beRejected _ | .markEstablished => w.isTerminated = false
  | .reject status rv =>
      (w.isTerminated = true → rv = none) ∧ (w.isEstablished = true → status / 100 ≠ 2)
  | _ => True

theorem heeds_of_plain {c : Call} (h : c.isPlain = true) (w : WtSessionInfo) : c.Heeds w := by
  cases c with
  | request w events => cases h
  | establish headers => cases h
  | beRejected status => cases h
  | reject status rv => cases h
  | markEstablished => cases h
  | _ => trivial

end Call

namespace SessionScope

open Effect (Heeded Still)
open WtSessionInfo (Wf Stands)

variable {sc sc' : SessionScope} {w : WtSessionInfo} {ended : Prop} {es past : List Effect}

/-- The scope got on, and what it did heeds the end. -/
def GoesOn (ended : Prop) (past : List Effect) (sc sc' : SessionScope) : Prop :=
  ∃ es, sc'.effects = sc.effects ++ es ∧ Heeded ended sc'.entry (past ++ es)

/-- It did so and is sound. -/
def GoesOnSound (ended : Prop) (past : List Effect) (sc sc' : SessionScope) : Prop :=
  Sound sc.isServer sc' ∧ GoesOn ended past sc sc'

/-- A live entry goes on along labels. -/
theorem extends_goesOn {permits : Permits} {ls : List Label} {w' : WtSessionInfo}
    (hext : Extends permits sc w ls w' sc') (hlive : w.isTerminated = false)
    (hwf : Wf sc.isServer w) (h : Heeded ended (some w) past) : GoesOn ended past sc sc' := by
  obtain ⟨hpath, hstands, -, -, -, -, es, heffects, hsends, -⟩ := hext
  refine ⟨es, heffects, h.sends hlive hsends (sentOf_isClose hpath) ?_⟩
  intro w'' hw'' hterm
  have hstage := (path_keeps hpath hwf).2
  generalize sc'.entry = entry at hstands hw''
  cases hstands with
  | live =>
      cases hw''
      have hlive' : w'.isTerminated = false := (congrArg (fun s => s.2.1) hstage).trans hlive
      rw [hlive'] at hterm
      cases hterm
  | ended =>
      cases hw''
      rfl
  | refused hcreated =>
      cases hw''
      rfl
  | gone => cases hw''

/-- `process_capsules` goes on from any entry that is not gone. -/
theorem processCapsules_goesOn (hentry : sc.entry = some w) (hwf : Wf sc.isServer w)
    (h : Heeded ended (some w) past) (data : Bytes) :
    GoesOn ended past sc (sc.processCapsules data) := by
  have hkept : GoesOnSound ended past sc (sc.processCapsules data) := by
    refine processCapsules_rule ?_ ?_ ?_ (eachTurn_true _) ?_
    · rintro sc' w' buffer hentry' ⟨hsound, es, heffects, hheeded⟩
      refine ⟨hsound.setEntry hentry' rfl rfl rfl, es, heffects, ?_⟩
      rw [hentry'] at hheeded
      refine ⟨hheeded.closesLast, ?_, ?_, hheeded.still⟩
      · intro w'' hw'' hlive
        cases hw''
        exact hheeded.live w' rfl hlive
      · intro w'' hw'' hterm
        cases hw''
        exact hheeded.terminated w' rfl hterm
    · rintro sc' type size payload ⟨hsound, es, heffects, hheeded⟩
      refine ⟨hsound, es ++ [.dispatch type payload, .consumeRecvBytes size], ?_, ?_⟩
      · simp only [perform, heffects, List.append_assoc]
        rfl
      · rw [← List.append_assoc]
        refine ⟨?_, ?_, hheeded.terminated, fun hended => ?_⟩
        · rw [Effect.capsules_append]
          exact (List.append_nil _).symm ▸ hheeded.closesLast
        · intro w' hw' hlive
          rw [Effect.capsules_append]
          exact (List.append_nil _).symm ▸ hheeded.live w' hw' hlive
        · exact (hheeded.still hended).append ⟨rfl, fun _ he => absurd he List.not_mem_nil⟩
    · rintro sc' w' buffer r - hentry' hlive - ⟨hsound, es, heffects, hheeded⟩
      refine ⟨hsound.react hentry' hlive r, ?_⟩
      have hwf' : Wf sc'.isServer (w'.withBuffer buffer) := hsound.1.symm ▸ hsound.2 _ hentry'
      obtain ⟨ls, w'', hext, -, -⟩ := react_extends hentry' hwf' hlive r
        fun r _ => Permits.all_admits sc'.isServer _ r
      rw [hentry'] at hheeded
      obtain ⟨es', heffects', hheeded'⟩ := extends_goesOn hext hlive hwf' hheeded
      refine ⟨es ++ es', ?_, ?_⟩
      · rw [heffects', heffects, List.append_assoc]
      · rw [← List.append_assoc]
        exact hheeded'
    · refine ⟨⟨rfl, ?_⟩, [], (List.append_nil _).symm, ?_⟩
      · intro w' hw'
        rw [hentry] at hw'
        cases hw'
        exact hwf
      · rw [List.append_nil, hentry]
        exact h
  exact hkept.2

/-- A live entry does something without a WT_CLOSE_SESSION. -/
theorem goesOn_live (hlive : w.isTerminated = false) (h : Heeded ended (some w) past)
    (heffects : sc'.effects = sc.effects ++ es) (hopen : ∀ c ∈ Effect.capsules es, c.isClose = false)
    (hterm : ∀ w', sc'.entry = some w' → w'.isTerminated = true → w'.isEstablished = false) :
    GoesOn ended past sc sc' :=
  ⟨es, heffects, h.goOn hlive hopen hterm⟩

/-- A terminated entry stays terminated, or goes. -/
theorem goesOn_still {entry : Option WtSessionInfo} (h : Heeded ended entry past)
    (heffects : sc'.effects = sc.effects ++ es) (hstill : Still es)
    (hterm : ∀ w', sc'.entry = some w' → w'.isTerminated = true ∧ w'.isEstablished = false) :
    GoesOn ended past sc sc' :=
  ⟨es, heffects, h.stays hstill hterm⟩

/-- Giving back receive credit is not heard of. -/
theorem GoesOn.consume (h : GoesOn ended past sc sc') (size : Nat) :
    GoesOn ended past sc (sc'.perform (.consumeRecvBytes size)) := by
  obtain ⟨es, heffects, hheeded⟩ := h
  have hsame : Effect.capsules (past ++ (es ++ [.consumeRecvBytes size])) =
      Effect.capsules (past ++ es) := by
    rw [← List.append_assoc, Effect.capsules_append]
    exact List.append_nil _
  refine ⟨es ++ [.consumeRecvBytes size], ?_, ?_, ?_, hheeded.terminated, fun hended => ?_⟩
  · simp only [perform, heffects, List.append_assoc]
  · rw [hsame]
    exact hheeded.closesLast
  · rw [hsame]
    exact hheeded.live
  · rw [← List.append_assoc]
    exact (hheeded.still hended).append ⟨rfl, fun _ he => absurd he List.not_mem_nil⟩

theorem recvEstablished_goesOn (hentry : sc.entry = some w) (hwf : Wf sc.isServer w)
    (h : Heeded ended (some w) past) (data : Bytes) :
    GoesOn ended past sc (sc.recvEstablished data) := by
  have hloop := processCapsules_goesOn hentry hwf h data
  unfold recvEstablished
  dsimp only
  cases (sc.processCapsules data).entry with
  | none => exact hloop
  | some w' =>
      dsimp only
      split_ifs
      · exact hloop.consume _
      · exact hloop

/-- A rejection takes the entry away, or terminates it. -/
theorem reject_entry (hentry : sc.entry = some w) (status : Int) (rv : Option NgError)
    (hestablished : w.isEstablished = true → status / 100 ≠ 2) :
    ∀ w', (H2Session.reject status rv sc).entry = some w' →
      w'.isTerminated = true ∧ w'.isEstablished = false := by
  have hreject : ∀ sc₁ : SessionScope, sc₁.entry = some w →
      ∀ w', (H2Session.reject status none sc₁).entry = some w' →
        w'.isTerminated = true ∧ w'.isEstablished = false := by
    intro sc₁ hsc₁ w' hw'
    unfold H2Session.reject at hw'
    dsimp only at hw'
    rw [hsc₁] at hw'
    split_ifs at hw' with hstatus
    · cases hw'
    · cases hw'
      refine ⟨rfl, ?_⟩
      cases hest : w.isEstablished with
      | false => rfl
      | true => exact absurd (not_not.1 hstatus) (hestablished hest)
  cases rv with
  | none => exact hreject sc hentry
  | some err => exact hreject (sc.pushEvent _) hentry

/-- What a rejection does besides. -/
theorem reject_effects (status : Int) (rv : Option NgError) (sc : SessionScope) :
    ∃ es, (H2Session.reject status rv sc).effects = sc.effects ++ es ∧ Effect.capsules es = [] ∧
      (rv = none → Still es) := by
  have hreject : ∀ sc₁ : SessionScope, ∃ es, (H2Session.reject status none sc₁).effects =
      sc₁.effects ++ es ∧ Still es := by
    intro sc₁
    have hdiscard : Still [.discardStreamRecvBytes] :=
      ⟨rfl, fun _ he => absurd he List.not_mem_nil⟩
    unfold H2Session.reject
    dsimp only
    split_ifs
    · exact ⟨_, rfl, hdiscard⟩
    · cases sc₁.entry with
      | none => exact ⟨[], (List.append_nil _).symm, .none⟩
      | some w => exact ⟨_, rfl, hdiscard⟩
  cases rv with
  | none =>
      obtain ⟨es, heffects, hstill⟩ := hreject sc
      exact ⟨es, heffects, hstill.capsules, fun _ => hstill⟩
  | some err =>
      let e : H2Event := { type := .error, streamId := sc.sessionId.toNat, errorCode := err.code,
                           errorMessage := err.message }
      obtain ⟨es, heffects, hstill⟩ := hreject (sc.pushEvent e)
      refine ⟨.event { e with sessionId := sc.sessionId } :: es, ?_, ?_, fun heq => by cases heq⟩
      · exact heffects.trans (List.append_assoc _ _ _)
      · exact hstill.capsules

/-- On a live entry every method goes on. -/
theorem call_live {c : Call} (hentry : sc.entry = some w) (hlive : w.isTerminated = false)
    (hwf : Wf sc.isServer w) (hallowed : c.Allowed sc.isServer sc.config sc.entry)
    (hheeds : c.Heeds w) (h : Heeded ended (some w) past) : GoesOn ended past sc (sc.call c) := by
  have hnone : ∀ c ∈ Effect.capsules [], c.isClose = false :=
    fun _ hc => absurd hc List.not_mem_nil
  have hkept : ∀ sc' : SessionScope, sc'.effects = sc.effects →
      (∀ w', sc'.entry = some w' → w'.isTerminated = false) → GoesOn ended past sc sc' := by
    intro sc' heffects hlive'
    apply goesOn_live hlive h (heffects.trans (List.append_nil _).symm) hnone
    intro w' hw' hterm
    rw [hlive' w' hw'] at hterm
    cases hterm
  have herased : GoesOn ended past sc ((sc.pushEvent { type := .sessionClosed }).eraseSession) := by
    refine goesOn_live hlive h (List.append_assoc _ _ _) ?_ ?_
    · exact fun _ hc => absurd hc List.not_mem_nil
    · exact fun w' hw' => by cases hw'
  have hmalformed : GoesOn ended past sc sc.resetStreamForMalformedCapsule := by
    refine goesOn_live hlive h rfl ?_ ?_
    · exact fun _ hc => absurd hc List.not_mem_nil
    · intro w' hw' _
      simp only [resetStreamForMalformedCapsule, hentry, Option.map_some] at hw'
      cases hw'
      rfl
  cases c with
  | request w events => exact hheeds.elim
  | establish headers =>
      simp only [call, H2Session.establish, hentry]
      refine ⟨[.event { type := .sessionReady, sessionId := sc.sessionId, headers := headers },
        .capsule (.wtMaxData sc.config.wtInitialMaxData),
        .capsule (.wtMaxStreamsBidi sc.config.wtInitialMaxStreamsBidi),
        .capsule (.wtMaxStreamsUni sc.config.wtInitialMaxStreamsUni)], ?_, h.goOn hlive ?_ ?_⟩
      · simp [sendInitialLimits, pushEvent, perform, setEntry]
      · simp [Effect.capsules, Capsule.isClose]
      · intro w' hw' hterm
        cases hw'
        rw [show WtSessionInfo.isTerminated _ = w.isTerminated from ?_, hlive] at hterm
        · cases hterm
        · cases (H2Session.lastHeader headers (ascii "webtransport-init")).bind
              H2Session.parseWebtransportInit with
          | none => rfl
          | some limits =>
              rcases limits with ⟨u, bl, br⟩
              cases u <;> cases bl <;> cases br <;> rfl
  | beRejected status =>
      simp only [call, H2Session.beRejected, hentry]
      refine goesOn_live hlive h (List.append_assoc _ _ _) ?_ ?_
      · exact fun _ hc => absurd hc List.not_mem_nil
      · exact fun w' hw' => by cases hw'
  | reject status rv =>
      obtain ⟨es, heffects, hcapsules, -⟩ := reject_effects status rv sc
      refine goesOn_live hlive h heffects ?_ ?_
      · rw [hcapsules]
        exact hnone
      · exact fun w' hw' _ => (reject_entry hentry status rv hheeds.2 w' hw').2
  | recvEstablished data => exact recvEstablished_goesOn hentry hwf h data
  | bufferPreAccept data =>
      refine hkept _ rfl ?_
      simp only [call, bufferPreAccept, hentry, Option.map_some]
      intro w' hw'
      cases hw'
      exact hlive
  | handleEndStream =>
      simp only [call, handleEndStream, hentry]
      split_ifs
      · refine hkept _ rfl ?_
        intro w' hw'
        cases hw'
        exact hlive
      · refine hkept _ rfl ?_
        intro w' hw'
        rw [hentry] at hw'
        cases hw'
        exact hlive
      · exact hmalformed
      · exact herased
  | terminatePreAcceptEndStreamSession =>
      simp only [call, terminatePreAcceptEndStreamSession, hentry]
      split_ifs
      · exact hmalformed
      · exact herased
  | markEstablished =>
      refine hkept _ rfl ?_
      simp only [call, markEstablished, hentry, Option.map_some]
      intro w' hw'
      cases hw'
      exact hlive
  | clearBuffer =>
      refine hkept _ rfl ?_
      simp only [call, clearBuffer, hentry, Option.map_some]
      intro w' hw'
      cases hw'
      exact hlive
  | drain => exact processCapsules_goesOn hentry hwf h []
  | sendInitialLimits =>
      refine ⟨[.capsule (.wtMaxData sc.config.wtInitialMaxData),
        .capsule (.wtMaxStreamsBidi sc.config.wtInitialMaxStreamsBidi),
        .capsule (.wtMaxStreamsUni sc.config.wtInitialMaxStreamsUni)], ?_, h.goOn hlive ?_ ?_⟩
      · simp [call, sendInitialLimits, perform]
      · simp [Effect.capsules, Capsule.isClose]
      · intro w' hw' hterm
        rw [show (sc.call .sendInitialLimits).entry = some w from hentry] at hw'
        cases hw'
        rw [hlive] at hterm
        cases hterm
  | streamClose errorCode =>
      simp only [call, closeStream, hentry]
      refine goesOn_live hlive h ((List.append_assoc _ _ _).trans (List.append_assoc _ _ _)) ?_ ?_
      · exact fun _ hc => absurd hc List.not_mem_nil
      · exact fun w' hw' => by cases hw'
  | api op =>
      obtain ⟨ls, w', hext, -, -⟩ := api_extends hentry hwf op hallowed (stepUnder_all sc op).1
      exact extends_goesOn hext hlive hwf h

/-- The application's calls do nothing to a terminated session. -/
theorem step_terminated (hentry : sc.entry = some w) (hterm : w.isTerminated = true)
    (hest : w.isEstablished = false) (op : Op) (hop : ∀ c, op ≠ .receive c) :
    (sc.step op).effects = sc.effects ∧ (sc.step op).entry = some w := by
  have hidle : ∀ f : WtSessionInfo → Queued, f w = (w, []) →
      (sc.onEntry f).effects = sc.effects ∧ (sc.onEntry f).entry = some w := by
    intro f hf
    simp [onEntry, hentry, store, hf]
  cases op with
  | openStream isUnidirectional =>
      exact hidle _ (by simp [WtSessionInfo.openStream, hest])
  | sendStreamData streamId data fin =>
      exact hidle _ (by simp [WtSessionInfo.sendStreamData, hterm])
  | resetStream streamId errorCode =>
      simp only [step]
      split_ifs
      · exact ⟨rfl, hentry⟩
      · exact hidle _ (by simp [WtSessionInfo.resetStream, hterm])
  | stopSending streamId errorCode =>
      simp only [step]
      split_ifs
      · exact ⟨rfl, hentry⟩
      · exact hidle _ (by simp [WtSessionInfo.stopSending, hterm])
  | sendDatagram data => exact hidle _ (by simp [WtSessionInfo.sendDatagram, hterm])
  | drainSession => exact hidle _ (by simp [WtSessionInfo.drainSession, hterm])
  | closeSession errorCode message =>
      simp only [step, closeSession, hentry, hterm, if_true, and_self]
  | receive c => exact absurd rfl (hop c)

/-- On a terminated entry a method that heeds the end is not heard of. -/
theorem call_terminated {c : Call} (hentry : sc.entry = some w) (hterm : w.isTerminated = true)
    (hwf : Wf sc.isServer w) (hallowed : c.Allowed sc.isServer sc.config sc.entry)
    (hheeds : c.Heeds w) (h : Heeded ended (some w) past) : GoesOn ended past sc (sc.call c) := by
  have hest : w.isEstablished = false := h.terminated w rfl hterm
  have hnot : ∀ w', sc.entry = some w' → w'.isTerminated ≠ false := by
    intro w' hw' hlive
    rw [hentry] at hw'
    cases hw'
    rw [hterm] at hlive
    cases hlive
  have hkept : ∀ sc' : SessionScope, sc'.effects = sc.effects →
      (∀ w', sc'.entry = some w' → w'.isTerminated = true ∧ w'.isEstablished = false) →
      GoesOn ended past sc sc' :=
    fun sc' heffects => goesOn_still h (heffects.trans (List.append_nil _).symm) .none
  cases c with
  | request w events => exact hheeds.elim
  | establish headers => exact absurd hheeds (hnot w hentry)
  | beRejected status => exact absurd hheeds (hnot w hentry)
  | markEstablished => exact absurd hheeds (hnot w hentry)
  | reject status rv =>
      obtain ⟨es, heffects, -, hstill⟩ := reject_effects status rv sc
      exact goesOn_still h heffects (hstill (hheeds.1 hterm)) (reject_entry hentry status rv hheeds.2)
  | recvEstablished data =>
      obtain ⟨w', hw', hlive, -⟩ := hallowed
      exact absurd hlive (hnot w' hw')
  | bufferPreAccept data =>
      obtain ⟨w', hw', hlive, -⟩ := hallowed
      exact absurd hlive (hnot w' hw')
  | terminatePreAcceptEndStreamSession =>
      obtain ⟨w', hw', hlive, -⟩ := hallowed
      exact absurd hlive (hnot w' hw')
  | sendInitialLimits =>
      obtain ⟨w', hw', hlive, -⟩ := hallowed
      exact absurd hlive (hnot w' hw')
  | handleEndStream =>
      simp only [call, handleEndStream, hentry, hterm, hest, Bool.not_false, or_true, if_true,
        Bool.not_true, Bool.false_eq_true, and_false, if_false]
      refine hkept _ rfl ?_
      intro w' hw'
      rw [hentry] at hw'
      cases hw'
      exact ⟨hterm, hest⟩
  | clearBuffer =>
      refine hkept _ rfl ?_
      simp only [call, clearBuffer, hentry, Option.map_some]
      intro w' hw'
      cases hw'
      exact ⟨hterm, hest⟩
  | drain => exact processCapsules_goesOn hentry hwf h []
  | streamClose errorCode =>
      simp only [call, closeStream, hentry]
      refine goesOn_still h ((List.append_assoc _ _ _).trans (List.append_assoc _ _ _)) ?_ ?_
      · refine ⟨rfl, ?_⟩
        intro e he
        rw [List.mem_singleton.1 he]
      · exact fun w' hw' => by cases hw'
  | api op =>
      obtain ⟨heffects, hsame⟩ := step_terminated hentry hterm hest op hallowed
      refine hkept _ heffects ?_
      intro w' hw'
      rw [show (sc.call (.api op)).entry = some w from hsame] at hw'
      cases hw'
      exact ⟨hterm, hest⟩

/-- A method on an entry goes on, if it heeds the end. -/
theorem call_heeded {c : Call} (hentry : sc.entry = some w) (hwf : Wf sc.isServer w)
    (hallowed : c.Allowed sc.isServer sc.config sc.entry) (hheeds : c.Heeds w)
    (h : Heeded ended (some w) past) : GoesOn ended past sc (sc.call c) := by
  cases hterm : w.isTerminated with
  | false => exact call_live hentry hterm hwf hallowed hheeds h
  | true => exact call_terminated hentry hterm hwf hallowed hheeds h

/-- Without an entry the plain methods are not heard of. -/
theorem plain_gone {c : Call} (hentry : sc.entry = none) (hplain : c.isPlain = true)
    (hallowed : c.Allowed sc.isServer sc.config sc.entry) (h : Heeded ended none past) :
    GoesOn ended past sc (sc.call c) := by
  have hkept : ∀ sc' : SessionScope, sc'.effects = sc.effects → sc'.entry = none →
      GoesOn ended past sc sc' := by
    intro sc' heffects hnone
    apply goesOn_still h (heffects.trans (List.append_nil _).symm) .none
    intro w' hw'
    rw [hnone] at hw'
    cases hw'
  have hidle : ∀ sc' : SessionScope, sc' = sc → GoesOn ended past sc sc' := by
    rintro _ rfl
    exact hkept _ rfl hentry
  cases c with
  | request w events => cases hplain
  | establish headers => cases hplain
  | beRejected status => cases hplain
  | reject status rv => cases hplain
  | markEstablished => cases hplain
  | recvEstablished data =>
      obtain ⟨w', hw', -⟩ := hallowed
      rw [hentry] at hw'
      cases hw'
  | bufferPreAccept data =>
      obtain ⟨w', hw', -⟩ := hallowed
      rw [hentry] at hw'
      cases hw'
  | terminatePreAcceptEndStreamSession =>
      obtain ⟨w', hw', -⟩ := hallowed
      rw [hentry] at hw'
      cases hw'
  | sendInitialLimits =>
      obtain ⟨w', hw', -⟩ := hallowed
      rw [hentry] at hw'
      cases hw'
  | handleEndStream => exact hidle _ (by simp only [call, handleEndStream, hentry])
  | clearBuffer =>
      refine hkept _ rfl ?_
      simp only [call, clearBuffer, hentry, Option.map_none]
  | drain => exact hidle _ (by simp only [call, processCapsules, hentry])
  | streamClose errorCode =>
      simp only [call, closeStream, hentry]
      refine goesOn_still h (List.append_assoc _ _ _) ?_ ?_
      · exact ⟨rfl, fun _ he => absurd he List.not_mem_nil⟩
      · intro w' hw'
        rw [show ((sc.perform .eraseStreamBuffers).perform .discardStreamRecvBytes).entry = none
          from hentry] at hw'
        cases hw'
  | api op => exact hidle _ (step_gone hentry op).1

end SessionScope

/-! ## Seen from a session id -/

/-- What the session did behind `base`, as its view shows it. -/
structure View.Heeding (isServer : Bool) (ended : Prop) (base : List Effect) (v : View) : Prop where
  wf : ∀ w, v.entry = some w → WtSessionInfo.Wf isServer w
  done : ∃ es, v.effects = base ++ es ∧ Effect.Heeded ended v.entry es

section Called

variable {isServer : Bool} {config : H2SessionConfig} {sessionId : Int} {v v' : View} {c : Call}
  {calls : List Call} {ended : Prop} {base : List Effect}

theorem Called.heeding (h : Called isServer config sessionId v c v')
    (hv : v.Heeding isServer ended base) (hheeds : ∀ w, v.entry = some w → c.Heeds w)
    (hgone : v.entry = none → c.isPlain = true) : v'.Heeding isServer ended base := by
  obtain ⟨hallowed, rfl⟩ := h
  obtain ⟨past, heffects, hheeded⟩ := hv.done
  have hsound : SessionScope.Sound isServer (v.scope isServer config sessionId) := ⟨rfl, hv.wf⟩
  have hon : SessionScope.GoesOn ended past (v.scope isServer config sessionId)
      ((v.scope isServer config sessionId).call c) := by
    cases hentry : v.entry with
    | none =>
        rw [hentry] at hheeded
        exact SessionScope.plain_gone hentry (hgone hentry) hallowed hheeded
    | some w =>
        rw [hentry] at hheeded
        exact SessionScope.call_heeded hentry (hv.wf w hentry) hallowed (hheeds w hentry) hheeded
  obtain ⟨es, hes, hheeded'⟩ := hon
  have hes' : ((v.scope isServer config sessionId).call c).effects = es := hes.trans (List.nil_append es)
  refine ⟨(hsound.call c hallowed).2, past ++ es, ?_, hheeded'⟩
  rw [← List.append_assoc, ← heffects, ← hes']
  rfl

theorem path_plain (h : Path (Called isServer config sessionId) v calls v')
    (hv : v.Heeding isServer ended base) (hplain : ∀ c ∈ calls, c.isPlain = true) :
    v'.Heeding isServer ended base := by
  induction calls generalizing v with
  | nil =>
      cases h
      exact hv
  | cons c calls ih =>
      obtain ⟨mid, hcalled, hrest⟩ := h
      have hc := hplain c List.mem_cons_self
      apply ih hrest _ fun c' hc' => hplain c' (List.mem_cons_of_mem c hc')
      exact hcalled.heeding hv (fun w _ => Call.heeds_of_plain hc w) fun _ => hc

/-- The first of the methods heeds the end of the entry, and the others are plain. -/
def Call.Heeding (entry : Option WtSessionInfo) : List Call → Prop
  | [] => True
  | c :: calls => (∀ w, entry = some w → c.Heeds w) ∧ ∀ c' ∈ calls, c'.isPlain = true

theorem path_heeding {w : WtSessionInfo} (h : Path (Called isServer config sessionId) v calls v')
    (hv : v.Heeding isServer ended base) (hentry : v.entry = some w)
    (hcalls : Call.Heeding v.entry calls) : v'.Heeding isServer ended base := by
  cases calls with
  | nil =>
      cases h
      exact hv
  | cons c calls =>
      obtain ⟨mid, hcalled, hrest⟩ := h
      refine path_plain hrest (hcalled.heeding hv hcalls.1 ?_) hcalls.2
      intro hnone
      rw [hentry] at hnone
      cases hnone

/-- A terminated entry is not established. -/
def View.Settled (v : View) : Prop :=
  ∀ w, v.entry = some w → w.isTerminated = true → w.isEstablished = false

theorem View.Heeding.settled (h : v.Heeding isServer ended base) : v.Settled := by
  obtain ⟨es, -, hheeded⟩ := h.done
  exact hheeded.terminated

theorem View.Settled.heeding (h : v.Settled) (hwf : ∀ w, v.entry = some w → WtSessionInfo.Wf isServer w) :
    v.Heeding isServer (∃ w, v.entry = some w ∧ w.isTerminated = true) v.effects :=
  ⟨hwf, [], (List.append_nil _).symm, .start h⟩

/-- A new entry is live. -/
theorem Called.settled_of_none (h : Called isServer config sessionId v c v') (hentry : v.entry = none) :
    v'.Settled := by
  obtain ⟨hallowed, rfl⟩ := h
  intro w hw hterm
  cases hrequests : c.requests with
  | false =>
      have hgone := @SessionScope.call_gone (v.scope isServer config sessionId) hentry rfl c hrequests
      have hnone : (v.call isServer config sessionId c).entry = none := hgone.1
      rw [hnone] at hw
      cases hw
  | true =>
      cases c with
      | request w' events =>
          have hnew := (SessionScope.foldl_pushEvent_effects events
            ((v.scope isServer config sessionId).setEntry w')).1
          have hsame : some w' = some w := hnew.symm.trans hw
          cases hsame
          rw [hallowed.1.live] at hterm
          cases hterm
      | _ => cases hrequests

theorem path_settled (h : Path (Called isServer config sessionId) v calls v')
    (hwf : ∀ w, v.entry = some w → WtSessionInfo.Wf isServer w) (hv : v.Settled)
    (hcalls : Call.Heeding v.entry calls) : v'.Settled := by
  cases hentry : v.entry with
  | some w => exact (path_heeding h (hv.heeding hwf) hentry hcalls).settled
  | none =>
      cases calls with
      | nil =>
          cases h
          exact hv
      | cons c calls =>
          obtain ⟨mid, hcalled, hrest⟩ := h
          have hmid := hcalled.settled_of_none hentry
          have hwf' := H2Session.path_sound (Path.one hcalled) hwf
          exact (path_plain hrest (hmid.heeding hwf') hcalls.2).settled

end Called

/-! ## Inputs that heed the end -/

namespace H2Session

/-- The header block of a response that is not informational. -/
def isFinalResponse (headers : HeaderList) : Bool :=
  let isSuccess := headers.any fun h => h.1 = ascii ":status" && h.2.head? = some 50
  let status := (lastHeader headers (ascii ":status")).getD []
  isSuccess || decide (status ≠ [] ∧ status.head? ≠ some 49 ∧ status.head? ≠ some 50)

/-- `is_terminated` of an entry -/
def hasTerminated (s : H2Session) (sessionId : Int) : Bool :=
  (s.wtSessions.find? sessionId).any WtSessionInfo.isTerminated

/-- `is_established` of an entry -/
def hasEstablished (s : H2Session) (sessionId : Int) : Bool :=
  (s.wtSessions.find? sessionId).any WtSessionInfo.isEstablished

/-- `accept_session` and `reject_session` get as far as their response. -/
def responds (s : H2Session) (streamId : Int) : Bool :=
  s.isServer && decide (0 < streamId) && decide (streamId % 2 ≠ 0)

/-- nghttp2 reports a request, and returns the id of a submitted one, on new streams only. -/
def RequestsAnew (s : H2Session) : Input → Prop
  | .endHeaders streamId _ => s.isServer = true → s.wtSessions.find? streamId = none
  | .connect _ _ streamId _ => s.wtSessions.find? streamId = none
  | _ => True

/-- No method that does not look at `is_terminated` comes upon the terminated session: no response
arrives for it, it is not accepted, and a rejection of it does not fail.  Nor does a 2xx rejection
come upon an established session. -/
def Heedful (sessionId : Int) (s : H2Session) : Input → Prop
  | .endHeaders streamId _ =>
      streamId = sessionId → s.isServer = false → s.hasTerminated sessionId = true →
        isFinalResponse ((s.pendingHeaders.find? sessionId).getD []) = false
  | .acceptSession streamId rv _ _ =>
      streamId = sessionId → s.responds sessionId = true → s.hasTerminated sessionId = true →
        rv ≠ none
  | .rejectSession streamId status rv =>
      streamId = sessionId → s.responds sessionId = true → 200 ≤ status → status < 600 →
        (s.hasTerminated sessionId = true → rv = none) ∧
          (s.hasEstablished sessionId = true → status / 100 ≠ 2)
  | _ => True

instance (s : H2Session) (input : Input) : Decidable (s.RequestsAnew input) :=
  match input with
  | .endHeaders _ _ => inferInstanceAs (Decidable (_ → _))
  | .connect _ _ _ _ => inferInstanceAs (Decidable (_ = _))
  | .recvSettingsEntry _ _ | .beginHeaders _ | .recvHeader _ _ _ | .endTrailers _ | .recvData _ _ _
  | .remoteEndStream _ | .shutdown _ _ | .write _ | .readError _ | .acceptSession _ _ _ _
  | .rejectSession _ _ _ | .openStream _ _ | .sendStreamData _ _ _ _ | .resetStream _ _ _
  | .stopSending _ _ _ | .sendDatagram _ _ | .closeSession _ _ _ | .drainSession _ | .nextEvent =>
      isTrue trivial

instance (sessionId : Int) (s : H2Session) (input : Input) : Decidable (Heedful sessionId s input) :=
  match input with
  | .endHeaders _ _ => inferInstanceAs (Decidable (_ → _ → _ → _))
  | .acceptSession _ _ _ _ => inferInstanceAs (Decidable (_ → _ → _ → _))
  | .rejectSession _ _ _ => inferInstanceAs (Decidable (_ → _ → _ → _ → _ ∧ _))
  | .recvSettingsEntry _ _ | .beginHeaders _ | .recvHeader _ _ _ | .endTrailers _ | .recvData _ _ _
  | .remoteEndStream _ | .shutdown _ _ | .write _ | .readError _ | .connect _ _ _ _ | .openStream _ _
  | .sendStreamData _ _ _ _ | .resetStream _ _ _ | .stopSending _ _ _ | .sendDatagram _ _
  | .closeSession _ _ _ | .drainSession _ | .nextEvent => isTrue trivial

section Inputs

variable {entry : Option WtSessionInfo} {sessionId streamId : Int} {s : H2Session}

theorem heeding_plain {calls : List Call} (h : ∀ c ∈ calls, c.isPlain = true) :
    Call.Heeding entry calls := by
  cases calls with
  | nil => trivial
  | cons c calls =>
      refine ⟨fun w _ => Call.heeds_of_plain (h c List.mem_cons_self) w, ?_⟩
      exact fun c' hc' => h c' (List.mem_cons_of_mem c hc')

theorem onSession_plain {c : Call} (h : c.isPlain = true) :
    ∀ c' ∈ onSession sessionId streamId c, c'.isPlain = true := by
  intro c' hc'
  unfold onSession at hc'
  split_ifs at hc'
  · rw [List.mem_singleton.1 hc']
    exact h
  · cases hc'

theorem closesOf_plain (sessionId : Int) (callbacks : List WriteCallback) :
    ∀ c ∈ closesOf sessionId callbacks, c.isPlain = true := by
  intro c hc
  obtain ⟨callback, -, hin⟩ := List.mem_flatMap.1 hc
  cases callback with
  | streamClose streamId errorCode => exact onSession_plain rfl c hin
  | readData streamId => cases hin
  | writeStreamDataOffset streamId offset len => cases hin

theorem flushCalls_plain (s : H2Session) (sessionId : Int) (flush : List WriteCallback) :
    ∀ c ∈ s.flushCalls sessionId flush, c.isPlain = true := by
  intro c hc
  unfold flushCalls at hc
  split_ifs at hc
  · cases hc
  · exact closesOf_plain sessionId flush c hc

/-- A call on the session that heeds its end, and plain calls. -/
theorem heeding_onSession {c : Call} {calls : List Call}
    (h : streamId = sessionId → ∀ w, entry = some w → c.Heeds w)
    (hplain : ∀ c' ∈ calls, c'.isPlain = true) :
    Call.Heeding entry (onSession sessionId streamId c ++ calls) := by
  unfold onSession
  split_ifs with heq
  · exact ⟨h heq, hplain⟩
  · exact heeding_plain hplain

theorem heeding_onSession_only {c : Call}
    (h : streamId = sessionId → ∀ w, entry = some w → c.Heeds w) :
    Call.Heeding entry (onSession sessionId streamId c) := by
  have hheeding := @heeding_onSession entry sessionId streamId c [] h
    fun _ hc => absurd hc List.not_mem_nil
  rwa [List.append_nil] at hheeding

theorem heeding_rejectCalls {status : Int} {rv : Option NgError}
    (h : streamId = sessionId → s.responds sessionId = true → 200 ≤ status → status < 600 →
      ∀ w, entry = some w → (Call.reject status rv).Heeds w) :
    Call.Heeding entry (s.rejectCalls sessionId streamId status rv) := by
  unfold rejectCalls
  split_ifs with hcond
  · apply heeding_onSession_only
    rintro rfl
    obtain ⟨hserver, hpos, hodd, hlow, hhigh⟩ := hcond
    exact h rfl (by simp [responds, hserver, hpos, hodd]) hlow hhigh
  · trivial

theorem requestCalls_heeding {headers : HeaderList} {rv : Option NgError}
    (hnew : streamId = sessionId → entry = none) :
    Call.Heeding entry (s.requestCalls sessionId streamId headers rv) := by
  have hnone : ∀ c : Call, streamId = sessionId → ∀ w, entry = some w → c.Heeds w := by
    intro c heq w hw
    rw [hnew heq] at hw
    cases hw
  have hreject (status : Int) : Call.Heeding entry (s.rejectCalls sessionId streamId status rv) :=
    heeding_rejectCalls fun heq _ _ _ => hnone _ heq
  unfold requestCalls
  split_ifs
  · exact hreject 403
  · cases s.requestedSession streamId headers with
    | none => exact hreject 400
    | some w => exact heeding_onSession_only (hnone _)
  · exact hreject 405

theorem responseCalls_heeding {headers : HeaderList}
    (hlive : streamId = sessionId → isFinalResponse headers = true →
      ∀ w, entry = some w → w.isTerminated = false) :
    Call.Heeding entry (s.responseCalls sessionId streamId headers) := by
  unfold responseCalls
  dsimp only
  split_ifs with hsuccess hfinal
  · apply heeding_onSession_only
    intro heq
    apply hlive heq
    unfold isFinalResponse
    dsimp only
    rw [(Bool.and_eq_true_iff.1 hsuccess).1, Bool.true_or]
  · apply heeding_onSession_only
    intro heq
    apply hlive heq
    unfold isFinalResponse
    dsimp only
    rw [decide_eq_true hfinal, Bool.or_true]
  · trivial

theorem finishCalls_plain (s : H2Session) (resetFlush : List WriteCallback) :
    ∀ c ∈ s.finishCalls sessionId streamId resetFlush, c.isPlain = true := by
  intro c hc
  unfold finishCalls at hc
  cases hentry : s.wtSessions.find? streamId with
  | none =>
      rw [hentry] at hc
      cases hc
  | some w =>
      rw [hentry] at hc
      dsimp only at hc
      split_ifs at hc
      · cases hc
      · rcases List.mem_append.1 hc with hc | hc
        · exact onSession_plain rfl c hc
        · exact flushCalls_plain s sessionId resetFlush c hc
      · rcases List.mem_append.1 hc with hc | hc
        · exact onSession_plain rfl c hc
        · cases hc
      · exact onSession_plain rfl c hc

theorem hasTerminated_of_find {w : WtSessionInfo} (h : s.wtSessions.find? sessionId = some w) :
    s.hasTerminated sessionId = w.isTerminated := by
  unfold hasTerminated
  rw [h]
  rfl

/-- An input that heeds the end of a session makes methods that do. -/
theorem callsOf_heeding (input : Input) (hnew : s.RequestsAnew input) (h : s.Heedful sessionId input) :
    Call.Heeding (s.wtSessions.find? sessionId) (s.callsOf sessionId input) := by
  cases input with
  | endHeaders streamId rv =>
      simp only [callsOf, headerCalls]
      cases hpending : s.pendingHeaders.find? streamId with
      | none => trivial
      | some headers =>
          dsimp only
          split_ifs with hserver
          · apply requestCalls_heeding
            rintro rfl
            exact hnew hserver
          · apply responseCalls_heeding
            rintro rfl hfinal w hw
            have hinformational := h rfl (Bool.eq_false_of_not_eq_true hserver)
            rw [hasTerminated_of_find hw, hpending] at hinformational
            cases hterm : w.isTerminated with
            | false => rfl
            | true =>
                have hnot := hinformational hterm
                rw [Option.getD_some, hfinal] at hnot
                cases hnot
  | recvData streamId data rv =>
      simp only [callsOf, dataCalls]
      cases hentry : s.wtSessions.find? streamId with
      | none => trivial
      | some w =>
          dsimp only
          split_ifs with hterm hempty hest hrole hlimit
          · trivial
          · trivial
          · exact heeding_plain (onSession_plain rfl)
          · trivial
          · apply heeding_rejectCalls
            rintro rfl - - - w' hw'
            rw [hentry] at hw'
            cases hw'
            exact ⟨fun hterm' => absurd hterm' hterm, fun _ => by decide⟩
          · exact heeding_plain (onSession_plain rfl)
  | connect url origin streamId flush =>
      simp only [callsOf, connectCalls]
      split_ifs
      · trivial
      · trivial
      · trivial
      · cases parseAuthorityPath url <;> trivial
      · cases parseAuthorityPath url with
        | none => trivial
        | some authority =>
            apply heeding_onSession _ (flushCalls_plain s sessionId flush)
            rintro rfl w hw
            rw [show s.wtSessions.find? streamId = none from hnew] at hw
            cases hw
  | acceptSession streamId rv flush resetFlush =>
      simp only [callsOf, acceptCalls]
      split_ifs with hrefused
      · trivial
      · cases rv with
        | some err => exact heeding_plain (onSession_plain rfl)
        | none =>
            dsimp only
            rw [List.append_assoc, List.append_assoc]
            apply heeding_onSession
            · rintro rfl w hw
              have hresponds : s.responds streamId = true := by
                simp only [not_or, Bool.not_eq_true', Bool.not_eq_false, not_le] at hrefused
                simp [responds, hrefused]
              have hnot := h rfl hresponds
              rw [hasTerminated_of_find hw] at hnot
              cases hterm : w.isTerminated with
              | false => exact hterm
              | true => exact absurd rfl (hnot hterm)
            · intro c hc
              rcases List.mem_append.1 hc with hc | hc
              · exact flushCalls_plain _ _ _ c hc
              · rcases List.mem_append.1 hc with hc | hc
                · exact onSession_plain rfl c hc
                · exact finishCalls_plain _ _ c hc
  | rejectSession streamId status rv =>
      apply heeding_rejectCalls
      rintro rfl hresponds hlow hhigh w hw
      have hboth := h rfl hresponds hlow hhigh
      rw [hasTerminated_of_find hw, hasEstablished, hw] at hboth
      exact hboth
  | write callback => exact heeding_plain (closesOf_plain sessionId [callback])
  | recvSettingsEntry id value => trivial
  | beginHeaders streamId => trivial
  | recvHeader streamId name value => trivial
  | endTrailers streamId => trivial
  | shutdown lastStreamId errorCode => trivial
  | readError err => trivial
  | nextEvent => trivial
  | _ => exact heeding_plain (onSession_plain rfl)

end Inputs

/-! ## Runs -/

/-- The input is possible, and no method that does not look at `is_terminated` comes upon the session
when it is over. -/
def Undisturbed (sessionId : Int) (s : H2Session) (input : Input) : Prop :=
  s.RequestsAnew input ∧ s.Heedful sessionId input

instance (sessionId : Int) (s : H2Session) (input : Input) :
    Decidable (Undisturbed sessionId s input) := inferInstanceAs (Decidable (_ ∧ _))

/-- It comes upon the entry of the session. -/
def UndisturbedLife (sessionId : Int) (s : H2Session) (input : Input) : Prop :=
  Undisturbed sessionId s input ∧ s.wtSessions.find? sessionId ≠ none

instance (sessionId : Int) (s : H2Session) (input : Input) :
    Decidable (UndisturbedLife sessionId s input) := inferInstanceAs (Decidable (_ ∧ _))

section Runs

variable {isServer : Bool} {config : H2SessionConfig} {sessionId : Int} {s s' : H2Session}
  {w : WtSessionInfo} {ended : Prop} {base : List Effect}

/-- What holds of a connection between two inputs. -/
structure Orderly (isServer : Bool) (config : H2SessionConfig) (sessionId : Int) (s : H2Session) :
    Prop where
  role : s.isServer = isServer
  config : s.config = config
  wf : ∀ w, (s.view sessionId).entry = some w → WtSessionInfo.Wf isServer w
  settled : (s.view sessionId).Settled

theorem step_orderly (h : Orderly isServer config sessionId s) {input : Input}
    (hinput : Undisturbed sessionId s input) : Orderly isServer config sessionId (s.step input) := by
  obtain ⟨hpath, hrole, hconfig⟩ := step_calls s sessionId input
  rw [h.role, h.config] at hpath
  refine ⟨hrole.trans h.role, hconfig.trans h.config, path_sound hpath h.wf, ?_⟩
  exact path_settled hpath h.wf h.settled (callsOf_heeding input hinput.1 hinput.2)

theorem run_orderly (h : create isServer config = .ok s) {inputs : List Input}
    (hrun : Path (Guarded step (Undisturbed sessionId)) s inputs s') :
    Orderly isServer config sessionId s' := by
  refine hrun.invariant (Orderly isServer config sessionId) ?_ ?_
  · rintro a b input ha ⟨hinput, rfl⟩
    exact step_orderly ha hinput
  · obtain ⟨hview, hrole, hconfig⟩ := create_view h sessionId
    refine ⟨hrole, hconfig, ?_, ?_⟩
    · rw [hview]
      exact fun w hw => by cases hw
    · rw [hview]
      exact fun w hw => by cases hw

/-- What the session does from one of its states on. -/
theorem run_heeding (h : Orderly isServer config sessionId s) {inputs : List Input}
    (hrun : Path (Guarded step (UndisturbedLife sessionId)) s inputs s') :
    (s'.view sessionId).Heeding isServer
      (∃ w, (s.view sessionId).entry = some w ∧ w.isTerminated = true) (s.view sessionId).effects := by
  have hinv := hrun.invariant (fun a => Orderly isServer config sessionId a ∧
    (a.view sessionId).Heeding isServer
      (∃ w, (s.view sessionId).entry = some w ∧ w.isTerminated = true) (s.view sessionId).effects)
    ?_ ⟨h, h.settled.heeding h.wf⟩
  · exact hinv.2
  · rintro a b input ⟨hordered, hheeding⟩ ⟨⟨hinput, halive⟩, rfl⟩
    refine ⟨step_orderly hordered hinput, ?_⟩
    obtain ⟨hpath, -, -⟩ := step_calls a sessionId input
    rw [hordered.role, hordered.config] at hpath
    obtain ⟨w, hentry⟩ := Option.ne_none_iff_exists'.1 halive
    exact path_heeding hpath hheeding hentry (callsOf_heeding input hinput.1 hinput.2)

/-- In a run in which nobody disturbs the end of the session, from any of its states up to the input
that removes its entry: nothing is queued behind WT_CLOSE_SESSION, which terminates the session, and
a terminated session is not established, opens no stream, queues no capsule and tells of nothing but
`SessionClosed`. -/
theorem end_is_absorbing {s₀ : H2Session} (h : create isServer config = .ok s₀)
    {front back : List Input} (hfront : Path (Guarded step (Undisturbed sessionId)) s₀ front s)
    (hback : Path (Guarded step (UndisturbedLife sessionId)) s back s')
    (hentry : s.wtSessions.find? sessionId = some w) :
    ∃ es, effectsOf sessionId s'.trace = effectsOf sessionId s.trace ++ es ∧
      Capsule.ClosesLast (Effect.capsules es) ∧
      (∀ c ∈ Effect.capsules es, c.isClose = true →
        ∀ w', s'.wtSessions.find? sessionId = some w' → w'.isTerminated = true) ∧
      (w.isTerminated = true →
        w.isEstablished = false ∧ (∀ isUni, (s.openStream sessionId isUni).2 = -1) ∧
        Effect.Still es ∧
        ∀ w', s'.wtSessions.find? sessionId = some w' → w'.isTerminated = true) := by
  have hordered := run_orderly h hfront
  obtain ⟨es, heffects, hheeded⟩ := (run_heeding hordered hback).done
  have hview : (s.view sessionId).entry = some w := hentry
  have hstays (w' : WtSessionInfo) (hw' : s'.wtSessions.find? sessionId = some w')
      (hnot : w'.isTerminated = false → False) : w'.isTerminated = true :=
    Bool.eq_true_of_not_eq_false hnot
  refine ⟨es, heffects, hheeded.closesLast, ?_, ?_⟩
  · intro c hc hclose w' hw'
    apply hstays w' hw'
    intro hlive
    have hopen := (hheeded.live w' hw' hlive).2 c hc
    rw [hclose] at hopen
    cases hopen
  · intro hterm
    have hest := hordered.settled w hview hterm
    refine ⟨hest, ?_, hheeded.still ⟨w, hview, hterm⟩, ?_⟩
    · intro isUni
      unfold openStream
      rw [hentry]
      simp [WtSessionInfo.openStream, hest]
    · intro w' hw'
      apply hstays w' hw'
      intro hlive
      exact (hheeded.live w' hw' hlive).1 ⟨w, hview, hterm⟩

end Runs

/-- The server closes the session, and the application goes on as if it had not. -/
def closedAndUsed : List Input × List Input :=
  (openSession 1 ++ [.closeSession 1 5 []],
    [.openStream 1 false, .sendDatagram 1 [7], .closeSession 1 6 [], .write (.streamClose 1 none)])

theorem end_is_absorbing_used :
    ∃ s₀ s s' : H2Session, create true {} = .ok s₀ ∧ s.hasTerminated 1 = true ∧
      s'.wtSessions.find? 1 = none ∧
      ∃ es, effectsOf 1 s'.trace = effectsOf 1 s.trace ++ es ∧ Effect.Still es := by
  let s₀ : H2Session := { isServer := true, config := {} }
  have hcreate : create true {} = .ok s₀ := rfl
  have hfront : Path (Guarded step (Undisturbed 1)) s₀ closedAndUsed.1 (s₀.run closedAndUsed.1) :=
    Guarded.path (by decide +kernel)
  have hback : Path (Guarded step (UndisturbedLife 1)) (s₀.run closedAndUsed.1) closedAndUsed.2
      ((s₀.run closedAndUsed.1).run closedAndUsed.2) := Guarded.path (by decide +kernel)
  have hterm : (s₀.run closedAndUsed.1).hasTerminated 1 = true := by decide +kernel
  have hgone : ((s₀.run closedAndUsed.1).run closedAndUsed.2).wtSessions.find? 1 = none := by
    decide +kernel
  obtain ⟨w, hentry, hw⟩ := (Option.any_eq_true _ _).1 hterm
  obtain ⟨es, heffects, -, -, hended⟩ := end_is_absorbing hcreate hfront hback hentry
  exact ⟨s₀, _, _, hcreate, hterm, hgone, es, heffects, (hended hw).2.2.1⟩

/-- A client closes its session before the response comes. -/
def closedEarly : List Input :=
  [.recvSettingsEntry 0x08 1, .recvSettingsEntry 0x2b60 1, .recvSettingsEntry 0x2b65 1,
    .connect (ascii "https://a/") [] 1 [], .closeSession 1 0 []]

/-- The server accepts. -/
def lateResponse : List Input :=
  [.beginHeaders 1, .recvHeader 1 (ascii ":status") (ascii "200"), .endHeaders 1 none]

/-- The response establishes the terminated session: its initial limits are queued behind
WT_CLOSE_SESSION, `SessionReady` is pushed, and it opens a stream. -/
theorem late_response_reopens :
    ∃ s : H2Session, create false {} = .ok s ∧
      (s.run closedEarly).hasTerminated 1 = true ∧
      (s.run (closedEarly ++ lateResponse)).hasTerminated 1 = true ∧
      (s.run (closedEarly ++ lateResponse)).hasEstablished 1 = true ∧
      ((s.run (closedEarly ++ lateResponse)).openStream 1 false).2 = 0 ∧
      ((s.run (closedEarly ++ lateResponse)).events.map H2Event.type) = [.sessionReady] ∧
      ¬ Capsule.ClosesLast
        (Effect.capsules (effectsOf 1 (s.run (closedEarly ++ lateResponse)).trace)) := by
  refine ⟨{ isServer := false, config := {} }, rfl, ?_, ?_, ?_, ?_, ?_, ?_⟩
  · decide +kernel
  · decide +kernel
  · decide +kernel
  · decide +kernel
  · decide +kernel
  · have hcapsules : Effect.capsules (effectsOf 1
        (run { isServer := false, config := {} } (closedEarly ++ lateResponse)).trace) =
        [.wtCloseSession 0 [], .wtMaxData 1048576, .wtMaxStreamsBidi 100, .wtMaxStreamsUni 100] := by
      decide +kernel
    rw [hcapsules]
    intro hlast
    have hnone := hlast [] _ _ rfl rfl
    cases hnone

end H2Session

end H2
end WebTransport
