import WebTransport.H2.Bounds
import WebTransport.H2.EndMark
import WebTransport.H2.Opening

/-!
# H2.Acceptance — what comes before `accept_session` is handled as if it came behind it

A server that has not accepted a session yet only buffers its bytes, and notes an END_STREAM on the
entry.  `accept_session` drains the buffer and then acts on the note.  That is a second path to the
same handlers, and it has to lead to the same end as the first one.

* `SessionScope.drained`        : an entry that has taken in some bytes;
* `H2Session.acceptThenReceive` : the plain order;
* `H2Session.receiveThenAccept` : the other one;
* `acceptance_transparent`      : the same entry, and the same effects in the same order.
-/

namespace WebTransport
namespace H2

open Bindings
open WtSessionInfo (Wf)

/-- All effects but the receive credit that is given back. -/
def Effect.shown (es : List Effect) : List Effect :=
  es.filter fun
    | .consumeRecvBytes _ => false
    | _ => true

@[simp] theorem Effect.shown_append (es es' : List Effect) :
    Effect.shown (es ++ es') = Effect.shown es ++ Effect.shown es' :=
  List.filter_append _ _

/-- The session entry behind a 2xx. -/
@[simps]
def WtSessionInfo.accepted (w : WtSessionInfo) : WtSessionInfo := { w with isEstablished := true }

theorem Effect.shown_capsules (cs : List Capsule) :
    Effect.shown (cs.map .capsule) = cs.map .capsule := by
  refine List.filter_eq_self.2 ?_
  intro e he
  rcases List.mem_map.1 he with ⟨c, -, rfl⟩
  rfl

/-- The events are among them. -/
theorem Effect.events_shown (es : List Effect) :
    Effect.events (Effect.shown es) = Effect.events es := by
  induction es with
  | nil => rfl
  | cons e es ih =>
      have hfront : Effect.events (Effect.shown [e]) = Effect.events [e] := by
        cases e <;> rfl
      have hsplit : e :: es = [e] ++ es := rfl
      rw [hsplit, Effect.shown_append, Effect.events_append, Effect.events_append, hfront, ih]

namespace SessionScope

/-! ## Taking in bytes -/

/-- A server's session with an entry, before anything is done. -/
def scopeOf (config : H2SessionConfig) (sessionId : Int) (entry : Option WtSessionInfo) :
    SessionScope :=
  { isServer := true, config := config, sessionId := sessionId, entry := entry }

/-- The entry has taken in `data`. -/
def drained (config : H2SessionConfig) (sessionId : Int) (entry : Option WtSessionInfo)
    (data : Bytes) : SessionScope :=
  (scopeOf config sessionId entry).processCapsules data

section Drained

variable {config : H2SessionConfig} {sessionId : Int} {entry : Option WtSessionInfo}
  {w v : WtSessionInfo} {sc : SessionScope}

theorem processCapsules_past (es : List Effect) (sc : SessionScope) (data : Bytes) :
    (sc.past es).processCapsules data = (sc.processCapsules data).past es := by
  have happend : (sc.past es).appendBuffer data = (sc.appendBuffer data).past es := rfl
  rw [processCapsules_eq_loop, processCapsules_eq_loop, happend, loop_past]

/-- What was taken in before only stays in front. -/
theorem drained_append (a b : Bytes) :
    drained config sessionId entry (a ++ b) =
      (drained config sessionId (drained config sessionId entry a).entry b).past
        (drained config sessionId entry a).effects := by
  have hidentity := processCapsules_identity (scopeOf config sessionId entry) a
  have hself : drained config sessionId entry a =
      (scopeOf config sessionId (drained config sessionId entry a).entry).past
        (drained config sessionId entry a).effects := by
    have hrole : (drained config sessionId entry a).isServer = true := congrArg Prod.fst hidentity
    have hconfig : (drained config sessionId entry a).config = config :=
      congrArg (fun i => i.2.1) hidentity
    have hid : (drained config sessionId entry a).sessionId = sessionId :=
      congrArg (fun i => i.2.2) hidentity
    generalize drained config sessionId entry a = p at hrole hconfig hid ⊢
    cases p
    cases hrole
    cases hconfig
    cases hid
    simp only [past, scopeOf, List.append_nil]
  calc
    drained config sessionId entry (a ++ b) =
        (drained config sessionId entry a).processCapsules b := (processCapsules_append _ a b).symm
    _ = ((scopeOf config sessionId (drained config sessionId entry a).entry).past
          (drained config sessionId entry a).effects).processCapsules b := by rw [← hself]
    _ = _ := processCapsules_past _ _ b

theorem drained_none (data : Bytes) :
    drained config sessionId none data = scopeOf config sessionId none := by
  simp only [drained, scopeOf, processCapsules]

/-- A terminated session takes nothing in. -/
theorem drained_terminated (hterm : w.isTerminated = true) (hbuffer : w.capsuleBuffer = [])
    (data : Bytes) :
    drained config sessionId (some w) data = scopeOf config sessionId (some w) := by
  have happended : ((scopeOf config sessionId (some w)).appendBuffer data).entry =
      some (w.withBuffer (w.capsuleBuffer ++ data)) := rfl
  have hself : (w.withBuffer (w.capsuleBuffer ++ data)).withBuffer [] = w := by
    cases w
    cases hbuffer
    rfl
  unfold drained
  rw [processCapsules_eq_loop, loop_of_stop (loopTurn_terminated happended hterm), hself]
  rfl

/-- A session that is not terminated by its capsules keeps its marks. -/
theorem processCapsules_marks {isServer : Bool} (h : Sound isServer sc) (hentry : sc.entry = some w)
    (data : Bytes) (hentry' : (sc.processCapsules data).entry = some v) :
    v.isTerminated = true ∨
      v.isEstablished = w.isEstablished ∧ v.preAcceptEndStream = w.preAcceptEndStream := by
  let Inv : SessionScope → Prop := fun sc => Sound isServer sc ∧
    ∀ v, sc.entry = some v → v.isTerminated = true ∨
      v.isEstablished = w.isEstablished ∧ v.preAcceptEndStream = w.preAcceptEndStream
  have hstart : Inv sc := by
    refine ⟨h, ?_⟩
    intro v hv
    cases hentry.symm.trans hv
    exact Or.inr ⟨rfl, rfl⟩
  have hloop : Inv (sc.processCapsules data) := by
    refine processCapsules_rule ?_ ?_ ?_ (eachTurn_true _) hstart
    · intro sc w₁ buffer hentry hinv
      refine ⟨hinv.1.setEntry hentry rfl rfl rfl, ?_⟩
      intro v hv
      cases hv
      exact hinv.2 w₁ hentry
    · intro sc type size payload hinv
      exact hinv
    · intro sc w₁ buffer r _ hentry hlive _ hinv
      have hwf : Wf sc.isServer (w₁.withBuffer buffer) := hinv.1.1.symm ▸ hinv.1.2 _ hentry
      refine ⟨hinv.1.react hentry hlive r, ?_⟩
      intro v hv
      rcases react_extends hentry hwf hlive r
          (fun r _ => Permits.all_admits sc.isServer _ r) with ⟨ls, w₂, ⟨hpath, hstands, -⟩, -, -⟩
      have hstage : w₂.stage = (w₁.withBuffer buffer).stage :=
        hpath.invariant (fun u => u.stage = (w₁.withBuffer buffer).stage)
          (fun heq hstep => hstep.stage_eq.trans heq) rfl
      rw [hv] at hstands
      cases hstands with
      | live =>
          rcases hinv.2 _ hentry with hended | ⟨hmark, hnote⟩
          · exact absurd (hlive.symm.trans hended) Bool.false_ne_true
          · exact Or.inr ⟨(congrArg Prod.fst hstage).trans hmark,
              (congrArg (fun i => i.2.2.1) hstage).trans hnote⟩
      | ended => exact Or.inl rfl
      | refused hcreated =>
          rcases hcreated.exists_stream with ⟨streamId, -, -, -, rfl⟩
          exact Or.inl rfl
  exact hloop.2 v hentry'

/-- What is left in the buffer makes no difference. -/
theorem recvEstablished_shown (sc : SessionScope) (data : Bytes) :
    (sc.recvEstablished data).entry = (sc.processCapsules data).entry ∧
      Effect.shown (sc.recvEstablished data).effects =
        Effect.shown (sc.processCapsules data).effects := by
  unfold recvEstablished
  dsimp only
  cases hentry : (sc.processCapsules data).entry with
  | none => exact ⟨hentry, rfl⟩
  | some w =>
      dsimp only
      split_ifs
      · refine ⟨hentry, ?_⟩
        unfold perform
        rw [Effect.shown_append]
        exact List.append_nil _
      · exact ⟨hentry, rfl⟩

end Drained

end SessionScope

namespace H2Session

open SessionScope (scopeOf drained)

section Recv

variable {s : H2Session} {sessionId : Int} {w₀ : WtSessionInfo} {a : Bytes} {es : List Effect}

/-- A DATA frame of an established session. -/
theorem recvData_drained (hserver : s.isServer = true) (hwf : Wf true w₀)
    (hestablished : w₀.isEstablished = true)
    (hview : s.view sessionId = ⟨(drained s.config sessionId (some w₀) a).entry, es⟩)
    (data : Bytes) :
    ∃ es', (s.step (.recvData sessionId data none)).view sessionId =
        ⟨(drained s.config sessionId (some w₀) (a ++ data)).entry, es ++ es'⟩ ∧
      Effect.shown (drained s.config sessionId (some w₀) (a ++ data)).effects =
        Effect.shown (drained s.config sessionId (some w₀) a).effects ++ Effect.shown es' := by
  have hentry : s.wtSessions.find? sessionId = (drained s.config sessionId (some w₀) a).entry :=
    congrArg View.entry hview
  by_cases hempty : data.length = 0
  · have hnone : s.callsOf sessionId (.recvData sessionId data none) = [] := by
      simp only [callsOf, dataCalls, hempty]
      cases s.wtSessions.find? sessionId with
      | none => rfl
      | some v => simp only [if_true, ite_self]
    rw [List.length_eq_zero_iff.1 hempty, List.append_nil]
    rw [List.length_eq_zero_iff.1 hempty] at hnone
    refine ⟨[], ?_, (List.append_nil _).symm⟩
    rw [step_view hnone, hview, List.append_nil]
    rfl
  rw [SessionScope.drained_append]
  generalize hp : drained s.config sessionId (some w₀) a = p at hview hentry ⊢
  -- Where nothing is done, the frame changes nothing.
  have hidle : s.callsOf sessionId (.recvData sessionId data none) = [] →
      drained s.config sessionId p.entry data = scopeOf s.config sessionId p.entry →
      ∃ es', (s.step (.recvData sessionId data none)).view sessionId =
          ⟨((drained s.config sessionId p.entry data).past p.effects).entry, es ++ es'⟩ ∧
        Effect.shown ((drained s.config sessionId p.entry data).past p.effects).effects =
          Effect.shown p.effects ++ Effect.shown es' := by
    intro hnone hsame
    rw [hsame]
    refine ⟨[], ?_, ?_⟩
    · rw [step_view hnone, hview, List.append_nil]
      rfl
    · have heffects : ((scopeOf s.config sessionId p.entry).past p.effects).effects = p.effects :=
        List.append_nil _
      rw [heffects]
      exact (List.append_nil _).symm
  cases hstate : p.entry with
  | none =>
      rw [hstate] at hidle
      refine hidle ?_ (SessionScope.drained_none data)
      simp only [callsOf, dataCalls, hentry, hstate]
  | some v =>
      rw [hstate] at hidle
      have hat : ((scopeOf s.config sessionId (some w₀)).processCapsules a).entry = some v :=
        (congrArg SessionScope.entry hp).trans hstate
      have hsettled := SessionScope.processCapsules_settled hat
      cases hterm : v.isTerminated with
      | true =>
          refine hidle ?_ (SessionScope.drained_terminated hterm (hsettled.2 hterm) data)
          simp only [callsOf, dataCalls, hentry, hstate, hterm, if_true]
      | false =>
          have hsound : SessionScope.Sound true (scopeOf s.config sessionId (some w₀)) := by
            refine ⟨rfl, ?_⟩
            intro w hw
            cases hw
            exact hwf
          have hstays : v.isEstablished = true := by
            rcases SessionScope.processCapsules_marks hsound rfl a hat with hended | ⟨hsame, -⟩
            · exact absurd (hterm.symm.trans hended) Bool.false_ne_true
            · exact hsame.trans hestablished
          have hcalls : s.callsOf sessionId (.recvData sessionId data none) =
              [.recvEstablished data] := by
            simp only [callsOf, dataCalls, hentry, hstate, hterm, hstays, Bool.false_eq_true,
              if_false, hempty, if_true, onSession]
          rcases SessionScope.recvEstablished_shown (scopeOf s.config sessionId (some v)) data with
            ⟨hsame, hshown⟩
          refine ⟨((scopeOf s.config sessionId (some v)).recvEstablished data).effects, ?_, ?_⟩
          · rw [step_view hcalls, hview, hserver]
            simp only [List.foldl_cons, List.foldl_nil, View.call, hstate]
            exact congrArg₂ View.mk hsame rfl
          · rw [hshown]
            exact Effect.shown_append _ _

/-- The DATA frames of the session, one for each chunk. -/
def dataInputs (sessionId : Int) (chunks : List Bytes) : List Input :=
  chunks.map fun data => .recvData sessionId data none

theorem run_dataInputs_kept (s : H2Session) (sessionId : Int) (chunks : List Bytes) :
    (s.run (dataInputs sessionId chunks)).isServer = s.isServer ∧
      (s.run (dataInputs sessionId chunks)).config = s.config := by
  have hsees := run_calls s sessionId (dataInputs sessionId chunks)
  exact ⟨hsees.role, hsees.config⟩

/-- However the bytes are cut up, the entry takes in all of them. -/
theorem run_dataInputs_drained (hserver : s.isServer = true) (hwf : Wf true w₀)
    (hestablished : w₀.isEstablished = true)
    (hview : s.view sessionId = ⟨(drained s.config sessionId (some w₀) a).entry, es⟩)
    (chunks : List Bytes) :
    ∃ es', (s.run (dataInputs sessionId chunks)).view sessionId =
        ⟨(drained s.config sessionId (some w₀) (a ++ chunks.flatten)).entry, es ++ es'⟩ ∧
      Effect.shown (drained s.config sessionId (some w₀) (a ++ chunks.flatten)).effects =
        Effect.shown (drained s.config sessionId (some w₀) a).effects ++ Effect.shown es' := by
  induction chunks generalizing s a es with
  | nil =>
      refine ⟨[], ?_, ?_⟩
      · rw [List.flatten_nil, List.append_nil, List.append_nil]
        exact hview
      · rw [List.flatten_nil, List.append_nil]
        exact (List.append_nil _).symm
  | cons data chunks ih =>
      rcases recvData_drained hserver hwf hestablished hview data with ⟨es₁, hview₁, hshown₁⟩
      have hsees := step_calls s sessionId (.recvData sessionId data none)
      have hconfig := hsees.config
      rw [← hconfig] at hview₁
      rcases ih (hsees.role.trans hserver) hview₁ with ⟨es₂, hview₂, hshown₂⟩
      rw [hconfig, List.append_assoc] at hview₂ hshown₂
      refine ⟨es₁ ++ es₂, ?_, ?_⟩
      · rw [List.flatten_cons, ← List.append_assoc es]
        exact hview₂
      · rw [List.flatten_cons, hshown₂, hshown₁, Effect.shown_append, List.append_assoc]

/-- Before acceptance the bytes are only buffered. -/
theorem run_dataInputs_buffered (hserver : s.isServer = true) {w : WtSessionInfo}
    (hview : s.view sessionId = ⟨some w, es⟩) (hlive : w.isTerminated = false)
    (hwaiting : w.isEstablished = false) {chunks : List Bytes}
    (hfits : w.capsuleBuffer.length + chunks.flatten.length ≤ s.config.wtPreAcceptBufferLimit) :
    (s.run (dataInputs sessionId chunks)).view sessionId =
      ⟨some (w.withBuffer (w.capsuleBuffer ++ chunks.flatten)), es⟩ := by
  induction chunks generalizing s w with
  | nil =>
      rw [List.flatten_nil, List.append_nil]
      exact hview
  | cons data chunks ih =>
      have hentry : s.wtSessions.find? sessionId = some w := congrArg View.entry hview
      rw [List.flatten_cons, List.length_append] at hfits
      have hshort : ¬ s.config.wtPreAcceptBufferLimit < w.capsuleBuffer.length + data.length := by
        omega
      have hone : (s.step (.recvData sessionId data none)).view sessionId =
          ⟨some (w.withBuffer (w.capsuleBuffer ++ data)), es⟩ := by
        by_cases hempty : data.length = 0
        · have hnone : s.callsOf sessionId (.recvData sessionId data none) = [] := by
            simp only [callsOf, dataCalls, hentry, hlive, hempty, Bool.false_eq_true, if_false,
              if_true]
          rw [step_view hnone, hview, List.length_eq_zero_iff.1 hempty, List.append_nil]
          rfl
        · have hcalls : s.callsOf sessionId (.recvData sessionId data none) =
              [.bufferPreAccept data] := by
            simp only [callsOf, dataCalls, hentry, hlive, hempty, hwaiting, hserver, hshort,
              Bool.false_eq_true, Bool.not_true, if_false, if_true, onSession]
          rw [step_view hcalls, hview]
          simp only [List.foldl_cons, List.foldl_nil, View.call, SessionScope.call,
            SessionScope.bufferPreAccept, Option.map_some, List.append_nil]
          rfl
      have hsees := step_calls s sessionId (.recvData sessionId data none)
      have hrest := ih (hsees.role.trans hserver) hone hlive hwaiting (by
        rw [hsees.config, WtSessionInfo.withBuffer_capsuleBuffer, List.length_append]
        omega)
      rw [List.flatten_cons, ← List.append_assoc]
      exact hrest

end Recv

/-! ## The connection stays open -/

section Closed

variable {s : H2Session} {sessionId : Int}

theorem onReadData_closed (s : H2Session) (sessionId : Int) :
    (s.onReadData sessionId).1.closed = s.closed := by
  unfold onReadData
  cases s.http2StreamBuffers.find? sessionId <;> dsimp only <;> split <;> split_ifs <;> rfl

theorem onWrite_closed (s : H2Session) (callback : WriteCallback) :
    (s.onWrite callback).closed = s.closed := by
  cases callback with
  | readData streamId => exact onReadData_closed s streamId
  | writeStreamDataOffset streamId offset len =>
      unfold onWrite onWriteStreamDataOffset
      dsimp only
      split_ifs
      · rfl
      · cases s.http2StreamBuffers.find? streamId <;> rfl
  | streamClose streamId errorCode => exact (inScope_kept s streamId _).2.2.1

theorem flushOutput_closed (s : H2Session) (callbacks : List WriteCallback) :
    (s.flushOutput callbacks).closed = s.closed := by
  have hall : ∀ (callbacks : List WriteCallback) (s : H2Session),
      (callbacks.foldl onWrite s).closed = s.closed := by
    intro callbacks
    induction callbacks with
    | nil => exact fun s => rfl
    | cons callback rest ih => exact fun s => (ih _).trans (onWrite_closed s callback)
  unfold flushOutput
  split_ifs
  · rfl
  · exact hall callbacks s

theorem rejectInCallback_closed (s : H2Session) (sessionId status : Int) (rv : Option NgError) :
    (s.rejectInCallback sessionId status rv).closed = s.closed := by
  unfold rejectInCallback rejectSession
  split_ifs
  · rfl
  · rfl
  · rfl
  · rfl
  · exact (inScope_kept (s.callNg _) sessionId _).2.2.1

theorem consumeConnectionRecvBytes_closed (s : H2Session) (size : Nat) :
    (s.consumeConnectionRecvBytes size).closed = s.closed :=
  congrArg (fun k => k.2.2.2.2.1) (consumeConnectionRecvBytes_kept s size)

theorem recvData_closed (s : H2Session) (sessionId : Int) (data : Bytes) :
    (s.step (.recvData sessionId data none)).closed = s.closed := by
  unfold step onRecvData
  dsimp only
  cases s.wtSessions.find? sessionId with
  | none => exact consumeConnectionRecvBytes_closed _ _
  | some w =>
      dsimp only
      split_ifs
      · exact consumeConnectionRecvBytes_closed _ _
      · rfl
      · exact (inScope_kept _ sessionId _).2.2.1
      · rfl
      · exact rejectInCallback_closed _ _ _ _
      · exact (inScope_kept _ sessionId _).2.2.1

theorem run_dataInputs_closed (s : H2Session) (sessionId : Int) (chunks : List Bytes) :
    (s.run (dataInputs sessionId chunks)).closed = s.closed := by
  induction chunks generalizing s with
  | nil => rfl
  | cons data chunks ih => exact (ih _).trans (recvData_closed s sessionId data)

theorem drainAccepted_closed (s : H2Session) (sessionId : Int) (flush : List WriteCallback) :
    (s.drainAccepted sessionId flush).closed = s.closed := by
  have hlast := (inScope_kept ((s.inScope sessionId (·.markEstablished)).flushOutput flush)
    sessionId (·.processCapsules [])).2.2.1
  have hmark := (inScope_kept s sessionId (·.markEstablished)).2.2.1
  exact hlast.trans ((flushOutput_closed _ flush).trans hmark)

theorem finishAccept_closed (s : H2Session) (sessionId : Int) (resetFlush : List WriteCallback) :
    (s.finishAccept sessionId resetFlush).closed = s.closed := by
  unfold finishAccept
  cases s.wtSessions.find? sessionId with
  | none => rfl
  | some w =>
      dsimp only
      split_ifs
      · rfl
      · exact (flushOutput_closed _ _).trans (inScope_kept s sessionId _).2.2.1
      · exact (inScope_kept s sessionId _).2.2.1
      · exact (inScope_kept s sessionId _).2.2.1

end Closed

/-! ## The two orders -/

/-- The last capsule of a session that goes on is not whole. -/
def cutOff (s : H2Session) (sessionId : Int) : Bool :=
  (s.wtSessions.find? sessionId).any fun w => !w.isTerminated && !w.capsuleBuffer.isEmpty

/-- `accept_session`, and then the bytes and the END_STREAM.  The RST_STREAM on a capsule that is
cut off is written in the next `flush_output`. -/
def acceptThenReceive (s : H2Session) (sessionId : Int) (chunks : List Bytes) (endStream : Bool)
    (flush resetFlush : List WriteCallback) : H2Session :=
  let received :=
    (s.step (.acceptSession sessionId none flush [])).run (dataInputs sessionId chunks)
  if endStream then
    let ended := received.step (.remoteEndStream sessionId)
    if received.cutOff sessionId then ended.flushOutput resetFlush else ended
  else received

/-- The bytes and the END_STREAM, and then `accept_session`. -/
def receiveThenAccept (s : H2Session) (sessionId : Int) (chunks : List Bytes) (endStream : Bool)
    (flush resetFlush : List WriteCallback) : H2Session :=
  let received := s.run (dataInputs sessionId chunks)
  let ended := if endStream then received.step (.remoteEndStream sessionId) else received
  ended.step (.acceptSession sessionId none flush resetFlush)

section Orders

variable {s s' : H2Session} {sessionId : Int} {w v : WtSessionInfo} {es es' : List Effect}
  {flush resetFlush : List WriteCallback}

/-- What was done before does not matter for what is done next. -/
theorem foldl_call_front (isServer : Bool) (config : H2SessionConfig) (sessionId : Int)
    (calls : List Call) (entry : Option WtSessionInfo) (es : List Effect) :
    calls.foldl (View.call isServer config sessionId) ⟨entry, es⟩ =
      ⟨(calls.foldl (View.call isServer config sessionId) ⟨entry, []⟩).entry,
        es ++ (calls.foldl (View.call isServer config sessionId) ⟨entry, []⟩).effects⟩ := by
  induction calls generalizing entry es with
  | nil =>
      rw [List.foldl_nil, List.foldl_nil, List.append_nil]
  | cons c calls ih =>
      let sc := SessionScope.call c
        { isServer := isServer, config := config, sessionId := sessionId, entry := entry }
      have hone : ∀ es, View.call isServer config sessionId ⟨entry, es⟩ c =
          ⟨sc.entry, es ++ sc.effects⟩ := fun _ => rfl
      rw [List.foldl_cons, List.foldl_cons, hone es, hone [], ih sc.entry (es ++ _),
        ih sc.entry ([] ++ _), List.nil_append, List.append_assoc]

/-- The same callbacks fire in two connections that have the same entry. -/
theorem flushOutput_alike (hserver : s.isServer = s'.isServer) (hconfig : s.config = s'.config)
    (hclosed : s.closed = s'.closed) {entry : Option WtSessionInfo}
    (hview : s.view sessionId = ⟨entry, es⟩) (hview' : s'.view sessionId = ⟨entry, es'⟩)
    (callbacks : List WriteCallback) :
    ∃ entry' more, (s.flushOutput callbacks).view sessionId = ⟨entry', es ++ more⟩ ∧
      (s'.flushOutput callbacks).view sessionId = ⟨entry', es' ++ more⟩ := by
  have hpath := view_of_path (Sees.flushOutput sessionId s callbacks).path
  have hpath' := view_of_path (Sees.flushOutput sessionId s' callbacks).path
  have hcalls : s.flushCalls sessionId callbacks = s'.flushCalls sessionId callbacks := by
    unfold flushCalls
    rw [hclosed]
  rw [hview, hcalls, hserver, hconfig, foldl_call_front] at hpath
  rw [hview', foldl_call_front] at hpath'
  exact ⟨_, _, hpath, hpath'⟩

/-- `accept_session` up to the drain. -/
theorem drainAccepted_view (hserver : s.isServer = true)
    (hview : s.view sessionId = ⟨some w, es⟩) (hflush : closesOf sessionId flush = []) :
    (s.drainAccepted sessionId flush).view sessionId =
      ⟨(drained s.config sessionId (some w.accepted) []).entry,
        es ++ (drained s.config sessionId (some w.accepted) []).effects⟩ := by
  have hcalls : onSession sessionId sessionId .markEstablished ++ s.flushCalls sessionId flush ++
      onSession sessionId sessionId .drain = [.markEstablished, .drain] := by
    simp only [onSession, if_true, flushCalls, hflush, ite_self, List.append_nil]
    rfl
  have hsees := @Sees.drainAccepted sessionId s sessionId flush
  rw [hcalls] at hsees
  rw [view_of_path hsees.path, hview, hserver]
  simp only [List.foldl_cons, List.foldl_nil, View.call, SessionScope.call,
    SessionScope.markEstablished, Option.map_some, List.append_nil]
  rfl

theorem step_acceptSession (hserver : s.isServer = true) (hid : 0 < sessionId ∧ sessionId % 2 ≠ 0)
    (flush resetFlush : List WriteCallback) :
    s.step (.acceptSession sessionId none flush resetFlush) =
      ((s.callNg (.submitResponse sessionId (acceptHeaders s.config))).drainAccepted
        sessionId flush).finishAccept sessionId resetFlush := by
  simp only [step, acceptSession, hserver, Bool.not_true, Bool.false_eq_true, false_or,
    not_or.2 ⟨not_le.2 hid.1, hid.2⟩, if_false]

/-! ### The end of `accept_session` -/

/-- A session that goes on gets the initial limits. -/
theorem finishAccept_open (hview : s.view sessionId = ⟨some v, es⟩) (hlive : v.isTerminated = false)
    (hnote : v.preAcceptEndStream = false) (resetFlush : List WriteCallback) :
    (s.finishAccept sessionId resetFlush).view sessionId =
      ⟨some v, es ++ s.config.initialLimits.map .capsule⟩ := by
  have hentry : s.wtSessions.find? sessionId = some v := congrArg View.entry hview
  have hfinish : s.finishAccept sessionId resetFlush =
      s.inScope sessionId (·.call .sendInitialLimits) := by
    simp only [finishAccept, hentry, hlive, hnote, Bool.false_eq_true, if_false]
    rfl
  rw [hfinish, view_call_self, hview]
  rfl

/-- A session that the drain has ended gets nothing. -/
theorem finishAccept_over {entry : Option WtSessionInfo} (hview : s.view sessionId = ⟨entry, es⟩)
    (hover : ∀ v, entry = some v → v.isTerminated = true) (resetFlush : List WriteCallback) :
    s.finishAccept sessionId resetFlush = s := by
  have hentry : s.wtSessions.find? sessionId = entry := congrArg View.entry hview
  unfold finishAccept
  rw [hentry]
  cases entry with
  | none => rfl
  | some v =>
      dsimp only
      rw [if_pos (hover v rfl)]

/-- The END_STREAM that was noted is carried out as one that comes now. -/
theorem terminate_eq_handleEndStream (config : H2SessionConfig) (sessionId : Int)
    (hestablished : v.isEstablished = true) (hlive : v.isTerminated = false) :
    (scopeOf config sessionId (some (v.withEndStream true))).terminatePreAcceptEndStreamSession =
      (scopeOf config sessionId (some v)).handleEndStream := by
  simp only [SessionScope.terminatePreAcceptEndStreamSession, SessionScope.handleEndStream, scopeOf,
    hestablished, hlive, WtSessionInfo.withEndStream_capsuleBuffer, Bool.not_true,
    Bool.false_eq_true, or_self, if_false]
  split_ifs <;> rfl

theorem finishAccept_noted (hserver : s.isServer = true)
    (hview : s.view sessionId = ⟨some (v.withEndStream true), es⟩)
    (hestablished : v.isEstablished = true) (hlive : v.isTerminated = false)
    (resetFlush : List WriteCallback) :
    ∃ ended : H2Session, s.finishAccept sessionId resetFlush =
        (if v.capsuleBuffer ≠ [] then ended.flushOutput resetFlush else ended) ∧
      ended.view sessionId = ⟨((scopeOf s.config sessionId (some v)).handleEndStream).entry,
        es ++ ((scopeOf s.config sessionId (some v)).handleEndStream).effects⟩ ∧
      ended.isServer = s.isServer ∧ ended.config = s.config ∧ ended.closed = s.closed := by
  have hentry : s.wtSessions.find? sessionId = some (v.withEndStream true) :=
    congrArg View.entry hview
  have hkept := inScope_kept s sessionId (·.terminatePreAcceptEndStreamSession)
  refine ⟨s.inScope sessionId (·.terminatePreAcceptEndStreamSession), ?_, ?_, hkept.1, hkept.2.1,
    hkept.2.2.1⟩
  · simp only [finishAccept, hentry, WtSessionInfo.withEndStream_isTerminated, hlive,
      WtSessionInfo.withEndStream_preAcceptEndStream, WtSessionInfo.withEndStream_capsuleBuffer,
      Bool.false_eq_true, if_false, if_true]
  · have hterminate := view_call_self s sessionId .terminatePreAcceptEndStreamSession
    rw [hview, hserver] at hterminate
    have hscope : View.call true s.config sessionId ⟨some (v.withEndStream true), es⟩
        .terminatePreAcceptEndStreamSession =
        ⟨((scopeOf s.config sessionId
            (some (v.withEndStream true))).terminatePreAcceptEndStreamSession).entry,
          es ++ ((scopeOf s.config sessionId
            (some (v.withEndStream true))).terminatePreAcceptEndStreamSession).effects⟩ := rfl
    rw [hscope, terminate_eq_handleEndStream _ _ hestablished hlive] at hterminate
    exact hterminate

theorem remoteEndStream_view (hserver : s.isServer = true) {entry : Option WtSessionInfo}
    (hview : s.view sessionId = ⟨entry, es⟩) :
    (s.step (.remoteEndStream sessionId)).view sessionId =
      ⟨((scopeOf s.config sessionId entry).handleEndStream).entry,
        es ++ ((scopeOf s.config sessionId entry).handleEndStream).effects⟩ := by
  have hcalls : s.callsOf sessionId (.remoteEndStream sessionId) = [.handleEndStream] := by
    simp only [callsOf, onSession, if_true]
  rw [step_view hcalls, hview, hserver]
  rfl

theorem remoteEndStream_closed (s : H2Session) (sessionId : Int) :
    (s.step (.remoteEndStream sessionId)).closed = s.closed := (inScope_kept s sessionId _).2.2.1

/-! ### Both orders -/

/-- What a session has taken in when it was established before. -/
theorem drained_start (hbuffer : w.capsuleBuffer = []) (config : H2SessionConfig)
    (sessionId : Int) :
    drained config sessionId (some w) [] = scopeOf config sessionId (some w) :=
  processCapsules_idle rfl hbuffer

/-- What was buffered is taken in as if it came now. -/
theorem drained_buffered (hbuffer : w.capsuleBuffer = []) (config : H2SessionConfig)
    (sessionId : Int) (data : Bytes) :
    drained config sessionId (some (w.withBuffer data)) [] =
      drained config sessionId (some w) data := by
  have happend : (scopeOf config sessionId (some (w.withBuffer data))).appendBuffer [] =
      (scopeOf config sessionId (some w)).appendBuffer data := by
    simp only [SessionScope.appendBuffer, scopeOf, Option.map_some, hbuffer, List.nil_append,
      List.append_nil, WtSessionInfo.withBuffer_capsuleBuffer]
    rfl
  unfold drained
  rw [SessionScope.processCapsules_eq_loop, SessionScope.processCapsules_eq_loop, happend]

/-- An END_STREAM that was noted is still noted behind it, unless the session has ended. -/
theorem drained_noted (hwf : Wf true w) (hlive : w.isTerminated = false) (config : H2SessionConfig)
    (sessionId : Int) (data : Bytes) :
    drained config sessionId (some (w.withEndStream true)) data =
      (drained config sessionId (some w) data).endMarked := by
  have hsound :
      SessionScope.Sound true ((scopeOf config sessionId (some w)).appendBuffer data) := by
    refine ⟨rfl, ?_⟩
    intro v hv
    cases hv
    exact ⟨hwf.stream, hwf.sent_le⟩
  have hlive' : (w.withBuffer (w.capsuleBuffer ++ data)).isTerminated = false := hlive
  have hmarked : (scopeOf config sessionId (some (w.withEndStream true))).appendBuffer data =
      ((scopeOf config sessionId (some w)).appendBuffer data).endMarked := by
    rw [SessionScope.endMarked_live (w := w.withBuffer (w.capsuleBuffer ++ data)) rfl hlive']
    rfl
  unfold drained
  rw [SessionScope.processCapsules_eq_loop, SessionScope.processCapsules_eq_loop, hmarked,
    SessionScope.loop_endMarked hsound]

/-- A session in the plain order, up to the END_STREAM. -/
theorem accepted_view (hserver : s.isServer = true) (hid : 0 < sessionId ∧ sessionId % 2 ≠ 0)
    (hwf : Wf true w) (hview : s.view sessionId = ⟨some w, es⟩) (hlive : w.isTerminated = false)
    (hnote : w.preAcceptEndStream = false) (hbuffer : w.capsuleBuffer = [])
    (hflush : closesOf sessionId flush = []) (chunks : List Bytes) :
    ∃ es₁, ((s.step (.acceptSession sessionId none flush [])).run
          (dataInputs sessionId chunks)).view sessionId =
        ⟨(drained s.config sessionId (some w.accepted) chunks.flatten).entry,
          es ++ s.config.initialLimits.map .capsule ++ es₁⟩ ∧
      Effect.shown (drained s.config sessionId (some w.accepted)
        chunks.flatten).effects = Effect.shown es₁ := by
  have hsees := step_calls s sessionId (.acceptSession sessionId none flush [])
  let s₁ := s.callNg (.submitResponse sessionId (acceptHeaders s.config))
  have hview₁ : s₁.view sessionId = ⟨some w, es⟩ := hview
  have hdrained := drainAccepted_view (s := s₁) hserver hview₁ hflush
  have hstart := drained_start (w := w.accepted) hbuffer s.config sessionId
  have hconfig : s₁.config = s.config := rfl
  rw [hconfig, hstart] at hdrained
  have hopen : (s₁.drainAccepted sessionId flush).view sessionId =
      ⟨some w.accepted, es⟩ := by
    rw [hdrained]
    exact congrArg (View.mk _) (List.append_nil es)
  have hdrainedConfig := (@Sees.drainAccepted sessionId s₁ sessionId flush).config
  have haccept := finishAccept_open hopen hlive hnote []
  rw [hdrainedConfig] at haccept
  have hstep : (s.step (.acceptSession sessionId none flush [])).view sessionId =
      ⟨(drained (s.step (.acceptSession sessionId none flush [])).config sessionId
          (some w.accepted) []).entry,
        es ++ s.config.initialLimits.map .capsule⟩ := by
    rw [hsees.config, hstart, step_acceptSession hserver hid]
    exact haccept
  have hwf' : Wf true w.accepted := ⟨hwf.stream, hwf.sent_le⟩
  rcases run_dataInputs_drained (hsees.role.trans hserver) hwf' rfl hstep chunks with
    ⟨es₁, hrun, hshown⟩
  rw [hsees.config, List.nil_append] at hrun hshown
  rw [hstart] at hshown
  exact ⟨es₁, hrun, hshown⟩

/-- A session in the other order, up to the END_STREAM. -/
theorem noted_view (hserver : s.isServer = true) (hview : s.view sessionId = ⟨some w, es⟩)
    (hlive : w.isTerminated = false) (hwaiting : w.isEstablished = false) :
    (s.step (.remoteEndStream sessionId)).view sessionId = ⟨some (w.withEndStream true), es⟩ := by
  rw [remoteEndStream_view hserver hview]
  have hnoted : (scopeOf s.config sessionId (some w)).handleEndStream =
      (scopeOf s.config sessionId (some w)).setEntry (w.withEndStream true) := by
    have hwaits : (!w.isEstablished) = true := congrArg not hwaiting
    have hlives : (!w.isTerminated) = true := congrArg not hlive
    unfold SessionScope.handleEndStream scopeOf
    dsimp only
    rw [if_pos (Or.inl hwaits), if_pos ⟨rfl, hwaits, hlives⟩]
    rfl
  rw [hnoted]
  exact congrArg (View.mk _) (List.append_nil es)

/-- A session in the other order, up to the end of `accept_session`. -/
theorem deferred_view (hserver : s.isServer = true) (hwf : Wf true w)
    (hview : s.view sessionId = ⟨some w, es⟩) (hlive : w.isTerminated = false)
    (hwaiting : w.isEstablished = false) (hbuffer : w.capsuleBuffer = [])
    (hflush : closesOf sessionId flush = []) {chunks : List Bytes}
    (hfits : chunks.flatten.length ≤ s.config.wtPreAcceptBufferLimit) (endStream : Bool)
    (headers : HeaderList) :
    ((((if endStream = true then
          (s.run (dataInputs sessionId chunks)).step (.remoteEndStream sessionId)
        else s.run (dataInputs sessionId chunks)).callNg
      (.submitResponse sessionId headers)).drainAccepted sessionId flush)).view sessionId =
      ⟨(if endStream = true then
          (drained s.config sessionId (some w.accepted) chunks.flatten).endMarked
        else drained s.config sessionId (some w.accepted) chunks.flatten).entry,
        es ++ (drained s.config sessionId (some w.accepted) chunks.flatten).effects⟩ := by
  have hkept := run_dataInputs_kept s sessionId chunks
  have hbuffered : (s.run (dataInputs sessionId chunks)).view sessionId =
      ⟨some (w.withBuffer chunks.flatten), es⟩ := by
    have hall : w.capsuleBuffer.length + chunks.flatten.length ≤
        s.config.wtPreAcceptBufferLimit := by
      rw [hbuffer, List.length_nil, Nat.zero_add]
      exact hfits
    have hrun := run_dataInputs_buffered hserver hview hlive hwaiting hall
    rw [hbuffer, List.nil_append] at hrun
    exact hrun
  generalize s.run (dataInputs sessionId chunks) = b at hkept hbuffered
  rcases hkept with ⟨hrole, hconfig⟩
  rw [← hconfig]
  have hb : b.isServer = true := hrole.trans hserver
  cases endStream with
  | false =>
      have hdrained := drainAccepted_view (s := b.callNg (.submitResponse sessionId headers))
        hb hbuffered hflush
      have hall := drained_buffered (w := w.accepted) hbuffer b.config sessionId chunks.flatten
      rw [← hall]
      exact hdrained
  | true =>
      have hnoted := noted_view hb hbuffered hlive hwaiting
      have hsees := step_calls b sessionId (.remoteEndStream sessionId)
      generalize b.step (.remoteEndStream sessionId) = n at hnoted hsees
      have hdrained := drainAccepted_view (s := n.callNg (.submitResponse sessionId headers))
        (hsees.role.trans hb) hnoted hflush
      have hall := drained_buffered (w := w.accepted.withEndStream true) hbuffer b.config sessionId
        chunks.flatten
      have hwf' : Wf true w.accepted := ⟨hwf.stream, hwf.sent_le⟩
      rw [drained_noted hwf' hlive] at hall
      have hnconfig : (n.callNg (.submitResponse sessionId headers)).config = b.config :=
        hsees.config
      rw [hnconfig] at hdrained
      have hsame : drained b.config sessionId
          (some ((w.withBuffer chunks.flatten).withEndStream true).accepted) [] =
            (drained b.config sessionId (some w.accepted) chunks.flatten).endMarked := hall
      rw [hsame] at hdrained
      exact hdrained

/-- The END_STREAM makes no difference to a session that is over. -/
theorem handleEndStream_over (config : H2SessionConfig) (sessionId : Int)
    {entry : Option WtSessionInfo} (h : ∀ v, entry = some v → v.isTerminated = true) :
    (scopeOf config sessionId entry).handleEndStream = scopeOf config sessionId entry := by
  unfold SessionScope.handleEndStream scopeOf
  cases entry with
  | none => rfl
  | some v =>
      have hterm := h v rfl
      simp only [hterm, or_true, Bool.not_true, Bool.false_eq_true, and_false, if_true, if_false]

theorem cutOff_eq (hview : s.view sessionId = ⟨some v, es⟩) (hlive : v.isTerminated = false) :
    s.cutOff sessionId = true ↔ v.capsuleBuffer ≠ [] := by
  have hentry : s.wtSessions.find? sessionId = some v := congrArg View.entry hview
  unfold cutOff
  rw [hentry, Option.any_some, hlive]
  cases v.capsuleBuffer <;> simp

/-- Two connections that have taken in the same bytes, one of them before the END_STREAM and the
other one with the END_STREAM noted. -/
theorem ends_agree {r d : H2Session} {p : SessionScope} {front : List Effect} {endStream : Bool}
    (hr : r.isServer = true ∧ r.config = s.config ∧ r.closed = s.closed)
    (hd : d.isServer = true ∧ d.config = s.config ∧ d.closed = s.closed)
    (hplain : r.view sessionId = ⟨p.entry, front⟩)
    (hdeferred : d.view sessionId =
      ⟨(if endStream = true then p.endMarked else p).entry, es⟩)
    (hmarks : ∀ v, p.entry = some v →
      v.isTerminated = true ∨ v.isEstablished = true ∧ v.preAcceptEndStream = false)
    (resetFlush : List WriteCallback) :
    ∃ entry more, (if endStream = true then
          if r.cutOff sessionId = true then
            (r.step (.remoteEndStream sessionId)).flushOutput resetFlush
          else r.step (.remoteEndStream sessionId)
        else r).view sessionId = ⟨entry, front ++ more⟩ ∧
      (d.finishAccept sessionId resetFlush).view sessionId =
        ⟨entry, es ++ more ++ if !endStream && entry.any (!·.isTerminated) then
          s.config.initialLimits.map .capsule else []⟩ := by
  rcases hr with ⟨hrServer, hrConfig, hrClosed⟩
  rcases hd with ⟨hdServer, hdConfig, hdClosed⟩
  by_cases hover : ∀ v, p.entry = some v → v.isTerminated = true
  · -- The session is over: neither the END_STREAM nor the end of `accept_session` matters.
    have hlate : (!endStream && p.entry.any (!·.isTerminated)) = false := by
      have hnot : p.entry.any (!·.isTerminated) = false := by
        cases hentry : p.entry with
        | none => rfl
        | some v =>
            rw [Option.any_some, hover v hentry]
            rfl
      rw [hnot, Bool.and_false]
    have hunmarked : (if endStream = true then p.endMarked else p).entry = p.entry := by
      cases endStream with
      | false => rfl
      | true =>
          cases hentry : p.entry with
          | none =>
              rw [if_pos rfl, SessionScope.endMarked_gone hentry, hentry]
          | some v =>
              rw [if_pos rfl, SessionScope.endMarked_ended hentry (hover v hentry), hentry]
    rw [hunmarked] at hdeferred
    have hsame : d.finishAccept sessionId resetFlush = d :=
      finishAccept_over hdeferred hover resetFlush
    have hignored : (r.step (.remoteEndStream sessionId)).view sessionId = ⟨p.entry, front⟩ := by
      rw [remoteEndStream_view hrServer hplain, handleEndStream_over _ _ hover]
      exact congrArg (View.mk _) (List.append_nil front)
    have hwhole : ¬ r.cutOff sessionId = true := by
      have hentry : r.wtSessions.find? sessionId = p.entry := congrArg View.entry hplain
      unfold cutOff
      rw [hentry]
      cases hp : p.entry with
      | none => exact Bool.false_ne_true
      | some v =>
          rw [Option.any_some, hover v hp]
          exact Bool.false_ne_true
    refine ⟨p.entry, [], ?_, ?_⟩
    · rw [List.append_nil]
      split_ifs
      · exact hignored
      · exact hplain
    · rw [hsame, hdeferred, hlate, if_neg Bool.false_ne_true, List.append_nil, List.append_nil]
  · -- The session goes on.
    rw [not_forall] at hover
    rcases hover with ⟨v, hover⟩
    rw [Classical.not_imp, Bool.not_eq_true] at hover
    rcases hover with ⟨hentry, hlive⟩
    rcases hmarks v hentry with hterm | ⟨hestablished, hnote⟩
    · exact absurd (hlive.symm.trans hterm) Bool.false_ne_true
    rw [hentry] at hplain
    cases endStream with
    | false =>
        have hopen : d.view sessionId = ⟨some v, es⟩ := by
          rw [hdeferred, if_neg Bool.false_ne_true, hentry]
        refine ⟨some v, [], ?_, ?_⟩
        · rw [if_neg Bool.false_ne_true, List.append_nil]
          exact hplain
        · rw [finishAccept_open hopen hlive hnote, hdConfig, List.append_nil, Option.any_some,
            hlive]
          rfl
    | true =>
        have hnoted : d.view sessionId = ⟨some (v.withEndStream true), es⟩ := by
          rw [hdeferred, if_pos rfl, SessionScope.endMarked_live hentry hlive]
          rfl
        rcases finishAccept_noted hdServer hnoted hestablished hlive resetFlush with
          ⟨ended, hfinish, hended, hendedKept⟩
        have hplainEnd := remoteEndStream_view hrServer hplain
        have hcut := cutOff_eq hplain hlive
        have hsees := step_calls r sessionId (.remoteEndStream sessionId)
        have hopen := remoteEndStream_closed r sessionId
        rw [hdConfig] at hended hendedKept
        rw [hrConfig] at hplainEnd
        rw [hfinish, if_pos rfl]
        generalize r.step (.remoteEndStream sessionId) = r' at hplainEnd hsees hopen ⊢
        have hrole : r'.isServer = ended.isServer := by
          rw [hsees.role, hendedKept.1, hrServer, hdServer]
        have hconfig : r'.config = ended.config := by
          rw [hsees.config, hendedKept.2.1, hrConfig]
        have hclosed : r'.closed = ended.closed := by
          rw [hopen, hendedKept.2.2, hrClosed, hdClosed]
        generalize (scopeOf s.config sessionId (some v)).handleEndStream = last at hended hplainEnd
        simp only [Bool.not_true, Bool.false_and, Bool.false_eq_true, if_false, List.append_nil]
        by_cases hempty : v.capsuleBuffer = []
        · rw [if_neg (mt hcut.1 (not_not.2 hempty)), if_neg (not_not.2 hempty)]
          exact ⟨last.entry, last.effects, hplainEnd, hended⟩
        · rw [if_pos (hcut.2 hempty), if_pos hempty]
          rcases flushOutput_alike hrole hconfig hclosed hplainEnd hended resetFlush with
            ⟨entry', more, hflushed, hflushed'⟩
          refine ⟨entry', last.effects ++ more, ?_, ?_⟩
          · rw [hflushed, List.append_assoc]
          · rw [hflushed', List.append_assoc]

/-- Both orders lead to the same entry and to the same effects in the same order, but that the
initial limits are queued at once in the plain order, and in the other one behind the rest if the
session goes on. -/
theorem orders_agree (hserver : s.isServer = true) (hid : 0 < sessionId ∧ sessionId % 2 ≠ 0)
    (hwf : Wf true w) (hview : s.view sessionId = ⟨some w, es⟩) (hlive : w.isTerminated = false)
    (hwaiting : w.isEstablished = false) (hnote : w.preAcceptEndStream = false)
    (hbuffer : w.capsuleBuffer = []) {flush' : List WriteCallback}
    (hflush : closesOf sessionId flush = []) (hflush' : closesOf sessionId flush' = [])
    {chunks : List Bytes} (hfits : chunks.flatten.length ≤ s.config.wtPreAcceptBufferLimit)
    (endStream : Bool) (resetFlush : List WriteCallback) :
    ∃ entry done done',
      (s.acceptThenReceive sessionId chunks endStream flush resetFlush).view sessionId =
          ⟨entry, es ++ s.config.initialLimits.map .capsule ++ done⟩ ∧
        (s.receiveThenAccept sessionId chunks endStream flush' resetFlush).view sessionId =
          ⟨entry, es ++ done' ++ if !endStream && entry.any (!·.isTerminated) then
            s.config.initialLimits.map .capsule else []⟩ ∧
        Effect.shown done' = Effect.shown done := by
  rcases accepted_view hserver hid hwf hview hlive hnote hbuffer hflush chunks with
    ⟨es₁, hplain, hshown⟩
  -- The two connections at the point where the bytes are taken in.
  let received := (s.step (.acceptSession sessionId none flush [])).run
    (dataInputs sessionId chunks)
  have hreceivedKept : received.isServer = true ∧ received.config = s.config ∧
      received.closed = s.closed := by
    have hsees := step_calls s sessionId (.acceptSession sessionId none flush [])
    have hrun := run_dataInputs_kept (s.step (.acceptSession sessionId none flush [])) sessionId
      chunks
    have hclosed := run_dataInputs_closed (s.step (.acceptSession sessionId none flush []))
      sessionId chunks
    have haccept : (s.step (.acceptSession sessionId none flush [])).closed = s.closed := by
      rw [step_acceptSession hserver hid]
      exact (finishAccept_closed _ _ _).trans (drainAccepted_closed _ _ _)
    exact ⟨hrun.1.trans (hsees.role.trans hserver), hrun.2.trans hsees.config,
      hclosed.trans haccept⟩
  let x := if endStream = true then
      (s.run (dataInputs sessionId chunks)).step (.remoteEndStream sessionId)
    else s.run (dataInputs sessionId chunks)
  have hxKept : x.isServer = true ∧ x.config = s.config ∧ x.closed = s.closed := by
    have hrun := run_dataInputs_kept s sessionId chunks
    have hclosed := run_dataInputs_closed s sessionId chunks
    have hsees := step_calls (s.run (dataInputs sessionId chunks)) sessionId
      (.remoteEndStream sessionId)
    cases endStream with
    | false => exact ⟨hrun.1.trans hserver, hrun.2, hclosed⟩
    | true =>
        exact ⟨hsees.role.trans (hrun.1.trans hserver), hsees.config.trans hrun.2,
          (remoteEndStream_closed _ _).trans hclosed⟩
  let d := (x.callNg (.submitResponse sessionId (acceptHeaders x.config))).drainAccepted sessionId
    flush'
  have hdKept : d.isServer = true ∧ d.config = s.config ∧ d.closed = s.closed := by
    have hsees := @Sees.drainAccepted sessionId
      (x.callNg (.submitResponse sessionId (acceptHeaders x.config))) sessionId flush'
    exact ⟨hsees.role.trans hxKept.1, hsees.config.trans hxKept.2.1,
      (drainAccepted_closed _ _ _).trans hxKept.2.2⟩
  have hdeferred : d.view sessionId = _ := deferred_view hserver hwf hview hlive hwaiting hbuffer
    hflush' hfits endStream (acceptHeaders x.config)
  have hfinish : s.receiveThenAccept sessionId chunks endStream flush' resetFlush =
      d.finishAccept sessionId resetFlush := step_acceptSession hxKept.1 hid flush' resetFlush
  have hmarks : ∀ v,
      (drained s.config sessionId (some w.accepted) chunks.flatten).entry = some v →
      v.isTerminated = true ∨ v.isEstablished = true ∧ v.preAcceptEndStream = false := by
    have hsound : SessionScope.Sound true (scopeOf s.config sessionId (some w.accepted)) := by
      refine ⟨rfl, ?_⟩
      intro u hu
      cases hu
      exact ⟨hwf.stream, hwf.sent_le⟩
    intro v hv
    refine (SessionScope.processCapsules_marks hsound rfl chunks.flatten hv).imp_right ?_
    exact fun hsame => ⟨hsame.1, hsame.2.trans hnote⟩
  rcases ends_agree hreceivedKept hdKept hplain hdeferred hmarks resetFlush with
    ⟨entry, more, hplainEnd, hdeferredEnd⟩
  refine ⟨entry, es₁ ++ more,
    (drained s.config sessionId (some w.accepted) chunks.flatten).effects ++ more, ?_, ?_, ?_⟩
  · rw [← List.append_assoc]
    exact hplainEnd
  · rw [hfinish, ← List.append_assoc]
    exact hdeferredEnd
  · rw [Effect.shown_append, Effect.shown_append, hshown]

end Orders

/-- Buffering before acceptance is transparent.  On a session that was requested and not accepted,
with nothing buffered and no END_STREAM noted yet, take any bytes within the limit, cut up in any
way, perhaps an END_STREAM, and an `accept_session` whose flush closes no stream of the session.
Whether `accept_session` comes last or first, the entry is the same in the end, the events are the
same, and so are all dispatched capsules, queued replies, resets and what else is done but the
receive credit given back, in the same order.  Only the initial limits are queued later, and only
for a session that goes on. -/
theorem acceptance_transparent {config : H2SessionConfig} {s₀ s : H2Session}
    (hcreate : create true config = .ok s₀) {inputs : List Input} (hs : s₀.run inputs = s)
    {sessionId : Int} (hid : 0 < sessionId ∧ sessionId % 2 ≠ 0) {w : WtSessionInfo}
    (hentry : s.wtSessions.find? sessionId = some w) (hlive : w.isTerminated = false)
    (hwaiting : w.isEstablished = false) (hnote : w.preAcceptEndStream = false)
    (hbuffer : w.capsuleBuffer = []) {flush flush' : List WriteCallback}
    (hflush : closesOf sessionId flush = []) (hflush' : closesOf sessionId flush' = [])
    {chunks : List Bytes} (hfits : chunks.flatten.length ≤ config.wtPreAcceptBufferLimit)
    (endStream : Bool) (resetFlush : List WriteCallback) :
    let plain := s.acceptThenReceive sessionId chunks endStream flush resetFlush
    let deferred := s.receiveThenAccept sessionId chunks endStream flush' resetFlush
    let limits := config.initialLimits.map Effect.capsule
    let goesOn := !endStream && (deferred.wtSessions.find? sessionId).any (!·.isTerminated)
    deferred.wtSessions.find? sessionId = plain.wtSessions.find? sessionId ∧
      Effect.events (effectsOf sessionId deferred.trace) =
        Effect.events (effectsOf sessionId plain.trace) ∧
      ∃ done, Effect.shown (effectsOf sessionId plain.trace) =
          Effect.shown (effectsOf sessionId s.trace) ++ limits ++ done ∧
        Effect.shown (effectsOf sessionId deferred.trace) =
          Effect.shown (effectsOf sessionId s.trace) ++ done ++ if goesOn then limits else [] := by
  have hsees := run_calls s₀ sessionId inputs
  rcases create_view hcreate sessionId with ⟨-, hrole, hconfig⟩
  rw [hs] at hsees
  have hserver : s.isServer = true := hsees.role.trans hrole
  have hsame : s.config = config := hsees.config.trans hconfig
  have hwf : Wf true w := by
    rw [← hs] at hentry
    exact run_wf hcreate inputs hentry
  have hview : s.view sessionId = ⟨some w, effectsOf sessionId s.trace⟩ :=
    congrArg (View.mk · _) hentry
  subst hsame
  rcases orders_agree hserver hid hwf hview hlive hwaiting hnote hbuffer hflush hflush' hfits
    endStream resetFlush with ⟨entry, done, done', hplain, hdeferred, hdone⟩
  intro plain deferred limits goesOn
  have hplainEntry : plain.wtSessions.find? sessionId = entry := congrArg View.entry hplain
  have hdeferredEntry : deferred.wtSessions.find? sessionId = entry :=
    congrArg View.entry hdeferred
  have hplainEffects : effectsOf sessionId plain.trace =
      effectsOf sessionId s.trace ++ limits ++ done := congrArg View.effects hplain
  have hdeferredEffects : effectsOf sessionId deferred.trace =
      effectsOf sessionId s.trace ++ done' ++ if goesOn then limits else [] := by
    have heffects := congrArg View.effects hdeferred
    rw [← hdeferredEntry] at heffects
    exact heffects
  have hlimits : Effect.shown limits = limits := Effect.shown_capsules _
  have hlate : Effect.shown (if goesOn then limits else []) = if goesOn then limits else [] := by
    split_ifs
    · exact hlimits
    · rfl
  have hsilent : Effect.events limits = [] := Effect.events_capsules _
  have hlateSilent : Effect.events (if goesOn then limits else []) = [] := by
    split_ifs
    · exact hsilent
    · rfl
  refine ⟨hdeferredEntry.trans hplainEntry.symm, ?_, Effect.shown done, ?_, ?_⟩
  · rw [hplainEffects, hdeferredEffects, Effect.events_append, Effect.events_append,
      Effect.events_append, Effect.events_append, hsilent, hlateSilent, List.append_nil,
      List.append_nil, ← Effect.events_shown done', hdone, Effect.events_shown]
  · rw [hplainEffects, Effect.shown_append, Effect.shown_append, hlimits]
  · rw [hdeferredEffects, Effect.shown_append, Effect.shown_append, hlate, hdone]

/-- A server that was asked for a session and has not answered yet. -/
def waiting : H2Session :=
  ({ isServer := true, config := {} } : H2Session).run
    [.beginHeaders 1, .recvHeader 1 (ascii ":method") (ascii "CONNECT"),
      .recvHeader 1 (ascii ":protocol") (ascii "webtransport"), .endHeaders 1 none]

/-- A datagram in two pieces, and the END_STREAM. -/
theorem acceptance_transparent_datagram :
    Effect.events (effectsOf 1 (waiting.receiveThenAccept 1 [[0], [1, 7]] true [] []).trace) =
      Effect.events (effectsOf 1 (waiting.acceptThenReceive 1 [[0], [1, 7]] true [] []).trace) := by
  have hfits : ([[0], [1, 7]] : List Bytes).flatten.length ≤
      ({} : H2SessionConfig).wtPreAcceptBufferLimit := by decide
  have hentry : (waiting.wtSessions.find? 1).isSome = true := by decide +kernel
  rcases Option.isSome_iff_exists.1 hentry with ⟨w, hw⟩
  have hfresh : (waiting.wtSessions.find? 1).all (fun w => !w.isTerminated && !w.isEstablished &&
      !w.preAcceptEndStream && w.capsuleBuffer.isEmpty) = true := by
    decide +kernel
  rw [hw, Option.all_some, Bool.and_eq_true, Bool.and_eq_true, Bool.and_eq_true,
    Bool.not_eq_true', Bool.not_eq_true', Bool.not_eq_true', List.isEmpty_iff] at hfresh
  rcases hfresh with ⟨⟨⟨hlive, hwaiting⟩, hnote⟩, hbuffer⟩
  have hcreate : create true {} = .ok { isServer := true, config := {} } := rfl
  exact (acceptance_transparent hcreate rfl ⟨by decide, by decide⟩ hw hlive hwaiting hnote hbuffer
    rfl rfl hfits true []).2.1

end H2Session

end H2
end WebTransport
