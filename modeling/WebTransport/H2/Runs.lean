import WebTransport.H2.Framing
import WebTransport.H2.Transitions

/-!
# H2.Runs — an established session under calls and capsules

`Op` is everything that reaches an established session: a call of the application or a capsule from
the peer.  `step` performs one of them, and a run performs a list.

* `step_follows` : one operation is a path of the changes of `H2.Transitions`, and what it queues
  and pushes is what the labels of the path say, up to the end of the session;
* `run_follows`  : the same for a whole run.

A property of a run is therefore proved by induction over the labels.
-/

namespace WebTransport
namespace H2

open Bindings

/-- A capsule on the wire: its type value and its length fit their varints. -/
structure RawCapsule where
  type : Nat
  payload : Bytes
  type_le : type ≤ kMaxQuicVarint
  length_le : payload.length ≤ kMaxQuicVarint
  deriving DecidableEq

/-- `encode_capsule` -/
def RawCapsule.bytes (c : RawCapsule) : Bytes := encodeCapsule c.type c.payload

/-- One call of the application, or one capsule from the peer. -/
inductive Op
  | openStream (isUnidirectional : Bool)
  | sendStreamData (streamId : Nat) (data : Bytes) (fin : Bool)
  | resetStream (streamId : Nat) (errorCode : UInt32)
  | stopSending (streamId : Nat) (errorCode : UInt32)
  | sendDatagram (data : Bytes)
  | drainSession
  | closeSession (errorCode : UInt32) (message : Bytes)
  | receive (c : RawCapsule)
  deriving DecidableEq

/-! ## What a session did -/

/-- The event reports an error or a close. -/
def H2Event.reportsEnd (e : H2Event) : Bool := e.type = .error || e.type = .sessionClosed

/-- WT_CLOSE_SESSION -/
def Capsule.isClose : Capsule → Bool
  | .wtCloseSession _ _ => true
  | _ => false

namespace Effect

/-- The capsules queued. -/
def capsules (es : List Effect) : List Capsule :=
  es.filterMap fun
    | .capsule c => some c
    | _ => none

/-- The capsules queued, without the WT_CLOSE_SESSION that ends the session. -/
def queued (es : List Effect) : List Capsule :=
  es.filterMap fun
    | .capsule (.wtCloseSession _ _) => none
    | .capsule c => some c
    | _ => none

/-- The events pushed, without the ones that report the end of the session. -/
def pushed (es : List Effect) : List H2Event :=
  es.filterMap fun
    | .event e => if e.reportsEnd then none else some e
    | _ => none

@[simp] theorem capsules_append (es es' : List Effect) :
    capsules (es ++ es') = capsules es ++ capsules es' := List.filterMap_append

@[simp] theorem queued_append (es es' : List Effect) : queued (es ++ es') = queued es ++ queued es' :=
  List.filterMap_append

theorem queued_eq (es : List Effect) : queued es = (capsules es).filter fun c => !c.isClose := by
  induction es with
  | nil => rfl
  | cons e es ih =>
      have hcapsules : capsules (e :: es) = capsules [e] ++ capsules es := capsules_append [e] es
      have hqueued : queued (e :: es) = queued [e] ++ queued es := queued_append [e] es
      rw [hcapsules, hqueued, List.filter_append, ih]
      congr 1
      cases e with
      | capsule c => cases c <;> rfl
      | _ => rfl

/-- The effects queue `cs`, and nothing else but the WT_CLOSE_SESSION that terminates the
session. -/
def Sends (es : List Effect) (cs : List Capsule) (entry : Option WtSessionInfo) : Prop :=
  capsules es = cs ∨
    ∃ errorCode message, capsules es = cs ++ [.wtCloseSession errorCode message] ∧
      message.length ≤ kMaxApplicationErrorMessageBytes ∧ ∃ w, entry = some w ∧ w.isTerminated = true

theorem Sends.queued {es : List Effect} {cs : List Capsule} {entry : Option WtSessionInfo}
    (h : Sends es cs entry) (hcs : ∀ c ∈ cs, c.isClose = false) : Effect.queued es = cs := by
  have hself : (cs.filter fun c => !c.isClose) = cs := by
    refine List.filter_eq_self.2 ?_
    intro c hc
    rw [hcs c hc]
    rfl
  rw [queued_eq]
  rcases h with heq | ⟨errorCode, message, heq, -⟩
  · rw [heq, hself]
  · rw [heq, List.filter_append, hself]
    exact List.append_nil _

@[simp] theorem pushed_append (es es' : List Effect) : pushed (es ++ es') = pushed es ++ pushed es' :=
  List.filterMap_append

end Effect

namespace WtSessionInfo

/-- The entry behind `close_session` and `reset_stream_for_malformed_capsule`. -/
def ended (w : WtSessionInfo) : WtSessionInfo :=
  { w with isTerminated := true, isEstablished := false, preAcceptEndStream := false }

/-- A data capsule that is refused behind the creation of its stream leaves the fresh stream
entry in the terminated session. -/
structure CreatedBy (permits : Permits) (config : H2SessionConfig) (isServer : Bool)
    (w w' : WtSessionInfo) : Prop where
  exists_stream : ∃ streamId, permits.create w streamId ∧ w.streams.find? streamId = none ∧
    streamId ∉ w.releasedStreamIds ∧ w' = w.setStream streamId (w.newPeerStream config isServer streamId)

/-- The entry of a session whose changes led to `w`: as they left it, terminated (perhaps with a
stream created last), or erased. -/
inductive Stands (permits : Permits) (config : H2SessionConfig) (isServer : Bool)
    (w : WtSessionInfo) : Option WtSessionInfo → Prop
  | live : Stands permits config isServer w (some w)
  | ended : Stands permits config isServer w (some w.ended)
  | refused {w' : WtSessionInfo} (h : CreatedBy permits config isServer w w') :
      Stands permits config isServer w (some w'.ended)
  | gone : Stands permits config isServer w none

end WtSessionInfo

namespace Verdict

/-- A refusal leaves an entry with `P` behind and reports an error, a close reports the close. -/
def Ends (P : WtSessionInfo → Prop) : Verdict → Prop
  | .refuse w event _ _ => P w ∧ ∀ e ∈ event, e.type = .error
  | .accept _ _ _ => True
  | .close event => event.type = .sessionClosed

variable {P : WtSessionInfo → Prop} {w : WtSessionInfo}

theorem streamStateError_ends (h : P w) (streamId : Nat) (message : String) :
    (streamStateError w streamId message).Ends P := by
  refine ⟨h, ?_⟩
  intro e he
  cases he
  rfl

theorem flowControlError_ends (h : P w) (message : String) : (flowControlError w message).Ends P := by
  refine ⟨h, ?_⟩
  intro e he
  cases he

theorem recvFlowControlError_ends (h : P w) (streamId : Nat) (message : String) :
    (recvFlowControlError w streamId message).Ends P := by
  refine ⟨h, ?_⟩
  intro e he
  cases he
  rfl

end Verdict

namespace WtSessionInfo

section Ends

open Verdict

variable {P : WtSessionInfo → Prop} {config : H2SessionConfig} {isServer : Bool} {w : WtSessionInfo}

theorem judgeStreamData_ends (h : P w) (info : WtStreamInfo) (streamId : Nat) (fin : Bool)
    (data : Bytes) : (w.judgeStreamData config info streamId fin data).Ends P := by
  unfold judgeStreamData
  split_ifs
  · exact streamStateError_ends h _ _
  · exact recvFlowControlError_ends h _ _
  · trivial
  · trivial

theorem judgeStream_ends (h : P w) (fin : Bool) (streamId : Nat) (data : Bytes)
    (hcreated : isReceivableDataCapsule streamId isServer = true →
      w.streams.find? streamId = none → streamId ∉ w.releasedStreamIds →
      P (w.setStream streamId (w.newPeerStream config isServer streamId))) :
    (w.judgeStream config isServer fin streamId data).Ends P := by
  unfold judgeStream
  cases hfind : w.streams.find? streamId with
  | some info =>
      dsimp only
      split_ifs
      · exact streamStateError_ends h _ _
      · exact judgeStreamData_ends h _ _ _ _
  | none =>
      dsimp only
      split_ifs with hdirection hreleased hempty hlimit
      · exact streamStateError_ends h _ _
      · trivial
      · exact streamStateError_ends h _ _
      · exact recvFlowControlError_ends h _ _
      · have hreceivable : isReceivableDataCapsule streamId isServer = true := by
          simpa using hdirection
        exact judgeStreamData_ends (hcreated hreceivable hfind hreleased) _ _ _ _

theorem judgeReset_ends (h : P w) (streamId errorCode reliableSize : Nat) :
    (w.judgeReset config isServer streamId errorCode reliableSize).Ends P := by
  unfold judgeReset
  cases w.streams.find? streamId with
  | some info =>
      dsimp only
      split_ifs
      · exact streamStateError_ends h _ _
      · exact streamStateError_ends h _ _
      · exact streamStateError_ends h _ _
      · trivial
  | none =>
      dsimp only
      split_ifs
      · exact streamStateError_ends h _ _
      · exact streamStateError_ends h _ _
      · exact streamStateError_ends h _ _
      · exact recvFlowControlError_ends h _ _
      · trivial

theorem judgeStopSending_ends (h : P w) (streamId errorCode : Nat) :
    (w.judgeStopSending isServer streamId errorCode).Ends P := by
  unfold judgeStopSending
  cases w.streams.find? streamId with
  | some info =>
      dsimp only
      split_ifs
      · exact streamStateError_ends h _ _
      · exact streamStateError_ends h _ _
      · trivial
  | none =>
      dsimp only
      split_ifs
      · exact streamStateError_ends h _ _
      · exact streamStateError_ends h _ _
      · trivial
      · trivial

theorem judgeMaxStreamData_ends (h : P w) (streamId maxData : Nat) :
    (w.judgeMaxStreamData isServer streamId maxData).Ends P := by
  unfold judgeMaxStreamData
  cases w.streams.find? streamId with
  | some info =>
      dsimp only
      split_ifs
      · exact streamStateError_ends h _ _
      · exact streamStateError_ends h _ _
      · exact flowControlError_ends h _
      · trivial
      · trivial
  | none =>
      dsimp only
      split_ifs
      · exact streamStateError_ends h _ _
      · exact streamStateError_ends h _ _
      · exact flowControlError_ends h _
      · trivial

/-- A refused capsule leaves the entry as it was, unless it created its stream first. -/
theorem judge_ends (h : P w) (r : Received)
    (hcreated : ∀ streamId, r.dataStream = some streamId →
      isReceivableDataCapsule streamId isServer = true → w.streams.find? streamId = none →
      streamId ∉ w.releasedStreamIds →
      P (w.setStream streamId (w.newPeerStream config isServer streamId))) :
    (w.judge config isServer r).Ends P := by
  cases r with
  | stream fin streamId data => exact judgeStream_ends h fin streamId data (hcreated streamId rfl)
  | resetStream streamId errorCode reliableSize => exact judgeReset_ends h _ _ _
  | stopSending streamId errorCode => exact judgeStopSending_ends h _ _
  | maxData maxData =>
      unfold judge judgeMaxData
      dsimp only
      split_ifs
      · exact flowControlError_ends h _
      · trivial
      · trivial
  | maxStreamData streamId maxData => exact judgeMaxStreamData_ends h _ _
  | maxStreams isBidi maxStreams =>
      unfold judge judgeMaxStreams
      dsimp only
      split_ifs
      · exact flowControlError_ends h _
      · exact flowControlError_ends h _
      · trivial
      · trivial
      · exact flowControlError_ends h _
      · trivial
      · trivial
  | streamDataBlocked streamId =>
      unfold judge judgeStreamDataBlocked
      dsimp only
      split_ifs
      · exact streamStateError_ends h _ _
      · exact streamStateError_ends h _ _
      · exact streamStateError_ends h _ _
      · trivial
  | streamsBlocked maxStreams =>
      unfold judge
      dsimp only
      split_ifs
      · exact flowControlError_ends h _
      · trivial
  | datagram data => trivial
  | closeSession errorCode message => rfl
  | drainSession => trivial
  | ignored => trivial

end Ends

end WtSessionInfo

namespace SessionScope

open WtSessionInfo (Trans Wf Stands Emits Answers)

/-- One operation on the session. -/
def step (sc : SessionScope) : Op → SessionScope
  | .openStream isUnidirectional =>
      sc.onEntry fun w => (w.openStream sc.config sc.isServer isUnidirectional).1
  | .sendStreamData streamId data fin =>
      sc.onEntry (WtSessionInfo.sendStreamData streamId data fin)
  | .resetStream streamId errorCode =>
      if streamId > kMaxQuicVarint then sc
      else sc.onEntry (WtSessionInfo.resetStream streamId errorCode.toNat)
  | .stopSending streamId errorCode =>
      if streamId > kMaxQuicVarint then sc
      else sc.onEntry (WtSessionInfo.stopSending streamId errorCode.toNat)
  | .sendDatagram data => sc.onEntry (WtSessionInfo.sendDatagram data)
  | .drainSession => sc.onEntry WtSessionInfo.drainSession
  | .closeSession errorCode message => sc.closeSession errorCode.toNat message
  | .receive c => sc.processCapsules c.bytes

/-- The `send_stream_data` call of an operation, when it takes its data in. -/
def acceptedCall (sc : SessionScope) : Op → List (Nat × Bytes × Bool)
  | .sendStreamData streamId data fin =>
      match sc.entry with
      | none => []
      | some w => if w.takesData streamId then [(streamId, data, fin)] else []
  | _ => []

/-- The capsule of a payload that was read, when the verdict accepts it. -/
def takenIn (config : H2SessionConfig) (isServer : Bool) (w : WtSessionInfo) :
    Reading → List Received
  | .received r =>
      match w.judge config isServer r with
      | .accept _ _ _ => [r]
      | _ => []
  | _ => []

/-- The received capsule of an operation, when it passes every check. -/
def acceptedCapsule (sc : SessionScope) : Op → List Received
  | .receive c =>
      match sc.entry with
      | none => []
      | some w =>
          if w.isTerminated ∨ c.payload.length > sc.config.wtMaxCapsulePayloadSize then []
          else takenIn sc.config sc.isServer w (readPayload c.type c.payload)
  | _ => []

/-- The accepted calls along a run. -/
def acceptedCalls (sc : SessionScope) : List Op → List (Nat × Bytes × Bool)
  | [] => []
  | op :: ops => sc.acceptedCall op ++ (sc.step op).acceptedCalls ops

/-- The accepted capsules along a run. -/
def acceptedCapsules (sc : SessionScope) : List Op → List Received
  | [] => []
  | op :: ops => sc.acceptedCapsule op ++ (sc.step op).acceptedCapsules ops

/-- The restrictions let the operation through. -/
def Permitted (permits : Permits) (sc : SessionScope) (op : Op) : Prop :=
  ∀ w, sc.entry = some w →
    match op with
    | .openStream isUnidirectional =>
        w.streams.find? (w.nextStreamId sc.isServer isUnidirectional) = none →
          permits.create w (w.nextStreamId sc.isServer isUnidirectional)
    | .resetStream streamId _ => permits.reset streamId
    | .stopSending streamId _ => permits.stop streamId
    | .receive c =>
        ∀ r, readPayload c.type c.payload = .received r → permits.Admits sc.isServer w r
    | _ => True

/-- A step of a run under restrictions. -/
def StepUnder (permits : Permits) (sc : SessionScope) (op : Op) (sc' : SessionScope) : Prop :=
  sc.Permitted permits op ∧ sc' = sc.step op

theorem stepUnder_all (sc : SessionScope) (op : Op) : sc.StepUnder .all op (sc.step op) := by
  refine ⟨?_, rfl⟩
  intro w hw
  cases op with
  | receive c => exact fun r _ => Permits.all_admits sc.isServer w r
  | openStream isUnidirectional => exact fun _ => trivial
  | _ => trivial

/-! ## Following the labels -/

/-- What an operation adds to a session that stands at `w`: labels that lead on to some `w'`, and
effects that say the same as the labels. -/
def Extends (permits : Permits) (sc : SessionScope) (w : WtSessionInfo) (ls : List Label)
    (w' : WtSessionInfo) (sc' : SessionScope) : Prop :=
  Path (Trans permits sc.config sc.isServer) w ls w' ∧
    Stands permits sc.config sc.isServer w' sc'.entry ∧
    sc'.isServer = sc.isServer ∧ sc'.config = sc.config ∧ sc'.sessionId = sc.sessionId ∧
    (sc'.entry = none → ls = []) ∧
    ∃ es, sc'.effects = sc.effects ++ es ∧ Effect.Sends es (Label.sentOf ls) sc'.entry ∧
      Effect.pushed es = (Label.eventsOf ls).map fun e => { e with sessionId := sc.sessionId }

section Step

variable {permits : Permits} {sc : SessionScope} {w : WtSessionInfo}

/-- No change queues a WT_CLOSE_SESSION. -/
theorem sentOf_isClose {ls : List Label} {w₀ w' : WtSessionInfo} {config : H2SessionConfig}
    {isServer : Bool} (h : Path (Trans permits config isServer) w₀ ls w') :
    ∀ c ∈ Label.sentOf ls, c.isClose = false := by
  induction ls generalizing w₀ with
  | nil => exact fun c hc => absurd hc List.not_mem_nil
  | cons l ls ih =>
      rcases h with ⟨mid, hstep, hrest⟩
      have hih := ih hrest
      cases l with
      | sent c =>
          intro c' hc'
          rcases List.mem_cons.1 hc' with rfl | hc'
          · cases hstep <;> rfl
          · exact hih c' hc'
      | accepted streamId data fin => exact hih
      | received r events => exact hih
      | internal => exact hih

theorem capsules_map_capsule (cs : List Capsule) : Effect.capsules (cs.map .capsule) = cs := by
  unfold Effect.capsules
  rw [List.filterMap_map]
  exact List.filterMap_some

/-- Storing what an operation emits. -/
theorem extends_of_path {ls : List Label} {q : Queued}
    (hpath : Path (Trans permits sc.config sc.isServer) w ls q.1) (hsent : Label.sentOf ls = q.2)
    (hreceived : Label.receivedOf ls = []) : Extends permits sc w ls q.1 (sc.store q) := by
  refine ⟨hpath, .live, rfl, rfl, rfl, fun hnone => absurd hnone (Option.some_ne_none _),
    q.2.map .capsule, rfl, Or.inl ?_, ?_⟩
  · rw [hsent, capsules_map_capsule]
  · rw [Label.eventsOf_eq_nil hreceived, List.map_nil]
    unfold Effect.pushed
    rw [List.filterMap_map, List.filterMap_eq_nil_iff]
    exact fun _ _ => rfl

theorem extends_of_emits {q : Queued} (h : Emits permits sc.config sc.isServer w q) :
    ∃ ls, Extends permits sc w ls q.1 (sc.store q) ∧ Label.acceptedOf ls = [] ∧
      Label.receivedOf ls = [] := by
  rcases h with ⟨ls, hpath, hsent, hreceived, haccepted⟩
  exact ⟨ls, extends_of_path hpath hsent hreceived, haccepted, hreceived⟩

theorem truncateUtf8_length_le (message : Bytes) (len : Nat) :
    (truncateUtf8 message len).length ≤ len := by
  induction len with
  | zero => exact Nat.le_refl _
  | succ len ih =>
      unfold truncateUtf8
      split_ifs
      · rw [List.length_take]
        exact min_le_left _ _
      · exact Nat.le_succ_of_le ih

/-- The message of a WT_CLOSE_SESSION is as short as the specification asks. -/
theorem closeMessage_length_le (message : Bytes) :
    (closeMessage message).length ≤ kMaxApplicationErrorMessageBytes :=
  le_trans (truncateUtf8_length_le _ _) (min_le_right _ _)

/-- Closing a session that stands at an entry changed by `f` behind some effects. -/
theorem closeSession_live {w' : WtSessionInfo} (hentry : sc.entry = some w')
    (hlive : w'.isTerminated = false) (errorCode : Nat) (message : Bytes) :
    sc.closeSession errorCode message =
      { sc with
        entry := some w'.ended
        effects := sc.effects ++ [.discardStreamRecvBytes,
          .capsule (.wtCloseSession errorCode (closeMessage message)), .endStreamPending] } := by
  unfold closeSession
  rw [hentry]
  dsimp only
  rw [if_neg (by simp [hlive])]
  rfl

/-- The session ends without having changed anything that a label shows. -/
theorem extends_ended {sc' : SessionScope} {es : List Effect}
    (hstands : Stands permits sc.config sc.isServer w sc'.entry)
    (hrole : sc'.isServer = sc.isServer) (hconfig : sc'.config = sc.config)
    (hid : sc'.sessionId = sc.sessionId) (heffects : sc'.effects = sc.effects ++ es)
    (hsends : Effect.Sends es [] sc'.entry) (hpushed : Effect.pushed es = []) :
    Extends permits sc w [] w sc' :=
  ⟨Path.none w, hstands, hrole, hconfig, hid, fun _ => rfl, es, heffects, hsends, hpushed⟩

theorem closeSession_extends (hentry : sc.entry = some w) (hlive : w.isTerminated = false)
    (errorCode : Nat) (message : Bytes) :
    Extends permits sc w [] w (sc.closeSession errorCode message) := by
  rw [closeSession_live hentry hlive]
  exact extends_ended .ended rfl rfl rfl rfl
    (Or.inr ⟨_, _, rfl, closeMessage_length_le message, _, rfl, rfl⟩) rfl

theorem pushed_errorEvents {event : Option H2Event} (h : ∀ e ∈ event, e.type = .error)
    (sc : SessionScope) : Effect.pushed (event.toList.map sc.eventEffect) = [] := by
  cases event with
  | none => rfl
  | some e =>
      have htype : e.type = .error := h e rfl
      simp [Effect.pushed, eventEffect, H2Event.reportsEnd, htype]

theorem capsules_events (events : List H2Event) (sc : SessionScope) :
    Effect.capsules (events.map sc.eventEffect) = [] := by
  unfold Effect.capsules
  rw [List.filterMap_map, List.filterMap_eq_nil_iff]
  exact fun _ _ => rfl

theorem pushed_capsules (cs : List Capsule) : Effect.pushed (cs.map .capsule) = [] := by
  unfold Effect.pushed
  rw [List.filterMap_map, List.filterMap_eq_nil_iff]
  exact fun _ _ => rfl

/-- A refused capsule ends the session. -/
theorem carryOut_refuse_extends {w' : WtSessionInfo} {event : Option H2Event} {errorCode : Nat}
    {message : String} (hlive : w'.isTerminated = false)
    (hstands : Stands permits sc.config sc.isServer w (some w'.ended))
    (hevent : ∀ e ∈ event, e.type = .error) :
    Extends permits sc w [] w (sc.carryOut (.refuse w' event errorCode message)) := by
  dsimp only [carryOut]
  rw [closeSession_live rfl hlive]
  refine extends_ended hstands rfl rfl rfl (List.append_assoc _ _ _)
    (Or.inr ⟨errorCode, closeMessage (ascii message), ?_, closeMessage_length_le _, _, rfl, rfl⟩) ?_
  · rw [Effect.capsules_append, capsules_events]
    rfl
  · rw [Effect.pushed_append, pushed_errorEvents hevent]
    rfl

/-- A reported error ends the session. -/
theorem reportWtError_extends (hentry : sc.entry = some w) (hlive : w.isTerminated = false)
    (message : String) : Extends permits sc w [] w (sc.reportWtError message) := by
  unfold reportWtError
  rw [closeSession_live (show (sc.pushEvent _).entry = some w from hentry) hlive]
  exact extends_ended .ended rfl rfl rfl (List.append_assoc _ _ _)
    (Or.inr ⟨_, _, rfl, closeMessage_length_le _, _, rfl, rfl⟩) rfl

/-- No change pushes an event that reports the end of the session. -/
theorem reportsEnd_of_trans {w' : WtSessionInfo} {config : H2SessionConfig} {isServer : Bool}
    {r : Received} {events : List H2Event}
    (h : Trans permits config isServer w (.received r events) w') :
    ∀ e ∈ events, e.reportsEnd = false := by
  intro e he
  cases h with
  | recvStream =>
      unfold WtSessionInfo.streamEvents at he
      split_ifs at he
      · rw [List.mem_singleton.1 he]
        rfl
      · exact absurd he List.not_mem_nil
  | recvReset =>
      rw [List.mem_singleton.1 he]
      rfl
  | recvStop =>
      rw [List.mem_singleton.1 he]
      rfl
  | recvStopUnknown =>
      split_ifs at he
      · rw [List.mem_singleton.1 he]
        rfl
      · exact absurd he List.not_mem_nil
  | recvNothing =>
      cases r with
      | datagram data =>
          rw [List.mem_singleton.1 he]
          rfl
      | drainSession =>
          rw [List.mem_singleton.1 he]
          rfl
      | _ => exact absurd he List.not_mem_nil
  | _ => exact absurd he List.not_mem_nil

theorem pushed_events {events : List H2Event} (h : ∀ e ∈ events, e.reportsEnd = false)
    (sc : SessionScope) :
    Effect.pushed (events.map sc.eventEffect) =
      events.map fun e => { e with sessionId := sc.sessionId } := by
  induction events with
  | nil => rfl
  | cons e events ih =>
      have hfirst := h e List.mem_cons_self
      have hrest := ih fun e' he' => h e' (List.mem_cons_of_mem _ he')
      have hone : Effect.pushed [sc.eventEffect e] = [{ e with sessionId := sc.sessionId }] := by
        have hsame : ({ e with sessionId := sc.sessionId } : H2Event).reportsEnd = false := hfirst
        simp [Effect.pushed, eventEffect, hsame]
      rw [List.map_cons, List.map_cons, ← List.singleton_append, Effect.pushed_append, hone, hrest]
      rfl

/-- Carrying out an accepted capsule. -/
theorem carryOut_accept_extends {r : Received} {before after : List H2Event} {q : Queued}
    (h : Answers permits sc.config sc.isServer w r (before ++ after) q) :
    ∃ ls, Extends permits sc w (.received r (before ++ after) :: ls) q.1
        (sc.carryOut (.accept before q after)) ∧
      Label.acceptedOf ls = [] ∧ Label.receivedOf ls = [] := by
  rcases h with ⟨ls, hpath, hsent, hreceived, haccepted⟩
  have hquiet : ∀ e ∈ before ++ after, e.reportsEnd = false := by
    rcases hpath with ⟨mid, hstep, -⟩
    exact reportsEnd_of_trans hstep
  refine ⟨ls, ⟨hpath, .live, rfl, rfl, rfl, fun hnone => absurd hnone (Option.some_ne_none _), _, rfl,
    Or.inl ?_, ?_⟩, haccepted, hreceived⟩
  · rw [Effect.capsules_append, Effect.capsules_append, capsules_events, capsules_events,
      capsules_map_capsule, List.append_nil, List.nil_append]
    exact hsent.symm
  · have hevents : Label.eventsOf (.received r (before ++ after) :: ls) = before ++ after := by
      have hrest := Label.eventsOf_eq_nil hreceived
      unfold Label.eventsOf at hrest ⊢
      rw [List.flatMap_cons, hrest, List.append_nil]
    rw [hevents, ← pushed_events hquiet sc, Effect.pushed_append, Effect.pushed_append,
      pushed_capsules, List.append_nil, List.map_append, Effect.pushed_append]

/-- Effects in front that no label shows. -/
theorem Extends.behind (es : List Effect) {ls : List Label} {w' : WtSessionInfo} {sc' : SessionScope}
    (hcapsules : Effect.capsules es = []) (hpushed : Effect.pushed es = [])
    (h : Extends permits { sc with effects := sc.effects ++ es } w ls w' sc') :
    Extends permits sc w ls w' sc' := by
  rcases h with ⟨hpath, hstands, hrole, hconfig, hid, hgone, es', heffects, hsent, hevents⟩
  refine ⟨hpath, hstands, hrole, hconfig, hid, hgone, es ++ es', ?_, ?_, ?_⟩
  · rw [heffects, List.append_assoc]
  · unfold Effect.Sends
    rw [Effect.capsules_append, hcapsules, List.nil_append]
    exact hsent
  · rw [Effect.pushed_append, hpushed, List.nil_append]
    exact hevents

/-- Reacting to a payload that was read: what is taken in comes first. -/
theorem react_labels (hentry : sc.entry = some w) (hwf : Wf sc.isServer w)
    (hlive : w.isTerminated = false) (reading : Reading)
    (hadmits : ∀ r, reading = .received r → permits.Admits sc.isServer w r) :
    ∃ ls w', Extends permits sc w ls w' (sc.react w reading) ∧ Label.acceptedOf ls = [] ∧
      Label.receivedOf ls = takenIn sc.config sc.isServer w reading ∧
      Label.receivedOf ls.tail = [] := by
  cases reading with
  | malformed =>
      refine ⟨[], w, extends_ended ?_ rfl rfl rfl rfl (Or.inl rfl) rfl, rfl, rfl, rfl⟩
      simp only [react, resetStreamForMalformedCapsule, hentry, Option.map_some]
      exact .ended
  | wtError message => exact ⟨[], w, reportWtError_extends hentry hlive message, rfl, rfl, rfl⟩
  | received r =>
      have hends : (w.judge sc.config sc.isServer r).Ends fun w' =>
          w' = w ∨ WtSessionInfo.CreatedBy permits sc.config sc.isServer w w' := by
        refine WtSessionInfo.judge_ends (Or.inl rfl) r
          fun streamId hdata _ hnone hnew => Or.inr ?_
        exact ⟨streamId, (hadmits r rfl).create streamId hdata hnone hnew, hnone, hnew, rfl⟩
      have hreact : sc.react w (.received r) = sc.carryOut (w.judge sc.config sc.isServer r) :=
        receive_eq hentry r
      rw [hreact]
      cases hjudge : w.judge sc.config sc.isServer r with
      | refuse w' event errorCode message =>
          rw [hjudge] at hends
          rcases hends with ⟨hleft, hevent⟩
          rcases hleft with rfl | hcreated
          · exact ⟨[], _, carryOut_refuse_extends hlive .ended hevent, by simp [Label.acceptedOf],
              by simp [Label.receivedOf, takenIn, hjudge], rfl⟩
          · have hlive' : w'.isTerminated = false := by
              rcases hcreated.exists_stream with ⟨streamId, -, -, -, rfl⟩
              exact hlive
            exact ⟨[], w, carryOut_refuse_extends hlive' (.refused hcreated) hevent,
              by simp [Label.acceptedOf], by simp [Label.receivedOf, takenIn, hjudge], rfl⟩
      | close event =>
          rw [hjudge] at hends
          have htype : event.type = .sessionClosed := hends
          refine ⟨[], w, extends_ended .gone rfl rfl rfl (List.append_assoc _ _ _) (Or.inl rfl) ?_,
            by simp [Label.acceptedOf], by simp [Label.receivedOf, takenIn, hjudge], rfl⟩
          simp [Effect.pushed, H2Event.reportsEnd, htype]
      | accept before q after =>
          have hanswers := WtSessionInfo.judge_answers hwf (hadmits r rfl) hjudge
          rcases carryOut_accept_extends hanswers with ⟨ls, hext, hacc, hrecv⟩
          refine ⟨_, q.1, hext, hacc, ?_, hrecv⟩
          have hfirst : Label.receivedOf (.received r (before ++ after) :: ls) =
              r :: Label.receivedOf ls := rfl
          rw [hfirst, hrecv]
          simp only [takenIn, hjudge]

/-- Reacting to a payload that was read. -/
theorem react_extends (hentry : sc.entry = some w) (hwf : Wf sc.isServer w)
    (hlive : w.isTerminated = false) (reading : Reading)
    (hadmits : ∀ r, reading = .received r → permits.Admits sc.isServer w r) :
    ∃ ls w', Extends permits sc w ls w' (sc.react w reading) ∧ Label.acceptedOf ls = [] ∧
      Label.receivedOf ls = takenIn sc.config sc.isServer w reading := by
  rcases react_labels hentry hwf hlive reading hadmits with ⟨ls, w', hext, hacc, hrecv, -⟩
  exact ⟨ls, w', hext, hacc, hrecv⟩


theorem closeOversized_extends (hentry : sc.entry = some w) (hlive : w.isTerminated = false)
    (hbuf : w.capsuleBuffer = []) : Extends permits sc w [] w sc.closeOversized := by
  have hended : w.ended.withBuffer [] = w.ended := by
    cases w
    simp only at hbuf
    rw [hbuf]
    rfl
  rcases reportWtError_extends hentry hlive "capsule payload exceeds limit" with
    ⟨hpath, -, hrole, hconfig, hid, -, es, heffects, hsends, hpushed⟩
  rcases closeOversized_entry hentry hlive with ⟨w', hw', hterm, -⟩
  have hsends' : Effect.Sends es [] sc.closeOversized.entry := by
    rcases hsends with hnone | ⟨errorCode, message, hclose, hlength, -⟩
    · exact Or.inl hnone
    · exact Or.inr ⟨errorCode, message, hclose, hlength, w', hw', hterm⟩
  refine ⟨hpath, ?_, hrole, hconfig, hid, fun _ => rfl, es, heffects, hsends', hpushed⟩
  unfold closeOversized reportWtError
  rw [closeSession_live (show (sc.pushEvent _).entry = some w from hentry) hlive]
  dsimp only [Option.map_some]
  rw [hended]
  exact .ended

/-- A received capsule on a live session. -/
theorem receive_extends (hentry : sc.entry = some w) (hwf : Wf sc.isServer w)
    (hlive : w.isTerminated = false) (hbuf : w.capsuleBuffer = []) (c : RawCapsule)
    (hpermit : sc.Permitted permits (.receive c)) :
    ∃ ls w', Extends permits sc w ls w' (sc.step (.receive c)) ∧ Label.acceptedOf ls = [] ∧
      Label.receivedOf ls = sc.acceptedCapsule (.receive c) := by
  unfold step acceptedCapsule RawCapsule.bytes
  rw [hentry]
  dsimp only
  by_cases hlimit : c.payload.length > sc.config.wtMaxCapsulePayloadSize
  · rw [processCapsules_oversized hentry hlive hbuf c.type_le c.length_le hlimit,
      if_pos (Or.inr hlimit)]
    exact ⟨[], w, closeOversized_extends hentry hlive hbuf, rfl, rfl⟩
  · have hfits : Fits sc.config (c.type, c.payload) := ⟨c.type_le, c.length_le, not_lt.1 hlimit⟩
    have hone : sc.processCapsules (encodeCapsule c.type c.payload) =
        sc.dispatch (c.type, c.payload) :=
      @processCapsules_one sc w (c.type, c.payload) hentry hlive hbuf hfits
    rw [hone, if_neg (by simp [hlive, hlimit])]
    -- The dispatch and the credit given back for it stand in front of what the handler does.
    let front : List Effect := [.dispatch c.type c.payload,
      .consumeRecvBytes (encodeCapsule c.type c.payload).length]
    have hfront : { sc with effects := sc.effects ++ front }.entry = some w := hentry
    have hdispatch : sc.dispatch (c.type, c.payload) =
        { sc with effects := sc.effects ++ front }.react w (readPayload c.type c.payload) := by
      rw [← handleCapsule_eq hfront]
      simp [front, dispatch, processCapsule, perform]
    rw [hdispatch]
    rcases react_extends hfront hwf hlive (readPayload c.type c.payload) (hpermit w hentry) with
      ⟨ls, w', hext, hacc, hrecv⟩
    exact ⟨ls, w', Extends.behind _ rfl rfl hext, hacc, hrecv⟩

theorem onEntry_extends {f : WtSessionInfo → Queued} (hentry : sc.entry = some w)
    (h : Emits permits sc.config sc.isServer w (f w)) :
    ∃ ls w', Extends permits sc w ls w' (sc.onEntry f) ∧ Label.acceptedOf ls = [] ∧
      Label.receivedOf ls = [] := by
  have hstore : sc.onEntry f = sc.store (f w) := by
    unfold onEntry
    rw [hentry]
  rw [hstore]
  rcases extends_of_emits h with ⟨ls, hext⟩
  exact ⟨ls, _, hext⟩

theorem extends_self (hentry : sc.entry = some w) :
    ∃ ls w', Extends permits sc w ls w' sc ∧ Label.acceptedOf ls = [] ∧ Label.receivedOf ls = [] :=
  ⟨[], w, ⟨Path.none w, hentry ▸ .live, rfl, rfl, rfl, fun _ => rfl, [], (List.append_nil _).symm,
    Or.inl rfl, rfl⟩, rfl, rfl⟩

/-- A call of the application adds labels, and effects that say the same. -/
theorem api_extends (hentry : sc.entry = some w) (hwf : Wf sc.isServer w) (op : Op)
    (hop : ∀ c, op ≠ .receive c) (hpermit : sc.Permitted permits op) :
    ∃ ls w', Extends permits sc w ls w' (sc.step op) ∧ Label.acceptedOf ls = sc.acceptedCall op ∧
      Label.receivedOf ls = [] := by
  cases op with
  | openStream isUnidirectional =>
      exact onEntry_extends hentry
        (WtSessionInfo.openStream_emits w _ fun hnone _ => hpermit w hentry hnone)
  | sendStreamData streamId data fin =>
      rcases WtSessionInfo.sendStreamData_path hwf streamId data fin with
        ⟨ls, hpath, hsent, hrecv, hacc⟩
      have hstore : sc.step (.sendStreamData streamId data fin) =
          sc.store (w.sendStreamData streamId data fin) := by
        unfold step onEntry
        rw [hentry]
      rw [hstore]
      refine ⟨ls, _, extends_of_path hpath hsent hrecv, ?_, hrecv⟩
      simp only [acceptedCall, hentry]
      exact hacc
  | resetStream streamId errorCode =>
      unfold step
      dsimp only
      split_ifs
      · exact extends_self hentry
      · exact onEntry_extends hentry (WtSessionInfo.resetStream_emits w (hpermit w hentry) _)
  | stopSending streamId errorCode =>
      unfold step
      dsimp only
      split_ifs
      · exact extends_self hentry
      · exact onEntry_extends hentry (WtSessionInfo.stopSending_emits w (hpermit w hentry) _)
  | sendDatagram data => exact onEntry_extends hentry (WtSessionInfo.sendDatagram_emits w data)
  | drainSession => exact onEntry_extends hentry (WtSessionInfo.drainSession_emits w)
  | closeSession errorCode message =>
      cases hterm : w.isTerminated with
      | false => exact ⟨[], w, closeSession_extends hentry hterm _ _, rfl, rfl⟩
      | true =>
          have hself : sc.step (.closeSession errorCode message) = sc := by
            simp only [step, closeSession, hentry, hterm, if_true]
          rw [hself]
          exact extends_self hentry
  | receive c => exact absurd rfl (hop c)

/-- An operation on a live session adds labels, and effects that say the same. -/
theorem step_extends (hentry : sc.entry = some w) (hwf : Wf sc.isServer w)
    (hlive : w.isTerminated = false) (hbuf : w.capsuleBuffer = []) (op : Op)
    (hpermit : sc.Permitted permits op) :
    ∃ ls w', Extends permits sc w ls w' (sc.step op) ∧ Label.acceptedOf ls = sc.acceptedCall op ∧
      Label.receivedOf ls = sc.acceptedCapsule op := by
  cases op with
  | receive c => exact receive_extends hentry hwf hlive hbuf c hpermit
  | _ => exact api_extends hentry hwf _ (fun c => by simp) hpermit

/-! ### After the end -/

theorem step_gone (hentry : sc.entry = none) (op : Op) :
    sc.step op = sc ∧ sc.acceptedCall op = [] ∧ sc.acceptedCapsule op = [] := by
  cases op with
  | resetStream streamId errorCode =>
      simp only [step, onEntry, hentry, ite_self, acceptedCall, acceptedCapsule, and_self]
  | stopSending streamId errorCode =>
      simp only [step, onEntry, hentry, ite_self, acceptedCall, acceptedCapsule, and_self]
  | closeSession errorCode message =>
      simp only [step, closeSession, hentry, acceptedCall, acceptedCapsule, and_self]
  | receive c =>
      simp only [step, processCapsules, hentry, acceptedCall, acceptedCapsule, and_self]
  | _ => simp only [step, onEntry, hentry, acceptedCall, acceptedCapsule, and_self]

/-- A terminated session ignores what comes. -/
theorem step_ended (hentry : sc.entry = some w.ended) (hbuf : w.capsuleBuffer = []) (op : Op) :
    sc.step op = sc ∧ sc.acceptedCall op = [] ∧ sc.acceptedCapsule op = [] := by
  have hstore : sc.store (w.ended, []) = sc := by
    rw [← carryOut_store]
    exact carryOut_unchanged hentry
  have hterm : w.ended.isTerminated = true := rfl
  have hest : w.ended.isEstablished = false := rfl
  cases op with
  | openStream isUnidirectional =>
      refine ⟨?_, rfl, rfl⟩
      simp only [step, onEntry, hentry, WtSessionInfo.openStream, hest, Bool.not_false, if_true]
      exact hstore
  | sendStreamData streamId data fin =>
      refine ⟨?_, ?_, rfl⟩
      · simp only [step, onEntry, hentry, WtSessionInfo.sendStreamData, hterm, if_true]
        exact hstore
      · simp [acceptedCall, hentry, WtSessionInfo.takesData, hterm]
  | resetStream streamId errorCode =>
      refine ⟨?_, rfl, rfl⟩
      simp only [step, onEntry, hentry, WtSessionInfo.resetStream, hterm, if_true]
      rw [hstore, ite_self]
  | stopSending streamId errorCode =>
      refine ⟨?_, rfl, rfl⟩
      simp only [step, onEntry, hentry, WtSessionInfo.stopSending, hterm, if_true]
      rw [hstore, ite_self]
  | sendDatagram data =>
      refine ⟨?_, rfl, rfl⟩
      simp only [step, onEntry, hentry, WtSessionInfo.sendDatagram, hterm, if_true]
      exact hstore
  | drainSession =>
      refine ⟨?_, rfl, rfl⟩
      simp only [step, onEntry, hentry, WtSessionInfo.drainSession, hterm, if_true]
      exact hstore
  | closeSession errorCode message =>
      refine ⟨?_, rfl, rfl⟩
      simp only [step, closeSession, hentry, hterm, if_true]
  | receive c =>
      refine ⟨?_, rfl, by simp [acceptedCapsule, hentry, hterm]⟩
      have happ : (sc.appendBuffer c.bytes).entry = some (w.ended.withBuffer c.bytes) := by
        simp only [appendBuffer, hentry, Option.map_some]
        congr 1
        simp only [WtSessionInfo.withBuffer, WtSessionInfo.ended, hbuf, List.nil_append]
      have hback : (sc.appendBuffer c.bytes).setEntry
          { w.ended.withBuffer c.bytes with capsuleBuffer := [] } = sc := by
        have hself : { w.ended.withBuffer c.bytes with capsuleBuffer := [] } = w.ended := by
          simp only [WtSessionInfo.withBuffer, WtSessionInfo.ended, hbuf]
        rw [hself]
        exact setEntry_self hentry
      have hturn : (sc.appendBuffer c.bytes).loopTurn = .stop sc := by
        unfold loopTurn
        rw [happ]
        exact (if_pos rfl).trans (congrArg LoopTurn.stop hback)
      simp only [step]
      rw [processCapsules_eq_loop, loop_of_stop hturn]

end Step

/-! ## Runs -/

/-- The session got where it is along `ls`, from the entry `w₀` and without effects. -/
structure Follows (permits : Permits) (w₀ : WtSessionInfo) (ls : List Label) (w : WtSessionInfo)
    (sc : SessionScope) : Prop where
  path : Path (Trans permits sc.config sc.isServer) w₀ ls w
  stands : Stands permits sc.config sc.isServer w sc.entry
  queued : Effect.queued sc.effects = Label.sentOf ls
  pushed : Effect.pushed sc.effects =
    (Label.eventsOf ls).map fun e => { e with sessionId := sc.sessionId }

/-- A session just established: no streams, nothing sent, nothing in the buffer. -/
structure Fresh (sc : SessionScope) (w : WtSessionInfo) : Prop where
  entry : sc.entry = some w
  established : w.isEstablished = true
  live : w.isTerminated = false
  buffer : w.capsuleBuffer = []
  streams : w.streams = ∅
  released : w.releasedStreamIds = ∅
  sent : w.bytesSent = 0
  effects : sc.effects = []

theorem Fresh.wf {sc : SessionScope} {w : WtSessionInfo} (h : sc.Fresh w) : Wf sc.isServer w := by
  refine ⟨?_, ?_⟩
  · intro streamId info hfind
    rw [h.streams] at hfind
    cases hfind
  · rw [h.sent]
    exact Nat.zero_le _

/-- A server's session under the default configuration. -/
def plainSession : SessionScope where
  isServer := true
  config := {}
  sessionId := 1
  entry := some { http2StreamId := 1, isEstablished := true, maxDataRemote := 1048576,
                  maxStreamsBidiRemote := 100, maxStreamsUniRemote := 100 }

section Run

variable {permits : Permits} {w₀ w : WtSessionInfo} {ls : List Label} {sc sc' : SessionScope}

/-- A path keeps the entry well formed, live and with the buffer it had. -/
theorem path_keeps {config : H2SessionConfig} {isServer : Bool}
    (h : Path (Trans permits config isServer) w₀ ls w) (hwf : Wf isServer w₀) :
    Wf isServer w ∧ w.stage = w₀.stage := by
  refine h.invariant (fun w' => Wf isServer w' ∧ w'.stage = w₀.stage) ?_ ⟨hwf, rfl⟩
  rintro a b l ⟨ha, hstage⟩ hab
  exact ⟨hab.wf ha, hab.stage_eq.trans hstage⟩

/-- One operation continues the labels. -/
theorem step_follows (hwf : Wf sc.isServer w₀) (hlive : w₀.isTerminated = false)
    (hbuf : w₀.capsuleBuffer = []) (h : Follows permits w₀ ls w sc) {op : Op}
    (hstep : sc.StepUnder permits op sc') :
    ∃ ls' w', Follows permits w₀ (ls ++ ls') w' sc' ∧
      Path (Trans permits sc.config sc.isServer) w ls' w' ∧ sc'.isServer = sc.isServer ∧
      sc'.config = sc.config ∧ (sc'.entry = none → w' = w) ∧
      Label.acceptedOf ls' = sc.acceptedCall op ∧ Label.receivedOf ls' = sc.acceptedCapsule op := by
  rcases hstep with ⟨hpermit, rfl⟩
  rcases path_keeps h.path hwf with ⟨hwf', hstage⟩
  have hlive' : w.isTerminated = false := (congrArg (fun s => s.2.1) hstage).trans hlive
  have hbuf' : w.capsuleBuffer = [] := (congrArg (fun s => s.2.2.2) hstage).trans hbuf
  have hstay : sc.step op = sc ∧ sc.acceptedCall op = [] ∧ sc.acceptedCapsule op = [] →
      ∃ ls' w', Follows permits w₀ (ls ++ ls') w' (sc.step op) ∧
        Path (Trans permits sc.config sc.isServer) w ls' w' ∧ (sc.step op).isServer = sc.isServer ∧
        (sc.step op).config = sc.config ∧ ((sc.step op).entry = none → w' = w) ∧
        Label.acceptedOf ls' = sc.acceptedCall op ∧ Label.receivedOf ls' = sc.acceptedCapsule op := by
    rintro ⟨hself, hcall, hcapsule⟩
    rw [hself, hcall, hcapsule]
    exact ⟨[], w, by rw [List.append_nil]; exact h, Path.none w, rfl, rfl, fun _ => rfl, rfl, rfl⟩
  have hstands := h.stands
  cases hentry : sc.entry with
  | none => exact hstay (step_gone hentry op)
  | some w' =>
      rw [hentry] at hstands
      cases hstands with
      | live =>
          rcases step_extends hentry hwf' hlive' hbuf' op hpermit with ⟨ls', w'', hext, hacc, hrecv⟩
          rcases hext with ⟨hpath, hst, hrole, hconfig, hid, hgone, es, heffects, hsent, hevents⟩
          have hlast : (sc.step op).entry = none → w'' = w := by
            intro hnone
            rw [hgone hnone] at hpath
            exact hpath.symm
          refine ⟨ls', w'', ⟨?_, ?_, ?_, ?_⟩, hpath, hrole, hconfig, hlast, hacc, hrecv⟩
          · rw [hrole, hconfig]
            exact h.path.join hpath
          · rw [hrole, hconfig]
            exact hst
          · rw [heffects, Effect.queued_append, h.queued, hsent.queued (sentOf_isClose hpath),
              Label.sentOf_append]
          · rw [heffects, Effect.pushed_append, h.pushed, hevents, hid, Label.eventsOf_append,
              List.map_append]
      | ended => exact hstay (step_ended hentry hbuf' op)
      | refused hcreated =>
          rcases hcreated.exists_stream with ⟨streamId, -, -, -, rfl⟩
          exact hstay (step_ended hentry hbuf' op)

/-- A run of operations is a path of changes, and its effects say what the labels say. -/
theorem run_follows (hwf : Wf sc.isServer w₀) (hlive : w₀.isTerminated = false)
    (hbuf : w₀.capsuleBuffer = []) (h : Follows permits w₀ ls w sc) {ops : List Op}
    (hrun : Path (StepUnder permits) sc ops sc') :
    ∃ ls' w', Follows permits w₀ (ls ++ ls') w' sc' ∧
      Path (Trans permits sc.config sc.isServer) w ls' w' ∧ sc'.isServer = sc.isServer ∧
      Label.acceptedOf ls' = sc.acceptedCalls ops ∧
      Label.receivedOf ls' = sc.acceptedCapsules ops := by
  induction ops generalizing sc ls w with
  | nil =>
      cases hrun
      exact ⟨[], w, by rw [List.append_nil]; exact h, Path.none w, rfl, rfl, rfl⟩
  | cons op ops ih =>
      rcases hrun with ⟨mid, hstep, hrest⟩
      rcases step_follows hwf hlive hbuf h hstep with
        ⟨ls₁, w₁, hfollows, hpath, hrole, hconfig, -, hacc, hrecv⟩
      rcases ih (hrole ▸ hwf) hfollows hrest with
        ⟨ls₂, w₂, hend, hpath', hrole', hacc', hrecv'⟩
      rw [List.append_assoc] at hend
      have hmid : mid = sc.step op := hstep.2
      rw [hrole, hconfig] at hpath'
      refine ⟨ls₁ ++ ls₂, w₂, hend, hpath.join hpath', hrole'.trans hrole, ?_, ?_⟩
      · rw [Label.acceptedOf_append, hacc, hacc', hmid]
        rfl
      · rw [Label.receivedOf_append, hrecv, hrecv', hmid]
        rfl

/-- A session that starts without effects follows its run from the first label on. -/
theorem run_from_start (hwf : Wf sc.isServer w₀) (hentry : sc.entry = some w₀)
    (hlive : w₀.isTerminated = false) (hbuf : w₀.capsuleBuffer = []) (heffects : sc.effects = [])
    {ops : List Op} (hrun : Path (StepUnder permits) sc ops sc') :
    ∃ ls w, Follows permits w₀ ls w sc' ∧ sc'.isServer = sc.isServer ∧
      Label.acceptedOf ls = sc.acceptedCalls ops ∧
      Label.receivedOf ls = sc.acceptedCapsules ops := by
  have hstart : Follows permits w₀ [] w₀ sc := by
    refine ⟨Path.none w₀, hentry ▸ .live, ?_, ?_⟩
    · rw [heffects]
      rfl
    · rw [heffects]
      rfl
  rcases run_follows hwf hlive hbuf hstart hrun with ⟨ls, w, hfollows, -, hrole, hacc, hrecv⟩
  exact ⟨ls, w, hfollows, hrole, hacc, hrecv⟩

/-- The entry is one that a session reaches from its start. -/
def Reached (isServer : Bool) (config : H2SessionConfig) (w : WtSessionInfo) : Prop :=
  ∃ sc w₀ ops sc', Fresh sc w₀ ∧ sc.isServer = isServer ∧ sc.config = config ∧
    Path (StepUnder .all) sc ops sc' ∧ sc'.entry = some w

theorem Reached.wf {isServer : Bool} {config : H2SessionConfig} (h : Reached isServer config w)
    (hlive : w.isTerminated = false) : Wf isServer w ∧ w.capsuleBuffer = [] := by
  rcases h with ⟨sc, w₀, ops, sc', hfresh, rfl, rfl, hrun, hentry⟩
  rcases run_from_start hfresh.wf hfresh.entry hfresh.live hfresh.buffer hfresh.effects hrun with
    ⟨ls, w', hfollows, hrole, -, -⟩
  have hstands := hfollows.stands
  rw [hentry] at hstands
  cases hstands with
  | live =>
      rcases path_keeps hfollows.path (hrole ▸ hfresh.wf) with ⟨hwf, hstage⟩
      refine ⟨hrole ▸ hwf, ?_⟩
      exact (congrArg (fun s => s.2.2.2) hstage).trans hfresh.buffer
  | ended => cases hlive
  | refused hcreated => cases hlive

end Run

end SessionScope

end H2
end WebTransport
