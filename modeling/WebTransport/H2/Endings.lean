import WebTransport.H2.Calls

/-!
# H2.Endings — a session ends once

A session is over for the application with `SessionClosed` or `SessionRejected`.  The event and the
removal of the entry from `wt_sessions_` go together in every path that ends a session, so that the
entry is what keeps a second event from being pushed.

* `Speaks`      : a scope has either an entry and told of no end, or no entry and told of one;
* `call_speaks` : every method but the rejections keeps to that;
* `ends_once`   : the events of a session id over a whole run of the connection.

`reject_session` on an accepted session is the exception: it removes the entry in silence.
-/

namespace WebTransport
namespace H2

open Bindings

/-! ## Events that end a session -/

/-- The event ends the session for the application. -/
def H2Event.ends (e : H2Event) : Bool := e.type = .sessionClosed || e.type = .sessionRejected

theorem H2Event.ends_of_error {e : H2Event} (h : e.type = .error) : e.ends = false := by
  simp [ends, h]

namespace Effect

/-- The events pushed. -/
def events (es : List Effect) : List H2Event :=
  es.filterMap fun
    | .event e => some e
    | _ => none

@[simp] theorem events_append (es es' : List Effect) : events (es ++ es') = events es ++ events es' :=
  List.filterMap_append

@[simp] theorem events_capsules (cs : List Capsule) : events (cs.map .capsule) = [] := by
  unfold events
  rw [List.filterMap_map, List.filterMap_eq_nil_iff]
  exact fun _ _ => rfl

/-- None of the events ends the session. -/
def Quiet (es : List Effect) : Prop := ∀ e ∈ events es, e.ends = false

/-- The last event, and only it, ends the session with `SessionClosed`. -/
def Closes (es : List Effect) : Prop :=
  ∃ before last, events es = before ++ [last] ∧ (∀ e ∈ before, e.ends = false) ∧
    last.type = .sessionClosed

theorem Quiet.append {es es' : List Effect} (h : Quiet es) (h' : ∀ e ∈ events es', e.ends = false) :
    Quiet (es ++ es') := by
  intro e he
  rw [events_append] at he
  rcases List.mem_append.1 he with he | he
  · exact h e he
  · exact h' e he

/-- Effects without an event keep the silence. -/
theorem Quiet.behind {es es' : List Effect} (h : Quiet es) (h' : events es' = []) :
    Quiet (es ++ es') := by
  refine h.append ?_
  rw [h']
  exact fun e he => absurd he List.not_mem_nil

theorem Quiet.closes {es : List Effect} (h : Quiet es) {e : H2Event} (he : e.type = .sessionClosed)
    {es' : List Effect} (hrest : events es' = []) : Closes (es ++ [.event e] ++ es') := by
  refine ⟨events es, e, ?_, h, he⟩
  rw [events_append, events_append, hrest, List.append_nil]
  rfl

end Effect

/-! ## What a verdict tells -/

namespace Verdict

/-- Refusals tell of an error, accepted capsules of no end, WT_CLOSE_SESSION of the close. -/
def Tells : Verdict → Prop
  | .refuse _ event _ _ => ∀ e ∈ event, e.type = .error
  | .accept before _ after => ∀ e ∈ before ++ after, e.ends = false
  | .close event => event.type = .sessionClosed

variable (w : WtSessionInfo) (streamId : Nat) (message : String)

theorem streamStateError_tells : (streamStateError w streamId message).Tells := by
  intro e he
  cases he
  rfl

theorem flowControlError_tells : (flowControlError w message).Tells := by
  intro e he
  cases he

theorem recvFlowControlError_tells : (recvFlowControlError w streamId message).Tells := by
  intro e he
  cases he
  rfl

/-- An accepted capsule without events. -/
theorem accept_tells_nothing (q : Queued) : (Verdict.accept [] q []).Tells :=
  fun _ he => absurd he List.not_mem_nil

theorem accept_tells {e : H2Event} {before after : List H2Event} (q : Queued)
    (hone : before ++ after = [e]) (he : e.ends = false) : (Verdict.accept before q after).Tells := by
  intro e' he'
  rw [hone, List.mem_singleton] at he'
  rw [he', he]

end Verdict

namespace WtSessionInfo

open Verdict

variable (config : H2SessionConfig) (isServer : Bool) (w : WtSessionInfo)

theorem judgeStreamData_tells (info : WtStreamInfo) (streamId : Nat) (fin : Bool) (data : Bytes) :
    (w.judgeStreamData config info streamId fin data).Tells := by
  unfold judgeStreamData
  split_ifs
  · exact streamStateError_tells _ _ _
  · exact recvFlowControlError_tells _ _ _
  · exact accept_tells _ rfl rfl
  · exact accept_tells_nothing _

theorem judgeStream_tells (fin : Bool) (streamId : Nat) (data : Bytes) :
    (w.judgeStream config isServer fin streamId data).Tells := by
  unfold judgeStream
  cases w.streams.find? streamId with
  | some info =>
      dsimp only
      split_ifs
      · exact streamStateError_tells _ _ _
      · exact judgeStreamData_tells _ _ _ _ _ _
  | none =>
      dsimp only
      split_ifs
      · exact streamStateError_tells _ _ _
      · exact accept_tells_nothing _
      · exact streamStateError_tells _ _ _
      · exact recvFlowControlError_tells _ _ _
      · exact judgeStreamData_tells _ _ _ _ _ _

theorem judgeReset_tells (streamId errorCode reliableSize : Nat) :
    (w.judgeReset config isServer streamId errorCode reliableSize).Tells := by
  unfold judgeReset
  cases w.streams.find? streamId with
  | some info =>
      dsimp only
      split_ifs
      · exact streamStateError_tells _ _ _
      · exact streamStateError_tells _ _ _
      · exact streamStateError_tells _ _ _
      · exact accept_tells _ rfl rfl
  | none =>
      dsimp only
      split_ifs
      · exact streamStateError_tells _ _ _
      · exact streamStateError_tells _ _ _
      · exact streamStateError_tells _ _ _
      · exact recvFlowControlError_tells _ _ _
      · exact accept_tells _ rfl rfl

theorem judgeStopSending_tells (streamId errorCode : Nat) :
    (w.judgeStopSending isServer streamId errorCode).Tells := by
  unfold judgeStopSending
  cases w.streams.find? streamId with
  | some info =>
      dsimp only
      split_ifs
      · exact streamStateError_tells _ _ _
      · exact streamStateError_tells _ _ _
      · exact accept_tells _ rfl rfl
  | none =>
      dsimp only
      split_ifs
      · exact streamStateError_tells _ _ _
      · exact streamStateError_tells _ _ _
      · exact accept_tells _ rfl rfl
      · exact accept_tells_nothing _

theorem judgeMaxStreamData_tells (streamId maxData : Nat) :
    (w.judgeMaxStreamData isServer streamId maxData).Tells := by
  unfold judgeMaxStreamData
  cases w.streams.find? streamId with
  | some info =>
      dsimp only
      split_ifs
      · exact streamStateError_tells _ _ _
      · exact streamStateError_tells _ _ _
      · exact flowControlError_tells _ _
      · exact accept_tells_nothing _
      · exact accept_tells_nothing _
  | none =>
      dsimp only
      split_ifs
      · exact streamStateError_tells _ _ _
      · exact streamStateError_tells _ _ _
      · exact flowControlError_tells _ _
      · exact accept_tells_nothing _

theorem judge_tells (r : Received) : (w.judge config isServer r).Tells := by
  cases r with
  | stream fin streamId data => exact judgeStream_tells _ _ _ _ _ _
  | resetStream streamId errorCode reliableSize => exact judgeReset_tells _ _ _ _ _ _
  | stopSending streamId errorCode => exact judgeStopSending_tells _ _ _ _
  | maxData maxData =>
      unfold judge judgeMaxData
      dsimp only
      split_ifs
      · exact flowControlError_tells _ _
      · exact accept_tells_nothing _
      · exact accept_tells_nothing _
  | maxStreamData streamId maxData => exact judgeMaxStreamData_tells _ _ _ _
  | maxStreams isBidi maxStreams =>
      unfold judge judgeMaxStreams
      dsimp only
      split_ifs
      · exact flowControlError_tells _ _
      · exact flowControlError_tells _ _
      · exact accept_tells_nothing _
      · exact accept_tells_nothing _
      · exact flowControlError_tells _ _
      · exact accept_tells_nothing _
      · exact accept_tells_nothing _
  | streamDataBlocked streamId =>
      unfold judge judgeStreamDataBlocked
      dsimp only
      split_ifs
      · exact streamStateError_tells _ _ _
      · exact streamStateError_tells _ _ _
      · exact streamStateError_tells _ _ _
      · exact accept_tells_nothing _
  | streamsBlocked maxStreams =>
      unfold judge
      dsimp only
      split_ifs
      · exact flowControlError_tells _ _
      · exact accept_tells_nothing _
  | datagram data => exact accept_tells _ rfl rfl
  | closeSession errorCode message => rfl
  | drainSession => exact accept_tells _ rfl rfl
  | ignored => exact accept_tells_nothing _

end WtSessionInfo

/-! ## Entry and events go together -/

namespace SessionScope

/-- The session has its entry and told of no end, or it told at last that it was closed and the
entry is gone. -/
def Speaks (sc : SessionScope) : Prop :=
  (sc.entry ≠ none ∧ Effect.Quiet sc.effects) ∨ (sc.entry = none ∧ Effect.Closes sc.effects)

namespace Speaks

variable {sc : SessionScope} {w : WtSessionInfo}

theorem quiet (h : sc.Speaks) (hentry : sc.entry = some w) : Effect.Quiet sc.effects := by
  rcases h with ⟨-, hquiet⟩ | ⟨hgone, -⟩
  · exact hquiet
  · rw [hentry] at hgone
    cases hgone

/-- An entry, and nothing told about an end. -/
theorem of_quiet (hentry : sc.entry = some w) (hquiet : Effect.Quiet sc.effects) : sc.Speaks := by
  refine Or.inl ⟨?_, hquiet⟩
  rw [hentry]
  exact Option.some_ne_none w

/-- `SessionClosed` and the entry gone. -/
theorem erased (h : Effect.Quiet sc.effects) {e : H2Event} (he : e.type = .sessionClosed) :
    ((sc.pushEvent e).eraseSession).Speaks :=
  Or.inr ⟨rfl, h.closes (e := { e with sessionId := sc.sessionId }) he rfl⟩

theorem closeSession (h : Effect.Quiet sc.effects) (hentry : sc.entry = some w) (errorCode : Nat)
    (message : Bytes) : (sc.closeSession errorCode message).Speaks := by
  unfold SessionScope.closeSession
  rw [hentry]
  dsimp only
  split_ifs
  · exact of_quiet hentry h
  · refine of_quiet rfl (h.behind ?_)
    rfl

theorem pushError (h : Effect.Quiet sc.effects) {e : H2Event} (he : e.type = .error) :
    Effect.Quiet (sc.pushEvent e).effects := by
  refine h.append ?_
  intro e' he'
  rw [List.mem_singleton.1 he']
  exact H2Event.ends_of_error he

theorem reportWtError (h : Effect.Quiet sc.effects) (hentry : sc.entry = some w)
    (message : String) : (sc.reportWtError message).Speaks :=
  @closeSession (sc.pushEvent _) w (pushError h rfl) hentry kWtError (ascii message)

theorem resetStreamForMalformedCapsule (h : Effect.Quiet sc.effects) (hentry : sc.entry = some w) :
    sc.resetStreamForMalformedCapsule.Speaks := by
  have hended : sc.resetStreamForMalformedCapsule.entry = some w.ended := by
    simp only [SessionScope.resetStreamForMalformedCapsule, hentry, Option.map_some]
    rfl
  exact of_quiet hended (h.behind rfl)

theorem events_map (sc : SessionScope) (events : List H2Event) :
    Effect.events (events.map sc.eventEffect) =
      events.map fun e => { e with sessionId := sc.sessionId } := by
  unfold Effect.events
  rw [List.filterMap_map]
  exact congrFun List.filterMap_eq_map events

theorem carryOut (h : Effect.Quiet sc.effects) {v : Verdict} (hv : v.Tells) :
    (sc.carryOut v).Speaks := by
  cases v with
  | refuse w' event errorCode message =>
      refine closeSession (h.append ?_) rfl errorCode (ascii message)
      intro e he
      rw [events_map] at he
      rcases List.mem_map.1 he with ⟨e', he', rfl⟩
      exact H2Event.ends_of_error (hv e' (Option.mem_toList.1 he'))
  | accept before q after =>
      refine of_quiet rfl (h.append ?_)
      intro e he
      rw [Effect.events_append, Effect.events_append, events_map, events_map,
        Effect.events_capsules, List.append_nil, ← List.map_append] at he
      rcases List.mem_map.1 he with ⟨e', he', rfl⟩
      exact hv e' he'
  | close event => exact erased h hv

theorem react (h : sc.Speaks) (hentry : sc.entry = some w) (r : Reading) :
    (sc.react w r).Speaks := by
  have hquiet := h.quiet hentry
  cases r with
  | malformed => exact resetStreamForMalformedCapsule hquiet hentry
  | wtError message => exact reportWtError hquiet hentry message
  | received r =>
      have hreact : sc.react w (.received r) = sc.carryOut (w.judge sc.config sc.isServer r) :=
        receive_eq hentry r
      rw [hreact]
      exact carryOut hquiet (WtSessionInfo.judge_tells _ _ _ _)

theorem processCapsules (h : sc.Speaks) (data : Bytes) : (sc.processCapsules data).Speaks := by
  refine processCapsules_rule ?_ ?_ ?_ (eachTurn_true _) h
  · intro sc w buffer hentry hinv
    exact of_quiet rfl (hinv.quiet hentry)
  · intro sc type size payload hinv
    have hevents : Effect.events ((sc.perform (.dispatch type payload)).perform
        (.consumeRecvBytes size)).effects = Effect.events sc.effects := by
      simp only [perform, Effect.events_append]
      rw [List.append_assoc]
      exact List.append_nil _
    unfold Speaks Effect.Quiet Effect.Closes at hinv ⊢
    rw [hevents]
    exact hinv
  · intro sc w buffer r _ hentry _ _ hinv
    exact hinv.react hentry r

theorem onEntry (h : sc.Speaks) (f : WtSessionInfo → Queued) : (sc.onEntry f).Speaks := by
  unfold SessionScope.onEntry
  cases hentry : sc.entry with
  | none => exact h
  | some w => exact of_quiet rfl ((h.quiet hentry).behind (Effect.events_capsules _))

theorem step (h : sc.Speaks) (op : Op) : (sc.step op).Speaks := by
  cases op with
  | openStream isUnidirectional => exact h.onEntry _
  | sendStreamData streamId data fin => exact h.onEntry _
  | resetStream streamId errorCode =>
      simp only [SessionScope.step]
      split_ifs
      · exact h
      · exact h.onEntry _
  | stopSending streamId errorCode =>
      simp only [SessionScope.step]
      split_ifs
      · exact h
      · exact h.onEntry _
  | sendDatagram data => exact h.onEntry _
  | drainSession => exact h.onEntry _
  | closeSession errorCode message =>
      cases hentry : sc.entry with
      | none =>
          rw [(step_gone hentry _).1]
          exact h
      | some w => exact closeSession (h.quiet hentry) hentry _ _
  | receive c => exact h.processCapsules _

end Speaks

end SessionScope

/-! ## Session methods -/

/-- The method makes the entry. -/
def Call.requests : Call → Bool
  | .request _ _ => true
  | _ => false

/-- The method refuses the session: it removes the entry without `SessionClosed`. -/
def Call.refuses : Call → Bool
  | .beRejected _ => true
  | .reject _ _ => true
  | _ => false

namespace SessionScope

variable {sc : SessionScope} {w : WtSessionInfo}

theorem foldl_pushEvent_effects (events : List H2Event) (sc : SessionScope) :
    (events.foldl pushEvent sc).entry = sc.entry ∧
      Effect.events (events.foldl pushEvent sc).effects =
        Effect.events sc.effects ++ events.map fun e => { e with sessionId := sc.sessionId } := by
  induction events generalizing sc with
  | nil => exact ⟨rfl, (List.append_nil _).symm⟩
  | cons e rest ih =>
      rcases ih (sc.pushEvent e) with ⟨hentry, hevents⟩
      refine ⟨hentry, hevents.trans ?_⟩
      have hone : Effect.events (sc.pushEvent e).effects =
          Effect.events sc.effects ++ [{ e with sessionId := sc.sessionId }] :=
        Effect.events_append _ _
      rw [hone, List.append_assoc]
      rfl

/-- The first method on an id makes the entry and tells of no end. -/
theorem request_speaks (h : Effect.Quiet sc.effects) {events : List H2Event}
    (hevents : ∀ e ∈ events, e.type = .sessionReady) :
    (sc.call (.request w events)).Speaks := by
  rcases foldl_pushEvent_effects events (sc.setEntry w) with ⟨hentry, htold⟩
  refine Speaks.of_quiet hentry ?_
  intro e he
  have hmem : e ∈ Effect.events (events.foldl pushEvent (sc.setEntry w)).effects := he
  rw [htold] at hmem
  rcases List.mem_append.1 hmem with hold | hnew
  · exact h e hold
  · rcases List.mem_map.1 hnew with ⟨e', he', rfl⟩
    simp [H2Event.ends, hevents e' he']

theorem establish_speaks (h : sc.Speaks) (headers : HeaderList) :
    (H2Session.establish headers sc).Speaks := by
  unfold H2Session.establish
  cases hentry : sc.entry with
  | none => exact h
  | some w =>
      refine Speaks.of_quiet rfl ?_
      have hready : Effect.Quiet (sc.effects ++ [.event
          { ({ type := .sessionReady, headers := headers } : H2Event) with
            sessionId := sc.sessionId }]) := by
        refine (h.quiet hentry).append ?_
        intro e he
        rw [List.mem_singleton.1 he]
        rfl
      exact ((hready.behind rfl).behind rfl).behind rfl

/-- A method on a live entry keeps entry and events together, the refusals excepted. -/
theorem call_speaks (h : Effect.Quiet sc.effects) (hentry : sc.entry = some w) (c : Call)
    (hallowed : c.Allowed sc.isServer sc.config sc.entry) (hc : c.refuses = false) :
    (sc.call c).Speaks := by
  have hspeaks : sc.Speaks := .of_quiet hentry h
  cases c with
  | request w events => exact request_speaks h hallowed.2
  | establish headers => exact establish_speaks hspeaks headers
  | beRejected status => cases hc
  | reject status rv => cases hc
  | recvEstablished data =>
      have hloop := hspeaks.processCapsules data
      simp only [call, recvEstablished]
      cases hlast : (sc.processCapsules data).entry with
      | none => exact hloop
      | some w' =>
          dsimp only
          split_ifs
          · exact .of_quiet hlast ((hloop.quiet hlast).behind rfl)
          · exact hloop
  | bufferPreAccept data =>
      simp only [call, bufferPreAccept, hentry, Option.map_some]
      exact .of_quiet rfl h
  | handleEndStream =>
      simp only [call, handleEndStream, hentry]
      split_ifs
      · exact .of_quiet rfl h
      · exact hspeaks
      · exact .resetStreamForMalformedCapsule h hentry
      · exact .erased h rfl
  | terminatePreAcceptEndStreamSession =>
      simp only [call, terminatePreAcceptEndStreamSession, hentry]
      split_ifs
      · exact .resetStreamForMalformedCapsule h hentry
      · exact .erased h rfl
  | markEstablished =>
      simp only [call, markEstablished, hentry, Option.map_some]
      exact .of_quiet rfl h
  | clearBuffer =>
      simp only [call, clearBuffer, hentry, Option.map_some]
      exact .of_quiet rfl h
  | drain => exact hspeaks.processCapsules []
  | sendInitialLimits => exact .of_quiet hentry (((h.behind rfl).behind rfl).behind rfl)
  | streamClose errorCode =>
      simp only [call, closeStream, hentry]
      refine Or.inr ⟨rfl, ?_⟩
      let closed : H2Event :=
        { type := .sessionClosed, sessionId := sc.sessionId, errorCode := errorCode.getD 0 }
      have hclosed : Effect.Closes (sc.effects ++ [.event closed] ++
          [.eraseStreamBuffers, .discardStreamRecvBytes]) := h.closes rfl rfl
      simp only [perform, pushEvent, List.append_assoc] at hclosed ⊢
      exact hclosed
  | api op => exact hspeaks.step op

/-- The refusals of the server leave at most an error, whatever the entry was. -/
theorem reject_events (sc : SessionScope) (hnone : sc.effects = []) (status : Int)
    (rv : Option NgError) : ∀ e ∈ Effect.events (sc.call (.reject status rv)).effects,
      e.type = .error := by
  intro e he
  simp only [call, H2Session.reject] at he
  cases rv with
  | none =>
      cases hentry : sc.entry <;> split_ifs at he <;>
        simp [perform, setEntry, Effect.events, hnone, hentry] at he
  | some err =>
      cases hentry : sc.entry <;> split_ifs at he <;>
        simp [perform, pushEvent, setEntry, Effect.events, hnone, hentry] at he <;> rw [he]

/-- Without an entry no method but a request does more than report an error. -/
theorem call_gone (hentry : sc.entry = none) (hnone : sc.effects = []) (c : Call)
    (hc : c.requests = false) :
    (sc.call c).entry = none ∧ ∀ e ∈ Effect.events (sc.call c).effects, e.type = .error := by
  have hidle : ∀ sc' : SessionScope, sc' = sc →
      sc'.entry = none ∧ ∀ e ∈ Effect.events sc'.effects, e.type = .error := by
    rintro _ rfl
    refine ⟨hentry, ?_⟩
    rw [hnone]
    exact fun e he => absurd he List.not_mem_nil
  have hmap : ∀ f : WtSessionInfo → WtSessionInfo, { sc with entry := sc.entry.map f } = sc := by
    intro f
    cases sc
    simp only at hentry ⊢
    rw [hentry, Option.map_none]
  cases c with
  | request w events => cases hc
  | establish headers => exact hidle _ (by simp only [call, H2Session.establish, hentry])
  | beRejected status => exact hidle _ (by simp only [call, H2Session.beRejected, hentry])
  | reject status rv =>
      refine ⟨?_, reject_events sc hnone status rv⟩
      cases rv <;> simp only [call, H2Session.reject, pushEvent, perform, hentry] <;>
        split_ifs <;> first | rfl | exact hentry
  | recvEstablished data =>
      have hloop : sc.processCapsules data = sc := by simp only [processCapsules, hentry]
      exact hidle _ (by simp only [call, recvEstablished, hloop, hentry])
  | bufferPreAccept data => exact hidle _ (hmap _)
  | handleEndStream => exact hidle _ (by simp only [call, handleEndStream, hentry])
  | terminatePreAcceptEndStreamSession =>
      exact hidle _ (by simp only [call, terminatePreAcceptEndStreamSession, hentry])
  | markEstablished => exact hidle _ (hmap _)
  | clearBuffer => exact hidle _ (hmap _)
  | drain => exact hidle _ (by simp only [call, processCapsules, hentry])
  | sendInitialLimits =>
      refine ⟨hentry, ?_⟩
      simp [call, sendInitialLimits, perform, hnone, Effect.events]
  | streamClose errorCode =>
      simp only [call, closeStream, hentry]
      refine ⟨hentry, ?_⟩
      simp [perform, hnone, Effect.events]
  | api op => exact hidle _ (step_gone hentry op).1

end SessionScope

/-! ## Seen from a session id -/

namespace View

/-- The scope that a method finds. -/
def scope (isServer : Bool) (config : H2SessionConfig) (sessionId : Int) (v : View) : SessionScope :=
  { isServer := isServer, config := config, sessionId := sessionId, entry := v.entry }

/-- No event so far ends the session, or one does: then the entry is gone and only errors follow. -/
def Told (v : View) : Prop :=
  Effect.Quiet v.effects ∨
    (v.entry = none ∧ ∃ before last after, Effect.events v.effects = before ++ last :: after ∧
      (∀ e ∈ before, e.ends = false) ∧ last.ends = true ∧ ∀ e ∈ after, e.type = .error)

theorem Told.quiet {v : View} (h : v.Told) {w : WtSessionInfo} (hentry : v.entry = some w) :
    Effect.Quiet v.effects := by
  rcases h with hquiet | ⟨hgone, -⟩
  · exact hquiet
  · rw [hentry] at hgone
    cases hgone

/-- Errors may follow whatever was told. -/
theorem Told.errors {v : View} (h : v.Told) {entry : Option WtSessionInfo} {es : List Effect}
    (hentry : v.entry = none → entry = none) (hes : ∀ e ∈ Effect.events es, e.type = .error) :
    View.Told ⟨entry, v.effects ++ es⟩ := by
  rcases h with hquiet | ⟨hgone, before, last, after, hevents, hbefore, hlast, hafter⟩
  · exact Or.inl (hquiet.append fun e he => H2Event.ends_of_error (hes e he))
  · refine Or.inr ⟨hentry hgone, before, last, after ++ Effect.events es, ?_, hbefore, hlast, ?_⟩
    · rw [Effect.events_append, hevents, List.append_assoc]
      rfl
    · intro e he
      rcases List.mem_append.1 he with he | he
      · exact hafter e he
      · exact hes e he

/-- A scope that speaks behind a silent view. -/
theorem Told.speaks {effects : List Effect} (h : Effect.Quiet effects) {sc : SessionScope}
    (hsc : sc.Speaks) : View.Told ⟨sc.entry, effects ++ sc.effects⟩ := by
  rcases hsc with ⟨-, hquiet⟩ | ⟨hgone, before, last, hevents, hbefore, htype⟩
  · exact Or.inl (h.append hquiet)
  · refine Or.inr ⟨hgone, Effect.events effects ++ before, last, [], ?_, ?_, ?_, ?_⟩
    · rw [Effect.events_append, hevents, List.append_assoc]
    · intro e he
      rcases List.mem_append.1 he with he | he
      · exact h e he
      · exact hbefore e he
    · simp [H2Event.ends, htype]
    · exact fun e he => absurd he List.not_mem_nil

end View

section Called

variable {isServer : Bool} {config : H2SessionConfig} {sessionId : Int} {v v' : View} {c : Call}

/-- The client's refusal ends the session with `SessionRejected`. -/
theorem beRejected_told {w : WtSessionInfo} (hentry : v.entry = some w)
    (hquiet : Effect.Quiet v.effects) (status : Bytes) :
    (v.call isServer config sessionId (.beRejected status)).Told := by
  let rejected : H2Event :=
    { type := .sessionRejected, sessionId := sessionId,
      statusCode := H2Session.rejectedStatus status }
  have hview : v.call isServer config sessionId (.beRejected status) =
      ⟨none, v.effects ++ [.event rejected, .discardStreamRecvBytes]⟩ := by
    simp only [View.call, SessionScope.call, H2Session.beRejected, hentry]
    rfl
  rw [hview]
  refine Or.inr ⟨rfl, Effect.events v.effects, rejected, [], ?_, hquiet, rfl, ?_⟩
  · exact Effect.events_append _ _
  · exact fun e he => absurd he List.not_mem_nil

/-- A method keeps what is told in order, when a request only comes before an end. -/
theorem Called.told (h : Called isServer config sessionId v c v') (hv : v.Told)
    (hfirst : c.requests = true → Effect.Quiet v.effects) : v'.Told := by
  rcases h with ⟨hallowed, rfl⟩
  have hsilent : Effect.Quiet [] := fun e he => absurd he List.not_mem_nil
  cases hrequests : c.requests with
  | true =>
      cases c with
      | request w events =>
          exact View.Told.speaks (hfirst rfl) (SessionScope.request_speaks hsilent hallowed.2)
      | _ => cases hrequests
  | false =>
      cases hentry : v.entry with
      | none =>
          have hgone := @SessionScope.call_gone (v.scope isServer config sessionId) hentry rfl c
            hrequests
          exact hv.errors (fun _ => hgone.1) hgone.2
      | some w =>
          have hquiet := hv.quiet hentry
          cases hrefuses : c.refuses with
          | false =>
              exact View.Told.speaks hquiet
                (SessionScope.call_speaks hsilent hentry c hallowed hrefuses)
          | true =>
              -- Two methods take the entry away without `SessionClosed`.
              cases c with
              | beRejected status => exact beRejected_told hentry hquiet status
              | reject status rv =>
                  have herrors := SessionScope.reject_events (v.scope isServer config sessionId)
                    rfl status rv
                  refine hv.errors ?_ herrors
                  intro hnone
                  rw [hentry] at hnone
                  cases hnone
              | _ => cases hrefuses

/-- Before the request a session id has no entry and tells nothing. -/
theorem Called.unrequested (h : Called isServer config sessionId v c v') (hentry : v.entry = none)
    (hv : Effect.Quiet v.effects) (hc : c.requests = false) :
    v'.entry = none ∧ Effect.Quiet v'.effects := by
  rcases h with ⟨-, rfl⟩
  have hgone := @SessionScope.call_gone (v.scope isServer config sessionId) hentry rfl c hc
  exact ⟨hgone.1, hv.append fun e he => H2Event.ends_of_error (hgone.2 e he)⟩

/-- With one request at most, a session id tells of one end at most. -/
theorem path_told {calls : List Call}
    (h : Path (Called isServer config sessionId) ⟨none, []⟩ calls v)
    (honce : calls.countP Call.requests ≤ 1) :
    v.Told ∧ (calls.countP Call.requests = 0 → v.entry = none ∧ Effect.Quiet v.effects) := by
  have hsilent : Effect.Quiet [] := fun e he => absurd he List.not_mem_nil
  -- The invariant over the calls so far: before the first request there is nothing to end.
  refine h.history (fun past v => past.countP Call.requests ≤ 1 →
    v.Told ∧ (past.countP Call.requests = 0 → v.entry = none ∧ Effect.Quiet v.effects)) ?_ []
    (fun _ => ⟨Or.inl hsilent, fun _ => ⟨rfl, hsilent⟩⟩) honce
  intro past a b c hinv hstep hcount
  rw [List.countP_append, List.countP_singleton] at hcount
  rw [List.countP_append, List.countP_singleton]
  have hpast : past.countP Call.requests ≤ 1 := le_trans (Nat.le_add_right _ _) hcount
  rcases hinv hpast with ⟨htold, hnone⟩
  refine ⟨hstep.told htold ?_, ?_⟩
  · intro hrequests
    rw [if_pos hrequests] at hcount
    exact (hnone (by omega)).2
  · intro hzero
    rcases hnone (by omega) with ⟨hentry, hquiet⟩
    refine hstep.unrequested hentry hquiet ?_
    by_contra hrequests
    rw [if_pos (Bool.eq_true_of_not_eq_false hrequests)] at hzero
    omega

/-- How often `SessionClosed` was pushed. -/
def Effect.closedCount (es : List Effect) : Nat :=
  (Effect.events es).countP fun e => e.type = .sessionClosed

theorem Effect.closedCount_append (es es' : List Effect) :
    closedCount (es ++ es') = closedCount es + closedCount es' := by
  unfold closedCount
  rw [events_append, List.countP_append]

theorem Effect.closedCount_eq_zero {events : List H2Event} (h : ∀ e ∈ events, e.ends = false) :
    (events.countP fun e => e.type = .sessionClosed) = 0 := by
  rw [List.countP_eq_zero]
  intro e he hclosed
  have hends := h e he
  simp only [H2Event.ends, Bool.or_eq_false_iff, decide_eq_false_iff_not] at hends
  exact hends.1 (of_decide_eq_true hclosed)

/-- Methods that neither make an entry nor refuse one take it away with one `SessionClosed`. -/
theorem path_closes {calls : List Call} {w : WtSessionInfo}
    (h : Path (Called isServer config sessionId) v calls v') (hentry : v.entry = some w)
    (hplain : ∀ c ∈ calls, c.requests = false ∧ c.refuses = false) (hgone : v'.entry = none) :
    Effect.closedCount v'.effects = Effect.closedCount v.effects + 1 := by
  have hinv : (∀ c ∈ calls, c.requests = false ∧ c.refuses = false) →
      (v'.entry ≠ none ∧ Effect.closedCount v'.effects = Effect.closedCount v.effects) ∨
        (v'.entry = none ∧ Effect.closedCount v'.effects = Effect.closedCount v.effects + 1) := by
    refine h.history (fun past a => (∀ c ∈ past, c.requests = false ∧ c.refuses = false) →
      (a.entry ≠ none ∧ Effect.closedCount a.effects = Effect.closedCount v.effects) ∨
        (a.entry = none ∧ Effect.closedCount a.effects = Effect.closedCount v.effects + 1)) ?_ []
      (fun _ => Or.inl ⟨by rw [hentry]; exact Option.some_ne_none w, rfl⟩)
    rintro past a b c ha ⟨hallowed, rfl⟩ hpast
    have hc := hpast c (List.mem_append_right past List.mem_cons_self)
    have hbefore := ha fun c' hc' => hpast c' (List.mem_append_left _ hc')
    have hcount : Effect.closedCount (a.call isServer config sessionId c).effects =
        Effect.closedCount a.effects +
          Effect.closedCount ((a.scope isServer config sessionId).call c).effects :=
      Effect.closedCount_append _ _
    rw [hcount]
    cases hentry : a.entry with
    | none =>
        have hgone := @SessionScope.call_gone (a.scope isServer config sessionId) hentry rfl c hc.1
        have hzero := Effect.closedCount_eq_zero fun e he => H2Event.ends_of_error (hgone.2 e he)
        rcases hbefore with ⟨hsome, -⟩ | ⟨-, hone⟩
        · exact absurd hentry hsome
        · refine Or.inr ⟨hgone.1, ?_⟩
          unfold Effect.closedCount at hone ⊢
          rw [hone, hzero]
    | some w' =>
        have hspeaks := @SessionScope.call_speaks (a.scope isServer config sessionId) w'
          (fun e he => absurd he List.not_mem_nil) hentry c hallowed hc.2
        rcases hbefore with ⟨-, hsame⟩ | ⟨hnone, -⟩
        · rcases hspeaks with ⟨hstays, hquiet⟩ | ⟨hgone, before, last, hevents, hquiet, htype⟩
          · refine Or.inl ⟨hstays, ?_⟩
            have hzero := Effect.closedCount_eq_zero hquiet
            rw [hsame]
            exact congrArg (Effect.closedCount v.effects + ·) hzero
          · refine Or.inr ⟨hgone, ?_⟩
            have hone :
                Effect.closedCount ((a.scope isServer config sessionId).call c).effects = 1 := by
              unfold Effect.closedCount
              rw [hevents, List.countP_append, Effect.closedCount_eq_zero hquiet]
              simp [htype]
            rw [hsame, hone]
        · rw [hentry] at hnone
          cases hnone
  rcases hinv hplain with ⟨hstays, -⟩ | ⟨-, hone⟩
  · exact absurd hgone hstays
  · exact hone

end Called

/-! ## Runs -/

namespace H2Session

/-- The input asks for the session: a server's request headers, a client's `connect`. -/
def Input.requests (isServer : Bool) (sessionId : Int) : Input → Bool
  | .endHeaders streamId _ => isServer && streamId = sessionId
  | .connect _ _ streamId _ => !isServer && streamId = sessionId
  | _ => false

/-- The input refuses the session: `reject_session`, or a response to the client. -/
def Input.refuses (isServer : Bool) (sessionId : Int) : Input → Bool
  | .rejectSession streamId _ _ => streamId = sessionId
  | .endHeaders streamId _ => !isServer && streamId = sessionId
  | _ => false

section CallsOf

variable {s : H2Session} {sessionId : Int}

theorem onSession_all {P : Call → Prop} {streamId : Int} {c : Call}
    (h : streamId = sessionId → P c) : ∀ c' ∈ onSession sessionId streamId c, P c' := by
  intro c' hc'
  unfold onSession at hc'
  split_ifs at hc' with hid
  · rw [List.mem_singleton.1 hc']
    exact h hid
  · cases hc'

theorem flushCalls_all {P : Call → Prop} (hclose : ∀ errorCode, P (.streamClose errorCode))
    (s : H2Session) (sessionId : Int) (flush : List WriteCallback) :
    ∀ c ∈ s.flushCalls sessionId flush, P c := by
  intro c hc
  unfold flushCalls at hc
  split_ifs at hc
  · cases hc
  · rcases List.mem_flatMap.1 hc with ⟨callback, -, hcallback⟩
    cases callback with
    | streamClose streamId errorCode =>
        exact onSession_all (P := P) (fun _ => hclose errorCode) c hcallback
    | _ => cases hcallback

theorem rejectCalls_all {P : Call → Prop} (streamId status : Int) (rv : Option NgError)
    (h : streamId = sessionId → P (.reject status rv)) :
    ∀ c ∈ s.rejectCalls sessionId streamId status rv, P c := by
  unfold rejectCalls
  split_ifs
  · exact onSession_all h
  · exact fun c hc => absurd hc List.not_mem_nil

theorem dataCalls_all {P : Call → Prop} (streamId : Int) (data : Bytes) (rv : Option NgError)
    (hrecv : P (.recvEstablished data)) (hbuffer : P (.bufferPreAccept data))
    (hreject : ∀ w, s.wtSessions.find? sessionId = some w → w.isEstablished = false →
      P (.reject 413 rv)) :
    ∀ c ∈ s.dataCalls sessionId streamId data rv, P c := by
  have hnone : ∀ c ∈ ([] : List Call), P c := fun c hc => absurd hc List.not_mem_nil
  unfold dataCalls
  cases hentry : s.wtSessions.find? streamId with
  | none => exact hnone
  | some w =>
      dsimp only
      split_ifs with hterm hempty hest
      · exact hnone
      · exact hnone
      · exact onSession_all fun _ => hrecv
      · exact hnone
      · refine rejectCalls_all streamId 413 rv ?_
        rintro rfl
        exact hreject w hentry (Bool.eq_false_iff.2 hest)
      · exact onSession_all fun _ => hbuffer

theorem finishCalls_all {P : Call → Prop} (streamId : Int) (resetFlush : List WriteCallback)
    (hclose : ∀ errorCode, P (.streamClose errorCode))
    (hend : P .terminatePreAcceptEndStreamSession) (hlimits : P .sendInitialLimits) :
    ∀ c ∈ s.finishCalls sessionId streamId resetFlush, P c := by
  have hnone : ∀ c ∈ ([] : List Call), P c := fun c hc => absurd hc List.not_mem_nil
  unfold finishCalls
  cases s.wtSessions.find? streamId with
  | none => exact hnone
  | some w =>
      dsimp only
      by_cases hterm : w.isTerminated = true
      · rw [if_pos hterm]
        exact hnone
      · rw [if_neg hterm]
        by_cases hpending : w.preAcceptEndStream = true
        · rw [if_pos hpending]
          intro c hc
          rcases List.mem_append.1 hc with hc | hc
          · exact onSession_all (P := P) (fun _ => hend) c hc
          · by_cases hbuffer : w.capsuleBuffer ≠ []
            · rw [if_pos hbuffer] at hc
              exact flushCalls_all hclose _ _ _ c hc
            · rw [if_neg hbuffer] at hc
              cases hc
        · rw [if_neg hpending]
          exact onSession_all fun _ => hlimits

theorem acceptCalls_all {P : Call → Prop} (streamId : Int) (rv : Option NgError)
    (flush resetFlush : List WriteCallback) (hclose : ∀ errorCode, P (.streamClose errorCode))
    (hend : P .terminatePreAcceptEndStreamSession) (hlimits : P .sendInitialLimits)
    (hmark : P .markEstablished) (hclear : P .clearBuffer) (hdrain : P .drain) :
    ∀ c ∈ s.acceptCalls sessionId streamId rv flush resetFlush, P c := by
  unfold acceptCalls
  split_ifs
  · exact fun c hc => absurd hc List.not_mem_nil
  · cases rv with
    | some err => exact onSession_all fun _ => hclear
    | none =>
        intro c hc
        rcases List.mem_append.1 hc with hc | hc
        · rcases List.mem_append.1 hc with hc | hc
          · rcases List.mem_append.1 hc with hc | hc
            · exact onSession_all (P := P) (fun _ => hmark) c hc
            · exact flushCalls_all hclose _ _ _ c hc
          · exact onSession_all (P := P) (fun _ => hdrain) c hc
        · exact finishCalls_all streamId resetFlush hclose hend hlimits c hc

/-- The header block of a client's stream makes no entry. -/
theorem responseCalls_all {P : Call → Prop} (streamId : Int) (headers : HeaderList)
    (h : streamId = sessionId → P (.establish headers) ∧ ∀ status, P (.beRejected status)) :
    ∀ c ∈ s.responseCalls sessionId streamId headers, P c := by
  unfold responseCalls
  dsimp only
  split_ifs
  · exact onSession_all fun hid => (h hid).1
  · exact onSession_all fun hid => (h hid).2 _
  · exact fun c hc => absurd hc List.not_mem_nil

/-- On another stream a request is not seen. -/
theorem requestCalls_other {streamId : Int} (h : streamId ≠ sessionId) (headers : HeaderList)
    (rv : Option NgError) : s.requestCalls sessionId streamId headers rv = [] := by
  have hnone : ∀ c, onSession sessionId streamId c = [] := fun c => if_neg h
  unfold requestCalls rejectCalls
  simp only [hnone, ite_self]
  cases s.requestedSession streamId headers <;> simp

/-- What an input runs on a session that it does not ask for: no request, and a refusal only from
the inputs that refuse and from the pre-accept limit. -/
theorem callsOf_all {P : Call → Prop}
    (hplain : ∀ c : Call, c.requests = false → c.refuses = false → P c) (input : Input)
    (hrequests : input.requests s.isServer sessionId = false)
    (hrefuses : input.refuses s.isServer sessionId = true →
      ∀ c : Call, c.requests = false → P c)
    (hlimit : ∀ w rv, s.wtSessions.find? sessionId = some w → w.isEstablished = false →
      P (.reject 413 rv)) :
    ∀ c ∈ s.callsOf sessionId input, P c := by
  have hnone : ∀ c ∈ ([] : List Call), P c := fun c hc => absurd hc List.not_mem_nil
  have happ : ∀ (streamId : Int) (op : Op), ∀ c ∈ onSession sessionId streamId (.api op), P c :=
    fun streamId op => onSession_all fun _ => hplain _ rfl rfl
  have hclose : ∀ errorCode, P (.streamClose errorCode) := fun errorCode => hplain _ rfl rfl
  cases input with
  | recvSettingsEntry id value => exact hnone
  | beginHeaders streamId => exact hnone
  | recvHeader streamId name value => exact hnone
  | endTrailers streamId => exact hnone
  | shutdown lastStreamId errorCode => exact hnone
  | readError err => exact hnone
  | nextEvent => exact hnone
  | endHeaders streamId rv =>
      simp only [callsOf, headerCalls]
      cases s.pendingHeaders.find? streamId with
      | none => exact hnone
      | some headers =>
          dsimp only
          cases hrole : s.isServer with
          | true =>
              -- On a server this is a request, so it is another stream's.
              simp only [Input.requests, hrole, Bool.true_and, decide_eq_false_iff_not]
                at hrequests
              rw [if_pos rfl, requestCalls_other hrequests]
              exact hnone
          | false =>
              rw [if_neg Bool.false_ne_true]
              refine responseCalls_all streamId headers ?_
              rintro rfl
              have hany := hrefuses (by simp [Input.refuses, hrole])
              exact ⟨hany _ rfl, fun status => hany _ rfl⟩
  | recvData streamId data rv =>
      exact dataCalls_all streamId data rv (hplain _ rfl rfl) (hplain _ rfl rfl)
        fun w hentry hest => hlimit w rv hentry hest
  | remoteEndStream streamId => exact onSession_all fun _ => hplain _ rfl rfl
  | write callback =>
      cases callback with
      | streamClose streamId errorCode =>
          intro c hc
          rcases List.mem_append.1 hc with hc | hc
          · exact onSession_all (P := P) (fun _ => hclose errorCode) c hc
          · cases hc
      | _ => exact hnone
  | connect url origin streamId flush =>
      simp only [callsOf, connectCalls]
      cases parseAuthorityPath url with
      | none =>
          dsimp only
          split_ifs <;> exact hnone
      | some target =>
          dsimp only
          split_ifs with hserver
          · exact hnone
          · exact hnone
          · exact hnone
          · exact hnone
          · simp only [Input.requests, hserver, Bool.not_false, Bool.true_and,
              decide_eq_false_iff_not] at hrequests
            intro c hc
            rcases List.mem_append.1 hc with hc | hc
            · exact onSession_all (P := P) (fun hid => absurd hid hrequests) c hc
            · exact flushCalls_all hclose _ _ _ c hc
  | acceptSession streamId rv flush resetFlush =>
      exact acceptCalls_all streamId rv flush resetFlush hclose (hplain _ rfl rfl)
        (hplain _ rfl rfl) (hplain _ rfl rfl) (hplain _ rfl rfl) (hplain _ rfl rfl)
  | rejectSession streamId status rv =>
      refine rejectCalls_all streamId status rv ?_
      rintro rfl
      exact hrefuses (by simp [Input.refuses]) _ rfl
  | openStream streamId isUni => exact happ streamId _
  | sendStreamData streamId id data fin => exact happ streamId _
  | resetStream streamId id errorCode => exact happ streamId _
  | stopSending streamId id errorCode => exact happ streamId _
  | sendDatagram streamId data => exact happ streamId _
  | closeSession streamId errorCode message => exact happ streamId _
  | drainSession streamId => exact happ streamId _

/-- An input that does not ask for the session makes no entry. -/
theorem callsOf_unrequested (input : Input)
    (h : input.requests s.isServer sessionId = false) :
    (s.callsOf sessionId input).countP Call.requests = 0 := by
  rw [List.countP_eq_zero]
  intro c hc
  have hfalse : c.requests = false :=
    callsOf_all (P := fun c => c.requests = false) (fun c hc _ => hc) input h (fun _ c hc => hc)
      (fun w rv _ _ => rfl) c hc
  simp [hfalse]

theorem countP_onSession_le (sessionId streamId : Int) (c : Call) :
    (onSession sessionId streamId c).countP Call.requests ≤ 1 := by
  unfold onSession
  split_ifs
  · exact List.countP_le_length
  · exact Nat.zero_le 1

theorem countP_requestCalls_le (streamId : Int) (headers : HeaderList) (rv : Option NgError) :
    (s.requestCalls sessionId streamId headers rv).countP Call.requests ≤ 1 := by
  have hreject : ∀ status,
      (s.rejectCalls sessionId streamId status rv).countP Call.requests ≤ 1 := by
    intro status
    unfold rejectCalls
    split_ifs
    · exact countP_onSession_le _ _ _
    · exact Nat.zero_le 1
  unfold requestCalls
  split_ifs
  · exact hreject 403
  · cases s.requestedSession streamId headers with
    | none => exact hreject 400
    | some w => exact countP_onSession_le _ _ _
  · exact hreject 405

/-- No input makes two entries. -/
theorem countP_callsOf_le (input : Input) :
    (s.callsOf sessionId input).countP Call.requests ≤
      if input.requests s.isServer sessionId then 1 else 0 := by
  split_ifs with hrequests
  · cases input with
    | endHeaders streamId rv =>
        simp only [Input.requests, Bool.and_eq_true] at hrequests
        simp only [callsOf, headerCalls]
        cases s.pendingHeaders.find? streamId with
        | none => exact Nat.zero_le 1
        | some headers =>
            dsimp only
            rw [if_pos hrequests.1]
            exact countP_requestCalls_le _ _ _
    | connect url origin streamId flush =>
        simp only [callsOf, connectCalls]
        cases parseAuthorityPath url with
        | none =>
            dsimp only
            split_ifs <;> exact Nat.zero_le 1
        | some target =>
            dsimp only
            split_ifs
            · exact Nat.zero_le 1
            · exact Nat.zero_le 1
            · exact Nat.zero_le 1
            · exact Nat.zero_le 1
            · have hflush : (s.flushCalls sessionId flush).countP Call.requests = 0 := by
                rw [List.countP_eq_zero]
                intro c hc
                exact flushCalls_all (P := fun c => ¬ c.requests = true)
                  (fun _ => Bool.false_ne_true) _ _ _ c hc
              rw [List.countP_append, hflush]
              exact countP_onSession_le _ _ _
    | _ => cases hrequests
  · exact le_of_eq (callsOf_unrequested input (Bool.eq_false_iff.2 hrequests))

theorem countP_runCalls_le (s : H2Session) (sessionId : Int) (inputs : List Input) :
    (s.runCalls sessionId inputs).countP Call.requests ≤
      inputs.countP (Input.requests s.isServer sessionId) := by
  induction inputs generalizing s with
  | nil => exact Nat.le_refl 0
  | cons input rest ih =>
      have hrole : (s.step input).isServer = s.isServer := (step_calls s sessionId input).role
      have hrest := ih (s.step input)
      rw [hrole] at hrest
      have hfirst := @countP_callsOf_le s sessionId input
      calc
        ((s.callsOf sessionId input ++ (s.step input).runCalls sessionId rest).countP Call.requests)
            = (s.callsOf sessionId input).countP Call.requests +
                ((s.step input).runCalls sessionId rest).countP Call.requests := List.countP_append
        _ ≤ (if input.requests s.isServer sessionId then 1 else 0) +
              rest.countP (Input.requests s.isServer sessionId) := Nat.add_le_add hfirst hrest
        _ = (input :: rest).countP (Input.requests s.isServer sessionId) := by
            rw [List.countP_cons, Nat.add_comm]

end CallsOf

/-- The events pushed for a session id. -/
def told (s : H2Session) (sessionId : Int) : List H2Event :=
  Effect.events (effectsOf sessionId s.trace)

/-- Before it is asked for, a session id has no entry. -/
theorem unrequested_entry {isServer : Bool} {config : H2SessionConfig} {s : H2Session}
    (hcreate : create isServer config = .ok s) (sessionId : Int) {inputs : List Input}
    (hnone : inputs.countP (Input.requests isServer sessionId) = 0) :
    (s.run inputs).wtSessions.find? sessionId = none := by
  have hrole : s.isServer = isServer := (create_view hcreate sessionId).2.1
  have hcalls := countP_runCalls_le s sessionId inputs
  rw [hrole, hnone] at hcalls
  have hpath := path_told (created_run hcreate sessionId inputs) (le_trans hcalls (Nat.zero_le 1))
  exact (hpath.2 (Nat.le_zero.1 hcalls)).1

/-- A session ends once: over a run in which a session id is asked for once at most, at most one
event ends it and only errors follow; and a step that takes an established entry away without
refusing the session pushes exactly one `SessionClosed`. -/
theorem ends_once {isServer : Bool} {config : H2SessionConfig} {s : H2Session}
    (hcreate : create isServer config = .ok s) (sessionId : Int) (inputs : List Input)
    (honce : inputs.countP (Input.requests isServer sessionId) ≤ 1) :
    ((s.run inputs).told sessionId).countP H2Event.ends ≤ 1 ∧
    (∀ before last after, (s.run inputs).told sessionId = before ++ last :: after →
      last.ends = true → ∀ e ∈ after, e.type = .error) ∧
    (∀ before input after w, inputs = before ++ input :: after →
      (s.run before).wtSessions.find? sessionId = some w → w.isEstablished = true →
      input.refuses isServer sessionId = false →
      ((s.run before).step input).wtSessions.find? sessionId = none →
      (((s.run before).step input).told sessionId).countP (fun e => e.type = .sessionClosed) =
        ((s.run before).told sessionId).countP (fun e => e.type = .sessionClosed) + 1) := by
  have hrole : s.isServer = isServer := (create_view hcreate sessionId).2.1
  have hcalls := countP_runCalls_le s sessionId inputs
  rw [hrole] at hcalls
  have htold := (path_told (created_run hcreate sessionId inputs) (le_trans hcalls honce)).1
  refine ⟨?_, ?_, ?_⟩
  · rcases htold with hquiet | ⟨-, before, last, after, hevents, hbefore, hlast, hafter⟩
    · have hzero : ((s.run inputs).told sessionId).countP H2Event.ends = 0 :=
        List.countP_eq_zero.2 fun e he => Bool.eq_false_iff.1 (hquiet e he)
      omega
    · have hold : before.countP H2Event.ends = 0 :=
        List.countP_eq_zero.2 fun e he => Bool.eq_false_iff.1 (hbefore e he)
      have hnew : after.countP H2Event.ends = 0 :=
        List.countP_eq_zero.2 fun e he =>
          Bool.eq_false_iff.1 (H2Event.ends_of_error (hafter e he))
      have hsplit : (s.run inputs).told sessionId = before ++ last :: after := hevents
      rw [hsplit, List.countP_append, List.countP_cons, hold, hnew, if_pos hlast]
  · intro before last after hsplit hlast
    rcases htold with hquiet | ⟨-, before', last', after', hevents, hbefore, hlast', hafter⟩
    · have hmem : last ∈ (s.run inputs).told sessionId := by
        rw [hsplit]
        exact List.mem_append_right before List.mem_cons_self
      exact absurd hlast (Bool.eq_false_iff.1 (hquiet last hmem))
    · -- Both splits are at the only event that ends the session.
      have hboth : before ++ last :: after = before' ++ last' :: after' := hsplit.symm.trans hevents
      rcases List.append_eq_append_iff.1 hboth with ⟨mid, hmid, htail⟩ | ⟨mid, hmid, htail⟩
      · cases mid with
        | nil =>
            cases htail
            exact hafter
        | cons e mid =>
            have hsame : last = e := (List.cons.inj htail).1
            have hmem : last ∈ before' := by
              rw [hmid, hsame]
              exact List.mem_append_right before List.mem_cons_self
            exact absurd hlast (Bool.eq_false_iff.1 (hbefore last hmem))
      · cases mid with
        | nil =>
            cases htail
            exact hafter
        | cons e mid =>
            have htail' : after' = mid ++ last :: after := (List.cons.inj htail).2
            intro e' he'
            refine hafter e' ?_
            rw [htail']
            exact List.mem_append_right mid (List.mem_cons_of_mem last he')
  · rintro before input after w rfl hentry hest hrefuses hgone
    have hrun := run_calls s sessionId before
    have hrole' : (s.run before).isServer = isServer := hrun.role.trans hrole
    -- The entry was asked for before, so this input does not ask for it.
    have hrequests : input.requests isServer sessionId = false := by
      by_contra hyes
      rw [List.countP_append, List.countP_cons,
        if_pos (Bool.eq_true_of_not_eq_false hyes)] at honce
      have hnone := @unrequested_entry _ _ _ hcreate sessionId before (by omega)
      rw [hentry] at hnone
      cases hnone
    have hstep := step_calls (s.run before) sessionId input
    refine path_closes hstep.path hentry ?_ hgone
    refine callsOf_all (fun c hc hc' => ⟨hc, hc'⟩) input (hrole'.symm ▸ hrequests) ?_ ?_
    · intro hyes
      rw [hrole', hrefuses] at hyes
      cases hyes
    · intro w' rv hentry' hest'
      rw [hentry] at hentry'
      cases hentry'
      rw [hest] at hest'
      cases hest'

/-- `reject_session` on an accepted session takes the established entry away, and no
`SessionClosed` is pushed. -/
theorem reject_of_accepted_session :
    let s₀ : H2Session := { isServer := true, config := {} }
    let s := s₀.run (openSession 1)
    create true {} = .ok s₀ ∧
      (∃ w, s.wtSessions.find? 1 = some w ∧ w.isEstablished = true) ∧
      (s.step (.rejectSession 1 404 none)).wtSessions.find? 1 = none ∧
      ¬ ((s.step (.rejectSession 1 404 none)).told 1).countP (fun e => e.type = .sessionClosed) =
        (s.told 1).countP (fun e => e.type = .sessionClosed) + 1 := by
  refine ⟨rfl, ?_, by decide +kernel, by decide +kernel⟩
  have hsome : (run { isServer := true, config := {} } (openSession 1)).wtSessions.find? 1 |>.any
      (·.isEstablished) := by decide +kernel
  rcases (Option.any_eq_true_iff_get _ _).1 hsome with ⟨hget, hest⟩
  exact ⟨_, (Option.some_get hget).symm, hest⟩

/-- END_STREAM behind the acceptance ends the session once, and the close of the stream behind it
is not told again. -/
theorem ends_once_end_stream :
    let s₀ : H2Session := { isServer := true, config := {} }
    let inputs := openSession 1 ++ [Input.remoteEndStream 1, .write (.streamClose 1 none)]
    inputs.countP (Input.requests true 1) ≤ 1 ∧
      ((s₀.run inputs).told 1).countP (fun e => e.type = .sessionClosed) = 1 ∧
      ((s₀.run inputs).told 1).countP H2Event.ends ≤ 1 := by
  have hcreate : create true {} = .ok { isServer := true, config := {} } := rfl
  have honce : (openSession 1 ++ [Input.remoteEndStream 1, .write (.streamClose 1 none)]).countP
      (Input.requests true 1) ≤ 1 := by decide
  exact ⟨honce, by decide +kernel, (ends_once hcreate 1 _ honce).1⟩

end H2Session

end H2
end WebTransport
