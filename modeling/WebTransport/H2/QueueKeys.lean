import WebTransport.H2.Calls

/-!
# H2.QueueKeys — the capsules queued for a session and its entry

`http2_stream_buffers_` and `wt_sessions_` are kept by different functions.

* `Stable`        : what commits and the queue callbacks keep, every input keeps;
* `Tracked`       : there is a queue where the effects in the name of an id left one;
* `Discards`      : a session method that leaves no entry leaves no queue;
* `queue_keys_iff`: when every queue of a run belongs to an entry.
-/

namespace WebTransport
namespace H2

open Bindings

/-! ## The queue of a session id -/

/-- Whether there is a queue behind an effect. -/
def Effect.leavesQueue (queued : Bool) : Effect → Bool
  | .capsule _ => true
  | .eraseStreamBuffers => false
  | _ => queued

/-- Whether there is a queue behind effects. -/
def Effect.queueBehind (queued : Bool) (es : List Effect) : Bool :=
  es.foldl Effect.leavesQueue queued

theorem Effect.queueBehind_append (queued : Bool) (es es' : List Effect) :
    Effect.queueBehind queued (es ++ es') =
      Effect.queueBehind (Effect.queueBehind queued es) es' := List.foldl_append

namespace H2Session

/-- There are capsules queued for a session id, or were. -/
def hasQueue (s : H2Session) (sessionId : Int) : Bool :=
  (s.http2StreamBuffers.find? sessionId).isSome

theorem consumeConnectionRecvBytes_buffers (s : H2Session) (size : Nat) :
    (s.consumeConnectionRecvBytes size).http2StreamBuffers = s.http2StreamBuffers := by
  unfold consumeConnectionRecvBytes
  dsimp only
  split_ifs <;> rfl

theorem consumeRecvBytes_buffers (s : H2Session) (streamId : Int) (size : Nat) :
    (s.consumeRecvBytes streamId size).http2StreamBuffers = s.http2StreamBuffers := by
  unfold consumeRecvBytes
  cases s.unconsumedRecvBytes.find? streamId with
  | none => split_ifs <;> rfl
  | some unconsumed =>
      dsimp only
      split_ifs
      · rfl
      · rfl
      · exact consumeConnectionRecvBytes_buffers _ _
      · exact consumeConnectionRecvBytes_buffers _ _

theorem discardStreamRecvBytes_buffers (s : H2Session) (streamId : Int) :
    (s.discardStreamRecvBytes streamId).http2StreamBuffers = s.http2StreamBuffers := by
  unfold discardStreamRecvBytes
  cases s.unconsumedRecvBytes.find? streamId with
  | none => rfl
  | some remaining => exact consumeConnectionRecvBytes_buffers _ _

/-- An effect makes or takes away the queue of its own session only. -/
theorem perform_hasQueue (s : H2Session) (sessionId id : Int) (e : Effect) :
    (s.perform sessionId e).hasQueue id =
      if id = sessionId then e.leavesQueue (s.hasQueue id) else s.hasQueue id := by
  have hkept : ∀ s' : H2Session, s'.http2StreamBuffers = s.http2StreamBuffers →
      s'.hasQueue id = if id = sessionId then s.hasQueue id else s.hasQueue id := by
    intro s' hbuffers
    unfold hasQueue
    rw [hbuffers, ite_self]
  cases e with
  | capsule c =>
      simp only [perform, hasQueue, OrdMap.find?_insert, Effect.leavesQueue]
      split_ifs <;> rfl
  | eraseStreamBuffers =>
      simp only [perform, hasQueue, OrdMap.find?_erase, Effect.leavesQueue]
      split_ifs <;> rfl
  | event e => exact hkept _ rfl
  | consumeRecvBytes size => exact hkept _ (consumeRecvBytes_buffers s sessionId size)
  | discardStreamRecvBytes => exact hkept _ (discardStreamRecvBytes_buffers s sessionId)
  | endStreamPending => exact hkept _ rfl
  | shutdownStream errorCode => exact hkept _ rfl
  | dispatch type payload => exact hkept _ rfl

theorem foldl_perform_hasQueue (s : H2Session) (sessionId id : Int) (es : List Effect) :
    (es.foldl (perform sessionId) s).hasQueue id =
      if id = sessionId then Effect.queueBehind (s.hasQueue id) es else s.hasQueue id := by
  induction es generalizing s with
  | nil => exact (ite_self _).symm
  | cons e es ih =>
      have hnext := ih (s.perform sessionId e)
      rw [perform_hasQueue] at hnext
      rw [List.foldl_cons, hnext]
      split_ifs <;> rfl

/-- A method makes or takes away the queue of its own session only. -/
theorem commit_hasQueue (s : H2Session) (sc : SessionScope) (id : Int) :
    (s.commit sc).hasQueue id =
      if id = sc.sessionId then Effect.queueBehind (s.hasQueue id) sc.effects
      else s.hasQueue id :=
  foldl_perform_hasQueue _ sc.sessionId id sc.effects

/-- The callbacks that write a queue neither make one nor take it away. -/
theorem onReadData_hasQueue (s : H2Session) (streamId id : Int) :
    (s.onReadData streamId).1.hasQueue id = s.hasQueue id := by
  have hkept : ∀ queue, s.http2StreamBuffers.find? streamId = some queue →
      ∀ queue' : List H2StreamData,
      ((s.http2StreamBuffers.insert streamId queue').find? id).isSome = s.hasQueue id := by
    intro queue hqueue queue'
    rw [OrdMap.find?_insert, hasQueue]
    split_ifs with hid
    · rw [hid, hqueue]
      rfl
    · rfl
  unfold onReadData
  cases hqueue : s.http2StreamBuffers.find? streamId with
  | none =>
      dsimp only
      split <;> split_ifs <;> rfl
  | some queue =>
      dsimp only
      split <;> split_ifs <;> exact hkept queue hqueue _

theorem onWriteStreamDataOffset_hasQueue (s : H2Session) (streamId id : Int) (offset len : Nat) :
    (s.onWriteStreamDataOffset streamId offset len).hasQueue id = s.hasQueue id := by
  unfold onWriteStreamDataOffset
  dsimp only
  split_ifs
  · rfl
  · cases hqueue : s.http2StreamBuffers.find? streamId with
    | none => rfl
    | some queue =>
        simp only [hasQueue, OrdMap.find?_insert]
        split_ifs with hid
        · rw [hid, hqueue]
          rfl
        · rfl

/-! ## What every input keeps -/

/-- Kept when a session method is committed, by the callbacks that write its queue, and by changes
of anything but the entries, the queues and the record of what was done. -/
structure Stable (P : H2Session → Prop) : Prop where
  commit : ∀ s sc, P s → P (s.commit sc)
  readData : ∀ s streamId, P s → P (s.onReadData streamId).1
  writeOffset : ∀ s streamId offset len, P s → P (s.onWriteStreamDataOffset streamId offset len)
  elsewhere : ∀ s s', s'.wtSessions = s.wtSessions → s'.trace = s.trace →
    s'.http2StreamBuffers = s.http2StreamBuffers → P s → P s'

namespace Stable

variable {P : H2Session → Prop} {s : H2Session}

theorem inScope (hP : Stable P) (h : P s) (sessionId : Int) (f : SessionScope → SessionScope) :
    P (s.inScope sessionId f) :=
  hP.commit s (f (s.scope sessionId)) h

theorem callNg (hP : Stable P) (h : P s) (call : NgCall) : P (s.callNg call) :=
  hP.elsewhere s _ rfl rfl rfl h

theorem consume (hP : Stable P) (h : P s) (size : Nat) : P (s.consumeConnectionRecvBytes size) := by
  have hkept := consumeConnectionRecvBytes_kept s size
  refine hP.elsewhere s _ ?_ ?_ (consumeConnectionRecvBytes_buffers s size) h
  · exact congrArg (fun k => k.1) hkept
  · exact congrArg (fun k => k.2.1) hkept

/-! ### nghttp2 callbacks -/

theorem onWrite (hP : Stable P) (h : P s) (callback : WriteCallback) : P (s.onWrite callback) := by
  cases callback with
  | readData streamId => exact hP.readData s streamId h
  | writeStreamDataOffset streamId offset len => exact hP.writeOffset s streamId offset len h
  | streamClose streamId errorCode =>
      have hclosed := hP.inScope h streamId (·.closeStream errorCode)
      exact hP.elsewhere (s.inScope streamId (·.closeStream errorCode)) _ rfl rfl rfl hclosed

theorem flushOutput (hP : Stable P) (h : P s) (callbacks : List WriteCallback) :
    P (s.flushOutput callbacks) := by
  have hfold : ∀ t, P t → P (callbacks.foldl H2Session.onWrite t) := by
    induction callbacks with
    | nil => exact fun t ht => ht
    | cons callback rest ih => exact fun t ht => ih _ (hP.onWrite ht callback)
  unfold H2Session.flushOutput
  split_ifs
  · exact h
  · exact hfold s h

theorem rejectSession (hP : Stable P) (h : P s) (sessionId status : Int) (rv : Option NgError) :
    P (s.orElse (s.rejectSession sessionId status rv)) := by
  unfold H2Session.rejectSession
  split_ifs
  · exact h
  · exact h
  · exact h
  · exact h
  · exact hP.inScope (hP.callNg h _) sessionId _

theorem rejectInCallback (hP : Stable P) (h : P s) (sessionId status : Int)
    (rv : Option NgError) : P (s.rejectInCallback sessionId status rv) := by
  have heq : s.rejectInCallback sessionId status rv =
      s.orElse (s.rejectSession sessionId status rv) := by
    unfold H2Session.rejectInCallback orElse
    cases s.rejectSession sessionId status rv <;> rfl
  rw [heq]
  exact hP.rejectSession h sessionId status rv

theorem dropHeaders (hP : Stable P) (h : P s) (streamId : Int) : P (s.dropHeaders streamId) :=
  hP.elsewhere s _ rfl rfl rfl h

theorem onEndHeaders (hP : Stable P) (h : P s) (sessionId : Int) (rv : Option NgError) :
    P (s.onEndHeaders sessionId rv) := by
  unfold H2Session.onEndHeaders
  cases s.pendingHeaders.find? sessionId with
  | none => exact h
  | some headers =>
      dsimp only
      split_ifs
      · unfold onRequestHeaders
        dsimp only
        split_ifs
        · exact hP.rejectInCallback (hP.dropHeaders h sessionId) sessionId _ rv
        · split
          · exact hP.rejectInCallback (hP.dropHeaders h sessionId) sessionId _ rv
          · exact hP.dropHeaders (hP.inScope h sessionId _) sessionId
        · exact hP.dropHeaders (hP.rejectInCallback h sessionId _ rv) sessionId
      · unfold onResponseHeaders
        dsimp only
        split_ifs
        · exact hP.dropHeaders (hP.inScope h sessionId _) sessionId
        · exact hP.dropHeaders (hP.inScope h sessionId _) sessionId
        · exact hP.dropHeaders h sessionId

theorem onRecvData (hP : Stable P) (h : P s) (sessionId : Int) (data : Bytes)
    (rv : Option NgError) : P (s.onRecvData sessionId data rv) := by
  have hcounted : P { s with connRecvWindowSize := s.connRecvWindowSize + data.length } :=
    hP.elsewhere s _ rfl rfl rfl h
  unfold H2Session.onRecvData
  dsimp only
  cases s.wtSessions.find? sessionId with
  | none => exact hP.consume hcounted data.length
  | some w =>
      have hrecorded : P { s with
          connRecvWindowSize := s.connRecvWindowSize + data.length
          unconsumedRecvBytes := s.unconsumedRecvBytes.insert sessionId
            ((s.unconsumedRecvBytes.find? sessionId).getD 0 + data.length) } :=
        hP.elsewhere s _ rfl rfl rfl h
      dsimp only
      split_ifs
      · exact hP.consume hcounted data.length
      · exact hcounted
      · exact hP.inScope hrecorded sessionId _
      · exact hrecorded
      · exact hP.rejectInCallback hrecorded sessionId 413 rv
      · exact hP.inScope hrecorded sessionId _

/-! ### The API -/

theorem finishAccept (hP : Stable P) (h : P s) (sessionId : Int)
    (resetFlush : List WriteCallback) : P (s.finishAccept sessionId resetFlush) := by
  have hterminated := hP.inScope h sessionId (·.terminatePreAcceptEndStreamSession)
  unfold H2Session.finishAccept
  cases s.wtSessions.find? sessionId with
  | none => exact h
  | some w =>
      dsimp only
      split_ifs
      · exact h
      · exact hP.flushOutput hterminated resetFlush
      · exact hterminated
      · exact hP.inScope h sessionId _

theorem acceptSession (hP : Stable P) (h : P s) (sessionId : Int) (rv : Option NgError)
    (flush resetFlush : List WriteCallback) :
    P (s.acceptSession sessionId rv flush resetFlush).1 := by
  have hcalled := hP.callNg h (.submitResponse sessionId (acceptHeaders s.config))
  unfold H2Session.acceptSession
  split_ifs
  · exact h
  · cases rv with
    | some err => exact hP.inScope hcalled sessionId _
    | none =>
        have hmarked := hP.inScope hcalled sessionId (·.markEstablished)
        have hdrained := hP.inScope (hP.flushOutput hmarked flush) sessionId (·.processCapsules [])
        exact hP.finishAccept hdrained sessionId resetFlush

theorem connect (hP : Stable P) (h : P s) (url origin : Bytes) (streamId : Int)
    (flush : List WriteCallback) : P (s.connect url origin streamId flush).1 := by
  unfold H2Session.connect
  cases Bindings.parseAuthorityPath url with
  | none =>
      dsimp only
      split_ifs <;> exact h
  | some target =>
      have hcalled := hP.callNg h
        (.submitRequest (connectHeaders s.config target.1 target.2 origin))
      dsimp only
      split_ifs
      · exact h
      · exact h
      · exact h
      · exact hcalled
      · exact hP.flushOutput (hP.inScope hcalled streamId _) flush

theorem openStream (hP : Stable P) (h : P s) (sessionId : Int) (isUnidirectional : Bool) :
    P (s.openStream sessionId isUnidirectional).1 := by
  unfold H2Session.openStream
  cases s.wtSessions.find? sessionId with
  | none => exact h
  | some w => exact hP.commit s _ h

theorem resetStream (hP : Stable P) (h : P s) (sessionId : Int) (streamId : Nat)
    (errorCode : UInt32) : P (s.orElse (s.resetStream sessionId streamId errorCode)) := by
  unfold H2Session.resetStream
  split_ifs
  · exact h
  · exact hP.commit s _ h

theorem stopSending (hP : Stable P) (h : P s) (sessionId : Int) (streamId : Nat)
    (errorCode : UInt32) : P (s.orElse (s.stopSending sessionId streamId errorCode)) := by
  unfold H2Session.stopSending
  split_ifs
  · exact h
  · exact hP.commit s _ h

theorem nextEvent (hP : Stable P) (h : P s) : P s.nextEvent.1 := by
  unfold H2Session.nextEvent
  cases s.events with
  | nil => exact h
  | cons e rest => exact hP.elsewhere s _ rfl rfl rfl h

theorem onRecvSettingsEntry (hP : Stable P) (h : P s) (id value : Nat) :
    P (s.onRecvSettingsEntry id value) := by
  unfold H2Session.onRecvSettingsEntry
  split_ifs
  all_goals exact hP.elsewhere s _ rfl rfl rfl h

theorem step (hP : Stable P) (h : P s) (input : Input) : P (s.step input) := by
  cases input with
  | recvSettingsEntry id value => exact hP.onRecvSettingsEntry h id value
  | beginHeaders streamId => exact hP.elsewhere s _ rfl rfl rfl h
  | recvHeader streamId name value => exact hP.elsewhere s _ rfl rfl rfl h
  | endHeaders streamId rv => exact hP.onEndHeaders h streamId rv
  | endTrailers streamId => exact hP.dropHeaders h streamId
  | recvData streamId data rv => exact hP.onRecvData h streamId data rv
  | remoteEndStream streamId => exact hP.inScope h streamId _
  | shutdown lastStreamId errorCode => exact hP.elsewhere s _ rfl rfl rfl h
  | write callback => exact hP.onWrite h callback
  | readError err => exact hP.elsewhere s _ rfl rfl rfl h
  | connect url origin streamId flush => exact hP.connect h url origin streamId flush
  | acceptSession sessionId rv flush resetFlush =>
      exact hP.acceptSession h sessionId rv flush resetFlush
  | rejectSession sessionId status rv => exact hP.rejectSession h sessionId status rv
  | openStream sessionId isUnidirectional => exact hP.openStream h sessionId isUnidirectional
  | sendStreamData sessionId streamId data fin => exact hP.commit s _ h
  | resetStream sessionId streamId errorCode => exact hP.resetStream h sessionId streamId errorCode
  | stopSending sessionId streamId errorCode => exact hP.stopSending h sessionId streamId errorCode
  | sendDatagram sessionId data => exact hP.commit s _ h
  | closeSession sessionId errorCode message => exact hP.commit s _ h
  | drainSession sessionId => exact hP.commit s _ h
  | nextEvent => exact hP.nextEvent h

theorem run (hP : Stable P) (h : P s) (inputs : List Input) : P (s.run inputs) := by
  induction inputs generalizing s with
  | nil => exact h
  | cons input rest ih => exact ih (hP.step h input)

end Stable

/-- There is a queue exactly where the effects in the name of a session id left one. -/
def Tracked (s : H2Session) : Prop :=
  ∀ id, s.hasQueue id = Effect.queueBehind false (effectsOf id s.trace)

theorem tracked_stable : Stable Tracked where
  commit := by
    intro s sc h id
    have htrace : (s.commit sc).trace = s.trace ++ sc.effects.map fun e => (sc.sessionId, e) :=
      congrArg (fun k => k.2.1) (foldl_perform_kept sc.sessionId _ sc.effects)
    rw [commit_hasQueue, h id, htrace, effectsOf_append]
    split_ifs with hself
    · subst hself
      rw [effectsOf_own, Effect.queueBehind_append]
    · rw [effectsOf_other (Ne.symm hself), List.append_nil]
  readData := by
    intro s streamId h id
    have htrace : (s.onReadData streamId).1.trace = s.trace := by
      unfold onReadData
      cases s.http2StreamBuffers.find? streamId <;> dsimp only <;> split <;> split_ifs <;> rfl
    rw [onReadData_hasQueue, htrace]
    exact h id
  writeOffset := by
    intro s streamId offset len h id
    have htrace : (s.onWriteStreamDataOffset streamId offset len).trace = s.trace := by
      unfold onWriteStreamDataOffset
      dsimp only
      split_ifs
      · rfl
      · cases s.http2StreamBuffers.find? streamId <;> rfl
    rw [onWriteStreamDataOffset_hasQueue, htrace]
    exact h id
  elsewhere := by
    intro s s' _ htrace hbuffers h id
    unfold hasQueue
    rw [hbuffers, htrace]
    exact h id

end H2Session

/-! ## No queue without an entry -/

/-- A response that is not 2xx, sent or received: the entry goes and the queue stays. -/
def Call.isRejection : Call → Bool
  | .reject status _ => status / 100 ≠ 2
  | .beRejected _ => true
  | _ => false

namespace SessionScope

/-- A rejection takes the entry away and leaves the queue as it is. -/
theorem call_rejection (sc : SessionScope) {c : Call} (hrejection : c.isRejection = true) :
    (sc.call c).entry = none ∧ ∀ queued, Effect.queueBehind queued (sc.call c).effects =
      Effect.queueBehind queued sc.effects := by
  have hquiet : ∀ (queued : Bool) (es : List Effect) (e : H2Event),
      Effect.queueBehind queued (es ++ [.event e] ++ [.discardStreamRecvBytes]) =
        Effect.queueBehind queued es := by
    intro queued es e
    rw [Effect.queueBehind_append, Effect.queueBehind_append]
    rfl
  cases c with
  | beRejected status =>
      simp only [call, H2Session.beRejected]
      cases hentry : sc.entry with
      | none => exact ⟨hentry, fun queued => rfl⟩
      | some w => exact ⟨rfl, fun queued => hquiet queued sc.effects _⟩
  | reject status rv =>
      have hstatus : status / 100 ≠ 2 := of_decide_eq_true hrejection
      simp only [call, H2Session.reject, if_pos hstatus]
      cases rv with
      | none =>
          refine ⟨rfl, fun queued => ?_⟩
          simp only [perform]
          rw [Effect.queueBehind_append]
          rfl
      | some err => exact ⟨rfl, fun queued => hquiet queued sc.effects _⟩
  | _ => cases hrejection

/-- A queue is left only beside an entry; `queued` is what was there before. -/
def Discards (queued : Bool) (sc : SessionScope) : Prop :=
  sc.entry = none → Effect.queueBehind queued sc.effects = false

namespace Discards

variable {queued : Bool} {sc : SessionScope} {w : WtSessionInfo}

theorem of_some (hentry : sc.entry = some w) : Discards queued sc := by
  intro hnone
  rw [hnone] at hentry
  cases hentry

/-- An effect that leaves no queue where there was none. -/
theorem perform (h : Discards queued sc) {e : Effect} (he : e.leavesQueue false = false) :
    Discards queued (sc.perform e) := by
  intro hnone
  have hbefore := h hnone
  unfold SessionScope.perform
  rw [Effect.queueBehind_append, hbefore]
  exact he

/-- Behind the erasure of the queue there is none. -/
theorem erased (sc : SessionScope) : Discards queued (sc.perform .eraseStreamBuffers) := by
  intro _
  unfold SessionScope.perform
  rw [Effect.queueBehind_append]
  rfl

theorem eraseSession (sc : SessionScope) : Discards queued sc.eraseSession := by
  intro _
  unfold SessionScope.eraseSession
  rw [Effect.queueBehind_append]
  rfl

theorem resetStreamForMalformedCapsule (h : Discards queued sc) :
    Discards queued sc.resetStreamForMalformedCapsule := by
  intro hnone
  have hbefore : sc.entry = none := Option.map_eq_none_iff.1 hnone
  unfold SessionScope.resetStreamForMalformedCapsule
  rw [Effect.queueBehind_append, h hbefore]
  rfl

/-- The capsule that closes a session is queued beside its entry. -/
theorem closeSession (h : Discards queued sc) (errorCode : Nat) (message : Bytes) :
    Discards queued (sc.closeSession errorCode message) := by
  unfold SessionScope.closeSession
  cases hentry : sc.entry with
  | none => exact h
  | some w =>
      dsimp only
      split_ifs
      · exact h
      · exact of_some rfl

theorem onEntry (h : Discards queued sc) (f : WtSessionInfo → Queued) :
    Discards queued (sc.onEntry f) := by
  unfold SessionScope.onEntry
  cases hentry : sc.entry with
  | none => exact h
  | some w => exact of_some rfl

theorem carryOut (sc : SessionScope) (v : Verdict) : Discards queued (sc.carryOut v) := by
  cases v with
  | refuse w event errorCode message => exact closeSession (of_some rfl) _ _
  | accept before q after => exact of_some rfl
  | close event => exact eraseSession _

theorem react (hentry : sc.entry = some w) (r : Reading) : Discards queued (sc.react w r) := by
  cases r with
  | malformed => exact (of_some hentry).resetStreamForMalformedCapsule
  | wtError message => exact closeSession ((of_some hentry).perform rfl) _ _
  | received r =>
      have hverdict : sc.react w (.received r) =
          sc.carryOut (w.judge sc.config sc.isServer r) := receive_eq hentry r
      rw [hverdict]
      exact carryOut sc _

theorem processCapsules (h : Discards queued sc) (data : Bytes) :
    Discards queued (sc.processCapsules data) := by
  refine processCapsules_rule (P := fun _ => True) ?_ ?_ ?_ (eachTurn_true _) h
  · intro sc w buffer _ _
    exact of_some rfl
  · intro sc type size payload hsc
    exact (hsc.perform rfl).perform rfl
  · intro sc w buffer r _ hentry _ _ _
    exact react hentry r

theorem step (h : Discards queued sc) (op : Op) : Discards queued (sc.step op) := by
  cases op with
  | openStream isUnidirectional => exact h.onEntry _
  | sendStreamData streamId data fin => exact h.onEntry _
  | resetStream streamId errorCode =>
      simp only [SessionScope.step]
      split_ifs
      · exact h
      · exact h.onEntry _
  | stopSending streamId errorCode =>
      simp only [SessionScope.step]
      split_ifs
      · exact h
      · exact h.onEntry _
  | sendDatagram data => exact h.onEntry _
  | drainSession => exact h.onEntry _
  | closeSession errorCode message => exact h.closeSession _ _
  | receive c => exact h.processCapsules _

/-- Events are no queue. -/
theorem foldl_pushEvent (h : Discards queued sc) (events : List H2Event) :
    Discards queued (events.foldl SessionScope.pushEvent sc) := by
  induction events generalizing sc with
  | nil => exact h
  | cons e rest ih => exact ih (h.perform rfl)

/-- The methods other than a rejection. -/
theorem call (h : Discards queued sc) {c : Call} (hrejection : c.isRejection = false)
    (hallowed : c.Allowed sc.isServer sc.config sc.entry) : Discards queued (sc.call c) := by
  cases c with
  | request w events => exact foldl_pushEvent (of_some rfl) events
  | establish headers =>
      simp only [SessionScope.call, H2Session.establish]
      cases hentry : sc.entry with
      | none => exact h
      | some w => exact of_some rfl
  | beRejected status => cases hrejection
  | reject status rv =>
      have hstatus : ¬ status / 100 ≠ 2 := of_decide_eq_false hrejection
      have hreported : ∀ sc' : SessionScope, Discards queued sc' →
          Discards queued (H2Session.reject status none sc') := by
        intro sc' hsc'
        simp only [H2Session.reject, if_neg hstatus]
        cases hentry : sc'.entry with
        | none => exact hsc'
        | some w => exact of_some rfl
      cases rv with
      | none => exact hreported sc h
      | some err => exact hreported _ (h.perform rfl)
  | recvEstablished data =>
      have hloop := h.processCapsules data
      simp only [SessionScope.call, recvEstablished]
      cases hentry : (sc.processCapsules data).entry with
      | none => exact hloop
      | some w =>
          dsimp only
          split_ifs
          · exact hloop.perform rfl
          · exact hloop
  | bufferPreAccept data => exact fun hnone => h (Option.map_eq_none_iff.1 hnone)
  | handleEndStream =>
      simp only [SessionScope.call, SessionScope.handleEndStream]
      cases hentry : sc.entry with
      | none => exact h
      | some w =>
          dsimp only
          split_ifs
          · exact of_some rfl
          · exact h
          · exact h.resetStreamForMalformedCapsule
          · exact eraseSession _
  | terminatePreAcceptEndStreamSession =>
      simp only [SessionScope.call, SessionScope.terminatePreAcceptEndStreamSession]
      cases hentry : sc.entry with
      | none => exact h
      | some w =>
          dsimp only
          split_ifs
          · exact h.resetStreamForMalformedCapsule
          · exact eraseSession _
  | markEstablished => exact fun hnone => h (Option.map_eq_none_iff.1 hnone)
  | clearBuffer => exact fun hnone => h (Option.map_eq_none_iff.1 hnone)
  | drain => exact h.processCapsules []
  | sendInitialLimits =>
      rcases hallowed with ⟨w, hentry, -⟩
      exact @of_some queued sc.sendInitialLimits w hentry
  | streamClose errorCode => exact (erased _).perform rfl
  | api op => exact h.step op

end Discards

end SessionScope

/-- What a session id sees has no queue without an entry. -/
def View.Lodged (v : View) : Prop :=
  v.entry = none → Effect.queueBehind false v.effects = false

theorem View.Lodged.called {isServer : Bool} {config : H2SessionConfig} {sessionId : Int}
    {v v' : View} {c : Call} (h : v.Lodged)
    (hrejection : c.isRejection = true → Effect.queueBehind false v.effects = false)
    (hcalled : Called isServer config sessionId v c v') : v'.Lodged := by
  rcases hcalled with ⟨hallowed, rfl⟩
  let sc : SessionScope :=
    { isServer := isServer, config := config, sessionId := sessionId, entry := v.entry }
  have hdiscards : sc.Discards (Effect.queueBehind false v.effects) := h
  intro hnone
  have hbehind : Effect.queueBehind (Effect.queueBehind false v.effects) (sc.call c).effects =
      false := by
    cases hc : c.isRejection with
    | false => exact hdiscards.call hc hallowed hnone
    | true =>
        calc Effect.queueBehind (Effect.queueBehind false v.effects) (sc.call c).effects
            = Effect.queueBehind false v.effects := (sc.call_rejection hc).2 _
          _ = false := hrejection hc
  calc Effect.queueBehind false (v.call isServer config sessionId c).effects
      = Effect.queueBehind (Effect.queueBehind false v.effects) (sc.call c).effects :=
        Effect.queueBehind_append _ _ _
    _ = false := hbehind

namespace H2Session

/-! ## The inputs that reject a session -/

/-- The input rejects the session. -/
def rejects (s : H2Session) (input : Input) (sessionId : Int) : Bool :=
  (s.callsOf sessionId input).any Call.isRejection

/-- Every queue belongs to an entry. -/
def Keyed (s : H2Session) : Prop := s.http2StreamBuffers.keys ⊆ s.wtSessions.keys

theorem keyed_iff {s : H2Session} :
    s.Keyed ↔ ∀ id, s.wtSessions.find? id = none → s.hasQueue id = false := by
  constructor
  · intro h id hnone
    cases hqueue : s.http2StreamBuffers.find? id with
    | none =>
        unfold hasQueue
        rw [hqueue]
        rfl
    | some queue =>
        have hkey := h ((OrdMap.mem_keys_iff _ id).2 ⟨queue, hqueue⟩)
        rcases (OrdMap.mem_keys_iff _ id).1 hkey with ⟨w, hw⟩
        rw [hnone] at hw
        cases hw
  · intro h id hid
    rcases (OrdMap.mem_keys_iff _ id).1 hid with ⟨queue, hqueue⟩
    cases hentry : s.wtSessions.find? id with
    | none =>
        have hfalse := h id hentry
        unfold hasQueue at hfalse
        rw [hqueue] at hfalse
        cases hfalse
    | some w => exact (OrdMap.mem_keys_iff _ id).2 ⟨w, hentry⟩

theorem keyed_iff_lodged {s : H2Session} (htracked : s.Tracked) :
    s.Keyed ↔ ∀ id, (s.view id).Lodged := by
  refine keyed_iff.trans (forall_congr' fun id => ?_)
  rw [htracked id]
  rfl

/-- A rejection is made alone. -/
def Solo (calls : List Call) : Prop := ∀ c ∈ calls, c.isRejection = true → calls = [c]

theorem solo_nil : Solo [] := fun _ hmem => absurd hmem List.not_mem_nil

theorem solo_onSession (sessionId streamId : Int) (c : Call) :
    Solo (onSession sessionId streamId c) := by
  intro c' hmem _
  unfold onSession at hmem ⊢
  split_ifs at hmem ⊢
  · rw [List.mem_singleton.1 hmem]
  · cases hmem

/-- Calls among which there is no rejection. -/
theorem solo_of_none {calls : List Call} (h : ∀ c ∈ calls, c.isRejection = false) : Solo calls := by
  intro c hmem hrejection
  rw [h c hmem] at hrejection
  cases hrejection

theorem not_rejection_of_onSession {sessionId streamId : Int} {c : Call}
    (hc : c.isRejection = false) : ∀ c' ∈ onSession sessionId streamId c, c'.isRejection = false := by
  intro c' hmem
  unfold onSession at hmem
  split_ifs at hmem
  · rw [List.mem_singleton.1 hmem]
    exact hc
  · cases hmem

theorem not_rejection_of_closes {sessionId : Int} {callbacks : List WriteCallback} :
    ∀ c ∈ closesOf sessionId callbacks, c.isRejection = false := by
  intro c hmem
  rcases List.mem_flatMap.1 hmem with ⟨callback, -, hc⟩
  cases callback with
  | readData streamId => cases hc
  | writeStreamDataOffset streamId offset len => cases hc
  | streamClose streamId errorCode => exact not_rejection_of_onSession rfl c hc

theorem not_rejection_of_flush (s : H2Session) {sessionId : Int} {flush : List WriteCallback} :
    ∀ c ∈ s.flushCalls sessionId flush, c.isRejection = false := by
  intro c hmem
  unfold flushCalls at hmem
  split_ifs at hmem
  · cases hmem
  · exact not_rejection_of_closes c hmem

theorem not_rejection_of_append {a b : List Call} (ha : ∀ c ∈ a, c.isRejection = false)
    (hb : ∀ c ∈ b, c.isRejection = false) : ∀ c ∈ a ++ b, c.isRejection = false := by
  intro c hmem
  rcases List.mem_append.1 hmem with h | h
  · exact ha c h
  · exact hb c h

theorem solo_rejectCalls (s : H2Session) (sessionId streamId status : Int) (rv : Option NgError) :
    Solo (s.rejectCalls sessionId streamId status rv) := by
  unfold rejectCalls
  split_ifs
  · exact solo_onSession _ _ _
  · exact solo_nil

theorem solo_headerCalls (s : H2Session) (sessionId streamId : Int) (rv : Option NgError) :
    Solo (s.headerCalls sessionId streamId rv) := by
  unfold headerCalls
  cases s.pendingHeaders.find? streamId with
  | none => exact solo_nil
  | some headers =>
      dsimp only
      split_ifs
      · unfold requestCalls
        split_ifs
        · exact solo_rejectCalls s _ _ _ _
        · cases s.requestedSession streamId headers with
          | none => exact solo_rejectCalls s _ _ _ _
          | some w => exact solo_onSession _ _ _
        · exact solo_rejectCalls s _ _ _ _
      · unfold responseCalls
        dsimp only
        split_ifs
        · exact solo_onSession _ _ _
        · exact solo_onSession _ _ _
        · exact solo_nil

theorem solo_dataCalls (s : H2Session) (sessionId streamId : Int) (data : Bytes)
    (rv : Option NgError) : Solo (s.dataCalls sessionId streamId data rv) := by
  unfold dataCalls
  cases s.wtSessions.find? streamId with
  | none => exact solo_nil
  | some w =>
      dsimp only
      split_ifs
      · exact solo_nil
      · exact solo_nil
      · exact solo_onSession _ _ _
      · exact solo_nil
      · exact solo_rejectCalls s _ _ _ _
      · exact solo_onSession _ _ _

theorem solo_acceptCalls (s : H2Session) (sessionId streamId : Int) (rv : Option NgError)
    (flush resetFlush : List WriteCallback) :
    Solo (s.acceptCalls sessionId streamId rv flush resetFlush) := by
  refine solo_of_none ?_
  have hfinish : ∀ t : H2Session, ∀ c ∈ t.finishCalls sessionId streamId resetFlush,
      c.isRejection = false := by
    intro t
    unfold finishCalls
    cases t.wtSessions.find? streamId with
    | none => exact fun c hmem => absurd hmem List.not_mem_nil
    | some w =>
        dsimp only
        split_ifs
        · exact fun c hmem => absurd hmem List.not_mem_nil
        · exact not_rejection_of_append (not_rejection_of_onSession rfl) (not_rejection_of_flush t)
        · exact not_rejection_of_append (not_rejection_of_onSession rfl)
            fun c hmem => absurd hmem List.not_mem_nil
        · exact not_rejection_of_onSession rfl
  unfold acceptCalls
  split_ifs
  · exact fun c hmem => absurd hmem List.not_mem_nil
  · cases rv with
    | some err => exact not_rejection_of_onSession rfl
    | none =>
        have hflushed := @not_rejection_of_flush
          (s.callNg (.submitResponse streamId (acceptHeaders s.config))) sessionId flush
        have hmarked := not_rejection_of_append
          (@not_rejection_of_onSession sessionId streamId .markEstablished rfl) hflushed
        have hdrained := not_rejection_of_append hmarked
          (@not_rejection_of_onSession sessionId streamId .drain rfl)
        exact not_rejection_of_append hdrained (hfinish _)

theorem solo_connectCalls (s : H2Session) (sessionId : Int) (url : Bytes) (streamId : Int)
    (flush : List WriteCallback) : Solo (s.connectCalls sessionId url streamId flush) := by
  refine solo_of_none ?_
  unfold connectCalls
  cases Bindings.parseAuthorityPath url with
  | none =>
      dsimp only
      split_ifs <;> exact fun c hmem => absurd hmem List.not_mem_nil
  | some target =>
      dsimp only
      split_ifs
      · exact fun c hmem => absurd hmem List.not_mem_nil
      · exact fun c hmem => absurd hmem List.not_mem_nil
      · exact fun c hmem => absurd hmem List.not_mem_nil
      · exact fun c hmem => absurd hmem List.not_mem_nil
      · exact not_rejection_of_append (not_rejection_of_onSession rfl) (not_rejection_of_flush s)

theorem solo_callsOf (s : H2Session) (sessionId : Int) (input : Input) :
    Solo (s.callsOf sessionId input) := by
  cases input with
  | endHeaders streamId rv => exact solo_headerCalls s sessionId streamId rv
  | recvData streamId data rv => exact solo_dataCalls s sessionId streamId data rv
  | write callback => exact solo_of_none not_rejection_of_closes
  | connect url origin streamId flush => exact solo_connectCalls s sessionId url streamId flush
  | acceptSession streamId rv flush resetFlush =>
      exact solo_acceptCalls s sessionId streamId rv flush resetFlush
  | rejectSession streamId status rv => exact solo_rejectCalls s sessionId streamId status rv
  | remoteEndStream streamId => exact solo_onSession _ _ _
  | openStream streamId isUnidirectional => exact solo_onSession _ _ _
  | sendStreamData streamId id data fin => exact solo_onSession _ _ _
  | resetStream streamId id errorCode => exact solo_onSession _ _ _
  | stopSending streamId id errorCode => exact solo_onSession _ _ _
  | sendDatagram streamId data => exact solo_onSession _ _ _
  | closeSession streamId errorCode message => exact solo_onSession _ _ _
  | drainSession streamId => exact solo_onSession _ _ _
  | _ => exact solo_nil

/-- Seen from the rejected session, the rejection is all there is. -/
theorem rejects_calls {s : H2Session} {input : Input} {sessionId : Int}
    (h : s.rejects input sessionId = true) :
    ∃ c, s.callsOf sessionId input = [c] ∧ c.isRejection = true := by
  rcases List.any_eq_true.1 h with ⟨c, hmem, hrejection⟩
  exact ⟨c, solo_callsOf s sessionId input c hmem hrejection, hrejection⟩

/-! ## Steps and runs -/

/-- An input that rejects no session with a queue leaves every queue beside an entry. -/
theorem Keyed.step {s : H2Session} (htracked : s.Tracked) (h : s.Keyed) (input : Input)
    (hfree : ∀ id, s.rejects input id = true → s.hasQueue id = false) : (s.step input).Keyed := by
  refine (keyed_iff_lodged (tracked_stable.step htracked input)).2 fun id => ?_
  have hlodged : (s.view id).Lodged := (keyed_iff_lodged htracked).1 h id
  have hpath := (step_calls s id input).path
  cases hrejects : s.rejects input id with
  | true =>
      rcases rejects_calls hrejects with ⟨c, hone, -⟩
      have hqueue : Effect.queueBehind false (s.view id).effects = false :=
        (htracked id).symm.trans (hfree id hrejects)
      rw [hone] at hpath
      rcases hpath with ⟨v, hcalled, rfl⟩
      exact hlodged.called (fun _ => hqueue) hcalled
  | false =>
      have hnone : ∀ c ∈ s.callsOf id input, ¬ c.isRejection = true :=
        List.any_eq_false.1 hrejects
      have hrun := hpath.history
        (fun past v => (∀ c ∈ past, ¬ c.isRejection = true) → v.Lodged) ?_ [] fun _ => hlodged
      · exact hrun hnone
      · intro past v v' c hv hcalled hpast
        have hbefore : v.Lodged := hv fun c' hc' => hpast c' (List.mem_append_left _ hc')
        have hthis : ¬ c.isRejection = true :=
          hpast c (List.mem_append_right _ (List.mem_singleton_self c))
        exact hbefore.called (fun hc => absurd hc hthis) hcalled

/-- A rejection of a session with a queue leaves the queue without an entry. -/
theorem rejects_leaves {s : H2Session} (htracked : s.Tracked) {input : Input} {id : Int}
    (hrejects : s.rejects input id = true) (hqueue : s.hasQueue id = true) :
    ¬ (s.step input).Keyed := by
  intro hkeyed
  have hafter := tracked_stable.step htracked input
  have hlodged := (keyed_iff_lodged hafter).1 hkeyed id
  have hpath := (step_calls s id input).path
  rcases rejects_calls hrejects with ⟨c, hone, hrejection⟩
  rw [hone] at hpath
  rcases hpath with ⟨v, ⟨-, hv⟩, hend⟩
  have hview : (s.step input).view id = (s.view id).call s.isServer s.config id c :=
    hend.symm.trans hv
  let sc : SessionScope :=
    { isServer := s.isServer, config := s.config, sessionId := id, entry := (s.view id).entry }
  rcases sc.call_rejection hrejection with ⟨hgone, hbehind⟩
  have hleft : Effect.queueBehind false ((s.step input).view id).effects = true := by
    rw [hview]
    calc Effect.queueBehind false ((s.view id).effects ++ (sc.call c).effects)
        = Effect.queueBehind (Effect.queueBehind false (s.view id).effects) (sc.call c).effects :=
          Effect.queueBehind_append _ _ _
      _ = Effect.queueBehind false (s.view id).effects := hbehind _
      _ = true := (htracked id).symm.trans hqueue
  rw [hview] at hlodged
  have hfalse := hlodged hgone
  rw [← hview, hleft] at hfalse
  cases hfalse

theorem tracked_create {isServer : Bool} {config : H2SessionConfig} {start : H2Session}
    (hcreate : create isServer config = .ok start) : start.Tracked ∧ start.Keyed := by
  unfold create at hcreate
  cases hcheck : config.check with
  | error message =>
      rw [hcheck] at hcreate
      cases hcreate
  | ok u =>
      rw [hcheck] at hcreate
      cases hcreate
      exact ⟨fun _ => rfl, List.nil_subset _⟩

/-- Every queue of every state of a run belongs to an entry exactly when no input of the run
rejects a session with a queue. -/
theorem queue_keys_iff {isServer : Bool} {config : H2SessionConfig} {start : H2Session}
    (hcreate : create isServer config = .ok start) (inputs : List Input) :
    (∀ done, done <+: inputs →
      (start.run done).http2StreamBuffers.keys ⊆ (start.run done).wtSessions.keys) ↔
    ∀ done input, done ++ [input] <+: inputs → ∀ id,
      (start.run done).rejects input id = true → (start.run done).hasQueue id = false := by
  rcases tracked_create hcreate with ⟨htracked, hkeyed⟩
  have hrun : ∀ done input, start.run (done ++ [input]) = (start.run done).step input :=
    fun done input => List.foldl_concat _ _ _ _
  constructor
  · intro h done input hdone id hrejects
    by_contra hqueue
    have hleaves := rejects_leaves (tracked_stable.run htracked done) hrejects
      (Bool.eq_true_of_not_eq_false hqueue)
    rw [← hrun] at hleaves
    exact hleaves (h _ hdone)
  · intro h done
    induction done using List.reverseRecOn with
    | nil => exact fun _ => hkeyed
    | append_singleton done input ih =>
        intro hdone
        have hbefore : (start.run done).Keyed :=
          ih ((List.prefix_append done [input]).trans hdone)
        rw [hrun]
        exact hbefore.step (tracked_stable.run htracked done) input (h done input hdone)

/-- A client that asks for a session. -/
def asking : List Input :=
  [.recvSettingsEntry 0x08 1, .recvSettingsEntry 0x2b60 1,
    .connect (ascii "https://a/") [] 1 []]

/-- The response to it. -/
def response (status : String) : List Input :=
  [.beginHeaders 1, .recvHeader 1 (ascii ":status") (ascii status), .endHeaders 1 none]

/-- No input of a run rejects a session with a queue. -/
def spares : H2Session → List Input → Bool
  | _, [] => true
  | s, input :: rest =>
      s.http2StreamBuffers.keys.all (fun id => !s.rejects input id) && (s.step input).spares rest

theorem spares_sound {inputs : List Input} {s : H2Session} (h : s.spares inputs = true)
    {done : List Input} {input : Input} (hdone : done ++ [input] <+: inputs) {id : Int}
    (hrejects : (s.run done).rejects input id = true) : (s.run done).hasQueue id = false := by
  induction inputs generalizing s done with
  | nil => simp at hdone
  | cons first rest ih =>
      simp only [spares, Bool.and_eq_true] at h
      cases done with
      | nil =>
          have hinput : input = first := (List.cons_prefix_cons.1 hdone).1
          subst hinput
          by_contra hqueue
          have hsome : (s.http2StreamBuffers.find? id).isSome = true :=
            Bool.eq_true_of_not_eq_false hqueue
          have hmem : id ∈ s.http2StreamBuffers.keys :=
            (OrdMap.mem_keys_iff _ id).2 (Option.isSome_iff_exists.1 hsome)
          have hspared := List.all_eq_true.1 h.1 id hmem
          have hrejected : s.rejects input id = true := hrejects
          rw [hrejected] at hspared
          cases hspared
      | cons next done =>
          rcases List.cons_prefix_cons.1 hdone with ⟨rfl, hrest⟩
          exact ih h.2 hrest hrejects

/-- A datagram is queued, the response accepts the session, and the peer closes it. -/
def closedWithQueue : List Input :=
  asking ++ [.sendDatagram 1 [7]] ++ response "200" ++
    [.recvData 1
      (encodeCapsule CapsuleType.wtCloseSession.toNat (Capsule.wtCloseSession 5 []).payload) none]

/-- The queue of the closed session goes with its entry. -/
theorem queue_keys_closed :
    create false {} = .ok { isServer := false, config := {} } ∧
      (run { isServer := false, config := {} } (closedWithQueue.take 7)).hasQueue 1 = true ∧
      (run { isServer := false, config := {} } closedWithQueue).hasQueue 1 = false ∧
      ∀ done, done <+: closedWithQueue →
        (run { isServer := false, config := {} } done).http2StreamBuffers.keys ⊆
          (run { isServer := false, config := {} } done).wtSessions.keys := by
  have hcreate : create false {} = .ok { isServer := false, config := {} } := rfl
  have hspares : spares { isServer := false, config := {} } closedWithQueue = true := by
    decide +kernel
  refine ⟨hcreate, by decide +kernel, by decide +kernel, ?_⟩
  exact (queue_keys_iff hcreate closedWithQueue).2 fun done input hdone id hrejects =>
    spares_sound hspares hdone hrejects

/-- A datagram was queued before the response came: its queue outlives the session. -/
theorem queue_outlives_session :
    create false {} = .ok { isServer := false, config := {} } ∧
      ¬ (run { isServer := false, config := {} }
          (asking ++ [.sendDatagram 1 [7]] ++ response "403")).http2StreamBuffers.keys ⊆
        (run { isServer := false, config := {} }
          (asking ++ [.sendDatagram 1 [7]] ++ response "403")).wtSessions.keys := by
  refine ⟨rfl, ?_⟩
  decide +kernel

end H2Session

end H2
end WebTransport
