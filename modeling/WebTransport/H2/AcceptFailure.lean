import WebTransport.H2.Calls

/-!
# H2.AcceptFailure — an `accept_session` whose response cannot be submitted

The error branch of `accept_session` drops what a session has buffered.  It is meant for a session
that is not accepted yet; an established one may have the front of a capsule there.

* `SameButLog`           : nothing reads the record of the calls into nghttp2;
* `acceptSession_failed` : what a failed call does to an entry;
* `accept_failure_intact` : an established session is intact if and only if nothing was buffered.
-/

namespace WebTransport
namespace H2

open Bindings

namespace H2Session

/-! ## The record of the calls into nghttp2 is not read -/

def withLog (s : H2Session) (log : List NgCall) : H2Session := { s with ngLog := log }

/-- The states differ in that record at most. -/
def SameButLog (s t : H2Session) : Prop := t.withLog [] = s.withLog []

/-- Running `f` next does the same to both. -/
def LogBlind (f : H2Session → H2Session) : Prop := ∀ s log, SameButLog (f s) (f (s.withLog log))

theorem SameButLog.eq_withLog {s t : H2Session} (h : SameButLog s t) : t = s.withLog t.ngLog :=
  congrArg (fun u => u.withLog t.ngLog) h

/-- Both take the same branch. -/
theorem SameButLog.ite {c c' : Prop} [Decidable c] [Decidable c'] (hc : c ↔ c') {s s' t t' : H2Session}
    (h : c → SameButLog s t) (h' : ¬ c → SameButLog s' t') :
    SameButLog (if c then s else s') (if c' then t else t') := by
  by_cases hcond : c
  · rw [if_pos hcond, if_pos (hc.1 hcond)]
    exact h hcond
  · rw [if_neg hcond, if_neg (mt hc.2 hcond)]
    exact h' hcond

namespace LogBlind

variable {f g : H2Session → H2Session}

theorem apply (h : LogBlind f) {s t : H2Session} (hst : SameButLog s t) :
    SameButLog (f s) (f t) := by
  rw [hst.eq_withLog]
  exact h s t.ngLog

theorem andThen (hf : LogBlind f) (hg : LogBlind g) : LogBlind fun s => g (f s) :=
  fun s log => hg.apply (hf s log)

/-- A list of operations. -/
theorem foldl {α : Type} {f : H2Session → α → H2Session} (h : ∀ a, LogBlind fun s => f s a)
    (as : List α) : LogBlind fun s => as.foldl f s := by
  intro s log
  suffices hall : ∀ s t : H2Session, SameButLog s t → SameButLog (as.foldl f s) (as.foldl f t) from
    hall s _ rfl
  induction as with
  | nil => exact fun s t hst => hst
  | cons a as ih => exact fun s t hst => ih _ _ ((h a).apply hst)

theorem callNg (call : NgCall) : LogBlind (·.callNg call) := fun _ _ => rfl

theorem consumeConnectionRecvBytes (size : Nat) :
    LogBlind (·.consumeConnectionRecvBytes size) := by
  intro s log
  refine SameButLog.ite Iff.rfl (fun _ => rfl) fun _ => ?_
  exact SameButLog.ite Iff.rfl (fun _ => rfl) fun _ => rfl

/-- What is left of a record is written behind the credit. -/
theorem setUnconsumed (m : OrdMap Int Nat) : LogBlind fun s => { s with unconsumedRecvBytes := m } :=
  fun _ _ => rfl

theorem consumeRecvBytes (streamId : Int) (size : Nat) :
    LogBlind (·.consumeRecvBytes streamId size) := by
  intro s log
  have hsame : (s.withLog log).unconsumedRecvBytes = s.unconsumedRecvBytes := rfl
  refine SameButLog.ite Iff.rfl (fun _ => rfl) fun _ => ?_
  simp only [hsame]
  cases s.unconsumedRecvBytes.find? streamId with
  | none => rfl
  | some unconsumed =>
      refine SameButLog.ite Iff.rfl (fun _ => rfl) fun _ => ?_
      have hconsumed := (callNg (.extendMaxStreamOffset streamId (min size unconsumed))).andThen
        (consumeConnectionRecvBytes (min size unconsumed)) s log
      have hkept : ∀ t : H2Session, ((t.callNg (.extendMaxStreamOffset streamId
          (min size unconsumed))).consumeConnectionRecvBytes (min size unconsumed)
            ).unconsumedRecvBytes = t.unconsumedRecvBytes := by
        intro t
        unfold H2Session.consumeConnectionRecvBytes
        dsimp only
        split_ifs <;> rfl
      rw [hkept, hkept]
      exact (setUnconsumed _).apply hconsumed

theorem discardStreamRecvBytes (streamId : Int) : LogBlind (·.discardStreamRecvBytes streamId) := by
  intro s log
  have hsame : (s.withLog log).unconsumedRecvBytes = s.unconsumedRecvBytes := rfl
  simp only [H2Session.discardStreamRecvBytes, hsame]
  cases s.unconsumedRecvBytes.find? streamId with
  | none => rfl
  | some remaining =>
      exact (consumeConnectionRecvBytes remaining)
        { s with unconsumedRecvBytes := s.unconsumedRecvBytes.erase streamId } log

theorem perform (sessionId : Int) (e : Effect) : LogBlind fun s => s.perform sessionId e := by
  cases e with
  | consumeRecvBytes size => exact consumeRecvBytes sessionId size
  | discardStreamRecvBytes => exact discardStreamRecvBytes sessionId
  | _ => exact fun _ _ => rfl

theorem inScope (sessionId : Int) (f : SessionScope → SessionScope) :
    LogBlind (·.inScope sessionId f) := by
  intro s log
  have hfold := foldl (perform (f (s.scope sessionId)).sessionId)
    (f (s.scope sessionId)).effects
  exact hfold _ log

/-! ### nghttp2 callbacks -/

theorem onStreamClose (streamId : Int) (errorCode : Option Nat) :
    LogBlind (·.onStreamClose streamId errorCode) := by
  intro s log
  have hscope := inScope streamId (·.call (.streamClose errorCode)) s log
  have hrest : LogBlind fun t =>
      { t with
        http2StreamDataSent := t.http2StreamDataSent.erase streamId
        endStreamPending := t.endStreamPending.erase streamId
        pendingHeaders := t.pendingHeaders.erase streamId } := fun _ _ => rfl
  exact hrest.apply hscope

theorem onReadData (streamId : Int) : LogBlind fun s => (s.onReadData streamId).1 := by
  intro s log
  have hbuffers : (s.withLog log).http2StreamBuffers = s.http2StreamBuffers := rfl
  have hpending : (s.withLog log).endStreamPending = s.endStreamPending := rfl
  simp only [H2Session.onReadData, hbuffers]
  cases hfind : s.http2StreamBuffers.find? streamId with
  | none =>
      simp only [Option.getD_none, dropWritten, hpending]
      split_ifs <;> rfl
  | some queue =>
      simp only [Option.getD_some, hpending]
      cases dropWritten queue with
      | nil =>
          dsimp only
          split_ifs <;> rfl
      | cons front rest =>
          dsimp only
          split_ifs <;> rfl

theorem onWriteStreamDataOffset (streamId : Int) (offset len : Nat) :
    LogBlind (·.onWriteStreamDataOffset streamId offset len) := by
  intro s log
  have hsame : (s.withLog log).http2StreamBuffers = s.http2StreamBuffers := rfl
  refine SameButLog.ite Iff.rfl (fun _ => rfl) fun _ => ?_
  simp only [hsame]
  cases s.http2StreamBuffers.find? streamId <;> rfl

theorem onWrite (callback : WriteCallback) : LogBlind (·.onWrite callback) := by
  cases callback with
  | readData streamId => exact onReadData streamId
  | writeStreamDataOffset streamId offset len => exact onWriteStreamDataOffset streamId offset len
  | streamClose streamId errorCode => exact onStreamClose streamId errorCode

theorem flushOutput (callbacks : List WriteCallback) : LogBlind (·.flushOutput callbacks) := by
  intro s log
  refine SameButLog.ite Iff.rfl (fun _ => rfl) fun _ => ?_
  exact foldl onWrite callbacks s log

theorem rejectSession (sessionId status : Int) (rv : Option NgError) :
    LogBlind fun s => s.orElse (s.rejectSession sessionId status rv) := by
  intro s log
  have hcalled := (callNg (.submitResponse sessionId (rejectHeaders status))).andThen
    (inScope sessionId (reject status rv)) s log
  have hrole : (s.withLog log).isServer = s.isServer := rfl
  simp only [H2Session.rejectSession, hrole]
  split_ifs
  · rfl
  · rfl
  · rfl
  · rfl
  · exact hcalled

theorem rejectInCallback (sessionId status : Int) (rv : Option NgError) :
    LogBlind (·.rejectInCallback sessionId status rv) := by
  have heq : (fun s : H2Session => s.rejectInCallback sessionId status rv) =
      fun s => s.orElse (s.rejectSession sessionId status rv) := by
    funext s
    unfold H2Session.rejectInCallback orElse
    cases s.rejectSession sessionId status rv <;> rfl
  rw [heq]
  exact rejectSession sessionId status rv

theorem dropHeaders (streamId : Int) : LogBlind (·.dropHeaders streamId) := fun _ _ => rfl

theorem onEndHeaders (streamId : Int) (rv : Option NgError) :
    LogBlind (·.onEndHeaders streamId rv) := by
  intro s log
  have hsame : (s.withLog log).pendingHeaders = s.pendingHeaders := rfl
  simp only [H2Session.onEndHeaders, hsame]
  cases s.pendingHeaders.find? streamId with
  | none => rfl
  | some headers =>
      have hreject : ∀ status, LogBlind fun t =>
          (t.dropHeaders streamId).rejectInCallback streamId status rv :=
        fun status => (dropHeaders streamId).andThen (rejectInCallback streamId status rv)
      refine SameButLog.ite Iff.rfl (fun _ => ?_) fun _ => ?_
      · refine SameButLog.ite Iff.rfl (fun _ => ?_) fun _ => ?_
        · refine SameButLog.ite Iff.rfl (fun _ => ?_) fun _ => ?_
          · exact hreject 403 s log
          · cases lastHeader headers (ascii "webtransport-init") with
            | none => exact (inScope streamId _).andThen (dropHeaders streamId) s log
            | some value =>
                dsimp only
                cases parseWebtransportInit value with
                | none => exact hreject 400 s log
                | some init => exact (inScope streamId _).andThen (dropHeaders streamId) s log
        · exact (rejectInCallback streamId 405 rv).andThen (dropHeaders streamId) s log
      · refine (dropHeaders streamId).apply ?_
        refine SameButLog.ite Iff.rfl (fun _ => ?_) fun _ => ?_
        · exact inScope streamId _ s log
        · refine SameButLog.ite Iff.rfl (fun _ => ?_) fun _ => ?_
          · exact inScope streamId _ s log
          · rfl

theorem onRecvData (streamId : Int) (data : Bytes) (rv : Option NgError) :
    LogBlind (·.onRecvData streamId data rv) := by
  intro s log
  -- The bytes are counted before anything else.
  have hcounted : ∀ f : H2Session → H2Session, LogBlind f →
      SameButLog (f { s with connRecvWindowSize := s.connRecvWindowSize + data.length })
        (f { s.withLog log with
             connRecvWindowSize := (s.withLog log).connRecvWindowSize + data.length }) :=
    fun f hf => hf { s with connRecvWindowSize := s.connRecvWindowSize + data.length } log
  have hconsume := hcounted _ (consumeConnectionRecvBytes data.length)
  have hsame : (s.withLog log).wtSessions = s.wtSessions := rfl
  simp only [H2Session.onRecvData, hsame]
  cases s.wtSessions.find? streamId with
  | none => exact hconsume
  | some w =>
      refine SameButLog.ite Iff.rfl (fun _ => hconsume) fun _ => ?_
      refine SameButLog.ite Iff.rfl (fun _ => rfl) fun _ => ?_
      have hrecorded : ∀ f : H2Session → H2Session, LogBlind f → SameButLog
          (f { s with
            connRecvWindowSize := s.connRecvWindowSize + data.length
            unconsumedRecvBytes := s.unconsumedRecvBytes.insert streamId
              ((s.unconsumedRecvBytes.find? streamId).getD 0 + data.length) })
          (f { s.withLog log with
            connRecvWindowSize := s.connRecvWindowSize + data.length
            unconsumedRecvBytes := s.unconsumedRecvBytes.insert streamId
              ((s.unconsumedRecvBytes.find? streamId).getD 0 + data.length) }) :=
        fun f hf => hf { s with
            connRecvWindowSize := s.connRecvWindowSize + data.length
            unconsumedRecvBytes := s.unconsumedRecvBytes.insert streamId
              ((s.unconsumedRecvBytes.find? streamId).getD 0 + data.length) } log
      refine SameButLog.ite Iff.rfl (fun _ => hrecorded _ (inScope streamId _)) fun _ => ?_
      refine SameButLog.ite Iff.rfl (fun _ => hrecorded id fun _ _ => rfl) fun _ => ?_
      refine SameButLog.ite Iff.rfl (fun _ => ?_) fun _ => hrecorded _ (inScope streamId _)
      exact hrecorded _ (rejectInCallback streamId 413 rv)

/-! ### The API -/

theorem drainAccepted (streamId : Int) (flush : List WriteCallback) :
    LogBlind (·.drainAccepted streamId flush) :=
  ((inScope streamId _).andThen (flushOutput flush)).andThen (inScope streamId _)

theorem finishAccept (streamId : Int) (resetFlush : List WriteCallback) :
    LogBlind (·.finishAccept streamId resetFlush) := by
  intro s log
  have hsame : (s.withLog log).wtSessions = s.wtSessions := rfl
  simp only [H2Session.finishAccept, hsame]
  cases s.wtSessions.find? streamId with
  | none => rfl
  | some w =>
      refine SameButLog.ite Iff.rfl (fun _ => rfl) fun _ => ?_
      refine SameButLog.ite Iff.rfl (fun _ => ?_) fun _ => inScope streamId _ s log
      refine SameButLog.ite Iff.rfl (fun _ => ?_) fun _ => inScope streamId _ s log
      exact (inScope streamId _).andThen (flushOutput resetFlush) s log

theorem acceptSession (streamId : Int) (rv : Option NgError) (flush resetFlush : List WriteCallback) :
    LogBlind fun s => (s.acceptSession streamId rv flush resetFlush).1 := by
  intro s log
  have hrole : (s.withLog log).isServer = s.isServer := rfl
  have hcalled := callNg (.submitResponse streamId (acceptHeaders s.config))
  simp only [H2Session.acceptSession, hrole]
  split_ifs
  · rfl
  · cases rv with
    | some err => exact hcalled.andThen (inScope streamId _) s log
    | none =>
        exact hcalled.andThen ((drainAccepted streamId flush).andThen
          (finishAccept streamId resetFlush)) s log

theorem connect (url origin : Bytes) (streamId : Int) (flush : List WriteCallback) :
    LogBlind fun s => (s.connect url origin streamId flush).1 := by
  intro s log
  have hrole : (s.withLog log).isServer = s.isServer := rfl
  have hready : (s.withLog log).isWebtransportReady = s.isWebtransportReady := rfl
  have hgoaway : (s.withLog log).goawayReceived = s.goawayReceived := rfl
  simp only [H2Session.connect, hrole, hready, hgoaway]
  cases parseAuthorityPath url with
  | none =>
      dsimp only
      split_ifs <;> rfl
  | some target =>
      have hcalled := callNg
        (.submitRequest (connectHeaders s.config target.1 target.2 origin))
      dsimp only
      split_ifs
      · rfl
      · rfl
      · rfl
      · rfl
      · exact hcalled.andThen ((inScope streamId _).andThen (flushOutput flush)) s log

theorem openStream (sessionId : Int) (isUnidirectional : Bool) :
    LogBlind fun s => (s.openStream sessionId isUnidirectional).1 := by
  intro s log
  have hsame : (s.withLog log).wtSessions = s.wtSessions := rfl
  simp only [H2Session.openStream, hsame]
  cases s.wtSessions.find? sessionId with
  | none => rfl
  | some w => exact inScope sessionId _ s log

/-- No input reads the record. -/
theorem step (input : Input) : LogBlind (·.step input) := by
  cases input with
  | recvSettingsEntry id value =>
      intro s log
      simp only [H2Session.step, onRecvSettingsEntry]
      split_ifs <;> rfl
  | endHeaders streamId rv => exact onEndHeaders streamId rv
  | recvData streamId data rv => exact onRecvData streamId data rv
  | remoteEndStream streamId => exact inScope streamId _
  | write callback => exact onWrite callback
  | connect url origin streamId flush => exact connect url origin streamId flush
  | acceptSession sessionId rv flush resetFlush =>
      exact acceptSession sessionId rv flush resetFlush
  | rejectSession sessionId status rv => exact rejectSession sessionId status rv
  | openStream sessionId isUnidirectional => exact openStream sessionId isUnidirectional
  | sendStreamData sessionId streamId data fin => exact inScope sessionId _
  | resetStream sessionId streamId errorCode =>
      intro s log
      simp only [H2Session.step, H2Session.resetStream]
      split_ifs
      · rfl
      · exact inScope sessionId
          (·.onEntry (WtSessionInfo.resetStream streamId errorCode.toNat)) s log
  | stopSending sessionId streamId errorCode =>
      intro s log
      simp only [H2Session.step, H2Session.stopSending]
      split_ifs
      · rfl
      · exact inScope sessionId
          (·.onEntry (WtSessionInfo.stopSending streamId errorCode.toNat)) s log
  | sendDatagram sessionId data => exact inScope sessionId _
  | closeSession sessionId errorCode message => exact inScope sessionId _
  | drainSession sessionId => exact inScope sessionId _
  | nextEvent =>
      intro s log
      have hevents : (s.withLog log).events = s.events := rfl
      simp only [H2Session.step, H2Session.nextEvent, hevents]
      cases s.events <;> rfl
  | _ => exact fun _ _ => rfl

theorem run (inputs : List Input) : LogBlind (·.run inputs) := foldl step inputs

end LogBlind

/-! ## The failed call -/

/-- The session loses what it buffered, and nothing else changes. -/
theorem acceptSession_failed {s : H2Session} {sessionId : Int} {w : WtSessionInfo}
    (hentry : s.wtSessions.find? sessionId = some w) (hserver : s.isServer = true)
    (hid : 0 < sessionId ∧ sessionId % 2 ≠ 0) (err : NgError)
    (flush resetFlush : List WriteCallback) :
    (s.acceptSession sessionId (some err) flush resetFlush).1 =
      { s.callNg (.submitResponse sessionId (acceptHeaders s.config)) with
        wtSessions := s.wtSessions.insert sessionId (w.withBuffer []) } := by
  have hbranch : ¬ ((!s.isServer) = true ∨ sessionId ≤ 0 ∨ sessionId % 2 = 0) := by
    rw [hserver]
    simp
    omega
  have hcleared : ((s.callNg (.submitResponse sessionId (acceptHeaders s.config))).scope
      sessionId).clearBuffer = (s.scope sessionId).setEntry (w.withBuffer []) := by
    simp only [SessionScope.clearBuffer, SessionScope.setEntry, scope, callNg, hentry,
      Option.map_some, WtSessionInfo.withBuffer]
  unfold H2Session.acceptSession
  rw [if_neg hbranch]
  dsimp only
  unfold inScope
  dsimp only
  rw [hcleared]
  simp only [commit, SessionScope.setEntry, scope, List.foldl_nil, List.map_nil, List.append_nil,
    callNg]

/-- In every run, a failed `accept_session` leaves a session, and all that happens to the connection
afterwards, as if it had not been called if and only if the session has no part of a capsule
buffered. -/
theorem accept_failure_intact {config : H2SessionConfig} {start : H2Session}
    (hcreate : create true config = .ok start) (inputs : List Input) {sessionId : Int}
    {w : WtSessionInfo} (hentry : (start.run inputs).wtSessions.find? sessionId = some w)
    (hid : 0 < sessionId ∧ sessionId % 2 ≠ 0) (err : NgError)
    (flush resetFlush : List WriteCallback) :
    (∀ rest, SameButLog ((start.run inputs).run rest)
      (((start.run inputs).step (.acceptSession sessionId (some err) flush resetFlush)).run rest)) ↔
      w.capsuleBuffer = [] := by
  have hserver : (start.run inputs).isServer = true :=
    (run_calls start sessionId inputs).role.trans (create_view hcreate sessionId).2.1
  generalize start.run inputs = s at *
  have hstep : s.step (.acceptSession sessionId (some err) flush resetFlush) =
      { s.callNg (.submitResponse sessionId (acceptHeaders s.config)) with
        wtSessions := s.wtSessions.insert sessionId (w.withBuffer []) } :=
    acceptSession_failed hentry hserver hid err flush resetFlush
  constructor
  · intro h
    have hnow : s.wtSessions.insert sessionId (w.withBuffer []) = s.wtSessions := by
      have hsame := h []
      rw [hstep] at hsame
      exact congrArg (fun t => t.wtSessions) hsame
    rw [← hnow, OrdMap.find?_insert_self, Option.some.injEq] at hentry
    rw [← hentry]
    rfl
  · intro hempty rest
    have hself : w.withBuffer [] = w := by
      rw [← hempty]
      rfl
    rw [hself, OrdMap.insert_of_find? hentry] at hstep
    have hsame : SameButLog s (s.step (.acceptSession sessionId (some err) flush resetFlush)) := by
      rw [hstep]
      rfl
    exact (LogBlind.run rest).apply hsame

/-- An accepted session. -/
def accepted : H2Session :=
  run { isServer := true, config := {} } (openSession 1)

/-- Nothing is buffered. -/
theorem accept_failure_intact_idle :
    create true {} = .ok { isServer := true, config := {} } ∧
      SameButLog accepted (accepted.step (.acceptSession 1 (some ⟨1, []⟩) [] [])) := by
  refine ⟨rfl, ?_⟩
  have hcreate : create true {} = .ok { isServer := true, config := {} } := rfl
  have hfound : accepted.wtSessions.find? 1 ≠ none := by decide +kernel
  cases hentry : accepted.wtSessions.find? 1 with
  | none => exact absurd hentry hfound
  | some w =>
      have hempty : (accepted.wtSessions.find? 1).all fun w => w.capsuleBuffer.isEmpty := by
        decide +kernel
      rw [hentry] at hempty
      have hintact := accept_failure_intact hcreate (openSession 1) hentry (by decide) ⟨1, []⟩ [] []
      exact hintact.2 (List.isEmpty_iff.1 hempty) []

/-- The first bytes of a DATAGRAM capsule were received, and the last ones come behind a failed
call: no datagram is reported. -/
theorem accept_failure_loses_capsule :
    ((accepted.run [.recvData 1 [0, 2, 7] none, .recvData 1 [8] none]).events.map (·.data) =
        [[], [7, 8]]) ∧
      (accepted.run [.recvData 1 [0, 2, 7] none, .acceptSession 1 (some ⟨1, []⟩) [] [],
        .recvData 1 [8] none]).events.map (·.data) = [[]] := by
  decide +kernel

end H2Session
end H2
end WebTransport
