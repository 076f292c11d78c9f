import WebTransport.H3.Meter

/-!
# H3.Metering — an API call moves the meter in small steps

Each function of the session object is a sequence of `Meter.Step`s, whatever nghttp3 answers.  What
a read keeps back is dealt with in the same call, so that nothing is due between two calls.

* `Meters`      : where FINs are held in their place, the meter moves by steps;
* `Meters.step` : an API call does;
* `Meters.run`  : a run does.
-/

namespace WebTransport
namespace H3

open Bindings

/-! ## An API call is a sequence of steps -/

namespace H3Session

variable {N : Nghttp3}

/-- The streams that the events stop with the code of a rejection. -/
def stopsOf (events : List H3Event) : List Int :=
  events.filterMap fun e =>
    if e.type = .stopSending ∧ e.errorCode = wtBufferedStreamRejected then some e.streamId else none

/-- The meter of a session object, with the bytes that are due. -/
def meter (s : H3Session N) (due : Int → Nat) : Meter where
  accepted := s.acceptedSessionIds
  buffered := s.preAcceptBufferedBytes
  owners := s.preAcceptStreamSessionIds
  rejected := s.rejectedPreAcceptStreamIds
  stopped := stopsOf s.pushed
  log := s.ngLog.map Prod.fst
  due := due

/-- A FIN is held only for a stream that may get one. -/
def HeldFins (fins : Int → Prop) (s : H3Session N) : Prop :=
  ∀ streamId guard, s.headersGuards.find? streamId = some guard → guard.heldFin = true →
    fins streamId

/-- The meter moved by steps, and the role and the configuration stayed. -/
structure Metered (fins : Int → Prop) (s s' : H3Session N) : Prop where
  path : ∀ due, Meter.Reaches s.isServer s.config.wtPreAcceptBufferLimit N.HoldsBack fins
    (s.meter due) (s'.meter due)
  held : s'.HeldFins fins
  role : s'.isServer = s.isServer
  config : s'.config = s.config

/-- Where FINs are held in their place, the meter moves by steps. -/
def Meters (fins : Int → Prop) (s s' : H3Session N) : Prop :=
  s.HeldFins fins → Metered fins s s'

namespace Meters

variable {fins : Int → Prop} {s s' s'' : H3Session N}

theorem ofHeld (h : s.HeldFins fins → Meters fins s s') : Meters fins s s' :=
  fun hheld => h hheld hheld

/-- The guards change, and nothing that the meter shows. -/
theorem guarded (hmeter : ∀ due, s'.meter due = s.meter due)
    (hguards : s.HeldFins fins → s'.HeldFins fins) (hrole : s'.isServer = s.isServer)
    (hconfig : s'.config = s.config) : Meters fins s s' := by
  intro hheld
  refine ⟨?_, hguards hheld, hrole, hconfig⟩
  intro due
  rw [hmeter due]

theorem same (hmeter : ∀ due, s'.meter due = s.meter due)
    (hguards : s'.headersGuards = s.headersGuards) (hrole : s'.isServer = s.isServer)
    (hconfig : s'.config = s.config) : Meters fins s s' := by
  refine guarded hmeter ?_ hrole hconfig
  intro hheld streamId guard hguard
  rw [hguards] at hguard
  exact hheld streamId guard hguard

theorem refl (s : H3Session N) : Meters fins s s := same (fun _ => rfl) rfl rfl rfl

theorem trans (h : Meters fins s s') (h' : Meters fins s' s'') : Meters fins s s'' := by
  intro hheld
  have hfirst := h hheld
  have hsecond := h' hfirst.held
  refine ⟨?_, hsecond.held, hsecond.role.trans hfirst.role, hsecond.config.trans hfirst.config⟩
  intro due
  have hpath := hsecond.path due
  rw [hfirst.role, hfirst.config] at hpath
  exact (hfirst.path due).trans hpath

/-- Changes behind the steps that the meter does not show. -/
theorem andThen (h : Meters fins s s') (hmeter : ∀ due, s''.meter due = s'.meter due)
    (hguards : s''.headersGuards = s'.headersGuards) (hrole : s''.isServer = s'.isServer)
    (hconfig : s''.config = s'.config) : Meters fins s s'' :=
  h.trans (same hmeter hguards hrole hconfig)

/-- One step. -/
theorem one (h : ∀ due, Meter.Step s.isServer s.config.wtPreAcceptBufferLimit N.HoldsBack fins
      (s.meter due) (s'.meter due))
    (hguards : s'.headersGuards = s.headersGuards) (hrole : s'.isServer = s.isServer)
    (hconfig : s'.config = s.config) : Meters fins s s' := by
  intro hheld
  refine ⟨fun due => .single (h due), ?_, hrole, hconfig⟩
  intro streamId guard hguard
  rw [hguards] at hguard
  exact hheld streamId guard hguard

theorem foldl {α : Type} {f : H3Session N → α → H3Session N} (hf : ∀ s a, Meters fins s (f s a))
    (l : List α) (s : H3Session N) : Meters fins s (l.foldl f s) := by
  induction l generalizing s with
  | nil => exact refl s
  | cons a l ih => exact (hf s a).trans (ih (f s a))

theorem log_note (s : H3Session N) (call : NgCall) :
    (s.note call).ngLog.map Prod.fst = s.ngLog.map Prod.fst ++ [call] := List.map_append

theorem meter_note (s : H3Session N) (call : NgCall) (due : Int → Nat) :
    (s.note call).meter due = (s.meter due).noted call := by
  unfold meter Meter.noted
  rw [log_note]
  rfl

theorem note (s : H3Session N) {call : NgCall} (h : call.plain = true) :
    Meters fins s (s.note call) := by
  refine one ?_ rfl rfl rfl
  intro due
  rw [meter_note]
  exact .note _ call h

/-- An event that stops no stream for its size. -/
theorem stopsOf_push {e : H3Event}
    (h : ¬(e.type = .stopSending ∧ e.errorCode = wtBufferedStreamRejected))
    (events : List H3Event) : stopsOf (events ++ [e]) = stopsOf events := by
  unfold stopsOf
  rw [List.filterMap_append]
  simp [h]

theorem stopsOf_stop {e : H3Event} (h : e.type = .stopSending)
    (hcode : e.errorCode = wtBufferedStreamRejected) (events : List H3Event) :
    stopsOf (events ++ [e]) = stopsOf events ++ [e.streamId] := by
  unfold stopsOf
  rw [List.filterMap_append]
  simp [h, hcode]

theorem meter_pushEvent (s : H3Session N) {e : H3Event} (h : e.type ≠ .stopSending)
    (due : Int → Nat) : (s.pushEvent e).meter due = s.meter due := by
  unfold meter H3Session.pushEvent
  dsimp only
  rw [stopsOf_push fun hstop => h hstop.1]

theorem pushEvent (s : H3Session N) {e : H3Event} (h : e.type ≠ .stopSending) :
    Meters fins s (s.pushEvent e) := same (meter_pushEvent s h) rfl rfl rfl

/-- The record has a line that settles the session. -/
def Settled (s : H3Session N) (sessionId : Int) : Prop :=
  (s.meter 0).Settled s.isServer sessionId

theorem settled_note (s : H3Session N) {call : NgCall} {sessionId : Int}
    (h : call.settles s.isServer sessionId = true) : Settled (s.note call) sessionId := by
  refine ⟨call, ?_, h⟩
  have hmem : call ∈ (s.note call).ngLog.map Prod.fst := by
    rw [log_note]
    exact List.mem_append_right _ List.mem_cons_self
  exact hmem

/-- `eraseSession`, behind the line that settles the session. -/
theorem eraseSession {s : H3Session N} {sessionId : Int} (h : Settled s sessionId) :
    Meters fins s (s.eraseSession sessionId) :=
  one (fun _ => .ended _ sessionId h) rfl rfl rfl

/-! ### Callbacks -/

theorem onStreamCallback (s : H3Session N) (c : StreamCallback) :
    Meters fins s (s.onStreamCallback c) := by
  cases c with
  | streamClose streamId code =>
      refine one ?_ rfl rfl rfl
      intro due
      have hmeter : (s.onStreamCallback (.streamClose streamId code)).meter due =
          ((s.meter due).noted (.callback (.stream (.streamClose streamId code)))).forgetStream
            streamId := by
        refine (meter_pushEvent _ (fun h => by cases h) due).trans ?_
        rw [← meter_note]
        rfl
      rw [hmeter]
      exact .closed _ streamId code
  | stopSending streamId code =>
      refine one ?_ rfl rfl rfl
      intro due
      have hmeter : (s.onStreamCallback (.stopSending streamId code)).meter due =
          { (s.meter due).noted (.callback (.stream (.stopSending streamId code))) with
            stopped := (s.meter due).stopped ++
              if code = wtBufferedStreamRejected then [streamId] else [] } := by
        rw [← meter_note]
        by_cases hcode : code = wtBufferedStreamRejected
        · rw [if_pos hcode]
          simp only [H3Session.onStreamCallback, onStreamRequest, H3Session.pushEvent, meter]
          rw [stopsOf_stop rfl hcode]
          rfl
        · rw [if_neg hcode, List.append_nil]
          simp only [H3Session.onStreamCallback, onStreamRequest, H3Session.pushEvent, meter]
          rw [stopsOf_push fun hstop => hcode hstop.2]
          rfl
      rw [hmeter]
      exact .asked _ streamId code
  | resetStream streamId code =>
      exact (note s rfl).trans (pushEvent _ fun h => by cases h)

/-- `reject_session` -/
theorem rejectSession (s : H3Session N) (streamId status : Int) :
    Meters fins s (s.rejectSession streamId status) := by
  unfold H3Session.rejectSession
  dsimp only
  split_ifs with hclient hqpack hstatus
  · exact refl s
  · exact refl s
  · have hnote : Meters fins s
        (s.note (.submitResponse streamId status (rejectHeaders status))) := note s rfl
    have hsettled : Settled (s.note (.submitResponse streamId status (rejectHeaders status)))
        streamId := settled_note s (by simp [NgCall.settles, hstatus])
    refine hnote.trans ((eraseSession hsettled).trans ?_)
    exact same (fun _ => rfl) rfl rfl rfl
  · exact note s rfl

theorem onRequestHeaders (s : H3Session N) (streamId : Int) (headers : HeaderList) :
    Meters fins s (s.onRequestHeaders streamId headers) := by
  unfold H3Session.onRequestHeaders
  split_ifs
  · exact (rejectSession s streamId 403).trans (same (fun _ => rfl) rfl rfl rfl)
  · have hopened : Meters fins s { s with sessionIds := s.sessionIds.insert streamId } :=
      same (fun _ => rfl) rfl rfl rfl
    exact hopened.trans (pushEvent _ fun h => by cases h)
  · have hforget : Meters fins s
        { s with
          pendingQpackBlockedFinStreamIds := s.pendingQpackBlockedFinStreamIds.erase streamId } :=
      same (fun _ => rfl) rfl rfl rfl
    exact hforget.trans (rejectSession _ streamId 405)

/-- A response accepts or rejects the session behind the line of its callback. -/
theorem onResponseHeaders {s : H3Session N} {streamId : Int} (h : Settled s streamId)
    (headers : HeaderList) : Meters fins s (s.onResponseHeaders streamId headers) := by
  unfold H3Session.onResponseHeaders
  dsimp only
  split_ifs
  · exact refl s
  · exact (eraseSession h).trans (pushEvent _ fun h => by cases h)
  · have haccepted : Meters fins s
        ({ s with acceptedSessionIds := s.acceptedSessionIds.insert streamId
            }.forgetPreAcceptSession streamId) :=
      one (fun _ => .accepted _ streamId h) rfl rfl rfl
    exact haccepted.trans (pushEvent _ fun h => by cases h)
  · exact refl s

theorem onEndHeaders (s : H3Session N) (streamId : Int) :
    Meters fins s ((s.note (.callback (.endHeaders streamId))).onEndHeaders streamId) := by
  have hnote : Meters fins s (s.note (.callback (.endHeaders streamId))) := note s rfl
  refine hnote.trans ?_
  unfold H3Session.onEndHeaders
  cases (s.note (.callback (.endHeaders streamId))).pendingHeaders.find? streamId with
  | none => exact refl _
  | some headers =>
      have hbranch : Meters fins (s.note (.callback (.endHeaders streamId)))
          (if (s.note (.callback (.endHeaders streamId))).isServer then
            (s.note (.callback (.endHeaders streamId))).onRequestHeaders streamId headers
          else (s.note (.callback (.endHeaders streamId))).onResponseHeaders streamId headers) := by
        split_ifs with hrole
        · exact onRequestHeaders _ streamId headers
        · have hclient : ¬s.isServer = true := hrole
          refine onResponseHeaders (settled_note s ?_) headers
          simp [NgCall.settles, hclient]
      exact hbranch.andThen (fun _ => rfl) rfl rfl rfl

theorem onRecvWtData (s : H3Session N) (sessionId streamId : Int) (data : Bytes) :
    Meters fins s (s.onRecvWtData sessionId streamId data) := by
  unfold H3Session.onRecvWtData
  split_ifs
  · exact refl s
  · dsimp only
    cases s.streamInfo.find? streamId with
    | some info => exact pushEvent s fun h => by cases h
    | none =>
        have hregistered : Meters fins s
            { s with
              streamInfo := s.streamInfo.insert streamId
                { streamId := streamId, sessionId := sessionId,
                  isUnidirectional := streamId / 2 % 2 ≠ 0, isIncoming := true,
                  isWriteRegistered := false } } := same (fun _ => rfl) rfl rfl rfl
        exact hregistered.trans (pushEvent _ fun h => by cases h)

theorem onRecvWtCloseSession (s : H3Session N) (sessionId : Int) (code : Nat) (message : Bytes) :
    Meters fins s ((s.note (.callback (.recvWtCloseSession sessionId code message))
      ).onRecvWtCloseSession sessionId code message) := by
  have hnote : Meters fins s (s.note (.callback (.recvWtCloseSession sessionId code message))) :=
    note s rfl
  refine hnote.trans ?_
  unfold H3Session.onRecvWtCloseSession
  by_cases hbad : badCloseMessage message = true
  · rw [if_pos hbad]
    exact same (fun _ => rfl) rfl rfl rfl
  · rw [if_neg hbad]
    dsimp only
    have hsettled : Settled ((s.note (.callback (.recvWtCloseSession sessionId code message))
        ).eraseSessionStreams sessionId) sessionId :=
      settled_note s (by simp [NgCall.settles, hbad])
    have hstreams : Meters fins (s.note (.callback (.recvWtCloseSession sessionId code message)))
        ((s.note (.callback (.recvWtCloseSession sessionId code message))).eraseSessionStreams
          sessionId) := same (fun _ => rfl) rfl rfl rfl
    refine (hstreams.trans (eraseSession hsettled)).trans ?_
    refine trans ?_ (pushEvent _ fun h => by cases h)
    split_ifs
    · exact same (fun _ => rfl) rfl rfl rfl
    · exact refl _

theorem onCallback (s : H3Session N) (c : Callback) : Meters fins s (s.onCallback c) := by
  cases c with
  | stream c => exact onStreamCallback s c
  | recvData streamId data => exact (note s rfl).trans (pushEvent _ fun h => by cases h)
  | beginHeaders streamId => exact (note s rfl).trans (same (fun _ => rfl) rfl rfl rfl)
  | recvHeader streamId name value => exact (note s rfl).trans (same (fun _ => rfl) rfl rfl rfl)
  | endHeaders streamId => exact onEndHeaders s streamId
  | endStream streamId =>
      have hnote : Meters fins s (s.note (.callback (.endStream streamId))) := note s rfl
      refine hnote.trans ?_
      simp only [H3Session.onCallback, onEndStream]
      split_ifs
      · exact same (fun _ => rfl) rfl rfl rfl
      · exact refl _
  | shutdown id => exact (note s rfl).trans (pushEvent _ fun h => by cases h)
  | recvSettings2 wtEnabled enableConnectProtocol h3Datagram =>
      exact (note s rfl).trans (same (fun _ => rfl) rfl rfl rfl)
  | recvWtData sessionId streamId data => exact (note s rfl).trans (onRecvWtData _ _ _ _)
  | recvWtCloseSession sessionId code message => exact onRecvWtCloseSession s sessionId code message

/-- A callback leaves nghttp3 and the rejected streams alone. -/
theorem onCallback_keeps (s : H3Session N) (c : Callback) :
    (s.onCallback c).conn = s.conn ∧
      (s.onCallback c).rejectedPreAcceptStreamIds = s.rejectedPreAcceptStreamIds := by
  cases c with
  | stream c => cases c <;> exact ⟨rfl, rfl⟩
  | endHeaders streamId =>
      simp only [H3Session.onCallback, H3Session.onEndHeaders]
      cases (s.note (.callback (.endHeaders streamId))).pendingHeaders.find? streamId with
      | none => exact ⟨rfl, rfl⟩
      | some headers =>
          simp only [H3Session.onRequestHeaders, H3Session.onResponseHeaders,
            H3Session.rejectSession]
          split_ifs <;> exact ⟨rfl, rfl⟩
  | endStream streamId =>
      simp only [H3Session.onCallback, onEndStream]
      split_ifs <;> exact ⟨rfl, rfl⟩
  | recvWtData sessionId streamId data =>
      simp only [H3Session.onCallback, H3Session.onRecvWtData]
      split_ifs
      · exact ⟨rfl, rfl⟩
      · generalize (s.note (.callback (.recvWtData sessionId streamId data))).streamInfo.find?
          streamId = found
        cases found <;> exact ⟨rfl, rfl⟩
  | recvWtCloseSession sessionId code message =>
      simp only [H3Session.onCallback, H3Session.onRecvWtCloseSession]
      split_ifs <;> exact ⟨rfl, rfl⟩
  | _ => exact ⟨rfl, rfl⟩

theorem foldl_onCallback_keeps (callbacks : List Callback) (s : H3Session N) :
    (callbacks.foldl H3Session.onCallback s).conn = s.conn ∧
      (callbacks.foldl H3Session.onCallback s).rejectedPreAcceptStreamIds =
        s.rejectedPreAcceptStreamIds := by
  induction callbacks generalizing s with
  | nil => exact ⟨rfl, rfl⟩
  | cons c rest ih =>
      rcases ih (s.onCallback c) with ⟨hconn, hrejected⟩
      rcases onCallback_keeps s c with ⟨hconn', hrejected'⟩
      exact ⟨hconn.trans hconn', hrejected.trans hrejected'⟩

theorem onWriteCallback (s : H3Session N) (c : WriteCallback) :
    Meters fins s (s.onWriteCallback c) := by
  cases c with
  | readData streamId =>
      simp only [H3Session.onWriteCallback, readDataCallback]
      cases s.streamBuffers.find? streamId with
      | none => exact refl s
      | some buffers => exact same (fun _ => rfl) rfl rfl rfl
  | ackedStreamData streamId datalen =>
      simp only [H3Session.onWriteCallback, onAckedStreamData]
      cases s.streamBuffers.find? streamId with
      | none => exact refl s
      | some buffers => exact same (fun _ => rfl) rfl rfl rfl

/-! ### Closing -/

theorem callCloseStream (s : H3Session N) (streamId : Int) (errorCode : Nat) :
    Meters fins s (s.callCloseStream streamId errorCode) := by
  have hnote : Meters fins s
      { s.note (.closeStream streamId errorCode) with
        conn := (N.closeStream s.conn streamId errorCode).1 } :=
    (note s rfl).trans (same (fun _ => rfl) rfl rfl rfl)
  exact hnote.trans (foldl onStreamCallback _ _)

/-- The records of a stream that `close_stream` removes first. -/
theorem forgetStream (s : H3Session N) (streamId : Int) :
    Meters fins s (s.forgetStream streamId) := by
  refine guarded (fun _ => rfl) ?_ rfl rfl
  intro hheld id guard hguard
  have hfind : (s.headersGuards.erase streamId).find? id = some guard := hguard
  rw [OrdMap.find?_erase] at hfind
  split_ifs at hfind
  exact hheld id guard hfind

theorem dropStream (s : H3Session N) (streamId : Int) (errorCode : Nat) :
    Meters fins s (s.dropStream streamId errorCode) := by
  let s₁ : H3Session N :=
    { s with
      streamBuffers := s.streamBuffers.erase streamId
      shutdownStreamIds := s.shutdownStreamIds.erase streamId }
  have hbuffer : Meters fins s s₁ := same (fun _ => rfl) rfl rfl rfl
  exact (hbuffer.trans (callCloseStream s₁ streamId errorCode)).trans
    (same (fun _ => rfl) rfl rfl rfl)

/-- Callbacks of a closed stream only add to the record. -/
theorem foldl_onStreamCallback_log (callbacks : List StreamCallback) (s : H3Session N) :
    (callbacks.foldl H3Session.onStreamCallback s).isServer = s.isServer ∧
      ∀ call ∈ s.ngLog.map Prod.fst,
        call ∈ (callbacks.foldl H3Session.onStreamCallback s).ngLog.map Prod.fst := by
  induction callbacks generalizing s with
  | nil => exact ⟨rfl, fun _ hcall => hcall⟩
  | cons c rest ih =>
      rcases ih (s.onStreamCallback c) with ⟨hrole, hlog⟩
      have hone : (s.onStreamCallback c).isServer = s.isServer ∧
          (s.onStreamCallback c).ngLog.map Prod.fst =
            s.ngLog.map Prod.fst ++ [.callback (.stream c)] := by
        cases c <;> exact ⟨rfl, log_note s _⟩
      refine ⟨hrole.trans hone.1, ?_⟩
      intro call hcall
      apply hlog
      rw [hone.2]
      exact List.mem_append_left _ hcall

/-- Behind `nghttp3_conn_close_stream` the record has its line. -/
theorem settled_dropStream (s : H3Session N) (streamId : Int) (errorCode : Nat) :
    Settled (s.dropStream streamId errorCode) streamId := by
  let s₁ : H3Session N :=
    { s with
      streamBuffers := s.streamBuffers.erase streamId
      shutdownStreamIds := s.shutdownStreamIds.erase streamId }
  rcases foldl_onStreamCallback_log (N.closeStream s₁.conn streamId errorCode).2
    { s₁.note (.closeStream streamId errorCode) with
      conn := (N.closeStream s₁.conn streamId errorCode).1 } with ⟨_, hlog⟩
  refine ⟨.closeStream streamId errorCode, hlog _ ?_, decide_eq_true rfl⟩
  have hmem : NgCall.closeStream streamId errorCode ∈
      (s₁.note (.closeStream streamId errorCode)).ngLog.map Prod.fst := by
    rw [log_note]
    exact List.mem_append_right _ List.mem_cons_self
  exact hmem

theorem closeStream (s : H3Session N) (streamId : Int) (errorCode : Nat) :
    Meters fins s (s.closeStream streamId errorCode).1 := by
  have hforget : Meters fins s (s.forgetStream streamId) := forgetStream s streamId
  unfold H3Session.closeStream
  dsimp only
  cases hclosing : (s.forgetStream streamId).closingSession streamId with
  | mk isConnect sessionId =>
      cases isConnect with
      | false => exact hforget.trans (dropStream _ streamId errorCode)
      | true =>
          have hconnect : sessionId = streamId := by
            unfold closingSession at hclosing
            dsimp only at hclosing
            split_ifs at hclosing <;> cases hclosing
            rfl
          subst hconnect
          dsimp only
          let s₁ : H3Session N :=
            { s.forgetStream sessionId with
              streamBuffers := (s.forgetStream sessionId).streamBuffers.eraseAll
                ((s.forgetStream sessionId).sessionStreams sessionId) }
          have hbuffers : Meters fins (s.forgetStream sessionId) s₁ :=
            same (fun _ => rfl) rfl rfl rfl
          have hdropped : Meters fins s₁ (s₁.dropStream sessionId errorCode) :=
            dropStream s₁ sessionId errorCode
          have hstreams : Meters fins (s₁.dropStream sessionId errorCode)
              ((s₁.dropStream sessionId errorCode).eraseSessionStreams sessionId) :=
            same (fun _ => rfl) rfl rfl rfl
          have hsettled : Settled
              ((s₁.dropStream sessionId errorCode).eraseSessionStreams sessionId) sessionId :=
            settled_dropStream s₁ sessionId errorCode
          exact (((hforget.trans hbuffers).trans hdropped).trans hstreams).trans
            ((eraseSession hsettled).trans (pushEvent _ fun h => by cases h))

theorem discardStale2xx (s : H3Session N) : Meters fins s s.discardStale2xx := by
  refine (foldl ?_ s.pendingStale2xxDiscardSessionIds.toList s).trans
    (same (fun _ => rfl) rfl rfl rfl)
  intro s sessionId
  have hforget : Meters fins s
      { s with
        preAcceptFinAcceptedSessionIds := s.preAcceptFinAcceptedSessionIds.erase sessionId } :=
    same (fun _ => rfl) rfl rfl rfl
  exact hforget.trans (closeStream _ sessionId 0)

theorem handleWtCloseSessionError (s : H3Session N) (sessionId : Int) :
    Meters fins s (s.handleWtCloseSessionError sessionId) := by
  unfold H3Session.handleWtCloseSessionError
  by_cases hsession : sessionId ∉ s.sessionIds
  · rw [if_pos hsession]
    exact refl s
  · rw [if_neg hsession]
    exact (closeStream s sessionId kH3MessageError).trans (pushEvent _ fun h => by cases h)

/-! ### Receiving -/

theorem readFailed (s : H3Session N) (streamId consumed : Int) :
    Meters fins s (s.readFailed streamId consumed) := by
  have hfirst : Meters fins s
      (if decide (consumed = N.errH3MessageError ∧ streamId ∈ s.sessionIds) = true then
        s.handleWtCloseSessionError streamId else s) := by
    split_ifs
    · exact handleWtCloseSessionError s streamId
    · exact refl s
  unfold H3Session.readFailed
  dsimp only
  refine hfirst.trans ?_
  generalize (if decide (consumed = N.errH3MessageError ∧ streamId ∈ s.sessionIds) = true then
    s.handleWtCloseSessionError streamId else s) = t
  cases t.pendingWtCloseSessionError with
  | some sessionId =>
      have hreset : Meters fins t { t with pendingWtCloseSessionError := none } :=
        same (fun _ => rfl) rfl rfl rfl
      exact hreset.trans (handleWtCloseSessionError _ sessionId)
  | none =>
      dsimp only
      split_ifs
      · exact refl t
      · have herror : Meters fins t
            (t.pushEvent { type := .error, streamId := streamId, errorCode := (-consumed).toNat,
                           errorMessage := N.strerror consumed }) :=
          pushEvent t fun h => by cases h
        exact herror.trans (same (fun _ => rfl) rfl rfl rfl)

/-- What is entered and removed leaves no trace. -/
theorem erase_insert {α : Type} (m : OrdMap Int α) (k : Int) (v : α) :
    (m.insert k v).erase k = m.erase k := by
  apply OrdMap.ext_find?
  intro k'
  rw [OrdMap.find?_erase, OrdMap.find?_erase, OrdMap.find?_insert]
  split_ifs <;> rfl

/-- The bytes that were due for a stream are dealt with. -/
structure Pays (fins : Int → Prop) (s : H3Session N) (streamId : Int) (amount : Nat)
    (due : Int → Nat) (s' : H3Session N) : Prop where
  path : Meter.Reaches s.isServer s.config.wtPreAcceptBufferLimit N.HoldsBack fins (s.meter due)
    (s'.meter (Function.update due streamId (due streamId - amount)))
  held : s'.HeldFins fins
  role : s'.isServer = s.isServer
  config : s'.config = s.config

/-- A stream that exceeds the limit is refused; `t` is the state in which nghttp3 is told. -/
theorem refused {s t : H3Session N} {streamId : Int} {amount : Nat} {fin : Bool} {due : Int → Nat}
    (hopen : streamId ∉ s.rejectedPreAcceptStreamIds) (hdue : amount ≤ due streamId)
    (hlimit : s.config.wtPreAcceptBufferLimit < (s.meter due).count streamId + amount)
    (hfin : fin = true → fins streamId) (hheld : s.HeldFins fins)
    (hmeter : ∀ due, t.meter due =
      { (s.meter due).forgetStream streamId with
        rejected := if fin then s.rejectedPreAcceptStreamIds
          else s.rejectedPreAcceptStreamIds.insert streamId
        stopped := stopsOf s.pushed ++ [streamId] })
    (hguards : t.headersGuards = s.headersGuards) (hrole : t.isServer = s.isServer)
    (hconfig : t.config = s.config) :
    Pays fins s streamId amount due (t.callCloseStream streamId wtBufferedStreamRejected) := by
  have hclose : Metered fins t (t.callCloseStream streamId wtBufferedStreamRejected) := by
    apply callCloseStream t streamId wtBufferedStreamRejected
    rw [HeldFins, hguards]
    exact hheld
  have hpath := hclose.path (Function.update due streamId (due streamId - amount))
  rw [hrole, hconfig, hmeter] at hpath
  exact
    { path := .head (.refused _ streamId fin amount hopen hdue hlimit hfin) hpath
      held := hclose.held
      role := hclose.role.trans hrole
      config := hclose.config.trans hconfig }

/-- What `read_stream2` kept back is counted, or the stream is refused, or there is nothing to
count it for. -/
theorem enforcePreAcceptBufferLimit {s : H3Session N} {streamId : Int} {length consumed : Nat}
    {fin : Bool} {due : Int → Nat} (hopen : streamId ∉ s.rejectedPreAcceptStreamIds)
    (hholds : consumed < length →
      (s.meter due).HeldBack N.HoldsBack streamId (N.getStreamWtSessionId s.conn streamId))
    (hdue : length - consumed ≤ due streamId) (hfin : fin = true → fins streamId)
    (hheld : s.HeldFins fins) :
    Pays fins s streamId (length - consumed) due
      (s.enforcePreAcceptBufferLimit streamId length consumed fin) := by
  have hnothing : length - consumed = 0 → Pays fins s streamId (length - consumed) due s := by
    intro hzero
    refine ⟨?_, hheld, rfl, rfl⟩
    rw [hzero, Nat.sub_zero, Function.update_eq_self]
  have hfree : N.getStreamWtSessionId s.conn streamId < 0 ∨
      N.getStreamWtSessionId s.conn streamId ∈ s.acceptedSessionIds →
      Pays fins s streamId (length - consumed) due s := by
    intro hsession
    rcases Nat.eq_zero_or_pos (length - consumed) with hzero | hpos
    · exact hnothing hzero
    · have hback := hholds (Nat.lt_of_sub_pos hpos)
      exact ⟨.single (.waived _ streamId _ _ hback hdue hsession), hheld, rfl, rfl⟩
  unfold H3Session.enforcePreAcceptBufferLimit
  dsimp only
  split_ifs with hmore hnone haccepted hzero hlimit hlast
  · exact hnothing (Nat.sub_eq_zero_of_le (Nat.le_of_lt hmore))
  · exact hfree (Or.inl hnone)
  · exact hfree (Or.inr haccepted)
  · exact hnothing hzero
  · have hpos : 0 < length - consumed := Nat.pos_of_ne_zero hzero
    exact ⟨.single (.counted _ streamId _ _ hopen haccepted (hholds (Nat.lt_of_sub_pos hpos)) hpos
      hdue hlimit), hheld, rfl, rfl⟩
  all_goals
    have hexceeds : s.config.wtPreAcceptBufferLimit <
        (s.meter due).count streamId + (length - consumed) := Nat.lt_of_not_le hlimit
    refine refused hopen hdue hexceeds hfin hheld ?_ rfl rfl rfl
    intro due
    simp [hlast, meter, H3Session.pushEvent, forgetPreAcceptStream, Meter.forgetStream,
      erase_insert, stopsOf_stop]

/-- `nghttp3_conn_read_stream2` up to its callbacks: what is kept back is due. -/
theorem read {s : H3Session N} {streamId : Int} (hopen : streamId ∉ s.rejectedPreAcceptStreamIds)
    (data : Bytes) (fin : Bool) (callbacks : List Callback) (rv : Int) (conn : N.Conn)
    (due : Int → Nat) :
    Meter.Step s.isServer s.config.wtPreAcceptBufferLimit N.HoldsBack fins (s.meter due)
      (meter { s.note (.readStream2 streamId data fin callbacks rv) with conn := conn }
        (Function.update due streamId (due streamId +
          (NgCall.readStream2 streamId data fin callbacks rv).keptBack streamId))) := by
  have hmeter :
      meter { s.note (.readStream2 streamId data fin callbacks rv) with conn := conn }
        (Function.update due streamId (due streamId +
          (NgCall.readStream2 streamId data fin callbacks rv).keptBack streamId)) =
      { (s.meter due).noted (.readStream2 streamId data fin callbacks rv) with
        due := Function.update due streamId (due streamId +
          (NgCall.readStream2 streamId data fin callbacks rv).keptBack streamId) } := by
    rw [← meter_note]
    rfl
  rw [hmeter]
  exact .read _ streamId data fin callbacks rv hopen

/-- `read_from_nghttp3`: what a read keeps back is dealt with in the same call. -/
theorem readFromNghttp3 (s : H3Session N) (streamId : Int) (data : Bytes) {fin : Bool}
    (hfin : fin = true → fins streamId) :
    Meters fins s (s.readFromNghttp3 streamId data fin).1 := by
  unfold H3Session.readFromNghttp3
  by_cases hopen : streamId ∈ s.rejectedPreAcceptStreamIds
  · rw [if_pos hopen]
    cases fin with
    | false => exact refl s
    | true => exact one (fun _ => .finished _ streamId (hfin rfl)) rfl rfl rfl
  · rw [if_neg hopen]
    intro hheld
    generalize hanswer : N.readStream2 s.conn streamId data fin = answer
    let s₁ : H3Session N :=
      { s.note (.readStream2 streamId data fin answer.2.1 answer.2.2) with conn := answer.1 }
    let s₂ : H3Session N := answer.2.1.foldl H3Session.onCallback s₁
    have hcall : s.callReadStream2 streamId data fin = (s₂, answer.2.2) := by
      unfold H3Session.callReadStream2
      rw [hanswer]
    rw [hcall]
    have hfired : Metered fins s₁ s₂ := foldl onCallback answer.2.1 s₁ hheld
    have hkeeps := foldl_onCallback_keeps answer.2.1 s₁
    have hread : ∀ due, Meter.Step s.isServer s.config.wtPreAcceptBufferLimit N.HoldsBack fins
        (s.meter due) (s₁.meter (Function.update due streamId (due streamId +
          (NgCall.readStream2 streamId data fin answer.2.1 answer.2.2).keptBack streamId))) :=
      fun due => read hopen data fin answer.2.1 answer.2.2 answer.1 due
    dsimp only
    by_cases hfailed : answer.2.2 < 0
    · -- A read that fails keeps nothing back.
      rw [if_pos hfailed]
      have hkept : (NgCall.readStream2 streamId data fin answer.2.1 answer.2.2).keptBack streamId
          = 0 := if_neg fun h => absurd hfailed (Int.not_lt.2 h.2)
      have hrest : Metered fins s₂ (s₂.readFailed streamId answer.2.2) :=
        readFailed s₂ streamId answer.2.2 hfired.held
      refine ⟨?_, hrest.held, hrest.role.trans hfired.role, hrest.config.trans hfired.config⟩
      intro due
      have hfirst := hread due
      rw [hkept, Nat.add_zero, Function.update_eq_self] at hfirst
      have hlast := hrest.path due
      rw [hfired.role, hfired.config] at hlast
      exact .head hfirst ((hfired.path due).trans hlast)
    · -- Between the read and the count only the callbacks run; they leave what is due alone.
      rw [if_neg hfailed]
      have hpos : 0 ≤ answer.2.2 := Int.not_lt.1 hfailed
      have hkept : (NgCall.readStream2 streamId data fin answer.2.1 answer.2.2).keptBack streamId
          = data.length - answer.2.2.toNat := if_pos ⟨rfl, hpos⟩
      rw [hkept] at hread
      -- The callbacks only add to the record, so the read is in it when its bytes are counted.
      have hrecorded : ∀ due, .readStream2 streamId data fin answer.2.1 answer.2.2 ∈
          (s₂.meter due).log := by
        intro due
        obtain ⟨more, hmore⟩ := (hfired.path due).log_grows
        rw [hmore]
        refine List.mem_append_left more (List.mem_map.2
          ⟨(.readStream2 streamId data fin answer.2.1 answer.2.2, s.toBooks), ?_, rfl⟩)
        exact List.mem_append_right _ List.mem_cons_self
      have hpays : ∀ due, data.length - answer.2.2.toNat ≤ due streamId →
          Pays fins s₂ streamId (data.length - answer.2.2.toNat) due
            (s₂.enforcePreAcceptBufferLimit streamId data.length answer.2.2.toNat fin) := by
        intro due hdue
        refine enforcePreAcceptBufferLimit ?_ ?_ hdue hfin hfired.held
        · rw [hkeeps.2]
          exact hopen
        · intro hless
          rw [hkeeps.1]
          exact ⟨.readStream2 streamId data fin answer.2.1 answer.2.2, hrecorded due,
            s.conn, data, fin, answer.1, answer.2.1, answer.2.2, hanswer, rfl, hpos, hless, rfl⟩
      have hany := hpays (fun _ => data.length - answer.2.2.toNat) (Nat.le_refl _)
      refine ⟨?_, hany.held, hany.role.trans hfired.role, hany.config.trans hfired.config⟩
      intro due
      have hlast := (hpays (Function.update due streamId (due streamId +
        (data.length - answer.2.2.toNat))) (by simp)).path
      rw [Function.update_self, Nat.add_sub_cancel, Function.update_idem,
        Function.update_eq_self, hfired.role, hfired.config] at hlast
      exact .head (hread due) ((hfired.path _).trans hlast)

theorem detectFin (s : H3Session N) (streamId : Int) (fin : Bool) :
    Meters fins s (s.detectFin streamId fin) := by
  unfold H3Session.detectFin
  dsimp only
  split_ifs <;> exact same (fun _ => rfl) rfl rfl rfl

theorem migrateBlockedFins (s : H3Session N) : Meters fins s s.migrateBlockedFins := by
  refine foldl ?_ s.pendingQpackBlockedFinStreamIds.toList s
  intro s streamId
  split_ifs
  · exact same (fun _ => rfl) rfl rfl rfl
  · exact refl s

theorem closeFinSessions (s : H3Session N) : Meters fins s s.closeFinSessions :=
  (foldl (fun s sessionId => closeStream s sessionId 0) s.pendingFinSessionIds.toList s).trans
    (same (fun _ => rfl) rfl rfl rfl)

theorem processAfterRead (s : H3Session N) (streamId : Int) (fin : Bool) :
    Meters fins s (s.processAfterRead streamId fin) :=
  (((detectFin s streamId fin).trans (migrateBlockedFins _)).trans (closeFinSessions _)).trans
    (discardStale2xx _)

/-- A held FIN is passed on with the held data. -/
theorem flushHeld (s : H3Session N) (streamId : Int) : Meters fins s (s.flushHeld streamId) := by
  apply ofHeld
  intro hheld
  unfold H3Session.flushHeld
  cases hguard : s.headersGuards.find? streamId with
  | none =>
      dsimp only
      split_ifs
      · exact refl s
      · exact refl s
  | some guard =>
      dsimp only
      split_ifs
      · exact refl s
      · exact refl s
      · exact refl s
      · have htaken : Meters fins s
            { s with
              headersGuards := s.headersGuards.insert streamId
                { guard with heldData := [], heldFin := false } } := by
          refine guarded (fun _ => rfl) ?_ rfl rfl
          intro _ id guard' hfind hfin
          have hinsert : (s.headersGuards.insert streamId
              { guard with heldData := [], heldFin := false }).find? id = some guard' := hfind
          rw [OrdMap.find?_insert] at hinsert
          split_ifs at hinsert
          · cases hinsert
            cases hfin
          · exact hheld id guard' hinsert hfin
        exact (htaken.trans (readFromNghttp3 _ _ _ (hheld streamId guard hguard))).trans
          (processAfterRead _ _ _)

theorem flushUnblockedHeldData (s : H3Session N) : Meters fins s s.flushUnblockedHeldData :=
  foldl flushHeld _ s

theorem receiveUnguarded (s : H3Session N) (streamId : Int) (data : Bytes) {fin : Bool}
    (hfin : fin = true → fins streamId) :
    Meters fins s (s.receiveUnguarded streamId data fin).1 := by
  unfold H3Session.receiveUnguarded
  dsimp only
  have hread := readFromNghttp3 s streamId data hfin
  exact (hread.trans (processAfterRead _ streamId fin)).trans (flushUnblockedHeldData _)

/-- The guard holds no FIN but the one it is given, and passes on no other. -/
def KeepsFin (guard : HeadersFrameGuard) (fin : Bool) (taken : HeadersFrameGuard × GuardVerdict) :
    Prop :=
  (taken.1.heldFin = true → guard.heldFin = true ∨ fin = true) ∧
    ∀ bytes forwardFin, taken.2 = .forward bytes forwardFin → forwardFin = true → fin = true

theorem keepsFin_forward {guard guard' : HeadersFrameGuard} (fin : Bool) (bytes : Bytes)
    (h : guard'.heldFin = guard.heldFin) : KeepsFin guard fin (guard', .forward bytes fin) := by
  refine ⟨fun hheld => Or.inl (h ▸ hheld), ?_⟩
  intro _ forwardFin heq hforward
  cases heq
  exact hforward

/-- The bytes behind the HEADERS are held, with the FIN. -/
theorem keepsFin_split {guard guard' : HeadersFrameGuard} {fin : Bool} (bytes : Bytes)
    (h : guard'.heldFin = fin) : KeepsFin guard fin (guard', .forward bytes false) := by
  refine ⟨fun hheld => Or.inr (h ▸ hheld), ?_⟩
  intro _ forwardFin heq hforward
  cases heq
  cases hforward

theorem keepsFin_park {guard guard' : HeadersFrameGuard} {fin : Bool}
    (h : guard'.heldFin = true → guard.heldFin = true) : KeepsFin guard fin (guard', .park) :=
  ⟨fun hheld => Or.inl (h hheld), fun _ _ heq => by cases heq⟩

theorem takeFirst_fin (guard : HeadersFrameGuard) (data : Bytes) (fin : Bool) :
    KeepsFin guard fin (guard.takeFirst data fin) := by
  unfold HeadersFrameGuard.takeFirst
  cases tryParseH3FrameHeader data with
  | none =>
      dsimp only
      split_ifs with hfin
      · subst hfin
        exact keepsFin_forward true data rfl
      · exact keepsFin_park fun h => by cases h
  | some header =>
      dsimp only
      split_ifs
      · exact keepsFin_forward fin data rfl
      · exact keepsFin_forward fin data rfl
      · exact keepsFin_split _ rfl

theorem takeMore_fin (guard : HeadersFrameGuard) (data : Bytes) (fin : Bool) :
    KeepsFin guard fin (guard.takeMore data fin) := by
  unfold HeadersFrameGuard.takeMore
  dsimp only
  generalize tryParseH3FrameHeader (guard.parsePrefix ++ data.take
    (if guard.parsePrefix.length < 16 then min data.length (16 - guard.parsePrefix.length) else 0))
      = header
  cases header with
  | none =>
      dsimp only
      split_ifs with hfin
      · subst hfin
        exact keepsFin_forward true _ rfl
      · exact keepsFin_park fun h => h
  | some header =>
      dsimp only
      split_ifs
      · exact keepsFin_forward fin _ rfl
      · exact keepsFin_forward fin _ rfl
      · exact keepsFin_split _ rfl

theorem takeData_fin (guard : HeadersFrameGuard) (blocked : Bool) (data : Bytes) (fin : Bool) :
    KeepsFin guard fin (guard.takeData blocked data fin) := by
  unfold HeadersFrameGuard.takeData
  dsimp only
  split_ifs
  · exact takeFirst_fin guard data fin
  · exact takeMore_fin guard data fin
  · exact keepsFin_forward fin data rfl
  · exact keepsFin_forward fin data rfl
  · exact keepsFin_split _ rfl
  · refine ⟨?_, fun _ _ heq => by cases heq⟩
    intro hheld
    exact Bool.or_eq_true_iff.1 hheld
  · exact keepsFin_forward fin data rfl

theorem receiveGuarded (s : H3Session N) (streamId : Int) (data : Bytes) {fin : Bool}
    (hfin : fin = true → fins streamId) :
    Meters fins s (s.receiveGuarded streamId data fin).1 := by
  apply ofHeld
  intro hheld
  have hkept := takeData_fin ((s.headersGuards.find? streamId).getD {})
    (s.pendingHeaders.find? streamId).isSome data fin
  -- A FIN that the guard of the stream holds was received for it.
  have hold : ((s.headersGuards.find? streamId).getD {}).heldFin = true → fins streamId := by
    cases hguard : s.headersGuards.find? streamId with
    | none => exact fun h => by cases h
    | some guard => exact hheld streamId guard hguard
  unfold H3Session.receiveGuarded
  dsimp only
  generalize ((s.headersGuards.find? streamId).getD {}).takeData
    (s.pendingHeaders.find? streamId).isSome data fin = taken at hkept ⊢
  have htaken : Meters fins s
      { s with headersGuards := s.headersGuards.insert streamId taken.1 } := by
    refine guarded (fun _ => rfl) ?_ rfl rfl
    intro _ id guard hfind hfinal
    have hinsert : (s.headersGuards.insert streamId taken.1).find? id = some guard := hfind
    rw [OrdMap.find?_insert] at hinsert
    split_ifs at hinsert with hid
    · cases hinsert
      subst hid
      exact (hkept.1 hfinal).elim hold hfin
    · exact hheld id guard hinsert hfinal
  cases hverdict : taken.2 with
  | park =>
      dsimp only
      exact htaken.trans (processAfterRead _ _ _)
  | hold =>
      dsimp only
      exact (htaken.trans (processAfterRead _ _ _)).trans (flushUnblockedHeldData _)
  | forward bytes forwardFin =>
      dsimp only
      refine (htaken.trans ?_).trans ((processAfterRead _ _ _).trans (flushUnblockedHeldData _))
      split_ifs
      · refine readFromNghttp3 _ _ _ ?_
        exact fun hforward => hfin (hkept.2 bytes forwardFin hverdict hforward)
      · exact refl _

theorem receiveStreamData (s : H3Session N) (streamId : Int) (data : Bytes) {fin : Bool}
    (hfin : fin = true → fins streamId) :
    Meters fins s (s.step (.receiveStreamData streamId data fin)) := by
  simp only [step, H3Session.receiveStreamData]
  split_ifs with hrange hclosed hown hrejected hseen
  · exact refl s
  · exact refl s
  · exact refl s
  · exact one (fun _ => .finished _ streamId (hfin hseen)) rfl rfl rfl
  · exact refl s
  · have hreceived := receiveUnguarded s streamId data hfin
    generalize s.receiveUnguarded streamId data fin = received at hreceived ⊢
    exact hreceived
  · have hreceived := receiveGuarded s streamId data hfin
    generalize s.receiveGuarded streamId data fin = received at hreceived ⊢
    exact hreceived

theorem receiveDatagram (s : H3Session N) (data : Bytes) :
    Meters fins s (s.receiveDatagram data) := by
  unfold H3Session.receiveDatagram
  dsimp only
  split_ifs
  · exact refl s
  · exact refl s
  · exact pushEvent s fun h => by cases h
  · exact refl s
  · exact pushEvent s fun h => by cases h

/-! ### Sending -/

theorem foldl_onWriteCallback (s : H3Session N) (conn : N.Conn) (callbacks : List WriteCallback) :
    Meters fins s (callbacks.foldl H3Session.onWriteCallback { s with conn := conn }) := by
  have hconn : Meters fins s { s with conn := conn } := same (fun _ => rfl) rfl rfl rfl
  exact hconn.trans (foldl onWriteCallback callbacks _)

theorem writeLoop (iterations : Nat) (s : H3Session N) (result : List (Int × Bytes × Bool)) :
    Meters fins s (writeLoop iterations s result).1 := by
  induction iterations generalizing s result with
  | zero => exact refl s
  | succ iterations ih =>
      have hwritten : Meters fins s ((N.writevStream s.conn).2.1.foldl
          H3Session.onWriteCallback { s with conn := (N.writevStream s.conn).1 }) :=
        foldl_onWriteCallback s _ _
      unfold H3Session.writeLoop
      dsimp only
      split_ifs
      · exact hwritten.andThen (meter_pushEvent _ fun h => by cases h) rfl rfl rfl
      · exact hwritten
      · exact hwritten
      · exact (hwritten.trans (foldl_onWriteCallback _ _ _)).trans (ih _ _)

theorem closeFlushed (s : H3Session N) (sessionId : Int) :
    Meters fins s (s.closeFlushed sessionId) := by
  have hnote : Meters fins s
      (s.note (.isStreamFlushed sessionId (N.isStreamFlushed s.conn sessionId))) := note s rfl
  unfold H3Session.closeFlushed
  dsimp only
  split_ifs
  · have hforget : Meters fins
        (s.note (.isStreamFlushed sessionId (N.isStreamFlushed s.conn sessionId)))
        { s.note (.isStreamFlushed sessionId (N.isStreamFlushed s.conn sessionId)) with
          preAcceptFinAcceptedSessionIds := s.preAcceptFinAcceptedSessionIds.erase sessionId } :=
      same (fun _ => rfl) rfl rfl rfl
    exact (hnote.trans hforget).trans (closeStream _ sessionId 0)
  · exact hnote

theorem getStreamsToSend (s : H3Session N) : Meters fins s s.getStreamsToSend.1 := by
  unfold H3Session.getStreamsToSend
  split_ifs
  · exact refl s
  · exact (writeLoop 1024 s []).trans (foldl closeFlushed _ _)

/-! ### The API -/

/-- What is settled stays settled. -/
theorem settled (h : Meters fins s s') (hheld : s.HeldFins fins) {sessionId : Int}
    (hsettled : Settled s sessionId) : Settled s' sessionId := by
  have hmoved := h hheld
  have hpath := (hmoved.path 0).settled hsettled
  rw [← hmoved.role] at hpath
  exact hpath

theorem connect (s : H3Session N) (streamId : Int) (url origin : Bytes) :
    Meters fins s (s.connect streamId url origin).1 := by
  unfold H3Session.connect
  cases parseAuthorityPath url with
  | none =>
      dsimp only
      split_ifs <;> exact refl s
  | some target =>
      dsimp only
      split_ifs
      · exact refl s
      · exact refl s
      · exact refl s
      · exact (note s rfl).andThen (fun _ => rfl) rfl rfl rfl
      · exact (note s rfl).andThen (fun _ => rfl) rfl rfl rfl

/-- The confirmation of a session, with the callbacks that nghttp3 fires. -/
theorem callConfirm (s : H3Session N) (streamId : Int) :
    Meters fins s (s.callConfirm streamId).1 ∧
      (s.HeldFins fins → (s.callConfirm streamId).2 = 0 →
        Settled (s.callConfirm streamId).1 streamId) := by
  let s₁ : H3Session N :=
    { s.note (.serverConfirmWtSession streamId (N.serverConfirmWtSession s.conn streamId).2.1
        (N.serverConfirmWtSession s.conn streamId).2.2) with
      conn := (N.serverConfirmWtSession s.conn streamId).1, acceptingSessionId := streamId }
  have hnote : Meters fins s s₁ := (note s rfl).andThen (fun _ => rfl) rfl rfl rfl
  have hfired : Meters fins s₁ ((N.serverConfirmWtSession s.conn streamId).2.1.foldl
      H3Session.onCallback s₁) := foldl onCallback _ s₁
  refine ⟨(hnote.trans hfired).andThen (fun _ => rfl) rfl rfl rfl, ?_⟩
  intro hheld hzero
  have hline : Settled s₁ streamId := by
    have hrv : (N.serverConfirmWtSession s.conn streamId).2.2 = 0 := hzero
    have hsettles : (NgCall.serverConfirmWtSession streamId
        (N.serverConfirmWtSession s.conn streamId).2.1
        (N.serverConfirmWtSession s.conn streamId).2.2).settles s.isServer streamId = true := by
      simp [NgCall.settles, hrv]
    exact settled_note s hsettles
  exact hfired.settled (hnote hheld).held hline

theorem confirmFailed (s : H3Session N) (streamId rv : Int) (finDetected : Bool) :
    Meters fins s (s.confirmFailed streamId rv finDetected) := by
  unfold H3Session.confirmFailed
  dsimp only
  refine trans ?_ (discardStale2xx _)
  have hback : Meters fins s
      (if finDetected = true then
        { s with
          preAcceptFinAcceptedSessionIds := s.preAcceptFinAcceptedSessionIds.erase streamId
          pendingPreAcceptFinSessionIds := s.pendingPreAcceptFinSessionIds.insert streamId }
      else s) := by
    split_ifs
    · exact same (fun _ => rfl) rfl rfl rfl
    · exact refl s
  refine hback.trans ?_
  generalize (if finDetected = true then
    { s with
      preAcceptFinAcceptedSessionIds := s.preAcceptFinAcceptedSessionIds.erase streamId
      pendingPreAcceptFinSessionIds := s.pendingPreAcceptFinSessionIds.insert streamId }
    else s) = t
  split_ifs
  · have hreset : Meters fins t { t with pendingWtCloseSessionError := none } :=
      same (fun _ => rfl) rfl rfl rfl
    exact hreset.trans (handleWtCloseSessionError _ _)
  · exact refl t

theorem takeOverFin (s : H3Session N) (streamId : Int) :
    Meters fins s (s.takeOverFin streamId) := by
  unfold H3Session.takeOverFin
  split_ifs
  · exact same (fun _ => rfl) rfl rfl rfl
  · exact refl s

theorem markAccepted {s : H3Session N} {streamId : Int} (h : Settled s streamId) :
    Meters fins s (s.markAccepted streamId) := by
  unfold H3Session.markAccepted
  split_ifs
  · exact one (fun _ => .accepted _ streamId h) rfl rfl rfl
  · exact one (fun _ => .forgotten _ streamId h) rfl rfl rfl

theorem confirmAccepted (s : H3Session N) (streamId : Int) :
    Meters fins s (s.confirmAccepted streamId).1 := by
  apply ofHeld
  intro hheld
  have htaken : Meters fins s (s.takeOverFin streamId) := takeOverFin s streamId
  rcases callConfirm (s.takeOverFin streamId) streamId with ⟨hconfirm, hline⟩
  unfold H3Session.confirmAccepted
  dsimp only
  split_ifs with hrv
  · exact (htaken.trans hconfirm).trans (confirmFailed _ _ _ _)
  · have hheld' := (htaken hheld).held
    have hsettled := hline hheld' (Classical.not_not.1 hrv)
    have hdiscard : Meters fins ((s.takeOverFin streamId).callConfirm streamId).1
        ((s.takeOverFin streamId).callConfirm streamId).1.discardStale2xx := discardStale2xx _
    have hsettled' := hdiscard.settled (hconfirm hheld').held hsettled
    exact ((htaken.trans hconfirm).trans hdiscard).trans (markAccepted hsettled')

theorem acceptSession (s : H3Session N) (streamId : Int) :
    Meters fins s (s.acceptSession streamId).1 := by
  have hsubmit : Meters fins s
      { s.note (.submitWtResponse streamId acceptHeaders
          (N.submitWtResponse s.conn streamId acceptHeaders).2) with
        conn := (N.submitWtResponse s.conn streamId acceptHeaders).1 } :=
    (note s rfl).andThen (fun _ => rfl) rfl rfl rfl
  unfold H3Session.acceptSession
  dsimp only
  split_ifs
  · exact refl s
  · exact refl s
  · exact hsubmit
  · exact hsubmit.trans (confirmAccepted _ streamId)
  · exact refl s

/-- A call of nghttp3 that fires nothing. -/
theorem answered (s : H3Session N) {call : NgCall} (h : call.plain = true) (conn : N.Conn) :
    Meters fins s { s.note call with conn := conn } :=
  (note s h).andThen (fun _ => rfl) rfl rfl rfl

theorem openStream (s : H3Session N) (sessionId streamId : Int) (isUnidirectional : Bool) :
    Meters fins s (s.openStream sessionId streamId isUnidirectional).1 := by
  have hopen : Meters fins s
      { s.note (.openWtDataStream sessionId streamId
          (N.openWtDataStream s.conn sessionId streamId).2) with
        conn := (N.openWtDataStream s.conn sessionId streamId).1 } := answered s rfl _
  unfold H3Session.openStream
  dsimp only
  split_ifs
  all_goals first
    | exact refl s
    | exact hopen
    | exact hopen.andThen (fun _ => rfl) rfl rfl rfl

theorem queueStreamData (s : H3Session N) (streamId : Int) (data : Bytes) (fin : Bool) :
    Meters fins s (s.queueStreamData streamId data fin) := by
  have hqueued : Meters fins s
      { s with
        streamBuffers := s.streamBuffers.insert streamId
          ((s.streamBuffers.find? streamId).getD [] ++
            [({ data := data, fin := fin } : StreamBuffer)]) } := same (fun _ => rfl) rfl rfl rfl
  exact hqueued.trans (note _ rfl)

theorem sendStreamData (s : H3Session N) (streamId : Int) (data : Bytes) (fin : Bool) :
    Meters fins s (s.sendStreamData streamId data fin) := by
  unfold H3Session.sendStreamData
  split_ifs
  · exact refl s
  · cases s.streamInfo.find? streamId with
    | none => exact refl s
    | some info =>
        have hopen : Meters fins s
            { s.note (.openWtDataStream info.sessionId streamId
                (N.openWtDataStream s.conn info.sessionId streamId).2) with
              conn := (N.openWtDataStream s.conn info.sessionId streamId).1 } := answered s rfl _
        dsimp only
        split_ifs
        · exact queueStreamData s streamId data fin
        · exact refl s
        · exact hopen
        · have hmarked : Meters fins s
              { s.note (.openWtDataStream info.sessionId streamId
                  (N.openWtDataStream s.conn info.sessionId streamId).2) with
                conn := (N.openWtDataStream s.conn info.sessionId streamId).1
                streamInfo := s.streamInfo.insert streamId
                  { info with isWriteRegistered := true } } :=
            hopen.andThen (fun _ => rfl) rfl rfl rfl
          exact hmarked.trans (queueStreamData _ streamId data fin)

theorem closeSession (s : H3Session N) (sessionId : Int) (errorCode : Nat) (message : Bytes) :
    Meters fins s (s.closeSession sessionId errorCode message) := by
  unfold H3Session.closeSession
  dsimp only
  have hconn : Meters fins s { s with conn := (N.closeWtSession s.conn sessionId
      (errorCode % 2 ^ 32) (trimmedMessage message)).1 } := same (fun _ => rfl) rfl rfl rfl
  refine (hconn.trans (foldl onStreamCallback (N.closeWtSession s.conn sessionId
    (errorCode % 2 ^ 32) (trimmedMessage message)).2.1 _)).trans ?_
  generalize (N.closeWtSession s.conn sessionId (errorCode % 2 ^ 32)
      (trimmedMessage message)).2.1.foldl H3Session.onStreamCallback
      { s with conn := (N.closeWtSession s.conn sessionId (errorCode % 2 ^ 32)
        (trimmedMessage message)).1 } = t
  generalize (N.closeWtSession s.conn sessionId (errorCode % 2 ^ 32)
    (trimmedMessage message)).2.2 = rv
  have hnote : Meters fins t (t.note (.closeWtSession sessionId (errorCode % 2 ^ 32)
    (trimmedMessage message) rv)) := note t rfl
  split_ifs with hrv
  · exact hnote
  · have hzero : rv = 0 := Classical.not_not.1 hrv
    have hstreams : Meters fins t ((t.note (.closeWtSession sessionId (errorCode % 2 ^ 32)
        (trimmedMessage message) rv)).eraseSessionStreams sessionId) :=
      hnote.andThen (fun _ => rfl) rfl rfl rfl
    have hsettled : Settled ((t.note (.closeWtSession sessionId (errorCode % 2 ^ 32)
        (trimmedMessage message) rv)).eraseSessionStreams sessionId) sessionId :=
      settled_note t (by simp [NgCall.settles, hzero])
    exact (hstreams.trans (eraseSession hsettled)).trans (pushEvent _ fun h => by cases h)

end Meters

/-- The call brings the FIN of the stream. -/
def Input.givesFin (streamId : Int) : Input → Bool
  | .receiveStreamData id _ fin => id = streamId && fin
  | _ => false

/-- An API call is a sequence of steps of the meter, whatever nghttp3 answers. -/
theorem Meters.step {fins : Int → Prop} (s : H3Session N) (input : Input)
    (hfin : ∀ streamId, input.givesFin streamId = true → fins streamId) :
    Meters fins s (s.step input) := by
  cases input with
  | receiveStreamData streamId data fin =>
      refine receiveStreamData s streamId data ?_
      rintro rfl
      exact hfin streamId (by simp [Input.givesFin])
  | receiveDatagram data => exact receiveDatagram s data
  | getStreamsToSend => exact getStreamsToSend s
  | getDatagramsToSend => exact same (fun _ => rfl) rfl rfl rfl
  | bindControlStream streamId =>
      simp only [H3Session.step, bindControlStream]
      split_ifs <;> exact same (fun _ => rfl) rfl rfl rfl
  | bindQpackEncoderStream streamId =>
      simp only [H3Session.step, bindQpackEncoderStream]
      split_ifs <;> exact same (fun _ => rfl) rfl rfl rfl
  | bindQpackDecoderStream streamId =>
      simp only [H3Session.step, bindQpackDecoderStream]
      split_ifs <;> exact same (fun _ => rfl) rfl rfl rfl
  | connect streamId url origin => exact connect s streamId url origin
  | acceptSession streamId => exact acceptSession s streamId
  | rejectSession streamId status => exact rejectSession s streamId status
  | openStream sessionId streamId isUnidirectional =>
      exact openStream s sessionId streamId isUnidirectional
  | sendStreamData streamId data fin => exact sendStreamData s streamId data fin
  | sendDatagram sessionId data =>
      simp only [H3Session.step, sendDatagram]
      split_ifs
      · exact refl s
      · exact same (fun _ => rfl) rfl rfl rfl
  | closeStream streamId errorCode => exact closeStream s streamId errorCode
  | resetStream streamId errorCode =>
      simp only [H3Session.step, resetStream]
      cases s.mapSendErrorCode streamId errorCode with
      | error message => exact refl s
      | ok wireErrorCode => exact closeStream s streamId wireErrorCode
  | shutdownStreamWrite streamId =>
      simp only [H3Session.step, shutdownStreamWrite]
      split_ifs
      · exact refl s
      · exact (note s rfl).andThen (fun _ => rfl) rfl rfl rfl
  | closeSession sessionId errorCode message => exact closeSession s sessionId errorCode message
  | nextEvent =>
      simp only [H3Session.step, nextEvent]
      cases s.events <;> exact same (fun _ => rfl) rfl rfl rfl

/-- A run is a sequence of steps of the meter. -/
theorem Meters.run {fins : Int → Prop} (inputs : List Input) (s : H3Session N)
    (hfin : ∀ input ∈ inputs, ∀ streamId, input.givesFin streamId = true → fins streamId) :
    Meters fins s (s.run inputs) := by
  induction inputs generalizing s with
  | nil => exact refl s
  | cons input rest ih =>
      have hfirst := Meters.step s input (hfin input List.mem_cons_self)
      have hrest := ih (s.step input) fun i hi => hfin i (List.mem_cons_of_mem input hi)
      exact hfirst.trans hrest

end H3Session

end H3
end WebTransport
