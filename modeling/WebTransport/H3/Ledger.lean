import WebTransport.H3.Session

/-!
# H3.Ledger — the books of an `H3Session` move in small steps

The session ids, the streams that belong to them and the send buffers are kept by many functions.
`Ledger.Step` lists everything that any of them does to these books, to the events that end a
session and to the record of what passed between the session and nghttp3.

* `Step`       : one entry in the books;
* `step_moves` : an API call is a sequence of such entries, whatever nghttp3 answers;
* `run_moves`  : the same for a run.

A property of the books over whole runs is therefore proved entry by entry.
-/

namespace WebTransport
namespace H3

open Bindings

/-! ## Entries -/

namespace Books

/-- The streams of a session. -/
def sessionStreams (b : Books) (sessionId : Int) : List Int :=
  b.streamInfo.keys.filter fun streamId =>
    (b.streamInfo.find? streamId).any fun info => info.sessionId = sessionId

theorem mem_sessionStreams (b : Books) (sessionId streamId : Int) :
    streamId ∈ b.sessionStreams sessionId ↔
      ∃ info, b.streamInfo.find? streamId = some info ∧ info.sessionId = sessionId := by
  unfold sessionStreams
  rw [List.mem_filter, OrdMap.mem_keys_iff]
  constructor
  · rintro ⟨⟨info, hinfo⟩, hany⟩
    rw [hinfo] at hany
    exact ⟨info, hinfo, of_decide_eq_true hany⟩
  · rintro ⟨info, hinfo, hsession⟩
    refine ⟨⟨info, hinfo⟩, ?_⟩
    rw [hinfo]
    exact decide_eq_true hsession

/-- The books without the streams of a session. -/
def eraseSessionStreams (b : Books) (sessionId : Int) : Books :=
  { b with
    streamBuffers := b.streamBuffers.eraseAll (b.sessionStreams sessionId)
    streamInfo := b.streamInfo.eraseAll (b.sessionStreams sessionId) }

/-- The books without the session id; its streams stay. -/
def eraseSession (b : Books) (sessionId : Int) : Books :=
  { b with
    sessionIds := b.sessionIds.erase sessionId
    acceptedSessionIds := b.acceptedSessionIds.erase sessionId }

/-- The response to a client's request is not 2xx. -/
def refusedResponse (b : Books) (streamId : Int) : Bool :=
  (b.pendingHeaders.find? streamId).any fun headers =>
    decide (H3Session.statusOf headers ≠ []) &&
      decide ((H3Session.statusOf headers).head? ≠ some 50)

end Books

/-- The event ends the session for the application. -/
def H3Event.ends (e : H3Event) : Bool := e.type = .sessionClosed || e.type = .sessionRejected

/-- The books, the sessions whose end was told, and the record. -/
structure Ledger where
  books : Books
  ends : List Int
  log : List (NgCall × Books)

namespace Ledger

/-- The record with one more line. -/
def recorded (L : Ledger) (call : NgCall) : List (NgCall × Books) := L.log ++ [(call, L.books)]

/-- Everything that is done to the books. -/
inductive Step (isServer : Bool) : Ledger → Ledger → Prop
  | note (L : Ledger) (call : NgCall) : Step isServer L { L with log := L.recorded call }
  /-- a request, or the client's `connect` -/
  | opened (L : Ledger) (call : NgCall) (sessionId : Int)
      (hcall : (isServer = true ∧ call = .callback (.endHeaders sessionId)) ∨
        ∃ headers, call = .submitWtRequest sessionId headers 0) :
      Step isServer L
        { L with
          books := { L.books with sessionIds := L.books.sessionIds.insert sessionId }
          log := L.recorded call }
  | accepted (L : Ledger) (sessionId : Int) (hsession : sessionId ∈ L.books.sessionIds) :
      Step isServer L
        { L with
          books :=
            { L.books with acceptedSessionIds := L.books.acceptedSessionIds.insert sessionId } }
  | headers (L : Ledger) (pendingHeaders : OrdMap Int HeaderList) :
      Step isServer L { L with books := { L.books with pendingHeaders := pendingHeaders } }
  | registered (L : Ledger) (streamId : Int) (info : StreamInfo)
      (hsession : info.sessionId ∈ L.books.sessionIds) :
      Step isServer L
        { L with
          books := { L.books with streamInfo := L.books.streamInfo.insert streamId info } }
  /-- `is_write_registered` -/
  | marked (L : Ledger) (streamId : Int) (info info' : StreamInfo)
      (hfind : L.books.streamInfo.find? streamId = some info)
      (hsession : info'.sessionId = info.sessionId) :
      Step isServer L
        { L with
          books := { L.books with streamInfo := L.books.streamInfo.insert streamId info' } }
  | buffered (L : Ledger) (streamId : Int) (buffers : List StreamBuffer)
      (hstream : L.books.streamInfo.find? streamId ≠ none ∨
        L.books.streamBuffers.find? streamId ≠ none) :
      Step isServer L
        { L with
          books := { L.books with streamBuffers := L.books.streamBuffers.insert streamId buffers } }
  | unbuffered (L : Ledger) (streamId : Int) :
      Step isServer L
        { L with
          books := { L.books with streamBuffers := L.books.streamBuffers.erase streamId } }
  /-- `close_stream`, behind the removal of the buffer -/
  | unregistered (L : Ledger) (streamId : Int)
      (hbuffer : L.books.streamBuffers.find? streamId = none) :
      Step isServer L
        { L with books := { L.books with streamInfo := L.books.streamInfo.erase streamId } }
  /-- `stream_close_cb` -/
  | streamClosed (L : Ledger) (streamId : Int) (code : Nat) :
      Step isServer L
        { L with
          books := { L.books with streamInfo := L.books.streamInfo.erase streamId }
          log := L.recorded (.callback (.stream (.streamClose streamId code))) }
  /-- `close_stream` on a CONNECT stream -/
  | sessionClosed (L : Ledger) (sessionId : Int) (hsession : sessionId ∈ L.books.sessionIds) :
      Step isServer L
        { L with
          books := (L.books.eraseSessionStreams sessionId).eraseSession sessionId
          ends := L.ends ++ [sessionId] }
  /-- `close_session`, or a WT_CLOSE_SESSION of the peer -/
  | sessionEnded (L : Ledger) (call : NgCall) (sessionId : Int)
      (hcall : (∃ code message, call = .closeWtSession sessionId code message 0) ∨
        ∃ code message, call = .callback (.recvWtCloseSession sessionId code message) ∧
          H3Session.badCloseMessage message = false) :
      Step isServer L
        { books := (L.books.eraseSessionStreams sessionId).eraseSession sessionId
          ends := L.ends ++ [sessionId]
          log := L.recorded call }
  /-- `reject_session` with a status that is not 2xx -/
  | refused (L : Ledger) (sessionId status : Int) (headers : HeaderList)
      (hstatus : status / 100 ≠ 2) :
      Step isServer L
        { L with
          books := L.books.eraseSession sessionId
          log := L.recorded (.submitResponse sessionId status headers) }
  /-- a response to the client that is not 2xx -/
  | rejected (L : Ledger) (sessionId : Int) (hclient : isServer = false)
      (hresponse : L.books.refusedResponse sessionId = true) :
      Step isServer L
        { books := L.books.eraseSession sessionId
          ends := L.ends ++ [sessionId]
          log := L.recorded (.callback (.endHeaders sessionId)) }

/-- A sequence of entries. -/
abbrev Reaches (isServer : Bool) : Ledger → Ledger → Prop := Relation.ReflTransGen (Step isServer)

/-- The record only grows. -/
theorem Step.log_prefix {isServer : Bool} {L L' : Ledger} (h : Step isServer L L') :
    ∃ more, L'.log = L.log ++ more := by
  cases h with
  | note call => exact ⟨_, rfl⟩
  | opened call sessionId hcall => exact ⟨_, rfl⟩
  | streamClosed streamId code => exact ⟨_, rfl⟩
  | sessionEnded call sessionId hcall => exact ⟨_, rfl⟩
  | refused sessionId status headers hstatus => exact ⟨_, rfl⟩
  | rejected sessionId hclient hresponse => exact ⟨_, rfl⟩
  | _ => exact ⟨[], (List.append_nil _).symm⟩

/-- A property of the books that every entry keeps, as long as the record meets `Ok`. -/
theorem Reaches.invariant {isServer : Bool} {Ok : NgCall × Books → Prop} {Inv : Ledger → Prop}
    (hstep : ∀ {L L' : Ledger}, Step isServer L L' → (∀ e ∈ L'.log, Ok e) → Inv L → Inv L')
    {L L' : Ledger} (h : Reaches isServer L L') (hinv : Inv L) :
    (∀ e ∈ L'.log, Ok e) → Inv L' := by
  induction h with
  | refl => exact fun _ => hinv
  | tail _ hlast ih =>
      intro hok
      rcases hlast.log_prefix with ⟨more, hmore⟩
      refine hstep hlast hok (ih ?_)
      intro e he
      rw [hmore] at hok
      exact hok e (List.mem_append_left more he)

end Ledger

/-! ## An API call is a sequence of entries -/

namespace H3Session

variable {N : Nghttp3}

/-- The session ids whose end was told. -/
def endsOf (events : List H3Event) : List Int :=
  events.filterMap fun e => if e.ends then some e.sessionId else none

/-- The ledger of a session object. -/
def ledger (s : H3Session N) : Ledger := ⟨s.toBooks, endsOf s.pushed, s.ngLog⟩

/-- The books moved by entries, and the role stayed. -/
structure Moves (s s' : H3Session N) : Prop where
  path : Ledger.Reaches s.isServer s.ledger s'.ledger
  role : s'.isServer = s.isServer

namespace Moves

variable {s s' s'' : H3Session N}

theorem same (hledger : s'.ledger = s.ledger) (hrole : s'.isServer = s.isServer) : Moves s s' := by
  refine ⟨?_, hrole⟩
  rw [hledger]

theorem refl (s : H3Session N) : Moves s s := same rfl rfl

theorem trans (h : Moves s s') (h' : Moves s' s'') : Moves s s'' := by
  have hpath := h'.path
  rw [h.role] at hpath
  exact ⟨h.path.trans hpath, h'.role.trans h.role⟩

/-- One entry. -/
theorem one (h : Ledger.Step s.isServer s.ledger s'.ledger) (hrole : s'.isServer = s.isServer) :
    Moves s s' := ⟨.single h, hrole⟩

/-- Changes behind the entries that the ledger does not show. -/
theorem andThen (h : Moves s s') (hledger : s''.ledger = s'.ledger)
    (hrole : s''.isServer = s'.isServer) : Moves s s'' := h.trans (same hledger hrole)

theorem foldl {α : Type} {f : H3Session N → α → H3Session N} (hf : ∀ s a, Moves s (f s a))
    (l : List α) (s : H3Session N) : Moves s (l.foldl f s) := by
  induction l generalizing s with
  | nil => exact refl s
  | cons a l ih => exact (hf s a).trans (ih (f s a))

theorem note (s : H3Session N) (call : NgCall) : Moves s (s.note call) := one (.note _ call) rfl

theorem endsOf_push {e : H3Event} (h : e.ends = false) (events : List H3Event) :
    endsOf (events ++ [e]) = endsOf events := by
  unfold endsOf
  rw [List.filterMap_append]
  simp [h]

theorem endsOf_end {e : H3Event} (h : e.ends = true) (events : List H3Event) :
    endsOf (events ++ [e]) = endsOf events ++ [e.sessionId] := by
  unfold endsOf
  rw [List.filterMap_append]
  simp [h]

/-- An event that ends no session is not in the ledger. -/
theorem pushEvent_ledger (s : H3Session N) {e : H3Event} (h : e.ends = false) :
    (s.pushEvent e).ledger = s.ledger := by
  unfold ledger pushEvent
  rw [endsOf_push h]

theorem pushEvent (s : H3Session N) {e : H3Event} (h : e.ends = false) :
    Moves s (s.pushEvent e) := same (pushEvent_ledger s h) rfl

/-! ### Callbacks -/

theorem onStreamCallback (s : H3Session N) (c : StreamCallback) : Moves s (s.onStreamCallback c) := by
  cases c with
  | streamClose streamId appErrorCode =>
      refine one ?_ rfl
      have hledger : (s.onStreamCallback (.streamClose streamId appErrorCode)).ledger =
          { s.ledger with
            books := { s.ledger.books with
              streamInfo := s.ledger.books.streamInfo.erase streamId }
            log := s.ledger.recorded (.callback (.stream (.streamClose streamId appErrorCode))) } :=
        pushEvent_ledger _ rfl
      rw [hledger]
      exact .streamClosed _ streamId appErrorCode
  | stopSending streamId appErrorCode => exact (note s _).andThen (pushEvent_ledger _ rfl) rfl
  | resetStream streamId appErrorCode => exact (note s _).andThen (pushEvent_ledger _ rfl) rfl

/-- `reject_session` -/
theorem rejectSession (s : H3Session N) (streamId status : Int) :
    Moves s (s.rejectSession streamId status) := by
  unfold H3Session.rejectSession
  dsimp only
  split_ifs with hclient hqpack hstatus
  · exact refl s
  · exact refl s
  · exact one (.refused _ streamId status _ hstatus) rfl
  · exact note s _

/-- A server's request headers, together with the line of their callback. -/
theorem onRequestHeaders (s : H3Session N) (streamId : Int) (headers : HeaderList)
    (hrole : s.isServer = true) :
    Moves s ((s.note (.callback (.endHeaders streamId))).onRequestHeaders streamId headers) := by
  have hnote := note s (.callback (.endHeaders streamId))
  unfold H3Session.onRequestHeaders
  split_ifs
  · exact (hnote.trans (rejectSession _ streamId 403)).andThen rfl rfl
  · refine one ?_ rfl
    have hledger : (({ s.note (.callback (.endHeaders streamId)) with
          sessionIds := s.sessionIds.insert streamId
          }).pushEvent { type := .sessionReady, sessionId := streamId, headers := headers }).ledger =
        { s.ledger with
          books := { s.ledger.books with
            sessionIds := s.ledger.books.sessionIds.insert streamId }
          log := s.ledger.recorded (.callback (.endHeaders streamId)) } := pushEvent_ledger _ rfl
    exact hledger ▸ .opened _ _ streamId (.inl ⟨hrole, rfl⟩)
  · have hforget : Moves (s.note (.callback (.endHeaders streamId)))
        { s.note (.callback (.endHeaders streamId)) with
          pendingQpackBlockedFinStreamIds :=
            s.pendingQpackBlockedFinStreamIds.erase streamId } := same rfl rfl
    exact (hnote.trans hforget).trans (rejectSession _ streamId 405)

/-- A client's response headers, together with the line of their callback. -/
theorem onResponseHeaders (s : H3Session N) (streamId : Int) (headers : HeaderList)
    (hrole : s.isServer = false) (hpending : s.pendingHeaders.find? streamId = some headers) :
    Moves s ((s.note (.callback (.endHeaders streamId))).onResponseHeaders streamId headers) := by
  have hnote := note s (.callback (.endHeaders streamId))
  unfold H3Session.onResponseHeaders
  dsimp only
  split_ifs with hempty hsuccess hsession
  · exact hnote
  · refine one ?_ rfl
    have hresponse : s.ledger.books.refusedResponse streamId = true := by
      unfold Books.refusedResponse
      have hfind : s.ledger.books.pendingHeaders.find? streamId = some headers := hpending
      rw [hfind]
      simp [hempty, hsuccess]
    have hledger : ((((s.note (.callback (.endHeaders streamId))).eraseSession streamId).pushEvent
          { type := .sessionRejected, sessionId := streamId,
            statusCode := rejectedStatus (statusOf headers) })).ledger =
        { books := s.ledger.books.eraseSession streamId
          ends := s.ledger.ends ++ [streamId]
          log := s.ledger.recorded (.callback (.endHeaders streamId)) } := by
      unfold ledger H3Session.pushEvent
      rw [endsOf_end rfl]
      rfl
    exact hledger ▸ .rejected _ streamId hrole hresponse
  · have haccepted : Moves (s.note (.callback (.endHeaders streamId)))
        ({ s.note (.callback (.endHeaders streamId)) with
            acceptedSessionIds := s.acceptedSessionIds.insert streamId
            }.forgetPreAcceptSession streamId) := one (.accepted _ streamId hsession) rfl
    exact (hnote.trans haccepted).andThen (pushEvent_ledger _ rfl) rfl
  · exact hnote

theorem onEndHeaders (s : H3Session N) (streamId : Int) :
    Moves s ((s.note (.callback (.endHeaders streamId))).onEndHeaders streamId) := by
  unfold H3Session.onEndHeaders
  cases hpending : (s.note (.callback (.endHeaders streamId))).pendingHeaders.find? streamId with
  | none => exact note s _
  | some headers =>
      have hbranch : Moves s
          (if (s.note (.callback (.endHeaders streamId))).isServer then
            (s.note (.callback (.endHeaders streamId))).onRequestHeaders streamId headers
          else (s.note (.callback (.endHeaders streamId))).onResponseHeaders streamId headers) := by
        split_ifs with hrole
        · exact onRequestHeaders s streamId headers hrole
        · exact onResponseHeaders s streamId headers (Bool.eq_false_iff.2 hrole) hpending
      exact hbranch.trans (one (.headers _ _) rfl)

theorem onRecvWtData (s : H3Session N) (sessionId streamId : Int) (data : Bytes) :
    Moves s (s.onRecvWtData sessionId streamId data) := by
  unfold H3Session.onRecvWtData
  split_ifs with hgone
  · exact refl s
  · have hsession : sessionId ∈ s.ledger.books.sessionIds :=
      Classical.not_not.1 fun hnot => hgone (Or.inl hnot)
    dsimp only
    cases s.streamInfo.find? streamId with
    | some info => exact pushEvent s rfl
    | none =>
        let info : StreamInfo :=
          { streamId := streamId, sessionId := sessionId, isUnidirectional := streamId / 2 % 2 ≠ 0,
            isIncoming := true, isWriteRegistered := false }
        have hregistered : Moves s { s with streamInfo := s.streamInfo.insert streamId info } :=
          one (.registered _ streamId info hsession) rfl
        exact hregistered.trans (pushEvent _ rfl)

/-- A WT_CLOSE_SESSION, together with the line of its callback. -/
theorem onRecvWtCloseSession (s : H3Session N) (sessionId : Int) (code : Nat) (msg : Bytes) :
    Moves s ((s.note (.callback (.recvWtCloseSession sessionId code msg))).onRecvWtCloseSession
      sessionId code msg) := by
  unfold H3Session.onRecvWtCloseSession
  cases hbad : badCloseMessage msg with
  | true =>
      rw [if_pos rfl]
      exact (note s _).andThen rfl rfl
  | false =>
      rw [if_neg Bool.false_ne_true]
      dsimp only
      refine one ?_ ?_
      · have hstep : Ledger.Step s.isServer s.ledger
            { books := (s.ledger.books.eraseSessionStreams sessionId).eraseSession sessionId
              ends := s.ledger.ends ++ [sessionId]
              log := s.ledger.recorded (.callback (.recvWtCloseSession sessionId code msg)) } :=
          .sessionEnded _ _ sessionId (.inr ⟨code, msg, rfl, hbad⟩)
        unfold ledger H3Session.pushEvent
        rw [endsOf_end rfl]
        split_ifs <;> exact hstep
      · split_ifs <;> rfl

theorem onCallback (s : H3Session N) (c : Callback) : Moves s (s.onCallback c) := by
  cases c with
  | stream c => exact onStreamCallback s c
  | recvData streamId data => exact (note s _).andThen (pushEvent_ledger _ rfl) rfl
  | beginHeaders streamId => exact (note s _).trans (one (.headers _ _) rfl)
  | recvHeader streamId name value => exact (note s _).trans (one (.headers _ _) rfl)
  | endHeaders streamId => exact onEndHeaders s streamId
  | endStream streamId =>
      refine (note s (.callback (.endStream streamId))).trans ?_
      simp only [H3Session.onCallback, onEndStream]
      split_ifs
      · exact same rfl rfl
      · exact refl _
  | shutdown id => exact (note s _).andThen (pushEvent_ledger _ rfl) rfl
  | recvSettings2 wtEnabled enableConnectProtocol h3Datagram => exact (note s _).andThen rfl rfl
  | recvWtData sessionId streamId data => exact (note s _).trans (onRecvWtData _ _ _ _)
  | recvWtCloseSession sessionId code msg => exact onRecvWtCloseSession s sessionId code msg

/-- A buffer that is there is replaced or removed. -/
theorem rebuffer {s : H3Session N} {streamId : Int} {buffers : List StreamBuffer}
    (h : s.streamBuffers.find? streamId = some buffers) (gone : Prop) [Decidable gone]
    (buffers' : List StreamBuffer) :
    Moves s { s with
      streamBuffers :=
        if gone then s.streamBuffers.erase streamId
        else s.streamBuffers.insert streamId buffers' } := by
  split_ifs
  · exact one (.unbuffered _ streamId) rfl
  · refine one (.buffered _ streamId buffers' (Or.inr ?_)) rfl
    intro hnone
    have hfind : s.streamBuffers.find? streamId = none := hnone
    rw [h] at hfind
    cases hfind

theorem onWriteCallback (s : H3Session N) (c : WriteCallback) : Moves s (s.onWriteCallback c) := by
  cases c with
  | readData streamId =>
      simp only [H3Session.onWriteCallback, readDataCallback]
      cases hfind : s.streamBuffers.find? streamId with
      | none => exact refl s
      | some buffers => exact rebuffer hfind _ _
  | ackedStreamData streamId datalen =>
      simp only [H3Session.onWriteCallback, onAckedStreamData]
      cases hfind : s.streamBuffers.find? streamId with
      | none => exact refl s
      | some buffers => exact rebuffer hfind _ _

/-! ### Closing -/

theorem foldl_onStreamCallback (s : H3Session N) (callbacks : List StreamCallback) :
    Moves s (callbacks.foldl H3Session.onStreamCallback s) := foldl onStreamCallback callbacks s

theorem callCloseStream (s : H3Session N) (streamId : Int) (errorCode : Nat) :
    Moves s (s.callCloseStream streamId errorCode) := by
  have hnote : Moves s
      { s.note (.closeStream streamId errorCode) with
        conn := (N.closeStream s.conn streamId errorCode).1 } := (note s _).andThen rfl rfl
  exact hnote.trans (foldl_onStreamCallback _ _)

/-- Closing callbacks leave the session ids and the send buffers alone. -/
theorem onStreamCallback_keeps (s : H3Session N) (c : StreamCallback) :
    (s.onStreamCallback c).sessionIds = s.sessionIds ∧
      (s.onStreamCallback c).streamBuffers = s.streamBuffers := by
  cases c <;> exact ⟨rfl, rfl⟩

theorem foldl_onStreamCallback_keeps (callbacks : List StreamCallback) (s : H3Session N) :
    (callbacks.foldl H3Session.onStreamCallback s).sessionIds = s.sessionIds ∧
      (callbacks.foldl H3Session.onStreamCallback s).streamBuffers = s.streamBuffers := by
  induction callbacks generalizing s with
  | nil => exact ⟨rfl, rfl⟩
  | cons c rest ih =>
      rcases ih (s.onStreamCallback c) with ⟨hsessions, hbuffers⟩
      rcases onStreamCallback_keeps s c with ⟨hsessions', hbuffers'⟩
      exact ⟨hsessions.trans hsessions', hbuffers.trans hbuffers'⟩

theorem callCloseStream_keeps (s : H3Session N) (streamId : Int) (errorCode : Nat) :
    (s.callCloseStream streamId errorCode).sessionIds = s.sessionIds ∧
      (s.callCloseStream streamId errorCode).streamBuffers = s.streamBuffers :=
  foldl_onStreamCallback_keeps _ _

/-- Removing the buffers of several streams. -/
theorem eraseBuffers (streamIds : List Int) (s : H3Session N) :
    Moves s { s with streamBuffers := s.streamBuffers.eraseAll streamIds } := by
  induction streamIds generalizing s with
  | nil => exact same rfl rfl
  | cons streamId rest ih =>
      have hone : Moves s { s with streamBuffers := s.streamBuffers.erase streamId } :=
        one (.unbuffered _ streamId) rfl
      exact hone.trans (ih _)

/-- A CONNECT stream is one that the session ids know. -/
theorem closingSession_connect {s : H3Session N} {streamId sessionId : Int}
    (h : s.closingSession streamId = (true, sessionId)) :
    sessionId = streamId ∧ streamId ∈ s.sessionIds := by
  unfold closingSession at h
  dsimp only at h
  split_ifs at h with hfrom hconnect
  · cases h
  · cases h
    exact ⟨rfl, hconnect.2⟩
  · cases h

/-- The end of a session that `close_stream` finds. -/
theorem endSession (s : H3Session N) {sessionId : Int} (hsession : sessionId ∈ s.sessionIds)
    (errorCode : Nat) : Moves s (s.endSession sessionId errorCode) := by
  refine one ?_ rfl
  have hstep : Ledger.Step s.isServer s.ledger
      { s.ledger with
        books := (s.ledger.books.eraseSessionStreams sessionId).eraseSession sessionId
        ends := s.ledger.ends ++ [sessionId] } := .sessionClosed _ sessionId hsession
  unfold ledger H3Session.endSession H3Session.pushEvent
  rw [endsOf_end rfl]
  exact hstep

theorem dropStream_sessionIds (s : H3Session N) (streamId : Int) (errorCode : Nat) :
    (s.dropStream streamId errorCode).sessionIds = s.sessionIds :=
  (callCloseStream_keeps _ streamId errorCode).1

/-- The buffer goes first, then nghttp3 is told, then the stream goes. -/
theorem dropStream (s : H3Session N) (streamId : Int) (errorCode : Nat) :
    Moves s (s.dropStream streamId errorCode) := by
  let s₁ : H3Session N :=
    { s with
      streamBuffers := s.streamBuffers.erase streamId
      shutdownStreamIds := s.shutdownStreamIds.erase streamId }
  have hbuffer : Moves s s₁ := one (.unbuffered _ streamId) rfl
  have hnone : (s₁.callCloseStream streamId errorCode).streamBuffers.find? streamId = none := by
    rw [(callCloseStream_keeps s₁ streamId errorCode).2]
    exact OrdMap.find?_erase_self _ _
  exact (hbuffer.trans (callCloseStream s₁ streamId errorCode)).trans
    (one (.unregistered _ streamId hnone) rfl)

theorem closeStream (s : H3Session N) (streamId : Int) (errorCode : Nat) :
    Moves s (s.closeStream streamId errorCode).1 := by
  have hforget : Moves s (s.forgetStream streamId) := one (.headers _ _) rfl
  unfold H3Session.closeStream
  dsimp only
  cases hclosing : (s.forgetStream streamId).closingSession streamId with
  | mk isConnect sessionId =>
      cases isConnect with
      | false => exact hforget.trans (dropStream _ streamId errorCode)
      | true =>
          rcases closingSession_connect hclosing with ⟨rfl, hsession⟩
          have hbuffers := eraseBuffers ((s.forgetStream sessionId).sessionStreams sessionId)
            (s.forgetStream sessionId)
          refine ((hforget.trans hbuffers).trans (dropStream _ sessionId errorCode)).trans
            (endSession _ ?_ errorCode)
          rw [dropStream_sessionIds]
          exact hsession

theorem discardStale2xx (s : H3Session N) : Moves s s.discardStale2xx := by
  refine (foldl ?_ s.pendingStale2xxDiscardSessionIds.toList s).andThen rfl rfl
  intro s sessionId
  have hforget : Moves s
      { s with
        preAcceptFinAcceptedSessionIds := s.preAcceptFinAcceptedSessionIds.erase sessionId } :=
    same rfl rfl
  exact hforget.trans (closeStream _ sessionId 0)

theorem handleWtCloseSessionError (s : H3Session N) (sessionId : Int) :
    Moves s (s.handleWtCloseSessionError sessionId) := by
  unfold H3Session.handleWtCloseSessionError
  by_cases hsession : sessionId ∉ s.sessionIds
  · rw [if_pos hsession]
    exact refl s
  · rw [if_neg hsession]
    exact (closeStream s sessionId kH3MessageError).trans (pushEvent _ rfl)

/-! ### Receiving -/

theorem enforcePreAcceptBufferLimit (s : H3Session N) (streamId : Int) (length consumed : Nat)
    (fin : Bool) : Moves s (s.enforcePreAcceptBufferLimit streamId length consumed fin) := by
  unfold H3Session.enforcePreAcceptBufferLimit
  dsimp only
  split_ifs
  · exact refl s
  · exact refl s
  · exact refl s
  · exact refl s
  · exact same rfl rfl
  · refine trans ?_ (callCloseStream _ streamId wtBufferedStreamRejected)
    exact same ((pushEvent_ledger _ rfl).trans rfl) rfl
  · refine trans ?_ (callCloseStream _ streamId wtBufferedStreamRejected)
    exact same ((pushEvent_ledger _ rfl).trans rfl) rfl

theorem readFailed (s : H3Session N) (streamId consumed : Int) :
    Moves s (s.readFailed streamId consumed) := by
  have hfirst : Moves s
      (if decide (consumed = N.errH3MessageError ∧ streamId ∈ s.sessionIds) = true then
        s.handleWtCloseSessionError streamId else s) := by
    split_ifs
    · exact handleWtCloseSessionError s streamId
    · exact refl s
  unfold H3Session.readFailed
  dsimp only
  refine hfirst.trans ?_
  generalize (if decide (consumed = N.errH3MessageError ∧ streamId ∈ s.sessionIds) = true then
    s.handleWtCloseSessionError streamId else s) = t
  cases t.pendingWtCloseSessionError with
  | some sessionId =>
      have hreset : Moves t { t with pendingWtCloseSessionError := none } := same rfl rfl
      exact hreset.trans (handleWtCloseSessionError _ sessionId)
  | none =>
      dsimp only
      split_ifs
      · exact refl t
      · exact (pushEvent t rfl).andThen rfl rfl

theorem callReadStream2 (s : H3Session N) (streamId : Int) (data : Bytes) (fin : Bool) :
    Moves s (s.callReadStream2 streamId data fin).1 := by
  have hnote : Moves s
      { s.note (.readStream2 streamId data fin (N.readStream2 s.conn streamId data fin).2.1
          (N.readStream2 s.conn streamId data fin).2.2) with
        conn := (N.readStream2 s.conn streamId data fin).1 } := (note s _).andThen rfl rfl
  exact hnote.trans (foldl onCallback _ _)

theorem readFromNghttp3 (s : H3Session N) (streamId : Int) (data : Bytes) (fin : Bool) :
    Moves s (s.readFromNghttp3 streamId data fin).1 := by
  have hread := callReadStream2 s streamId data fin
  unfold H3Session.readFromNghttp3
  dsimp only
  split_ifs
  · exact same rfl rfl
  · exact refl s
  · exact hread.trans (readFailed _ _ _)
  · exact hread.trans (enforcePreAcceptBufferLimit _ _ _ _ _)

theorem detectFin (s : H3Session N) (streamId : Int) (fin : Bool) :
    Moves s (s.detectFin streamId fin) := by
  unfold H3Session.detectFin
  dsimp only
  split_ifs <;> exact same rfl rfl

theorem migrateBlockedFins (s : H3Session N) : Moves s s.migrateBlockedFins := by
  refine foldl ?_ s.pendingQpackBlockedFinStreamIds.toList s
  intro s streamId
  split_ifs
  · exact same rfl rfl
  · exact refl s

theorem closeFinSessions (s : H3Session N) : Moves s s.closeFinSessions :=
  (foldl (fun s sessionId => closeStream s sessionId 0) s.pendingFinSessionIds.toList s).andThen rfl
    rfl

theorem processAfterRead (s : H3Session N) (streamId : Int) (fin : Bool) :
    Moves s (s.processAfterRead streamId fin) :=
  (((detectFin s streamId fin).trans (migrateBlockedFins _)).trans (closeFinSessions _)).trans
    (discardStale2xx _)

theorem flushHeld (s : H3Session N) (streamId : Int) : Moves s (s.flushHeld streamId) := by
  unfold H3Session.flushHeld
  cases s.headersGuards.find? streamId with
  | none =>
      dsimp only
      split_ifs
      · exact refl s
      · exact refl s
  | some guard =>
      dsimp only
      split_ifs
      · exact refl s
      · exact refl s
      · exact refl s
      · have htaken : Moves s
            { s with
              headersGuards := s.headersGuards.insert streamId
                { guard with heldData := [], heldFin := false } } := same rfl rfl
        exact (htaken.trans (readFromNghttp3 _ _ _ _)).trans (processAfterRead _ _ _)

theorem flushUnblockedHeldData (s : H3Session N) : Moves s s.flushUnblockedHeldData :=
  foldl flushHeld _ s

theorem receiveUnguarded (s : H3Session N) (streamId : Int) (data : Bytes) (fin : Bool) :
    Moves s (s.receiveUnguarded streamId data fin).1 :=
  ((readFromNghttp3 s streamId data fin).trans (processAfterRead _ _ _)).trans
    (flushUnblockedHeldData _)

theorem receiveGuarded (s : H3Session N) (streamId : Int) (data : Bytes) (fin : Bool) :
    Moves s (s.receiveGuarded streamId data fin).1 := by
  unfold H3Session.receiveGuarded
  dsimp only
  generalize ((s.headersGuards.find? streamId).getD {}).takeData
    (s.pendingHeaders.find? streamId).isSome data fin = taken
  have hguard : Moves s { s with headersGuards := s.headersGuards.insert streamId taken.1 } :=
    same rfl rfl
  cases taken.2 with
  | park => exact hguard.trans (processAfterRead _ _ _)
  | hold => exact (hguard.trans (processAfterRead _ _ _)).trans (flushUnblockedHeldData _)
  | forward bytes forwardFin =>
      dsimp only
      refine (hguard.trans ?_).trans ((processAfterRead _ _ _).trans (flushUnblockedHeldData _))
      split_ifs
      · exact readFromNghttp3 _ _ _ _
      · exact refl _

theorem receiveStreamData (s : H3Session N) (streamId : Int) (data : Bytes) (fin : Bool) :
    Moves s (s.step (.receiveStreamData streamId data fin)) := by
  simp only [step, H3Session.receiveStreamData]
  split_ifs
  · exact refl s
  · exact refl s
  · exact refl s
  · exact same rfl rfl
  · exact refl s
  · exact receiveUnguarded s streamId data fin
  · exact receiveGuarded s streamId data fin

theorem receiveDatagram (s : H3Session N) (data : Bytes) : Moves s (s.receiveDatagram data) := by
  unfold H3Session.receiveDatagram
  dsimp only
  split_ifs
  · exact refl s
  · exact refl s
  · exact pushEvent s rfl
  · exact refl s
  · exact pushEvent s rfl

/-! ### Sending -/

theorem foldl_onWriteCallback (s : H3Session N) (conn : N.Conn) (callbacks : List WriteCallback) :
    Moves s (callbacks.foldl H3Session.onWriteCallback { s with conn := conn }) := by
  have hconn : Moves s { s with conn := conn } := same rfl rfl
  exact hconn.trans (foldl onWriteCallback callbacks _)

theorem writeLoop (iterations : Nat) (s : H3Session N) (result : List (Int × Bytes × Bool)) :
    Moves s (writeLoop iterations s result).1 := by
  induction iterations generalizing s result with
  | zero => exact refl s
  | succ iterations ih =>
      have hwritten := foldl_onWriteCallback s (N.writevStream s.conn).1
        (N.writevStream s.conn).2.1
      unfold H3Session.writeLoop
      dsimp only
      split_ifs
      · exact hwritten.andThen (pushEvent_ledger _ rfl) rfl
      · exact hwritten
      · exact hwritten
      · exact (hwritten.trans (foldl_onWriteCallback _ _ _)).trans (ih _ _)

theorem closeFlushed (s : H3Session N) (sessionId : Int) : Moves s (s.closeFlushed sessionId) := by
  unfold H3Session.closeFlushed
  dsimp only
  split_ifs
  · have hnote := note s (.isStreamFlushed sessionId (N.isStreamFlushed s.conn sessionId))
    have hforget : Moves s
        { s.note (.isStreamFlushed sessionId (N.isStreamFlushed s.conn sessionId)) with
          preAcceptFinAcceptedSessionIds := s.preAcceptFinAcceptedSessionIds.erase sessionId } :=
      hnote.andThen rfl rfl
    exact hforget.trans (closeStream _ sessionId 0)
  · exact note s _

theorem getStreamsToSend (s : H3Session N) : Moves s s.getStreamsToSend.1 := by
  unfold H3Session.getStreamsToSend
  split_ifs
  · exact refl s
  · exact (writeLoop 1024 s []).trans (foldl closeFlushed _ _)

/-! ### The API -/

theorem connect (s : H3Session N) (streamId : Int) (url origin : Bytes) :
    Moves s (s.connect streamId url origin).1 := by
  unfold H3Session.connect
  cases parseAuthorityPath url with
  | none =>
      dsimp only
      split_ifs <;> exact refl s
  | some target =>
      dsimp only
      split_ifs with hserver hqpack hid hrv
      · exact refl s
      · exact refl s
      · exact refl s
      · exact (note s _).andThen rfl rfl
      · have hzero := Classical.not_not.1 hrv
        refine one (.opened _ _ streamId
          (.inr ⟨connectHeaders target.1 target.2 origin, ?_⟩)) rfl
        rw [hzero]

theorem callConfirm (s : H3Session N) (streamId : Int) : Moves s (s.callConfirm streamId).1 := by
  let s₁ : H3Session N :=
    { s.note (.serverConfirmWtSession streamId (N.serverConfirmWtSession s.conn streamId).2.1
        (N.serverConfirmWtSession s.conn streamId).2.2) with
      conn := (N.serverConfirmWtSession s.conn streamId).1, acceptingSessionId := streamId }
  have hnote : Moves s s₁ := (note s _).andThen rfl rfl
  exact (hnote.trans (foldl onCallback _ s₁)).andThen rfl rfl

theorem confirmFailed (s : H3Session N) (streamId rv : Int) (finDetected : Bool) :
    Moves s (s.confirmFailed streamId rv finDetected) := by
  unfold H3Session.confirmFailed
  dsimp only
  refine trans ?_ (discardStale2xx _)
  have hback : Moves s
      (if finDetected = true then
        { s with
          preAcceptFinAcceptedSessionIds := s.preAcceptFinAcceptedSessionIds.erase streamId
          pendingPreAcceptFinSessionIds := s.pendingPreAcceptFinSessionIds.insert streamId }
      else s) := by
    split_ifs
    · exact same rfl rfl
    · exact refl s
  refine hback.trans ?_
  generalize (if finDetected = true then
    { s with
      preAcceptFinAcceptedSessionIds := s.preAcceptFinAcceptedSessionIds.erase streamId
      pendingPreAcceptFinSessionIds := s.pendingPreAcceptFinSessionIds.insert streamId }
    else s) = t
  split_ifs
  · have hreset : Moves t { t with pendingWtCloseSessionError := none } := same rfl rfl
    exact hreset.trans (handleWtCloseSessionError _ _)
  · exact refl t

theorem takeOverFin (s : H3Session N) (streamId : Int) : Moves s (s.takeOverFin streamId) := by
  unfold H3Session.takeOverFin
  split_ifs
  · exact same rfl rfl
  · exact refl s

theorem markAccepted (s : H3Session N) (streamId : Int) : Moves s (s.markAccepted streamId) := by
  unfold H3Session.markAccepted
  split_ifs with hlive
  · exact one (.accepted _ streamId hlive) rfl
  · exact same rfl rfl

theorem confirmAccepted (s : H3Session N) (streamId : Int) :
    Moves s (s.confirmAccepted streamId).1 := by
  have hconfirm := (takeOverFin s streamId).trans (callConfirm _ streamId)
  unfold H3Session.confirmAccepted
  dsimp only
  split_ifs
  · exact hconfirm.trans (confirmFailed _ _ _ _)
  · exact (hconfirm.trans (discardStale2xx _)).trans (markAccepted _ streamId)

theorem acceptSession (s : H3Session N) (streamId : Int) :
    Moves s (s.acceptSession streamId).1 := by
  have hsubmit : Moves s
      { s.note (.submitWtResponse streamId acceptHeaders
          (N.submitWtResponse s.conn streamId acceptHeaders).2) with
        conn := (N.submitWtResponse s.conn streamId acceptHeaders).1 } := (note s _).andThen rfl rfl
  unfold H3Session.acceptSession
  dsimp only
  split_ifs
  · exact refl s
  · exact refl s
  · exact hsubmit
  · exact hsubmit.trans (confirmAccepted _ streamId)
  · exact refl s

theorem openStream (s : H3Session N) (sessionId streamId : Int) (isUnidirectional : Bool) :
    Moves s (s.openStream sessionId streamId isUnidirectional).1 := by
  unfold H3Session.openStream
  by_cases hactive : (!s.isActiveSession sessionId) = true
  · rw [if_pos hactive]
    split_ifs <;> exact refl s
  rw [if_neg hactive]
  have hsession : sessionId ∈ s.sessionIds := by
    have htrue : s.isActiveSession sessionId = true := by simpa using hactive
    unfold isActiveSession at htrue
    simp only [Bool.and_eq_true, decide_eq_true_eq] at htrue
    exact htrue.1.1
  have hopen : Moves s
      { s.note (.openWtDataStream sessionId streamId
          (N.openWtDataStream s.conn sessionId streamId).2) with
        conn := (N.openWtDataStream s.conn sessionId streamId).1 } := (note s _).andThen rfl rfl
  dsimp only
  split_ifs
  all_goals first
    | exact refl s
    | exact hopen
    | exact hopen.trans (one (.registered _ streamId _ hsession) rfl)

theorem queueStreamData {s : H3Session N} {streamId : Int} {info : StreamInfo}
    (hfind : s.streamInfo.find? streamId = some info) (data : Bytes) (fin : Bool) :
    Moves s (s.queueStreamData streamId data fin) := by
  have hqueued : Moves s
      { s with
        streamBuffers := s.streamBuffers.insert streamId
          ((s.streamBuffers.find? streamId).getD [] ++
            [({ data := data, fin := fin } : StreamBuffer)]) } := by
    refine one (.buffered _ streamId _ (Or.inl ?_)) rfl
    intro hnone
    have hgone : s.streamInfo.find? streamId = none := hnone
    rw [hfind] at hgone
    cases hgone
  exact hqueued.trans (note _ _)

theorem sendStreamData (s : H3Session N) (streamId : Int) (data : Bytes) (fin : Bool) :
    Moves s (s.sendStreamData streamId data fin) := by
  unfold H3Session.sendStreamData
  split_ifs
  · exact refl s
  · cases hfind : s.streamInfo.find? streamId with
    | none => exact refl s
    | some info =>
        dsimp only
        split_ifs
        · exact queueStreamData hfind data fin
        · exact refl s
        · exact (note s _).andThen rfl rfl
        · have hopen : Moves s
              { s.note (.openWtDataStream info.sessionId streamId
                  (N.openWtDataStream s.conn info.sessionId streamId).2) with
                conn := (N.openWtDataStream s.conn info.sessionId streamId).1
                streamInfo := s.streamInfo.insert streamId
                  { info with isWriteRegistered := true } } :=
            (note s _).trans (one (.marked _ streamId info _ hfind rfl) rfl)
          exact hopen.trans (queueStreamData (OrdMap.find?_insert_self _ _ _) data fin)

theorem closeSession (s : H3Session N) (sessionId : Int) (errorCode : Nat) (message : Bytes) :
    Moves s (s.closeSession sessionId errorCode message) := by
  unfold H3Session.closeSession
  dsimp only
  have hfired : Moves s ((N.closeWtSession s.conn sessionId (errorCode % 2 ^ 32)
      (trimmedMessage message)).2.1.foldl H3Session.onStreamCallback
      { s with conn := (N.closeWtSession s.conn sessionId (errorCode % 2 ^ 32)
        (trimmedMessage message)).1 }) := by
    have hconn : Moves s { s with conn := (N.closeWtSession s.conn sessionId (errorCode % 2 ^ 32)
        (trimmedMessage message)).1 } := same rfl rfl
    exact hconn.trans (foldl_onStreamCallback _ _)
  refine hfired.trans ?_
  generalize (N.closeWtSession s.conn sessionId (errorCode % 2 ^ 32)
      (trimmedMessage message)).2.1.foldl H3Session.onStreamCallback
      { s with conn := (N.closeWtSession s.conn sessionId (errorCode % 2 ^ 32)
        (trimmedMessage message)).1 } = t
  generalize (N.closeWtSession s.conn sessionId (errorCode % 2 ^ 32)
    (trimmedMessage message)).2.2 = rv
  split_ifs with hrv
  · exact note t _
  · have hzero : rv = 0 := Classical.not_not.1 hrv
    refine one ?_ rfl
    have hstep : Ledger.Step t.isServer t.ledger
        { books := (t.ledger.books.eraseSessionStreams sessionId).eraseSession sessionId
          ends := t.ledger.ends ++ [sessionId]
          log := t.ledger.recorded (.closeWtSession sessionId (errorCode % 2 ^ 32)
            (trimmedMessage message) rv) } :=
      .sessionEnded _ _ sessionId (.inl ⟨_, _, by rw [hzero]⟩)
    unfold ledger H3Session.pushEvent
    rw [endsOf_end rfl]
    exact hstep

/-- An API call is a sequence of entries in the books, whatever nghttp3 answers. -/
theorem step (s : H3Session N) (input : Input) : Moves s (s.step input) := by
  cases input with
  | receiveStreamData streamId data fin => exact receiveStreamData s streamId data fin
  | receiveDatagram data => exact receiveDatagram s data
  | getStreamsToSend => exact getStreamsToSend s
  | getDatagramsToSend => exact same rfl rfl
  | bindControlStream streamId =>
      simp only [H3Session.step, bindControlStream]
      split_ifs <;> exact same rfl rfl
  | bindQpackEncoderStream streamId =>
      simp only [H3Session.step, bindQpackEncoderStream]
      split_ifs <;> exact same rfl rfl
  | bindQpackDecoderStream streamId =>
      simp only [H3Session.step, bindQpackDecoderStream]
      split_ifs <;> exact same rfl rfl
  | connect streamId url origin => exact connect s streamId url origin
  | acceptSession streamId => exact acceptSession s streamId
  | rejectSession streamId status => exact rejectSession s streamId status
  | openStream sessionId streamId isUnidirectional =>
      exact openStream s sessionId streamId isUnidirectional
  | sendStreamData streamId data fin => exact sendStreamData s streamId data fin
  | sendDatagram sessionId data =>
      simp only [H3Session.step, sendDatagram]
      split_ifs
      · exact refl s
      · exact same rfl rfl
  | closeStream streamId errorCode => exact closeStream s streamId errorCode
  | resetStream streamId errorCode =>
      simp only [H3Session.step, resetStream]
      cases s.mapSendErrorCode streamId errorCode with
      | error message => exact refl s
      | ok wireErrorCode => exact closeStream s streamId wireErrorCode
  | shutdownStreamWrite streamId =>
      simp only [H3Session.step, shutdownStreamWrite]
      split_ifs
      · exact refl s
      · exact (note s _).andThen rfl rfl
  | closeSession sessionId errorCode message => exact closeSession s sessionId errorCode message
  | nextEvent =>
      simp only [H3Session.step, nextEvent]
      cases s.events <;> exact same rfl rfl

/-- A run is a sequence of entries in the books. -/
theorem run (s : H3Session N) (inputs : List Input) : Moves s (s.run inputs) :=
  foldl step inputs s

end Moves

end H3Session

end H3
end WebTransport
