import WebTransport.H3.Session

/-!
# H3.Lanes — one stream seen through a whole session object

What `receive_stream_data` does for one stream is mixed with everything else the session does: it
reads other streams, closes sessions, flushes what other guards hold.  The *lane* of a stream is
what concerns its bytes: the reads that nghttp3 got, its guard, and whether its header block is
still being received.

* `Aside`        : an operation that leaves the lane of a stream alone, or closes the stream;
* `Aside.*`      : so do all operations that are not about the stream;
* `Aside.step`   : and all API calls but `receive_stream_data`.
-/

namespace WebTransport
namespace H3

open Bindings

/-! ## Lanes -/

/-- A read of the stream: the bytes, the FIN, and whether its header block was being received. -/
def readOf (streamId : Int) : NgCall × Books → Option (Bytes × Bool × Bool)
  | (.readStream2 id data fin _ _, books) =>
      if id = streamId then some (data, fin, (books.pendingHeaders.find? streamId).isSome) else none
  | _ => none

/-- `nghttp3_conn_close_stream` on the stream -/
def NgCall.closes (streamId : Int) : NgCall → Bool
  | .closeStream id _ => id = streamId
  | _ => false

/-- The stream whose header block a callback is about. -/
def Callback.headersOf : Callback → Option Int
  | .beginHeaders streamId => some streamId
  | .recvHeader streamId _ _ => some streamId
  | .endHeaders streamId => some streamId
  | _ => none

/-- Where nghttp3 receives header blocks: while it reads a client-initiated bidirectional stream only
that of the stream itself, as a blocked stream is unblocked by the QPACK encoder stream, and none
while it confirms a session.  All other callbacks may fire anywhere. -/
structure Nghttp3.HeadersInPlace (N : Nghttp3) : Prop where
  reads : ∀ conn id data fin, id % 4 = 0 → ∀ c ∈ (N.readStream2 conn id data fin).2.1,
    ∀ streamId, c.headersOf = some streamId → streamId = id
  confirms : ∀ conn id, ∀ c ∈ (N.serverConfirmWtSession conn id).2.1, c.headersOf = none

/-- What concerns the bytes of one stream. -/
structure Lane where
  reads : List (Bytes × Bool × Bool)
  guard : Option HeadersFrameGuard
  blocked : Bool
  refused : Bool

/-- The lane is as before, up to the header block if it is `free`. -/
structure Lane.Stays (free : Prop) (l l' : Lane) : Prop where
  reads : l'.reads = l.reads
  guard : l'.guard = l.guard
  blocked : free ∨ l'.blocked = l.blocked
  refused : l'.refused = true → l.refused = true

theorem Lane.Stays.refl (free : Prop) (l : Lane) : Lane.Stays free l l :=
  ⟨rfl, rfl, .inr rfl, id⟩

theorem Lane.Stays.trans {free : Prop} {l l' l'' : Lane} (h : Lane.Stays free l l')
    (h' : Lane.Stays free l' l'') : Lane.Stays free l l'' where
  reads := h'.reads.trans h.reads
  guard := h'.guard.trans h.guard
  blocked := by
    rcases h.blocked with hfree | hblocked
    · exact .inl hfree
    · rcases h'.blocked with hfree | hblocked'
      · exact .inl hfree
      · exact .inr (hblocked'.trans hblocked)
  refused href := h.refused (h'.refused href)

namespace H3Session

variable {N : Nghttp3}

/-- The lane of a stream. -/
def lane (s : H3Session N) (streamId : Int) : Lane where
  reads := s.ngLog.filterMap (readOf streamId)
  guard := s.headersGuards.find? streamId
  blocked := (s.pendingHeaders.find? streamId).isSome
  refused := decide (streamId ∈ s.rejectedPreAcceptStreamIds)

/-- The session object closed the stream. -/
def isCut (s : H3Session N) (streamId : Int) : Bool := s.ngLog.any fun e => e.1.closes streamId

/-- The bound streams are unidirectional, and only client-initiated bidirectional streams have a
guard. -/
structure Tidy (s : H3Session N) : Prop where
  control : s.controlStreamId % 4 ≠ 0
  encoder : s.qpackEncoderStreamId % 4 ≠ 0
  decoder : s.qpackDecoderStreamId % 4 ≠ 0
  guards : ∀ streamId, streamId % 4 ≠ 0 → s.headersGuards.find? streamId = none

/-- What only grows, or stays. -/
structure Grows (streamId : Int) (s s' : H3Session N) : Prop where
  cut : s.isCut streamId = true → s'.isCut streamId = true
  closed : s.closed = true → s'.closed = true
  tidy : s.Tidy → s'.Tidy

/-- An operation that leaves the lane of the stream alone, or closes the stream. -/
structure Aside (streamId : Int) (free : Prop) (s s' : H3Session N) : Prop
    extends Grows streamId s s' where
  lane : s'.isCut streamId = true ∨ Lane.Stays free (s.lane streamId) (s'.lane streamId)

variable {streamId : Int} {free : Prop} {s s' s'' : H3Session N}

theorem Grows.refl (s : H3Session N) : Grows streamId s s := ⟨id, id, id⟩

theorem Grows.trans (h : Grows streamId s s') (h' : Grows streamId s' s'') :
    Grows streamId s s'' :=
  ⟨fun hcut => h'.cut (h.cut hcut), fun hclosed => h'.closed (h.closed hclosed),
    fun htidy => h'.tidy (h.tidy htidy)⟩

namespace Aside

/-- What a lane is made of. -/
def parts (s : H3Session N) :=
  (s.ngLog, s.closed, s.headersGuards, s.pendingHeaders, s.rejectedPreAcceptStreamIds,
    s.controlStreamId, s.qpackEncoderStreamId, s.qpackDecoderStreamId)

/-- Changes that no lane shows. -/
theorem same (h : parts s' = parts s) : Aside streamId free s s' := by
  simp only [parts, Prod.mk.injEq] at h
  rcases h with ⟨hlog, hclosed, hguards, hheaders, hrejected, hcontrol, hencoder, hdecoder⟩
  refine ⟨⟨?_, ?_, ?_⟩, .inr ?_⟩
  · intro hcut
    simpa only [isCut, hlog] using hcut
  · intro hopen
    rw [hclosed, hopen]
  · intro htidy
    refine ⟨?_, ?_, ?_, ?_⟩
    · simpa only [hcontrol] using htidy.control
    · simpa only [hencoder] using htidy.encoder
    · simpa only [hdecoder] using htidy.decoder
    · simpa only [hguards] using htidy.guards
  · have hlane : s'.lane streamId = s.lane streamId := by
      simp only [H3Session.lane, hlog, hguards, hheaders, hrejected]
    rw [hlane]
    exact .refl free _

theorem refl (s : H3Session N) : Aside streamId free s s := same rfl

theorem trans (h : Aside streamId free s s') (h' : Aside streamId free s' s'') :
    Aside streamId free s s'' := by
  refine ⟨h.toGrows.trans h'.toGrows, ?_⟩
  rcases h'.lane with hcut | hstays'
  · exact .inl hcut
  · rcases h.lane with hcut | hstays
    · exact .inl (h'.cut hcut)
    · exact .inr (hstays.trans hstays')

theorem andThen (h : Aside streamId free s s') (hparts : parts s'' = parts s') :
    Aside streamId free s s'' := h.trans (same hparts)

/-- The stream is closed. -/
theorem ofCut (h : Grows streamId s s') (hcut : s'.isCut streamId = true) :
    Aside streamId free s s' := ⟨h, .inl hcut⟩

theorem foldl {α : Type} {f : H3Session N → α → H3Session N}
    (hf : ∀ s a, Aside streamId free s (f s a)) (l : List α) (s : H3Session N) :
    Aside streamId free s (l.foldl f s) := by
  induction l generalizing s with
  | nil => exact refl s
  | cons a l ih => exact (hf s a).trans (ih (f s a))

/-! ## Entries of the lane -/

theorem isCut_note (s : H3Session N) (call : NgCall) (streamId : Int) :
    (s.note call).isCut streamId = (s.isCut streamId || call.closes streamId) := by
  simp [isCut, H3Session.note]

theorem grows_note (s : H3Session N) (call : NgCall) : Grows streamId s (s.note call) := by
  refine ⟨?_, id, fun htidy => ⟨htidy.control, htidy.encoder, htidy.decoder, htidy.guards⟩⟩
  intro hcut
  rw [isCut_note, hcut, Bool.true_or]

/-- A line of the record that is not about the stream. -/
theorem note (s : H3Session N) {call : NgCall} (h : readOf streamId (call, s.toBooks) = none) :
    Aside streamId free s (s.note call) := by
  refine ⟨grows_note s call, .inr ⟨?_, rfl, .inr rfl, id⟩⟩
  simp [H3Session.lane, H3Session.note, h]

/-- The header block of a stream begins, goes on or ends. -/
theorem pendingHeaders (s : H3Session N) (pendingHeaders : OrdMap Int HeaderList)
    (h : free ∨ (pendingHeaders.find? streamId).isSome = (s.pendingHeaders.find? streamId).isSome) :
    Aside streamId free s { s with pendingHeaders := pendingHeaders } :=
  ⟨⟨id, id, fun htidy => ⟨htidy.control, htidy.encoder, htidy.decoder, htidy.guards⟩⟩,
    .inr ⟨rfl, rfl, h, id⟩⟩

/-- The guard of another stream. -/
theorem insertGuard (s : H3Session N) {id : Int} (guard : HeadersFrameGuard) (hother : id ≠ streamId)
    (hbidi : id % 4 = 0) :
    Aside streamId free s { s with headersGuards := s.headersGuards.insert id guard } := by
  refine ⟨⟨fun h => h, fun h => h, ?_⟩, .inr ⟨rfl, ?_, .inr rfl, fun h => h⟩⟩
  · intro htidy
    refine ⟨htidy.control, htidy.encoder, htidy.decoder, ?_⟩
    intro id' hid'
    have hne : id' ≠ id := by
      rintro rfl
      exact hid' hbidi
    exact (OrdMap.find?_insert_ne _ _ hne).trans (htidy.guards id' hid')
  · exact OrdMap.find?_insert_ne _ _ (Ne.symm hother)

theorem eraseGuard (s : H3Session N) (id : Int) :
    Grows streamId s { s with headersGuards := s.headersGuards.erase id } := by
  refine ⟨fun h => h, fun h => h, ?_⟩
  intro htidy
  refine ⟨htidy.control, htidy.encoder, htidy.decoder, ?_⟩
  intro id' hid'
  have hnone := htidy.guards id' hid'
  change (s.headersGuards.erase id).find? id' = none
  rw [OrdMap.find?_erase]
  split_ifs
  · rfl
  · exact hnone

/-- The connection fails. -/
theorem close (s : H3Session N) : Aside streamId free s { s with closed := true } :=
  ⟨⟨id, fun _ => rfl, fun htidy => ⟨htidy.control, htidy.encoder, htidy.decoder, htidy.guards⟩⟩,
    .inr (.refl free _)⟩

/-! ## Closing streams -/

theorem onStreamCallback (s : H3Session N) (c : StreamCallback) :
    Aside streamId free s (s.onStreamCallback c) := by
  have hnote : Aside streamId free s (s.note (.callback (.stream c))) := note s rfl
  cases c with
  | streamClose id appErrorCode => exact hnote.andThen rfl
  | stopSending id appErrorCode => exact hnote.andThen rfl
  | resetStream id appErrorCode => exact hnote.andThen rfl

theorem foldl_onStreamCallback (s : H3Session N) (callbacks : List StreamCallback) :
    Aside streamId free s (callbacks.foldl H3Session.onStreamCallback s) :=
  foldl onStreamCallback callbacks s

theorem callCloseStream (s : H3Session N) (id : Int) (errorCode : Nat) :
    Aside streamId free s (s.callCloseStream id errorCode) := by
  have hnote : Aside streamId free s (s.note (.closeStream id errorCode)) := note s rfl
  have hconn : Aside streamId free s
      { s.note (.closeStream id errorCode) with conn := (N.closeStream s.conn id errorCode).1 } :=
    hnote.andThen rfl
  exact hconn.trans (foldl_onStreamCallback _ _)

/-- Behind `nghttp3_conn_close_stream` the stream is closed for good. -/
theorem callCloseStream_isCut (s : H3Session N) (streamId : Int) (errorCode : Nat) :
    (s.callCloseStream streamId errorCode).isCut streamId = true := by
  let s₁ : H3Session N :=
    { s.note (.closeStream streamId errorCode) with
      conn := (N.closeStream s.conn streamId errorCode).1 }
  have hcut : s₁.isCut streamId = true := by
    simp [s₁, isCut, H3Session.note, NgCall.closes]
  have hfired : Aside streamId True s₁ (s.callCloseStream streamId errorCode) :=
    foldl_onStreamCallback s₁ _
  exact hfired.cut hcut

theorem grows_forgetStream (s : H3Session N) (id : Int) : Grows streamId s (s.forgetStream id) := by
  have hguard : Grows streamId s { s with headersGuards := s.headersGuards.erase id } :=
    eraseGuard s id
  exact ⟨hguard.cut, hguard.closed, fun htidy =>
    ⟨htidy.control, htidy.encoder, htidy.decoder, (hguard.tidy htidy).guards⟩⟩

theorem forgetStream (s : H3Session N) {id : Int} (hother : id ≠ streamId) :
    Aside streamId free s (s.forgetStream id) := by
  refine ⟨grows_forgetStream s id, .inr ⟨rfl, ?_, .inr ?_, fun h => h⟩⟩
  · exact OrdMap.find?_erase_ne _ (Ne.symm hother)
  · exact congrArg Option.isSome (OrdMap.find?_erase_ne _ (Ne.symm hother))

theorem dropStream (s : H3Session N) (id : Int) (errorCode : Nat) :
    Aside streamId free s (s.dropStream id errorCode) := by
  let s₁ : H3Session N :=
    { s with
      streamBuffers := s.streamBuffers.erase id
      shutdownStreamIds := s.shutdownStreamIds.erase id }
  have hfirst : Aside streamId free s s₁ := same rfl
  exact (hfirst.trans (callCloseStream s₁ id errorCode)).andThen rfl

theorem dropStream_isCut (s : H3Session N) (streamId : Int) (errorCode : Nat) :
    (s.dropStream streamId errorCode).isCut streamId = true :=
  callCloseStream_isCut _ streamId errorCode

/-- `close_stream` removes the records of the stream, then drops it. -/
theorem closeStream_drops (s : H3Session N) (id : Int) (errorCode : Nat) :
    ∃ s₁, Aside streamId free (s.forgetStream id) s₁ ∧
      Aside streamId free (s₁.dropStream id errorCode) (s.closeStream id errorCode).1 := by
  unfold H3Session.closeStream
  dsimp only
  cases (s.forgetStream id).closingSession id with
  | mk isConnect sessionId =>
      cases isConnect with
      | false => exact ⟨s.forgetStream id, refl _, refl _⟩
      | true =>
          let s₁ : H3Session N :=
            { s.forgetStream id with
              streamBuffers := (s.forgetStream id).streamBuffers.eraseAll
                ((s.forgetStream id).sessionStreams sessionId) }
          exact ⟨s₁, same rfl, same rfl⟩

theorem closeStream (s : H3Session N) (id : Int) (errorCode : Nat) :
    Aside streamId free s (s.closeStream id errorCode).1 := by
  have hdrops : ∃ s₁, Aside streamId free (s.forgetStream id) s₁ ∧
      Aside streamId free (s₁.dropStream id errorCode) (s.closeStream id errorCode).1 :=
    closeStream_drops s id errorCode
  rcases hdrops with ⟨s₁, hbefore, hafter⟩
  by_cases hsame : id = streamId
  · -- The stream itself: its guard goes, and the record says that it was closed.
    subst hsame
    refine ofCut ?_ (hafter.cut (dropStream_isCut s₁ id errorCode))
    have hdrop : Aside id free s₁ (s₁.dropStream id errorCode) := dropStream s₁ id errorCode
    exact ((grows_forgetStream s id).trans hbefore.toGrows).trans
      (hdrop.toGrows.trans hafter.toGrows)
  · exact (((forgetStream s hsame).trans hbefore).trans (dropStream s₁ id errorCode)).trans hafter

theorem discardStale2xx (s : H3Session N) : Aside streamId free s s.discardStale2xx := by
  refine (foldl ?_ s.pendingStale2xxDiscardSessionIds.toList s).andThen rfl
  intro s sessionId
  have hforget : Aside streamId free s
      { s with
        preAcceptFinAcceptedSessionIds := s.preAcceptFinAcceptedSessionIds.erase sessionId } :=
    same rfl
  exact hforget.trans (closeStream _ sessionId 0)

theorem handleWtCloseSessionError (s : H3Session N) (sessionId : Int) :
    Aside streamId free s (s.handleWtCloseSessionError sessionId) := by
  unfold H3Session.handleWtCloseSessionError
  by_cases hsession : sessionId ∉ s.sessionIds
  · rw [if_pos hsession]
    exact refl s
  · rw [if_neg hsession]
    exact (closeStream s sessionId kH3MessageError).andThen rfl

/-! ## Header callbacks -/

theorem rejectSession (s : H3Session N) (id status : Int) :
    Aside streamId free s (s.rejectSession id status) := by
  have hnote : Aside streamId free s (s.note (.submitResponse id status (rejectHeaders status))) :=
    note s rfl
  unfold H3Session.rejectSession
  dsimp only
  split_ifs
  · exact refl s
  · exact refl s
  · exact hnote.andThen rfl
  · exact hnote

theorem onRequestHeaders (s : H3Session N) (id : Int) (headers : HeaderList) :
    Aside streamId free s (s.onRequestHeaders id headers) := by
  unfold H3Session.onRequestHeaders
  split_ifs
  · exact (rejectSession s id 403).andThen rfl
  · exact same rfl
  · have hforget : Aside streamId free s
        { s with
          pendingQpackBlockedFinStreamIds := s.pendingQpackBlockedFinStreamIds.erase id } :=
      same rfl
    exact hforget.trans (rejectSession _ id 405)

theorem onResponseHeaders (s : H3Session N) (id : Int) (headers : HeaderList) :
    Aside streamId free s (s.onResponseHeaders id headers) := by
  unfold H3Session.onResponseHeaders
  dsimp only
  split_ifs <;> exact same rfl

theorem onRecvWtData (s : H3Session N) (sessionId id : Int) (data : Bytes) :
    Aside streamId free s (s.onRecvWtData sessionId id data) := by
  unfold H3Session.onRecvWtData
  split_ifs
  · exact refl s
  · cases s.streamInfo.find? id with
    | none => exact same rfl
    | some info => exact same rfl

theorem onRecvWtCloseSession (s : H3Session N) (sessionId : Int) (wtErrorCode : Nat) (msg : Bytes) :
    Aside streamId free s (s.onRecvWtCloseSession sessionId wtErrorCode msg) := by
  unfold H3Session.onRecvWtCloseSession
  dsimp only
  split_ifs <;> exact same rfl

/-- Of all callbacks only those of a header block change a lane: that of the stream they name. -/
theorem onCallback (s : H3Session N) {c : Callback}
    (hfree : ∀ id, c.headersOf = some id → id = streamId → free) :
    Aside streamId free s (s.onCallback c) := by
  have hinsert (t : H3Session N) {id : Int} (hfree : id = streamId → free) (headers : HeaderList) :
      free ∨ ((t.pendingHeaders.insert id headers).find? streamId).isSome =
        (t.pendingHeaders.find? streamId).isSome := by
    by_cases hsame : id = streamId
    · exact .inl (hfree hsame)
    · exact .inr (congrArg Option.isSome (OrdMap.find?_insert_ne _ _ (Ne.symm hsame)))
  have herase (t : H3Session N) {id : Int} (hfree : id = streamId → free) : free ∨
      ((t.pendingHeaders.erase id).find? streamId).isSome =
        (t.pendingHeaders.find? streamId).isSome := by
    by_cases hsame : id = streamId
    · exact .inl (hfree hsame)
    · exact .inr (congrArg Option.isSome (OrdMap.find?_erase_ne _ (Ne.symm hsame)))
  -- Every callback is noted first, and a note changes no lane.
  have hnote (callback : Callback) : Aside streamId free s (s.note (.callback callback)) := note s rfl
  cases c with
  | beginHeaders id => exact (hnote _).trans (pendingHeaders _ _ (hinsert _ (hfree id rfl) _))
  | recvHeader id name value =>
      exact (hnote _).trans (pendingHeaders _ _ (hinsert _ (hfree id rfl) _))
  | endHeaders id =>
      refine (hnote (.endHeaders id)).trans ?_
      simp only [H3Session.onCallback, H3Session.onEndHeaders]
      cases (s.note (.callback (.endHeaders id))).pendingHeaders.find? id with
      | none => exact refl _
      | some headers =>
          dsimp only
          refine trans ?_ (pendingHeaders _ _ (herase _ (hfree id rfl)))
          split_ifs
          · exact onRequestHeaders _ id headers
          · exact onResponseHeaders _ id headers
  | stream c => exact onStreamCallback s c
  | recvData id data => exact (hnote _).andThen rfl
  | endStream id =>
      refine (hnote (.endStream id)).trans ?_
      simp only [H3Session.onCallback, H3Session.onEndStream]
      split_ifs
      · exact same rfl
      · exact refl _
  | shutdown id => exact (hnote _).andThen rfl
  | recvSettings2 wtEnabled enableConnectProtocol h3Datagram => exact (hnote _).andThen rfl
  | recvWtData sessionId id data => exact (hnote _).trans (onRecvWtData _ sessionId id data)
  | recvWtCloseSession sessionId wtErrorCode msg =>
      exact (hnote _).trans (onRecvWtCloseSession _ sessionId wtErrorCode msg)

theorem foldl_onCallback (callbacks : List Callback)
    (hfree : ∀ c ∈ callbacks, ∀ id, c.headersOf = some id → id = streamId → free)
    (s : H3Session N) : Aside streamId free s (callbacks.foldl H3Session.onCallback s) := by
  induction callbacks generalizing s with
  | nil => exact refl s
  | cons c rest ih =>
      have hstep : Aside streamId free s (s.onCallback c) :=
        onCallback s (hfree c List.mem_cons_self)
      exact hstep.trans (ih (fun c hmem => hfree c (List.mem_cons_of_mem _ hmem)) _)

/-! ## Reading -/

/-- A stream over the limit is refused and closed; the bytes of the others are not touched. -/
theorem enforcePreAcceptBufferLimit (s : H3Session N) (id : Int) (length consumed : Nat)
    (fin : Bool) :
    Aside streamId free s (s.enforcePreAcceptBufferLimit id length consumed fin) := by
  unfold H3Session.enforcePreAcceptBufferLimit
  dsimp only
  split_ifs
  · exact refl s
  · exact refl s
  · exact refl s
  · exact refl s
  · exact same rfl
  · refine trans ?_ (callCloseStream _ id wtBufferedStreamRejected)
    exact same rfl
  · -- The refusal is recorded, then the stream is closed.
    by_cases hsame : id = streamId
    · subst hsame
      refine ofCut ?_ (callCloseStream_isCut _ id wtBufferedStreamRejected)
      refine Grows.trans ?_ (@callCloseStream N id free _ id wtBufferedStreamRejected).toGrows
      exact ⟨fun h => h, fun h => h, fun htidy =>
        ⟨htidy.control, htidy.encoder, htidy.decoder, htidy.guards⟩⟩
    · refine trans ?_ (callCloseStream _ id wtBufferedStreamRejected)
      refine ⟨⟨fun h => h, fun h => h, fun htidy =>
        ⟨htidy.control, htidy.encoder, htidy.decoder, htidy.guards⟩⟩,
        .inr ⟨rfl, rfl, .inr rfl, ?_⟩⟩
      intro hrefused
      have hmem : streamId ∈ s.rejectedPreAcceptStreamIds.insert id := of_decide_eq_true hrefused
      rcases (OrdSet.mem_insert _ _ _).1 hmem with heq | hold
      · exact absurd heq.symm hsame
      · exact decide_eq_true hold

theorem readFailed (s : H3Session N) (id consumed : Int) :
    Aside streamId free s (s.readFailed id consumed) := by
  have hfirst : Aside streamId free s
      (if decide (consumed = N.errH3MessageError ∧ id ∈ s.sessionIds) = true then
        s.handleWtCloseSessionError id else s) := by
    split_ifs
    · exact handleWtCloseSessionError s id
    · exact refl s
  unfold H3Session.readFailed
  dsimp only
  refine hfirst.trans ?_
  generalize (if decide (consumed = N.errH3MessageError ∧ id ∈ s.sessionIds) = true then
    s.handleWtCloseSessionError id else s) = t
  cases t.pendingWtCloseSessionError with
  | some sessionId =>
      have hreset : Aside streamId free t { t with pendingWtCloseSessionError := none } := same rfl
      exact hreset.trans (handleWtCloseSessionError _ sessionId)
  | none =>
      dsimp only
      split_ifs
      · exact refl t
      · exact (close t).andThen rfl

/-- The callbacks of a read. -/
theorem foldl_readCallbacks (hN : N.HeadersInPlace) (conn : N.Conn) (id : Int) (data : Bytes)
    (fin : Bool) (hfree : id % 4 ≠ 0 ∨ id = streamId → free) (s : H3Session N) :
    Aside streamId free s ((N.readStream2 conn id data fin).2.1.foldl H3Session.onCallback s) := by
  refine foldl_onCallback _ ?_ s
  intro c hc id' hheaders hsame
  apply hfree
  by_cases hmod : id % 4 = 0
  · exact .inr ((hN.reads conn id data fin hmod c hc id' hheaders).symm.trans hsame)
  · exact .inl hmod

/-- The outcome of `nghttp3_conn_read_stream2`. -/
theorem afterRead (s : H3Session N) (id consumed : Int) (length : Nat) (fin : Bool) :
    Aside streamId free s
      (if consumed < 0 then (s.readFailed id consumed, consumed)
      else (s.enforcePreAcceptBufferLimit id length consumed.toNat fin, consumed)).1 := by
  split_ifs
  · exact readFailed s id consumed
  · exact enforcePreAcceptBufferLimit s id length consumed.toNat fin

/-- A read of another stream; only one that is not bidirectional may unblock this one. -/
theorem readFromNghttp3 (hN : N.HeadersInPlace) (s : H3Session N) {id : Int} (hother : id ≠ streamId)
    (data : Bytes) (fin : Bool) (hfree : id % 4 ≠ 0 → free) :
    Aside streamId free s (s.readFromNghttp3 id data fin).1 := by
  let s₁ : H3Session N :=
    { s.note (.readStream2 id data fin (N.readStream2 s.conn id data fin).2.1
        (N.readStream2 s.conn id data fin).2.2) with
      conn := (N.readStream2 s.conn id data fin).1 }
  have hnote : Aside streamId free s s₁ := by
    refine andThen (note s ?_) rfl
    exact if_neg hother
  have hfired : Aside streamId free s₁ (s.callReadStream2 id data fin).1 := by
    refine foldl_readCallbacks hN s.conn id data fin ?_ s₁
    rintro (hmod | hsame)
    · exact hfree hmod
    · exact absurd hsame hother
  unfold H3Session.readFromNghttp3
  dsimp only
  by_cases hrejected : id ∈ s.rejectedPreAcceptStreamIds
  · rw [if_pos hrejected]
    split_ifs
    · refine ⟨⟨fun h => h, fun h => h, fun htidy =>
        ⟨htidy.control, htidy.encoder, htidy.decoder, htidy.guards⟩⟩,
        .inr ⟨rfl, rfl, .inr rfl, ?_⟩⟩
      intro hrefused
      have hmem : streamId ∈ s.rejectedPreAcceptStreamIds.erase id := of_decide_eq_true hrefused
      exact decide_eq_true ((OrdSet.mem_erase _ _ _).1 hmem).2
    · exact refl s
  · rw [if_neg hrejected]
    exact (hnote.trans hfired).trans (afterRead _ _ _ _ _)

theorem processAfterRead (s : H3Session N) (id : Int) (fin : Bool) :
    Aside streamId free s (s.processAfterRead id fin) := by
  have hdetect : Aside streamId free s (s.detectFin id fin) := by
    unfold H3Session.detectFin
    dsimp only
    split_ifs <;> exact same rfl
  have hmigrate (s : H3Session N) : Aside streamId free s s.migrateBlockedFins := by
    refine foldl ?_ s.pendingQpackBlockedFinStreamIds.toList s
    intro s id
    split_ifs
    · exact same rfl
    · exact refl s
  have hclose (s : H3Session N) : Aside streamId free s s.closeFinSessions :=
    (foldl (fun s sessionId => closeStream s sessionId 0) s.pendingFinSessionIds.toList s).andThen
      rfl
  exact ((hdetect.trans (hmigrate _)).trans (hclose _)).trans (discardStale2xx _)

/-- What another guard holds is flushed. -/
theorem flushHeld (hN : N.HeadersInPlace) {s : H3Session N} (htidy : s.Tidy) {id : Int}
    (hother : id ≠ streamId) : Aside streamId free s (s.flushHeld id) := by
  unfold H3Session.flushHeld
  cases hguard : s.headersGuards.find? id with
  | none =>
      dsimp only
      split_ifs
      · exact refl s
      · exact refl s
  | some guard =>
      -- Only bidirectional streams have a guard, and their reads unblock no other stream.
      have hbidi : id % 4 = 0 := by
        by_contra hmod
        rw [htidy.guards id hmod] at hguard
        cases hguard
      dsimp only
      split_ifs
      · exact refl s
      · exact refl s
      · exact refl s
      · refine trans (insertGuard s { guard with heldData := [], heldFin := false } hother hbidi) ?_
        refine trans (readFromNghttp3 hN _ hother _ _ ?_) (processAfterRead _ _ _)
        intro hmod
        exact absurd hbidi hmod

/-! ## The rest of the API -/

theorem onWriteCallback (s : H3Session N) (c : WriteCallback) :
    Aside streamId free s (s.onWriteCallback c) := by
  cases c with
  | readData id =>
      simp only [H3Session.onWriteCallback, readDataCallback]
      cases s.streamBuffers.find? id with
      | none => exact refl s
      | some buffers => exact same rfl
  | ackedStreamData id datalen =>
      simp only [H3Session.onWriteCallback, onAckedStreamData]
      cases s.streamBuffers.find? id with
      | none => exact refl s
      | some buffers => exact same rfl

theorem foldl_onWriteCallback (s : H3Session N) (conn : N.Conn) (callbacks : List WriteCallback) :
    Aside streamId free s (callbacks.foldl H3Session.onWriteCallback { s with conn := conn }) := by
  have hconn : Aside streamId free s { s with conn := conn } := same rfl
  exact hconn.trans (foldl onWriteCallback callbacks _)

theorem writeLoop (iterations : Nat) (s : H3Session N) (result : List (Int × Bytes × Bool)) :
    Aside streamId free s (writeLoop iterations s result).1 := by
  induction iterations generalizing s result with
  | zero => exact refl s
  | succ iterations ih =>
      have hwritten : Aside streamId free s _ := foldl_onWriteCallback s (N.writevStream s.conn).1
        (N.writevStream s.conn).2.1
      unfold H3Session.writeLoop
      dsimp only
      split_ifs
      · exact (hwritten.trans (close _)).andThen rfl
      · exact hwritten
      · exact hwritten
      · exact (hwritten.trans (foldl_onWriteCallback _ _ _)).trans (ih _ _)

theorem closeFlushed (s : H3Session N) (sessionId : Int) :
    Aside streamId free s (s.closeFlushed sessionId) := by
  have hnote : Aside streamId free s
      (s.note (.isStreamFlushed sessionId (N.isStreamFlushed s.conn sessionId))) := note s rfl
  unfold H3Session.closeFlushed
  dsimp only
  split_ifs
  · have hforget : Aside streamId free s
        { s.note (.isStreamFlushed sessionId (N.isStreamFlushed s.conn sessionId)) with
          preAcceptFinAcceptedSessionIds := s.preAcceptFinAcceptedSessionIds.erase sessionId } :=
      hnote.andThen rfl
    exact hforget.trans (closeStream _ sessionId 0)
  · exact hnote

theorem getStreamsToSend (s : H3Session N) : Aside streamId free s s.getStreamsToSend.1 := by
  unfold H3Session.getStreamsToSend
  split_ifs
  · exact refl s
  · exact (writeLoop 1024 s []).trans (foldl closeFlushed _ _)

theorem connect (s : H3Session N) (id : Int) (url origin : Bytes) :
    Aside streamId free s (s.connect id url origin).1 := by
  unfold H3Session.connect
  cases parseAuthorityPath url with
  | none =>
      dsimp only
      split_ifs <;> exact refl s
  | some target =>
      have hnote : Aside streamId free s
          (s.note (.submitWtRequest id (connectHeaders target.1 target.2 origin)
            (N.submitWtRequest s.conn id (connectHeaders target.1 target.2 origin)).2)) :=
        note s rfl
      dsimp only
      split_ifs
      · exact refl s
      · exact refl s
      · exact refl s
      · exact hnote.andThen rfl
      · exact hnote.andThen rfl

theorem callConfirm (hN : N.HeadersInPlace) (s : H3Session N) (id : Int) :
    Aside streamId free s (s.callConfirm id).1 := by
  let s₁ : H3Session N :=
    { s.note (.serverConfirmWtSession id (N.serverConfirmWtSession s.conn id).2.1
        (N.serverConfirmWtSession s.conn id).2.2) with
      conn := (N.serverConfirmWtSession s.conn id).1, acceptingSessionId := id }
  have hnote : Aside streamId free s s₁ := andThen (note s rfl) rfl
  have hfired : Aside streamId free s₁
      ((N.serverConfirmWtSession s.conn id).2.1.foldl H3Session.onCallback s₁) := by
    refine foldl_onCallback _ ?_ s₁
    intro c hc id' hheaders
    rw [hN.confirms s.conn id c hc] at hheaders
    cases hheaders
  exact (hnote.trans hfired).andThen rfl

theorem confirmFailed (s : H3Session N) (id rv : Int) (finDetected : Bool) :
    Aside streamId free s (s.confirmFailed id rv finDetected) := by
  unfold H3Session.confirmFailed
  dsimp only
  refine trans ?_ (discardStale2xx _)
  have hback : Aside streamId free s
      (if finDetected = true then
        { s with
          preAcceptFinAcceptedSessionIds := s.preAcceptFinAcceptedSessionIds.erase id
          pendingPreAcceptFinSessionIds := s.pendingPreAcceptFinSessionIds.insert id }
      else s) := by
    split_ifs
    · exact same rfl
    · exact refl s
  refine hback.trans ?_
  generalize (if finDetected = true then
    { s with
      preAcceptFinAcceptedSessionIds := s.preAcceptFinAcceptedSessionIds.erase id
      pendingPreAcceptFinSessionIds := s.pendingPreAcceptFinSessionIds.insert id }
    else s) = t
  split_ifs
  · have hreset : Aside streamId free t { t with pendingWtCloseSessionError := none } := same rfl
    exact hreset.trans (handleWtCloseSessionError _ _)
  · exact refl t

theorem acceptSession (hN : N.HeadersInPlace) (s : H3Session N) (id : Int) :
    Aside streamId free s (s.acceptSession id).1 := by
  have hnote : Aside streamId free s
      (s.note (.submitWtResponse id acceptHeaders
        (N.submitWtResponse s.conn id acceptHeaders).2)) := note s rfl
  have hsubmit : Aside streamId free s
      { s.note (.submitWtResponse id acceptHeaders
          (N.submitWtResponse s.conn id acceptHeaders).2) with
        conn := (N.submitWtResponse s.conn id acceptHeaders).1 } := hnote.andThen rfl
  have htake (s : H3Session N) : Aside streamId free s (s.takeOverFin id) := by
    unfold H3Session.takeOverFin
    split_ifs
    · exact same rfl
    · exact refl s
  have hmark (s : H3Session N) : Aside streamId free s (s.markAccepted id) := by
    unfold H3Session.markAccepted
    split_ifs <;> exact same rfl
  have hconfirm (s : H3Session N) : Aside streamId free s (s.confirmAccepted id).1 := by
    have hcalled := (htake s).trans (callConfirm hN _ id)
    unfold H3Session.confirmAccepted
    dsimp only
    split_ifs
    · exact hcalled.trans (confirmFailed _ _ _ _)
    · exact (hcalled.trans (discardStale2xx _)).trans (hmark _)
  unfold H3Session.acceptSession
  dsimp only
  split_ifs
  · exact refl s
  · exact refl s
  · exact hsubmit
  · exact hsubmit.trans (hconfirm _)
  · exact refl s

theorem openStream (s : H3Session N) (sessionId id : Int) (isUnidirectional : Bool) :
    Aside streamId free s (s.openStream sessionId id isUnidirectional).1 := by
  have hnote : Aside streamId free s
      (s.note (.openWtDataStream sessionId id (N.openWtDataStream s.conn sessionId id).2)) :=
    note s rfl
  unfold H3Session.openStream
  dsimp only
  split_ifs
  all_goals first
    | exact refl s
    | exact hnote.andThen rfl

theorem sendStreamData (s : H3Session N) (id : Int) (data : Bytes) (fin : Bool) :
    Aside streamId free s (s.sendStreamData id data fin) := by
  have hqueue (s : H3Session N) : Aside streamId free s (s.queueStreamData id data fin) := by
    have hbuffer : Aside streamId free s
        { s with
          streamBuffers := s.streamBuffers.insert id
            ((s.streamBuffers.find? id).getD [] ++
              [({ data := data, fin := fin } : StreamBuffer)]) } := same rfl
    exact hbuffer.trans (note _ rfl)
  unfold H3Session.sendStreamData
  split_ifs
  · exact refl s
  · cases s.streamInfo.find? id with
    | none => exact refl s
    | some info =>
        have hnote : Aside streamId free s
            (s.note (.openWtDataStream info.sessionId id
              (N.openWtDataStream s.conn info.sessionId id).2)) := note s rfl
        dsimp only
        split_ifs
        · exact hqueue s
        · exact refl s
        · exact hnote.andThen rfl
        · have hopen : Aside streamId free s
              { s.note (.openWtDataStream info.sessionId id
                  (N.openWtDataStream s.conn info.sessionId id).2) with
                conn := (N.openWtDataStream s.conn info.sessionId id).1
                streamInfo := s.streamInfo.insert id { info with isWriteRegistered := true } } :=
            hnote.andThen rfl
          exact hopen.trans (hqueue _)

theorem closeSession (s : H3Session N) (sessionId : Int) (errorCode : Nat) (message : Bytes) :
    Aside streamId free s (s.closeSession sessionId errorCode message) := by
  unfold H3Session.closeSession
  dsimp only
  have hconn : Aside streamId free s { s with conn := (N.closeWtSession s.conn sessionId
      (errorCode % 2 ^ 32) (trimmedMessage message)).1 } := same rfl
  refine (hconn.trans (foldl_onStreamCallback _ (N.closeWtSession s.conn sessionId
      (errorCode % 2 ^ 32) (trimmedMessage message)).2.1)).trans ?_
  generalize (N.closeWtSession s.conn sessionId (errorCode % 2 ^ 32)
      (trimmedMessage message)).2.1.foldl H3Session.onStreamCallback
      { s with conn := (N.closeWtSession s.conn sessionId (errorCode % 2 ^ 32)
        (trimmedMessage message)).1 } = t
  have hnote : Aside streamId free t
      (t.note (.closeWtSession sessionId (errorCode % 2 ^ 32) (trimmedMessage message)
        (N.closeWtSession s.conn sessionId (errorCode % 2 ^ 32) (trimmedMessage message)).2.2)) :=
    note t rfl
  split_ifs
  · exact hnote
  · exact hnote.andThen rfl

/-- A local unidirectional stream is bound. -/
theorem bind (s s' : H3Session N) (hlog : s'.ngLog = s.ngLog) (hclosed : s'.closed = s.closed)
    (hlane : s'.lane streamId = s.lane streamId) (htidy : s.Tidy → s'.Tidy) :
    Aside streamId free s s' := by
  refine ⟨⟨?_, ?_, htidy⟩, .inr ?_⟩
  · intro hcut
    simpa only [isCut, hlog] using hcut
  · intro hopen
    rw [hclosed, hopen]
  · rw [hlane]
    exact .refl free _

theorem localUni_mod {s : H3Session N} {id : Int} (h : s.isValidLocalUniStreamId id = true) :
    id % 4 ≠ 0 := by
  unfold isValidLocalUniStreamId at h
  split_ifs at h with hrange hserver
  · have hmod := of_decide_eq_true h
    omega
  · have hmod := of_decide_eq_true h
    omega

end Aside

/-- The call is `receive_stream_data`. -/
def Input.receives : Input → Bool
  | .receiveStreamData _ _ _ => true
  | _ => false

/-- All other API calls leave the lane alone, or close the stream. -/
theorem Aside.step (hN : N.HeadersInPlace) (s : H3Session N) (input : Input)
    (h : input.receives = false) : Aside streamId free s (s.step input) := by
  cases input with
  | receiveStreamData id data fin => exact absurd h Bool.noConfusion
  | receiveDatagram data =>
      simp only [H3Session.step, receiveDatagram]
      split_ifs <;> exact same rfl
  | getStreamsToSend => exact getStreamsToSend s
  | getDatagramsToSend => exact same rfl
  | bindControlStream id =>
      simp only [H3Session.step, bindControlStream]
      split_ifs with hvalid
      · exact bind _ _ rfl rfl rfl fun htidy =>
          ⟨localUni_mod hvalid, htidy.encoder, htidy.decoder, htidy.guards⟩
      · exact refl s
  | bindQpackEncoderStream id =>
      simp only [H3Session.step, bindQpackEncoderStream]
      split_ifs with hvalid
      · exact bind _ _ rfl rfl rfl fun htidy =>
          ⟨htidy.control, localUni_mod hvalid, htidy.decoder, htidy.guards⟩
      · exact refl s
  | bindQpackDecoderStream id =>
      simp only [H3Session.step, bindQpackDecoderStream]
      split_ifs with hvalid
      · exact bind _ _ rfl rfl rfl fun htidy =>
          ⟨htidy.control, htidy.encoder, localUni_mod hvalid, htidy.guards⟩
      · exact refl s
  | connect id url origin => exact connect s id url origin
  | acceptSession id => exact acceptSession hN s id
  | rejectSession id status => exact rejectSession s id status
  | openStream sessionId id isUnidirectional => exact openStream s sessionId id isUnidirectional
  | sendStreamData id data fin => exact sendStreamData s id data fin
  | sendDatagram sessionId data =>
      simp only [H3Session.step, sendDatagram]
      split_ifs
      · exact refl s
      · exact same rfl
  | closeStream id errorCode => exact closeStream s id errorCode
  | resetStream id errorCode =>
      simp only [H3Session.step, resetStream]
      cases s.mapSendErrorCode id errorCode with
      | error message => exact refl s
      | ok wireErrorCode => exact closeStream s id wireErrorCode
  | shutdownStreamWrite id =>
      simp only [H3Session.step, shutdownStreamWrite]
      split_ifs
      · exact refl s
      · exact (note s rfl).andThen rfl
  | closeSession sessionId errorCode message => exact closeSession s sessionId errorCode message
  | nextEvent =>
      simp only [H3Session.step, nextEvent]
      cases s.events <;> exact same rfl

end H3Session

end H3
end WebTransport
