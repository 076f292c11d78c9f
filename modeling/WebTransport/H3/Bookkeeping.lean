import WebTransport.H3.Ledger

/-!
# H3.Bookkeeping — the books of an `H3Session` fit together

Accepted sessions are sessions, streams belong to sessions, send buffers belong to streams.  Two
kinds of entries break this: a session refused while it has streams, which then stay behind, and a
stream that nghttp3 closes while data for it is queued.

* `Consistent`       : the three inclusions;
* `Step.consistent`  : every entry keeps them, these two in their place;
* `books_consistent` : so they hold in every run without such an entry.
-/

namespace WebTransport
namespace H3

open Bindings

/-- Accepted sessions are sessions, streams belong to sessions, buffers to streams. -/
structure Books.Consistent (b : Books) : Prop where
  accepted : ∀ sessionId, sessionId ∈ b.acceptedSessionIds → sessionId ∈ b.sessionIds
  streams : ∀ streamId info, b.streamInfo.find? streamId = some info →
    info.sessionId ∈ b.sessionIds
  buffers : ∀ streamId, b.streamInfo.find? streamId = none →
    b.streamBuffers.find? streamId = none

/-- The line of the record leaves no stream without session and no buffer without stream: a session
is refused when it has no streams, a stream is closed by nghttp3 when it has no buffer. -/
def KeepsBooks (isServer : Bool) : NgCall × Books → Prop
  | (.submitResponse sessionId status _, b) => status / 100 ≠ 2 → b.sessionStreams sessionId = []
  | (.callback (.endHeaders sessionId), b) =>
      isServer = false → b.refusedResponse sessionId = true → b.sessionStreams sessionId = []
  | (.callback (.stream (.streamClose streamId _)), b) => b.streamBuffers.find? streamId = none
  | _ => True

namespace Books

variable {b : Books}

theorem eraseSessionStreams_streamInfo (b : Books) (sessionId streamId : Int) :
    (b.eraseSessionStreams sessionId).streamInfo.find? streamId =
      if streamId ∈ b.sessionStreams sessionId then none else b.streamInfo.find? streamId :=
  OrdMap.find?_eraseAll _ _ _

theorem eraseSessionStreams_streamBuffers (b : Books) (sessionId streamId : Int) :
    (b.eraseSessionStreams sessionId).streamBuffers.find? streamId =
      if streamId ∈ b.sessionStreams sessionId then none else b.streamBuffers.find? streamId :=
  OrdMap.find?_eraseAll _ _ _

/-- Without its streams a session may go. -/
theorem Consistent.eraseSession {sessionId : Int} (h : b.Consistent)
    (hstreams : b.sessionStreams sessionId = []) : (b.eraseSession sessionId).Consistent := by
  refine ⟨?_, ?_, h.buffers⟩
  · intro id hid
    rcases (OrdSet.mem_erase _ _ _).1 hid with ⟨hne, hmem⟩
    exact (OrdSet.mem_erase _ _ _).2 ⟨hne, h.accepted id hmem⟩
  · intro streamId info hinfo
    refine (OrdSet.mem_erase _ _ _).2 ⟨?_, h.streams streamId info hinfo⟩
    intro hsession
    have hmem : streamId ∈ b.sessionStreams sessionId :=
      (b.mem_sessionStreams sessionId streamId).2 ⟨info, hinfo, hsession⟩
    rw [hstreams] at hmem
    exact absurd hmem List.not_mem_nil

/-- `erase_session_streams` keeps the rest in order. -/
theorem Consistent.eraseSessionStreams (h : b.Consistent) (sessionId : Int) :
    (b.eraseSessionStreams sessionId).Consistent ∧
      (b.eraseSessionStreams sessionId).sessionStreams sessionId = [] := by
  refine ⟨⟨h.accepted, ?_, ?_⟩, ?_⟩
  · intro streamId info hinfo
    rw [eraseSessionStreams_streamInfo] at hinfo
    split_ifs at hinfo
    exact h.streams streamId info hinfo
  · intro streamId hnone
    rw [eraseSessionStreams_streamInfo] at hnone
    rw [eraseSessionStreams_streamBuffers]
    split_ifs at hnone ⊢
    · rfl
    · exact h.buffers streamId hnone
  · rw [List.eq_nil_iff_forall_not_mem]
    intro streamId hmem
    rcases (mem_sessionStreams _ sessionId streamId).1 hmem with ⟨info, hinfo, hsession⟩
    rw [eraseSessionStreams_streamInfo] at hinfo
    split_ifs at hinfo with hown
    exact hown ((b.mem_sessionStreams sessionId streamId).2 ⟨info, hinfo, hsession⟩)

/-- A session ends with its streams. -/
theorem Consistent.ended (h : b.Consistent) (sessionId : Int) :
    ((b.eraseSessionStreams sessionId).eraseSession sessionId).Consistent :=
  (h.eraseSessionStreams sessionId).1.eraseSession (h.eraseSessionStreams sessionId).2

/-- A stream without a buffer may go. -/
theorem Consistent.eraseStream {streamId : Int} (h : b.Consistent)
    (hbuffer : b.streamBuffers.find? streamId = none) :
    Consistent { b with streamInfo := b.streamInfo.erase streamId } := by
  refine ⟨h.accepted, ?_, ?_⟩
  · intro id info hinfo
    have hfind : (b.streamInfo.erase streamId).find? id = some info := hinfo
    rw [OrdMap.find?_erase] at hfind
    split_ifs at hfind
    exact h.streams id info hfind
  · intro id hnone
    have hfind : (b.streamInfo.erase streamId).find? id = none := hnone
    rw [OrdMap.find?_erase] at hfind
    split_ifs at hfind with hid
    · exact hid ▸ hbuffer
    · exact h.buffers id hfind

/-- A stream of a session is entered. -/
theorem Consistent.insertStream {info : StreamInfo} (h : b.Consistent)
    (hsession : info.sessionId ∈ b.sessionIds) (streamId : Int) :
    Consistent { b with streamInfo := b.streamInfo.insert streamId info } := by
  refine ⟨h.accepted, ?_, ?_⟩
  · intro id info' hinfo
    have hfind : (b.streamInfo.insert streamId info).find? id = some info' := hinfo
    rw [OrdMap.find?_insert] at hfind
    split_ifs at hfind
    · cases hfind
      exact hsession
    · exact h.streams id info' hfind
  · intro id hnone
    have hfind : (b.streamInfo.insert streamId info).find? id = none := hnone
    rw [OrdMap.find?_insert] at hfind
    split_ifs at hfind
    exact h.buffers id hfind

/-- A buffer is entered for a stream that is there. -/
theorem Consistent.insertBuffer {streamId : Int} (h : b.Consistent)
    (hstream : b.streamInfo.find? streamId ≠ none) (buffers : List StreamBuffer) :
    Consistent { b with streamBuffers := b.streamBuffers.insert streamId buffers } := by
  refine ⟨h.accepted, h.streams, ?_⟩
  intro id hnone
  have hne : id ≠ streamId := by
    rintro rfl
    exact hstream hnone
  have hfind : (b.streamBuffers.insert streamId buffers).find? id = b.streamBuffers.find? id :=
    OrdMap.find?_insert_ne _ _ hne
  exact hfind.trans (h.buffers id hnone)

end Books

/-- Every entry keeps the books consistent, a refusal and a closed stream in their place. -/
theorem Ledger.Step.consistent {isServer : Bool} {L L' : Ledger} (h : Step isServer L L')
    (hok : ∀ e ∈ L'.log, KeepsBooks isServer e) (hinv : L.books.Consistent) :
    L'.books.Consistent := by
  -- The line that the entry adds is the last of the record.
  have hlast : ∀ call, L'.log = L.recorded call → KeepsBooks isServer (call, L.books) := by
    intro call hlog
    refine hok _ ?_
    rw [hlog]
    exact List.mem_append_right _ List.mem_cons_self
  cases h with
  | note call => exact hinv
  | opened call sessionId hcall =>
      refine ⟨?_, ?_, hinv.buffers⟩
      · intro id hid
        exact (OrdSet.mem_insert _ _ _).2 (Or.inr (hinv.accepted id hid))
      · intro streamId info hinfo
        exact (OrdSet.mem_insert _ _ _).2 (Or.inr (hinv.streams streamId info hinfo))
  | accepted sessionId hsession =>
      refine ⟨?_, hinv.streams, hinv.buffers⟩
      intro id hid
      rcases (OrdSet.mem_insert _ _ _).1 hid with rfl | hid
      · exact hsession
      · exact hinv.accepted id hid
  | headers pendingHeaders => exact ⟨hinv.accepted, hinv.streams, hinv.buffers⟩
  | registered streamId info hsession => exact hinv.insertStream hsession streamId
  | marked streamId info info' hfind hsession =>
      refine hinv.insertStream ?_ streamId
      rw [hsession]
      exact hinv.streams streamId info hfind
  | buffered streamId buffers hstream =>
      refine hinv.insertBuffer ?_ buffers
      intro hnone
      rcases hstream with hinfo | hbuffer
      · exact hinfo hnone
      · exact hbuffer (hinv.buffers streamId hnone)
  | unbuffered streamId =>
      refine ⟨hinv.accepted, hinv.streams, ?_⟩
      intro id hnone
      have hfind : (L.books.streamBuffers.erase streamId).find? id =
          if id = streamId then none else L.books.streamBuffers.find? id := OrdMap.find?_erase _ _ _
      refine hfind.trans ?_
      split_ifs
      · rfl
      · exact hinv.buffers id hnone
  | unregistered streamId hbuffer => exact hinv.eraseStream hbuffer
  | streamClosed streamId code => exact hinv.eraseStream (hlast _ rfl)
  | sessionClosed sessionId hsession => exact hinv.ended sessionId
  | sessionEnded call sessionId hcall => exact hinv.ended sessionId
  | refused sessionId status headers hstatus => exact hinv.eraseSession (hlast _ rfl hstatus)
  | rejected sessionId hclient hresponse =>
      exact hinv.eraseSession (hlast _ rfl hclient hresponse)

namespace H3Session

variable {N : Nghttp3}

theorem create_consistent (isServer : Bool) (config : H3SessionConfig) (conn : N.Conn) :
    (create isServer config conn).toBooks.Consistent := by
  refine ⟨?_, ?_, ?_⟩
  · intro sessionId h
    exact absurd h (OrdSet.not_mem_empty sessionId)
  · intro streamId info h
    cases h
  · intro streamId _
    rfl

/-- Data for a stream that is not entered is not queued. -/
theorem sendStreamData_unknown {s : H3Session N} {streamId : Int}
    (h : s.streamInfo.find? streamId = none) (data : Bytes) (fin : Bool) :
    s.sendStreamData streamId data fin = s := by
  unfold sendStreamData
  rw [h]
  exact ite_self s

/-- In a run in which a session is refused only without streams, and nghttp3 closes a stream only
without a buffer, the books are consistent in every state.  So nothing is queued for the streams of
a session that has ended, and no buffer of them is left. -/
theorem books_consistent (isServer : Bool) (config : H3SessionConfig) (conn : N.Conn)
    (inputs : List Input)
    (hbooks : ∀ e ∈ ((create isServer config conn).run inputs).ngLog, KeepsBooks isServer e) :
    ((create isServer config conn).run inputs).toBooks.Consistent ∧
      ∀ sessionId, sessionId ∉ ((create isServer config conn).run inputs).sessionIds →
        ∀ streamId, (∀ info, ((create isServer config conn).run inputs).streamInfo.find? streamId =
            some info → info.sessionId = sessionId) →
          (∀ data fin, ((create isServer config conn).run inputs).sendStreamData streamId data fin =
              (create isServer config conn).run inputs) ∧
            ((create isServer config conn).run inputs).streamBuffers.find? streamId = none := by
  have hinv : ((create isServer config conn).run inputs).toBooks.Consistent :=
    @Ledger.Reaches.invariant isServer (KeepsBooks isServer) (fun L => L.books.Consistent)
      (fun hstep hok hcons => hstep.consistent hok hcons) _ _
      (Moves.run (create isServer config conn) inputs).path (create_consistent isServer config conn)
      hbooks
  refine ⟨hinv, ?_⟩
  intro sessionId hended streamId hown
  have hnone : ((create isServer config conn).run inputs).streamInfo.find? streamId = none := by
    cases hfind : ((create isServer config conn).run inputs).streamInfo.find? streamId with
    | none => rfl
    | some info =>
        have hsession := hinv.streams streamId info hfind
        rw [hown info hfind] at hsession
        exact absurd hsession hended
  exact ⟨sendStreamData_unknown hnone, hinv.buffers streamId hnone⟩

/-- A client with one session, a stream opened on it before the response, and data queued there. -/
def optimistic : List Input :=
  [.bindQpackEncoderStream 6, .bindQpackDecoderStream 10, .connect 0 (ascii "https://a/") [],
    .openStream 0 4 false, .sendStreamData 4 [7] false]

/-- nghttp3 as it hands over a response with status 404. -/
def respond404 : Nghttp3 :=
  .reading [.beginHeaders 0, .recvHeader 0 (ascii ":status") (ascii "404"), .endHeaders 0]

/-- nghttp3 as it buffers the bytes of stream 4 and closes the stream when it is told to. -/
def buffering : Nghttp3 :=
  { Nghttp3.reading [] with
    readStream2 := fun _ _ _ _ => ((), [], 0)
    getStreamWtSessionId := fun _ streamId => if streamId = 4 then 0 else -1
    closeStream := fun _ streamId code => ((), [.streamClose streamId code]) }

/-- After a 404 the client's stream stays behind and takes more data; and when the limit for bytes
before acceptance closes the stream, its buffer stays behind. -/
theorem ghost_streams :
    let s : H3Session respond404 := (create false {} ()).run
      (optimistic ++ [.receiveStreamData 0 [1, 2, 0, 0] false])
    let t : H3Session buffering := (create false { wtPreAcceptBufferLimit := 0 } ()).run
      (optimistic ++ [.receiveStreamData 4 [9] false])
    (¬ s.toBooks.Consistent ∧ (0 : Int) ∉ s.sessionIds ∧
        (s.sendStreamData 4 [8] false).streamBuffers ≠ s.streamBuffers) ∧
      ¬ t.toBooks.Consistent := by
  refine ⟨⟨?_, by decide +kernel, by decide +kernel⟩, ?_⟩
  · intro hcons
    have hstream := hcons.streams 4
      { streamId := 4, sessionId := 0, isUnidirectional := false, isIncoming := false,
        isWriteRegistered := true } (by decide +kernel)
    exact absurd hstream (by decide +kernel)
  · intro hcons
    exact absurd (hcons.buffers 4 (by decide +kernel)) (by decide +kernel)

/-- Closing the session takes its stream along. -/
theorem books_consistent_close_session :
    let s : H3Session (Nghttp3.reading []) :=
      (create false {} ()).run (optimistic ++ [.closeSession 0 0 []])
    (0 : Int) ∉ s.sessionIds ∧ s.toBooks.Consistent := by
  refine ⟨by decide +kernel, ?_⟩
  refine (@books_consistent (Nghttp3.reading []) false {} () (optimistic ++ [.closeSession 0 0 []]) ?_).1
  have hlog : ((create false {} () : H3Session (Nghttp3.reading [])).run
      (optimistic ++ [.closeSession 0 0 []])).ngLog.map Prod.fst =
        [.submitWtRequest 0 (connectHeaders (ascii "a") (ascii "/") []) 0, .openWtDataStream 0 4 0,
          .resumeStream 4, .closeWtSession 0 0 [] 0] := by decide +kernel
  intro e he
  have hcall := List.mem_map_of_mem (f := Prod.fst) he
  rw [hlog] at hcall
  rcases e with ⟨call, b⟩
  simp only [List.mem_cons, List.not_mem_nil, or_false] at hcall
  rcases hcall with rfl | rfl | rfl | rfl <;> trivial

end H3Session

end H3
end WebTransport
