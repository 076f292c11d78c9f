import WebTransport.H3.SendBuffers

/-!
# Http3.SendSide — the send side of the HTTP/3 connection object (`http3.cpp`)

`Http3Connection` has the copy of `stream_buffers_` that HTTP/3 without WebTransport uses.

* `Http3Connection`   : what `send_data` and the callbacks of nghttp3 read and change;
* `body_sent_iff`     : when the body of a stream goes out, for both copies.
-/

namespace WebTransport
namespace Http3

open Bindings
open H3 (H3Session Nghttp3 StreamBuffer Sender SendOp SendCalls Wire Entry entrySender sendsOf Good
  WellEnded)

/-- `StreamData` -/
abbrev StreamData := StreamBuffer

/-- `Http3Connection`, the send side. `conn_` is set once at creation, so the null checks are left
out. -/
structure Http3Connection where
  closed : Bool := false
  shutdownStreamIds : OrdSet Int := ∅
  streamBuffers : OrdMap Int (List StreamData) := ∅
  deriving DecidableEq

namespace Http3Connection

/-- `send_data` -/
def sendData (s : Http3Connection) (streamId : Int) (data : Bytes) (fin : Bool) :
    Http3Connection :=
  if s.closed then s
  else if streamId ∈ s.shutdownStreamIds then s
  else
    { s with
      streamBuffers := s.streamBuffers.insert streamId
        ((s.streamBuffers.find? streamId).getD [] ++ [({ data := data, fin := fin } : StreamData)]) }

/-- `read_data_cb` -/
def readDataCb (s : Http3Connection) (streamId : Int) (veccnt : Nat) :
    Http3Connection × Option (Bytes × Bool) :=
  match s.streamBuffers.find? streamId with
  | none | some [] => (s, none)
  | some (front :: rest) =>
      if veccnt = 0 then (s, some ([], false))
      else
        let (buffers, offered) := H3Session.readBuffers (front :: rest)
        ({ s with
            streamBuffers :=
              if buffers = [] then s.streamBuffers.erase streamId
              else s.streamBuffers.insert streamId buffers }, offered)

/-- `acked_stream_data_cb` -/
def ackedStreamDataCb (s : Http3Connection) (streamId : Int) (datalen : Nat) : Http3Connection :=
  match s.streamBuffers.find? streamId with
  | none => s
  | some buffers =>
      { s with
        streamBuffers :=
          if H3Session.ackBuffers datalen buffers = [] then s.streamBuffers.erase streamId
          else s.streamBuffers.insert streamId (H3Session.ackBuffers datalen buffers) }

/-- The send side of one stream. -/
def sender (streamId : Int) : Sender Http3Connection where
  send := fun s data fin => s.sendData streamId data fin
  read := fun s veccnt => s.readDataCb streamId veccnt
  ack := fun s datalen => s.ackedStreamDataCb streamId datalen
  entry := fun s => s.streamBuffers.find? streamId

/-- `send_data` takes what is sent on the stream. -/
def Writable (streamId : Int) (s : Http3Connection) : Prop :=
  s.closed = false ∧ streamId ∉ s.shutdownStreamIds

theorem sender_simulates (streamId : Int) : (sender streamId).Simulates (Writable streamId) where
  send := by
    intro s hopen data fin
    have hsend : s.sendData streamId data fin =
        { s with
          streamBuffers := s.streamBuffers.insert streamId
            ((s.streamBuffers.find? streamId).getD [] ++
              [({ data := data, fin := fin } : StreamData)]) } := by
      rw [sendData, hopen.1, if_neg Bool.false_ne_true, if_neg hopen.2]
    simp only [sender, hsend, OrdMap.find?_insert_self]
    exact ⟨hopen, rfl⟩
  read := by
    intro s hopen more
    simp only [sender, readDataCb]
    split
    · rename_i hentry
      rw [hentry]
      exact ⟨hopen, rfl, rfl⟩
    · rename_i hentry
      rw [hentry]
      exact ⟨hopen, rfl, rfl⟩
    · rename_i front rest hentry
      rw [if_neg (Nat.succ_ne_zero more), hentry]
      refine ⟨hopen, ?_, rfl⟩
      simp only [Entry.read, ne_eq, reduceCtorEq, not_false_eq_true, and_true]
      split_ifs
      · exact OrdMap.find?_erase_self _ _
      · exact OrdMap.find?_insert_self _ _ _
  ack := by
    intro s hopen datalen
    simp only [sender, ackedStreamDataCb]
    split
    · rename_i hentry
      rw [hentry]
      exact ⟨hopen, rfl⟩
    · rename_i buffers hentry
      rw [hentry]
      refine ⟨hopen, ?_⟩
      simp only [Entry.ack]
      split_ifs
      · exact OrdMap.find?_erase_self _ _
      · exact OrdMap.find?_insert_self _ _ _

end Http3Connection

/-! ## Both copies -/

/-- The body of a stream goes out, whatever nghttp3 asks for and acknowledges in between, exactly if
nothing is sent behind a FIN and no FIN without data is sent behind a call without data.  Both copies
do the same. -/
theorem body_sent_iff {N : Nghttp3} (s : H3Session N) (t : Http3Connection) (streamId : Int)
    (hs : s.Writable streamId) (ht : t.Writable streamId)
    (hempty : (s.streamBuffers.find? streamId).getD [] = [])
    (hempty' : (t.streamBuffers.find? streamId).getD [] = []) (calls : SendCalls) :
    ((∀ ops, sendsOf ops <+: calls → Good (sendsOf ops)
        ((Wire.run (H3Session.sender N streamId) { state := s } ops).view
          (H3Session.sender N streamId))) ↔ WellEnded calls) ∧
    ((∀ ops, sendsOf ops <+: calls → Good (sendsOf ops)
        ((Wire.run (Http3Connection.sender streamId) { state := t } ops).view
          (Http3Connection.sender streamId))) ↔ WellEnded calls) ∧
    (s.streamBuffers.find? streamId = t.streamBuffers.find? streamId → ∀ ops,
      (Wire.run (H3Session.sender N streamId) { state := s } ops).view
          (H3Session.sender N streamId) =
        (Wire.run (Http3Connection.sender streamId) { state := t } ops).view
          (Http3Connection.sender streamId)) := by
  have hsession : ∀ ops, (Wire.run (H3Session.sender N streamId) { state := s } ops).view
      (H3Session.sender N streamId) =
        Wire.run entrySender { state := s.streamBuffers.find? streamId } ops := fun ops =>
    (H3Session.sender_simulates streamId).run hs ops
  have hconnection : ∀ ops, (Wire.run (Http3Connection.sender streamId) { state := t } ops).view
      (Http3Connection.sender streamId) =
        Wire.run entrySender { state := t.streamBuffers.find? streamId } ops := fun ops =>
    (Http3Connection.sender_simulates streamId).run ht ops
  refine ⟨?_, ?_, ?_⟩
  · simp only [hsession]
    exact H3.good_iff hempty calls
  · simp only [hconnection]
    exact H3.good_iff hempty' calls
  · intro hsame ops
    rw [hsession, hconnection, hsame]

/-- One call with FIN on a stream that a session opened. -/
theorem body_sent_one : ∃ s : H3Session (Nghttp3.reading []),
    ∀ ops, sendsOf ops <+: [([104, 105], true)] → Good (sendsOf ops)
      ((Wire.run (H3Session.sender (Nghttp3.reading []) 3) { state := s } ops).view
        (H3Session.sender (Nghttp3.reading []) 3)) := by
  let s : H3Session (Nghttp3.reading []) :=
    { H3Session.create true {} () with
        streamInfo := (∅ : OrdMap Int H3.StreamInfo).insert 3
          { streamId := 3, sessionId := 0, isUnidirectional := true, isIncoming := false,
            isWriteRegistered := true } }
  have hs : s.Writable 3 := ⟨by decide, _, OrdMap.find?_insert_self _ _ _, .inl rfl⟩
  have ht : ({} : Http3Connection).Writable 3 := ⟨rfl, by decide⟩
  exact ⟨s, (body_sent_iff s {} 3 hs ht rfl rfl [([104, 105], true)]).1.2
    (List.isChain_singleton _)⟩

/-- A call behind the FIN, in front of the first read: its data goes out, and EOF never comes. -/
theorem late_call_offered :
    ¬ ∀ (t : Http3Connection) (streamId : Int) (ops : List SendOp), t.Writable streamId →
      (t.streamBuffers.find? streamId).getD [] = [] →
        Good (sendsOf ops) ((Wire.run (Http3Connection.sender streamId) { state := t } ops).view
          (Http3Connection.sender streamId)) := by
  intro hall
  have hgood := hall {} 0 [.send [97] true, .send [98] false, .read 0, .ack, .read 0]
    ⟨rfl, by decide⟩ rfl
  have hoffered := hgood.offered.length_le
  exact absurd hoffered (by decide)

end Http3
end WebTransport
