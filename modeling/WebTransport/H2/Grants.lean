import WebTransport.H2.Life
import WebTransport.H2.StreamCounts

/-!
# H2.Grants — what the peer lets this side send

The peer limits the stream data of a session (`max_data_local`), of each stream
(`max_stream_data_local`) and the number of streams opened here (`max_streams_bidi_local`,
`max_streams_uni_local`).  Initial limits come from its SETTINGS and from WebTransport-Init, later
ones from WT_MAX_DATA, WT_MAX_STREAM_DATA and WT_MAX_STREAMS.

* `Trans.limits`, `Trans.move` : what a change does to the limits and to the table of streams;
* `Granted`                    : the session's limits along the changes of an entry;
* `StreamGranted`              : the limits of a stream id;
* `SentOnce`, `AtLeast`        : the bytes sent on a stream id, and its limit, as long as it is not
  created again.
-/

namespace WebTransport
namespace H2

open Bindings

/-- Stream Data bytes that a label sends on a stream id. -/
def Label.bytesOn (id : Nat) : Label → Nat
  | .sent (.wtStream _ streamId data) => if streamId = id then data.length else 0
  | _ => 0

/-- Stream Data bytes that a label sends. -/
def Label.bytes : Label → Nat
  | .sent (.wtStream _ _ data) => data.length
  | _ => 0

namespace WtSessionInfo

/-- `max_streams_uni_local` or `max_streams_bidi_local` -/
def maxStreamsLocal (isUni : Bool) (w : WtSessionInfo) : Nat :=
  if isUni then w.maxStreamsUniLocal else w.maxStreamsBidiLocal

/-- The counter of the next stream id. -/
def nextCounter (isUni : Bool) (w : WtSessionInfo) : Nat :=
  if isUni then w.nextUniStreamId else w.nextBidiStreamId

/-- The number of streams opened here. -/
def streamsOpened (isUni : Bool) (w : WtSessionInfo) : Nat :=
  if isUni then w.streamsUniOpened else w.streamsBidiOpened

section Limits

variable {permits : Permits} {config : H2SessionConfig} {isServer : Bool} {w w' : WtSessionInfo}
  {l : Label}

/-- The session's limit only changes to a larger value of a WT_MAX_DATA. -/
theorem Trans.maxData (h : Trans permits config isServer w l w') :
    w'.maxDataLocal = w.maxDataLocal ∨
      w.maxDataLocal < w'.maxDataLocal ∧ l = .received (.maxData w'.maxDataLocal) [] := by
  cases h with
  | recvMaxData hrise =>
      split_ifs with hmore
      · exact Or.inr ⟨hmore, rfl⟩
      · exact Or.inl rfl
  | recvMaxStreamData hreceivable hstop hrise hfind => split_ifs <;> exact Or.inl rfl
  | recvMaxStreamsBidi hle hrise => split_ifs <;> exact Or.inl rfl
  | recvMaxStreamsUni hle hrise => split_ifs <;> exact Or.inl rfl
  | _ => exact Or.inl rfl

/-- A stream limit only changes to a larger value of a WT_MAX_STREAMS. -/
theorem Trans.maxStreams (h : Trans permits config isServer w l w') (isUni : Bool) :
    w'.maxStreamsLocal isUni = w.maxStreamsLocal isUni ∨
      w.maxStreamsLocal isUni < w'.maxStreamsLocal isUni ∧
        l = .received (.maxStreams (!isUni) (w'.maxStreamsLocal isUni)) [] := by
  cases h with
  | recvMaxData hrise => split_ifs <;> exact Or.inl rfl
  | recvMaxStreamData hreceivable hstop hrise hfind => split_ifs <;> exact Or.inl rfl
  | recvMaxStreamsBidi hle hrise =>
      split_ifs with hmore
      · cases isUni with
        | true => exact Or.inl rfl
        | false => exact Or.inr ⟨hmore, rfl⟩
      · exact Or.inl rfl
  | recvMaxStreamsUni hle hrise =>
      split_ifs with hmore
      · cases isUni with
        | true => exact Or.inr ⟨hmore, rfl⟩
        | false => exact Or.inl rfl
      · exact Or.inl rfl
  | _ => exact Or.inl rfl

/-- The session counts the stream data it sends. -/
theorem Trans.bytesSent (h : Trans permits config isServer w l w') :
    w'.bytesSent = w.bytesSent + l.bytes := by
  cases h with
  | sendPart hfind hready hpending hsize hsession hstream =>
      dsimp only [setStream, Label.bytes]
      rw [List.length_take, Nat.min_eq_left hsize.le]
  | recvMaxData hrise => split_ifs <;> rfl
  | recvMaxStreamData hreceivable hstop hrise hfind => split_ifs <;> rfl
  | recvMaxStreamsBidi hle hrise => split_ifs <;> rfl
  | recvMaxStreamsUni hle hrise => split_ifs <;> rfl
  | _ => rfl

/-- A stream is opened below the limit, under the next id. -/
theorem Trans.opened (h : Trans permits config isServer w l w') (isUni : Bool) :
    w'.nextCounter isUni = w.nextCounter isUni ∧ w'.streamsOpened isUni = w.streamsOpened isUni ∨
      w'.nextCounter isUni = w.nextCounter isUni + 1 ∧
        w'.streamsOpened isUni = w.streamsOpened isUni + 1 ∧
        w.streamsOpened isUni < w.maxStreamsLocal isUni := by
  cases h with
  | openBidi hcreate hopened hnone =>
      cases isUni with
      | true => exact Or.inl ⟨rfl, rfl⟩
      | false => exact Or.inr ⟨rfl, rfl, hopened⟩
  | openUni hcreate hopened hnone =>
      cases isUni with
      | true => exact Or.inr ⟨rfl, rfl, hopened⟩
      | false => exact Or.inl ⟨rfl, rfl⟩
  | recvMaxData hrise => split_ifs <;> exact Or.inl ⟨rfl, rfl⟩
  | recvMaxStreamData hreceivable hstop hrise hfind => split_ifs <;> exact Or.inl ⟨rfl, rfl⟩
  | recvMaxStreamsBidi hle hrise => split_ifs <;> exact Or.inl ⟨rfl, rfl⟩
  | recvMaxStreamsUni hle hrise => split_ifs <;> exact Or.inl ⟨rfl, rfl⟩
  | _ => exact Or.inl ⟨rfl, rfl⟩

/-- The initial credit of streams to come is left alone. -/
theorem Trans.peerCredit (h : Trans permits config isServer w l w') (isUni isLocal : Bool) :
    w'.peerSendCreditForStream isUni isLocal = w.peerSendCreditForStream isUni isLocal := by
  cases h with
  | recvMaxData hrise => split_ifs <;> rfl
  | recvMaxStreamData hreceivable hstop hrise hfind => split_ifs <;> rfl
  | recvMaxStreamsBidi hle hrise => split_ifs <;> rfl
  | recvMaxStreamsUni hle hrise => split_ifs <;> rfl
  | _ => rfl

/-- A value is remembered for a stream id while there is room, or in place of an older one. -/
theorem Trans.recorded (h : Trans permits config isServer w l w') {id value : Nat}
    (hfind : w'.receivedMaxStreamDataById.find? id = some value) :
    w.receivedMaxStreamDataById.find? id = some value ∨
      l = .received (.maxStreamData id value) [] ∧
        ((w.receivedMaxStreamDataById.find? id).isSome = true ∨
          w.receivedMaxStreamDataById.size < kMaxReceivedMapEntries) := by
  have hrecord : ∀ {streamId maxData : Nat} {m : OrdMap Nat Nat},
      m = (w.recordMaxStreamData streamId maxData).receivedMaxStreamDataById →
      m.find? id = some value → w.receivedMaxStreamDataById.find? id = some value ∨
        (streamId = id ∧ maxData = value) ∧
          ((w.receivedMaxStreamDataById.find? id).isSome = true ∨
            w.receivedMaxStreamDataById.size < kMaxReceivedMapEntries) := by
    rintro streamId maxData m rfl hm
    unfold recordMaxStreamData at hm
    dsimp only at hm
    split_ifs at hm with hroom
    · rw [OrdMap.find?_insert] at hm
      split_ifs at hm with heq
      · cases hm
        subst heq
        exact Or.inr ⟨⟨rfl, rfl⟩, hroom⟩
      · exact Or.inl hm
    · exact Or.inl hm
  cases h with
  | recvMaxData hrise => split_ifs at hfind <;> exact Or.inl hfind
  | recvMaxStreamData hreceivable hstop hrise hlive =>
      have hm : w.receivedMaxStreamDataById.find? id = some value ∨ _ :=
        hrecord (by split_ifs <;> rfl) hfind
      rcases hm with hold | ⟨⟨rfl, rfl⟩, hroom⟩
      · exact Or.inl hold
      · exact Or.inr ⟨rfl, hroom⟩
  | recvMaxStreamDataUnknown hreceivable hstop hrise hgone =>
      rcases hrecord rfl hfind with hold | ⟨⟨rfl, rfl⟩, hroom⟩
      · exact Or.inl hold
      · exact Or.inr ⟨rfl, hroom⟩
  | recvMaxStreamsBidi hle hrise => split_ifs at hfind <;> exact Or.inl hfind
  | recvMaxStreamsUni hle hrise => split_ifs at hfind <;> exact Or.inl hfind
  | _ => exact Or.inl hfind

end Limits

/-! ## What a change does to the table -/

/-- The limit that a new stream entry starts with. -/
def startCredit (isServer : Bool) (streamId : Nat) (w : WtSessionInfo) : Nat :=
  max (w.peerSendCreditForStream (isUniId streamId) (isServerId streamId == isServer))
    ((w.receivedMaxStreamDataById.find? streamId).getD 0)

theorem newStream_credit (w : WtSessionInfo) (config : H2SessionConfig) (isServer : Bool)
    {streamId : Nat} {isLocal isUni : Bool} (hlocal : isLocal = (isServerId streamId == isServer))
    (huni : isUni = isUniId streamId) :
    (w.newStream config streamId isLocal isUni).bytesSent = 0 ∧
      (w.newStream config streamId isLocal isUni).maxStreamDataLocal =
        w.startCredit isServer streamId := by
  unfold newStream initializeStreamSendCredit startCredit
  subst hlocal huni
  cases w.receivedMaxStreamDataById.find? streamId with
  | none => exact ⟨rfl, (Nat.max_zero _).symm⟩
  | some received =>
      refine ⟨rfl, ?_⟩
      dsimp only [Option.getD_some]
      split_ifs with hmore
      · exact (Nat.max_eq_right hmore.le).symm
      · exact (Nat.max_eq_left (not_lt.1 hmore)).symm

/-- What a change does to the streams, as far as their send credit is concerned: it rewrites an
entry, leaves all of them alone, creates a stream or releases one. -/
inductive Move (create : WtSessionInfo → Nat → Prop) (isServer : Bool) (w : WtSessionInfo)
    (l : Label) (w' : WtSessionInfo) : Prop
  | rewrite {streamId : Nat} {info info' : WtStreamInfo}
      (hfind : w.streams.find? streamId = some info)
      (hstreams : w'.streams = w.streams.insert streamId info')
      (hreleased : w'.releasedStreamIds = w.releasedStreamIds)
      (hnext : w'.nextUniStreamId = w.nextUniStreamId)
      (hbytes : info'.bytesSent = info.bytesSent + l.bytesOn streamId)
      (hothers : ∀ id, id ≠ streamId → l.bytesOn id = 0)
      (hlimit : info'.maxStreamDataLocal = info.maxStreamDataLocal ∨
        info.maxStreamDataLocal < info'.maxStreamDataLocal ∧
          l = .received (.maxStreamData streamId info'.maxStreamDataLocal) [])
  | still (hstreams : w'.streams = w.streams)
      (hreleased : w'.releasedStreamIds = w.releasedStreamIds)
      (hnext : w'.nextUniStreamId = w.nextUniStreamId) (hbytes : ∀ id, l.bytesOn id = 0)
  | create {streamId : Nat} {info : WtStreamInfo} (hcreate : create w streamId)
      (hnone : w.streams.find? streamId = none)
      (hstreams : w'.streams = w.streams.insert streamId info)
      (hreleased : w'.releasedStreamIds = w.releasedStreamIds)
      (hnext : isReceivableDataCapsule streamId isServer = true ∧
          w'.nextUniStreamId = w.nextUniStreamId ∨
        isReceivableDataCapsule streamId isServer = false ∧ streamId / 4 = w.nextUniStreamId ∧
          w'.nextUniStreamId = w.nextUniStreamId + 1)
      (hsent : info.bytesSent = 0) (hlimit : info.maxStreamDataLocal = w.startCredit isServer streamId)
      (hbytes : ∀ id, l.bytesOn id = 0)
  | release {streamId : Nat} {info : WtStreamInfo} (hfind : w.streams.find? streamId = some info)
      (hdropped : w' = w.dropStream streamId info) (hbytes : ∀ id, l.bytesOn id = 0)

section Move

variable {create : WtSessionInfo → Nat → Prop} {config : H2SessionConfig} {isServer : Bool}
  {w w' : WtSessionInfo} {l : Label} {streamId : Nat} {info : WtStreamInfo}

/-- Bytes sent on a stream are sent on no other. -/
theorem bytesOn_other {c : Capsule} {id : Nat} (hc : c.sendStream = some streamId)
    (hne : id ≠ streamId) : (Label.sent c).bytesOn id = 0 := by
  cases c with
  | wtStream fin sid data =>
      cases hc
      exact if_neg (Ne.symm hne)
  | _ => rfl

/-- The stream that received data reaches is rewritten, or created first. -/
theorem Reaches.move (h : Reaches (.creating create) config isServer w streamId info)
    (hreceivable : isReceivableDataCapsule streamId isServer = true) {info' : WtStreamInfo}
    (hstreams : w'.streams = w.streams.insert streamId info')
    (hreleased : w'.releasedStreamIds = w.releasedStreamIds)
    (hnext : w'.nextUniStreamId = w.nextUniStreamId) (hbytes : ∀ id, l.bytesOn id = 0)
    (hsent : info'.bytesSent = info.bytesSent)
    (hlimit : info'.maxStreamDataLocal = info.maxStreamDataLocal) :
    Move create isServer w l w' := by
  cases h with
  | existing hfind =>
      refine .rewrite hfind hstreams hreleased hnext ?_ (fun id _ => hbytes id) (Or.inl hlimit)
      rw [hsent, hbytes]
      rfl
  | created hcreate hnone hnew hbelow =>
      rcases newStream_credit w config isServer rfl rfl with ⟨hzero, hcredit⟩
      exact .create hcreate hnone hstreams hreleased (Or.inl ⟨hreceivable, hnext⟩)
        (hsent.trans hzero) (hlimit.trans hcredit) hbytes

/-- The stream that `open_stream` creates. -/
theorem move_open (isUni : Bool) (hcreate : create w (w.nextStreamId isServer isUni))
    (hnone : w.streams.find? (w.nextStreamId isServer isUni) = none) :
    Move create isServer w .internal ((w.allocateStreamId isUni).setStream
      (w.nextStreamId isServer isUni)
      (w.newStream config (w.nextStreamId isServer isUni) true isUni)) := by
  have hserver : isServerId (w.nextStreamId isServer isUni) = isServer :=
    isServerId_buildStreamId _ _ _
  have huni : isUniId (w.nextStreamId isServer isUni) = isUni := isUniId_buildStreamId _ _ _
  have hlocal : true = (isServerId (w.nextStreamId isServer isUni) == isServer) := by
    rw [hserver, beq_self_eq_true]
  rcases newStream_credit w config isServer hlocal huni.symm with ⟨hzero, hcredit⟩
  have hreceivable : isReceivableDataCapsule (w.nextStreamId isServer isUni) isServer = !isUni := by
    unfold isReceivableDataCapsule
    rw [huni, hserver, beq_self_eq_true]
    cases isUni <;> rfl
  refine .create hcreate hnone ?_ ?_ ?_ hzero hcredit fun _ => rfl
  · cases isUni <;> rfl
  · cases isUni <;> rfl
  · cases isUni with
    | true => exact Or.inr ⟨hreceivable, buildStreamId_div _ _ _, rfl⟩
    | false => exact Or.inl ⟨hreceivable, rfl⟩

theorem Trans.move (h : Trans (.creating create) config isServer w l w') :
    Move create isServer w l w' := by
  cases h with
  | enqueue data fin hfind hsendable hready hfin =>
      exact .rewrite hfind rfl rfl rfl rfl (fun _ _ => rfl) (Or.inl rfl)
  | @sendPart streamId info front rest size hfind hready hpending hsize hsession hstream =>
      refine .rewrite hfind rfl rfl rfl ?_ (fun id hne => bytesOn_other rfl hne) (Or.inl rfl)
      dsimp only [Label.bytesOn]
      rw [if_pos rfl, List.length_take, Nat.min_eq_left hsize.le]
  | @sendFront streamId info front rest hfind hready hpending hsession hstream =>
      refine .rewrite hfind rfl rfl rfl ?_ (fun id hne => bytesOn_other rfl hne) (Or.inl rfl)
      dsimp only [Label.bytesOn]
      rw [if_pos rfl]
  | clearPending hfind hdone =>
      exact .rewrite hfind rfl rfl rfl rfl (fun _ _ => rfl) (Or.inl rfl)
  | streamDataBlocked hfind hready hpending hexhausted =>
      exact .rewrite hfind rfl rfl rfl rfl (fun _ _ => rfl) (Or.inl rfl)
  | reset errorCode hpermit hfind hready =>
      exact .rewrite hfind rfl rfl rfl rfl (fun _ _ => rfl) (Or.inl rfl)
  | release hfind hreleasable => exact .release hfind rfl fun _ => rfl
  | grantStreamData hfind hreceivable hstop hrise hle =>
      exact .rewrite hfind rfl rfl rfl rfl (fun _ _ => rfl) (Or.inl rfl)
  | openBidi hcreate hopened hnone => exact move_open false hcreate hnone
  | openUni hcreate hopened hnone => exact move_open true hcreate hnone
  | recvStream hreceivable hreaches hstate hlate hsession hstream =>
      exact hreaches.move hreceivable rfl rfl rfl (fun _ => rfl) rfl rfl
  | recvReset hreceivable hreaches hstate =>
      exact hreaches.move hreceivable rfl rfl rfl (fun _ => rfl) rfl rfl
  | recvStop hreceivable hfirst hfind =>
      exact .rewrite hfind rfl rfl rfl rfl (fun _ _ => rfl) (Or.inl rfl)
  | recvMaxData hrise => split_ifs <;> exact .still rfl rfl rfl fun _ => rfl
  | recvMaxStreamData hreceivable hstop hrise hfind =>
      split_ifs with hmore
      · exact .rewrite hfind rfl rfl rfl rfl (fun _ _ => rfl) (Or.inr ⟨hmore, rfl⟩)
      · exact .still rfl rfl rfl fun _ => rfl
  | recvMaxStreamsBidi hle hrise => split_ifs <;> exact .still rfl rfl rfl fun _ => rfl
  | recvMaxStreamsUni hle hrise => split_ifs <;> exact .still rfl rfl rfl fun _ => rfl
  | _ => exact .still rfl rfl rfl fun _ => rfl

end Move

/-! ## Ids that are not created again -/

/-- The record of released ids has room, and the id is not in it. -/
def Fresh (isServer : Bool) (w : WtSessionInfo) (streamId : Nat) : Prop :=
  w.releasedStreamIds.card < kMaxReceivedMapEntries ∧
    (isReceivableDataCapsule streamId isServer = true → streamId ∉ w.releasedStreamIds)

/-- The record of released ids and the counter of opened streams agree with the table. -/
structure Table (isServer : Bool) (w : WtSessionInfo) : Prop where
  apart : ∀ id ∈ w.releasedStreamIds, w.streams.find? id = none
  recorded : ∀ id ∈ w.releasedStreamIds, isReceivableDataCapsule id isServer = true
  opened : ∀ id, w.streams.find? id ≠ none → isReceivableDataCapsule id isServer = false →
    id / 4 < w.nextUniStreamId

section Once

variable {isServer : Bool} {w w' : WtSessionInfo} {l : Label} {streamId : Nat} {info : WtStreamInfo}

theorem table_requested {config : H2SessionConfig} (h : w.Requested config) : Table isServer w := by
  refine ⟨?_, ?_, ?_⟩
  · intro id hid
    rw [h.released] at hid
    exact absurd hid (Finset.notMem_empty id)
  · intro id hid
    rw [h.released] at hid
    exact absurd hid (Finset.notMem_empty id)
  · intro id hlive
    rw [h.streams] at hlive
    exact absurd rfl hlive

/-- A released id is not created. -/
theorem Table.not_released (h : Table isServer w) (hcreate : Fresh isServer w streamId)
    (hnext : isReceivableDataCapsule streamId isServer = true ∨
      isReceivableDataCapsule streamId isServer = false ∧ streamId / 4 = w.nextUniStreamId) :
    ¬ Released isServer w streamId := by
  rintro (hmem | ⟨hsend, hindex, -⟩)
  · exact hcreate.2 (h.recorded _ hmem) hmem
  · rcases hnext with hreceivable | ⟨-, heq⟩
    · rw [hreceivable] at hsend
      cases hsend
    · rw [heq] at hindex
      exact lt_irrefl _ hindex

/-- A release records at most the id of the stream, where the peer could send on it. -/
theorem dropStream_records (hflags : info.flags = (isServerId streamId == isServer, isUniId streamId))
    {id : Nat} (hid : id ∈ (w.dropStream streamId info).releasedStreamIds) :
    id = streamId ∧ isReceivableDataCapsule streamId isServer = true ∨
      id ∈ w.releasedStreamIds := by
  by_cases hroom : w.releasedStreamIds.card < kMaxReceivedMapEntries
  · rw [dropStream_released hroom hflags] at hid
    split_ifs at hid with hreceivable
    · rcases Finset.mem_insert.1 hid with heq | hmem
      · exact Or.inl ⟨heq, hreceivable⟩
      · exact Or.inr hmem
    · exact Or.inr hid
  · unfold dropStream at hid
    dsimp only at hid
    rw [if_neg fun hboth => hroom hboth.2] at hid
    exact Or.inr hid

theorem dropStream_keeps (w : WtSessionInfo) (streamId : Nat) (info : WtStreamInfo) :
    w.releasedStreamIds ⊆ (w.dropStream streamId info).releasedStreamIds := by
  unfold dropStream
  dsimp only
  split_ifs
  · exact Finset.subset_insert _ _
  · exact Finset.Subset.refl _

/-- A released stream is recorded, or only this side sent on it. -/
theorem released_of_drop (htable : Table isServer w)
    (hroom : w.releasedStreamIds.card < kMaxReceivedMapEntries) (hwf : Wf isServer w)
    (hfind : w.streams.find? streamId = some info) :
    Released isServer (w.dropStream streamId info) streamId := by
  have hflags : info.flags = (isServerId streamId == isServer, isUniId streamId) :=
    Prod.ext (hwf.stream hfind).local_eq (hwf.stream hfind).uni_eq
  cases hreceivable : isReceivableDataCapsule streamId isServer with
  | true =>
      refine Or.inl ?_
      rw [dropStream_released hroom hflags, hreceivable, if_pos rfl]
      exact Finset.mem_insert_self _ _
  | false =>
      have hlive : w.streams.find? streamId ≠ none := by
        rw [hfind]
        exact Option.some_ne_none _
      exact Or.inr
        ⟨hreceivable, htable.opened streamId hlive hreceivable, OrdMap.find?_erase_self _ _⟩

/-- A change keeps the table in order and released ids released. -/
theorem Move.table (hmove : Move (Fresh isServer) isServer w l w') (hwf : Wf isServer w)
    (h : Table isServer w) :
    Table isServer w' ∧ w.releasedStreamIds ⊆ w'.releasedStreamIds ∧
      ∀ id, Released isServer w id → Released isServer w' id := by
  cases hmove with
  | @rewrite streamId info info' hfind hstreams hreleased hnext =>
      have hsame : ∀ id, w'.streams.find? id = none ↔ w.streams.find? id = none := by
        intro id
        rw [hstreams, OrdMap.find?_insert]
        split_ifs with heq
        · rw [heq, hfind]
          simp
        · exact Iff.rfl
      refine ⟨⟨?_, ?_, ?_⟩, hreleased.symm.subset, ?_⟩
      · intro id hid
        rw [hreleased] at hid
        exact (hsame id).2 (h.apart id hid)
      · rw [hreleased]
        exact h.recorded
      · intro id hlive
        rw [hnext]
        exact h.opened id fun hnone => hlive ((hsame id).2 hnone)
      · rintro id (hmem | ⟨hsend, hindex, hnone⟩)
        · exact Or.inl (hreleased ▸ hmem)
        · exact Or.inr ⟨hsend, hnext ▸ hindex, (hsame id).2 hnone⟩
  | still hstreams hreleased hnext =>
      refine ⟨⟨?_, ?_, ?_⟩, hreleased.symm.subset, ?_⟩
      · rw [hreleased, hstreams]
        exact h.apart
      · rw [hreleased]
        exact h.recorded
      · rw [hstreams, hnext]
        exact h.opened
      · intro id
        unfold Released
        rw [hstreams, hreleased, hnext]
        exact fun hid => hid
  | @create streamId info hcreate hnone hstreams hreleased hnext =>
      have hnot : ¬ Released isServer w streamId := by
        refine h.not_released hcreate ?_
        rcases hnext with ⟨hreceivable, -⟩ | ⟨hsend, heq, -⟩
        · exact Or.inl hreceivable
        · exact Or.inr ⟨hsend, heq⟩
      have hle : w.nextUniStreamId ≤ w'.nextUniStreamId := by
        rcases hnext with ⟨-, heq⟩ | ⟨-, -, heq⟩
        · exact heq.ge
        · exact heq ▸ Nat.le_succ _
      refine ⟨⟨?_, ?_, ?_⟩, hreleased.symm.subset, ?_⟩
      · intro id hid
        rw [hreleased] at hid
        rw [hstreams, OrdMap.find?_insert]
        split_ifs with heq
        · exact absurd (Or.inl (heq ▸ hid)) hnot
        · exact h.apart id hid
      · rw [hreleased]
        exact h.recorded
      · intro id hlive hsend
        rw [hstreams, OrdMap.find?_insert] at hlive
        split_ifs at hlive with heq
        · rcases hnext with ⟨hreceivable, -⟩ | ⟨-, hindex, hmore⟩
          · rw [← heq, hsend] at hreceivable
            cases hreceivable
          · rw [heq, hindex, hmore]
            exact Nat.lt_succ_self _
        · exact (h.opened id hlive hsend).trans_le hle
      · intro id hid
        have hne : id ≠ streamId := fun heq => hnot (heq ▸ hid)
        rcases hid with hmem | ⟨hsend, hindex, hgone⟩
        · exact Or.inl (hreleased ▸ hmem)
        · refine Or.inr ⟨hsend, hindex.trans_le hle, ?_⟩
          rw [hstreams, OrdMap.find?_insert, if_neg hne]
          exact hgone
  | @release streamId info hfind hdropped =>
      subst hdropped
      have hflags : info.flags = (isServerId streamId == isServer, isUniId streamId) :=
        Prod.ext (hwf.stream hfind).local_eq (hwf.stream hfind).uni_eq
      have hfind' : ∀ id, (w.dropStream streamId info).streams.find? id =
          if id = streamId then none else w.streams.find? id := fun id =>
        OrdMap.find?_erase w.streams streamId id
      refine ⟨⟨?_, ?_, ?_⟩, dropStream_keeps w streamId info, ?_⟩
      · intro id hid
        rw [hfind']
        split_ifs with heq
        · rfl
        · rcases dropStream_records hflags hid with ⟨hsame, -⟩ | hmem
          · exact absurd hsame heq
          · exact h.apart id hmem
      · intro id hid
        rcases dropStream_records hflags hid with ⟨rfl, hreceivable⟩ | hmem
        · exact hreceivable
        · exact h.recorded id hmem
      · intro id hlive
        rw [hfind'] at hlive
        split_ifs at hlive
        · exact absurd rfl hlive
        · exact h.opened id hlive
      · rintro id (hmem | ⟨hsend, hindex, hnone⟩)
        · exact Or.inl (dropStream_keeps w streamId info hmem)
        · refine Or.inr ⟨hsend, hindex, ?_⟩
          rw [hfind']
          split_ifs
          · rfl
          · exact hnone

/-- A stream that a change creates was not released. -/
theorem Move.created (hmove : Move (Fresh isServer) isServer w l w') (htable : Table isServer w)
    (hnone : w.streams.find? streamId = none) (hfind : w'.streams.find? streamId = some info) :
    w.releasedStreamIds.card < kMaxReceivedMapEntries ∧ ¬ Released isServer w streamId := by
  cases hmove with
  | rewrite hold hstreams =>
      rw [hstreams, OrdMap.find?_insert] at hfind
      split_ifs at hfind with heq
      · rw [heq, hold] at hnone
        cases hnone
      · rw [hnone] at hfind
        cases hfind
  | still hstreams =>
      rw [hstreams, hnone] at hfind
      cases hfind
  | create hcreate hnew hstreams hreleased hnext =>
      rw [hstreams, OrdMap.find?_insert] at hfind
      split_ifs at hfind with heq
      · subst heq
        refine ⟨hcreate.1, htable.not_released hcreate ?_⟩
        rcases hnext with ⟨hreceivable, -⟩ | ⟨hsend, hindex, -⟩
        · exact Or.inl hreceivable
        · exact Or.inr ⟨hsend, hindex⟩
      · rw [hnone] at hfind
        cases hfind
  | release hold hdropped =>
      subst hdropped
      have hfind' : (w.streams.erase _).find? streamId = some info := hfind
      rw [OrdMap.find?_erase] at hfind'
      split_ifs at hfind'
      rw [hnone] at hfind'
      cases hfind'

/-- A stream that a change takes away is released. -/
theorem Move.gone {create : WtSessionInfo → Nat → Prop} (hmove : Move create isServer w l w')
    (hwf : Wf isServer w) (htable : Table isServer w) (hfind : w.streams.find? streamId = some info)
    (hnone : w'.streams.find? streamId = none)
    (hroom : w.releasedStreamIds.card < kMaxReceivedMapEntries) : Released isServer w' streamId := by
  have hkept : ∀ {id : Nat} {info' : WtStreamInfo}, w'.streams = w.streams.insert id info' →
      Released isServer w' streamId := by
    intro id info' hstreams
    rw [hstreams, OrdMap.find?_insert] at hnone
    split_ifs at hnone
    rw [hfind] at hnone
    cases hnone
  cases hmove with
  | rewrite hold hstreams => exact hkept hstreams
  | still hstreams =>
      rw [hstreams, hfind] at hnone
      cases hnone
  | create hcreate hnew hstreams => exact hkept hstreams
  | @release id info' hold hdropped =>
      subst hdropped
      rcases eq_or_ne streamId id with rfl | hne
      · exact released_of_drop htable hroom hwf hold
      · have hnone' : (w.streams.erase id).find? streamId = none := hnone
        rw [OrdMap.find?_erase_ne _ hne, hfind] at hnone'
        cases hnone'

end Once

/-! ## Along the changes of an entry -/

end WtSessionInfo

/-- The limit that a WebTransport-Init sets for streams of the given direction and initiator: `br`
is for the streams opened here, `bl` for those of the peer. -/
def H2Session.InitLimits.streamCredit (l : H2Session.InitLimits) (isUni isLocal : Bool) :
    Option Nat :=
  if isUni then l.u else if isLocal then l.br else l.bl

/-- The label of a change; initial limits have none of their own. -/
def Moment.label : Moment → Label
  | .change l => l
  | .limits _ => .internal

namespace WtSessionInfo

section Sessions

variable {create : WtSessionInfo → Nat → Prop} {met : WtSessionInfo → Received → Prop}
  {config : H2SessionConfig} {isServer : Bool} {w₀ w w' : WtSessionInfo} {ms : List Moment}
  {m : Moment}

/-- Stream Data bytes that the changes send. -/
def sentBytes (ms : List Moment) : Nat := ((Moment.labels ms).map Label.bytes).sum

/-- Stream Data bytes that the changes send on a stream id. -/
def sentBytesOn (id : Nat) (ms : List Moment) : Nat :=
  ((Moment.labels ms).map (Label.bytesOn id)).sum

@[simp] theorem sentBytes_append (ms ms' : List Moment) :
    sentBytes (ms ++ ms') = sentBytes ms + sentBytes ms' := by
  unfold sentBytes
  rw [Moment.labels_append, List.map_append, List.sum_append]

@[simp] theorem sentBytesOn_append (id : Nat) (ms ms' : List Moment) :
    sentBytesOn id (ms ++ ms') = sentBytesOn id ms + sentBytesOn id ms' := by
  unfold sentBytesOn
  rw [Moment.labels_append, List.map_append, List.sum_append]

theorem sentBytes_change (l : Label) : sentBytes [.change l] = l.bytes := Nat.add_zero _

theorem sentBytesOn_singleton (id : Nat) (m : Moment) :
    sentBytesOn id [m] = m.label.bytesOn id := by
  cases m with
  | change l => exact Nat.add_zero _
  | limits l => rfl

/-- WebTransport-Init raises the initial limits it names. -/
theorem applyInitLimits_credit (w : WtSessionInfo) (l : H2Session.InitLimits)
    (isUni isLocal : Bool) :
    (H2Session.applyInitLimits w l).peerSendCreditForStream isUni isLocal =
      max (w.peerSendCreditForStream isUni isLocal) ((l.streamCredit isUni isLocal).getD 0) := by
  rcases l with ⟨u, bl, br⟩
  cases isUni <;> cases isLocal <;> cases u <;> cases bl <;> cases br <;>
    simp [H2Session.applyInitLimits, peerSendCreditForStream, H2Session.InitLimits.streamCredit]

/-- The limits of a session behind the changes `ms`: each is the first one or was received, none has
fallen, and the streams opened here stay below theirs. -/
structure Granted (met : WtSessionInfo → Received → Prop) (w₀ : WtSessionInfo) (ms : List Moment)
    (w : WtSessionInfo) : Prop where
  data : w.maxDataLocal = w₀.maxDataLocal ∨ ∃ w₁, met w₁ (.maxData w.maxDataLocal)
  rises : w₀.maxDataLocal ≤ w.maxDataLocal
  streams : ∀ isUni, w.maxStreamsLocal isUni = w₀.maxStreamsLocal isUni ∨
    ∃ w₁, met w₁ (.maxStreams (!isUni) (w.maxStreamsLocal isUni))
  streamsRise : ∀ isUni, w₀.maxStreamsLocal isUni ≤ w.maxStreamsLocal isUni
  sent : w.bytesSent = w₀.bytesSent + sentBytes ms
  within : (∀ isUni, w₀.nextCounter isUni = w₀.streamsOpened isUni ∧
      w₀.streamsOpened isUni ≤ w₀.maxStreamsLocal isUni) →
    ∀ isUni, w.nextCounter isUni = w.streamsOpened isUni ∧
      w.streamsOpened isUni ≤ w.maxStreamsLocal isUni

/-- What only the limits and counters of the session are asked about. -/
def sessionLimits (w : WtSessionInfo) : Nat × Nat × Nat × Nat × Nat × Nat × Nat × Nat :=
  (w.maxDataLocal, w.maxStreamsBidiLocal, w.maxStreamsUniLocal, w.bytesSent, w.nextBidiStreamId,
    w.nextUniStreamId, w.streamsBidiOpened, w.streamsUniOpened)

theorem Granted.beside (h : Granted met w₀ ms w) (hsame : w'.sessionLimits = w.sessionLimits)
    (hquiet : sentBytes [m] = 0) : Granted met w₀ (ms ++ [m]) w' := by
  simp only [sessionLimits, Prod.mk.injEq] at hsame
  rcases hsame with ⟨hdata, hbidi, huni, hsent, hnextBidi, hnextUni, hopenedBidi, hopenedUni⟩
  have hstreams : ∀ isUni, w'.maxStreamsLocal isUni = w.maxStreamsLocal isUni := by
    intro isUni
    unfold maxStreamsLocal
    rw [hbidi, huni]
  have hnext : ∀ isUni, w'.nextCounter isUni = w.nextCounter isUni := by
    intro isUni
    unfold nextCounter
    rw [hnextBidi, hnextUni]
  have hopened : ∀ isUni, w'.streamsOpened isUni = w.streamsOpened isUni := by
    intro isUni
    unfold streamsOpened
    rw [hopenedBidi, hopenedUni]
  refine ⟨hdata ▸ h.data, hdata ▸ h.rises, fun isUni => hstreams isUni ▸ h.streams isUni,
    fun isUni => hstreams isUni ▸ h.streamsRise isUni, ?_, ?_⟩
  · rw [hsent, h.sent, sentBytes_append, hquiet, Nat.add_zero]
  · intro hstart isUni
    rw [hnext, hopened, hstreams]
    exact h.within hstart isUni

/-- Every change keeps the session within what was granted. -/
theorem Granted.change (h : Granted met w₀ ms w) (hchange : Change create met config isServer w m w') :
    Granted met w₀ (ms ++ [m]) w' := by
  cases hchange with
  | trans htrans hmet =>
      refine ⟨?_, ?_, ?_, ?_, ?_, ?_⟩
      · rcases htrans.maxData with hsame | ⟨-, hl⟩
        · exact hsame ▸ h.data
        · exact Or.inr ⟨w, hmet _ _ hl⟩
      · rcases htrans.maxData with hsame | ⟨hmore, -⟩
        · exact hsame ▸ h.rises
        · exact h.rises.trans hmore.le
      · intro isUni
        rcases htrans.maxStreams isUni with hsame | ⟨-, hl⟩
        · exact hsame ▸ h.streams isUni
        · exact Or.inr ⟨w, hmet _ _ hl⟩
      · intro isUni
        rcases htrans.maxStreams isUni with hsame | ⟨hmore, -⟩
        · exact hsame ▸ h.streamsRise isUni
        · exact (h.streamsRise isUni).trans hmore.le
      · rw [htrans.bytesSent, h.sent, sentBytes_append, sentBytes_change, Nat.add_assoc]
      · intro hstart isUni
        rcases h.within hstart isUni with ⟨hcounter, hle⟩
        have hmore : w.maxStreamsLocal isUni ≤ w'.maxStreamsLocal isUni := by
          rcases htrans.maxStreams isUni with hsame | ⟨hlt, -⟩
          · exact hsame.ge
          · exact hlt.le
        rcases htrans.opened isUni with ⟨hnext, hopened⟩ | ⟨hnext, hopened, hlt⟩
        · rw [hnext, hopened]
          exact ⟨hcounter, hle.trans hmore⟩
        · rw [hnext, hopened, hcounter]
          exact ⟨rfl, (Nat.succ_le_of_lt hlt).trans hmore⟩
  | keeps hcore => exact h.beside (congrArg sessionLimits hcore :) rfl
  | refused hcreate hreceivable hnone => exact h.beside rfl rfl
  | limits l =>
      rcases l with ⟨u, bl, br⟩
      refine h.beside ?_ rfl
      cases u <;> cases bl <;> cases br <;> rfl

theorem granted_start (met : WtSessionInfo → Received → Prop) (w₀ : WtSessionInfo) :
    Granted met w₀ [] w₀ :=
  ⟨Or.inl rfl, le_rfl, fun _ => Or.inl rfl, fun _ => le_rfl, rfl, fun hstart => hstart⟩

/-- The session's limits behind any changes. -/
theorem granted_of_path (h : Path (Change create met config isServer) w₀ ms w) :
    Granted met w₀ ms w := by
  have hhistory := h.history (fun ms w => Granted met w₀ ms w)
    (fun hgranted hchange => hgranted.change hchange) [] (granted_start met w₀)
  rwa [List.nil_append] at hhistory

end Sessions

/-! ## The limits of a stream id -/

/-- When a WT_MAX_STREAM_DATA counts for a stream id: the stream is there, a value is remembered for
the id, or there is room for one. -/
def CountsFor (id : Nat) (w : WtSessionInfo) : Prop :=
  w.streams.find? id ≠ none ∨ (w.receivedMaxStreamDataById.find? id).isSome = true ∨
    w.receivedMaxStreamDataById.size < kMaxReceivedMapEntries

/-- The peer let this side send `value` bytes on a stream id: as an initial limit of the SETTINGS, of
a WebTransport-Init, or by a WT_MAX_STREAM_DATA for the id. -/
inductive AllowedOn (met : WtSessionInfo → Received → Prop) (isServer : Bool) (id : Nat)
    (w₀ : WtSessionInfo) (inits : List H2Session.InitLimits) (value : Nat) : Prop
  | settings (hle : value ≤ w₀.peerSendCreditForStream (isUniId id) (isServerId id == isServer))
  | init {l : H2Session.InitLimits} {limit : Nat} (hl : l ∈ inits)
      (hlimit : l.streamCredit (isUniId id) (isServerId id == isServer) = some limit)
      (hle : value ≤ limit)
  | capsule {w : WtSessionInfo} {limit : Nat} (hmet : met w (.maxStreamData id limit))
      (hcounts : CountsFor id w) (hle : value ≤ limit)

namespace AllowedOn

variable {met : WtSessionInfo → Received → Prop} {isServer : Bool} {id : Nat} {w₀ : WtSessionInfo}
  {inits inits' : List H2Session.InitLimits} {value value' : Nat}

theorem mono (h : AllowedOn met isServer id w₀ inits value) (hle : value' ≤ value)
    (hinits : ∀ l ∈ inits, l ∈ inits') : AllowedOn met isServer id w₀ inits' value' := by
  cases h with
  | settings hbound => exact .settings (hle.trans hbound)
  | init hl hlimit hbound => exact .init (hinits _ hl) hlimit (hle.trans hbound)
  | capsule hmet hcounts hbound => exact .capsule hmet hcounts (hle.trans hbound)

end AllowedOn

section Streams

variable {create : WtSessionInfo → Nat → Prop} {met : WtSessionInfo → Received → Prop}
  {config : H2SessionConfig} {isServer : Bool} {id : Nat} {w₀ w w' : WtSessionInfo}
  {ms : List Moment} {m : Moment}

/-- The limits kept for a stream id behind the changes `ms`: all of them were allowed. -/
structure StreamGranted (met : WtSessionInfo → Received → Prop) (isServer : Bool) (id : Nat)
    (w₀ : WtSessionInfo) (ms : List Moment) (w : WtSessionInfo) : Prop where
  wf : Wf isServer w
  credit : AllowedOn met isServer id w₀ (Moment.inits ms)
    (w.peerSendCreditForStream (isUniId id) (isServerId id == isServer))
  recorded : ∀ value, w.receivedMaxStreamDataById.find? id = some value →
    AllowedOn met isServer id w₀ (Moment.inits ms) value
  live : ∀ info, w.streams.find? id = some info →
    AllowedOn met isServer id w₀ (Moment.inits ms) info.maxStreamDataLocal

/-- A new entry starts with an allowed limit. -/
theorem StreamGranted.start (h : StreamGranted met isServer id w₀ ms w) :
    AllowedOn met isServer id w₀ (Moment.inits ms) (w.startCredit isServer id) := by
  unfold startCredit
  rcases Nat.le_total ((w.receivedMaxStreamDataById.find? id).getD 0)
      (w.peerSendCreditForStream (isUniId id) (isServerId id == isServer)) with hle | hle
  · rw [Nat.max_eq_left hle]
    exact h.credit
  · rw [Nat.max_eq_right hle]
    cases hfind : w.receivedMaxStreamDataById.find? id with
    | none =>
        rw [hfind] at hle
        exact h.credit.mono (Nat.zero_le _) fun l hl => hl
    | some value => exact h.recorded value hfind

/-- The initial limits of streams to come. -/
def peerCredits (w : WtSessionInfo) : Nat × Nat × Nat :=
  (w.peerMaxStreamDataUni, w.peerMaxStreamDataBidiLocal, w.peerMaxStreamDataBidiRemote)

/-- Every change is a move. -/
theorem Change.moved (h : Change create met config isServer w m w') :
    Move create isServer w m.label w' ∧ ∀ r events, m.label = .received r events → met w r := by
  cases h with
  | trans htrans hmet => exact ⟨htrans.move, hmet⟩
  | keeps hcore =>
      refine ⟨.still ?_ ?_ ?_ fun _ => rfl, by simp [Moment.label]⟩
      · exact (congrArg WtSessionInfo.streams hcore :)
      · exact (congrArg releasedStreamIds hcore :)
      · exact (congrArg nextUniStreamId hcore :)
  | refused hcreate hreceivable hnone =>
      -- Stream data that is refused creates its stream.
      rcases newStream_credit w config isServer rfl rfl with ⟨hzero, hcredit⟩
      refine ⟨?_, by simp [Moment.label]⟩
      exact .create hcreate hnone rfl rfl (Or.inl ⟨hreceivable, rfl⟩) hzero hcredit fun _ => rfl
  | limits l =>
      rcases l with ⟨u, bl, br⟩
      refine ⟨?_, by simp [Moment.label]⟩
      cases u <;> cases bl <;> cases br <;> exact .still rfl rfl rfl fun _ => rfl

/-- The limit of a stream that a change leaves was allowed. -/
theorem StreamGranted.move (h : StreamGranted met isServer id w₀ ms w) {l : Label}
    (hmove : Move create isServer w l w')
    (hmet : ∀ r events, l = .received r events → met w r) {info : WtStreamInfo}
    (hfind : w'.streams.find? id = some info) :
    AllowedOn met isServer id w₀ (Moment.inits ms) info.maxStreamDataLocal := by
  cases hmove with
  | @rewrite streamId old info' hold hstreams hreleased hnext hbytes hothers hlimit =>
      rw [hstreams, OrdMap.find?_insert] at hfind
      split_ifs at hfind with heq
      · cases hfind
        subst heq
        rcases hlimit with hsame | ⟨-, hl⟩
        · rw [hsame]
          exact h.live old hold
        · refine .capsule (hmet _ _ hl) (Or.inl ?_) le_rfl
          rw [hold]
          exact Option.some_ne_none _
      · exact h.live info hfind
  | still hstreams =>
      rw [hstreams] at hfind
      exact h.live info hfind
  | create hcreate hnone hstreams hreleased hnext hsent hlimit =>
      rw [hstreams, OrdMap.find?_insert] at hfind
      split_ifs at hfind with heq
      · cases hfind
        subst heq
        rw [hlimit]
        exact h.start
      · exact h.live info hfind
  | @release streamId old hold hdropped =>
      subst hdropped
      have hfind' : (w.streams.erase streamId).find? id = some info := hfind
      rw [OrdMap.find?_erase] at hfind'
      split_ifs at hfind'
      exact h.live info hfind'

theorem StreamGranted.change (h : StreamGranted met isServer id w₀ ms w)
    (hchange : Change create met config isServer w m w') :
    StreamGranted met isServer id w₀ (ms ++ [m]) w' := by
  have hmore : ∀ l ∈ Moment.inits ms, l ∈ Moment.inits (ms ++ [m]) := by
    intro l hl
    rw [Moment.inits_append]
    exact List.mem_append_left _ hl
  rcases hchange.moved with ⟨hmove, hmet⟩
  refine ⟨hchange.wf h.wf, ?_, ?_, fun info hfind => (h.move hmove hmet hfind).mono le_rfl hmore⟩
  · cases hchange with
    | trans htrans =>
        rw [htrans.peerCredit]
        exact h.credit.mono le_rfl hmore
    | keeps hcore =>
        have hsame : w'.peerCredits = w.peerCredits := (congrArg peerCredits hcore :)
        simp only [peerCredits, Prod.mk.injEq] at hsame
        unfold peerSendCreditForStream
        rw [hsame.1, hsame.2.1, hsame.2.2]
        exact h.credit.mono le_rfl hmore
    | refused => exact h.credit.mono le_rfl hmore
    | limits l =>
        rw [applyInitLimits_credit]
        cases hlimit : l.streamCredit (isUniId id) (isServerId id == isServer) with
        | none =>
            rw [Option.getD_none, Nat.max_zero]
            exact h.credit.mono le_rfl hmore
        | some limit =>
            rw [Option.getD_some]
            rcases Nat.le_total limit
                (w.peerSendCreditForStream (isUniId id) (isServerId id == isServer)) with hle | hle
            · rw [Nat.max_eq_left hle]
              exact h.credit.mono le_rfl hmore
            · rw [Nat.max_eq_right hle]
              refine .init ?_ hlimit le_rfl
              rw [Moment.inits_append]
              exact List.mem_append_right _ (List.mem_singleton.2 rfl)
  · intro value hvalue
    cases hchange with
    | trans htrans =>
        rcases htrans.recorded hvalue with hold | ⟨hl, hroom⟩
        · exact (h.recorded value hold).mono le_rfl hmore
        · exact .capsule (hmet _ _ hl) (Or.inr hroom) le_rfl
    | keeps hcore =>
        have hsame : w'.receivedMaxStreamDataById = w.receivedMaxStreamDataById :=
          (congrArg receivedMaxStreamDataById hcore :)
        exact (h.recorded value (hsame ▸ hvalue)).mono le_rfl hmore
    | refused => exact (h.recorded value hvalue).mono le_rfl hmore
    | limits l =>
        rcases l with ⟨u, bl, br⟩
        refine (h.recorded value ?_).mono le_rfl hmore
        cases u <;> cases bl <;> cases br <;> exact hvalue

/-! ## Streams that are not created again -/

/-- The bytes sent on a stream id that is not created again are those its entry has counted, or,
where it is gone, no more than was allowed. -/
structure SentOnce (met : WtSessionInfo → Received → Prop) (isServer : Bool) (id : Nat)
    (w₀ : WtSessionInfo) (ms : List Moment) (w : WtSessionInfo) : Prop where
  granted : StreamGranted met isServer id w₀ ms w
  table : Table isServer w
  live : ∀ info, w.streams.find? id = some info → info.bytesSent = sentBytesOn id ms
  gone : w.streams.find? id = none →
    AllowedOn met isServer id w₀ (Moment.inits ms) (sentBytesOn id ms) ∧
      (sentBytesOn id ms ≠ 0 → w.releasedStreamIds.card < kMaxReceivedMapEntries →
        Released isServer w id)

theorem SentOnce.change (h : SentOnce met isServer id w₀ ms w)
    (hchange : Change (Fresh isServer) met config isServer w m w') :
    SentOnce met isServer id w₀ (ms ++ [m]) w' := by
  have hmore : ∀ l ∈ Moment.inits ms, l ∈ Moment.inits (ms ++ [m]) := by
    intro l hl
    rw [Moment.inits_append]
    exact List.mem_append_left _ hl
  have htotal : sentBytesOn id (ms ++ [m]) = sentBytesOn id ms + m.label.bytesOn id := by
    rw [sentBytesOn_append, sentBytesOn_singleton]
  have hgranted := h.granted.change hchange
  have hmove := hchange.moved.1
  rcases hmove.table h.granted.wf h.table with ⟨htable, hsubset, hstill⟩
  -- A full record stays full.
  have hroom : w'.releasedStreamIds.card < kMaxReceivedMapEntries →
      w.releasedStreamIds.card < kMaxReceivedMapEntries := fun hfew =>
    (Finset.card_le_card hsubset).trans_lt hfew
  -- Where the stream is not touched, nothing is sent on it.
  have huntouched : m.label.bytesOn id = 0 → w'.streams.find? id = w.streams.find? id →
      SentOnce met isServer id w₀ (ms ++ [m]) w' := by
    intro hquiet hsame
    rw [hquiet, Nat.add_zero] at htotal
    refine ⟨hgranted, htable, ?_, ?_⟩
    · rw [hsame, htotal]
      exact h.live
    · rw [hsame, htotal]
      intro hnone
      refine ⟨(h.gone hnone).1.mono le_rfl hmore, fun hsent hfew => ?_⟩
      exact hstill id ((h.gone hnone).2 hsent (hroom hfew))
  cases hmove with
  | @rewrite streamId old info' hold hstreams hreleased hnext hbytes hothers =>
      rcases eq_or_ne id streamId with rfl | hne
      · have hnew : w'.streams.find? id = some info' := by
          rw [hstreams]
          exact OrdMap.find?_insert_self _ _ _
        refine ⟨hgranted, htable, ?_, ?_⟩
        · intro info hinfo
          rw [hnew] at hinfo
          cases hinfo
          rw [hbytes, h.live old hold, htotal]
        · intro hnone
          rw [hnew] at hnone
          cases hnone
      · refine huntouched (hothers id hne) ?_
        rw [hstreams, OrdMap.find?_insert, if_neg hne]
  | still hstreams hreleased hnext hbytes => exact huntouched (hbytes id) (by rw [hstreams])
  | @create streamId info hcreate hnone hstreams hreleased hnext hsent hlimit hbytes =>
      rcases eq_or_ne id streamId with rfl | hne
      · have hnew : w'.streams.find? id = some info := by
          rw [hstreams]
          exact OrdMap.find?_insert_self _ _ _
        have hzero : sentBytesOn id ms = 0 := by
          by_contra hsome
          refine h.table.not_released hcreate ?_ ((h.gone hnone).2 hsome hcreate.1)
          rcases hnext with ⟨hreceivable, -⟩ | ⟨hsend, heq, -⟩
          · exact Or.inl hreceivable
          · exact Or.inr ⟨hsend, heq⟩
        refine ⟨hgranted, htable, ?_, ?_⟩
        · intro info' hinfo
          rw [hnew] at hinfo
          cases hinfo
          rw [hsent, htotal, hzero, hbytes]
        · intro hgone
          rw [hnew] at hgone
          cases hgone
      · refine huntouched (hbytes id) ?_
        rw [hstreams, OrdMap.find?_insert, if_neg hne]
  | @release streamId info hfind hdropped hbytes =>
      rcases eq_or_ne id streamId with rfl | hne
      · have hgone : w'.streams.find? id = none := by
          rw [hdropped]
          exact OrdMap.find?_erase_self _ _
        rw [hbytes, Nat.add_zero] at htotal
        refine ⟨hgranted, htable, ?_, ?_⟩
        · intro info' hinfo
          rw [hgone] at hinfo
          cases hinfo
        · intro _
          rw [htotal]
          refine ⟨?_, fun _ hfew => ?_⟩
          · -- What was sent stayed within the entry's limit, which was allowed.
            have hle : sentBytesOn id ms ≤ info.maxStreamDataLocal :=
              calc
                sentBytesOn id ms = info.bytesSent := (h.live info hfind).symm
                _ ≤ info.maxStreamDataLocal := (h.granted.wf.stream hfind).sent_le
            exact (h.granted.live info hfind).mono hle hmore
          · rw [hdropped]
            exact released_of_drop h.table (hroom hfew) h.granted.wf hfind
      · refine huntouched (hbytes id) ?_
        rw [hdropped]
        exact OrdMap.find?_erase_ne _ hne

/-- The bytes sent on a stream id behind the changes of a requested entry were allowed. -/
theorem SentOnce.allowed (h : SentOnce met isServer id w₀ ms w) :
    AllowedOn met isServer id w₀ (Moment.inits ms) (sentBytesOn id ms) := by
  cases hfind : w.streams.find? id with
  | none => exact (h.gone hfind).1
  | some info =>
      have hle : sentBytesOn id ms ≤ info.maxStreamDataLocal :=
        calc
          sentBytesOn id ms = info.bytesSent := (h.live info hfind).symm
          _ ≤ info.maxStreamDataLocal := (h.granted.wf.stream hfind).sent_le
      exact (h.granted.live info hfind).mono hle fun l hl => hl

/-- The limit of a stream that is not created again is at least `limit`, or the stream is gone. -/
structure AtLeast (isServer : Bool) (id limit : Nat) (w : WtSessionInfo) : Prop where
  wf : Wf isServer w
  table : Table isServer w
  live : ∀ info, w.streams.find? id = some info → limit ≤ info.maxStreamDataLocal
  gone : w.streams.find? id = none → w.releasedStreamIds.card < kMaxReceivedMapEntries →
    Released isServer w id

theorem AtLeast.change {limit : Nat} (h : AtLeast isServer id limit w)
    (hchange : Change (Fresh isServer) met config isServer w m w') :
    AtLeast isServer id limit w' := by
  have hmove := hchange.moved.1
  rcases hmove.table h.wf h.table with ⟨htable, hsubset, hstill⟩
  have hroom : w'.releasedStreamIds.card < kMaxReceivedMapEntries →
      w.releasedStreamIds.card < kMaxReceivedMapEntries := fun hfew =>
    (Finset.card_le_card hsubset).trans_lt hfew
  have huntouched : w'.streams.find? id = w.streams.find? id → AtLeast isServer id limit w' := by
    intro hsame
    refine ⟨hchange.wf h.wf, htable, ?_, ?_⟩
    · rw [hsame]
      exact h.live
    · rw [hsame]
      exact fun hnone hfew => hstill id (h.gone hnone (hroom hfew))
  cases hmove with
  | @rewrite streamId old info' hold hstreams hreleased hnext hbytes hothers hlimit =>
      rcases eq_or_ne id streamId with rfl | hne
      · have hnew : w'.streams.find? id = some info' := by
          rw [hstreams]
          exact OrdMap.find?_insert_self _ _ _
        refine ⟨hchange.wf h.wf, htable, ?_, ?_⟩
        · intro info hinfo
          rw [hnew] at hinfo
          cases hinfo
          have hold' := h.live old hold
          rcases hlimit with hsame | ⟨hmore, -⟩
          · exact hold'.trans hsame.ge
          · exact hold'.trans hmore.le
        · intro hnone
          rw [hnew] at hnone
          cases hnone
      · refine huntouched ?_
        rw [hstreams, OrdMap.find?_insert, if_neg hne]
  | still hstreams => exact huntouched (by rw [hstreams])
  | @create streamId info hcreate hnone hstreams hreleased hnext =>
      rcases eq_or_ne id streamId with rfl | hne
      · refine absurd (h.gone hnone hcreate.1) (h.table.not_released hcreate ?_)
        rcases hnext with ⟨hreceivable, -⟩ | ⟨hsend, heq, -⟩
        · exact Or.inl hreceivable
        · exact Or.inr ⟨hsend, heq⟩
      · refine huntouched ?_
        rw [hstreams, OrdMap.find?_insert, if_neg hne]
  | @release streamId info hfind hdropped =>
      rcases eq_or_ne id streamId with rfl | hne
      · have hgone : w'.streams.find? id = none := by
          rw [hdropped]
          exact OrdMap.find?_erase_self _ _
        refine ⟨hchange.wf h.wf, htable, ?_, ?_⟩
        · intro info' hinfo
          rw [hgone] at hinfo
          cases hinfo
        · intro _ hfew
          rw [hdropped]
          exact released_of_drop h.table (hroom hfew) h.wf hfind
      · refine huntouched ?_
        rw [hdropped]
        exact OrdMap.find?_erase_ne _ hne

end Streams

end WtSessionInfo

end H2
end WebTransport
