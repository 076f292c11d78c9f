import WebTransport.Server.Tables

/-!
# Server.Routing — which connection a datagram is passed to

The QUIC server looks the source address up first.  The connection id of a short header decides only
where that address is unknown.
-/

namespace WebTransport
namespace Server

open Quic

namespace QuicServer

variable {Addr Conn : Type} [DecidableEq Addr] [DecidableEq Conn] {s : QuicServer Addr Conn}
  {connection : Conn} {addr : Addr} {data : Bytes}

/-! ## Calls of `receive` -/

omit [DecidableEq Addr] [DecidableEq Conn] in
@[simp] theorem receipts_receive :
    (s.receive connection data).receipts = s.receipts ++ [(connection, data)] := rfl

omit [DecidableEq Addr] in
@[simp] theorem receipts_refreshDcidIndex {scids : List Bytes} :
    (s.refreshDcidIndex connection scids).receipts = s.receipts := by
  unfold refreshDcidIndex
  split_ifs <;> rfl

@[simp] theorem receipts_rekey : (s.rekey connection addr).receipts = s.receipts := by
  unfold rekey
  split_ifs <;> rfl

theorem receipts_ensureConnectionTask :
    (s.ensureConnectionTask connection).receipts = s.receipts := by
  unfold ensureConnectionTask
  split_ifs
  · rfl
  · rfl
  · unfold ensureQueue
    cases s.connectionQueues.lookup connection <;> rfl

theorem receipts_putEvents {queue : Nat} (events : List QuicEvent) (s : QuicServer Addr Conn) :
    (events.foldl (putEvent connection addr queue) s).receipts = s.receipts := by
  induction events generalizing s with
  | nil => rfl
  | cons event events ih =>
      rw [List.foldl_cons, ih]
      unfold putEvent
      dsimp only
      split_ifs <;> rfl

@[simp] theorem receipts_enqueueConnectionEvents {events : List QuicEvent} :
    (s.enqueueConnectionEvents addr connection events).receipts = s.receipts := by
  unfold enqueueConnectionEvents
  dsimp only
  cases (s.ensureConnectionTask connection).connectionQueues.lookup connection with
  | none => exact receipts_ensureConnectionTask
  | some queue => exact (receipts_putEvents _ _).trans receipts_ensureConnectionTask

@[simp] theorem receipts_acceptDatagram_none :
    (s.acceptDatagram data addr none).1.receipts = s.receipts := by
  unfold acceptDatagram
  split_ifs <;> rfl

/-! ## The receiver -/

/-- A datagram from a registered address is passed to the connection there, and to no other. -/
theorem receipts_registered (hlookup : s.connections.lookup addr = some connection)
    (low : Reception Conn) :
    (s.handleDatagram data addr low).1.receipts = s.receipts ++ [(connection, data)] := by
  unfold handleDatagram
  rw [hlookup]
  simp

/-- A datagram from an unknown address is passed to the connection of its id, and to no other. -/
theorem receipts_indexed (hlookup : s.connections.lookup addr = none) {low : Reception Conn}
    (hlow : low.Possible data s.accepted) (hcandidate : s.dcids.candidate data = some connection) :
    (s.handleDatagram data addr low).1.receipts = s.receipts ++ [(connection, data)] := by
  have hnone : low.accept = none := hlow.2.2.2 (DcidIndex.candidate_eq_some hcandidate).1
  unfold handleDatagram
  rw [hlookup]
  dsimp only
  rw [hcandidate, hnone]
  cases hresult : low.result with
  | accepted => simp
  | closed => simp
  | discarded => simp

/-- Any datagram from a registered address is passed to the connection there.  From an unknown
address one with a short header whose connection id is known is passed to the connection of the
id, which is a registered one. -/
theorem routed_by_address {acts : List (Act Addr Conn)} (hrun : Path Takes {} acts s)
    (data : Bytes) (addr : Addr) (low : Reception Conn) :
    (∀ connection, s.connections.lookup addr = some connection →
      (s.act (.datagram data addr low)).receipts = s.receipts ++ [(connection, data)]) ∧
    (s.connections.lookup addr = none → (Act.datagram data addr low).Possible s →
      isLongHeader data = false → 9 ≤ data.length →
      ∀ indexed, s.dcids.index.lookup (dcidOf data) = some indexed →
        indexed ∈ s.connAddr ∧
          (s.act (.datagram data addr low)).receipts = s.receipts ++ [(indexed, data)]) := by
  refine ⟨?_, ?_⟩
  · intro connection hlookup
    exact receipts_registered hlookup low
  · intro hlookup hpossible hshort hlength indexed hindexed
    have hs := consistent_run hrun (consistent_empty false)
    have hcandidate : s.dcids.candidate data = some indexed := by
      simp [DcidIndex.candidate, hshort, hlength, hindexed]
    exact ⟨hs.dcids.indexed hindexed, receipts_indexed hlookup hpossible hcandidate⟩

/-- A connection is accepted at the addresses 10 and 20 each; the first has the id 1 to 8. -/
def twoClients : List (Act Nat Nat) :=
  [.start, .datagram [0xc0] 10 ⟨.accepted, [], [], some ⟨1, [[1, 2, 3, 4, 5, 6, 7, 8]], []⟩⟩,
    .datagram [0xc0] 20 ⟨.accepted, [], [], some ⟨2, [[8, 7, 6, 5, 4, 3, 2, 1]], []⟩⟩]

/-- The address of one client reused by the other. -/
def reused : Act Nat Nat :=
  .datagram shortHeader 20 ⟨.discarded, [[8, 7, 6, 5, 4, 3, 2, 1]], [], none⟩

/-- The same bytes from the address of the second client and from an unknown one. -/
theorem routed_by_address_both : ∃ s : QuicServer Nat Nat, Path Takes {} twoClients s ∧
    (s.act reused).receipts = s.receipts ++ [(2, shortHeader)] ∧
    (s.act (.datagram shortHeader 30 ⟨.accepted, [], [], none⟩)).receipts =
      s.receipts ++ [(1, shortHeader)] := by
  have hrun : Path Takes {} twoClients (twoClients.foldl act {}) := Guarded.path (by decide)
  refine ⟨_, hrun, (routed_by_address hrun shortHeader 20 _).1 2 (by decide), ?_⟩
  have hindexed : (twoClients.foldl act {}).dcids.index.lookup (dcidOf shortHeader) = some 1 := by
    decide
  exact ((routed_by_address hrun shortHeader 30 ⟨.accepted, [], [], none⟩).2 (by decide)
    (by decide) (by decide) (by decide) 1 hindexed).2

/-- A datagram with the id of one connection is passed to another one, the one at its source
address. -/
theorem routed_past_id : ∃ s : QuicServer Nat Nat, Path Takes {} twoClients s ∧
    reused.Possible s ∧ s.dcids.index.lookup (dcidOf shortHeader) = some 1 ∧
    (s.act reused).receipts = s.receipts ++ [(2, shortHeader)] := by
  refine ⟨_, Guarded.path (by decide), ?_⟩
  decide

end QuicServer

end Server
end WebTransport
