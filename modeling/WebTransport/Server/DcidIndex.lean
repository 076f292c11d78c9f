import WebTransport.Bindings.QuicVarint
import WebTransport.Data.Dict

/-!
# Server.DcidIndex — the index of issued connection ids (`_dcid_index.py`)

Shared by the servers: `index` leads from a connection id to the connection that issued it, and
`connDcids` from a connection to the ids it last reported.

* `refresh_dcid_index` / `drop_dcid_index`, with the lookups behind them;
* `Backed` : an index entry is among the ids of its connection;
* `Complete` : the ids of a connection lead to it;
* `Registered` : the index knows registered connections only;
* `Apart` : ids that no other connection has reported.
-/

namespace WebTransport
namespace Server

/-- `bool(data) and (data[0] & 0x80) != 0` -/
def isLongHeader : Bytes → Bool
  | [] => false
  | first :: _ => first &&& 0x80 != 0

/-- The connection id of a short header, `bytes(data[1:9])`. -/
def dcidOf (data : Bytes) : Bytes := (data.drop 1).take 8

/-- A short header with the connection id 1 to 8. -/
def shortHeader : Bytes := [0x40, 1, 2, 3, 4, 5, 6, 7, 8, 0]

example : isLongHeader shortHeader = false ∧ dcidOf shortHeader = [1, 2, 3, 4, 5, 6, 7, 8] := by
  decide

/-- `_dcid_index` and `_conn_dcids` -/
structure DcidIndex (Conn : Type) where
  index : Dict Bytes Conn := ∅
  connDcids : Dict Conn (List Bytes) := ∅
  deriving DecidableEq

namespace DcidIndex

variable {Conn : Type} [DecidableEq Conn]

/-! ## The code -/

/-- `{cid for cid in scids if len(cid) == 8}` -/
def current (scids : List Bytes) : List Bytes :=
  (scids.filter fun cid => cid.length = 8).dedup

/-- Delete the entries of `cids` that lead to `connection`. -/
def retire (index : Dict Bytes Conn) (connection : Conn) (cids : List Bytes) : Dict Bytes Conn :=
  cids.foldl
    (fun index cid => if index.lookup cid = some connection then index.erase cid else index) index

/-- Make every one of `cids` lead to `connection`. -/
def issue (index : Dict Bytes Conn) (connection : Conn) (cids : List Bytes) : Dict Bytes Conn :=
  cids.foldl (fun index cid => index.insert cid connection) index

/-- `conn_dcids.get(connection, set())` -/
def dcids (t : DcidIndex Conn) (connection : Conn) : List Bytes :=
  (t.connDcids.lookup connection).getD []

/-- `refresh_dcid_index` -/
def refreshDcidIndex (t : DcidIndex Conn) (connection : Conn) (scids : List Bytes) :
    DcidIndex Conn :=
  let current := current scids
  let previous := t.dcids connection
  let index := retire t.index connection (previous.filter fun cid => cid ∉ current)
  { index := issue index connection (current.filter fun cid => cid ∉ previous)
    connDcids := t.connDcids.insert connection current }

/-- `drop_dcid_index` -/
def dropDcidIndex (t : DcidIndex Conn) (connection : Conn) : DcidIndex Conn where
  index := retire t.index connection (t.dcids connection)
  connDcids := t.connDcids.erase connection

/-- The lookup of both servers for an unknown address. -/
def candidate (t : DcidIndex Conn) (data : Bytes) : Option Conn :=
  if !isLongHeader data && 9 ≤ data.length then t.index.lookup (dcidOf data) else none

/-! ## Lookups behind an update -/

variable {t : DcidIndex Conn} {c c' : Conn} {cid : Bytes} {scids : List Bytes}

theorem lookup_retire (index : Dict Bytes Conn) (cids : List Bytes) :
    (retire index c cids).lookup cid = some c' ↔
      index.lookup cid = some c' ∧ ¬(cid ∈ cids ∧ c' = c) := by
  induction cids generalizing index with
  | nil => simp [retire]
  | cons head cids ih =>
      have hunfold : retire index c (head :: cids) =
          retire (if index.lookup head = some c then index.erase head else index) c cids := rfl
      rw [hunfold, ih]
      by_cases hhead : index.lookup head = some c
      · rw [if_pos hhead, Dict.lookup_erase_iff]
        constructor
        · rintro ⟨⟨hne, hlookup⟩, hkept⟩
          refine ⟨hlookup, ?_⟩
          rintro ⟨hmem, hc⟩
          rcases List.mem_cons.1 hmem with heq | hmem
          · exact hne heq
          · exact hkept ⟨hmem, hc⟩
        · rintro ⟨hlookup, hkept⟩
          refine ⟨⟨?_, hlookup⟩, fun h => hkept ⟨List.mem_cons_of_mem _ h.1, h.2⟩⟩
          rintro rfl
          rw [hhead] at hlookup
          exact hkept ⟨List.mem_cons_self, (Option.some.inj hlookup).symm⟩
      · rw [if_neg hhead]
        constructor
        · rintro ⟨hlookup, hkept⟩
          refine ⟨hlookup, ?_⟩
          rintro ⟨hmem, rfl⟩
          rcases List.mem_cons.1 hmem with rfl | hmem
          · exact hhead hlookup
          · exact hkept ⟨hmem, rfl⟩
        · rintro ⟨hlookup, hkept⟩
          exact ⟨hlookup, fun h => hkept ⟨List.mem_cons_of_mem _ h.1, h.2⟩⟩

omit [DecidableEq Conn] in
theorem lookup_issue (index : Dict Bytes Conn) (cids : List Bytes) :
    (issue index c cids).lookup cid = if cid ∈ cids then some c else index.lookup cid := by
  induction cids generalizing index with
  | nil => rfl
  | cons head cids ih =>
      have hunfold : issue index c (head :: cids) = issue (index.insert head c) c cids := rfl
      rw [hunfold, ih, Dict.lookup_insert_if]
      by_cases hmem : cid ∈ cids
      · simp [hmem]
      · by_cases heq : cid = head <;> simp [hmem, heq]

/-- Where a connection id leads behind `refresh_dcid_index`. -/
theorem lookup_refresh :
    (t.refreshDcidIndex c scids).index.lookup cid = some c' ↔
      (cid ∈ current scids ∧ cid ∉ t.dcids c) ∧ c = c' ∨
        ¬(cid ∈ current scids ∧ cid ∉ t.dcids c) ∧ t.index.lookup cid = some c' ∧
          ¬((cid ∈ t.dcids c ∧ cid ∉ current scids) ∧ c' = c) := by
  simp only [refreshDcidIndex, lookup_issue, List.mem_filter, decide_eq_true_eq]
  split_ifs with h
  · simp [h]
  · simp only [lookup_retire, List.mem_filter, decide_eq_true_eq, h, false_and, not_false_eq_true,
      true_and, false_or]

/-- Where a connection id leads behind `drop_dcid_index`. -/
theorem lookup_drop :
    (t.dropDcidIndex c).index.lookup cid = some c' ↔
      t.index.lookup cid = some c' ∧ ¬(cid ∈ t.dcids c ∧ c' = c) := lookup_retire _ _

theorem dcids_refresh_self : (t.refreshDcidIndex c scids).dcids c = current scids := by
  simp [dcids, refreshDcidIndex]

theorem dcids_refresh_ne (h : c' ≠ c) : (t.refreshDcidIndex c scids).dcids c' = t.dcids c' := by
  simp [dcids, refreshDcidIndex, AList.lookup_insert_ne h]

theorem dcids_drop_self : (t.dropDcidIndex c).dcids c = [] := by
  simp [dcids, dropDcidIndex]

theorem dcids_drop_ne (h : c' ≠ c) : (t.dropDcidIndex c).dcids c' = t.dcids c' := by
  simp [dcids, dropDcidIndex, AList.lookup_erase_ne h]

theorem mem_connDcids_refresh : c' ∈ (t.refreshDcidIndex c scids).connDcids ↔
    c' = c ∨ c' ∈ t.connDcids := AList.mem_insert _

theorem mem_connDcids_drop : c' ∈ (t.dropDcidIndex c).connDcids ↔
    c' ≠ c ∧ c' ∈ t.connDcids := AList.mem_erase

omit [DecidableEq Conn] in
theorem candidate_eq_some {data : Bytes} (h : t.candidate data = some c) :
    isLongHeader data = false ∧ 9 ≤ data.length ∧ t.index.lookup (dcidOf data) = some c := by
  unfold candidate at h
  split_ifs at h with hshort
  simp only [Bool.and_eq_true, Bool.not_eq_true', decide_eq_true_eq] at hshort
  exact ⟨hshort.1, hshort.2, h⟩

/-! ## The index against the ids of the connections -/

/-- An index entry is among the ids of the connection it leads to. -/
def Backed (t : DcidIndex Conn) : Prop :=
  ∀ ⦃cid c⦄, t.index.lookup cid = some c → cid ∈ t.dcids c

/-- Every id of a connection leads to it. -/
def Complete (t : DcidIndex Conn) : Prop :=
  ∀ ⦃cid c⦄, cid ∈ t.dcids c → t.index.lookup cid = some c

/-- No other connection has reported one of the ids in `scids`. -/
def Apart (t : DcidIndex Conn) (connection : Conn) (scids : List Bytes) : Prop :=
  ∀ cid ∈ current scids, ∀ other ∈ t.connDcids.keys, cid ∈ t.dcids other → other = connection

instance (t : DcidIndex Conn) (connection : Conn) (scids : List Bytes) :
    Decidable (t.Apart connection scids) :=
  inferInstanceAs (Decidable (∀ cid ∈ current scids, ∀ other ∈ t.connDcids.keys,
    cid ∈ t.dcids other → other = connection))

/-- The index knows registered connections only, and an entry is among the ids of its connection. -/
structure Registered (t : DcidIndex Conn) (registered : Conn → Prop) : Prop where
  indexed : ∀ ⦃cid connection⦄, t.index.lookup cid = some connection → registered connection
  known : ∀ connection ∈ t.connDcids, registered connection
  backed : t.Backed

theorem mem_connDcids_of_mem (h : cid ∈ t.dcids c) : c ∈ t.connDcids := by
  rw [dcids] at h
  cases hlookup : t.connDcids.lookup c with
  | none =>
      rw [hlookup] at h
      cases h
  | some cids => exact Dict.mem_of_lookup hlookup

theorem Backed.mem (hbacked : t.Backed) (h : t.index.lookup cid = some c) : c ∈ t.connDcids :=
  mem_connDcids_of_mem (hbacked h)

theorem Backed.registered (hbacked : t.Backed) {registered : Conn → Prop}
    (hknown : ∀ connection ∈ t.connDcids, registered connection) : t.Registered registered :=
  ⟨fun _ _ h => hknown _ (hbacked.mem h), hknown, hbacked⟩

/-- The index is the inverse of the ids of the connections. -/
theorem Complete.inverse (h : t.Complete) (hbacked : t.Backed) :
    t.index.lookup cid = some c ↔ cid ∈ t.dcids c :=
  ⟨fun hlookup => hbacked hlookup, fun hmem => h hmem⟩

theorem backed_empty : Backed ({} : DcidIndex Conn) := by
  intro cid c h
  cases h

theorem complete_empty : Complete ({} : DcidIndex Conn) := by
  intro cid c h
  cases h

theorem Backed.refresh (h : t.Backed) (c : Conn) (scids : List Bytes) :
    (t.refreshDcidIndex c scids).Backed := by
  intro cid c' hlookup
  rw [lookup_refresh] at hlookup
  rcases hlookup with ⟨hnew, rfl⟩ | ⟨hnew, hlookup, hkept⟩
  · rw [dcids_refresh_self]
    exact hnew.1
  · have hold := h hlookup
    by_cases hc : c' = c
    · subst hc
      rw [dcids_refresh_self]
      by_contra hgone
      exact hkept ⟨⟨hold, hgone⟩, rfl⟩
    · rw [dcids_refresh_ne hc]
      exact hold

theorem Backed.drop (h : t.Backed) (c : Conn) : (t.dropDcidIndex c).Backed := by
  intro cid c' hlookup
  rw [lookup_drop] at hlookup
  have hold := h hlookup.1
  have hc : c' ≠ c := by
    rintro rfl
    exact hlookup.2 ⟨hold, rfl⟩
  rw [dcids_drop_ne hc]
  exact hold

/-- A refresh with ids that no other connection has reported takes no entry from another. -/
theorem Complete.refresh (h : t.Complete) (hapart : t.Apart c scids) :
    (t.refreshDcidIndex c scids).Complete := by
  intro cid c' hmem
  rw [lookup_refresh]
  by_cases hc : c' = c
  · subst hc
    rw [dcids_refresh_self] at hmem
    by_cases hold : cid ∈ t.dcids c'
    · exact Or.inr ⟨fun hnew => hnew.2 hold, h hold, fun hgone => hgone.1.2 hmem⟩
    · exact Or.inl ⟨⟨hmem, hold⟩, rfl⟩
  · have hother : cid ∈ t.dcids c' := by
      rw [dcids_refresh_ne hc] at hmem
      exact hmem
    refine Or.inr ⟨?_, h hother, fun hgone => hc hgone.2⟩
    intro hnew
    have hkey : c' ∈ t.connDcids.keys := AList.mem_keys.1 (mem_connDcids_of_mem hother)
    exact hc (hapart cid hnew.1 c' hkey hother)

theorem Complete.drop (h : t.Complete) (c : Conn) : (t.dropDcidIndex c).Complete := by
  intro cid c' hmem
  have hc : c' ≠ c := by
    rintro rfl
    rw [dcids_drop_self] at hmem
    cases hmem
  rw [dcids_drop_ne hc] at hmem
  rw [lookup_drop]
  exact ⟨h hmem, fun hgone => hc hgone.2⟩

end DcidIndex

end Server
end WebTransport
