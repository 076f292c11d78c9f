import Mathlib.Data.List.AList

/-!
# Dict — dictionaries over any key type

A dictionary is Mathlib's association list with values of one type.  Its lookups after an update are
stated as iffs, so that a fact about the updated dictionary turns into one about the old one.
-/

namespace WebTransport

/-- A finite map without an order on its keys. -/
abbrev Dict (κ α : Type) := AList fun _ : κ => α

namespace Dict

variable {κ α : Type} [DecidableEq κ] {d : Dict κ α} {k k' : κ} {v w : α}

theorem lookup_insert_if : (d.insert k v).lookup k' = if k' = k then some v else d.lookup k' := by
  split_ifs with h
  · subst h
    exact AList.lookup_insert d
  · exact AList.lookup_insert_ne h

theorem lookup_erase_if : (d.erase k).lookup k' = if k' = k then none else d.lookup k' := by
  split_ifs with h
  · subst h
    exact AList.lookup_erase _ d
  · exact AList.lookup_erase_ne h

theorem lookup_insert_iff :
    (d.insert k v).lookup k' = some w ↔ k' = k ∧ v = w ∨ k' ≠ k ∧ d.lookup k' = some w := by
  rw [lookup_insert_if]
  split_ifs with h <;> simp [h]

theorem lookup_erase_iff :
    (d.erase k).lookup k' = some w ↔ k' ≠ k ∧ d.lookup k' = some w := by
  rw [lookup_erase_if]
  split_ifs with h <;> simp [h]

theorem mem_iff : k ∈ d ↔ ∃ v, d.lookup k = some v := by
  rw [← AList.lookup_isSome, Option.isSome_iff_exists]

theorem mem_of_lookup (h : d.lookup k = some v) : k ∈ d := mem_iff.2 ⟨v, h⟩

/-! ## Values -/

/-- `values()` -/
def values (d : Dict κ α) : List α := d.entries.map Sigma.snd

/-- The first key with a value. -/
def keyOf [DecidableEq α] (d : Dict κ α) (v : α) : Option κ :=
  (d.entries.find? fun entry => entry.2 = v).map Sigma.fst

theorem mem_values : v ∈ values d ↔ ∃ k, d.lookup k = some v := by
  simp only [values, List.mem_map]
  constructor
  · rintro ⟨⟨k, w⟩, hmem, rfl⟩
    exact ⟨k, AList.mem_lookup_iff.2 hmem⟩
  · rintro ⟨k, h⟩
    exact ⟨⟨k, v⟩, AList.mem_lookup_iff.1 h, rfl⟩

theorem lookup_of_keyOf [DecidableEq α] (h : keyOf d v = some k) : d.lookup k = some v := by
  unfold keyOf at h
  cases hfind : d.entries.find? fun entry => entry.2 = v with
  | none =>
      rw [hfind] at h
      cases h
  | some entry =>
      rw [hfind] at h
      have hvalue : entry.2 = v := by simpa using List.find?_some hfind
      have hmem := List.mem_of_find?_eq_some hfind
      obtain ⟨key, value⟩ := entry
      cases h
      cases hvalue
      exact AList.mem_lookup_iff.2 hmem

theorem keyOf_eq_none [DecidableEq α] (h : keyOf d v = none) : d.lookup k ≠ some v := by
  intro hlookup
  unfold keyOf at h
  rw [Option.map_eq_none_iff, List.find?_eq_none] at h
  exact h ⟨k, v⟩ (AList.mem_lookup_iff.1 hlookup) (by simp)

end Dict

end WebTransport
