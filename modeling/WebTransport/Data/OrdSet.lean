import WebTransport.Data.OrdMap

/-!
# OrdSet — finite sets that iterate in order

`std::set` as a map to `Unit`: membership, the two updates with their membership equations, and the
walk in ascending order.
-/

namespace WebTransport

/-- A finite set, walked in ascending order. -/
structure OrdSet (κ : Type) [LinearOrder κ] where
  toMap : OrdMap κ Unit
  deriving DecidableEq

namespace OrdSet

variable {κ : Type} [LinearOrder κ]

instance : EmptyCollection (OrdSet κ) := ⟨⟨∅⟩⟩

instance : Inhabited (OrdSet κ) := ⟨∅⟩

instance : Membership κ (OrdSet κ) := ⟨fun s k => (s.toMap.find? k).isSome = true⟩

instance (k : κ) (s : OrdSet κ) : Decidable (k ∈ s) :=
  inferInstanceAs (Decidable ((s.toMap.find? k).isSome = true))

/-- `std::set::insert` -/
def insert (s : OrdSet κ) (k : κ) : OrdSet κ := ⟨s.toMap.insert k ()⟩

/-- `std::set::erase` -/
def erase (s : OrdSet κ) (k : κ) : OrdSet κ := ⟨s.toMap.erase k⟩

/-- The elements in the order of a walk over the set. -/
def toList (s : OrdSet κ) : List κ := s.toMap.keys

theorem mem_def (s : OrdSet κ) (k : κ) : k ∈ s ↔ (s.toMap.find? k).isSome = true := Iff.rfl

@[simp] theorem not_mem_empty (k : κ) : k ∉ (∅ : OrdSet κ) := by
  intro h
  exact Bool.false_ne_true h

@[simp] theorem mem_insert (s : OrdSet κ) (k k' : κ) : k' ∈ s.insert k ↔ k' = k ∨ k' ∈ s := by
  simp only [mem_def, insert, OrdMap.find?_insert]
  by_cases h : k' = k
  · simp [h]
  · simp [h]

@[simp] theorem mem_erase (s : OrdSet κ) (k k' : κ) : k' ∈ s.erase k ↔ k' ≠ k ∧ k' ∈ s := by
  simp only [mem_def, erase, OrdMap.find?_erase]
  by_cases h : k' = k
  · simp [h]
  · simp [h]

@[simp] theorem mem_toList (s : OrdSet κ) (k : κ) : k ∈ s.toList ↔ k ∈ s := by
  rw [toList, OrdMap.mem_keys_iff, mem_def, Option.isSome_iff_exists]

end OrdSet

end WebTransport
