import Mathlib.Data.List.Basic

/-!
# Reads — computations that read a memory

A program that is given an address and a length may read below the length only.  `Reads` is a
computation together with the offsets it read, and `Gives` says both what it returns and that it
stayed in bounds.

* `Reads.Gives` : the result on a memory, with all reads below a bound;
* `slice`       : the contents of a range of the memory.
-/

namespace WebTransport

/-- A computation on a memory of `β`s: its result, and the offsets it read. -/
def Reads (β α : Type) := (Nat → β) → α × List Nat

namespace Reads

variable {β α γ : Type}

/-- The contents of the memory at an offset. -/
def read (offset : Nat) : Reads β β := fun mem => (mem offset, [offset])

instance : Monad (Reads β) where
  pure a := fun _ => (a, [])
  bind r f := fun mem =>
    let first := r mem
    let second := f first.1 mem
    (second.1, first.2 ++ second.2)

/-- On the memory `mem` the computation returns `a` and reads below `length` only. -/
def Gives (mem : Nat → β) (length : Nat) (r : Reads β α) (a : α) : Prop :=
  (r mem).1 = a ∧ ∀ offset ∈ (r mem).2, offset < length

namespace Gives

variable {mem : Nat → β} {length : Nat}

theorem pure (a : α) : Gives mem length (Pure.pure a) a :=
  ⟨rfl, fun _ h => absurd h List.not_mem_nil⟩

theorem read {offset : Nat} (h : offset < length) : Gives mem length (read offset) (mem offset) := by
  refine ⟨rfl, fun i hi => ?_⟩
  rw [List.mem_singleton.1 hi]
  exact h

/-- One computation behind the other. -/
theorem bind {r : Reads β α} {f : α → Reads β γ} {a : α} {c : γ} (h : Gives mem length r a)
    (hf : Gives mem length (f a) c) : Gives mem length (r >>= f) c := by
  rcases h with ⟨rfl, hreads⟩
  refine ⟨hf.1, fun i hi => ?_⟩
  rcases List.mem_append.1 hi with hfirst | hsecond
  · exact hreads i hfirst
  · exact hf.2 i hsecond

end Gives

/-! ## Ranges of the memory -/

/-- The `n` elements from `offset` on. -/
def slice (mem : Nat → β) (offset : Nat) : Nat → List β
  | 0 => []
  | n + 1 => mem offset :: slice mem (offset + 1) n

variable (mem : Nat → β)

@[simp] theorem length_slice (offset n : Nat) : (slice mem offset n).length = n := by
  induction n generalizing offset with
  | zero => rfl
  | succ n ih => exact congrArg Nat.succ (ih (offset + 1))

theorem slice_add (offset m n : Nat) :
    slice mem offset (m + n) = slice mem offset m ++ slice mem (offset + m) n := by
  induction m generalizing offset with
  | zero =>
      rw [Nat.zero_add]
      rfl
  | succ m ih =>
      rw [Nat.succ_add]
      show mem offset :: slice mem (offset + 1) (m + n) = _
      rw [ih, Nat.add_right_comm offset 1 m]
      rfl

theorem take_slice {offset m n : Nat} (h : m ≤ n) :
    (slice mem offset n).take m = slice mem offset m := by
  obtain ⟨k, rfl⟩ := Nat.exists_eq_add_of_le h
  rw [slice_add, List.take_left' (length_slice mem offset m)]

theorem drop_slice {offset m n : Nat} (h : m ≤ n) :
    (slice mem offset n).drop m = slice mem (offset + m) (n - m) := by
  obtain ⟨k, rfl⟩ := Nat.exists_eq_add_of_le h
  rw [slice_add, List.drop_left' (length_slice mem offset m), Nat.add_sub_cancel_left]

theorem slice_cons {offset n : Nat} (h : 0 < n) :
    slice mem offset n = mem offset :: slice mem (offset + 1) (n - 1) := by
  obtain ⟨n, rfl⟩ := Nat.exists_eq_add_of_lt h
  rw [Nat.zero_add]
  rfl

end Reads

end WebTransport
