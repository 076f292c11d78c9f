import Mathlib.Order.Lattice
import Mathlib.Order.Defs.LinearOrder
import Mathlib.Data.List.Basic

/-!
# Ascent — sequences that do not fall

`Ascends a vs b` : from `a` on the values `vs` do not fall, and `b` is the last of them (`a` when
there are none).  Ascents compose, and the end of an ascent is its largest value.
-/

namespace WebTransport

variable {α : Type*}

/-- From `a` through `vs` to `b`, each value at least the one before. -/
inductive Ascends [LE α] : α → List α → α → Prop
  | nil (a : α) : Ascends a [] a
  | cons {a v b : α} {vs : List α} (hle : a ≤ v) (h : Ascends v vs b) : Ascends a (v :: vs) b

namespace Ascends

section Preorder

variable [Preorder α] {a b c v : α} {vs vs' : List α}

theorem one (h : a ≤ v) : Ascends a [v] v := .cons h (.nil v)

theorem append (h : Ascends a vs b) (h' : Ascends b vs' c) : Ascends a (vs ++ vs') c := by
  induction h with
  | nil a => exact h'
  | cons hle _ ih => exact .cons hle (ih h')

theorem concat (h : Ascends a vs b) (hle : b ≤ v) : Ascends a (vs ++ [v]) v := h.append (one hle)

theorem le (h : Ascends a vs b) : a ≤ b := by
  induction h with
  | nil a => exact le_rfl
  | cons hle _ ih => exact hle.trans ih

/-- Every value lies between the ends. -/
theorem between (h : Ascends a vs b) (hv : v ∈ vs) : a ≤ v ∧ v ≤ b := by
  induction h with
  | nil a => exact absurd hv List.not_mem_nil
  | cons hle h ih =>
      rcases List.mem_cons.1 hv with rfl | hv
      · exact ⟨hle, h.le⟩
      · exact ⟨hle.trans (ih hv).1, (ih hv).2⟩

theorem pairwise (h : Ascends a vs b) : (a :: vs).Pairwise (· ≤ ·) := by
  induction h with
  | nil a => exact List.pairwise_singleton _ a
  | cons hle h ih =>
      refine List.pairwise_cons.2 ⟨?_, ih⟩
      intro v' hv'
      rcases List.mem_cons.1 hv' with rfl | hv'
      · exact hle
      · exact hle.trans (h.between hv').1

end Preorder

/-- The end of an ascent is its largest value. -/
theorem foldl_max [LinearOrder α] {a b : α} {vs : List α} (h : Ascends a vs b) :
    vs.foldl max a = b := by
  induction h with
  | nil a => rfl
  | cons hle _ ih =>
      rw [List.foldl_cons, max_eq_right hle]
      exact ih

end Ascends

end WebTransport
