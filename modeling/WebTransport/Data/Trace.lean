import Mathlib.Data.Nat.Init
import Mathlib.Order.Nat
import WebTransport.Data.Path

/-!
# Trace — infinite runs of a labelled step relation

* `Trace step`       : a run that never ends;
* `Trace.invariant`  : what a step preserves holds in every state;
* `Trace.exhausted`  : a rank that no step raises and that is lowered again and again is used up.
-/

namespace WebTransport

variable {S L : Type*}

/-- A state for each number, and the label that leads from it to the next. -/
structure Trace (step : S → L → S → Prop) where
  state : ℕ → S
  label : ℕ → L
  next : ∀ n, step (state n) (label n) (state (n + 1))

namespace Trace

variable {step : S → L → S → Prop} (t : Trace step)

theorem invariant (Inv : S → Prop)
    (hstep : ∀ n, Inv (t.state n) → Inv (t.state (n + 1))) (hstart : Inv (t.state 0)) (n : ℕ) :
    Inv (t.state n) := by
  induction n with
  | zero => exact hstart
  | succ n ih => exact hstep n ih

/-- What every step keeps from `n` on. -/
theorem kept {α : Type*} (f : S → α) {n : ℕ}
    (hstep : ∀ m, n ≤ m → f (t.state m) = f (t.state n) → f (t.state (m + 1)) = f (t.state m))
    {m : ℕ} (hm : n ≤ m) : f (t.state m) = f (t.state n) := by
  induction m, hm using Nat.le_induction with
  | base => rfl
  | succ m hm ih => exact (hstep m hm ih).trans ih

theorem rank_le {rank : S → ℕ} {n : ℕ}
    (hle : ∀ m, n ≤ m → rank (t.state (m + 1)) ≤ rank (t.state m)) {m k : ℕ} (hm : n ≤ m)
    (hk : m ≤ k) : rank (t.state k) ≤ rank (t.state m) := by
  induction k, hk using Nat.le_induction with
  | base => exact le_rfl
  | succ k hk ih => exact (hle k (hm.trans hk)).trans ih

theorem exhausted (rank : S → ℕ) {n : ℕ}
    (hle : ∀ m, n ≤ m → rank (t.state (m + 1)) ≤ rank (t.state m))
    (hlt : ∀ m, n ≤ m → rank (t.state m) ≠ 0 →
      ∃ k, m ≤ k ∧ rank (t.state (k + 1)) < rank (t.state k)) :
    ∃ m, n ≤ m ∧ ∀ k, m ≤ k → rank (t.state k) = 0 := by
  -- from every state on, by induction on its rank
  have hfrom : ∀ r m, n ≤ m → rank (t.state m) = r →
      ∃ m', n ≤ m' ∧ ∀ k, m' ≤ k → rank (t.state k) = 0 := by
    intro r
    induction r using Nat.strong_induction_on with
    | _ r ih =>
        intro m hm hr
        by_cases hzero : r = 0
        · refine ⟨m, hm, fun k hk => ?_⟩
          have hbelow := t.rank_le hle hm hk
          rw [hr, hzero] at hbelow
          exact Nat.le_zero.1 hbelow
        · obtain ⟨k, hk, hdrop⟩ := hlt m hm (by rw [hr]; exact hzero)
          have hbelow := t.rank_le hle hm hk
          rw [hr] at hbelow
          exact ih _ (hdrop.trans_le hbelow) (k + 1) (hm.trans (hk.trans (Nat.le_succ k))) rfl
  exact hfrom _ n le_rfl rfl

end Trace

end WebTransport
