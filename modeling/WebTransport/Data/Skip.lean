import Mathlib.Data.Nat.Basic
import Mathlib.Order.Monotone.Basic

/-!
# Skip — counting past every point of a residue class

`skip k` leaves out the numbers that are `k` modulo `k + 1`: `k` numbers are kept, one is skipped,
and so on.

* `skip_strictMono`             : it keeps the order;
* `skip_mod`, `skip_unskip`     : it reaches exactly the numbers that are not skipped;
* `unskip_skip`                 : and each of them once.
-/

namespace WebTransport

/-- The number with `n` kept numbers in front of it. -/
def skip (k n : Nat) : Nat := n + n / k

/-- How many kept numbers are in front of `m`. -/
def unskip (k m : Nat) : Nat := m - m / (k + 1)

section Skip

variable {k : Nat}

theorem skip_block (q : Nat) {r : Nat} (hr : r < k) : skip k (k * q + r) = (k + 1) * q + r := by
  have hdiv : (k * q + r) / k = q := by
    rw [Nat.mul_add_div (Nat.zero_lt_of_lt hr), Nat.div_eq_of_lt hr, Nat.add_zero]
  unfold skip
  rw [hdiv, Nat.add_mul, Nat.one_mul]
  exact Nat.add_right_comm _ _ _

theorem unskip_block (q : Nat) {r : Nat} (hr : r < k) : unskip k ((k + 1) * q + r) = k * q + r := by
  have hlt : r < k + 1 := Nat.lt_succ_of_lt hr
  have hdiv : ((k + 1) * q + r) / (k + 1) = q := by
    rw [Nat.mul_add_div (Nat.zero_lt_of_lt hlt), Nat.div_eq_of_lt hlt, Nat.add_zero]
  unfold unskip
  rw [hdiv, Nat.add_mul, Nat.one_mul, Nat.add_right_comm]
  exact Nat.add_sub_cancel _ _

theorem skip_strictMono (k : Nat) : StrictMono (skip k) := by
  intro m n hlt
  exact Nat.add_lt_add_of_lt_of_le hlt (Nat.div_le_div_right hlt.le)

/-- What `skip` does not reach. -/
theorem skip_mod (hk : 0 < k) (n : Nat) : skip k n % (k + 1) ≠ k := by
  have hr : n % k < k := Nat.mod_lt n hk
  have hblock := skip_block (n / k) hr
  rw [Nat.div_add_mod] at hblock
  rw [hblock, Nat.mul_add_mod, Nat.mod_eq_of_lt (Nat.lt_succ_of_lt hr)]
  exact hr.ne

theorem unskip_skip (hk : 0 < k) (n : Nat) : unskip k (skip k n) = n := by
  have hr : n % k < k := Nat.mod_lt n hk
  have hblock := skip_block (n / k) hr
  rw [Nat.div_add_mod] at hblock
  rw [hblock, unskip_block _ hr, Nat.div_add_mod]

theorem skip_unskip {m : Nat} (hm : m % (k + 1) ≠ k) : skip k (unskip k m) = m := by
  have hr : m % (k + 1) < k :=
    lt_of_le_of_ne (Nat.le_of_lt_succ (Nat.mod_lt m (Nat.succ_pos k))) hm
  have hblock := unskip_block (m / (k + 1)) hr
  rw [Nat.div_add_mod] at hblock
  rw [hblock, skip_block _ hr, Nat.div_add_mod]

end Skip

end WebTransport
