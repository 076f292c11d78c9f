import Mathlib.Data.List.Basic

/-!
# History — the recent part of a log

`since p log` is what a log holds behind the last entry with `p`.
-/

namespace WebTransport

variable {α : Type*}

/-- The part of a log behind the last entry with `p`. -/
def since (p : α → Bool) (log : List α) : List α :=
  (log.reverse.takeWhile fun entry => !p entry).reverse

@[simp] theorem since_nil (p : α → Bool) : since p [] = [] := rfl

theorem since_concat (p : α → Bool) (log : List α) (entry : α) :
    since p (log ++ [entry]) = if p entry then [] else since p log ++ [entry] := by
  simp only [since, List.reverse_append, List.reverse_singleton, List.singleton_append,
    List.takeWhile_cons]
  cases p entry <;> simp

/-- Entries without `p` only add to the recent part. -/
theorem since_append (p : α → Bool) (log more : List α) (h : ∀ entry ∈ more, p entry = false) :
    since p (log ++ more) = since p log ++ more := by
  induction more generalizing log with
  | nil => simp
  | cons entry more ih =>
      have hentry : p entry = false := h entry List.mem_cons_self
      rw [List.append_cons, ih _ fun other hmem => h other (List.mem_cons_of_mem _ hmem),
        since_concat, hentry, if_neg Bool.false_ne_true, List.append_assoc, List.singleton_append]

end WebTransport
