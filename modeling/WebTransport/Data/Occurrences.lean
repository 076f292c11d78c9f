import Mathlib.Data.List.Infix

/-!
# Occurrences — taking a pattern out of a list

`remove pat s` takes every occurrence of `pat` out of `s`, from the left and without overlap.

* `remove_append`      : a front in which no occurrence starts stays;
* `remove_eq_self_iff` : nothing changes if and only if the pattern does not occur.
-/

namespace WebTransport

section Remove

variable {α : Type*} [DecidableEq α] (pat : List α)

/-- The walk, with `k` elements of an occurrence still to be left out. -/
def removeFrom : Nat → List α → List α
  | _, [] => []
  | k + 1, _ :: s => removeFrom k s
  | 0, a :: s => if pat <+: a :: s then removeFrom (pat.length - 1) s else a :: removeFrom 0 s

/-- The list without the occurrences of the pattern. -/
def remove (s : List α) : List α := removeFrom pat 0 s

variable {pat}

theorem removeFrom_eq (k : Nat) (s : List α) : removeFrom pat k s = remove pat (s.drop k) := by
  induction s generalizing k with
  | nil =>
      rw [List.drop_nil]
      unfold remove removeFrom
      rfl
  | cons a s ih =>
      cases k with
      | zero => rfl
      | succ k => exact ih k

theorem remove_cons_of_not {a : α} {s : List α} (h : ¬ pat <+: a :: s) :
    remove pat (a :: s) = a :: remove pat s := if_neg h

theorem remove_cons_of {a : α} {s : List α} (h : pat <+: a :: s) :
    remove pat (a :: s) = remove pat (s.drop (pat.length - 1)) :=
  (if_pos h).trans (removeFrom_eq _ _)

/-- An occurrence in front is taken out. -/
theorem remove_occurrence (h : pat ≠ []) (s : List α) : remove pat (pat ++ s) = remove pat s := by
  obtain ⟨a, rest, rfl⟩ := List.exists_cons_of_ne_nil h
  have hfront : a :: rest <+: a :: (rest ++ s) := List.prefix_append (a :: rest) s
  rw [List.cons_append, remove_cons_of hfront, List.length_cons, Nat.add_sub_cancel, List.drop_left]

/-- A front in which no occurrence starts stays. -/
theorem remove_append {front s : List α}
    (h : ∀ v, v ≠ [] → v <:+ front → ¬ pat <+: v ++ s) :
    remove pat (front ++ s) = front ++ remove pat s := by
  induction front with
  | nil => rfl
  | cons a front ih =>
      have hhead : ¬ pat <+: a :: (front ++ s) :=
        h (a :: front) (List.cons_ne_nil _ _) List.suffix_rfl
      rw [List.cons_append, remove_cons_of_not hhead, List.cons_append]
      congr 1
      apply ih
      intro v hv hsuffix
      exact h v hv (hsuffix.trans (List.suffix_cons a front))

theorem remove_length_le (s : List α) : (remove pat s).length ≤ s.length := by
  induction hn : s.length using Nat.strongRecOn generalizing s with
  | ind n ih =>
      subst hn
      cases s with
      | nil => exact Nat.zero_le _
      | cons a s =>
          by_cases hfront : pat <+: a :: s
          · have hdrop : (s.drop (pat.length - 1)).length ≤ s.length :=
              (List.drop_sublist _ _).length_le
            rw [remove_cons_of hfront]
            exact le_trans (ih _ (Nat.lt_succ_of_le hdrop) _ rfl) (Nat.le_succ_of_le hdrop)
          · rw [remove_cons_of_not hfront]
            exact Nat.succ_le_succ (ih _ (Nat.lt_succ_self _) _ rfl)

/-- Nothing changes if and only if the pattern does not occur. -/
theorem remove_eq_self_iff (h : pat ≠ []) {s : List α} : remove pat s = s ↔ ¬ pat <:+: s := by
  induction s with
  | nil => exact iff_of_true rfl (mt List.infix_nil.1 h)
  | cons a s ih =>
      by_cases hfront : pat <+: a :: s
      · refine iff_of_false ?_ (not_not.2 hfront.isInfix)
        intro heq
        have hle : (remove pat (s.drop (pat.length - 1))).length ≤ _ := remove_length_le _
        rw [← remove_cons_of hfront, heq, List.length_drop, List.length_cons] at hle
        omega
      · rw [remove_cons_of_not hfront, List.cons.injEq, List.infix_cons_iff, not_or]
        constructor
        · rintro ⟨-, heq⟩
          exact ⟨hfront, ih.1 heq⟩
        · rintro ⟨-, hnot⟩
          exact ⟨rfl, ih.2 hnot⟩

end Remove

end WebTransport
