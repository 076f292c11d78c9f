import Mathlib.Data.Finset.Card
import Mathlib.Data.Finset.Image
import Mathlib.Data.Set.Function

/-!
# Quota — a cumulative limit that every return raises by one

Members of a class are let in below a limit and returned later.  A returned member never comes
back, and every return raises the limit by one, up to a cap.  Ranks number the members of the class,
so there are no more of them below the limit than the limit says.

* `Quota.Step`         : letting in and returning a member;
* `Quota.Kept`         : the limit counts the returned members, and everything let in lies below it;
* `Step.kept`          : both steps keep it;
* `Kept.live_card_le`  : no more members are out at once than the limit started with.
-/

namespace WebTransport

variable {α : Type*} [DecidableEq α]

/-- The members that are out, those that were returned, and the limit. -/
structure Quota (α : Type*) where
  live : Finset α
  returned : Finset α
  limit : ℕ

namespace Quota

/-- A member of the class `C` below the limit is let in, or a member that is out is returned. -/
inductive Step (C : Set α) (rank : α → ℕ) (cap : ℕ) : Quota α → Quota α → Prop
  | enter {q : Quota α} {a : α} (hclass : a ∈ C) (hlive : a ∉ q.live) (hreturned : a ∉ q.returned)
      (hrank : rank a < q.limit) : Step C rank cap q { q with live := insert a q.live }
  | giveBack {q : Quota α} {a : α} (hlive : a ∈ q.live) :
      Step C rank cap q
        { live := q.live.erase a, returned := insert a q.returned, limit := min cap (q.limit + 1) }

/-- The limit is the initial one and one more for each returned member, up to the cap; members lie
below it, and no returned member is out. -/
structure Kept (C : Set α) (rank : α → ℕ) (cap initial : ℕ) (q : Quota α) : Prop where
  limit_eq : q.limit = min cap (initial + q.returned.card)
  live_lt : ∀ a ∈ q.live, a ∈ C ∧ rank a < q.limit
  returned_lt : ∀ a ∈ q.returned, a ∈ C ∧ rank a < q.limit
  apart : Disjoint q.live q.returned

variable {C : Set α} {rank : α → ℕ} {cap initial : ℕ} {q q' : Quota α}

omit [DecidableEq α] in
theorem kept_start (h : initial ≤ cap) : Kept C rank cap initial ⟨∅, ∅, initial⟩ := by
  refine ⟨?_, ?_, ?_, Finset.disjoint_empty_left _⟩
  · rw [Finset.card_empty, Nat.add_zero]
    exact (Nat.min_eq_right h).symm
  · intro a ha
    exact absurd ha (Finset.notMem_empty a)
  · intro a ha
    exact absurd ha (Finset.notMem_empty a)

/-- Both steps keep the books. -/
theorem Step.kept (hstep : Step C rank cap q q') (h : Kept C rank cap initial q) :
    Kept C rank cap initial q' := by
  cases hstep with
  | @enter a hclass hlive hreturned hrank =>
      refine ⟨h.limit_eq, ?_, h.returned_lt, ?_⟩
      · intro b hb
        rcases Finset.mem_insert.1 hb with rfl | hb
        · exact ⟨hclass, hrank⟩
        · exact h.live_lt b hb
      · exact Finset.disjoint_insert_left.2 ⟨hreturned, h.apart⟩
  | @giveBack a hlive =>
      have hnew : a ∉ q.returned := Finset.disjoint_left.1 h.apart hlive
      -- The limit does not fall.
      have hlimit : q.limit ≤ min cap (q.limit + 1) := by
        have hcap : q.limit ≤ cap := h.limit_eq ▸ Nat.min_le_left _ _
        exact Nat.le_min.2 ⟨hcap, Nat.le_succ _⟩
      refine ⟨?_, ?_, ?_, ?_⟩
      · dsimp only
        rw [Finset.card_insert_of_notMem hnew, h.limit_eq]
        omega
      · intro b hb
        have hold := h.live_lt b (Finset.mem_of_mem_erase hb)
        exact ⟨hold.1, hold.2.trans_le hlimit⟩
      · intro b hb
        rcases Finset.mem_insert.1 hb with rfl | hb
        · have hold := h.live_lt b hlive
          exact ⟨hold.1, hold.2.trans_le hlimit⟩
        · have hold := h.returned_lt b hb
          exact ⟨hold.1, hold.2.trans_le hlimit⟩
      · refine Finset.disjoint_insert_right.2 ⟨Finset.notMem_erase a q.live, ?_⟩
        exact h.apart.mono_left (Finset.erase_subset a q.live)

/-- Live and returned members have different ranks below the limit, so the live ones leave room for
the returned ones. -/
theorem Kept.live_card_le (h : Kept C rank cap initial q) (hrank : Set.InjOn rank C) :
    q.live.card ≤ initial := by
  have hmaps : ∀ a ∈ q.live ∪ q.returned, rank a ∈ Finset.range q.limit := by
    intro a ha
    rcases Finset.mem_union.1 ha with ha | ha
    · exact Finset.mem_range.2 (h.live_lt a ha).2
    · exact Finset.mem_range.2 (h.returned_lt a ha).2
  have hclass : ∀ a ∈ q.live ∪ q.returned, a ∈ C := by
    intro a ha
    rcases Finset.mem_union.1 ha with ha | ha
    · exact (h.live_lt a ha).1
    · exact (h.returned_lt a ha).1
  have hcard : (q.live ∪ q.returned).card ≤ (Finset.range q.limit).card :=
    Finset.card_le_card_of_injOn rank hmaps fun a ha b hb =>
      hrank (hclass a ha) (hclass b hb)
  have hbound : q.live.card + q.returned.card ≤ initial + q.returned.card :=
    calc
      q.live.card + q.returned.card = (q.live ∪ q.returned).card :=
          (Finset.card_union_of_disjoint h.apart).symm
      _ ≤ q.limit := by simpa only [Finset.card_range] using hcard
      _ ≤ initial + q.returned.card := h.limit_eq ▸ Nat.min_le_right _ _
  exact Nat.le_of_add_le_add_right hbound

end Quota

end WebTransport
