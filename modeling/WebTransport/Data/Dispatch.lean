import Mathlib.Data.List.Basic

/-!
# Dispatch — a queue whose front is offered until it is settled

Entries are put behind the others, and calls are made on the front one.  A call that settles its entry
takes it off the queue; any other call leaves it in front.

* `Dispatch`           : what a part of a run queued, called and left;
* `Dispatch.taken`     : the entries of some of the settling calls, in the order of the queue;
* `WhileLoop`          : a loop that records one call a turn;
* `WhileLoop.dispatch` : the loop dispatches, if its turn does.
-/

namespace WebTransport

variable {α κ : Type*}

/-- From the queue `before`, with `queued` put behind it, the calls `calls` lead to `after`. -/
def Dispatch (entry : κ → α) (settled : κ → Bool) (before queued : List α) (calls : List κ)
    (after : List α) : Prop :=
  before ++ queued = (calls.filter settled).map entry ++ after

namespace Dispatch

variable {entry : κ → α} {settled : κ → Bool}

theorem refl (queue : List α) : Dispatch entry settled queue [] [] queue := List.append_nil queue

/-- Entries are put behind the others. -/
theorem enqueue (queue queued : List α) :
    Dispatch entry settled queue queued [] (queue ++ queued) := rfl

/-- A call that settles the front entry. -/
theorem settle {call : κ} (h : settled call = true) (rest : List α) :
    Dispatch entry settled (entry call :: rest) [] [call] rest := by
  have hone : [call].filter settled = [call] := List.filter_cons_of_pos h
  unfold Dispatch
  rw [hone, List.append_nil]
  rfl

/-- A call that does not. -/
theorem keep {call : κ} (h : settled call = false) (queue : List α) :
    Dispatch entry settled queue [] [call] queue := by
  have hnone : [call].filter settled = [] := by
    rw [List.filter_cons_of_neg (Bool.eq_false_iff.1 h)]
    rfl
  unfold Dispatch
  rw [hnone, List.append_nil]
  rfl

/-- One part of a run behind another. -/
theorem trans {before middle after queued queued' : List α} {calls calls' : List κ}
    (h : Dispatch entry settled before queued calls middle)
    (h' : Dispatch entry settled middle queued' calls' after) :
    Dispatch entry settled before (queued ++ queued') (calls ++ calls') after := by
  calc before ++ (queued ++ queued')
      = (before ++ queued) ++ queued' := (List.append_assoc _ _ _).symm
    _ = ((calls.filter settled).map entry ++ middle) ++ queued' := congrArg (· ++ queued') h
    _ = (calls.filter settled).map entry ++ (middle ++ queued') := List.append_assoc _ _ _
    _ = (calls.filter settled).map entry ++ ((calls'.filter settled).map entry ++ after) :=
        congrArg ((calls.filter settled).map entry ++ ·) h'
    _ = ((calls ++ calls').filter settled).map entry ++ after := by
        rw [List.filter_append, List.map_append, List.append_assoc]

/-- The entries of settling calls of one kind are, in order and each at its own place, among what was
queued. -/
theorem taken {queued after : List α} {calls : List κ} {taken : κ → Bool}
    (h : Dispatch entry settled [] queued calls after)
    (htaken : ∀ call ∈ calls, taken call = true → settled call = true) :
    List.Sublist ((calls.filter taken).map entry) queued := by
  have hsub : List.Sublist (calls.filter taken) (calls.filter settled) := by
    have hsame : calls.filter taken = (calls.filter settled).filter taken := by
      rw [List.filter_filter]
      apply List.filter_congr
      intro call hcall
      cases htake : taken call with
      | false => rfl
      | true => exact (htaken call hcall htake).symm
    rw [hsame]
    exact List.filter_sublist
  have hqueued : queued = (calls.filter settled).map entry ++ after := h
  rw [hqueued]
  exact (hsub.map entry).trans (List.sublist_append_left _ _)

end Dispatch

/-! ## Loops -/

/-- A loop over states `S` that ends in an `E`: its condition, what it leaves when the condition
fails, and its turn, which records a call and goes on or ends. -/
structure WhileLoop (S κ E : Type*) where
  goes : S → Bool
  leave : S → E
  turn : S → κ × (S ⊕ E)

namespace WhileLoop

variable {S E : Type*} {L : WhileLoop S κ E}

/-- The runs of the loop: the calls that are recorded, and the end. -/
inductive Runs (L : WhileLoop S κ E) : S → List κ → E → Prop
  | exit {s : S} (hgoes : L.goes s = false) : Runs L s [] (L.leave s)
  | stop {s : S} {call : κ} {e : E} (hgoes : L.goes s = true)
      (hturn : L.turn s = (call, .inr e)) : Runs L s [call] e
  | again {s s' : S} {call : κ} {calls : List κ} {e : E} (hgoes : L.goes s = true)
      (hturn : L.turn s = (call, .inl s')) (hrest : Runs L s' calls e) : Runs L s (call :: calls) e

/-- The calls of at most `n` turns. -/
def record (L : WhileLoop S κ E) : Nat → S → List κ
  | 0, _ => []
  | n + 1, s =>
      if L.goes s then
        match L.turn s with
        | (call, .inl s') => call :: L.record n s'
        | (call, .inr _) => [call]
      else []

theorem Runs.record_eq {s : S} {calls : List κ} {e : E} (h : L.Runs s calls e) {n : Nat}
    (hn : calls.length ≤ n) : L.record n s = calls := by
  induction h generalizing n with
  | exit hgoes =>
      cases n with
      | zero => rfl
      | succ n => simp only [record, hgoes, Bool.false_eq_true, if_false]
  | stop hgoes hturn =>
      cases n with
      | zero => cases hn
      | succ n => simp only [record, hgoes, if_true, hturn]
  | again hgoes hturn hrest ih =>
      cases n with
      | zero => cases hn
      | succ n =>
          have hrecord := ih (Nat.le_of_succ_le_succ hn)
          simp only [record, hgoes, if_true, hturn, hrecord]

/-- A loop whose turns dispatch a queue dispatches it. -/
theorem Runs.dispatch {entry : κ → α} {settled : κ → Bool} (queue : S → List α) (left : E → List α)
    (hleave : ∀ s, L.goes s = false → left (L.leave s) = queue s)
    (hturn : ∀ s call r, L.goes s = true → L.turn s = (call, r) →
      Dispatch entry settled (queue s) [] [call] (r.elim queue left))
    {s : S} {calls : List κ} {e : E} (h : L.Runs s calls e) :
    Dispatch entry settled (queue s) [] calls (left e) := by
  induction h with
  | exit hgoes =>
      rw [hleave _ hgoes]
      exact Dispatch.refl _
  | stop hgoes hstop => exact hturn _ _ _ hgoes hstop
  | again hgoes hagain _ ih => exact (hturn _ _ _ hgoes hagain).trans ih

end WhileLoop

end WebTransport
