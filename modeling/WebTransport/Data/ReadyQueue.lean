import Mathlib.Data.List.Nodup

/-!
# ReadyQueue — a first-in first-out queue of what is due

A scheduler keeps the tasks that can run in a queue: what becomes due is posted at the back, and the
front runs next.

* `Scheduled` : the queue holds exactly what is due, once each;
* `InFront`   : no task of one kind stands behind a task of another kind.
-/

namespace WebTransport

variable {α : Type*}

/-- The queue holds exactly what is due, once each. -/
structure Scheduled (queue : List α) (due : α → Prop) : Prop where
  nodup : queue.Nodup
  mem_iff : ∀ task, task ∈ queue ↔ due task

/-- No `early` task stands behind a `late` one. -/
def InFront (early late : α → Prop) (queue : List α) : Prop :=
  queue.Pairwise fun first second => late first → ¬ early second

namespace Scheduled

variable {queue posted : List α} {due due' : α → Prop} {front : α}

/-- What becomes due is posted. -/
theorem post (h : Scheduled queue due) (hposted : posted.Nodup) (hnot : ∀ task ∈ posted, ¬ due task)
    (hdue : ∀ task, due' task ↔ due task ∨ task ∈ posted) : Scheduled (queue ++ posted) due' := by
  constructor
  · apply h.nodup.append hposted
    intro task hqueue hin
    exact hnot task hin ((h.mem_iff task).1 hqueue)
  · intro task
    rw [List.mem_append, h.mem_iff, hdue]

/-- The front runs and is no longer due. -/
theorem pop (h : Scheduled (front :: queue) due)
    (hdue : ∀ task, due' task ↔ due task ∧ task ≠ front) : Scheduled queue due' := by
  obtain ⟨hfront, hnodup⟩ := List.nodup_cons.1 h.nodup
  refine ⟨hnodup, ?_⟩
  intro task
  rw [hdue, ← h.mem_iff, List.mem_cons]
  constructor
  · intro hin
    exact ⟨.inr hin, fun heq => hfront (heq ▸ hin)⟩
  · rintro ⟨heq | hin, hne⟩
    · exact absurd heq hne
    · exact hin

/-- The same tasks are due. -/
theorem congr (h : Scheduled queue due) (hdue : ∀ task, due' task ↔ due task) :
    Scheduled queue due' :=
  ⟨h.nodup, fun task => (h.mem_iff task).trans (hdue task).symm⟩

end Scheduled

namespace InFront

variable {early late : α → Prop} {queue posted : List α} {front : α}

/-- Nothing early is posted. -/
theorem post_not_early (h : InFront early late queue) (hposted : ∀ task ∈ posted, ¬ early task) :
    InFront early late (queue ++ posted) := by
  apply List.pairwise_append.2
  refine ⟨h, ?_, fun first _ second hsecond _ => hposted second hsecond⟩
  exact List.pairwise_of_forall_mem_list fun first _ second hsecond _ => hposted second hsecond

/-- Nothing late is queued or posted. -/
theorem post_not_late (h : InFront early late queue) (hqueue : ∀ task ∈ queue, ¬ late task)
    (hposted : ∀ task ∈ posted, ¬ late task) : InFront early late (queue ++ posted) := by
  apply List.pairwise_append.2
  refine ⟨h, ?_, fun first hfirst second _ hlate => absurd hlate (hqueue first hfirst)⟩
  exact List.pairwise_of_forall_mem_list fun first hfirst second _ hlate =>
    absurd hlate (hposted first hfirst)

theorem pop (h : InFront early late (front :: queue)) : InFront early late queue :=
  (List.pairwise_cons.1 h).2

/-- Behind a late front there is nothing early. -/
theorem behind (h : InFront early late (front :: queue)) (hfront : late front) :
    ∀ task ∈ queue, ¬ early task :=
  fun task hin => (List.pairwise_cons.1 h).1 task hin hfront

end InFront

end WebTransport
