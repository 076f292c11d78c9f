import Mathlib.Data.List.Basic

/-!
# Path — runs of a labelled step relation

`Path step s ls s'` : performing the labels `ls` one after the other leads from `s` to `s'`.
A property may speak about everything done so far: `Path.history` carries such a property from a
single step to a whole run, `Path.invariant` does so for a property of the state alone.
`Path.simulates` replays a run in another machine, `Path.upTo_append` and `Path.behind_label` cut
sequences of labels.  `Guarded` is the step relation of a function.
-/

namespace WebTransport

variable {S L : Type*}

/-- There are intermediate states through which `ls` leads from the first state to the last. -/
def Path (step : S → L → S → Prop) : S → List L → S → Prop
  | s, [], s' => s = s'
  | s, l :: ls, s' => ∃ mid, step s l mid ∧ Path step mid ls s'

namespace Path

variable {step : S → L → S → Prop} {s s' s'' : S} {l : L} {ls ls' : List L}

theorem none (s : S) : Path step s [] s := rfl

theorem one (h : step s l s') : Path step s [l] s' := ⟨s', h, rfl⟩

theorem join (h : Path step s ls s') (h' : Path step s' ls' s'') :
    Path step s (ls ++ ls') s'' := by
  induction ls generalizing s with
  | nil =>
      cases h
      exact h'
  | cons l ls ih =>
      rcases h with ⟨mid, hstep, hrest⟩
      exact ⟨mid, hstep, ih hrest⟩

theorem split (h : Path step s (ls ++ ls') s'') :
    ∃ mid, Path step s ls mid ∧ Path step mid ls' s'' := by
  induction ls generalizing s with
  | nil => exact ⟨s, rfl, h⟩
  | cons l ls ih =>
      rcases h with ⟨next, hstep, hrest⟩
      rcases ih hrest with ⟨mid, hfront, hback⟩
      exact ⟨mid, ⟨next, hstep, hfront⟩, hback⟩

/-- A run of a relation is one of every weaker relation. -/
theorem imp {weaker : S → L → S → Prop} (h : Path step s ls s')
    (hstep : ∀ {a b : S} {l : L}, step a l b → weaker a l b) : Path weaker s ls s' := by
  induction ls generalizing s with
  | nil => exact h
  | cons l ls ih =>
      rcases h with ⟨mid, hone, hrest⟩
      exact ⟨mid, hstep hone, ih hrest⟩

/-- A relation that every step can follow is followed by a run, under the same labels. -/
theorem simulates {T : Type*} {other : T → L → T → Prop} (R : S → T → Prop)
    (hstep : ∀ {a a' : S} {b : T} {l : L}, R a b → step a l a' → ∃ b', other b l b' ∧ R a' b')
    (h : Path step s ls s') {t : T} (hR : R s t) : ∃ t', Path other t ls t' ∧ R s' t' := by
  induction ls generalizing s t with
  | nil =>
      cases h
      exact ⟨t, rfl, hR⟩
  | cons l ls ih =>
      rcases h with ⟨mid, hone, hrest⟩
      rcases hstep hR hone with ⟨b, hother, hb⟩
      rcases ih hrest hb with ⟨t', hpath, ht'⟩
      exact ⟨t', ⟨b, hother, hpath⟩, ht'⟩

/-- What a step preserves of the labels so far and the state, a run preserves. -/
theorem history (Inv : List L → S → Prop)
    (hstep : ∀ {past : List L} {a b : S} {l : L}, Inv past a → step a l b → Inv (past ++ [l]) b)
    (h : Path step s ls s') (past : List L) (hinv : Inv past s) : Inv (past ++ ls) s' := by
  induction ls generalizing s past with
  | nil =>
      cases h
      rw [List.append_nil]
      exact hinv
  | cons l ls ih =>
      rcases h with ⟨mid, hone, hrest⟩
      have hmid : Inv (past ++ [l]) mid := hstep hinv hone
      rw [List.append_cons]
      exact ih hrest _ hmid

/-- What a step preserves of the state, a run preserves. -/
theorem invariant (Inv : S → Prop) (hstep : ∀ {a b : S} {l : L}, Inv a → step a l b → Inv b)
    (h : Path step s ls s') (hinv : Inv s) : Inv s' :=
  history (fun _ a => Inv a) (fun ha hab => hstep ha hab) h [] hinv

/-! ### Parts of a sequence of labels -/

/-- The part of a sequence up to a label ends in its front, or the front is behind it. -/
theorem upTo_append {front back mid : List L} {c : L}
    (h : mid ++ [c] <+: front ++ back) :
    mid ++ [c] <+: front ∨ ∃ later, mid = front ++ later ∧ later ++ [c] <+: back := by
  obtain ⟨rest, hrest⟩ := h
  rw [List.append_assoc] at hrest
  rcases List.append_eq_append_iff.1 hrest with ⟨more, hfront, hback⟩ | ⟨later, hmid, hback⟩
  · cases more with
    | nil =>
        refine Or.inr ⟨[], ?_, rest, ?_⟩
        · rw [hfront, List.append_nil, List.append_nil]
        · exact hback
    | cons d more =>
        rw [List.cons_append] at hback
        have hd : d = c := ((List.cons.inj hback).1).symm
        refine Or.inl ⟨more, ?_⟩
        rw [hfront, hd, List.append_assoc]
        rfl
  · refine Or.inr ⟨later, hmid, rest, ?_⟩
    rw [hback, List.append_assoc]

/-- An end of a sequence that lacks one of its labels is behind that label. -/
theorem behind_label {front mid before tail : List L} {a : L}
    (h : front ++ [a] ++ mid = before ++ tail) (hnot : a ∉ tail) :
    ∃ between, before = front ++ [a] ++ between ∧ mid = between ++ tail := by
  rcases List.append_eq_append_iff.1 h with ⟨between, hbefore, hmid⟩ | ⟨inner, hfront, htail⟩
  · exact ⟨between, hbefore, hmid⟩
  · rcases List.eq_nil_or_concat inner with rfl | ⟨rest, b, rfl⟩
    · refine ⟨[], ?_, ?_⟩
      · rw [List.append_nil] at hfront ⊢
        exact hfront.symm
      · exact htail.symm
    · have hlast : front ++ [a] = (before ++ rest) ++ [b] := by
        rw [hfront, List.concat_eq_append, List.append_assoc]
      obtain rfl : a = b := List.singleton_inj.1 (List.append_inj' hlast rfl).2
      exact absurd (htail ▸ by simp) hnot

end Path

/-- The step relation of a function, where `P` allows the step. -/
def Guarded (next : S → L → S) (P : S → L → Prop) (s : S) (l : L) (s' : S) : Prop :=
  P s l ∧ next s l = s'

namespace Guarded

variable {next : S → L → S} {P : S → L → Prop} [∀ s l, Decidable (P s l)]

/-- Every label of a list is allowed where it is reached. -/
def all (next : S → L → S) (P : S → L → Prop) [∀ s l, Decidable (P s l)] (s : S) : List L → Bool
  | [] => true
  | l :: ls => decide (P s l) && all next P (next s l) ls

theorem path {s : S} {ls : List L} (h : all next P s ls = true) :
    Path (Guarded next P) s ls (ls.foldl next s) := by
  induction ls generalizing s with
  | nil => rfl
  | cons l ls ih =>
      simp only [all, Bool.and_eq_true, decide_eq_true_eq] at h
      exact ⟨next s l, ⟨h.1, rfl⟩, ih h.2⟩

end Guarded

end WebTransport
