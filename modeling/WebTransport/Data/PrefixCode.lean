import Mathlib.Data.List.Infix

/-!
# PrefixCode — texts in a code whose words are told apart from the left

A text is a concatenation of words.  Where the first word of a text can be read off, so can all of
them, and a prefix of a text that is a text consists of its first words.

* `PrefixCode.encode_injective` : a text has one reading;
* `PrefixCode.encode_front`    : a text that is a prefix of a text consists of its first words;
* `PrefixCode.cut`              : where a text is cut, some whole words and a part of one are left;
* `LongestPrefix`               : the longest prefix with a property within a limit.
-/

namespace WebTransport

/-! ## The longest prefix with a property -/

/-- `r` is the longest prefix of `s` with `P` and at most `n` elements. -/
structure LongestPrefix {β : Type*} (P : List β → Prop) (n : Nat) (s r : List β) : Prop where
  isPrefix : r <+: s
  length_le : r.length ≤ n
  holds : P r
  longest : ∀ t, t <+: s → t.length ≤ n → P t → t <+: r

/-- There is at most one. -/
theorem LongestPrefix.unique {β : Type*} {P : List β → Prop} {n : Nat} {s r r' : List β}
    (h : LongestPrefix P n s r) (h' : LongestPrefix P n s r') : r = r' := by
  have hle : r <+: r' := h'.longest r h.isPrefix h.length_le h.holds
  have hge : r' <+: r := h.longest r' h'.isPrefix h'.length_le h'.holds
  exact hle.eq_of_length_le hge.length_le

/-- The rules of a search from the limit down: the prefix of a length has the property, -/
theorem LongestPrefix.take {β : Type*} {P : List β → Prop} {n : Nat} {s : List β}
    (h : P (s.take n)) : LongestPrefix P n s (s.take n) := by
  refine ⟨List.take_prefix n s, List.length_take_le n s, h, ?_⟩
  intro t ht hlen _
  rw [List.prefix_iff_eq_take.1 ht]
  exact List.take_prefix_take_left hlen

/-- or it has not, and a shorter one is the longest. -/
theorem LongestPrefix.succ {β : Type*} {P : List β → Prop} {n : Nat} {s r : List β}
    (h : LongestPrefix P n s r) (hnot : ¬ P (s.take (n + 1))) : LongestPrefix P (n + 1) s r := by
  refine ⟨h.isPrefix, Nat.le_succ_of_le h.length_le, h.holds, ?_⟩
  intro t ht hlen ht'
  rcases Nat.eq_or_lt_of_le hlen with heq | hlt
  · have htake : t = s.take (n + 1) := by
      rw [← heq]
      exact List.prefix_iff_eq_take.1 ht
    exact absurd (htake ▸ ht') hnot
  · exact h.longest t ht (Nat.lt_succ_iff.1 hlt) ht'

/-- No prefix is longer than the list. -/
theorem LongestPrefix.of_min {β : Type*} {P : List β → Prop} {n : Nat} {s r : List β}
    (h : LongestPrefix P (min s.length n) s r) : LongestPrefix P n s r := by
  refine ⟨h.isPrefix, le_trans h.length_le (min_le_right _ _), h.holds, ?_⟩
  intro t ht hlen ht'
  exact h.longest t ht (le_min ht.length_le hlen) ht'

/-! ## Codes -/

/-- No word is empty, and the first word of a text is determined by the text. -/
structure PrefixCode (α β : Type*) where
  word : α → List β
  word_ne_nil : ∀ a, word a ≠ []
  first_unique : ∀ {a b : α} {s t : List β}, word a ++ s = word b ++ t → a = b

namespace PrefixCode

variable {α β : Type*} (C : PrefixCode α β) {as bs : List α} {s t : List β}

/-- The text of a list of words. -/
def encode (as : List α) : List β := as.flatMap C.word

@[simp] theorem encode_nil : C.encode [] = [] := rfl

@[simp] theorem encode_cons (a : α) (as : List α) : C.encode (a :: as) = C.word a ++ C.encode as :=
  List.flatMap_cons

@[simp] theorem encode_append (as bs : List α) : C.encode (as ++ bs) = C.encode as ++ C.encode bs :=
  List.flatMap_append

/-- The list is a text. -/
def IsText (s : List β) : Prop := ∃ as, C.encode as = s

theorem isText_nil : C.IsText [] := ⟨[], rfl⟩

variable {C}

/-- A text that is a prefix of a text consists of its first words. -/
theorem encode_front (h : C.encode as <+: C.encode bs) : as <+: bs := by
  induction as generalizing bs with
  | nil => exact List.nil_prefix
  | cons a as ih =>
      rcases h with ⟨t, ht⟩
      rw [encode_cons, List.append_assoc] at ht
      cases bs with
      | nil =>
          rw [encode_nil, List.append_eq_nil_iff] at ht
          exact absurd ht.1 (C.word_ne_nil a)
      | cons b bs =>
          rw [encode_cons] at ht
          have hsame : a = b := C.first_unique ht
          subst hsame
          have hrest : C.encode as ++ t = C.encode bs := List.append_cancel_left ht
          exact (List.prefix_cons_inj a).2 (ih ⟨t, hrest⟩)

/-- A text has one reading. -/
theorem encode_injective (h : C.encode as = C.encode bs) : as = bs := by
  have hle : C.encode as <+: C.encode bs := by rw [h]
  have hge : C.encode bs <+: C.encode as := by rw [h]
  exact (encode_front hle).eq_of_length_le (encode_front hge).length_le

theorem existsUnique_of_isText (h : C.IsText s) : ∃! as, C.encode as = s := by
  rcases h with ⟨as, rfl⟩
  exact ⟨as, rfl, fun bs hbs => encode_injective hbs⟩

/-- Where a text is cut, some whole words are left, and a proper part of the next one. -/
theorem cut (as : List α) {n : Nat} (hn : n ≤ (C.encode as).length) :
    (∃ front, front <+: as ∧ (C.encode as).take n = C.encode front) ∨
      ∃ front a back k, as = front ++ a :: back ∧ 0 < k ∧ k < (C.word a).length ∧
        (C.encode as).take n = C.encode front ++ (C.word a).take k := by
  induction as generalizing n with
  | nil =>
      refine Or.inl ⟨[], List.nil_prefix, ?_⟩
      rw [encode_nil, List.take_nil]
  | cons a as ih =>
      rw [encode_cons] at hn ⊢
      rcases Nat.lt_or_ge n (C.word a).length with hlt | hge
      · have htake : (C.word a ++ C.encode as).take n = (C.word a).take n :=
          List.take_append_of_le_length hlt.le
        rw [htake]
        rcases Nat.eq_zero_or_pos n with rfl | hpos
        · exact Or.inl ⟨[], List.nil_prefix, List.take_zero⟩
        · exact Or.inr ⟨[], a, as, n, rfl, hpos, hlt, rfl⟩
      · have htake : (C.word a ++ C.encode as).take n =
            C.word a ++ (C.encode as).take (n - (C.word a).length) := by
          rw [List.take_append, List.take_of_length_le hge]
        have hrest : n - (C.word a).length ≤ (C.encode as).length := by
          rw [List.length_append] at hn
          omega
        rw [htake]
        rcases ih hrest with ⟨front, hfront, heq⟩ | ⟨front, b, back, k, rfl, hpos, hlt, heq⟩
        · refine Or.inl ⟨a :: front, (List.prefix_cons_inj a).2 hfront, ?_⟩
          rw [heq, encode_cons]
        · refine Or.inr ⟨a :: front, b, back, k, rfl, hpos, hlt, ?_⟩
          rw [heq, encode_cons, List.append_assoc]

/-- Whole words in front of the cut are the longest text there, when the next word does not fit. -/
theorem longest_of_front {front back : List α} {a : α} {n : Nat}
    (hle : (C.encode front).length ≤ n) (hlt : n < (C.encode front).length + (C.word a).length) :
    LongestPrefix C.IsText n (C.encode (front ++ a :: back)) (C.encode front) := by
  refine ⟨?_, hle, ⟨front, rfl⟩, ?_⟩
  · rw [encode_append]
    exact List.prefix_append _ _
  · rintro t ht hlen ⟨bs, rfl⟩
    have hbs : bs <+: front ++ a :: back := encode_front ht
    rcases Nat.lt_or_ge front.length bs.length with hmore | hless
    · -- A longer reading contains the word that does not fit.
      have hfront : front ++ [a] <+: bs := by
        refine List.prefix_of_prefix_length_le ?_ hbs ?_
        · exact ⟨back, by rw [List.append_assoc, List.singleton_append]⟩
        · rw [List.length_append]
          exact hmore
      rcases hfront with ⟨rest, rfl⟩
      rw [encode_append, encode_append, encode_cons, encode_nil, List.append_nil,
        List.length_append, List.length_append] at hlen
      omega
    · have hfront : bs <+: front :=
        List.prefix_of_prefix_length_le hbs (List.prefix_append _ _) hless
      rcases hfront with ⟨rest, rfl⟩
      rw [encode_append]
      exact List.prefix_append _ _

/-- A text within the limit is its own longest prefix. -/
theorem longest_self {n : Nat} (h : C.IsText s) (hle : s.length ≤ n) :
    LongestPrefix C.IsText n s s :=
  ⟨List.prefix_rfl, hle, h, fun _ ht _ _ => ht⟩

/-- The longest text in front of a limit consists of whole words, and is short of the limit by less
than a word. -/
theorem exists_longest {m : Nat} (hword : ∀ a, (C.word a).length ≤ m + 1) (as : List α) (n : Nat) :
    ∃ front, front <+: as ∧ LongestPrefix C.IsText n (C.encode as) (C.encode front) ∧
      min (C.encode as).length n ≤ (C.encode front).length + m := by
  rcases Nat.lt_or_ge n (C.encode as).length with hlt | hge
  · rcases cut as hlt.le with ⟨front, hfront, htake⟩ | ⟨front, a, back, k, rfl, hpos, hk, htake⟩
    · refine ⟨front, hfront, ?_, ?_⟩
      · rw [← htake]
        exact LongestPrefix.take ⟨front, htake.symm⟩
      · have hlength := congrArg List.length htake
        rw [List.length_take] at hlength
        omega
    · have hlength := congrArg List.length htake
      rw [List.length_take, List.length_append, List.length_take] at hlength
      have hm := hword a
      refine ⟨front, List.prefix_append _ _, longest_of_front (by omega) (by omega), by omega⟩
  · exact ⟨as, List.prefix_rfl, longest_self ⟨as, rfl⟩ hge, by omega⟩

end PrefixCode

end WebTransport
