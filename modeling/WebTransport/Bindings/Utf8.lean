import WebTransport.Bindings.TextUtil
import WebTransport.Data.Reads
import WebTransport.Data.Utf8

/-!
# Bindings.Utf8 — `is_valid_utf8` accepts well-formed UTF-8

* `utf8Turn_iff`        : one turn of the loop takes the encoding of one character off;
* `isValidUtf8_iff`     : the loop accepts the texts of the code;
* `isValidUtf8At`       : the function as it reads the memory;
* `is_valid_utf8_exact` : it accepts the encodings of scalar values, and reads within the length.
-/

namespace WebTransport
namespace Bindings

open Utf8 (IsWord IsScalar IsContinuation WellFormed shiftIn)

/-! ## One turn -/

/-- The bytes behind one turn of the loop that goes on. -/
def utf8Turn (b : UInt8) (rest : Bytes) : Option Bytes :=
  if b.toNat ≤ 0x7F then some rest
  else
    match utf8Lead b.toNat with
    | none => none
    | some (extra, minCodepoint, lead) =>
        if rest.length < extra then none
        else
          match utf8Continuation lead (rest.take extra) with
          | none => none
          | some codepoint =>
              if codepoint < minCodepoint ∨ codepoint > 0x10FFFF ∨
                  (codepoint ≥ 0xD800 ∧ codepoint ≤ 0xDFFF) then none
              else some (rest.drop extra)

theorem isValidUtf8Loop_cons (fuel : Nat) (b : UInt8) (rest : Bytes) :
    isValidUtf8Loop (fuel + 1) (b :: rest) = (utf8Turn b rest).any (isValidUtf8Loop fuel) := by
  unfold utf8Turn
  rw [isValidUtf8Loop]
  split_ifs
  · rfl
  · cases utf8Lead b.toNat with
    | none => rfl
    | some lead =>
        rcases lead with ⟨extra, minCodepoint, lead⟩
        dsimp only
        split_ifs
        · rfl
        · cases utf8Continuation lead (rest.take extra) with
          | none => rfl
          | some codepoint =>
              dsimp only
              split_ifs <;> rfl

theorem utf8Lead_eq (b : Nat) :
    utf8Lead b = if b / 32 = 6 then some (1, 0x80, b % 32)
      else if b / 16 = 14 then some (2, 0x800, b % 16)
      else if b / 8 = 30 then some (3, 0x10000, b % 8) else none := rfl

theorem utf8Continuation_nil (codepoint : Nat) : utf8Continuation codepoint [] = some codepoint := rfl

theorem utf8Continuation_cons (codepoint : Nat) (b : UInt8) (rest : Bytes) :
    utf8Continuation codepoint (b :: rest) =
      if IsContinuation b then utf8Continuation (shiftIn codepoint b.toNat) rest else none := by
  by_cases h : IsContinuation b
  · rw [if_pos h]
    exact if_neg (not_not.2 h)
  · rw [if_neg h]
    exact if_pos h

/-- The test behind the loop over the continuation bytes. -/
theorem scalar_test {codepoint minCodepoint : Nat} :
    (codepoint < minCodepoint ∨ codepoint > 0x10FFFF ∨ codepoint ≥ 0xD800 ∧ codepoint ≤ 0xDFFF) ↔
      ¬ (minCodepoint ≤ codepoint ∧ IsScalar codepoint) := by
  unfold IsScalar
  omega

/-- The encodings of the turn's first character. -/
theorem utf8Turn_of_isWord {w : List UInt8} {n : Nat} (h : IsWord w n) {b : UInt8} {rest s : Bytes}
    (heq : b :: rest = w ++ s) : utf8Turn b rest = some s := by
  cases h with
  | @one a ha =>
      simp only [List.cons_append, List.nil_append, List.cons.injEq] at heq
      rcases heq with ⟨rfl, rfl⟩
      exact if_pos (by omega)
  | @two a c ha hc hlow =>
      simp only [List.cons_append, List.nil_append, List.cons.injEq] at heq
      rcases heq with ⟨rfl, rfl⟩
      have hscalar : IsScalar (shiftIn (b.toNat % 32) c.toNat) := by
        left
        unfold shiftIn
        omega
      unfold utf8Turn
      rw [if_neg (by omega), utf8Lead_eq, if_pos ha]
      simp only [List.length_cons, List.take_succ_cons, List.take_zero, List.drop_succ_cons,
        List.drop_zero, utf8Continuation_cons, if_pos hc, utf8Continuation_nil]
      rw [if_neg (by omega), if_neg (scalar_test.not.2 (not_not.2 ⟨hlow, hscalar⟩))]
  | @three a c d ha hc hd hlow hscalar =>
      simp only [List.cons_append, List.nil_append, List.cons.injEq] at heq
      rcases heq with ⟨rfl, rfl⟩
      unfold utf8Turn
      rw [if_neg (by omega), utf8Lead_eq, if_neg (by omega), if_pos ha]
      simp only [List.length_cons, List.take_succ_cons, List.take_zero, List.drop_succ_cons,
        List.drop_zero, utf8Continuation_cons, if_pos hc, if_pos hd, utf8Continuation_nil]
      rw [if_neg (by omega), if_neg (scalar_test.not.2 (not_not.2 ⟨hlow, hscalar⟩))]
  | @four a c d e ha hc hd he hlow hscalar =>
      simp only [List.cons_append, List.nil_append, List.cons.injEq] at heq
      rcases heq with ⟨rfl, rfl⟩
      unfold utf8Turn
      rw [if_neg (by omega), utf8Lead_eq, if_neg (by omega), if_neg (by omega), if_pos ha]
      simp only [List.length_cons, List.take_succ_cons, List.take_zero, List.drop_succ_cons,
        List.drop_zero, utf8Continuation_cons, if_pos hc, if_pos hd, if_pos he,
        utf8Continuation_nil]
      rw [if_neg (by omega), if_neg (scalar_test.not.2 (not_not.2 ⟨hlow, hscalar⟩))]

/-- A turn that goes on has taken an encoding off. -/
theorem isWord_of_utf8Turn {b : UInt8} {rest s : Bytes} (h : utf8Turn b rest = some s) :
    ∃ w n, IsWord w n ∧ b :: rest = w ++ s := by
  unfold utf8Turn at h
  split_ifs at h with hascii
  · cases h
    exact ⟨[b], b.toNat, .one (by omega), rfl⟩
  · rw [utf8Lead_eq] at h
    split_ifs at h with h2 h3 h4
    · cases rest with
      | nil => cases h
      | cons c s' =>
          simp only [List.length_cons, List.take_succ_cons, List.take_zero, List.drop_succ_cons,
            List.drop_zero, utf8Continuation_cons, utf8Continuation_nil] at h
          rw [if_neg (by omega)] at h
          split_ifs at h with hc
          dsimp only at h
          split_ifs at h with htest
          cases h
          rw [scalar_test, not_not] at htest
          exact ⟨[b, c], _, .two h2 hc htest.1, rfl⟩
    · rcases rest with _ | ⟨c, _ | ⟨d, s'⟩⟩
      · cases h
      · cases h
      · simp only [List.length_cons, List.take_succ_cons, List.take_zero, List.drop_succ_cons,
          List.drop_zero, utf8Continuation_cons, utf8Continuation_nil] at h
        rw [if_neg (by omega)] at h
        split_ifs at h with hc hd
        dsimp only at h
        split_ifs at h with htest
        cases h
        rw [scalar_test, not_not] at htest
        exact ⟨[b, c, d], _, .three h3 hc hd htest.1 htest.2, rfl⟩
    · rcases rest with _ | ⟨c, _ | ⟨d, _ | ⟨e, s'⟩⟩⟩
      · cases h
      · cases h
      · cases h
      · simp only [List.length_cons, List.take_succ_cons, List.take_zero, List.drop_succ_cons,
          List.drop_zero, utf8Continuation_cons, utf8Continuation_nil] at h
        rw [if_neg (by omega)] at h
        split_ifs at h with hc hd he
        dsimp only at h
        split_ifs at h with htest
        cases h
        rw [scalar_test, not_not] at htest
        exact ⟨[b, c, d, e], _, .four h4 hc hd he htest.1 htest.2, rfl⟩

theorem utf8Turn_iff {b : UInt8} {rest s : Bytes} :
    utf8Turn b rest = some s ↔ ∃ w n, IsWord w n ∧ b :: rest = w ++ s :=
  ⟨isWord_of_utf8Turn, fun ⟨_, _, hw, heq⟩ => utf8Turn_of_isWord hw heq⟩

/-! ## The loop -/

theorem isValidUtf8Loop_iff {fuel : Nat} {data : Bytes} (h : data.length ≤ fuel) :
    isValidUtf8Loop fuel data = true ↔ WellFormed data := by
  induction fuel generalizing data with
  | zero =>
      rw [List.length_eq_zero_iff.1 (Nat.le_zero.1 h)]
      exact iff_of_true rfl Utf8.wellFormed_nil
  | succ fuel ih =>
      cases data with
      | nil => exact iff_of_true rfl Utf8.wellFormed_nil
      | cons b rest =>
          rw [isValidUtf8Loop_cons, Option.any_eq_true, Utf8.wellFormed_cons]
          -- What a turn leaves is shorter, so the step budget covers it.
          have hshort : ∀ {w s : Bytes} {n : Nat}, IsWord w n → b :: rest = w ++ s →
              s.length ≤ fuel := by
            intro w s n hw heq
            rcases Utf8.word_shape hw with ⟨lead, tail, rfl, -⟩
            have hlength := congrArg List.length heq
            rw [List.length_append, List.length_cons, List.length_cons] at hlength
            rw [List.length_cons] at h
            omega
          constructor
          · rintro ⟨s, hturn, hloop⟩
            rcases utf8Turn_iff.1 hturn with ⟨w, n, hw, heq⟩
            exact ⟨w, n, s, hw, heq, (ih (hshort hw heq)).1 hloop⟩
          · rintro ⟨w, n, s, hw, heq, htext⟩
            exact ⟨s, utf8Turn_iff.2 ⟨w, n, hw, heq⟩, (ih (hshort hw heq)).2 htext⟩

/-- `is_valid_utf8` accepts the texts of the code. -/
theorem isValidUtf8_iff (data : Bytes) : isValidUtf8 data = true ↔ WellFormed data :=
  isValidUtf8Loop_iff le_rfl

/-! ## The memory -/

/-- The `for` loop over the `count` continuation bytes from `index` on. -/
def utf8ContinuationAt (codepoint index : Nat) : Nat → Reads UInt8 (Option Nat)
  | 0 => pure (some codepoint)
  | count + 1 => do
      let b ← Reads.read index
      if b.toNat / 2 ^ 6 ≠ 0x80 / 2 ^ 6 then pure none
      else utf8ContinuationAt (codepoint * 2 ^ 6 + b.toNat % 2 ^ 6) (index + 1) count

/-- The `while (offset < length)` loop, on the memory that `data` points to. -/
def isValidUtf8LoopAt (length : Nat) : Nat → Nat → Reads UInt8 Bool
  | 0, offset => pure (decide (length ≤ offset))
  | fuel + 1, offset =>
      if length ≤ offset then pure true
      else do
        let b ← Reads.read offset
        if b.toNat ≤ 0x7F then isValidUtf8LoopAt length fuel (offset + 1)
        else
          match utf8Lead b.toNat with
          | none => pure false
          | some (extra, minCodepoint, lead) =>
              if offset + 1 + extra > length then pure false
              else do
                let codepoint ← utf8ContinuationAt lead (offset + 1) extra
                match codepoint with
                | none => pure false
                | some codepoint =>
                    if codepoint < minCodepoint ∨ codepoint > 0x10FFFF ∨
                        (codepoint ≥ 0xD800 ∧ codepoint ≤ 0xDFFF) then pure false
                    else isValidUtf8LoopAt length fuel (offset + 1 + extra)

/-- `is_valid_utf8(data, length)` -/
def isValidUtf8At (length : Nat) : Reads UInt8 Bool := isValidUtf8LoopAt length length 0

open Reads (Gives slice)

theorem utf8ContinuationAt_gives {mem : Nat → UInt8} {length codepoint index count : Nat}
    (h : index + count ≤ length) :
    Gives mem length (utf8ContinuationAt codepoint index count)
      (utf8Continuation codepoint (slice mem index count)) := by
  induction count generalizing codepoint index with
  | zero => exact Gives.pure _
  | succ count ih =>
      refine Gives.bind (Gives.read (by omega)) ?_
      unfold slice utf8Continuation
      split_ifs with hbyte
      · exact Gives.pure _
      · exact ih (by omega)

theorem isValidUtf8LoopAt_gives {mem : Nat → UInt8} {length : Nat} (fuel : Nat) {offset : Nat}
    (h : offset ≤ length) :
    Gives mem length (isValidUtf8LoopAt length fuel offset)
      (isValidUtf8Loop fuel (slice mem offset (length - offset))) := by
  induction fuel generalizing offset with
  | zero =>
      unfold isValidUtf8LoopAt
      rcases Nat.eq_or_lt_of_le h with rfl | hlt
      · rw [Nat.sub_self, decide_eq_true le_rfl]
        exact Gives.pure _
      · rw [decide_eq_false (not_le.2 hlt), Reads.slice_cons mem (Nat.sub_pos_of_lt hlt)]
        exact Gives.pure _
  | succ fuel ih =>
      unfold isValidUtf8LoopAt
      rcases Nat.eq_or_lt_of_le h with rfl | hlt
      · rw [if_pos le_rfl, Nat.sub_self]
        exact Gives.pure _
      · have hrest : length - offset - 1 = length - (offset + 1) := Nat.sub_sub _ _ _
        rw [if_neg (not_le.2 hlt), Reads.slice_cons mem (Nat.sub_pos_of_lt hlt), isValidUtf8Loop,
          hrest]
        refine Gives.bind (Gives.read hlt) ?_
        split_ifs with hascii
        · exact ih hlt
        · cases utf8Lead (mem offset).toNat with
          | none => exact Gives.pure _
          | some lead =>
              rcases lead with ⟨extra, minCodepoint, lead⟩
              dsimp only
              rw [Reads.length_slice]
              by_cases hroom : offset + 1 + extra > length
              · rw [if_pos hroom, if_pos (by omega)]
                exact Gives.pure _
              · rw [if_neg hroom, if_neg (by omega), Reads.take_slice mem (by omega),
                  Reads.drop_slice mem (by omega), Nat.sub_sub]
                refine Gives.bind (utf8ContinuationAt_gives (by omega)) ?_
                cases utf8Continuation lead (slice mem (offset + 1) extra) with
                | none => exact Gives.pure _
                | some codepoint =>
                    dsimp only
                    split_ifs
                    · exact Gives.pure _
                    · exact ih (by omega)

theorem isValidUtf8At_gives (mem : Nat → UInt8) (length : Nat) :
    Gives mem length (isValidUtf8At length) (isValidUtf8 (slice mem 0 length)) := by
  have hloop := @isValidUtf8LoopAt_gives mem length length 0 (Nat.zero_le length)
  unfold isValidUtf8
  rw [Reads.length_slice]
  rwa [Nat.sub_zero] at hloop

/-- On every memory, `is_valid_utf8` reads within the length only, and accepts the bytes there if and
only if they are the UTF-8 encodings of a list of Unicode scalar values, which is then unique. -/
theorem is_valid_utf8_exact (mem : Nat → UInt8) (length : Nat) :
    ∃ valid, Gives mem length (isValidUtf8At length) valid ∧
      (valid = true ↔ ∃! cs : List Char, cs.flatMap String.utf8EncodeChar = slice mem 0 length) := by
  refine ⟨_, isValidUtf8At_gives mem length, ?_⟩
  rw [isValidUtf8_iff]
  constructor
  · exact PrefixCode.existsUnique_of_isText
  · rintro ⟨cs, hcs, -⟩
    exact ⟨cs, hcs⟩

end Bindings
end WebTransport
