import Mathlib.Tactic
import WebTransport.Data.PrefixCode

/-!
# Utf8 — UTF-8 as a prefix code

`Char` is a Unicode scalar value and `String.utf8EncodeChar` the encoding of RFC 3629.  Here it is
read backwards: a byte sequence of the right shape is the encoding of one character, a lead byte says
how many bytes there are, and the other bytes are continuation bytes.

* `Utf8.IsWord`     : the byte sequences that encode a character, by their bits;
* `Utf8.isWord_iff` : they are the encodings;
* `Utf8.code`       : the prefix code;
* `Utf8.word_shape` : a lead byte and continuation bytes.
-/

namespace WebTransport
namespace Utf8

/-- The code point is a Unicode scalar value. -/
def IsScalar (n : Nat) : Prop := n < 0xD800 ∨ 0xDFFF < n ∧ n ≤ 0x10FFFF

/-- The value of a code point with continuation bits `b`. -/
def shiftIn (n b : Nat) : Nat := n * 64 + b % 64

/-- A continuation byte: `10xxxxxx` -/
def IsContinuation (b : UInt8) : Prop := b.toNat / 64 = 2

instance (b : UInt8) : Decidable (IsContinuation b) := inferInstanceAs (Decidable (_ = _))

/-- The number of continuation bytes behind a lead byte; none is a lead byte above `0xF7` or a
continuation byte. -/
def extra (b : UInt8) : Option Nat :=
  if b.toNat < 0x80 then some 0
  else if b.toNat / 32 = 6 then some 1
  else if b.toNat / 16 = 14 then some 2
  else if b.toNat / 8 = 30 then some 3
  else none

/-- The encodings, by their bits: the code point needs as many bytes and is a scalar value. -/
inductive IsWord : List UInt8 → Nat → Prop
  | one {a : UInt8} (ha : a.toNat < 0x80) : IsWord [a] a.toNat
  | two {a b : UInt8} (ha : a.toNat / 32 = 6) (hb : IsContinuation b)
      (hlow : 0x80 ≤ shiftIn (a.toNat % 32) b.toNat) :
      IsWord [a, b] (shiftIn (a.toNat % 32) b.toNat)
  | three {a b c : UInt8} (ha : a.toNat / 16 = 14) (hb : IsContinuation b) (hc : IsContinuation c)
      (hlow : 0x800 ≤ shiftIn (shiftIn (a.toNat % 16) b.toNat) c.toNat)
      (hscalar : IsScalar (shiftIn (shiftIn (a.toNat % 16) b.toNat) c.toNat)) :
      IsWord [a, b, c] (shiftIn (shiftIn (a.toNat % 16) b.toNat) c.toNat)
  | four {a b c d : UInt8} (ha : a.toNat / 8 = 30) (hb : IsContinuation b) (hc : IsContinuation c)
      (hd : IsContinuation d)
      (hlow : 0x10000 ≤ shiftIn (shiftIn (shiftIn (a.toNat % 8) b.toNat) c.toNat) d.toNat)
      (hscalar : IsScalar (shiftIn (shiftIn (shiftIn (a.toNat % 8) b.toNat) c.toNat) d.toNat)) :
      IsWord [a, b, c, d] (shiftIn (shiftIn (shiftIn (a.toNat % 8) b.toNat) c.toNat) d.toNat)

theorem isScalar_val (c : Char) : IsScalar c.val.toNat := by
  have hvalid := c.valid
  unfold UInt32.isValidChar Nat.isValidChar at hvalid
  unfold IsScalar
  omega

theorem toNat_ofNat (n : Nat) : (UInt8.ofNat n).toNat = n % 256 := UInt8.toNat_ofNat'

/-- The encoding of a character has the bits of its code point. -/
theorem isWord_encode (c : Char) : IsWord (String.utf8EncodeChar c) c.val.toNat := by
  have hscalar := isScalar_val c
  have hmax : c.val.toNat ≤ 0x10FFFF := by
    unfold IsScalar at hscalar
    omega
  unfold String.utf8EncodeChar
  generalize c.val.toNat = n at hscalar hmax
  dsimp only
  split_ifs with h1 h2 h3
  · have hn : (UInt8.ofNat n).toNat = n := by rw [toNat_ofNat]; omega
    have hword : IsWord [UInt8.ofNat n] (UInt8.ofNat n).toNat := .one (by rw [hn]; omega)
    rwa [hn] at hword
  · have ha := toNat_ofNat (n / 64 % 32 + 192)
    have hb := toNat_ofNat (n % 64 + 128)
    have hvalue : shiftIn ((UInt8.ofNat (n / 64 % 32 + 192)).toNat % 32)
        (UInt8.ofNat (n % 64 + 128)).toNat = n := by
      unfold shiftIn
      omega
    have hword := IsWord.two (a := UInt8.ofNat (n / 64 % 32 + 192))
      (b := UInt8.ofNat (n % 64 + 128)) (by omega) (by unfold IsContinuation; omega)
      (by rw [hvalue]; omega)
    rwa [hvalue] at hword
  · have ha := toNat_ofNat (n / 4096 % 16 + 224)
    have hb := toNat_ofNat (n / 64 % 64 + 128)
    have hc := toNat_ofNat (n % 64 + 128)
    have hvalue : shiftIn (shiftIn ((UInt8.ofNat (n / 4096 % 16 + 224)).toNat % 16)
        (UInt8.ofNat (n / 64 % 64 + 128)).toNat) (UInt8.ofNat (n % 64 + 128)).toNat = n := by
      unfold shiftIn
      omega
    have hword := IsWord.three (a := UInt8.ofNat (n / 4096 % 16 + 224))
      (b := UInt8.ofNat (n / 64 % 64 + 128)) (c := UInt8.ofNat (n % 64 + 128)) (by omega)
      (by unfold IsContinuation; omega) (by unfold IsContinuation; omega) (by rw [hvalue]; omega)
      (by rw [hvalue]; exact hscalar)
    rwa [hvalue] at hword
  · have ha := toNat_ofNat (n / 262144 % 8 + 240)
    have hb := toNat_ofNat (n / 4096 % 64 + 128)
    have hc := toNat_ofNat (n / 64 % 64 + 128)
    have hd := toNat_ofNat (n % 64 + 128)
    have hvalue : shiftIn (shiftIn (shiftIn ((UInt8.ofNat (n / 262144 % 8 + 240)).toNat % 8)
        (UInt8.ofNat (n / 4096 % 64 + 128)).toNat) (UInt8.ofNat (n / 64 % 64 + 128)).toNat)
        (UInt8.ofNat (n % 64 + 128)).toNat = n := by
      unfold shiftIn
      omega
    have hword := IsWord.four (a := UInt8.ofNat (n / 262144 % 8 + 240))
      (b := UInt8.ofNat (n / 4096 % 64 + 128)) (c := UInt8.ofNat (n / 64 % 64 + 128))
      (d := UInt8.ofNat (n % 64 + 128)) (by omega)
      (by unfold IsContinuation; omega) (by unfold IsContinuation; omega)
      (by unfold IsContinuation; omega) (by rw [hvalue]; omega) (by rw [hvalue]; exact hscalar)
    rwa [hvalue] at hword

/-- A code point that is a scalar value is a character. -/
theorem exists_char {n : Nat} (h : IsScalar n) : ∃ c : Char, c.val.toNat = n := by
  have hvalid : n.isValidChar := by
    unfold IsScalar at h
    unfold Nat.isValidChar
    omega
  exact ⟨Char.ofNatAux n hvalid, rfl⟩

theorem ofNat_eq {b : UInt8} {n : Nat} (h : n = b.toNat) : UInt8.ofNat n = b := by
  rw [h]
  exact UInt8.ofNat_toNat

/-- A sequence with the bits of an encoding is the encoding of a character. -/
theorem exists_encode {w : List UInt8} {n : Nat} (h : IsWord w n) :
    ∃ c : Char, c.val.toNat = n ∧ String.utf8EncodeChar c = w := by
  cases h with
  | @one a ha =>
      rcases exists_char (n := a.toNat) (Or.inl (by omega)) with ⟨c, hc⟩
      refine ⟨c, hc, ?_⟩
      unfold String.utf8EncodeChar
      rw [hc, if_pos (by omega), ofNat_eq rfl]
  | @two a b ha hb hlow =>
      unfold IsContinuation at hb
      have hvalue : shiftIn (a.toNat % 32) b.toNat = a.toNat % 32 * 64 + b.toNat % 64 := rfl
      rcases exists_char (n := shiftIn (a.toNat % 32) b.toNat) (Or.inl (by omega)) with ⟨c, hc⟩
      refine ⟨c, hc, ?_⟩
      unfold String.utf8EncodeChar
      rw [hc, if_neg (by omega), if_pos (by omega), ofNat_eq (b := a) (by omega),
        ofNat_eq (b := b) (by omega)]
  | @three a b c ha hb hc hlow hscalar =>
      unfold IsContinuation at hb hc
      have hvalue : shiftIn (shiftIn (a.toNat % 16) b.toNat) c.toNat =
          (a.toNat % 16 * 64 + b.toNat % 64) * 64 + c.toNat % 64 := rfl
      rcases exists_char hscalar with ⟨char, hchar⟩
      refine ⟨char, hchar, ?_⟩
      unfold String.utf8EncodeChar
      rw [hchar, if_neg (by omega), if_neg (by omega), if_pos (by omega),
        ofNat_eq (b := a) (by omega), ofNat_eq (b := b) (by omega), ofNat_eq (b := c) (by omega)]
  | @four a b c d ha hb hc hd hlow hscalar =>
      unfold IsContinuation at hb hc hd
      have hvalue : shiftIn (shiftIn (shiftIn (a.toNat % 8) b.toNat) c.toNat) d.toNat =
          ((a.toNat % 8 * 64 + b.toNat % 64) * 64 + c.toNat % 64) * 64 + d.toNat % 64 := rfl
      rcases exists_char hscalar with ⟨char, hchar⟩
      refine ⟨char, hchar, ?_⟩
      unfold IsScalar at hscalar
      unfold String.utf8EncodeChar
      rw [hchar, if_neg (by omega), if_neg (by omega), if_neg (by omega),
        ofNat_eq (b := a) (by omega), ofNat_eq (b := b) (by omega), ofNat_eq (b := c) (by omega),
        ofNat_eq (b := d) (by omega)]

/-- A word is a lead byte with as many continuation bytes as it announces. -/
theorem word_shape {w : List UInt8} {n : Nat} (h : IsWord w n) :
    ∃ lead tail, w = lead :: tail ∧ ¬ IsContinuation lead ∧ extra lead = some tail.length ∧
      tail.length ≤ 3 ∧ ∀ b ∈ tail, IsContinuation b := by
  cases h with
  | @one a ha =>
      refine ⟨a, [], rfl, ?_, ?_, by simp, by simp⟩
      · unfold IsContinuation
        omega
      · unfold extra
        rw [if_pos ha]
        rfl
  | @two a b ha hb =>
      refine ⟨a, [b], rfl, ?_, ?_, by simp, by simp [hb]⟩
      · unfold IsContinuation
        omega
      · unfold extra
        rw [if_neg (by omega), if_pos ha]
        rfl
  | @three a b c ha hb hc =>
      refine ⟨a, [b, c], rfl, ?_, ?_, by simp, by simp [hb, hc]⟩
      · unfold IsContinuation
        omega
      · unfold extra
        rw [if_neg (by omega), if_neg (by omega), if_pos ha]
        rfl
  | @four a b c d ha hb hc hd =>
      refine ⟨a, [b, c, d], rfl, ?_, ?_, by simp, by simp [hb, hc, hd]⟩
      · unfold IsContinuation
        omega
      · unfold extra
        rw [if_neg (by omega), if_neg (by omega), if_neg (by omega), if_pos ha]
        rfl

/-- Behind the same lead byte stand equally many continuation bytes. -/
theorem isWord_unique {w w' s t : List UInt8} {n n' : Nat} (h : IsWord w n) (h' : IsWord w' n')
    (heq : w ++ s = w' ++ t) : w = w' := by
  rcases word_shape h with ⟨lead, tail, rfl, -, hextra, -, -⟩
  rcases word_shape h' with ⟨lead', tail', rfl, -, hextra', -, -⟩
  have hlead : lead = lead' := (List.cons.inj heq).1
  subst hlead
  rw [hextra] at hextra'
  have hlength : (lead :: tail).length = (lead :: tail').length :=
    congrArg Nat.succ (Option.some_injective _ hextra')
  exact (List.append_inj heq hlength).1

/-- The bits of an encoding give the code point back. -/
theorem isWord_value {w : List UInt8} {n n' : Nat} (h : IsWord w n) (h' : IsWord w n') : n = n' := by
  cases h with
  | one => cases h' with
    | one => rfl
  | two => cases h' with
    | two => rfl
  | three => cases h' with
    | three => rfl
  | four => cases h' with
    | four => rfl

/-! ## The code -/

/-- UTF-8 as a prefix code -/
def code : PrefixCode Char UInt8 where
  word := String.utf8EncodeChar
  word_ne_nil c h := by
    rcases word_shape (isWord_encode c) with ⟨lead, tail, hw, -⟩
    rw [h] at hw
    cases hw
  first_unique {c d} s t h := by
    have hword : String.utf8EncodeChar c = String.utf8EncodeChar d :=
      isWord_unique (isWord_encode c) (isWord_encode d) h
    have hvalue : c.val.toNat = d.val.toNat :=
      isWord_value (isWord_encode c) (hword ▸ isWord_encode d)
    exact Char.ext (UInt32.toNat_inj.1 hvalue)

/-- Well-formed UTF-8 -/
def WellFormed (s : List UInt8) : Prop := code.IsText s

theorem wellFormed_nil : WellFormed [] := code.isText_nil

/-- A text that is not empty starts with a word. -/
theorem wellFormed_cons {b : UInt8} {rest : List UInt8} :
    WellFormed (b :: rest) ↔
      ∃ w n s, IsWord w n ∧ b :: rest = w ++ s ∧ WellFormed s := by
  constructor
  · rintro ⟨cs, hcs⟩
    cases cs with
    | nil => cases hcs
    | cons c cs => exact ⟨_, _, code.encode cs, isWord_encode c, hcs.symm, cs, rfl⟩
  · rintro ⟨w, n, s, hw, heq, cs, rfl⟩
    rcases exists_encode hw with ⟨c, -, hc⟩
    refine ⟨c :: cs, ?_⟩
    rw [heq, ← hc]
    rfl

/-- A byte below `0x80` is a character of its own. -/
theorem ascii_of_mem {c : Char} {b : UInt8} (hmem : b ∈ code.word c) (hb : b.toNat < 0x80) :
    c.val.toNat = b.toNat := by
  have hword : IsWord (code.word c) c.val.toNat := isWord_encode c
  rcases word_shape hword with ⟨lead, tail, hw, -, hextra, -, htail⟩
  rw [hw] at hmem hword
  rcases List.mem_cons.1 hmem with rfl | hmem
  · unfold extra at hextra
    rw [if_pos hb, Option.some.injEq] at hextra
    rw [List.length_eq_zero_iff.1 hextra.symm] at hword
    exact isWord_value hword (.one hb)
  · have hcontinuation : b.toNat / 64 = 2 := htail b hmem
    omega

/-! ## Cutting a text -/

theorem word_length_le (c : Char) : (code.word c).length ≤ 3 + 1 := by
  rcases word_shape (isWord_encode c) with ⟨lead, tail, hw, -, -, hlen, -⟩
  show (String.utf8EncodeChar c).length ≤ 3 + 1
  rw [hw, List.length_cons]
  omega

/-- A lead byte in front of continuation bytes: how far the scanners step back from the end. -/
structure LastLead (s front : List UInt8) (lead : UInt8) (tail : List UInt8) : Prop where
  eq : s = front ++ lead :: tail
  isLead : ¬ IsContinuation lead
  continuation : ∀ b ∈ tail, IsContinuation b
  length_le : tail.length ≤ 3

/-- The last lead byte of a text that was cut tells whether its character is whole, and so what the
longest text in front of the cut is. -/
theorem longest_of_cut {s : List UInt8} (h : WellFormed s) {n : Nat} (hn : n ≤ s.length) :
    LongestPrefix WellFormed n s (s.take n) ∧ s.take n = [] ∨
      ∃ front lead tail m, LastLead (s.take n) front lead tail ∧ extra lead = some m ∧
        LongestPrefix WellFormed n s (if tail.length < m then front else s.take n) := by
  rcases h with ⟨cs, rfl⟩
  rcases code.cut cs hn with ⟨front, hfront, htake⟩ | ⟨front, c, back, k, rfl, hpos, hk, htake⟩
  · have hlongest : LongestPrefix WellFormed n (code.encode cs) ((code.encode cs).take n) :=
      LongestPrefix.take ⟨front, htake.symm⟩
    rcases List.eq_nil_or_concat front with rfl | ⟨init, c, rfl⟩
    · exact Or.inl ⟨hlongest, htake⟩
    · rcases word_shape (isWord_encode c) with ⟨lead, tail, hw, hlead, hextra, hlen, htail⟩
      refine Or.inr ⟨code.encode init, lead, tail, tail.length, ⟨?_, hlead, htail, hlen⟩, hextra, ?_⟩
      · rw [htake, List.concat_eq_append, PrefixCode.encode_append, PrefixCode.encode_cons,
          PrefixCode.encode_nil, List.append_nil]
        exact congrArg _ hw
      · rwa [if_neg (lt_irrefl _)]
  · rcases word_shape (isWord_encode c) with ⟨lead, tail, hw, hlead, hextra, hlen, htail⟩
    have hword : code.word c = lead :: tail := hw
    obtain ⟨k, rfl⟩ := Nat.exists_eq_succ_of_ne_zero hpos.ne'
    rw [hword, List.length_cons] at hk
    have hpart : (tail.take k).length = k := by
      rw [List.length_take]
      omega
    refine Or.inr ⟨code.encode front, lead, tail.take k, tail.length, ⟨?_, hlead, ?_, ?_⟩, hextra, ?_⟩
    · rw [htake, hword, List.take_succ_cons]
    · exact fun b hb => htail b (List.mem_of_mem_take hb)
    · omega
    · have hlength := congrArg List.length htake
      rw [List.length_take, List.length_append, hword, List.take_succ_cons, List.length_cons,
        hpart] at hlength
      rw [if_pos (by omega)]
      exact PrefixCode.longest_of_front (by omega) (by rw [hword, List.length_cons]; omega)

end Utf8
end WebTransport
