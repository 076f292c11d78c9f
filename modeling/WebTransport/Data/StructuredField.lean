import Mathlib.Data.List.Basic

/-!
# StructuredField — the dictionaries of RFC 8941 Section 3.2

* `Key`, `BareItem`, `Parameter`, `Member` : the parts of a dictionary, each with what it may be
  made of as a field;
* `Placed`         : a member with the blanks around it;
* `fieldText`      : the field value, its members joined by commas;
* `memberAt`       : the member with a key;
* `natural_digitsOf` : the digits of a number read back.
-/

namespace WebTransport
namespace StructuredField

/-! ## Characters -/

def digit (c : UInt8) : Bool := 48 ≤ c && c ≤ 57

def lowercase (c : UInt8) : Bool := 97 ≤ c && c ≤ 122

def letter (c : UInt8) : Bool := lowercase c || 65 ≤ c && c ≤ 90

/-- `SP` and `HTAB` -/
def blank (c : UInt8) : Bool := c = 32 || c = 9

/-- The first character of a key. -/
def keyStart (c : UInt8) : Bool := lowercase c || c = 42

/-- The other characters of a key: `_`, `-`, `.` and `*` beside letters and digits. -/
def keyChar (c : UInt8) : Bool := lowercase c || digit c || c = 95 || c = 45 || c = 46 || c = 42

/-- `tchar`, `:` or `/` -/
def tokenChar (c : UInt8) : Bool :=
  letter c || digit c ||
    c ∈ [33, 35, 36, 37, 38, 39, 42, 43, 45, 46, 94, 95, 96, 124, 126, 58, 47]

/-- A character that stands for itself in a string: printable, neither `"` nor `\`. -/
def unescaped (c : UInt8) : Bool := 32 ≤ c && c ≤ 126 && c ≠ 34 && c ≠ 92

/-- A character of base64. -/
def base64Char (c : UInt8) : Bool := letter c || digit c || c = 43 || c = 47 || c = 61

/-! ## Items -/

/-- `key` -/
structure Key where
  head : UInt8
  tail : List UInt8
  head_ok : keyStart head = true
  tail_ok : ∀ c ∈ tail, keyChar c = true

def Key.text (key : Key) : List UInt8 := key.head :: key.tail

/-- At least one digit. -/
structure Digits where
  text : List UInt8
  ne_nil : text ≠ []
  all : ∀ c ∈ text, digit c = true

/-- The number that digits stand for. -/
def natural (text : List UInt8) : Nat := text.foldl (fun n c => n * 10 + (c.toNat - 48)) 0

/-- A character of a string as it is written. -/
inductive StringChar
  | plain (c : UInt8) (h : unescaped c = true)
  | quote
  | backslash

def StringChar.text : StringChar → List UInt8
  | .plain c _ => [c]
  | .quote => [92, 34]
  | .backslash => [92, 92]

/-- `bare-item` -/
inductive BareItem
  | integer (negative : Bool) (digits : Digits)
  | decimal (negative : Bool) (whole fraction : Digits)
  | string (chars : List StringChar)
  | token (head : UInt8) (tail : List UInt8) (hhead : (letter head || head = 42) = true)
      (htail : ∀ c ∈ tail, tokenChar c = true)
  | bytes (text : List UInt8) (h : ∀ c ∈ text, base64Char c = true)
  | boolean (value : Bool)

/-- The sign of a number. -/
def signText (negative : Bool) : List UInt8 := if negative then [45] else []

def BareItem.text : BareItem → List UInt8
  | .integer negative digits => signText negative ++ digits.text
  | .decimal negative whole fraction => signText negative ++ whole.text ++ 46 :: fraction.text
  | .string chars => 34 :: (chars.flatMap StringChar.text ++ [34])
  | .token head tail _ _ => head :: tail
  | .bytes text _ => 58 :: (text ++ [58])
  | .boolean value => [63, if value then 49 else 48]

/-- A value behind a key; an omitted value is a true boolean. -/
def valueText : Option BareItem → List UInt8
  | none => []
  | some item => 61 :: item.text

/-- `parameter`, with the spaces in front of its key. -/
structure Parameter where
  spaces : Nat
  key : Key
  value : Option BareItem

def Parameter.text (p : Parameter) : List UInt8 :=
  59 :: (List.replicate p.spaces 32 ++ p.key.text ++ valueText p.value)

/-- The parameters of a member. -/
def paramsText (params : List Parameter) : List UInt8 := params.flatMap Parameter.text

/-- `dict-member` with a bare item, or without a value. -/
structure Member where
  key : Key
  value : Option BareItem
  params : List Parameter

def Member.text (m : Member) : List UInt8 :=
  m.key.text ++ valueText m.value ++ paramsText m.params

/-- A member and the blanks around it. -/
structure Placed where
  before : List UInt8
  member : Member
  after : List UInt8
  before_ok : ∀ c ∈ before, blank c = true
  after_ok : ∀ c ∈ after, blank c = true

def Placed.text (p : Placed) : List UInt8 := p.before ++ p.member.text ++ p.after

/-- The field value. -/
def fieldText (ps : List Placed) : List UInt8 := [44].intercalate (ps.map Placed.text)

/-- The text behind a member: nothing, or a comma and the members that follow. -/
def restText (ps : List Placed) : List UInt8 := if ps = [] then [] else 44 :: fieldText ps

theorem fieldText_cons (p : Placed) (ps : List Placed) :
    fieldText (p :: ps) = p.text ++ restText ps := by
  cases ps with
  | nil =>
      unfold fieldText restText
      rw [List.map_cons, List.map_nil, List.intercalate_singleton]
      exact (List.append_nil _).symm
  | cons q qs =>
      unfold fieldText restText
      rw [List.map_cons, List.map_cons, List.intercalate_cons_cons, if_neg (List.cons_ne_nil q qs),
        List.append_assoc]
      rfl

/-- The member with a key. -/
def memberAt (ps : List Placed) (key : List UInt8) : Option Member :=
  (ps.map Placed.member).find? fun m => m.key.text = key

theorem memberAt_cons_self {p : Placed} {key : List UInt8} (h : p.member.key.text = key)
    (ps : List Placed) : memberAt (p :: ps) key = some p.member := by
  unfold memberAt
  rw [List.map_cons, List.find?_cons_of_pos (by simpa using h)]

theorem memberAt_cons_ne {p : Placed} {key : List UInt8} (h : p.member.key.text ≠ key)
    (ps : List Placed) : memberAt (p :: ps) key = memberAt ps key := by
  unfold memberAt
  rw [List.map_cons, List.find?_cons_of_neg (by simpa using h)]

/-! ## Characters of the parts -/

/-- Neither a delimiter of a dictionary nor a blank. -/
structure Free (c : UInt8) : Prop where
  equals : c ≠ 61
  comma : c ≠ 44
  semicolon : c ≠ 59
  blank : blank c = false

/-- A class of characters without delimiters and blanks. -/
theorem free_of_class {p : UInt8 → Bool} (hequals : p 61 = false) (hcomma : p 44 = false)
    (hsemicolon : p 59 = false) (hspace : p 32 = false) (htab : p 9 = false) {c : UInt8}
    (h : p c = true) : Free c := by
  have hne : ∀ d, p d = false → c ≠ d := by
    rintro d hd rfl
    rw [h] at hd
    cases hd
  refine ⟨hne 61 hequals, hne 44 hcomma, hne 59 hsemicolon, ?_⟩
  unfold StructuredField.blank
  simp only [Bool.or_eq_false_iff, decide_eq_false_iff_not]
  exact ⟨hne 32 hspace, hne 9 htab⟩

theorem free_digit {c : UInt8} (h : digit c = true) : Free c :=
  free_of_class (by decide) (by decide) (by decide) (by decide) (by decide) h

theorem Key.free (key : Key) : ∀ c ∈ key.text, Free c := by
  intro c hmem
  rcases List.mem_cons.1 hmem with rfl | htail
  · exact free_of_class (by decide) (by decide) (by decide) (by decide) (by decide) key.head_ok
  · exact free_of_class (by decide) (by decide) (by decide) (by decide) (by decide)
      (key.tail_ok c htail)

theorem not_digit_of_tokenStart {c : UInt8} (h : (letter c || c = 42) = true) : digit c = false := by
  simp only [letter, lowercase, digit, Bool.or_eq_true, Bool.and_eq_true, decide_eq_true_eq,
    Bool.and_eq_false_iff, decide_eq_false_iff_not, UInt8.le_iff_toNat_le,
    ← UInt8.toNat_inj] at h ⊢
  have hbounds : (48 : UInt8).toNat = 48 ∧ (57 : UInt8).toNat = 57 ∧ (65 : UInt8).toNat = 65 ∧
      (90 : UInt8).toNat = 90 ∧ (97 : UInt8).toNat = 97 ∧ (122 : UInt8).toNat = 122 ∧
      (42 : UInt8).toNat = 42 := by decide
  omega

/-- The integer that an item stands for; `-0` stands for zero. -/
def BareItem.integer? : BareItem → Option Int
  | .integer negative digits =>
      some (if negative then -(natural digits.text : Int) else natural digits.text)
  | _ => none

/-- The digits of an integer that is written without a sign. -/
def BareItem.naturalText : BareItem → Option (List UInt8)
  | .integer false digits => some digits.text
  | _ => none

theorem BareItem.integer?_natural {item : BareItem} {text : List UInt8}
    (h : item.naturalText = some text) : item.integer? = some (natural text : Int) := by
  cases item with
  | integer negative digits =>
      cases negative with
      | true => cases h
      | false =>
          cases h
          rfl
  | _ => cases h

/-- Any other item shows a character that is no digit before it shows a delimiter or a blank. -/
theorem BareItem.shows {item : BareItem} (h : item.naturalText = none) :
    ∃ front c behind, item.text = front ++ c :: behind ∧ (∀ d ∈ front, Free d) ∧ Free c ∧
      digit c = false := by
  have hsign : ∀ behind : List UInt8, ∃ front c behind', signText true ++ behind =
      front ++ c :: behind' ∧ (∀ d ∈ front, Free d) ∧ Free c ∧ digit c = false := by
    intro behind
    refine ⟨[], 45, behind, rfl, fun d hd => absurd hd List.not_mem_nil, ?_, by decide⟩
    exact ⟨by decide, by decide, by decide, by decide⟩
  have hhead : ∀ (c : UInt8) (behind : List UInt8), Free c → digit c = false →
      ∃ front c' behind', c :: behind = front ++ c' :: behind' ∧ (∀ d ∈ front, Free d) ∧
        Free c' ∧ digit c' = false :=
    fun c behind hfree hdigit => ⟨[], c, behind, rfl, fun d hd => absurd hd List.not_mem_nil,
      hfree, hdigit⟩
  cases item with
  | integer negative digits =>
      cases negative with
      | false => cases h
      | true => exact hsign digits.text
  | decimal negative whole fraction =>
      cases negative with
      | true =>
          have hpoint := hsign (whole.text ++ 46 :: fraction.text)
          rw [← List.append_assoc] at hpoint
          exact hpoint
      | false =>
          -- The point comes behind the digits of the whole part.
          refine ⟨whole.text, 46, fraction.text, rfl, fun d hd => free_digit (whole.all d hd), ?_,
            by decide⟩
          exact ⟨by decide, by decide, by decide, by decide⟩
  | string chars => exact hhead 34 _ ⟨by decide, by decide, by decide, by decide⟩ (by decide)
  | token head tail hstart htail =>
      refine hhead head tail ?_ ?_
      · exact @free_of_class (fun c => letter c || c = 42) (by decide) (by decide) (by decide)
          (by decide) (by decide) head hstart
      · exact not_digit_of_tokenStart hstart
  | bytes text hall => exact hhead 58 _ ⟨by decide, by decide, by decide, by decide⟩ (by decide)
  | boolean value => exact hhead 63 _ ⟨by decide, by decide, by decide, by decide⟩ (by decide)

/-! ## Digits -/

/-- The digits of a number as characters. -/
def digitsOf (n : Nat) : List UInt8 := (Nat.toDigits 10 n).map fun c => UInt8.ofNat c.toNat

theorem digit_toNat {c : Char} (h : c.isDigit = true) :
    (UInt8.ofNat c.toNat).toNat = c.toNat ∧ 48 ≤ c.toNat ∧ c.toNat ≤ 57 := by
  have hrange : 48 ≤ c.toNat ∧ c.toNat ≤ 57 := by
    simp only [Char.isDigit, Bool.and_eq_true, decide_eq_true_eq, ge_iff_le,
      UInt32.le_iff_toNat_le] at h
    exact h
  refine ⟨?_, hrange⟩
  rw [UInt8.toNat_ofNat']
  omega

/-- The digits of a number. -/
def Digits.ofNat (n : Nat) : Digits where
  text := digitsOf n
  ne_nil := by
    intro hnil
    exact Nat.toDigits_ne_nil (List.map_eq_nil_iff.1 hnil)
  all := by
    intro d hd
    rcases List.mem_map.1 hd with ⟨c, hc, rfl⟩
    have hdigit : c.isDigit = true := Nat.isDigit_of_mem_toDigits (by decide) (Nat.le_refl 10) hc
    rcases digit_toNat hdigit with ⟨hsame, hlow, hhigh⟩
    simp only [digit, Bool.and_eq_true, decide_eq_true_eq, UInt8.le_iff_toNat_le, hsame]
    exact ⟨hlow, hhigh⟩

/-- The digits of a number read back. -/
theorem natural_digitsOf (n : Nat) : natural (digitsOf n) = n := by
  have hfold : ∀ (cs : List Char) (start : Nat), (∀ c ∈ cs, c.isDigit = true) →
      (cs.map fun c => UInt8.ofNat c.toNat).foldl (fun n c => n * 10 + (c.toNat - 48)) start =
        Nat.ofDigitChars 10 cs start := by
    intro cs
    induction cs with
    | nil => exact fun start _ => rfl
    | cons c cs ih =>
        intro start hall
        rw [List.map_cons, List.foldl_cons, (digit_toNat (hall c List.mem_cons_self)).1,
          ih _ fun c' hc' => hall c' (List.mem_cons_of_mem _ hc'), Nat.ofDigitChars_cons]
        congr 1
        rw [Nat.mul_comm]
        rfl
  calc natural (digitsOf n)
      = Nat.ofDigitChars 10 (Nat.toDigits 10 n) 0 :=
        hfold _ 0 fun c hc => Nat.isDigit_of_mem_toDigits (by decide) (Nat.le_refl 10) hc
    _ = n := Nat.ofDigitChars_ten_toDigits

end StructuredField
end WebTransport
