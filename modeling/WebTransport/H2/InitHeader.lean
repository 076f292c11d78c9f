import Mathlib.Data.List.TakeWhile
import WebTransport.Data.StructuredField
import WebTransport.H2.Session

/-!
# H2.InitHeader — the WebTransport-Init header field (`webtransport_h2.cpp`)

`parse_webtransport_init` is a scanner of its own for the dictionaries of RFC 8941.

* `initTurn`          : one turn of its outer loop;
* `InitEnds`          : the loop without a bound on its turns; `initEnds_parse` ends it;
* `InitDictionary`    : a dictionary of RFC 8941 whose `u`, `bl` and `br` are limits;
* `readable`          : a member that the scanner reads as the dictionary means it;
* `parse_init_reads`  : which dictionaries it reads.
-/

namespace WebTransport
namespace H2

open StructuredField

namespace H2Session

/-! ## One turn -/

/-- A turn of the outer loop returns, or goes on behind a member. -/
inductive InitTurn
  | stop (result : Option InitLimits)
  | again (rest : Bytes) (limits : InitLimits)

/-- The turn from the `=` on. -/
def valueTurn (key rest : Bytes) (limits : InitLimits) : InitTurn :=
  let digits := rest.takeWhile fun c => c ≠ 44 && c ≠ 59 && !isBlank c
  if !digits.all isDigit ∨ digits = [] then .stop none
  else
    match stoull digits with
    | none => .stop none
    | some parsed =>
        match limits.record key parsed with
        | none => .stop none
        | some limits => .again ((rest.drop digits.length).dropWhile (· ≠ 44)) limits

/-- The body of the outer loop. -/
def initTurn (value : Bytes) (limits : InitLimits) : InitTurn :=
  let value := value.dropWhile fun c => isBlank c || c = 44
  if value = [] then .stop (some limits)
  else
    let key := value.takeWhile fun c => c ≠ 61 && c ≠ 44 && !isBlank c
    match (value.drop key.length).dropWhile isBlank with
    | [] => .stop (if key ≠ [] then none else some limits)
    | c :: rest =>
        if c ≠ 61 then if key ≠ [] then .stop none else .again (c :: rest) limits
        else valueTurn key (rest.dropWhile isBlank) limits

theorem parseInitLoop_succ (fuel : Nat) (value : Bytes) (limits : InitLimits) :
    parseInitLoop (fuel + 1) value limits =
      match initTurn value limits with
      | .stop result => result
      | .again rest limits => parseInitLoop fuel rest limits := by
  rw [parseInitLoop]
  unfold initTurn
  dsimp only
  generalize value.dropWhile (fun c => isBlank c || c = 44) = start
  by_cases hempty : start = []
  · rw [if_pos hempty, if_pos hempty]
  rw [if_neg hempty, if_neg hempty]
  generalize start.takeWhile (fun c => c ≠ 61 && c ≠ 44 && !isBlank c) = key
  cases (start.drop key.length).dropWhile isBlank with
  | nil => rfl
  | cons c rest =>
      dsimp only
      by_cases hequals : c ≠ 61
      · rw [if_pos hequals, if_pos hequals]
        split_ifs <;> rfl
      rw [if_neg hequals, if_neg hequals]
      unfold valueTurn
      dsimp only
      split_ifs
      · rfl
      · cases stoull ((rest.dropWhile isBlank).takeWhile
          fun c => c ≠ 44 && c ≠ 59 && !isBlank c) with
        | none => rfl
        | some parsed =>
            dsimp only
            cases limits.record key parsed <;> rfl

/-- Where a text is left behind blanks and commas, it starts with a key or with `=`. -/
theorem equals_of_no_key {value : Bytes} {d c : UInt8} {more rest : Bytes}
    (hstart : value.dropWhile (fun c => isBlank c || c = 44) = d :: more)
    (hkey : (d :: more).takeWhile (fun c => c ≠ 61 && c ≠ 44 && !isBlank c) = [])
    (hrest : (d :: more).dropWhile isBlank = c :: rest) : c = 61 := by
  have hne : value.dropWhile (fun c => isBlank c || c = 44) ≠ [] := by
    rw [hstart]
    exact List.cons_ne_nil _ _
  have hfirst := List.head_dropWhile_not (fun c => isBlank c || c = 44) hne
  simp only [hstart, List.head_cons, Bool.or_eq_false_iff, decide_eq_false_iff_not] at hfirst
  rcases hfirst with ⟨hblank, hcomma⟩
  rw [List.dropWhile_cons_of_neg (by rw [hblank]; decide)] at hrest
  cases hrest
  by_contra hequals
  rw [List.takeWhile_cons_of_pos (by simp [hblank, hcomma, hequals])] at hkey
  cases hkey

/-- A turn that goes on has moved past a member. -/
theorem initTurn_again {value rest : Bytes} {limits limits' : InitLimits}
    (h : initTurn value limits = .again rest limits') : rest.length < value.length := by
  unfold initTurn at h
  dsimp only at h
  cases hstart : value.dropWhile (fun c => isBlank c || c = 44) with
  | nil =>
      rw [hstart, if_pos rfl] at h
      cases h
  | cons d more =>
      have hskip := List.length_dropWhile_le (fun c => isBlank c || c = 44) value
      rw [hstart, if_neg (List.cons_ne_nil d more)] at h
      rw [hstart] at hskip
      generalize hkey : (d :: more).takeWhile (fun c => c ≠ 61 && c ≠ 44 && !isBlank c) = key at h
      have hbehind := List.length_dropWhile_le isBlank ((d :: more).drop key.length)
      rw [List.length_drop] at hbehind
      cases hrest : ((d :: more).drop key.length).dropWhile isBlank with
      | nil =>
          rw [hrest] at h
          cases h
      | cons c behind =>
          rw [hrest] at h hbehind
          dsimp only at h
          have hequals : c = 61 ∨ key ≠ [] := by
            by_contra hneither
            rcases not_or.1 hneither with ⟨hc, hnone⟩
            have hnil : key = [] := not_not.1 hnone
            rw [hnil] at hkey hrest
            exact hc (equals_of_no_key hstart hkey hrest)
          by_cases hc : c ≠ 61
          · rw [if_pos hc, if_pos (hequals.resolve_left hc)] at h
            cases h
          · rw [if_neg hc] at h
            unfold valueTurn at h
            dsimp only at h
            generalize (behind.dropWhile isBlank).takeWhile
              (fun c => c ≠ 44 && c ≠ 59 && !isBlank c) = digits at h
            split_ifs at h
            cases hnumber : stoull digits with
            | none =>
                rw [hnumber] at h
                cases h
            | some parsed =>
                rw [hnumber] at h
                dsimp only at h
                cases hrecord : limits.record key parsed with
                | none =>
                    rw [hrecord] at h
                    cases h
                | some next =>
                    rw [hrecord] at h
                    cases h
                    have hend := List.length_dropWhile_le (fun c => decide (c ≠ 44))
                      ((behind.dropWhile isBlank).drop digits.length)
                    have hblanks := List.length_dropWhile_le isBlank behind
                    rw [List.length_drop] at hend
                    rw [List.length_cons] at hbehind
                    omega

/-! ## The loop ends -/

/-- The outer loop as the source has it: turn after turn until one returns. -/
inductive InitEnds : Bytes → InitLimits → Option InitLimits → Prop
  | stop {value : Bytes} {limits : InitLimits} {result : Option InitLimits}
      (h : initTurn value limits = .stop result) : InitEnds value limits result
  | again {value rest : Bytes} {limits limits' : InitLimits} {result : Option InitLimits}
      (h : initTurn value limits = .again rest limits') (hrest : InitEnds rest limits' result) :
      InitEnds value limits result

/-- The length of the text bounds the turns. -/
theorem initEnds_loop {fuel : Nat} {value : Bytes} (limits : InitLimits)
    (h : value.length < fuel) : InitEnds value limits (parseInitLoop fuel value limits) := by
  induction fuel generalizing value limits with
  | zero => exact absurd h (Nat.not_lt_zero _)
  | succ fuel ih =>
      rw [parseInitLoop_succ]
      cases hturn : initTurn value limits with
      | stop result => exact .stop hturn
      | again rest limits' =>
          have hshorter := initTurn_again hturn
          exact .again hturn (ih limits' (by omega))

theorem InitEnds.unique {value : Bytes} {limits : InitLimits} {r r' : Option InitLimits}
    (h : InitEnds value limits r) (h' : InitEnds value limits r') : r = r' := by
  induction h with
  | stop hturn =>
      cases h' with
      | stop hturn' =>
          rw [hturn] at hturn'
          cases hturn'
          rfl
      | again hturn' _ =>
          rw [hturn] at hturn'
          cases hturn'
  | again hturn _ ih =>
      cases h' with
      | stop hturn' =>
          rw [hturn] at hturn'
          cases hturn'
      | again hturn' hrest' =>
          rw [hturn] at hturn'
          cases hturn'
          exact ih hrest'

/-- On every text the loop returns, and what it returns is `parse_webtransport_init`. -/
theorem initEnds_parse (value : Bytes) (result : Option InitLimits) :
    InitEnds value {} result ↔ result = parseWebtransportInit value := by
  have hends : InitEnds value {} (parseWebtransportInit value) :=
    initEnds_loop {} (Nat.lt_succ_self value.length)
  constructor
  · intro h
    exact h.unique hends
  · rintro rfl
    exact hends

/-- Two texts that the next turn does not tell apart. -/
theorem InitEnds.of_turn_eq {value value' : Bytes} {limits : InitLimits} {r : Option InitLimits}
    (h : InitEnds value' limits r) (heq : initTurn value limits = initTurn value' limits) :
    InitEnds value limits r := by
  cases h with
  | stop hturn => exact .stop (heq.trans hturn)
  | again hturn hrest => exact .again (heq.trans hturn) hrest

/-! ## What a turn reads -/

/-- Blanks and commas in front are skipped. -/
theorem initTurn_skip {front : Bytes} (h : ∀ c ∈ front, (isBlank c || c = 44) = true) (text : Bytes)
    (limits : InitLimits) : initTurn (front ++ text) limits = initTurn text limits := by
  unfold initTurn
  rw [List.dropWhile_append_of_pos h]

/-- What the scanner takes for a key. -/
structure Scanned (key : Bytes) : Prop where
  ne_nil : key ≠ []
  all : ∀ c ∈ key, c ≠ 61 ∧ c ≠ 44 ∧ isBlank c = false

theorem Key.scanned (key : Key) : Scanned key.text := by
  refine ⟨List.cons_ne_nil _ _, fun c hc => ?_⟩
  have hfree := key.free c hc
  exact ⟨hfree.equals, hfree.comma, hfree.blank⟩

/-- `key` with the parameter key behind it. -/
theorem Scanned.parameter {key : Bytes} (h : Scanned key) (name : Key) :
    Scanned (key ++ 59 :: name.text) := by
  refine ⟨List.append_ne_nil_of_left_ne_nil h.ne_nil _, fun c hc => ?_⟩
  rcases List.mem_append.1 hc with hkey | hname
  · exact h.all c hkey
  · rcases List.mem_cons.1 hname with rfl | hname
    · decide
    · exact (Key.scanned name).all c hname

/-- A text whose first character is not one of a class. -/
def StartsOutside (p : UInt8 → Bool) (text : Bytes) : Prop :=
  ∀ c more, text = c :: more → p c = false

theorem takeWhile_front {p : UInt8 → Bool} {front text : Bytes} (hfront : ∀ c ∈ front, p c = true)
    (htext : StartsOutside p text) : (front ++ text).takeWhile p = front := by
  rw [List.takeWhile_append_of_pos hfront]
  cases text with
  | nil => rw [List.takeWhile_nil, List.append_nil]
  | cons c more =>
      have hstop := htext c more rfl
      rw [List.takeWhile_cons_of_neg (by rw [hstop]; decide), List.append_nil]

theorem dropWhile_outside {p : UInt8 → Bool} {text : Bytes} (htext : StartsOutside p text) :
    text.dropWhile p = text := by
  cases text with
  | nil => rfl
  | cons c more =>
      have hstop := htext c more rfl
      exact List.dropWhile_cons_of_neg (by rw [hstop]; decide)

/-- The turn from a key on. -/
theorem initTurn_key {key tail : Bytes} (hkey : Scanned key)
    (htail : StartsOutside (fun c => c ≠ 61 && c ≠ 44 && !isBlank c) tail) (limits : InitLimits) :
    initTurn (key ++ tail) limits =
      match tail.dropWhile isBlank with
      | [] => .stop none
      | c :: rest =>
          if c ≠ 61 then .stop none else valueTurn key (rest.dropWhile isBlank) limits := by
  rcases List.exists_cons_of_ne_nil hkey.ne_nil with ⟨d, more, rfl⟩
  have hstart : (d :: more ++ tail).dropWhile (fun c => isBlank c || c = 44) =
      d :: more ++ tail := by
    rcases hkey.all d List.mem_cons_self with ⟨-, hcomma, hblank⟩
    exact List.dropWhile_cons_of_neg (by simp [hcomma, hblank])
  have htake : (d :: more ++ tail).takeWhile (fun c => c ≠ 61 && c ≠ 44 && !isBlank c) =
      d :: more := by
    refine takeWhile_front (fun c hc => ?_) htail
    rcases hkey.all c hc with ⟨hequals, hcomma, hblank⟩
    simp [hequals, hcomma, hblank]
  unfold initTurn
  dsimp only
  rw [hstart, htake, if_neg (by simp), List.drop_left]
  cases tail.dropWhile isBlank with
  | nil => simp
  | cons c rest =>
      dsimp only
      split_ifs
      · rfl
      · rename_i hnil
        exact absurd hnil (by simp)
      · rfl

/-- A key, `=` and a value. -/
theorem initTurn_value {key rest : Bytes} (hkey : Scanned key) (hrest : StartsOutside isBlank rest)
    (limits : InitLimits) : initTurn (key ++ 61 :: rest) limits = valueTurn key rest limits := by
  have hequals : StartsOutside (fun c => c ≠ 61 && c ≠ 44 && !isBlank c) (61 :: rest) := by
    intro c more h
    cases h
    rfl
  rw [initTurn_key hkey hequals, List.dropWhile_cons_of_neg (by decide)]
  dsimp only
  rw [if_neg (by simp), dropWhile_outside hrest]

/-- A value as the scanner reads it: the digits of a number below 2^64, without a sign. -/
def number? (item : BareItem) : Option Nat := item.naturalText.bind stoull

theorem naturalText_eq {item : BareItem} {text : Bytes} (h : item.naturalText = some text) :
    item.text = text ∧ text ≠ [] ∧ ∀ c ∈ text, digit c = true := by
  cases item with
  | integer negative digits =>
      cases negative with
      | true => cases h
      | false =>
          cases h
          exact ⟨rfl, digits.ne_nil, digits.all⟩
  | _ => cases h

/-- No item starts with a blank. -/
theorem item_outside (item : BareItem) (tail : Bytes) : StartsOutside isBlank (item.text ++ tail) := by
  intro c more h
  cases hnatural : item.naturalText with
  | some text =>
      rcases naturalText_eq hnatural with ⟨heq, hne, hall⟩
      rcases List.exists_cons_of_ne_nil hne with ⟨d, rest, rfl⟩
      rw [heq] at h
      cases h
      exact (free_digit (hall c List.mem_cons_self)).blank
  | none =>
      rcases BareItem.shows hnatural with ⟨front, d, behind, heq, hfront, hd, -⟩
      rw [heq] at h
      cases front with
      | nil =>
          cases h
          exact hd.blank
      | cons e front =>
          cases h
          exact (hfront c List.mem_cons_self).blank

/-- The turn on a value. -/
theorem valueTurn_item (key : Bytes) (item : BareItem) {tail : Bytes}
    (htail : StartsOutside (fun c => c ≠ 44 && c ≠ 59 && !isBlank c) tail) (limits : InitLimits) :
    valueTurn key (item.text ++ tail) limits =
      match (number? item).bind (limits.record key) with
      | none => .stop none
      | some limits => .again (tail.dropWhile (· ≠ 44)) limits := by
  have hplain : ∀ c, Free c → (c ≠ 44 && c ≠ 59 && !isBlank c) = true := by
    intro c hc
    have hblank : isBlank c = false := hc.blank
    simp [hc.comma, hc.semicolon, hblank]
  unfold valueTurn number?
  cases hnatural : item.naturalText with
  | some text =>
      rcases naturalText_eq hnatural with ⟨heq, hne, hall⟩
      have htake : (text ++ tail).takeWhile (fun c => c ≠ 44 && c ≠ 59 && !isBlank c) = text :=
        takeWhile_front (fun c hc => hplain c (free_digit (hall c hc))) htail
      have hdigits : text.all isDigit = true := List.all_eq_true.2 hall
      dsimp only
      rw [heq, htake, if_neg (by simp [hdigits, hne]), List.drop_left, Option.bind_some]
      cases stoull text with
      | none => rfl
      | some n =>
          have hbind : (some n).bind (limits.record key) = limits.record key n := rfl
          rw [hbind]
  | none =>
      rcases BareItem.shows hnatural with ⟨front, c, behind, heq, hfront, hc, hdigit⟩
      have htake : ∃ more, (item.text ++ tail).takeWhile
          (fun c => c ≠ 44 && c ≠ 59 && !isBlank c) = front ++ c :: more := by
        rw [heq, List.append_assoc, List.cons_append,
          List.takeWhile_append_of_pos fun d hd => hplain d (hfront d hd), List.takeWhile_cons,
          if_pos (hplain c hc)]
        exact ⟨_, rfl⟩
      rcases htake with ⟨more, htake⟩
      have hother : (front ++ c :: more).all isDigit = false := by
        refine List.all_eq_false.2 ⟨c, List.mem_append_right _ List.mem_cons_self, ?_⟩
        have hsame : isDigit c = false := hdigit
        rw [hsame]
        decide
      dsimp only
      rw [htake, if_pos (Or.inl (by rw [hother]; rfl))]
      rfl

/-! ## Members -/

/-- What stands behind the parameters of a member: blanks, and then nothing or a comma. -/
structure Behind (tail : Bytes) : Prop where
  skipped : StartsOutside (· ≠ 44) (tail.dropWhile isBlank)
  outside : ∀ c more, tail = c :: more → isBlank c = true ∨ c = 44

/-- Of a member without a value the first parameter with one is read, if no space stands in front
of it. -/
def paramsReadable : List Parameter → Bool
  | [] => false
  | p :: ps =>
      p.spaces = 0 &&
        match p.value with
        | none => paramsReadable ps
        | some item => (number? item).isSome

/-- A member that the scanner reads: its value is a number, or it has none and the first of its
parameters' values is one. -/
def readable (m : Member) : Bool :=
  match m.value with
  | none => paramsReadable m.params
  | some item => (number? item).isSome

/-- The number that the scanner reads of a member. -/
def numberOf (m : Member) : Option Nat := m.value.bind number?

/-- A value as RFC 8941 means it: an integer that is a limit, with `-0` for zero. -/
def limit? (item : BareItem) : Option Nat :=
  item.integer?.bind fun n => if 0 ≤ n ∧ n < 2 ^ 64 then some n.toNat else none

/-- The limit that a member gives. -/
def limitOf (m : Member) : Option Nat := m.value.bind limit?

/-- What the scanner reads is what is meant. -/
theorem limit?_number {item : BareItem} {n : Nat} (h : number? item = some n) :
    limit? item = some n := by
  unfold number? at h
  cases hnatural : item.naturalText with
  | none =>
      rw [hnatural] at h
      cases h
  | some text =>
      rw [hnatural] at h
      have hstoull : (if natural text < 2 ^ 64 then some (natural text) else none) = some n := h
      split_ifs at hstoull with hbound
      cases hstoull
      unfold limit?
      rw [BareItem.integer?_natural hnatural, Option.bind_some, if_pos (by omega), Int.toNat_natCast]

/-- A limit that the scanner reads, it reads as it is meant. -/
theorem numberOf_readable {m : Member} (hlimit : (limitOf m).isSome = true)
    (hreadable : readable m = true) : ∃ n, numberOf m = some n ∧ limitOf m = some n := by
  unfold limitOf at hlimit ⊢
  unfold readable at hreadable
  unfold numberOf
  cases hvalue : m.value with
  | none =>
      rw [hvalue] at hlimit
      cases hlimit
  | some item =>
      rw [hvalue] at hreadable
      rcases Option.isSome_iff_exists.1 hreadable with ⟨n, hn⟩
      exact ⟨n, hn, limit?_number hn⟩

/-- A key with a parameter in it is none of the three. -/
theorem record_parameter {key : Bytes} (h : 59 ∈ key) (limits : InitLimits) (n : Nat) :
    limits.record key n = some limits := by
  have hne : ∀ known : Bytes, 59 ∉ known → key ≠ known := by
    rintro known hknown rfl
    exact hknown h
  unfold InitLimits.record
  rw [if_neg (hne _ (by decide)), if_neg (hne _ (by decide)), if_neg (hne _ (by decide))]

/-- Behind a value stand parameters, or what stands behind the member. -/
theorem params_outside (params : List Parameter) {tail : Bytes} (h : Behind tail) :
    StartsOutside (fun c => c ≠ 44 && c ≠ 59 && !isBlank c) (paramsText params ++ tail) := by
  intro c more htext
  cases params with
  | nil =>
      rcases h.outside c more htext with hblank | rfl
      · simp [hblank]
      · rfl
  | cons p ps =>
      cases htext
      rfl

/-- Parameters without a comma are skipped. -/
theorem dropWhile_params {params : List Parameter} (hcomma : 44 ∉ paramsText params)
    (tail : Bytes) : (paramsText params ++ tail).dropWhile (· ≠ 44) = tail.dropWhile (· ≠ 44) := by
  refine List.dropWhile_append_of_pos fun c hc => ?_
  simp only [ne_eq, decide_eq_true_eq]
  rintro rfl
  exact hcomma hc

/-- A parameter is its key and the value behind it. -/
theorem paramsText_cons (p : Parameter) (ps : List Parameter) (tail : Bytes) :
    paramsText (p :: ps) ++ tail = 59 :: (List.replicate p.spaces 32 ++
      (p.key.text ++ (valueText p.value ++ (paramsText ps ++ tail)))) := by
  unfold paramsText
  rw [List.flatMap_cons]
  simp only [Parameter.text, List.cons_append, List.append_assoc]

/-- The turn on a member without a value, `key` being what was scanned of it. -/
theorem initTurn_params {params : List Parameter} (hcomma : 44 ∉ paramsText params) {tail : Bytes}
    (hbehind : Behind tail) {key : Bytes} (hkey : Scanned key) (limits : InitLimits) :
    initTurn (key ++ (paramsText params ++ tail)) limits =
      if paramsReadable params = true then .again (tail.dropWhile (· ≠ 44)) limits
      else .stop none := by
  induction params generalizing key with
  | nil =>
      have htail : StartsOutside (fun c => c ≠ 61 && c ≠ 44 && !isBlank c) tail := by
        intro c more h
        rcases hbehind.outside c more h with hblank | rfl
        · simp [hblank]
        · rfl
      have hnone : paramsText [] ++ tail = tail := rfl
      rw [hnone, initTurn_key hkey htail, if_neg (by decide)]
      cases hrest : tail.dropWhile isBlank with
      | nil => rfl
      | cons c rest =>
          have hcomma := hbehind.skipped c rest hrest
          have hc : c = 44 := by simpa using hcomma
          dsimp only
          rw [if_pos (by rw [hc]; decide)]
  | cons p ps ih =>
      have hlonger := hkey.parameter p.key
      have hcomma' : 44 ∉ paramsText ps := by
        intro hmem
        refine hcomma ?_
        unfold paramsText
        rw [List.flatMap_cons]
        exact List.mem_append_right _ hmem
      rw [paramsText_cons]
      cases hspaces : p.spaces with
      | succ n =>
          -- A space ends what is scanned, and what follows is no `=`.
          have hsemi : Scanned (key ++ [59]) := by
            refine ⟨List.append_ne_nil_of_left_ne_nil hkey.ne_nil _, fun c hc => ?_⟩
            rcases List.mem_append.1 hc with hc | hc
            · exact hkey.all c hc
            · rw [List.mem_singleton.1 hc]
              decide
          have htext : key ++ 59 :: (List.replicate (n + 1) 32 ++
              (p.key.text ++ (valueText p.value ++ (paramsText ps ++ tail)))) =
              (key ++ [59]) ++ (List.replicate (n + 1) 32 ++
                (p.key.text ++ (valueText p.value ++ (paramsText ps ++ tail)))) := by
            rw [List.append_assoc]
            rfl
          have hblank : StartsOutside (fun c => c ≠ 61 && c ≠ 44 && !isBlank c)
              (List.replicate (n + 1) 32 ++
                (p.key.text ++ (valueText p.value ++ (paramsText ps ++ tail)))) := by
            intro c more h
            cases h
            rfl
          have hunreadable : paramsReadable (p :: ps) = false := by
            unfold paramsReadable
            rw [hspaces]
            rfl
          have hskip : ∀ c ∈ List.replicate (n + 1) (32 : UInt8), isBlank c = true := by
            intro c hc
            rw [List.eq_of_mem_replicate hc]
            rfl
          have hhead := Key.free p.key p.key.head List.mem_cons_self
          have hstart : isBlank p.key.head = false := hhead.blank
          rw [htext, initTurn_key hsemi hblank, hunreadable, List.dropWhile_append_of_pos hskip,
            Key.text, List.cons_append, List.dropWhile_cons_of_neg (by rw [hstart]; decide)]
          dsimp only
          rw [if_pos hhead.equals]
          rfl
      | zero =>
          have htext : key ++ 59 :: (List.replicate 0 32 ++
              (p.key.text ++ (valueText p.value ++ (paramsText ps ++ tail)))) =
              (key ++ 59 :: p.key.text) ++ (valueText p.value ++ (paramsText ps ++ tail)) := by
            rw [List.append_assoc]
            rfl
          rw [htext]
          cases hvalue : p.value with
          | none =>
              have hsame : paramsReadable (p :: ps) = paramsReadable ps := by
                unfold paramsReadable
                rw [hspaces, hvalue]
                cases ps <;> rfl
              rw [hsame]
              exact ih hcomma' hlonger
          | some item =>
              have hsame : paramsReadable (p :: ps) = (number? item).isSome := by
                unfold paramsReadable
                rw [hspaces, hvalue]
                rfl
              have hvalueText : valueText (some item) ++ (paramsText ps ++ tail) =
                  61 :: (item.text ++ (paramsText ps ++ tail)) := rfl
              have hsemi : 59 ∈ key ++ 59 :: p.key.text :=
                List.mem_append_right _ List.mem_cons_self
              rw [hvalueText, initTurn_value hlonger (item_outside item _),
                valueTurn_item _ item (params_outside ps hbehind), dropWhile_params hcomma', hsame]
              cases number? item with
              | none => rfl
              | some n =>
                  rw [Option.bind_some, record_parameter hsemi]
                  rfl

/-- The turn on a member: a number is recorded under its key, a member without a value is passed
over. -/
theorem initTurn_member {m : Member} (hcomma : 44 ∉ paramsText m.params) {tail : Bytes}
    (hbehind : Behind tail) (limits : InitLimits) :
    initTurn (m.text ++ tail) limits =
      if readable m = true then
        match (match numberOf m with
          | none => some limits
          | some n => limits.record m.key.text n) with
        | none => .stop none
        | some limits => .again (tail.dropWhile (· ≠ 44)) limits
      else .stop none := by
  have htext : m.text ++ tail = m.key.text ++ (valueText m.value ++ (paramsText m.params ++ tail)) := by
    unfold Member.text
    rw [List.append_assoc, List.append_assoc]
  rw [htext]
  unfold readable numberOf
  cases m.value with
  | none => exact initTurn_params hcomma hbehind (Key.scanned m.key) limits
  | some item =>
      have hvalueText : valueText (some item) ++ (paramsText m.params ++ tail) =
          61 :: (item.text ++ (paramsText m.params ++ tail)) := rfl
      rw [hvalueText, initTurn_value (Key.scanned m.key) (item_outside item _),
        valueTurn_item _ item (params_outside m.params hbehind), dropWhile_params hcomma,
        Option.bind_some]
      dsimp only
      by_cases hsome : (number? item).isSome = true
      · rcases Option.isSome_iff_exists.1 hsome with ⟨n, hn⟩
        rw [if_pos hsome, hn]
        rfl
      · have hnone : number? item = none := Option.not_isSome_iff_eq_none.1 hsome
        rw [if_neg hsome, hnone]
        rfl

/-! ## Dictionaries -/

/-- The keys that WebTransport-Init defines. -/
def initKeys : List Bytes := [ascii "u", ascii "bl", ascii "br"]

/-- A dictionary with distinct keys, whose `u`, `bl` and `br` are non-negative integers below 2^64;
the other members are whatever RFC 8941 admits, and no parameter shows a comma. -/
structure InitDictionary where
  members : List Placed
  nodup : (members.map fun p => p.member.key.text).Nodup
  numbers : ∀ p ∈ members, p.member.key.text ∈ initKeys → (limitOf p.member).isSome = true
  commaFree : ∀ p ∈ members, 44 ∉ paramsText p.member.params

/-- The limits of the members `u`, `bl` and `br`. -/
def limitsOf (ps : List Placed) : InitLimits where
  u := (memberAt ps (ascii "u")).bind limitOf
  bl := (memberAt ps (ascii "bl")).bind limitOf
  br := (memberAt ps (ascii "br")).bind limitOf

/-- The limits that are there, and those of further members. -/
def InitLimits.extend (limits more : InitLimits) : InitLimits where
  u := limits.u.or more.u
  bl := limits.bl.or more.bl
  br := limits.br.or more.br

/-- No limit that one of these members gives is there yet. -/
structure InitLimits.Before (limits : InitLimits) (ps : List Placed) : Prop where
  u : ascii "u" ∈ ps.map (fun p => p.member.key.text) → limits.u = none
  bl : ascii "bl" ∈ ps.map (fun p => p.member.key.text) → limits.bl = none
  br : ascii "br" ∈ ps.map (fun p => p.member.key.text) → limits.br = none

/-- Recording the first member and then reading the others is reading them all. -/
theorem record_first {p : Placed} {ps : List Placed} {limits : InitLimits}
    (hnew : p.member.key.text ∉ ps.map fun p => p.member.key.text)
    (hnumber : p.member.key.text ∈ initKeys →
      ∃ n, numberOf p.member = some n ∧ limitOf p.member = some n)
    (hbefore : limits.Before (p :: ps)) :
    ∃ next, (match numberOf p.member with
        | none => some limits
        | some n => limits.record p.member.key.text n) = some next ∧ next.Before ps ∧
      next.extend (limitsOf ps) = limits.extend (limitsOf (p :: ps)) := by
  have hlater : ∀ key, key ∈ ps.map (fun p => p.member.key.text) →
      key ∈ (p :: ps).map (fun p => p.member.key.text) := fun key h => List.mem_cons_of_mem _ h
  have hown : ∀ key, p.member.key.text = key →
      key ∈ (p :: ps).map (fun p => p.member.key.text) := by
    rintro key rfl
    exact List.mem_cons_self
  have hdistinct : ascii "u" ≠ ascii "bl" ∧ ascii "u" ≠ ascii "br" ∧ ascii "bl" ≠ ascii "br" := by
    decide
  rcases hdistinct with ⟨hubl, hubr, hblbr⟩
  -- A key of a limit that comes for the first time is recorded in its own field.
  by_cases hu : p.member.key.text = ascii "u"
  · rcases hnumber (by rw [hu]; decide) with ⟨n, hn, hlimit⟩
    have hnone : limits.u = none := hbefore.u (hown _ hu)
    refine ⟨{ limits with u := some n }, ?_, ⟨?_, fun h => hbefore.bl (hlater _ h),
      fun h => hbefore.br (hlater _ h)⟩, ?_⟩
    · rw [hn]
      dsimp only
      unfold InitLimits.record
      rw [if_pos hu, hnone]
      rfl
    · intro h
      exact absurd (hu ▸ h) hnew
    · unfold InitLimits.extend limitsOf
      rw [memberAt_cons_self hu, memberAt_cons_ne (by rw [hu]; exact hubl),
        memberAt_cons_ne (by rw [hu]; exact hubr), hnone, Option.bind_some, hlimit]
      rfl
  by_cases hbl : p.member.key.text = ascii "bl"
  · rcases hnumber (by rw [hbl]; decide) with ⟨n, hn, hlimit⟩
    have hnone : limits.bl = none := hbefore.bl (hown _ hbl)
    refine ⟨{ limits with bl := some n }, ?_, ⟨fun h => hbefore.u (hlater _ h), ?_,
      fun h => hbefore.br (hlater _ h)⟩, ?_⟩
    · rw [hn]
      dsimp only
      unfold InitLimits.record
      rw [if_neg hu, if_pos hbl, hnone]
      rfl
    · intro h
      exact absurd (hbl ▸ h) hnew
    · unfold InitLimits.extend limitsOf
      rw [memberAt_cons_self hbl, memberAt_cons_ne hu, memberAt_cons_ne (by rw [hbl]; exact hblbr),
        hnone, Option.bind_some, hlimit]
      rfl
  by_cases hbr : p.member.key.text = ascii "br"
  · rcases hnumber (by rw [hbr]; decide) with ⟨n, hn, hlimit⟩
    have hnone : limits.br = none := hbefore.br (hown _ hbr)
    refine ⟨{ limits with br := some n }, ?_, ⟨fun h => hbefore.u (hlater _ h),
      fun h => hbefore.bl (hlater _ h), ?_⟩, ?_⟩
    · rw [hn]
      dsimp only
      unfold InitLimits.record
      rw [if_neg hu, if_neg hbl, if_pos hbr, hnone]
      rfl
    · intro h
      exact absurd (hbr ▸ h) hnew
    · unfold InitLimits.extend limitsOf
      rw [memberAt_cons_self hbr, memberAt_cons_ne hu, memberAt_cons_ne hbl, hnone,
        Option.bind_some, hlimit]
      rfl
  · -- Any other key is ignored, with a number or without.
    refine ⟨limits, ?_, ⟨fun h => hbefore.u (hlater _ h), fun h => hbefore.bl (hlater _ h),
      fun h => hbefore.br (hlater _ h)⟩, ?_⟩
    · cases numberOf p.member with
      | none => rfl
      | some n =>
          dsimp only
          unfold InitLimits.record
          rw [if_neg hu, if_neg hbl, if_neg hbr]
    · unfold InitLimits.extend limitsOf
      rw [memberAt_cons_ne hu, memberAt_cons_ne hbl, memberAt_cons_ne hbr]

/-- What follows a member in a field value. -/
theorem behind_member (p : Placed) (ps : List Placed) : Behind (p.after ++ restText ps) ∧
    (p.after ++ restText ps).dropWhile (· ≠ 44) = restText ps := by
  have hblank : ∀ c ∈ p.after, isBlank c = true := p.after_ok
  have hnotComma : ∀ c ∈ p.after, decide (c ≠ 44) = true := by
    intro c hc
    rw [decide_eq_true_eq]
    rintro rfl
    exact Bool.false_ne_true (p.after_ok 44 hc)
  have hcomma : ∀ c more, restText ps = c :: more → c = 44 := by
    intro c more h
    unfold restText at h
    split_ifs at h
    cases h
    rfl
  have hrest : StartsOutside (· ≠ 44) (restText ps) := by
    intro c more h
    rw [hcomma c more h]
    rfl
  have hrestBlank : (restText ps).dropWhile isBlank = restText ps := by
    refine dropWhile_outside fun c more h => ?_
    rw [hcomma c more h]
    rfl
  refine ⟨⟨?_, fun c more h => ?_⟩, ?_⟩
  · rw [List.dropWhile_append_of_pos hblank, hrestBlank]
    exact hrest
  · cases hafter : p.after with
    | nil =>
        rw [hafter] at h
        exact Or.inr (hcomma c more h)
    | cons d after =>
        rw [hafter] at h
        cases h
        exact Or.inl (hblank c (by rw [hafter]; exact List.mem_cons_self))
  · rw [List.dropWhile_append_of_pos hnotComma, dropWhile_outside hrest]

/-- The comma in front of the members that follow is skipped. -/
theorem initTurn_rest (ps : List Placed) (limits : InitLimits) :
    initTurn (restText ps) limits = initTurn (fieldText ps) limits := by
  unfold restText
  split_ifs with hnil
  · rw [hnil]
    rfl
  · exact @initTurn_skip [44] (List.all_eq_true.1 rfl) (fieldText ps) limits

/-- The loop on the members of a dictionary. -/
theorem initEnds_members {ps : List Placed}
    (hnodup : (ps.map fun p => p.member.key.text).Nodup)
    (hnumbers : ∀ p ∈ ps, p.member.key.text ∈ initKeys → (limitOf p.member).isSome = true)
    (hcomma : ∀ p ∈ ps, 44 ∉ paramsText p.member.params) {limits : InitLimits}
    (hbefore : limits.Before ps) :
    InitEnds (fieldText ps) limits
      (if ∀ p ∈ ps, readable p.member = true then some (limits.extend (limitsOf ps)) else none) := by
  induction ps generalizing limits with
  | nil =>
      have hsame : limits.extend (limitsOf []) = limits := by
        unfold InitLimits.extend limitsOf memberAt
        simp
      rw [if_pos fun p hp => absurd hp List.not_mem_nil, hsame]
      exact .stop rfl
  | cons p ps ih =>
      rcases List.nodup_cons.1 hnodup with ⟨hnew, hnodup'⟩
      rcases behind_member p ps with ⟨hbehind, hrest⟩
      have htext : fieldText (p :: ps) = p.before ++ (p.member.text ++ (p.after ++ restText ps)) := by
        rw [fieldText_cons, Placed.text, List.append_assoc, List.append_assoc]
      have hskip : ∀ c ∈ p.before, (isBlank c || c = 44) = true := by
        intro c hc
        have hblank : isBlank c = true := p.before_ok c hc
        rw [hblank]
        rfl
      have hturn := initTurn_member (hcomma p List.mem_cons_self) hbehind limits
      rw [← initTurn_skip hskip, ← htext, hrest] at hturn
      by_cases hreadable : readable p.member = true
      · have hnumber : p.member.key.text ∈ initKeys →
            ∃ n, numberOf p.member = some n ∧ limitOf p.member = some n := fun hkey =>
          numberOf_readable (hnumbers p List.mem_cons_self hkey) hreadable
        rcases record_first hnew hnumber hbefore with ⟨next, hrecord, hnext, hextend⟩
        rw [if_pos hreadable, hrecord] at hturn
        have hall : (∀ q ∈ p :: ps, readable q.member = true) ↔
            ∀ q ∈ ps, readable q.member = true := by
          rw [List.forall_mem_cons]
          exact and_iff_right hreadable
        have hothers := ih hnodup' (fun q hq => hnumbers q (List.mem_cons_of_mem _ hq))
          (fun q hq => hcomma q (List.mem_cons_of_mem _ hq)) hnext
        rw [hextend] at hothers
        simp only [hall]
        exact .again hturn (hothers.of_turn_eq (initTurn_rest ps next))
      · rw [if_neg hreadable] at hturn
        rw [if_neg fun hall => hreadable (hall p List.mem_cons_self)]
        exact .stop hturn

/-- A dictionary is read exactly as it stands when each member is one that the scanner reads;
otherwise it is refused. -/
theorem parse_dictionary (d : InitDictionary) :
    parseWebtransportInit (fieldText d.members) =
      if ∀ p ∈ d.members, readable p.member = true then some (limitsOf d.members) else none := by
  have hempty : InitLimits.Before {} d.members := ⟨fun _ => rfl, fun _ => rfl, fun _ => rfl⟩
  have hends := initEnds_members d.nodup d.numbers d.commaFree hempty
  have hparse := (initEnds_parse _ _).1 hends
  have hextend : InitLimits.extend {} (limitsOf d.members) = limitsOf d.members := by
    unfold InitLimits.extend
    simp
  rw [← hparse, hextend]

/-- A member `key=n`, with blanks in front. -/
def placedNumber (key : Key) (n : Nat) (before : Bytes) (h : ∀ c ∈ before, blank c = true) :
    Placed where
  before := before
  member := { key := key, value := some (.integer false (.ofNat n)), params := [] }
  after := []
  before_ok := h
  after_ok := fun _ hc => absurd hc List.not_mem_nil

theorem number?_ofNat {n : Nat} (hn : n < 2 ^ 64) :
    number? (.integer false (.ofNat n)) = some n := by
  have hnatural : natural (digitsOf n) = n := natural_digitsOf n
  have hnumber : number? (.integer false (.ofNat n)) =
      if natural (digitsOf n) < 2 ^ 64 then some (natural (digitsOf n)) else none := rfl
  rw [hnumber, hnatural, if_pos hn]

theorem readable_placed (key : Key) {n : Nat} (hn : n < 2 ^ 64) (before : Bytes)
    (h : ∀ c ∈ before, blank c = true) :
    readable (placedNumber key n before h).member = true := by
  have hreadable : readable (placedNumber key n before h).member =
      (number? (.integer false (.ofNat n))).isSome := rfl
  rw [hreadable, number?_ofNat hn]
  rfl

theorem limitOf_placed (key : Key) {n : Nat} (hn : n < 2 ^ 64) (before : Bytes)
    (h : ∀ c ∈ before, blank c = true) :
    limitOf (placedNumber key n before h).member = some n := by
  unfold limitOf placedNumber
  rw [Option.bind_some]
  exact limit?_number (number?_ofNat hn)

theorem text_placed (key : Key) (n : Nat) (before : Bytes) (h : ∀ c ∈ before, blank c = true) :
    (placedNumber key n before h).text = before ++ key.text ++ 61 :: ascii (toString n) := by
  have hdigits : ascii (toString n) = digitsOf n := by
    unfold ascii digitsOf
    rw [Nat.toString_eq_ofList_toDigits, String.toList_ofList]
  rw [hdigits]
  simp only [Placed.text, Member.text, placedNumber, valueText, BareItem.text, signText, paramsText,
    Digits.ofNat]
  simp

def keyU : Key := ⟨117, [], by decide, List.all_eq_true.1 rfl⟩
def keyBl : Key := ⟨98, [108], by decide, List.all_eq_true.1 rfl⟩
def keyBr : Key := ⟨98, [114], by decide, List.all_eq_true.1 rfl⟩

/-- What `encode_webtransport_init` writes is a dictionary. -/
def initDictionary (n : Nat) (hn : n < 2 ^ 64) : InitDictionary where
  members := [placedNumber keyU n [] (List.all_eq_true.1 rfl),
    placedNumber keyBl n [32] (List.all_eq_true.1 rfl),
    placedNumber keyBr n [32] (List.all_eq_true.1 rfl)]
  nodup := by
    have hkeys : [keyU.text, keyBl.text, keyBr.text].Nodup := by decide
    exact hkeys
  numbers := by
    intro p hp _
    simp only [List.mem_cons, List.not_mem_nil, or_false] at hp
    rcases hp with rfl | rfl | rfl
    · rw [limitOf_placed keyU hn]
      rfl
    · rw [limitOf_placed keyBl hn]
      rfl
    · rw [limitOf_placed keyBr hn]
      rfl
  commaFree := by
    intro p hp
    simp only [List.mem_cons, List.not_mem_nil, or_false] at hp
    rcases hp with rfl | rfl | rfl <;> exact List.not_mem_nil

theorem encode_eq (config : H2SessionConfig) (h : config.wtInitialMaxStreamData < 2 ^ 64) :
    encodeWebtransportInit config =
      fieldText (initDictionary config.wtInitialMaxStreamData h).members := by
  have hnames : ascii "u=" = keyU.text ++ [61] ∧ ascii ", bl=" = 44 :: ([32] ++ keyBl.text ++ [61]) ∧
      ascii ", br=" = 44 :: ([32] ++ keyBr.text ++ [61]) := by decide
  rcases hnames with ⟨hu, hbl, hbr⟩
  unfold encodeWebtransportInit initDictionary
  dsimp only
  rw [fieldText_cons, text_placed, restText, if_neg (List.cons_ne_nil _ _), fieldText_cons,
    text_placed, restText, if_neg (List.cons_ne_nil _ _), fieldText_cons, text_placed, restText,
    if_pos rfl, hu, hbl, hbr]
  simp only [List.append_assoc, List.cons_append, List.nil_append, List.append_nil]

/-- What a session writes is read back. -/
theorem parse_encode (config : H2SessionConfig) (h : config.wtInitialMaxStreamData < 2 ^ 64) :
    parseWebtransportInit (encodeWebtransportInit config) =
      some { u := some config.wtInitialMaxStreamData, bl := some config.wtInitialMaxStreamData,
             br := some config.wtInitialMaxStreamData } := by
  let d := initDictionary config.wtInitialMaxStreamData h
  have hreadable : ∀ p ∈ d.members, readable p.member = true := by
    intro p hp
    simp only [d, initDictionary, List.mem_cons, List.not_mem_nil, or_false] at hp
    rcases hp with rfl | rfl | rfl
    · exact readable_placed keyU h _ _
    · exact readable_placed keyBl h _ _
    · exact readable_placed keyBr h _ _
  have hu : keyU.text = ascii "u" := by decide
  have hbl : keyBl.text = ascii "bl" := by decide
  have hbr : keyBr.text = ascii "br" := by decide
  have hne : keyU.text ≠ ascii "bl" ∧ keyU.text ≠ ascii "br" ∧ keyBl.text ≠ ascii "br" := by decide
  rw [encode_eq config h, parse_dictionary d, if_pos hreadable]
  have hfirst : memberAt d.members (ascii "u") = some (placedNumber keyU _ [] _).member :=
    memberAt_cons_self hu _
  have hsecond : memberAt d.members (ascii "bl") = some (placedNumber keyBl _ [32] _).member :=
    (memberAt_cons_ne hne.1 _).trans (memberAt_cons_self hbl _)
  have hthird : memberAt d.members (ascii "br") = some (placedNumber keyBr _ [32] _).member :=
    (memberAt_cons_ne hne.2.1 _).trans
      ((memberAt_cons_ne hne.2.2 _).trans (memberAt_cons_self hbr _))
  unfold limitsOf
  rw [hfirst, hsecond, hthird, Option.bind_some, Option.bind_some, Option.bind_some,
    limitOf_placed keyU h, limitOf_placed keyBl h, limitOf_placed keyBr h]

/-- What `encode_webtransport_init` writes is read back, a dictionary is read as it stands exactly
when each member is one that the scanner reads, and the scanner ends on every text. -/
theorem parse_init_reads (config : H2SessionConfig) (d : InitDictionary) (value : Bytes)
    (result : Option InitLimits) :
    (config.wtInitialMaxStreamData < 2 ^ 64 →
      parseWebtransportInit (encodeWebtransportInit config) =
        some { u := some config.wtInitialMaxStreamData, bl := some config.wtInitialMaxStreamData,
               br := some config.wtInitialMaxStreamData }) ∧
    (parseWebtransportInit (fieldText d.members) = some (limitsOf d.members) ↔
      ∀ p ∈ d.members, readable p.member = true) ∧
    (InitEnds value {} result ↔ result = parseWebtransportInit value) := by
  refine ⟨parse_encode config, ?_, initEnds_parse value result⟩
  rw [parse_dictionary d]
  split_ifs with h
  · exact iff_of_true rfl h
  · exact iff_of_false not_false h

/-- The default configuration. -/
theorem parse_init_default :
    parseWebtransportInit (encodeWebtransportInit {}) =
      some { u := some 262144, bl := some 262144, br := some 262144 } :=
  (parse_init_reads {} (initDictionary 5 (by decide)) [] none).1 (by decide)

/-- `u=5, x=?1` -/
def withBoolean : InitDictionary where
  members := [placedNumber keyU 5 [] (List.all_eq_true.1 rfl),
    { before := [32]
      member :=
        { key := ⟨120, [], by decide, List.all_eq_true.1 rfl⟩
          value := some (.boolean true)
          params := [] }
      after := []
      before_ok := List.all_eq_true.1 rfl
      after_ok := List.all_eq_true.1 rfl }]
  nodup := by decide
  numbers := by
    intro p hp hkey
    simp only [List.mem_cons, List.not_mem_nil, or_false] at hp
    rcases hp with rfl | rfl
    · decide +kernel
    · exact absurd hkey (by decide)
  commaFree := by
    intro p hp
    simp only [List.mem_cons, List.not_mem_nil, or_false] at hp
    rcases hp with rfl | rfl <;> exact List.not_mem_nil

/-- `u=-0` -/
def withMinusZero : InitDictionary where
  members := [
    { before := []
      member := { key := keyU, value := some (.integer true (.ofNat 0)), params := [] }
      after := []
      before_ok := List.all_eq_true.1 rfl
      after_ok := List.all_eq_true.1 rfl }]
  nodup := by decide
  numbers := by
    intro p hp _
    rw [List.mem_singleton.1 hp]
    decide +kernel
  commaFree := by
    intro p hp
    rw [List.mem_singleton.1 hp]
    exact List.not_mem_nil

/-- An unknown boolean is not ignored, and a zero with a sign is no number: the field value is
refused. -/
theorem parse_init_refuses :
    (fieldText withBoolean.members = ascii "u=5, x=?1" ∧
      limitsOf withBoolean.members = { u := some 5 } ∧
      parseWebtransportInit (fieldText withBoolean.members) = none) ∧
    (fieldText withMinusZero.members = ascii "u=-0" ∧
      limitsOf withMinusZero.members = { u := some 0 } ∧
      parseWebtransportInit (fieldText withMinusZero.members) = none) := by
  decide +kernel

end H2Session

end H2
end WebTransport
