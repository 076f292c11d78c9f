import WebTransport.Bindings.HeaderConvert
import WebTransport.Data.Occurrences
import WebTransport.Data.Utf8

/-!
# Client.WtUrl — the URL of a WebTransport endpoint (`_wt_url.py`)

The clients take host, port and path from the URL with `parse_wt_url`; the bindings split the same
URL with `parse_authority_path`.

* `parseWtUrl_eq`         : what `parse_wt_url` makes of host, port and path;
* `parseAuthorityPath_eq` : what `parse_authority_path` makes of them;
* `parse_wt_url_agrees`   : they agree when the path does not contain `https://`.
-/

namespace WebTransport
namespace Client

open Bindings

/-! ## Python's strings and integers -/

/-- The character tables behind `int`: the value of a decimal digit, and white space. -/
structure CharData where
  digit : Char → Option Nat
  isSpace : Char → Bool
  digit_ascii : ∀ c : Char, c.isDigit = true → digit c = some (c.toNat - '0'.toNat)
  space_ascii : ∀ c : Char, c.isDigit = true → isSpace c = false

/-- The ASCII part of the tables. -/
def CharData.ascii : CharData where
  digit c := if c.isDigit then some (c.toNat - '0'.toNat) else none
  isSpace c := c.isWhitespace
  digit_ascii c hc := if_pos hc
  space_ascii c hc := by
    rw [Bool.eq_false_iff]
    intro hspace
    simp only [Char.isWhitespace, Bool.or_eq_true, decide_eq_true_eq] at hspace
    rcases hspace with ((rfl | rfl) | rfl) | rfl <;> revert hc <;> decide

/-- The digits of `int`, with single underscores between them. -/
def intDigits (U : CharData) (value : Nat) : List Char → Option Nat
  | [] => some value
  | [c] => (U.digit c).map (value * 10 + ·)
  | c :: d :: rest =>
      if c = '_' then
        match U.digit d with
        | none => none
        | some digit => intDigits U (value * 10 + digit) rest
      else
        match U.digit c with
        | none => none
        | some digit => intDigits U (value * 10 + digit) (d :: rest)

/-- The default of `sys.set_int_max_str_digits`. -/
def maxStrDigits : Nat := 4300

/-- A digit and what follows. -/
def intMagnitude (U : CharData) (s : List Char) : Option Nat :=
  match s with
  | [] => none
  | c :: rest =>
      if (s.filter (· ≠ '_')).length > maxStrDigits then none
      else
        match U.digit c with
        | none => none
        | some digit => intDigits U digit rest

/-- `int(s)`; `none` is the `ValueError`. -/
def pyInt (U : CharData) (s : List Char) : Option Int :=
  let s := ((s.dropWhile U.isSpace).reverse.dropWhile U.isSpace).reverse
  match s with
  | '-' :: rest => (intMagnitude U rest).map fun n => -(n : Int)
  | '+' :: rest => (intMagnitude U rest).map Int.ofNat
  | s => (intMagnitude U s).map Int.ofNat

/-- `https://` -/
def https : List Char := ['h', 't', 't', 'p', 's', ':', '/', '/']

/-- `parse_wt_url`: host, port and path; `none` is the `ValueError`. -/
def parseWtUrl (U : CharData) (url : List Char) : Option (List Char × Int × List Char) :=
  let url := remove https url
  let (hostPort, path) :=
    if '/' ∈ url then (url.takeWhile (· ≠ '/'), '/' :: (url.dropWhile (· ≠ '/')).tail)
    else (url, ['/'])
  if ':' ∈ hostPort then
    match hostPort.splitOn ':' with
    | [host, port] => (pyInt U port).map fun port => (host, port, path)
    | _ => none
  else some (hostPort, 443, path)

/-! ## `int` of a decimal number -/

theorem intDigits_of_digits (U : CharData) {s : List Char} (hs : ∀ c ∈ s, c.isDigit = true)
    (value : Nat) : intDigits U value s = some (Nat.ofDigitChars 10 s value) := by
  induction s generalizing value with
  | nil => rfl
  | cons c s ih =>
      have hc : c.isDigit = true := hs c List.mem_cons_self
      have hrest : ∀ d ∈ s, d.isDigit = true := fun d hd => hs d (List.mem_cons_of_mem c hd)
      have hdigit := U.digit_ascii c hc
      have hunderscore : c ≠ '_' := by
        rintro rfl
        exact absurd hc (by decide)
      have hstep : intDigits U value (c :: s) = intDigits U (value * 10 + (c.toNat - '0'.toNat)) s := by
        cases s with
        | nil =>
            unfold intDigits
            rw [hdigit]
            rfl
        | cons d s =>
            conv_lhs => unfold intDigits
            rw [if_neg hunderscore, hdigit]
      rw [hstep, ih hrest, Nat.ofDigitChars_cons, Nat.mul_comm]

/-- `int(str(n))` -/
theorem pyInt_toDigits (U : CharData) {n : Nat} (h : n < 10 ^ maxStrDigits) :
    pyInt U (Nat.toDigits 10 n) = some (n : Int) := by
  have hdigit : ∀ c ∈ Nat.toDigits 10 n, c.isDigit = true :=
    fun c hc => Nat.isDigit_of_mem_toDigits (by decide) le_rfl hc
  have hspace : ∀ c ∈ Nat.toDigits 10 n, U.isSpace c = false :=
    fun c hc => U.space_ascii c (hdigit c hc)
  have hfew : (Nat.toDigits 10 n).length ≤ maxStrDigits :=
    (Nat.length_toDigits_le_iff (by decide) (by decide)).2 h
  have hvalue : Nat.ofDigitChars 10 (Nat.toDigits 10 n) 0 = n := Nat.ofDigitChars_ten_toDigits
  have hne : Nat.toDigits 10 n ≠ [] := Nat.toDigits_ne_nil
  generalize Nat.toDigits 10 n = s at *
  -- Nothing is stripped.
  have hkeep : ∀ l : List Char, (∀ c ∈ l, U.isSpace c = false) → l.dropWhile U.isSpace = l := by
    intro l hl
    cases l with
    | nil => rfl
    | cons c l => exact List.dropWhile_cons_of_neg (by simp [hl c List.mem_cons_self])
  have hstrip : ((s.dropWhile U.isSpace).reverse.dropWhile U.isSpace).reverse = s := by
    rw [hkeep s hspace, hkeep s.reverse (fun c hc => hspace c (List.mem_reverse.1 hc)),
      List.reverse_reverse]
  have hmagnitude : intMagnitude U s = some n := by
    cases s with
    | nil => exact absurd rfl hne
    | cons c rest =>
        have hc : c.isDigit = true := hdigit c List.mem_cons_self
        have hrest : ∀ d ∈ rest, d.isDigit = true :=
          fun d hd => hdigit d (List.mem_cons_of_mem c hd)
        have hcount : ((c :: rest).filter (· ≠ '_')).length ≤ maxStrDigits :=
          le_trans (List.length_filter_le _ _) hfew
        unfold intMagnitude
        dsimp only
        rw [if_neg (not_lt.2 hcount), U.digit_ascii c hc]
        dsimp only
        rw [intDigits_of_digits U hrest, ← hvalue, Nat.ofDigitChars_cons, Nat.mul_zero, Nat.zero_add]
  unfold pyInt
  dsimp only
  rw [hstrip]
  split
  · exact absurd (hdigit '-' List.mem_cons_self) (by decide)
  · exact absurd (hdigit '+' List.mem_cons_self) (by decide)
  · rw [hmagnitude]
    rfl

/-! ## Taking the scheme out -/

/-- Where the scheme starts within a host, it ends with its colon. -/
theorem getLast_of_https {v p : List Char} (hv : v ≠ []) (hslash : '/' ∉ v)
    (hp : p = [] ∨ p.head? = some '/') (h : https <+: v ++ p) : v.getLast? = some ':' := by
  unfold https at h
  rcases v with _ | ⟨a, _ | ⟨b, _ | ⟨c, _ | ⟨d, _ | ⟨e, _ | ⟨f, _ | ⟨g, v⟩⟩⟩⟩⟩⟩⟩
  case nil => exact absurd rfl hv
  case cons.cons.cons.cons.cons.cons.cons =>
    simp only [List.cons_append, List.cons_prefix_cons] at h
    rcases h with ⟨-, -, -, -, -, -, rfl, -⟩
    exact absurd (by simp) hslash
  case cons.cons.cons.cons.cons.cons.nil =>
    simp only [List.cons_append, List.nil_append, List.cons_prefix_cons] at h
    rcases h with ⟨-, -, -, -, -, rfl, -⟩
    rfl
  all_goals
    simp only [List.cons_append, List.nil_append, List.cons_prefix_cons] at h
    rcases hp with rfl | hp
    · simp at h
    · obtain ⟨rest, rfl⟩ := List.head?_eq_some_iff.1 hp
      simp at h

/-- Only the scheme in front and what the path contains are taken out. -/
theorem remove_https {front p : List Char} (hslash : '/' ∉ front)
    (hcolon : front.getLast? ≠ some ':') (hp : p = [] ∨ p.head? = some '/') :
    remove https (https ++ (front ++ p)) = front ++ remove https p := by
  rw [remove_occurrence (by decide)]
  apply remove_append
  rintro v hv ⟨u, rfl⟩ h
  have hlast : v.getLast? = some ':' :=
    getLast_of_https hv (fun hmem => hslash (List.mem_append_right u hmem)) hp h
  apply hcolon
  rw [List.getLast?_append, hlast]
  rfl

theorem remove_https_slash (q : List Char) : remove https ('/' :: q) = '/' :: remove https q := by
  apply remove_cons_of_not
  unfold https
  rw [List.cons_prefix_cons]
  rintro ⟨h, -⟩
  exact absurd h (by decide)

/-- The path of a URL: `/` where there is none. -/
def pathOf (p : List Char) : List Char := if p = [] then ['/'] else p

theorem pathOf_https {p : List Char} (hp : p = [] ∨ p.head? = some '/') :
    pathOf (remove https p) = pathOf p ↔ ¬ https <:+: p := by
  have hiff : remove https p = p ↔ ¬ https <:+: p := remove_eq_self_iff (by decide)
  rw [← hiff]
  rcases hp with rfl | hp
  · exact iff_of_true rfl rfl
  · obtain ⟨q, rfl⟩ := List.head?_eq_some_iff.1 hp
    rw [remove_https_slash]
    exact Iff.rfl

/-- Behind the scheme, `parse_wt_url` splits at the first slash. -/
theorem parseWtUrl_split (U : CharData) {front p : List Char} (hslash : '/' ∉ front)
    (hcolon : front.getLast? ≠ some ':') (hp : p = [] ∨ p.head? = some '/') :
    parseWtUrl U (https ++ (front ++ p)) =
      if ':' ∈ front then
        match front.splitOn ':' with
        | [host, port] => (pyInt U port).map fun port => (host, port, pathOf (remove https p))
        | _ => none
      else some (front, 443, pathOf (remove https p)) := by
  unfold parseWtUrl
  rw [remove_https hslash hcolon hp]
  have htake : ∀ c ∈ front, decide (c ≠ '/') = true := by
    intro c hc
    exact decide_eq_true fun heq => hslash (heq ▸ hc)
  rcases hp with rfl | hp
  · have hnone : remove https [] = [] := rfl
    rw [hnone, List.append_nil]
    dsimp only
    rw [if_neg hslash]
    rfl
  · obtain ⟨q, rfl⟩ := List.head?_eq_some_iff.1 hp
    rw [remove_https_slash]
    have hmem : '/' ∈ front ++ '/' :: remove https q :=
      List.mem_append_right front List.mem_cons_self
    have htw : (front ++ '/' :: remove https q).takeWhile (· ≠ '/') = front := by
      rw [List.takeWhile_append_of_pos htake, List.takeWhile_cons_of_neg (by decide),
        List.append_nil]
    have hdw : (front ++ '/' :: remove https q).dropWhile (· ≠ '/') = '/' :: remove https q := by
      rw [List.dropWhile_append_of_pos htake, List.dropWhile_cons_of_neg (by decide)]
    dsimp only
    rw [if_pos hmem, htw, hdw]
    rfl

/-- The URL with a port. -/
theorem parseWtUrl_port (U : CharData) {host p : List Char} {port : Nat} (hslash : '/' ∉ host)
    (hcolon : ':' ∉ host) (hport : port < 10 ^ maxStrDigits) (hp : p = [] ∨ p.head? = some '/') :
    parseWtUrl U (https ++ (host ++ ':' :: Nat.toDigits 10 port ++ p)) =
      some (host, (port : Int), pathOf (remove https p)) := by
  have hdigit : ∀ c ∈ Nat.toDigits 10 port, c.isDigit = true :=
    fun c hc => Nat.isDigit_of_mem_toDigits (by decide) le_rfl hc
  have hnot : ∀ c : Char, c.isDigit = false → c ∉ Nat.toDigits 10 port := by
    intro c hc hmem
    rw [hdigit c hmem] at hc
    cases hc
  have hfront : '/' ∉ host ++ ':' :: Nat.toDigits 10 port := by
    rw [List.mem_append, List.mem_cons, not_or, not_or]
    exact ⟨hslash, by decide, hnot '/' (by decide)⟩
  have hlast : (host ++ ':' :: Nat.toDigits 10 port).getLast? ≠ some ':' := by
    intro h
    have hne : Nat.toDigits 10 port ≠ [] := Nat.toDigits_ne_nil
    rw [List.getLast?_append, List.getLast?_cons, List.getLast?_eq_some_getLast hne] at h
    have hmem := List.getLast_mem hne
    simp only [Option.getD_some, Option.some_or, Option.some.injEq] at h
    rw [h] at hmem
    exact hnot ':' (by decide) hmem
  have hsplit : (host ++ ':' :: Nat.toDigits 10 port).splitOn ':' = [host, Nat.toDigits 10 port] := by
    rw [List.splitOn_append_cons_of_beq _ _ (by decide), List.splitOn_eq_singleton hcolon,
      List.splitOn_eq_singleton (hnot ':' (by decide))]
    rfl
  rw [parseWtUrl_split U hfront hlast hp, if_pos (by simp), hsplit]
  dsimp only
  rw [pyInt_toDigits U hport]
  rfl

/-- The URL without a port. -/
theorem parseWtUrl_noPort (U : CharData) {host p : List Char} (hslash : '/' ∉ host)
    (hcolon : ':' ∉ host) (hp : p = [] ∨ p.head? = some '/') :
    parseWtUrl U (https ++ (host ++ p)) = some (host, 443, pathOf (remove https p)) := by
  have hlast : host.getLast? ≠ some ':' := fun h => hcolon (List.mem_of_getLast? h)
  rw [parseWtUrl_split U hslash hlast hp, if_neg hcolon]

/-! ## The bindings -/

/-- The bytes that the bindings are given for a string. -/
def utf8 (s : List Char) : Bytes := Utf8.code.encode s

theorem slash_notMem_utf8 {s : List Char} (h : '/' ∉ s) : ∀ b ∈ utf8 s, b ≠ 47 := by
  rintro b hb rfl
  rcases List.mem_flatMap.1 hb with ⟨c, hc, hmem⟩
  have hvalue : c.val.toNat = (47 : UInt8).toNat := Utf8.ascii_of_mem hmem (by decide)
  have hslash : c = '/' := Char.ext (UInt32.toNat_inj.1 hvalue)
  exact h (hslash ▸ hc)

/-- `parse_authority_path` on the same URL. -/
theorem parseAuthorityPath_eq {front p : List Char} (hslash : '/' ∉ front)
    (hp : p = [] ∨ p.head? = some '/') :
    parseAuthorityPath (utf8 (https ++ (front ++ p))) = some (utf8 front, utf8 (pathOf p)) := by
  have hscheme : utf8 (https ++ (front ++ p)) =
      104 :: 116 :: 116 :: 112 :: 115 :: 58 :: 47 :: 47 :: (utf8 front ++ utf8 p) := by
    unfold utf8
    rw [PrefixCode.encode_append, PrefixCode.encode_append]
    rfl
  have hafter : afterScheme (utf8 (https ++ (front ++ p))) = some (utf8 front ++ utf8 p) := by
    rw [hscheme]
    rfl
  have htake : ∀ b ∈ utf8 front, decide (b ≠ 47) = true :=
    fun b hb => decide_eq_true (slash_notMem_utf8 hslash b hb)
  unfold parseAuthorityPath
  rw [hafter]
  dsimp only
  rcases hp with rfl | hp
  · have hnil : utf8 [] = [] := rfl
    rw [hnil, List.takeWhile_append_of_pos htake, List.dropWhile_append_of_pos htake]
    simp
    rfl
  · obtain ⟨q, rfl⟩ := List.head?_eq_some_iff.1 hp
    have hcons : utf8 ('/' :: q) = 47 :: utf8 q := rfl
    rw [hcons, List.takeWhile_append_of_pos htake, List.dropWhile_append_of_pos htake,
      List.takeWhile_cons_of_neg (by decide), List.dropWhile_cons_of_neg (by decide),
      List.append_nil]
    rfl

/-! ## The agreement -/

/-- With and without a port, both parsers find the parts that the URL was made of. -/
structure Agree (U : CharData) (host : List Char) (port : Nat) (p : List Char) : Prop where
  port_eq : parseWtUrl U (https ++ (host ++ ':' :: Nat.toDigits 10 port ++ p)) =
    some (host, (port : Int), pathOf p)
  noPort_eq : parseWtUrl U (https ++ (host ++ p)) = some (host, 443, pathOf p)
  binding_port : parseAuthorityPath (utf8 (https ++ (host ++ ':' :: Nat.toDigits 10 port ++ p))) =
    some (utf8 (host ++ ':' :: Nat.toDigits 10 port), utf8 (pathOf p))
  binding_noPort : parseAuthorityPath (utf8 (https ++ (host ++ p))) =
    some (utf8 host, utf8 (pathOf p))

theorem lt_maxStrDigits {port : Nat} (h : port ≤ 65535) : port < 10 ^ maxStrDigits := by
  have hfive : 10 ^ 5 ≤ 10 ^ maxStrDigits := Nat.pow_le_pow_right (by decide) (by decide)
  exact lt_of_lt_of_le (lt_of_le_of_lt h (by decide)) hfive

/-- The parsers agree on the parts of a URL if and only if the path does not contain `https://`. -/
theorem parse_wt_url_agrees (U : CharData) {host p : List Char} {port : Nat}
    (hhost : '/' ∉ host ∧ ':' ∉ host) (hport : port ≤ 65535) (hp : p = [] ∨ p.head? = some '/') :
    Agree U host port p ↔ ¬ https <:+: p := by
  rcases hhost with ⟨hslash, hcolon⟩
  have hwith := parseWtUrl_port U hslash hcolon (lt_maxStrDigits hport) hp
  have hwithout := parseWtUrl_noPort U hslash hcolon hp
  constructor
  · intro h
    have heq := hwithout.symm.trans h.noPort_eq
    simp only [Option.some.injEq, Prod.mk.injEq, true_and] at heq
    exact (pathOf_https hp).1 heq
  · intro h
    have heq : pathOf (remove https p) = pathOf p := (pathOf_https hp).2 h
    rw [heq] at hwith hwithout
    have hfront : '/' ∉ host ++ ':' :: Nat.toDigits 10 port := by
      rw [List.mem_append, List.mem_cons, not_or, not_or]
      refine ⟨hslash, by decide, ?_⟩
      intro hmem
      have hdigit := Nat.isDigit_of_mem_toDigits (by decide) le_rfl hmem
      exact absurd hdigit (by decide)
    exact ⟨hwith, hwithout, parseAuthorityPath_eq hfront hp, parseAuthorityPath_eq hslash hp⟩

theorem parse_wt_url_agrees_plain :
    Agree CharData.ascii ['h', 's', 't'] 8443 ['/', 'a', ':', '/', '/'] ↔
      ¬ https <:+: ['/', 'a', ':', '/', '/'] :=
  parse_wt_url_agrees CharData.ascii (by decide) (by decide) (Or.inr rfl)

/-- A URL in the path loses its scheme. -/
theorem parse_wt_url_path_changed :
    parseWtUrl CharData.ascii (https ++ (['h'] ++ ['/', '?', 'u', '='] ++ https ++ ['x'])) =
        some (['h'], 443, ['/', '?', 'u', '=', 'x']) ∧
      ¬ Agree CharData.ascii ['h'] 443 (['/', '?', 'u', '='] ++ https ++ ['x']) := by
  have hparse : parseWtUrl CharData.ascii
      (https ++ (['h'] ++ ['/', '?', 'u', '='] ++ https ++ ['x'])) =
        some (['h'], 443, ['/', '?', 'u', '=', 'x']) := by decide +kernel
  refine ⟨hparse, ?_⟩
  intro h
  have heq := hparse.symm.trans h.noPort_eq
  revert heq
  decide

end Client
end WebTransport
