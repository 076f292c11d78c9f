import WebTransport.Data.Skip
import WebTransport.H3.Session

/-!
# H3.ErrorCodes — application error codes on the wire (`h3/_error_codes.py`)

An application error code of 32 bits is sent as an HTTP/3 error code between
`_WT_APPLICATION_ERROR_FIRST` and `_WT_APPLICATION_ERROR_LAST`; the reserved codes `0x1f * N + 0x21`
in between are skipped.  Of 31 codes one is reserved, so the conversion is `skip 30`.

* `webtransport_code_to_http_code` in C++ (`Cpp`) and in Python, and the way back;
* `wireCode_eq`, `appCode_eq` : both are `skip` and `unskip` behind the first code;
* `error_codes_exact`         : which codes are reached, and that the way back is the inverse.
-/

namespace WebTransport
namespace H3

/-! ## The Python version -/

namespace ErrorCodes

/-- `_WT_APPLICATION_ERROR_FIRST` -/
def wtApplicationErrorFirst : Int := 0x52E4A40FA8DB

/-- `_WT_APPLICATION_ERROR_LAST` -/
def wtApplicationErrorLast : Int := 0x52E5AC983162

/-- `_MAX_APPLICATION_ERROR_CODE` -/
def maxApplicationErrorCode : Int := 0xFFFFFFFF

/-- The format `{h:#x}`. -/
def hexLiteral (h : Int) : String :=
  (if h < 0 then "-0x" else "0x") ++ String.ofList (Nat.toDigits 16 h.natAbs)

/-- `webtransport_code_to_http_code` -/
def webtransportCodeToHttpCode (n : Int) : Except String Int :=
  if n < 0 ∨ n > maxApplicationErrorCode then
    .error ("application error code out of uint32 range: expected 0.." ++
      toString maxApplicationErrorCode ++ ", got " ++ toString n)
  else .ok (wtApplicationErrorFirst + n + n / 0x1E)

/-- `is_wt_application_error_code` -/
def isWtApplicationErrorCode (h : Int) : Bool :=
  if h < wtApplicationErrorFirst ∨ h > wtApplicationErrorLast then false
  else decide ((h - 0x21) % 0x1F ≠ 0)

/-- `http_code_to_webtransport_code` -/
def httpCodeToWebtransportCode (h : Int) : Except String Int :=
  if !isWtApplicationErrorCode h then
    .error ("HTTP/3 error code outside WT_APPLICATION_ERROR range or reserved: got " ++ hexLiteral h)
  else
    let shifted := h - wtApplicationErrorFirst
    .ok (shifted - shifted / 0x1F)

/-- `deliver_stream_reset_error_code`; where `http_code_to_webtransport_code` would raise it is not
called. -/
def deliverStreamResetErrorCode (wireErrorCode : Int) (isConnectStream : Bool) : Option Int :=
  if isConnectStream then some wireErrorCode
  else if isWtApplicationErrorCode wireErrorCode then
    (httpCodeToWebtransportCode wireErrorCode).toOption
  else none

/-! ## As `skip` and `unskip` -/

/-- The wire code of an application code. -/
def wireCode (n : Nat) : Nat := kWtApplicationErrorFirst + skip 30 n

/-- The application code of a wire code. -/
def appCode (h : Nat) : Nat := unskip 30 (h - kWtApplicationErrorFirst)

theorem wireCode_eq {n : Int} (hlow : 0 ≤ n) (hhigh : n ≤ maxApplicationErrorCode) :
    webtransportCodeToHttpCode n = .ok (wireCode n.toNat) := by
  obtain ⟨m, rfl⟩ := Int.eq_ofNat_of_zero_le hlow
  have hrange : ¬((m : Int) < 0 ∨ (m : Int) > maxApplicationErrorCode) := by omega
  unfold webtransportCodeToHttpCode wireCode skip
  rw [if_neg hrange]
  simp only [Int.toNat_natCast, kWtApplicationErrorFirst, wtApplicationErrorFirst]
  refine congrArg Except.ok ?_
  push_cast
  omega

theorem webtransportCodeToHttpCode_eq_ok {n h : Int} : webtransportCodeToHttpCode n = .ok h ↔
    0 ≤ n ∧ n ≤ maxApplicationErrorCode ∧ h = wireCode n.toNat := by
  by_cases hrange : 0 ≤ n ∧ n ≤ maxApplicationErrorCode
  · rw [wireCode_eq hrange.1 hrange.2, Except.ok.injEq]
    exact ⟨fun heq => ⟨hrange.1, hrange.2, heq.symm⟩, fun heq => heq.2.2.symm⟩
  · have hout : n < 0 ∨ n > maxApplicationErrorCode := by omega
    unfold webtransportCodeToHttpCode
    rw [if_pos hout]
    constructor
    · intro heq
      cases heq
    · intro heq
      exact absurd ⟨heq.1, heq.2.1⟩ hrange

/-- The codes that are accepted: in the range and not reserved. -/
theorem isWtApplicationErrorCode_iff {h : Int} : isWtApplicationErrorCode h = true ↔
    0x52e4a40fa8db ≤ h ∧ h ≤ 0x52e5ac983162 ∧ (h - 0x21) % 0x1f ≠ 0 := by
  unfold isWtApplicationErrorCode wtApplicationErrorFirst wtApplicationErrorLast
  split_ifs with hrange
  · constructor
    · intro heq
      cases heq
    · intro heq
      omega
  · rw [decide_eq_true_eq]
    constructor
    · intro hreserved
      exact ⟨by omega, by omega, hreserved⟩
    · exact fun heq => heq.2.2

/-- The first code of the range is one above a reserved one, so a code is reserved where it is the
last of a block of 31. -/
theorem isWtApplicationErrorCode_nat {h : Nat} : isWtApplicationErrorCode h = true ↔
    kWtApplicationErrorFirst ≤ h ∧ h ≤ 0x52e5ac983162 ∧
      (h - kWtApplicationErrorFirst) % (30 + 1) ≠ 30 := by
  rw [isWtApplicationErrorCode_iff]
  unfold kWtApplicationErrorFirst
  omega

theorem wireCode_accepted {n : Nat} (hn : n ≤ kMaxApplicationErrorCode) :
    isWtApplicationErrorCode (wireCode n) = true := by
  have hhigh : skip 30 n ≤ skip 30 kMaxApplicationErrorCode := (skip_strictMono 30).monotone hn
  have hlast : skip 30 kMaxApplicationErrorCode = 0x52e5ac983162 - kWtApplicationErrorFirst := by
    decide
  rw [isWtApplicationErrorCode_nat]
  unfold wireCode
  refine ⟨Nat.le_add_right _ _, ?_, ?_⟩
  · unfold kWtApplicationErrorFirst at hlast ⊢
    omega
  · rw [Nat.add_sub_cancel_left]
    exact skip_mod (by decide) n

theorem appCode_wireCode (n : Nat) : appCode (wireCode n) = n := by
  unfold appCode wireCode
  rw [Nat.add_sub_cancel_left]
  exact unskip_skip (by decide) n

theorem wireCode_appCode {h : Nat} (haccepted : isWtApplicationErrorCode h = true) :
    wireCode (appCode h) = h ∧ appCode h ≤ kMaxApplicationErrorCode := by
  obtain ⟨hfirst, hlast, hmod⟩ := isWtApplicationErrorCode_nat.1 haccepted
  unfold wireCode appCode
  rw [skip_unskip hmod]
  refine ⟨Nat.add_sub_of_le hfirst, ?_⟩
  unfold unskip kMaxApplicationErrorCode kWtApplicationErrorFirst at *
  omega

theorem appCode_eq {h : Int} (haccepted : isWtApplicationErrorCode h = true) :
    httpCodeToWebtransportCode h = .ok (appCode h.toNat) := by
  have hrange := isWtApplicationErrorCode_iff.1 haccepted
  obtain ⟨m, rfl⟩ := Int.eq_ofNat_of_zero_le (show 0 ≤ h by omega)
  unfold httpCodeToWebtransportCode appCode unskip
  rw [haccepted]
  simp only [Bool.not_true, Bool.false_eq_true, if_false, Int.toNat_natCast,
    kWtApplicationErrorFirst, wtApplicationErrorFirst]
  refine congrArg Except.ok ?_
  omega

theorem httpCodeToWebtransportCode_eq_ok {h n : Int} : httpCodeToWebtransportCode h = .ok n ↔
    isWtApplicationErrorCode h = true ∧ n = appCode h.toNat := by
  cases haccepted : isWtApplicationErrorCode h with
  | true =>
      rw [appCode_eq haccepted, Except.ok.injEq]
      exact ⟨fun heq => ⟨rfl, heq.symm⟩, fun heq => heq.2.symm⟩
  | false =>
      unfold httpCodeToWebtransportCode
      rw [haccepted]
      constructor
      · intro heq
        cases heq
      · intro heq
        cases heq.1

/-- `http_code_to_webtransport_code` is the inverse of `webtransport_code_to_http_code`. -/
theorem inverse_iff {n h : Int} :
    webtransportCodeToHttpCode n = .ok h ↔ httpCodeToWebtransportCode h = .ok n := by
  rw [webtransportCodeToHttpCode_eq_ok, httpCodeToWebtransportCode_eq_ok]
  constructor
  · rintro ⟨hlow, hhigh, rfl⟩
    have hn : n.toNat ≤ kMaxApplicationErrorCode := by
      unfold maxApplicationErrorCode at hhigh
      unfold kMaxApplicationErrorCode
      omega
    refine ⟨wireCode_accepted hn, ?_⟩
    rw [Int.toNat_natCast, appCode_wireCode, Int.toNat_of_nonneg hlow]
  · rintro ⟨haccepted, rfl⟩
    have hrange := isWtApplicationErrorCode_iff.1 haccepted
    obtain ⟨m, rfl⟩ := Int.eq_ofNat_of_zero_le (show 0 ≤ h by omega)
    obtain ⟨hwire, happ⟩ := wireCode_appCode haccepted
    rw [Int.toNat_natCast, Int.toNat_natCast, hwire]
    refine ⟨Int.natCast_nonneg _, ?_, rfl⟩
    unfold kMaxApplicationErrorCode at happ
    unfold maxApplicationErrorCode
    omega

/-! ## C++ and Python -/

/-- The arithmetic of `uint64_t` does not wrap below the range check. -/
theorem cpp_eq (n : UInt64) :
    (Cpp.webtransportCodeToHttpCode n).toOption.map (fun h => (h.toNat : Int)) =
      (webtransportCodeToHttpCode n.toNat).toOption := by
  unfold Cpp.webtransportCodeToHttpCode webtransportCodeToHttpCode maxApplicationErrorCode
  have hlarge : n > 0xffffffff ↔ ((n.toNat : Int) < 0 ∨ (n.toNat : Int) > 0xFFFFFFFF) := by
    rw [gt_iff_lt, UInt64.lt_iff_toNat_lt]
    change 0xffffffff < n.toNat ↔ _
    omega
  by_cases hn : n > 0xffffffff
  · rw [if_pos hn, if_pos (hlarge.1 hn)]
    rfl
  · rw [if_neg hn, if_neg fun h => hn (hlarge.2 h)]
    have hsmall : n.toNat ≤ 0xffffffff := by
      rw [gt_iff_lt, UInt64.lt_iff_toNat_lt, not_lt] at hn
      exact hn
    have hsum : (0x52e4a40fa8db + n + n / 0x1e).toNat = 0x52e4a40fa8db + n.toNat + n.toNat / 0x1e := by
      rw [UInt64.toNat_add, UInt64.toNat_add, UInt64.toNat_div]
      change (((0x52e4a40fa8db + n.toNat) % 2 ^ 64) + n.toNat / 0x1e) % 2 ^ 64 = _
      omega
    simp only [Except.toOption, Option.map_some, hsum, wtApplicationErrorFirst]
    push_cast
    rfl

theorem cpp_of_le {n : Nat} (hn : n ≤ kMaxApplicationErrorCode) :
    (Cpp.webtransportCodeToHttpCode (UInt64.ofNat n)).map UInt64.toNat = .ok (wireCode n) := by
  have hmax : kMaxApplicationErrorCode < UInt64.size := by decide
  have hnat : (UInt64.ofNat n).toNat = n := UInt64.toNat_ofNat_of_lt' (lt_of_le_of_lt hn hmax)
  have hhigh : (n : Int) ≤ maxApplicationErrorCode := by
    unfold kMaxApplicationErrorCode at hn
    unfold maxApplicationErrorCode
    omega
  have hagree := cpp_eq (UInt64.ofNat n)
  rw [hnat, wireCode_eq (Int.natCast_nonneg n) hhigh, Int.toNat_natCast] at hagree
  cases hwire : Cpp.webtransportCodeToHttpCode (UInt64.ofNat n) with
  | error message =>
      rw [hwire] at hagree
      cases hagree
  | ok wire =>
      rw [hwire] at hagree
      exact congrArg Except.ok (Int.ofNat.inj (Option.some.inj hagree))

/-! ## Main result -/

theorem webtransportCodeToHttpCode_mono {m n h k : Int} (hm : webtransportCodeToHttpCode m = .ok h)
    (hn : webtransportCodeToHttpCode n = .ok k) (hlt : m < n) : h < k := by
  obtain ⟨hlow, -, rfl⟩ := webtransportCodeToHttpCode_eq_ok.1 hm
  obtain ⟨-, -, rfl⟩ := webtransportCodeToHttpCode_eq_ok.1 hn
  have hskip : skip 30 m.toNat < skip 30 n.toNat := skip_strictMono 30 (by omega)
  unfold wireCode
  omega

theorem deliver_data_eq {h : Int} :
    deliverStreamResetErrorCode h false = (httpCodeToWebtransportCode h).toOption := by
  unfold deliverStreamResetErrorCode
  rw [if_neg Bool.false_ne_true]
  split_ifs with haccepted
  · rfl
  · unfold httpCodeToWebtransportCode
    rw [Bool.eq_false_iff.2 haccepted]
    rfl

theorem mapSendErrorCode_data {N : Nghttp3} {s : H3Session N} {streamId : Int}
    (hdata : streamId ∉ s.sessionIds) {n : Nat} (hn : n ≤ kMaxApplicationErrorCode) :
    s.mapSendErrorCode streamId n = .ok (wireCode n) := by
  unfold H3Session.mapSendErrorCode
  rw [if_neg (not_lt.2 hn), if_neg hdata]
  exact cpp_of_le hn

/-- Both versions convert alike.  The codes `0` to `2^32 - 1` are mapped in order onto the codes of
the range that are not reserved, `http_code_to_webtransport_code` is the inverse, and a reset of a
data stream is delivered with the code it was given, or with none. -/
theorem error_codes_exact :
    (∀ n : UInt64, (Cpp.webtransportCodeToHttpCode n).toOption.map (fun h => (h.toNat : Int)) =
      (webtransportCodeToHttpCode n.toNat).toOption) ∧
    (∀ n, (∃ h, webtransportCodeToHttpCode n = .ok h) ↔ 0 ≤ n ∧ n ≤ 2 ^ 32 - 1) ∧
    (∀ m n h k, webtransportCodeToHttpCode m = .ok h → webtransportCodeToHttpCode n = .ok k →
      m < n → h < k) ∧
    (∀ h, (∃ n, webtransportCodeToHttpCode n = .ok h) ↔
      0x52e4a40fa8db ≤ h ∧ h ≤ 0x52e5ac983162 ∧ (h - 0x21) % 0x1f ≠ 0) ∧
    (∀ h, isWtApplicationErrorCode h = true ↔
      0x52e4a40fa8db ≤ h ∧ h ≤ 0x52e5ac983162 ∧ (h - 0x21) % 0x1f ≠ 0) ∧
    (∀ n h, webtransportCodeToHttpCode n = .ok h ↔ httpCodeToWebtransportCode h = .ok n) ∧
    (∀ (N : Nghttp3) (s : H3Session N) (streamId : Int) (n : Nat), streamId ∉ s.sessionIds →
      n ≤ 2 ^ 32 - 1 → ∃ wire : Nat, s.mapSendErrorCode streamId n = .ok wire ∧
        deliverStreamResetErrorCode wire false = some (n : Int)) ∧
    (∀ wire, (∀ n, webtransportCodeToHttpCode n ≠ .ok wire) →
      deliverStreamResetErrorCode wire false = none) := by
  refine ⟨cpp_eq, ?_, fun _ _ _ _ => webtransportCodeToHttpCode_mono, ?_,
    fun _ => isWtApplicationErrorCode_iff, fun _ _ => inverse_iff, ?_, ?_⟩
  · intro n
    constructor
    · rintro ⟨h, hn⟩
      obtain ⟨hlow, hhigh, -⟩ := webtransportCodeToHttpCode_eq_ok.1 hn
      exact ⟨hlow, hhigh⟩
    · rintro ⟨hlow, hhigh⟩
      exact ⟨_, wireCode_eq hlow hhigh⟩
  · intro h
    rw [← isWtApplicationErrorCode_iff]
    constructor
    · rintro ⟨n, hn⟩
      exact (httpCodeToWebtransportCode_eq_ok.1 (inverse_iff.1 hn)).1
    · intro haccepted
      exact ⟨_, inverse_iff.2 (appCode_eq haccepted)⟩
  · intro N s streamId n hdata hn
    refine ⟨wireCode n, mapSendErrorCode_data hdata hn, ?_⟩
    have haccepted := wireCode_accepted hn
    rw [deliver_data_eq, appCode_eq haccepted, Int.toNat_natCast, appCode_wireCode]
    rfl
  · intro wire hother
    rw [deliver_data_eq]
    cases hcode : httpCodeToWebtransportCode wire with
    | error message => rfl
    | ok n => exact absurd (inverse_iff.2 hcode) (hother n)

/-- The code behind the first reserved one. -/
example : webtransportCodeToHttpCode 30 = .ok (0x52e4a40fa8db + 31) := rfl

theorem error_codes_exact_data : ∃ wire : Nat,
    (H3Session.mapSendErrorCode
        ({ isServer := false, config := {}, conn := () } : H3Session (Nghttp3.reading [])) 4 0x42 =
      .ok wire) ∧ deliverStreamResetErrorCode wire false = some 0x42 :=
  error_codes_exact.2.2.2.2.2.2.1 _ _ 4 0x42 (by decide) (by decide)

end ErrorCodes

end H3
end WebTransport
