import Mathlib.Data.Nat.Basic
import Mathlib.Tactic

/-!
# QuicVarint — the QUIC variable-length integer codec (`quic_varint.h`)

The two top bits of the first byte give the length (1, 2, 4 or 8 bytes), the remaining bits the
value in network order.  The bits that the shifts and masks of the source combine never overlap,
so `|` is written as an addition and `<<`, `>>`, `&` as multiplication, division and remainder.

* `decodeQuicVarint_append`  : bytes after a complete varint are not looked at;
* `decodeQuicVarint_spec`    : what a successful decode says about length and value;
* `decodeQuicVarint_take`, `decodeQuicVarint_short` : it takes the bytes of the varint, and all of them;
* `decodeQuicVarint_encode`  : decoding an encoding gives back the value.
-/

namespace WebTransport

abbrev Bytes := List UInt8

/-- The bytes of an ASCII literal. -/
def ascii (s : String) : Bytes :=
  s.toList.map fun c => UInt8.ofNat c.toNat

namespace Bindings

/-- `kMaxQuicVarint`: the largest value a varint can carry. -/
def kMaxQuicVarint : Nat := 2 ^ 62 - 1

/-! ## Encoding -/

/-- `quic_varint_length` -/
def quicVarintLength (value : Nat) : Nat :=
  if value ≤ 63 then 1
  else if value ≤ 16383 then 2
  else if value ≤ 1073741823 then 4
  else 8

/-- The bytes `encode_quic_varint` pushes once the range check has passed. -/
def varintBytes (value : Nat) : Bytes :=
  if value < 64 then [UInt8.ofNat value]
  else if value < 16384 then
    [UInt8.ofNat (value / 2 ^ 8 + 0x40), UInt8.ofNat value]
  else if value < 1073741824 then
    [UInt8.ofNat (value / 2 ^ 24 + 0x80), UInt8.ofNat (value / 2 ^ 16),
      UInt8.ofNat (value / 2 ^ 8), UInt8.ofNat value]
  else
    [UInt8.ofNat (value / 2 ^ 56 + 0xC0), UInt8.ofNat (value / 2 ^ 48),
      UInt8.ofNat (value / 2 ^ 40), UInt8.ofNat (value / 2 ^ 32),
      UInt8.ofNat (value / 2 ^ 24), UInt8.ofNat (value / 2 ^ 16),
      UInt8.ofNat (value / 2 ^ 8), UInt8.ofNat value]

/-- `encode_quic_varint`; the exception is `std::invalid_argument`. -/
def encodeQuicVarint (value : Nat) : Except String Bytes :=
  if value > kMaxQuicVarint then
    .error ("varint value must be less than 2^62: " ++ toString value)
  else
    .ok (varintBytes value)

theorem varintBytes_length (value : Nat) : (varintBytes value).length = quicVarintLength value := by
  unfold varintBytes quicVarintLength
  split_ifs <;> first | rfl | omega

/-! ## Decoding -/

/-- `decode_quic_varint`: the value and the number of bytes read. -/
def decodeQuicVarint (data : Bytes) : Option (Nat × Nat) :=
  match data with
  | [] => none
  | first :: rest =>
      let varintLen := 2 ^ (first.toNat / 64)
      if data.length < varintLen then none
      else
        some ((rest.take (varintLen - 1)).foldl (fun value b => value * 256 + b.toNat)
          (first.toNat % 64), varintLen)

@[simp] theorem decodeQuicVarint_nil : decodeQuicVarint [] = none := rfl

/-- A complete varint decodes the same way whatever bytes follow it. -/
theorem decodeQuicVarint_append {data : Bytes} {r : Nat × Nat} (t : Bytes)
    (h : decodeQuicVarint data = some r) : decodeQuicVarint (data ++ t) = some r := by
  cases data with
  | nil => simp at h
  | cons first rest =>
      simp only [decodeQuicVarint, List.cons_append, List.length_cons, List.length_append] at h ⊢
      split_ifs at h with hlen
      have hlen' : ¬ rest.length + t.length + 1 < 2 ^ (first.toNat / 64) := by omega
      rw [if_neg hlen', ← h, List.take_append_of_le_length (by omega)]

/-- Big-endian accumulation of `n` bytes onto `acc` stays below `(acc + 1) * 256 ^ n`. -/
theorem foldl_byte_lt (l : Bytes) (acc : Nat) :
    l.foldl (fun value b => value * 256 + b.toNat) acc < (acc + 1) * 256 ^ l.length := by
  induction l generalizing acc with
  | nil => simp
  | cons b rest ih =>
      have hb : b.toNat < 256 := b.toNat_lt
      calc
        (b :: rest).foldl (fun value b => value * 256 + b.toNat) acc
            < (acc * 256 + b.toNat + 1) * 256 ^ rest.length := ih _
        _ ≤ ((acc + 1) * 256) * 256 ^ rest.length :=
            Nat.mul_le_mul_right _ (by omega)
        _ = (acc + 1) * 256 ^ (b :: rest).length := by
            rw [List.length_cons, Nat.pow_succ, Nat.mul_assoc, Nat.mul_comm 256]

/-- A successful decode reads at least one byte, at most what there is, and yields a value that
fits in 62 bits. -/
theorem decodeQuicVarint_spec {data : Bytes} {value len : Nat}
    (h : decodeQuicVarint data = some (value, len)) :
    0 < len ∧ len ≤ data.length ∧ value ≤ kMaxQuicVarint := by
  cases data with
  | nil => simp at h
  | cons first rest =>
      simp only [decodeQuicVarint, List.length_cons] at h
      split_ifs at h with hlen
      simp only [Option.some.injEq, Prod.mk.injEq] at h
      rcases h with ⟨hvalue, hlenEq⟩
      have hfirst : first.toNat < 256 := first.toNat_lt
      have hbound := foldl_byte_lt (rest.take (2 ^ (first.toNat / 64) - 1)) (first.toNat % 64)
      rw [hvalue, List.length_take, Nat.min_eq_left (by omega)] at hbound
      have hacc : first.toNat % 64 + 1 ≤ 64 := by omega
      -- The four tags, one length each.
      have htag : first.toNat / 64 = 0 ∨ first.toNat / 64 = 1 ∨ first.toNat / 64 = 2 ∨
          first.toNat / 64 = 3 := by omega
      refine ⟨by rw [← hlenEq]; positivity, by rw [List.length_cons]; omega, ?_⟩
      unfold kMaxQuicVarint
      rcases htag with ht | ht | ht | ht <;> rw [ht] at hbound <;> norm_num at hbound <;> omega

/-- The number of bytes read is one of the four lengths of a varint. -/
theorem decodeQuicVarint_length {data : Bytes} {value len : Nat}
    (h : decodeQuicVarint data = some (value, len)) : len = 1 ∨ len = 2 ∨ len = 4 ∨ len = 8 := by
  cases data with
  | nil => simp at h
  | cons first rest =>
      simp only [decodeQuicVarint] at h
      split_ifs at h
      simp only [Option.some.injEq, Prod.mk.injEq] at h
      have hfirst : first.toNat < 256 := first.toNat_lt
      have htag : first.toNat / 64 = 0 ∨ first.toNat / 64 = 1 ∨ first.toNat / 64 = 2 ∨
          first.toNat / 64 = 3 := by omega
      rw [← h.2]
      rcases htag with ht | ht | ht | ht <;> simp [ht]

/-- The bytes of a varint are enough to decode it. -/
theorem decodeQuicVarint_take {data : Bytes} {value len : Nat}
    (h : decodeQuicVarint data = some (value, len)) :
    decodeQuicVarint (data.take len) = some (value, len) := by
  cases data with
  | nil => simp at h
  | cons first rest =>
      simp only [decodeQuicVarint, List.length_cons] at h
      split_ifs at h with hlen
      simp only [Option.some.injEq, Prod.mk.injEq] at h
      obtain ⟨rfl, rfl⟩ := h
      have hpos : 0 < 2 ^ (first.toNat / 64) := Nat.two_pow_pos _
      have htake : (first :: rest).take (2 ^ (first.toNat / 64)) =
          first :: rest.take (2 ^ (first.toNat / 64) - 1) := by
        conv_lhs => rw [← Nat.sub_add_cancel hpos]
        exact List.take_succ_cons
      have hwhole : ¬ (rest.take (2 ^ (first.toNat / 64) - 1)).length + 1 <
          2 ^ (first.toNat / 64) := by
        rw [List.length_take]
        omega
      rw [htake]
      simp only [decodeQuicVarint, List.length_cons]
      rw [if_neg hwhole, List.take_take, min_self]

/-- Fewer bytes than a varint has do not decode. -/
theorem decodeQuicVarint_short {data part : Bytes} {value len : Nat}
    (h : decodeQuicVarint data = some (value, len)) (hpart : part <+: data)
    (hshort : part.length < len) : decodeQuicVarint part = none := by
  obtain ⟨missing, rfl⟩ := hpart
  cases part with
  | nil => rfl
  | cons first rest =>
      simp only [decodeQuicVarint, List.cons_append] at h ⊢
      split_ifs at h
      simp only [Option.some.injEq, Prod.mk.injEq] at h
      apply if_pos
      rw [h.2]
      exact hshort

/-! ## Round trip -/

theorem toNat_ofNat_byte (n : Nat) : (UInt8.ofNat n).toNat = n % 256 := UInt8.toNat_ofNat'

/-- Decoding an encoding, whatever follows it, gives the value and the encoded length. -/
theorem decodeQuicVarint_encode {value : Nat} (h : value ≤ kMaxQuicVarint) (t : Bytes) :
    decodeQuicVarint (varintBytes value ++ t) = some (value, quicVarintLength value) := by
  apply decodeQuicVarint_append
  unfold kMaxQuicVarint at h
  unfold varintBytes quicVarintLength
  split_ifs with h1 h2 h3 <;> first | omega | skip
  · have e : value % 256 / 64 = 0 := by omega
    simp only [decodeQuicVarint, toNat_ofNat_byte, e]
    simp
    omega
  · have e : (value / 2 ^ 8 + 0x40) % 256 / 64 = 1 := by omega
    simp only [decodeQuicVarint, toNat_ofNat_byte, e]
    simp
    omega
  · have e : (value / 2 ^ 24 + 0x80) % 256 / 64 = 2 := by omega
    simp only [decodeQuicVarint, toNat_ofNat_byte, e]
    simp
    omega
  · have e : (value / 2 ^ 56 + 0xC0) % 256 / 64 = 3 := by omega
    simp only [decodeQuicVarint, toNat_ofNat_byte, e]
    simp
    omega

end Bindings

end WebTransport
