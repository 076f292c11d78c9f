import WebTransport.Bindings.QuicVarint

/-!
# VarintWords — the varint codec on machine words (`quic_varint.h`)

`quic_varint_length`, `encode_quic_varint` and `decode_quic_varint` with the shifts, masks and casts of
the source on `uint64_t` and `uint8_t`.  On every input they compute what `QuicVarint` computes with
naturals, so that the facts about the codec hold of the words too.

* `toNat_pack`, `toNat_low` : the bytes that are pushed;
* `encodeWord_eq`           : the encoder computes the arithmetic encoding;
* `decodeWord_eq`           : the decoder computes the arithmetic decoding;
* `quic_varint_codec`       : the two are inverse to each other, and reject everything else.
-/

namespace WebTransport
namespace Bindings
namespace Words

/-! ## The source -/

/-- `kMaxQuicVarint` -/
def kMaxQuicVarint : UInt64 := ((1 : UInt64) <<< 62) - 1

/-- `quic_varint_length` -/
def quicVarintLength (value : UInt64) : Nat :=
  if value ≤ 63 then 1
  else if value ≤ 16383 then 2
  else if value ≤ 1073741823 then 4
  else 8

/-- `encode_quic_varint`; the exception is `std::invalid_argument`. -/
def encodeQuicVarint (value : UInt64) : Except String Bytes :=
  if value > kMaxQuicVarint then
    .error ("varint value must be less than 2^62: " ++ toString value.toNat)
  else if value < 64 then
    .ok [value.toUInt8]
  else if value < 16384 then
    .ok [((value >>> 8) ||| 0x40).toUInt8, (value &&& 0xFF).toUInt8]
  else if value < 1073741824 then
    .ok [((value >>> 24) ||| 0x80).toUInt8, ((value >>> 16) &&& 0xFF).toUInt8,
      ((value >>> 8) &&& 0xFF).toUInt8, (value &&& 0xFF).toUInt8]
  else
    .ok [((value >>> 56) ||| 0xC0).toUInt8, ((value >>> 48) &&& 0xFF).toUInt8,
      ((value >>> 40) &&& 0xFF).toUInt8, ((value >>> 32) &&& 0xFF).toUInt8,
      ((value >>> 24) &&& 0xFF).toUInt8, ((value >>> 16) &&& 0xFF).toUInt8,
      ((value >>> 8) &&& 0xFF).toUInt8, (value &&& 0xFF).toUInt8]

/-- The loop of `decode_quic_varint`, over the bytes behind the first. -/
def accumulate (value : UInt64) (data : Bytes) : UInt64 :=
  data.foldl (fun value byte => (value <<< 8) ||| byte.toUInt64) value

/-- `decode_quic_varint`: the value and the number of bytes read. -/
def decodeQuicVarint (data : Bytes) : Option (UInt64 × Nat) :=
  match data with
  | [] => none
  | first :: rest =>
      let varintLen := 1 <<< (first >>> 6).toNat
      if data.length < varintLen then none
      else some (accumulate (first &&& 0x3F).toUInt64 (rest.take (varintLen - 1)), varintLen)

/-! ## Encoding -/

theorem toNat_amount {shift : Nat} (hshift : shift < 64) :
    (UInt64.ofNat shift).toNat % 64 = shift := by
  rw [UInt64.toNat_ofNat']
  omega

/-- A byte behind the first: eight bits of the value. -/
theorem toNat_low (value : UInt64) (shift : Nat) (hshift : shift < 64) :
    ((value >>> UInt64.ofNat shift) &&& 0xFF).toUInt8 = UInt8.ofNat (value.toNat / 2 ^ shift) := by
  apply UInt8.toNat_inj.1
  have hmask : (0xFF : UInt64).toNat = 2 ^ 8 - 1 := rfl
  have hamount : (UInt64.ofNat shift).toNat % 64 = shift := toNat_amount hshift
  rw [UInt64.toNat_toUInt8, UInt64.toNat_and, UInt64.toNat_shiftRight, hamount, hmask,
    Nat.and_two_pow_sub_one_eq_mod, Nat.shiftRight_eq_div_pow, toNat_ofNat_byte, Nat.mod_mod]

/-- The first byte: the top bits of the value below the bits of the length. -/
theorem toNat_pack (value : UInt64) (shift tag : Nat) (hshift : shift < 64) (htag : tag < 4)
    (hvalue : value.toNat / 2 ^ shift < 2 ^ 6) :
    ((value >>> UInt64.ofNat shift) ||| UInt64.ofNat (2 ^ 6 * tag)).toUInt8 =
      UInt8.ofNat (value.toNat / 2 ^ shift + 2 ^ 6 * tag) := by
  apply UInt8.toNat_inj.1
  have hamount : (UInt64.ofNat shift).toNat % 64 = shift := toNat_amount hshift
  have hbits : (UInt64.ofNat (2 ^ 6 * tag)).toNat = 2 ^ 6 * tag := by
    rw [UInt64.toNat_ofNat']
    omega
  calc (((value >>> UInt64.ofNat shift) ||| UInt64.ofNat (2 ^ 6 * tag)).toUInt8).toNat
      = (value.toNat / 2 ^ shift ||| 2 ^ 6 * tag) % 2 ^ 8 := by
        rw [UInt64.toNat_toUInt8, UInt64.toNat_or, UInt64.toNat_shiftRight, hamount, hbits,
          Nat.shiftRight_eq_div_pow]
    _ = (2 ^ 6 * tag + value.toNat / 2 ^ shift) % 2 ^ 8 := by
        rw [Nat.or_comm, ← Nat.two_pow_add_eq_or_of_lt hvalue]
    _ = (UInt8.ofNat (value.toNat / 2 ^ shift + 2 ^ 6 * tag)).toNat := by
        rw [toNat_ofNat_byte, Nat.add_comm]
        rfl

/-- What is pushed once the range check has passed. -/
theorem pushed_eq {value : UInt64} (h : ¬ value > kMaxQuicVarint) :
    encodeQuicVarint value = .ok (varintBytes value.toNat) := by
  have hmax : value.toNat ≤ 2 ^ 62 - 1 := UInt64.not_lt.1 h
  have hlow : ∀ shift : Nat, shift < 64 →
      ((value >>> UInt64.ofNat shift) &&& 0xFF).toUInt8 =
        UInt8.ofNat (value.toNat / 2 ^ shift) := fun shift => toNat_low value shift
  have hlast : (value &&& 0xFF).toUInt8 = UInt8.ofNat value.toNat := by
    simpa using hlow 0 (by decide)
  have hfirst : value.toUInt8 = UInt8.ofNat value.toNat := rfl
  unfold encodeQuicVarint varintBytes
  rw [if_neg h]
  have hone : value < 64 ↔ value.toNat < 64 := UInt64.lt_iff_toNat_lt
  have htwo : value < 16384 ↔ value.toNat < 16384 := UInt64.lt_iff_toNat_lt
  have hfour : value < 1073741824 ↔ value.toNat < 1073741824 := UInt64.lt_iff_toNat_lt
  simp only [hone, htwo, hfour]
  split_ifs with h1 h2 h4
  · rw [hfirst]
  · have hpack := toNat_pack value 8 1 (by decide) (by decide) (by omega)
    have htop : ((value >>> 8) ||| 0x40).toUInt8 = UInt8.ofNat (value.toNat / 2 ^ 8 + 0x40) := hpack
    rw [htop, hlast]
  · have htop : ((value >>> 24) ||| 0x80).toUInt8 = UInt8.ofNat (value.toNat / 2 ^ 24 + 0x80) :=
      toNat_pack value 24 2 (by decide) (by decide) (by omega)
    have h16 : ((value >>> 16) &&& 0xFF).toUInt8 = _ := hlow 16 (by decide)
    have h8 : ((value >>> 8) &&& 0xFF).toUInt8 = _ := hlow 8 (by decide)
    rw [htop, h16, h8, hlast]
  · have htop : ((value >>> 56) ||| 0xC0).toUInt8 = UInt8.ofNat (value.toNat / 2 ^ 56 + 0xC0) :=
      toNat_pack value 56 3 (by decide) (by decide) (by omega)
    have h48 : ((value >>> 48) &&& 0xFF).toUInt8 = _ := hlow 48 (by decide)
    have h40 : ((value >>> 40) &&& 0xFF).toUInt8 = _ := hlow 40 (by decide)
    have h32 : ((value >>> 32) &&& 0xFF).toUInt8 = _ := hlow 32 (by decide)
    have h24 : ((value >>> 24) &&& 0xFF).toUInt8 = _ := hlow 24 (by decide)
    have h16 : ((value >>> 16) &&& 0xFF).toUInt8 = _ := hlow 16 (by decide)
    have h8 : ((value >>> 8) &&& 0xFF).toUInt8 = _ := hlow 8 (by decide)
    rw [htop, h48, h40, h32, h24, h16, h8, hlast]

/-- The two range checks agree. -/
theorem gt_max_iff (value : UInt64) :
    value > kMaxQuicVarint ↔ value.toNat > Bindings.kMaxQuicVarint := UInt64.lt_iff_toNat_lt

theorem encodeWord_eq (value : UInt64) :
    encodeQuicVarint value = Bindings.encodeQuicVarint value.toNat := by
  by_cases h : value > kMaxQuicVarint
  · unfold encodeQuicVarint Bindings.encodeQuicVarint
    rw [if_pos h, if_pos ((gt_max_iff value).1 h)]
  · have harith : ¬ value.toNat > Bindings.kMaxQuicVarint := fun h' => h ((gt_max_iff value).2 h')
    rw [pushed_eq h]
    unfold Bindings.encodeQuicVarint
    rw [if_neg harith]

theorem lengthWord_eq (value : UInt64) :
    quicVarintLength value = Bindings.quicVarintLength value.toNat := by
  have hone : value ≤ 63 ↔ value.toNat ≤ 63 := UInt64.le_iff_toNat_le
  have htwo : value ≤ 16383 ↔ value.toNat ≤ 16383 := UInt64.le_iff_toNat_le
  have hfour : value ≤ 1073741823 ↔ value.toNat ≤ 1073741823 := UInt64.le_iff_toNat_le
  unfold quicVarintLength Bindings.quicVarintLength
  simp only [hone, htwo, hfour]

/-! ## Decoding -/

/-- One turn of the loop: a value that leaves room for a byte takes it in. -/
theorem toNat_turn {value : UInt64} (hvalue : value.toNat < 2 ^ 56) (byte : UInt8) :
    ((value <<< 8) ||| byte.toUInt64).toNat = value.toNat * 256 + byte.toNat := by
  have hbyte : byte.toNat < 2 ^ 8 := byte.toNat_lt
  calc ((value <<< 8) ||| byte.toUInt64).toNat
      = (value.toNat <<< 8) % 2 ^ 64 ||| byte.toNat := by
        rw [UInt64.toNat_or, UInt64.toNat_shiftLeft, UInt8.toNat_toUInt64]
        rfl
    _ = 2 ^ 8 * value.toNat ||| byte.toNat := by
        rw [Nat.shiftLeft_eq, Nat.mod_eq_of_lt (by omega), Nat.mul_comm]
    _ = value.toNat * 256 + byte.toNat := by
        rw [← Nat.two_pow_add_eq_or_of_lt hbyte, Nat.mul_comm]

/-- The loop never shifts a bit out: induction on the bytes, with the room that is left. -/
theorem toNat_accumulate (data : Bytes) (value : UInt64)
    (hroom : (value.toNat + 1) * 256 ^ data.length ≤ 2 ^ 62) :
    (accumulate value data).toNat =
      data.foldl (fun value byte => value * 256 + byte.toNat) value.toNat := by
  induction data generalizing value with
  | nil => rfl
  | cons byte rest ih =>
      have hbyte : byte.toNat < 256 := byte.toNat_lt
      have hpos : 1 ≤ 256 ^ rest.length := Nat.one_le_pow _ _ (by decide)
      have hstep : (value.toNat + 1) * 256 * 256 ^ rest.length ≤ 2 ^ 62 := by
        calc (value.toNat + 1) * 256 * 256 ^ rest.length
            = (value.toNat + 1) * 256 ^ (byte :: rest).length := by
              rw [List.length_cons, Nat.pow_succ, Nat.mul_assoc, Nat.mul_comm 256]
          _ ≤ 2 ^ 62 := hroom
      have hvalue : value.toNat < 2 ^ 56 := by
        have hone : (value.toNat + 1) * 256 ≤ 2 ^ 62 :=
          (Nat.le_mul_of_pos_right _ hpos).trans hstep
        omega
      have hturn := toNat_turn hvalue byte
      have hrest := ih ((value <<< 8) ||| byte.toUInt64) (by
        rw [hturn]
        exact (Nat.mul_le_mul_right _ (by omega)).trans hstep)
      calc (accumulate value (byte :: rest)).toNat
          = (accumulate ((value <<< 8) ||| byte.toUInt64) rest).toNat := rfl
        _ = rest.foldl (fun value byte => value * 256 + byte.toNat)
              ((value <<< 8) ||| byte.toUInt64).toNat := hrest
        _ = (byte :: rest).foldl (fun value byte => value * 256 + byte.toNat) value.toNat := by
            rw [hturn, List.foldl_cons]

theorem decodeWord_eq (data : Bytes) :
    (decodeQuicVarint data).map (Prod.map UInt64.toNat id) = Bindings.decodeQuicVarint data := by
  cases data with
  | nil => rfl
  | cons first rest =>
      have hfirst : first.toNat < 256 := first.toNat_lt
      have hmask : (0x3F : UInt8).toNat = 2 ^ 6 - 1 := rfl
      have htag : (first >>> 6).toNat = first.toNat / 64 := by
        rw [UInt8.toNat_shiftRight]
        exact Nat.shiftRight_eq_div_pow first.toNat 6
      have hlen : 1 <<< (first >>> 6).toNat = 2 ^ (first.toNat / 64) := by
        rw [htag, Nat.one_shiftLeft]
      have hlow : (first &&& 0x3F).toUInt64.toNat = first.toNat % 64 := by
        rw [UInt8.toNat_toUInt64, UInt8.toNat_and, hmask, Nat.and_two_pow_sub_one_eq_mod]
      simp only [decodeQuicVarint, Bindings.decodeQuicVarint, hlen]
      split_ifs with hshort
      · rfl
      · have hroom : ((first &&& 0x3F).toUInt64.toNat + 1) *
            256 ^ (rest.take (2 ^ (first.toNat / 64) - 1)).length ≤ 2 ^ 62 := by
          have htaken : (rest.take (2 ^ (first.toNat / 64) - 1)).length ≤ 7 := by
            have hfour : 2 ^ (first.toNat / 64) ≤ 2 ^ 3 :=
              Nat.pow_le_pow_right (by decide) (by omega)
            rw [List.length_take]
            omega
          calc ((first &&& 0x3F).toUInt64.toNat + 1) *
                256 ^ (rest.take (2 ^ (first.toNat / 64) - 1)).length
              ≤ 64 * 256 ^ 7 := Nat.mul_le_mul (by omega) (Nat.pow_le_pow_right (by decide) htaken)
            _ = 2 ^ 62 := by norm_num
        simp only [Option.map_some, Prod.map_apply, id_eq, toNat_accumulate _ _ hroom, hlow]

/-- A decoding of words is one of naturals. -/
theorem decodeWord_iff {data : Bytes} {value : UInt64} {n : Nat} :
    decodeQuicVarint data = some (value, n) ↔
      Bindings.decodeQuicVarint data = some (value.toNat, n) := by
  rw [← decodeWord_eq]
  constructor
  · intro h
    rw [h]
    rfl
  · intro h
    obtain ⟨⟨value', n'⟩, hdecode, heq⟩ := Option.map_eq_some_iff.1 h
    simp only [Prod.map_apply, id_eq, Prod.mk.injEq] at heq
    obtain ⟨hvalue, rfl⟩ := heq
    rw [hdecode, UInt64.toNat_inj.1 hvalue]

theorem decodeWord_none {data : Bytes} :
    decodeQuicVarint data = none ↔ Bindings.decodeQuicVarint data = none := by
  rw [← decodeWord_eq, Option.map_eq_none_iff]

/-! ## The codec -/

/-- An encoding has the announced length, decodes to its value with that length whatever follows it,
and no strict prefix of it decodes; a value from `2^62` on has no encoding; and what is decoded is below
`2^62`, has one of the four lengths and depends on that many bytes only. -/
theorem quic_varint_codec (value : UInt64) (data : Bytes) (n : Nat) :
    (value < (1 : UInt64) <<< 62 → ∃ encoded, encodeQuicVarint value = .ok encoded ∧
      encoded.length = quicVarintLength value ∧
      (∀ t, decodeQuicVarint (encoded ++ t) = some (value, quicVarintLength value)) ∧
      ∀ part, part <+: encoded → part ≠ encoded → decodeQuicVarint part = none) ∧
    ((1 : UInt64) <<< 62 ≤ value → encodeQuicVarint value =
      .error ("varint value must be less than 2^62: " ++ toString value.toNat)) ∧
    (decodeQuicVarint data = some (value, n) →
      value < (1 : UInt64) <<< 62 ∧ n ≤ data.length ∧ (n = 1 ∨ n = 2 ∨ n = 4 ∨ n = 8) ∧
      ∀ other : Bytes, other.take n = data.take n → decodeQuicVarint other = some (value, n)) := by
  have hbound : value < (1 : UInt64) <<< 62 ↔ value.toNat ≤ Bindings.kMaxQuicVarint := by
    have hlt : value < (1 : UInt64) <<< 62 ↔ value.toNat < 2 ^ 62 := UInt64.lt_iff_toNat_lt
    rw [hlt]
    exact Nat.lt_iff_le_pred (by decide)
  refine ⟨?_, ?_, ?_⟩
  · intro hvalue
    have hmax := hbound.1 hvalue
    have hdecode (t : Bytes) : decodeQuicVarint (varintBytes value.toNat ++ t) =
        some (value, quicVarintLength value) := by
      rw [lengthWord_eq]
      exact decodeWord_iff.2 (decodeQuicVarint_encode hmax t)
    have hlength : (varintBytes value.toNat).length = quicVarintLength value := by
      rw [lengthWord_eq]
      exact varintBytes_length value.toNat
    have hencode : encodeQuicVarint value = .ok (varintBytes value.toNat) := by
      rw [encodeWord_eq]
      exact if_neg (Nat.not_lt.2 hmax)
    refine ⟨varintBytes value.toNat, hencode, hlength, hdecode, ?_⟩
    intro part hpart hne
    have hwhole : decodeQuicVarint (varintBytes value.toNat) =
        some (value, quicVarintLength value) := by
      simpa using hdecode []
    have hshort : part.length < quicVarintLength value := by
      rw [← hlength]
      apply lt_of_le_of_ne hpart.length_le
      exact fun heq => hne (hpart.eq_of_length heq)
    exact decodeWord_none.2 (decodeQuicVarint_short (decodeWord_iff.1 hwhole) hpart hshort)
  · intro hvalue
    have hnot : ¬ value.toNat ≤ Bindings.kMaxQuicVarint :=
      fun h => absurd (hbound.2 h) (UInt64.not_lt.2 hvalue)
    rw [encodeWord_eq]
    exact if_pos (Nat.not_le.1 hnot)
  · intro h
    have harith := decodeWord_iff.1 h
    obtain ⟨-, hlen, hmax⟩ := decodeQuicVarint_spec harith
    refine ⟨hbound.2 hmax, hlen, decodeQuicVarint_length harith, ?_⟩
    intro other hsame
    apply decodeWord_iff.2
    have htaken := decodeQuicVarint_append (other.drop n) (decodeQuicVarint_take harith)
    rw [← hsame, List.take_append_drop] at htaken
    exact htaken

theorem quic_varint_codec_16384 :
    (∃ encoded, encodeQuicVarint 16384 = .ok encoded ∧ encoded.length = 4 ∧
      decodeQuicVarint (encoded ++ [7]) = some (16384, 4) ∧ decodeQuicVarint encoded.dropLast = none) ∧
    encodeQuicVarint 4611686018427387904 =
      .error "varint value must be less than 2^62: 4611686018427387904" ∧
    decodeQuicVarint [0x80, 0x00, 0x40, 0x00, 9] = some (16384, 4) := by
  obtain ⟨hencode, -, -⟩ := quic_varint_codec 16384 [] 0
  obtain ⟨-, hreject, -⟩ := quic_varint_codec 4611686018427387904 [] 0
  obtain ⟨-, -, hdecode⟩ := quic_varint_codec 16384 [0x80, 0x00, 0x40, 0x00] 4
  obtain ⟨encoded, hok, hlength, hwhole, hpart⟩ := hencode (by decide)
  refine ⟨⟨encoded, hok, hlength, hwhole [7], ?_⟩, hreject (by decide), ?_⟩
  · apply hpart _ (List.dropLast_prefix encoded)
    intro heq
    have hshort := congrArg List.length heq
    have hfour : encoded.length = 4 := hlength
    rw [List.length_dropLast, hfour] at hshort
    omega
  · exact (hdecode (by decide)).2.2.2 _ rfl

end Words
end Bindings
end WebTransport
