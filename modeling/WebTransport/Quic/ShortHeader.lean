import WebTransport.Bindings.QuicVarint
import WebTransport.Data.Reads

/-!
# Quic.ShortHeader — looking for a 1-RTT packet in a datagram (`contains_short_header_packet`)

A datagram holds packets one behind the other.  A long-header packet carries its length, a
short-header packet takes the rest.

* `LongPacket`               : a complete long-header packet, and its bytes;
* `skipLongHeader_iff`       : the scanner skips exactly the complete packets;
* `containsShortHeaderPacketAt` : the function as it reads the memory;
* `short_header_found`       : it finds the short-header packet behind long-header packets, reads
                               within the datagram, and never finds one elsewhere.
-/

namespace WebTransport
namespace Quic

open Bindings Reads

/-! ## Packets -/

/-- A variable-length integer in one of its forms: the two top bits give the length. -/
structure Varint where
  first : UInt8
  rest : Bytes
  length_eq : rest.length + 1 = 2 ^ (first.toNat / 64)

namespace Varint

def bytes (v : Varint) : Bytes := v.first :: v.rest

def value (v : Varint) : Nat :=
  v.rest.foldl (fun value b => value * 256 + b.toNat) (v.first.toNat % 64)

theorem decode (v : Varint) (t : Bytes) :
    decodeQuicVarint (v.bytes ++ t) = some (v.value, v.bytes.length) := by
  have hlength : v.bytes.length = 2 ^ (v.first.toNat / 64) := v.length_eq
  apply decodeQuicVarint_append
  unfold decodeQuicVarint bytes
  dsimp only
  rw [← v.length_eq, List.length_cons, if_neg (lt_irrefl _), Nat.add_sub_cancel, List.take_length]
  rfl

theorem of_decode {s : Bytes} {value length : Nat} (h : decodeQuicVarint s = some (value, length)) :
    ∃ v : Varint, v.value = value ∧ v.bytes.length = length ∧ s = v.bytes ++ s.drop length := by
  cases s with
  | nil => cases h
  | cons first rest =>
      simp only [decodeQuicVarint, List.length_cons] at h
      split_ifs at h with hlen
      simp only [Option.some.injEq, Prod.mk.injEq] at h
      rcases h with ⟨hvalue, hlength⟩
      have hpos : 0 < 2 ^ (first.toNat / 64) := Nat.two_pow_pos _
      have htake : (rest.take (2 ^ (first.toNat / 64) - 1)).length + 1 = 2 ^ (first.toNat / 64) := by
        rw [List.length_take]
        omega
      refine ⟨⟨first, rest.take (2 ^ (first.toNat / 64) - 1), htake⟩, hvalue, ?_, ?_⟩
      · exact htake.trans hlength
      · have hdrop : (first :: rest).drop length = rest.drop (2 ^ (first.toNat / 64) - 1) := by
          rw [← hlength]
          exact List.drop_cons hpos
        rw [hdrop]
        show first :: rest = first :: (rest.take (2 ^ (first.toNat / 64) - 1) ++ _)
        rw [List.take_append_drop]

end Varint

/-- A length and as many bytes. -/
structure Field where
  length : Varint
  content : Bytes
  length_eq : length.value = content.length

def Field.bytes (f : Field) : Bytes := f.length.bytes ++ f.content

/-- The packet type of a long header. -/
def packetType (first : UInt8) : Nat := first.toNat / 2 ^ 4 % 4

/-- The version, in network order. -/
def versionOf (version : Bytes) : Nat := version.foldl (fun value b => value * 2 ^ 8 + b.toNat) 0

/-- A complete long-header packet (RFC 9000 Section 17.2): connection ids of any length, a token in
an Initial packet only, and the length of what follows.  The scanner reads a Retry packet, which has
no length, as if it had one: the type is not restricted here. -/
structure LongPacket where
  first : UInt8
  version : Bytes
  dcid : Bytes
  scid : Bytes
  token : Option Field
  payload : Field
  isLong : first.toNat / 2 ^ 7 ≠ 0
  version_length : version.length = 4
  version_ne : versionOf version ≠ 0
  dcid_lt : dcid.length < 256
  scid_lt : scid.length < 256
  token_iff : token.isSome ↔ packetType first = 0

namespace LongPacket

/-- What stands behind the version. -/
def body (p : LongPacket) : Bytes :=
  UInt8.ofNat p.dcid.length :: (p.dcid ++ UInt8.ofNat p.scid.length :: (p.scid ++
    (p.token.elim [] Field.bytes ++ p.payload.bytes)))

def bytes (p : LongPacket) : Bytes := p.first :: (p.version ++ p.body)

/-- Initial, 0-RTT or Handshake -/
def HasLength (p : LongPacket) : Prop :=
  packetType p.first = 0 ∨ packetType p.first = 1 ∨ packetType p.first = 2

end LongPacket

/-! ## Skipping a packet -/

/-- A length and its content are skipped. -/
def skipField (s : Bytes) : Option Bytes :=
  match decodeQuicVarint s with
  | none => none
  | some (length, varintLen) =>
      if s.length < varintLen + length then none else some (s.drop (varintLen + length))

/-- The bytes behind the connection ids. -/
def skipIds (dcidLen : Nat) (s : Bytes) : Option Bytes :=
  if s.length < dcidLen + 1 then none
  else
    match s.drop dcidLen with
    | [] => none
    | scidLen :: s => if s.length < scidLen.toNat then none else some (s.drop scidLen.toNat)

/-- The bytes behind a long-header packet. -/
def skipLongHeader : Bytes → Option Bytes
  | first :: v1 :: v2 :: v3 :: v4 :: dcidLen :: s =>
      match skipIds dcidLen.toNat s with
      | none => none
      | some s =>
          if versionOf [v1, v2, v3, v4] = 0 then none
          else if packetType first = 0 then (skipField s).bind skipField
          else skipField s
  | _ => none

theorem skipField_iff {s t : Bytes} : skipField s = some t ↔ ∃ f : Field, s = f.bytes ++ t := by
  unfold skipField
  constructor
  · intro h
    cases hdecode : decodeQuicVarint s with
    | none => rw [hdecode] at h; cases h
    | some r =>
        rcases r with ⟨length, varintLen⟩
        rw [hdecode] at h
        dsimp only at h
        split_ifs at h with hlen
        cases h
        rcases Varint.of_decode hdecode with ⟨v, rfl, rfl, hs⟩
        have hcontent : v.value = ((s.drop v.bytes.length).take v.value).length := by
          rw [List.length_take, List.length_drop]
          omega
        refine ⟨⟨v, (s.drop v.bytes.length).take v.value, hcontent⟩, ?_⟩
        show s = (v.bytes ++ (s.drop v.bytes.length).take v.value) ++ s.drop (v.bytes.length + v.value)
        rw [List.append_assoc, ← List.drop_drop, List.take_append_drop]
        exact hs
  · rintro ⟨f, rfl⟩
    unfold Field.bytes
    have hlength : (f.length.bytes ++ f.content).length = f.length.bytes.length + f.length.value := by
      rw [List.length_append, f.length_eq]
    rw [List.append_assoc, f.length.decode, ← List.append_assoc]
    dsimp only
    rw [List.length_append, hlength, if_neg (by omega), List.drop_left' hlength]

theorem skipIds_iff {dcidLen : Nat} {s t : Bytes} :
    skipIds dcidLen s = some t ↔ ∃ dcid scid : Bytes, dcid.length = dcidLen ∧ scid.length < 256 ∧
      s = dcid ++ UInt8.ofNat scid.length :: (scid ++ t) := by
  unfold skipIds
  constructor
  · intro h
    split_ifs at h with hlen
    cases hdrop : s.drop dcidLen with
    | nil => rw [hdrop] at h; cases h
    | cons scidLen rest =>
        rw [hdrop] at h
        dsimp only at h
        split_ifs at h with hroom
        cases h
        have htake : (s.take dcidLen).length = dcidLen := by
          rw [List.length_take]
          omega
        have hscid : (rest.take scidLen.toNat).length = scidLen.toNat := by
          rw [List.length_take]
          omega
        refine ⟨s.take dcidLen, rest.take scidLen.toNat, htake, ?_, ?_⟩
        · rw [hscid]
          exact scidLen.toNat_lt
        · rw [hscid, UInt8.ofNat_toNat, List.take_append_drop, ← hdrop, List.take_append_drop]
  · rintro ⟨dcid, scid, rfl, hscid, rfl⟩
    have hbyte : (UInt8.ofNat scid.length).toNat = scid.length := by
      rw [UInt8.toNat_ofNat']
      omega
    rw [List.drop_left, List.length_append, List.length_cons, if_neg (by omega)]
    dsimp only
    rw [hbyte, List.length_append, if_neg (by omega), List.drop_left]

/-- The scanner skips the complete packets. -/
theorem skipLongHeader_iff {first : UInt8} {s t : Bytes} (hlong : first.toNat / 2 ^ 7 ≠ 0) :
    skipLongHeader (first :: s) = some t ↔ ∃ p : LongPacket, first :: s = p.bytes ++ t := by
  constructor
  · intro h
    rcases s with _ | ⟨v1, _ | ⟨v2, _ | ⟨v3, _ | ⟨v4, _ | ⟨dcidLen, s⟩⟩⟩⟩⟩
    · cases h
    · cases h
    · cases h
    · cases h
    · cases h
    · unfold skipLongHeader at h
      dsimp only at h
      cases hids : skipIds dcidLen.toNat s with
      | none => rw [hids] at h; cases h
      | some rest =>
          rw [hids] at h
          rcases skipIds_iff.1 hids with ⟨dcid, scid, hdcid, hscid, rfl⟩
          have hbyte : UInt8.ofNat dcid.length = dcidLen := by
            rw [hdcid, UInt8.ofNat_toNat]
          have hdcid_lt : dcid.length < 256 := hdcid ▸ dcidLen.toNat_lt
          dsimp only at h
          split_ifs at h with hversion htype
          · rcases Option.bind_eq_some_iff.1 h with ⟨middle, htoken, hpayload⟩
            rcases skipField_iff.1 htoken with ⟨token, rfl⟩
            rcases skipField_iff.1 hpayload with ⟨payload, rfl⟩
            refine ⟨⟨first, [v1, v2, v3, v4], dcid, scid, some token, payload, hlong, rfl, hversion,
              hdcid_lt, hscid, iff_of_true rfl htype⟩, ?_⟩
            simp [LongPacket.bytes, LongPacket.body, hbyte]
          · rcases skipField_iff.1 h with ⟨payload, rfl⟩
            refine ⟨⟨first, [v1, v2, v3, v4], dcid, scid, none, payload, hlong, rfl, hversion,
              hdcid_lt, hscid, iff_of_false (by simp) htype⟩, ?_⟩
            simp [LongPacket.bytes, LongPacket.body, hbyte]
  · rintro ⟨⟨first', version, dcid, scid, token, payload, _, hlength, hversion, hdcid, hscid, htoken⟩,
      heq⟩
    obtain ⟨v1, v2, v3, v4, rfl⟩ := List.length_eq_four.1 hlength
    simp only [LongPacket.bytes, LongPacket.body, List.cons_append, List.append_assoc, List.nil_append,
      List.cons.injEq] at heq
    rcases heq with ⟨rfl, rfl⟩
    have hbyte : (UInt8.ofNat dcid.length).toNat = dcid.length := by
      rw [UInt8.toNat_ofNat']
      omega
    have hids : skipIds dcid.length (dcid ++ UInt8.ofNat scid.length ::
        (scid ++ (token.elim [] Field.bytes ++ (payload.bytes ++ t)))) =
          some (token.elim [] Field.bytes ++ (payload.bytes ++ t)) :=
      skipIds_iff.2 ⟨dcid, scid, rfl, hscid, rfl⟩
    unfold skipLongHeader
    dsimp only
    rw [hbyte, hids]
    dsimp only
    rw [if_neg hversion]
    cases token with
    | none =>
        rw [if_neg (mt htoken.2 (by simp))]
        exact skipField_iff.2 ⟨payload, rfl⟩
    | some token =>
        rw [if_pos (htoken.1 rfl)]
        exact Option.bind_eq_some_iff.2
          ⟨_, skipField_iff.2 ⟨token, rfl⟩, skipField_iff.2 ⟨payload, rfl⟩⟩

/-! ## The walk over the packets -/

/-- The `while (offset < len)` loop. -/
def containsShortHeaderPacket : Nat → Bytes → Bool
  | _, [] => false
  | 0, _ :: _ => false
  | fuel + 1, first :: rest =>
      if first.toNat / 2 ^ 7 = 0 then true
      else
        match skipLongHeader (first :: rest) with
        | none => false
        | some s => containsShortHeaderPacket fuel s

theorem containsShortHeaderPacket_of_clear {fuel : Nat} {first : UInt8} {rest : Bytes}
    (h : first.toNat / 2 ^ 7 = 0) : containsShortHeaderPacket (fuel + 1) (first :: rest) = true :=
  if_pos h

/-- A complete packet is skipped. -/
theorem containsShortHeaderPacket_append (fuel : Nat) (p : LongPacket) (s : Bytes) :
    containsShortHeaderPacket (fuel + 1) (p.bytes ++ s) = containsShortHeaderPacket fuel s := by
  have hskip : skipLongHeader (p.bytes ++ s) = some s :=
    (skipLongHeader_iff p.isLong).2 ⟨p, rfl⟩
  show (if p.first.toNat / 2 ^ 7 = 0 then true
    else match skipLongHeader (p.bytes ++ s) with
      | none => false
      | some s => containsShortHeaderPacket fuel s) = _
  rw [if_neg p.isLong, hskip]

theorem LongPacket.bytes_length_pos (p : LongPacket) : 0 < p.bytes.length := Nat.succ_pos _

/-- Turns beyond the number of bytes change nothing. -/
theorem containsShortHeaderPacket_fuel {fuel fuel' : Nat} {s : Bytes} (h : s.length ≤ fuel)
    (h' : s.length ≤ fuel') :
    containsShortHeaderPacket fuel s = containsShortHeaderPacket fuel' s := by
  induction fuel generalizing fuel' s with
  | zero =>
      rw [List.length_eq_zero_iff.1 (Nat.le_zero.1 h)]
      cases fuel' <;> rfl
  | succ fuel ih =>
      cases s with
      | nil => cases fuel' <;> rfl
      | cons first rest =>
          cases fuel' with
          | zero => exact absurd h' (Nat.not_succ_le_zero _)
          | succ fuel' =>
              unfold containsShortHeaderPacket
              split_ifs with hshort
              · rfl
              · cases hskip : skipLongHeader (first :: rest) with
                | none => rfl
                | some s =>
                    rcases (skipLongHeader_iff hshort).1 hskip with ⟨p, hp⟩
                    have hpos := p.bytes_length_pos
                    have hlength := congrArg List.length hp
                    rw [List.length_append] at hlength
                    exact ih (by omega) (by omega)

/-- Behind long-header packets only: `true` if and only if something follows. -/
theorem containsShortHeaderPacket_of_packets {packets : List LongPacket} {tail : Bytes}
    (htail : ∀ first rest, tail = first :: rest → first.toNat / 2 ^ 7 = 0) {fuel : Nat}
    (hfuel : (packets.flatMap LongPacket.bytes ++ tail).length ≤ fuel) :
    containsShortHeaderPacket fuel (packets.flatMap LongPacket.bytes ++ tail) = true ↔ tail ≠ [] := by
  induction packets generalizing fuel with
  | nil =>
      cases tail with
      | nil =>
          cases fuel with
          | zero => exact iff_of_false (by intro h; cases h) (fun h => h rfl)
          | succ fuel => exact iff_of_false (by intro h; cases h) (fun h => h rfl)
      | cons first rest =>
          cases fuel with
          | zero => exact absurd hfuel (Nat.not_succ_le_zero _)
          | succ fuel =>
              exact iff_of_true (containsShortHeaderPacket_of_clear (htail first rest rfl))
                (List.cons_ne_nil _ _)
  | cons p packets ih =>
      rw [List.flatMap_cons, List.append_assoc] at hfuel ⊢
      have hpos := p.bytes_length_pos
      rw [List.length_append] at hfuel
      cases fuel with
      | zero => omega
      | succ fuel =>
          rw [containsShortHeaderPacket_append]
          exact ih (by omega)

/-- `true` is returned at a short header behind complete long-header packets. -/
theorem exists_packets_of_containsShortHeaderPacket {fuel : Nat} {s : Bytes}
    (h : containsShortHeaderPacket fuel s = true) :
    ∃ (packets : List LongPacket) (first : UInt8) (rest : Bytes),
      s = packets.flatMap LongPacket.bytes ++ first :: rest ∧ first.toNat / 2 ^ 7 = 0 := by
  induction fuel generalizing s with
  | zero => cases s <;> cases h
  | succ fuel ih =>
      cases s with
      | nil => cases h
      | cons first rest =>
          unfold containsShortHeaderPacket at h
          split_ifs at h with hshort
          · exact ⟨[], first, rest, rfl, hshort⟩
          · cases hskip : skipLongHeader (first :: rest) with
            | none => rw [hskip] at h; cases h
            | some s =>
                rw [hskip] at h
                rcases (skipLongHeader_iff hshort).1 hskip with ⟨p, hp⟩
                rcases ih h with ⟨packets, first', rest', rfl, hshort'⟩
                refine ⟨p :: packets, first', rest', ?_, hshort'⟩
                rw [List.flatMap_cons, List.append_assoc]
                exact hp

/-! ## The memory -/

/-- The addition of `size_t`. -/
def sizeAdd (a b : Nat) : Nat := (a + b) % 2 ^ 64

/-- The loop of `decode_quic_varint`. -/
def varintValueAt (value index : Nat) : Nat → Reads UInt8 Nat
  | 0 => pure value
  | count + 1 => do
      let b ← Reads.read index
      varintValueAt (value * 2 ^ 8 + b.toNat) (index + 1) count

/-- `decode_quic_varint(data, length)` -/
def decodeQuicVarintAt (data length : Nat) : Reads UInt8 (Option (Nat × Nat)) :=
  if length = 0 then pure none
  else do
    let first ← Reads.read data
    let varintLen := 2 ^ (first.toNat / 2 ^ 6)
    if length < varintLen then pure none
    else do
      let value ← varintValueAt (first.toNat % 2 ^ 6) (data + 1) (varintLen - 1)
      pure (some (value, varintLen))

/-- The token and the length field: `pos` moves behind the integer and behind what it counts. -/
def skipFieldAt (pkt remaining pos : Nat) : Reads UInt8 (Option Nat) := do
  let field ← decodeQuicVarintAt (pkt + pos) (remaining - pos)
  match field with
  | none => pure none
  | some (length, varintLen) =>
      let pos := sizeAdd pos varintLen
      if remaining < sizeAdd pos length then pure none else pure (some (sizeAdd pos length))

/-- The body of the loop behind the test of the first byte: the length of the packet at `pkt`. -/
def skipLongHeaderAt (pkt remaining : Nat) : Reads UInt8 (Option Nat) :=
  if remaining < 6 then pure none
  else do
    let dcidLen ← Reads.read (pkt + 5)
    if remaining < 6 + dcidLen.toNat + 1 then pure none
    else do
      let scidLen ← Reads.read (pkt + (6 + dcidLen.toNat))
      if remaining < 6 + dcidLen.toNat + 1 + scidLen.toNat then pure none
      else do
        let v1 ← Reads.read (pkt + 1)
        let v2 ← Reads.read (pkt + 2)
        let v3 ← Reads.read (pkt + 3)
        let v4 ← Reads.read (pkt + 4)
        if versionOf [v1, v2, v3, v4] = 0 then pure none
        else do
          let pos := 6 + dcidLen.toNat + 1 + scidLen.toNat
          let first ← Reads.read pkt
          if packetType first = 0 then do
            let behind ← skipFieldAt pkt remaining pos
            match behind with
            | none => pure none
            | some pos => skipFieldAt pkt remaining pos
          else skipFieldAt pkt remaining pos

/-- `contains_short_header_packet(data, len)` from `offset` on; `none` if the turns run out. -/
def containsShortHeaderPacketAt (len : Nat) : Nat → Nat → Reads UInt8 (Option Bool)
  | 0, offset => pure (if offset < len then none else some false)
  | fuel + 1, offset =>
      if offset < len then do
        let first ← Reads.read offset
        if first.toNat / 2 ^ 7 = 0 then pure (some true)
        else do
          let packet ← skipLongHeaderAt offset (len - offset)
          match packet with
          | none => pure (some false)
          | some length => containsShortHeaderPacketAt len fuel (sizeAdd offset length)
      else pure (some false)

/-- What `data` and `len` point to.  No object is larger than `PTRDIFF_MAX`. -/
structure Buffer where
  bytes : Nat → UInt8
  len : Nat
  len_lt : len < 2 ^ 63

def Buffer.contents (b : Buffer) : Bytes := slice b.bytes 0 b.len

variable {mem : Nat → UInt8} {bound : Nat}

theorem varintValueAt_gives {value index count : Nat} (h : index + count ≤ bound) :
    Gives mem bound (varintValueAt value index count)
      ((slice mem index count).foldl (fun value b => value * 256 + b.toNat) value) := by
  induction count generalizing value index with
  | zero => exact Gives.pure _
  | succ count ih => exact Gives.bind (Gives.read (by omega)) (ih (by omega))

theorem decodeQuicVarintAt_gives {data length : Nat} (h : data + length ≤ bound) :
    Gives mem bound (decodeQuicVarintAt data length)
      (decodeQuicVarint (slice mem data length)) := by
  unfold decodeQuicVarintAt
  split_ifs with hzero
  · rw [hzero]
    exact Gives.pure _
  · have hpos : 0 < length := Nat.pos_of_ne_zero hzero
    have hbits : 2 ^ 6 = 64 := rfl
    refine Gives.bind (Gives.read (by omega)) ?_
    rw [slice_cons mem hpos]
    unfold decodeQuicVarint
    dsimp only
    rw [List.length_cons, length_slice, Nat.sub_add_cancel hpos, hbits]
    split_ifs with hshort
    · exact Gives.pure _
    · have hone : 0 < 2 ^ ((mem data).toNat / 64) := Nat.two_pow_pos _
      refine Gives.bind (varintValueAt_gives (by omega)) ?_
      rw [take_slice mem (by omega)]
      exact Gives.pure _

/-- A position within the packet stands for the bytes behind it. -/
def Behind (mem : Nat → UInt8) (pkt remaining : Nat) : Option Nat → Option Bytes → Prop
  | none, none => True
  | some pos, some s => 0 < pos ∧ pos ≤ remaining ∧ s = slice mem (pkt + pos) (remaining - pos)
  | _, _ => False

/-- The computation finds the position of what the scanner leaves. -/
def Finds (mem : Nat → UInt8) (bound pkt remaining : Nat) (r : Reads UInt8 (Option Nat))
    (rest : Option Bytes) : Prop :=
  ∃ pos, Gives mem bound r pos ∧ Behind mem pkt remaining pos rest

namespace Finds

variable {pkt remaining : Nat}

theorem none : Finds mem bound pkt remaining (pure none) none :=
  ⟨_, Gives.pure _, trivial⟩

theorem read {index : Nat} {f : UInt8 → Reads UInt8 (Option Nat)} {rest : Option Bytes}
    (h : index < bound) (hf : Finds mem bound pkt remaining (f (mem index)) rest) :
    Finds mem bound pkt remaining (Reads.read index >>= f) rest := by
  rcases hf with ⟨pos, hgives, hbehind⟩
  exact ⟨pos, Gives.bind (Gives.read h) hgives, hbehind⟩

theorem skipFieldAt {pos : Nat} (h : pkt + remaining ≤ bound) (hsize : remaining < 2 ^ 63)
    (hpos : pos ≤ remaining) :
    Finds mem bound pkt remaining (skipFieldAt pkt remaining pos)
      (skipField (slice mem (pkt + pos) (remaining - pos))) := by
  have hdecode : Gives mem bound (decodeQuicVarintAt (pkt + pos) (remaining - pos))
      (decodeQuicVarint (slice mem (pkt + pos) (remaining - pos))) :=
    decodeQuicVarintAt_gives (by omega)
  unfold skipField
  cases hfield : decodeQuicVarint (slice mem (pkt + pos) (remaining - pos)) with
  | none =>
      rw [hfield] at hdecode
      exact ⟨_, Gives.bind hdecode (Gives.pure _), trivial⟩
  | some field =>
      rcases field with ⟨length, varintLen⟩
      rw [hfield] at hdecode
      rcases decodeQuicVarint_spec hfield with ⟨hone, hfits, hmax⟩
      rw [length_slice] at hfits
      unfold kMaxQuicVarint at hmax
      -- Neither sum wraps around.
      have hlen : sizeAdd pos varintLen = pos + varintLen := Nat.mod_eq_of_lt (by omega)
      have hend : sizeAdd (pos + varintLen) length = pos + varintLen + length :=
        Nat.mod_eq_of_lt (by omega)
      dsimp only
      rw [length_slice]
      by_cases hroom : remaining < pos + varintLen + length
      · refine ⟨Option.none, Gives.bind hdecode ?_, ?_⟩
        · dsimp only
          rw [hlen, hend, if_pos hroom]
          exact Gives.pure _
        · rw [if_pos (by omega)]
          trivial
      · refine ⟨some (pos + varintLen + length), Gives.bind hdecode ?_, ?_⟩
        · dsimp only
          rw [hlen, hend, if_neg hroom]
          exact Gives.pure _
        · rw [if_neg (by omega), drop_slice mem (by omega)]
          refine ⟨by omega, by omega, ?_⟩
          rw [← Nat.add_assoc, ← Nat.add_assoc, ← Nat.add_assoc, Nat.sub_sub, ← Nat.add_assoc]

/-- The token, and then the length. -/
theorem skipTwoFieldsAt {pos : Nat} (h : pkt + remaining ≤ bound) (hsize : remaining < 2 ^ 63)
    (hpos : pos ≤ remaining) :
    Finds mem bound pkt remaining
      (do
        let behind ← Quic.skipFieldAt pkt remaining pos
        match behind with
        | Option.none => pure Option.none
        | some pos => Quic.skipFieldAt pkt remaining pos)
      ((skipField (slice mem (pkt + pos) (remaining - pos))).bind skipField) := by
  have hfirst : Finds mem bound pkt remaining (Quic.skipFieldAt pkt remaining pos) _ :=
    skipFieldAt h hsize hpos
  rcases hfirst with ⟨token, hgives, hbehind⟩
  cases hfield : skipField (slice mem (pkt + pos) (remaining - pos)) with
  | none =>
      rw [hfield] at hbehind
      cases token with
      | none => exact ⟨_, Gives.bind hgives (Gives.pure _), trivial⟩
      | some pos' => exact absurd hbehind id
  | some rest =>
      rw [hfield] at hbehind
      cases token with
      | none => exact absurd hbehind id
      | some pos' =>
          rcases hbehind with ⟨-, hpos', rfl⟩
          have hsecond : Finds mem bound pkt remaining (Quic.skipFieldAt pkt remaining pos') _ :=
            skipFieldAt h hsize hpos'
          rcases hsecond with ⟨payload, hpayload, hleft⟩
          exact ⟨payload, Gives.bind hgives hpayload, hleft⟩

theorem skipLongHeader_of_short {s : Bytes} (h : s.length < 6) : skipLongHeader s = Option.none := by
  rcases s with _ | ⟨a, _ | ⟨b, _ | ⟨c, _ | ⟨d, _ | ⟨e, _ | ⟨f, s⟩⟩⟩⟩⟩⟩
  case cons.cons.cons.cons.cons.cons => exact absurd h (by simp)
  all_goals rfl

/-- The body of the loop is the scanner on the bytes of the packet. -/
theorem skipLongHeaderAt (h : pkt + remaining ≤ bound) (hsize : remaining < 2 ^ 63) :
    Finds mem bound pkt remaining (skipLongHeaderAt pkt remaining)
      (skipLongHeader (slice mem pkt remaining)) := by
  unfold Quic.skipLongHeaderAt
  by_cases hfixed : remaining < 6
  · rw [if_pos hfixed, skipLongHeader_of_short (by rwa [length_slice])]
    exact none
  obtain ⟨m, rfl⟩ := Nat.exists_eq_add_of_le (not_lt.1 hfixed)
  have hslice : slice mem pkt (6 + m) = mem pkt :: mem (pkt + 1) :: mem (pkt + 2) ::
      mem (pkt + 3) :: mem (pkt + 4) :: mem (pkt + 5) :: slice mem (pkt + 6) m :=
    slice_add mem pkt 6 m
  rw [if_neg hfixed, hslice]
  unfold skipLongHeader skipIds
  dsimp only
  rw [length_slice]
  apply read (by omega)
  generalize (mem (pkt + 5)).toNat = dcidLen
  by_cases hdcid : m < dcidLen + 1
  · rw [if_pos (by omega), if_pos hdcid]
    exact none
  rw [if_neg (by omega), if_neg hdcid, drop_slice mem (by omega), slice_cons mem (by omega)]
  dsimp only
  rw [length_slice]
  apply read (by omega)
  rw [← Nat.add_assoc pkt]
  generalize (mem (pkt + 6 + dcidLen)).toNat = scidLen
  by_cases hscid : m - dcidLen - 1 < scidLen
  · rw [if_pos (by omega), if_pos hscid]
    exact none
  rw [if_neg (by omega), if_neg hscid, drop_slice mem (by omega)]
  dsimp only
  apply read (by omega)
  apply read (by omega)
  apply read (by omega)
  apply read (by omega)
  by_cases hversion : versionOf [mem (pkt + 1), mem (pkt + 2), mem (pkt + 3), mem (pkt + 4)] = 0
  · rw [if_pos hversion, if_pos hversion]
    exact none
  rw [if_neg hversion, if_neg hversion]
  apply read (by omega)
  have hrest : slice mem (pkt + 6 + dcidLen + 1 + scidLen) (m - dcidLen - 1 - scidLen) =
      slice mem (pkt + (6 + dcidLen + 1 + scidLen)) (6 + m - (6 + dcidLen + 1 + scidLen)) := by
    congr 1 <;> omega
  rw [hrest]
  by_cases htype : packetType (mem pkt) = 0
  · rw [if_pos htype, if_pos htype]
    exact skipTwoFieldsAt h hsize (by omega)
  · rw [if_neg htype, if_neg htype]
    exact skipFieldAt h hsize (by omega)

end Finds

/-- The loop is the walk over the bytes from `offset` on. -/
theorem containsShortHeaderPacketAt_gives {len : Nat} (hlen : len < 2 ^ 63) {fuel offset : Nat}
    (hoffset : offset ≤ len) (hfuel : len - offset ≤ fuel) :
    Gives mem len (containsShortHeaderPacketAt len fuel offset)
      (some (containsShortHeaderPacket fuel (slice mem offset (len - offset)))) := by
  induction fuel generalizing offset with
  | zero =>
      have hend : len - offset = 0 := Nat.le_zero.1 hfuel
      unfold containsShortHeaderPacketAt
      rw [if_neg (by omega), hend]
      exact Gives.pure _
  | succ fuel ih =>
      unfold containsShortHeaderPacketAt
      rcases Nat.eq_or_lt_of_le hoffset with rfl | hlt
      · rw [if_neg (lt_irrefl _), Nat.sub_self]
        exact Gives.pure _
      · have hslice : slice mem offset (len - offset) =
            mem offset :: slice mem (offset + 1) (len - offset - 1) :=
          slice_cons mem (Nat.sub_pos_of_lt hlt)
        have hfind : Finds mem len offset (len - offset) (skipLongHeaderAt offset (len - offset))
            (skipLongHeader (slice mem offset (len - offset))) :=
          Finds.skipLongHeaderAt (by omega) (by omega)
        rw [if_pos hlt]
        refine Gives.bind (Gives.read hlt) ?_
        rw [hslice] at hfind ⊢
        unfold containsShortHeaderPacket
        split_ifs with hshort
        · exact Gives.pure _
        · rcases hfind with ⟨pos, hgives, hbehind⟩
          refine Gives.bind hgives ?_
          cases hskip : skipLongHeader (mem offset :: slice mem (offset + 1) (len - offset - 1)) with
          | none =>
              rw [hskip] at hbehind
              cases pos with
              | none => exact Gives.pure _
              | some pos => exact absurd hbehind id
          | some s =>
              rw [hskip] at hbehind
              cases pos with
              | none => exact absurd hbehind id
              | some pos =>
                  rcases hbehind with ⟨hpos, hle, rfl⟩
                  have hnext : sizeAdd offset pos = offset + pos := Nat.mod_eq_of_lt (by omega)
                  dsimp only
                  rw [hnext, Nat.sub_sub]
                  exact ih (by omega) (by omega)

/-- On every datagram the function returns within as many turns as there are bytes and reads within
the datagram only.  Where long-header packets with a length are followed by nothing or a short
header, it tells which; and it returns `true` at a short header behind complete packets only. -/
theorem short_header_found (b : Buffer) :
    ∃ found, (∀ fuel, b.len ≤ fuel →
        Gives b.bytes b.len (containsShortHeaderPacketAt b.len fuel 0) (some found)) ∧
      (∀ (packets : List LongPacket) (tail : Bytes), (∀ p ∈ packets, p.HasLength) →
        (∀ first rest, tail = first :: rest → first.toNat / 2 ^ 7 = 0) →
        b.contents = packets.flatMap LongPacket.bytes ++ tail → (found = true ↔ tail ≠ [])) ∧
      (found = true → ∃ (packets : List LongPacket) (first : UInt8) (rest : Bytes),
        b.contents = packets.flatMap LongPacket.bytes ++ first :: rest ∧ first.toNat / 2 ^ 7 = 0) := by
  have hlength : b.contents.length = b.len := length_slice b.bytes 0 b.len
  refine ⟨containsShortHeaderPacket b.len b.contents, ?_, ?_, ?_⟩
  · intro fuel hfuel
    have hgives := @containsShortHeaderPacketAt_gives b.bytes b.len b.len_lt fuel 0 (Nat.zero_le _)
      hfuel
    rw [containsShortHeaderPacket_fuel hlength.le (hlength.trans_le hfuel)]
    exact hgives
  · intro packets tail _ htail hcontents
    rw [hcontents] at hlength ⊢
    exact containsShortHeaderPacket_of_packets htail hlength.le
  · exact exists_packets_of_containsShortHeaderPacket

end Quic
end WebTransport
