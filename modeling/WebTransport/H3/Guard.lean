import WebTransport.H3.Types

/-!
# H3.Guard — the HEADERS frame guard of `receive_stream_data`

nghttp3 may get the bytes of a HEADERS frame, but none behind it before the header block is
decoded.  The guard finds the end of a leading HEADERS frame, however the bytes are cut, forwards
what lies in front of it and keeps the rest.

* `tryParseH3FrameHeader_append` : bytes behind a complete frame header are not looked at;
* `HeadersFrameGuard.Follows`    : a guard that knows how far its stream was passed on;
* `Follows.takeData`             : new bytes keep it so, however the frame header is cut.
-/

namespace WebTransport
namespace H3

open Bindings

/-! ## Frame headers -/

/-- `nghttp3_get_uvarintlen` on the byte at the front. -/
def getUvarintlen (data : Bytes) : Nat :=
  match data with
  | [] => 0
  | first :: _ => 2 ^ (first.toNat / 64)

/-- `nghttp3_get_uvarint` on a complete varint. -/
def getUvarint (data : Bytes) : Nat := ((decodeQuicVarint data).map Prod.fst).getD 0

/-- `try_parse_h3_frame_header`: frame type, payload length and header length. -/
def tryParseH3FrameHeader (data : Bytes) : Option (Nat × Nat × Nat) :=
  if data.length = 0 then none
  else
    let typeLength := getUvarintlen data
    if data.length ≤ typeLength then none
    else
      let lengthLength := getUvarintlen (data.drop typeLength)
      if data.length < typeLength + lengthLength then none
      else
        some (getUvarint data, getUvarint (data.drop typeLength), typeLength + lengthLength)

/-- The length of the leading HEADERS frame, once its frame header is there. -/
def leadingHeaders (data : Bytes) : Option Nat :=
  match tryParseH3FrameHeader data with
  | some (frameType, payloadLength, headerLength) =>
      if frameType = kH3FrameTypeHeaders then some (headerLength + payloadLength) else none
  | none => none

theorem getUvarintlen_le (data : Bytes) : getUvarintlen data ≤ 8 := by
  cases data with
  | nil => exact Nat.zero_le 8
  | cons first rest =>
      have hfirst : first.toNat < 256 := first.toNat_lt
      have htag : first.toNat / 64 ≤ 3 := by omega
      calc
        getUvarintlen (first :: rest) = 2 ^ (first.toNat / 64) := rfl
        _ ≤ 2 ^ 3 := Nat.pow_le_pow_right (by decide) htag

theorem getUvarintlen_append {data : Bytes} (h : data ≠ []) (t : Bytes) :
    getUvarintlen (data ++ t) = getUvarintlen data := by
  cases data with
  | nil => exact absurd rfl h
  | cons first rest => rfl

/-- A complete varint reads the same whatever follows it. -/
theorem getUvarint_append {data : Bytes} (hne : data ≠ []) (hlen : getUvarintlen data ≤ data.length)
    (t : Bytes) : getUvarint (data ++ t) = getUvarint data := by
  cases data with
  | nil => exact absurd rfl hne
  | cons first rest =>
      have hnot : ¬ (first :: rest).length < 2 ^ (first.toNat / 64) := Nat.not_lt.2 hlen
      cases hdecode : decodeQuicVarint (first :: rest) with
      | none =>
          simp only [decodeQuicVarint, if_neg hnot] at hdecode
          cases hdecode
      | some r =>
          unfold getUvarint
          rw [decodeQuicVarint_append t hdecode, hdecode]

/-- The two varints of a frame header are there. -/
def frameHeaderComplete (data : Bytes) : Prop :=
  getUvarintlen data < data.length ∧
    getUvarintlen data + getUvarintlen (data.drop (getUvarintlen data)) ≤ data.length

theorem tryParseH3FrameHeader_eq (data : Bytes) (h : frameHeaderComplete data) :
    tryParseH3FrameHeader data =
      some (getUvarint data, getUvarint (data.drop (getUvarintlen data)),
        getUvarintlen data + getUvarintlen (data.drop (getUvarintlen data))) := by
  rcases h with ⟨htype, hlength⟩
  have hpos : data.length ≠ 0 := by omega
  unfold tryParseH3FrameHeader
  dsimp only
  rw [if_neg hpos, if_neg (Nat.not_le.2 htype), if_neg (Nat.not_lt.2 hlength)]

theorem frameHeaderComplete_of_parse {data : Bytes} {r : Nat × Nat × Nat}
    (h : tryParseH3FrameHeader data = some r) : frameHeaderComplete data := by
  unfold tryParseH3FrameHeader at h
  dsimp only at h
  split_ifs at h with hempty htype hlength
  exact ⟨Nat.not_le.1 htype, Nat.not_lt.1 hlength⟩

/-- What a frame header says does not depend on the bytes behind it. -/
theorem tryParseH3FrameHeader_append {data : Bytes} {r : Nat × Nat × Nat} (t : Bytes)
    (h : tryParseH3FrameHeader data = some r) : tryParseH3FrameHeader (data ++ t) = some r := by
  have hcomplete := frameHeaderComplete_of_parse h
  rcases hcomplete with ⟨htype, hlength⟩
  have hne : data ≠ [] := List.ne_nil_of_length_pos (by omega)
  have hdrop : data.drop (getUvarintlen data) ≠ [] := by
    intro hnil
    have hle := List.drop_eq_nil_iff.1 hnil
    omega
  have hlen : getUvarintlen (data ++ t) = getUvarintlen data := getUvarintlen_append hne t
  have hrest : (data ++ t).drop (getUvarintlen (data ++ t)) =
      data.drop (getUvarintlen data) ++ t := by
    rw [hlen, List.drop_append_of_le_length (by omega)]
  have hlenRest : getUvarintlen ((data ++ t).drop (getUvarintlen (data ++ t))) =
      getUvarintlen (data.drop (getUvarintlen data)) := by
    rw [hrest, getUvarintlen_append hdrop]
  have hcomplete' : frameHeaderComplete (data ++ t) := by
    refine ⟨?_, ?_⟩
    · rw [hlen, List.length_append]
      omega
    · rw [hlenRest, hlen, List.length_append]
      omega
  have htypeEq : getUvarint (data ++ t) = getUvarint data := getUvarint_append hne (by omega) t
  have hpayloadEq : getUvarint ((data ++ t).drop (getUvarintlen (data ++ t))) =
      getUvarint (data.drop (getUvarintlen data)) := by
    rw [hrest]
    refine getUvarint_append hdrop ?_ t
    rw [List.length_drop]
    omega
  rw [tryParseH3FrameHeader_eq _ hcomplete', htypeEq, hpayloadEq, hlenRest, hlen,
    ← tryParseH3FrameHeader_eq _ ⟨htype, hlength⟩, h]

/-- A frame header is not empty and lies inside the bytes that it was read from. -/
theorem tryParseH3FrameHeader_length {data : Bytes} {frameType payloadLength headerLength : Nat}
    (h : tryParseH3FrameHeader data = some (frameType, payloadLength, headerLength)) :
    0 < headerLength ∧ headerLength ≤ data.length := by
  have hcomplete := frameHeaderComplete_of_parse h
  rw [tryParseH3FrameHeader_eq data hcomplete] at h
  simp only [Option.some.injEq, Prod.mk.injEq] at h
  have hne : data ≠ [] := by
    rintro rfl
    exact absurd hcomplete.1 (Nat.not_lt_zero _)
  have hpos : 0 < getUvarintlen data := by
    cases data with
    | nil => exact absurd rfl hne
    | cons first rest => exact Nat.two_pow_pos _
  rw [← h.2.2]
  exact ⟨by omega, hcomplete.2⟩

/-- Sixteen bytes hold any frame header. -/
theorem tryParseH3FrameHeader_isSome {data : Bytes} (h : 16 ≤ data.length) :
    tryParseH3FrameHeader data ≠ none := by
  have htype := getUvarintlen_le data
  have hlength := getUvarintlen_le (data.drop (getUvarintlen data))
  rw [tryParseH3FrameHeader_eq data ⟨by omega, by omega⟩]
  exact Option.some_ne_none _

/-- Only the first sixteen bytes matter. -/
theorem tryParseH3FrameHeader_take (data : Bytes) :
    tryParseH3FrameHeader (data.take 16) = tryParseH3FrameHeader data := by
  by_cases hlong : 16 ≤ data.length
  · have hlen : 16 ≤ (data.take 16).length := by
      rw [List.length_take]
      omega
    rcases Option.ne_none_iff_exists'.1 (tryParseH3FrameHeader_isSome hlen) with ⟨r, hr⟩
    have happend := tryParseH3FrameHeader_append (data.drop 16) hr
    rw [List.take_append_drop] at happend
    rw [hr, happend]
  · rw [List.take_of_length_le (by omega)]

/-- Bytes without a complete frame header are fewer than the frame header that they begin. -/
theorem length_lt_of_parse_append {data t : Bytes} {frameType payloadLength headerLength : Nat}
    (hnone : tryParseH3FrameHeader data = none)
    (h : tryParseH3FrameHeader (data ++ t) = some (frameType, payloadLength, headerLength)) :
    data.length < headerLength := by
  by_contra hle
  push Not at hle
  -- The header length is read from the bytes in front, so `data` already holds the frame header.
  have hcomplete := frameHeaderComplete_of_parse h
  rw [tryParseH3FrameHeader_eq _ hcomplete] at h
  simp only [Option.some.injEq, Prod.mk.injEq] at h
  have hne : data ≠ [] := by
    rintro rfl
    have hlength := tryParseH3FrameHeader_length (tryParseH3FrameHeader_eq _ hcomplete)
    rw [h.2.2] at hlength
    exact absurd hle (Nat.not_le.2 hlength.1)
  have hlen : getUvarintlen (data ++ t) = getUvarintlen data := getUvarintlen_append hne t
  have hpos : 0 < getUvarintlen ((data ++ t).drop (getUvarintlen (data ++ t))) := by
    have hdrop : (data ++ t).drop (getUvarintlen (data ++ t)) ≠ [] := by
      intro hnil
      exact absurd hcomplete.1 (Nat.not_lt.2 (List.drop_eq_nil_iff.1 hnil))
    cases hcase : (data ++ t).drop (getUvarintlen (data ++ t)) with
    | nil => exact absurd hcase hdrop
    | cons first rest => exact Nat.two_pow_pos _
  have htype : getUvarintlen data < data.length := by omega
  have hdrop : data.drop (getUvarintlen data) ≠ [] := by
    intro hnil
    exact absurd htype (Nat.not_lt.2 (List.drop_eq_nil_iff.1 hnil))
  have hrest : getUvarintlen ((data ++ t).drop (getUvarintlen (data ++ t))) =
      getUvarintlen (data.drop (getUvarintlen data)) := by
    rw [hlen, List.drop_append_of_le_length (by omega), getUvarintlen_append hdrop]
  have hcomplete' : frameHeaderComplete data := ⟨htype, by omega⟩
  rw [tryParseH3FrameHeader_eq data hcomplete'] at hnone
  cases hnone

theorem leadingHeaders_append {data : Bytes} (t : Bytes) (h : tryParseH3FrameHeader data ≠ none) :
    leadingHeaders (data ++ t) = leadingHeaders data := by
  rcases Option.ne_none_iff_exists'.1 h with ⟨r, hr⟩
  unfold leadingHeaders
  rw [tryParseH3FrameHeader_append t hr, hr]

/-! ## The guard -/

/-- What `receive_stream_data` does with the bytes of a guarded stream: keep them in `parse_prefix`
and return, hold them all, or forward some. -/
inductive GuardVerdict
  | park
  | hold
  | forward (data : Bytes) (fin : Bool)
  deriving DecidableEq

namespace HeadersFrameGuard

/-- The first frame is not interpreted yet and nothing is in `parse_prefix`. -/
def takeFirst (guard : HeadersFrameGuard) (data : Bytes) (fin : Bool) :
    HeadersFrameGuard × GuardVerdict :=
  match tryParseH3FrameHeader data with
  | none =>
      if fin then ({ guard with parsePrefix := [] }, .forward data true)
      else ({ guard with parsePrefix := data, heldFin := false }, .park)
  | some (frameType, payloadLength, headerLength) =>
      if frameType ≠ kH3FrameTypeHeaders then
        ({ guard with headerParsed := true, isHeaders := false, parsePrefix := [] },
          .forward data fin)
      else
        let totalLength := headerLength + payloadLength
        let guard :=
          { guard with headerParsed := true, isHeaders := true, headersTotalLen := totalLength,
                       parsePrefix := [] }
        if data.length ≤ totalLength then
          ({ guard with headersForwarded := data.length }, .forward data fin)
        else
          ({ guard with headersForwarded := totalLength, heldData := data.drop totalLength,
                        heldFin := fin }, .forward (data.take totalLength) false)

/-- The first frame is not interpreted yet and `parse_prefix` holds its beginning. -/
def takeMore (guard : HeadersFrameGuard) (data : Bytes) (fin : Bool) :
    HeadersFrameGuard × GuardVerdict :=
  let prefixSize := guard.parsePrefix.length
  let takeFromData := if prefixSize < 16 then min data.length (16 - prefixSize) else 0
  match tryParseH3FrameHeader (guard.parsePrefix ++ data.take takeFromData) with
  | none =>
      if fin then
        ({ guard with parsePrefix := [], headerParsed := false, isHeaders := false },
          .forward (guard.parsePrefix ++ data) true)
      else ({ guard with parsePrefix := guard.parsePrefix ++ data }, .park)
  | some (frameType, payloadLength, headerLength) =>
      if frameType ≠ kH3FrameTypeHeaders then
        ({ guard with headerParsed := true, isHeaders := false, parsePrefix := [] },
          .forward (guard.parsePrefix ++ data) fin)
      else
        let totalLength := headerLength + payloadLength
        let parsed :=
          { guard with headerParsed := true, isHeaders := true, headersTotalLen := totalLength,
                       parsePrefix := [] }
        if prefixSize + data.length ≤ totalLength then
          ({ parsed with headersForwarded := prefixSize + data.length },
            .forward (guard.parsePrefix ++ data) fin)
        else
          let needFromData := totalLength - prefixSize
          ({ parsed with headersForwarded := totalLength, heldData := data.drop needFromData,
                         heldFin := fin },
            .forward (guard.parsePrefix ++ data.take needFromData) false)

/-- The guarded part of `receive_stream_data`; `blocked` says that the header block of the stream
is still being received. -/
def takeData (guard : HeadersFrameGuard) (blocked : Bool) (data : Bytes)
    (fin : Bool) : HeadersFrameGuard × GuardVerdict :=
  if !guard.headerParsed then
    if guard.parsePrefix = [] then guard.takeFirst data fin else guard.takeMore data fin
  else if !guard.isHeaders then (guard, .forward data fin)
  else if guard.headersForwarded < guard.headersTotalLen then
    let remaining := guard.headersTotalLen - guard.headersForwarded
    if data.length ≤ remaining then
      ({ guard with headersForwarded := guard.headersForwarded + data.length }, .forward data fin)
    else
      ({ guard with headersForwarded := guard.headersTotalLen, heldData := data.drop remaining,
                    heldFin := fin }, .forward (data.take remaining) false)
  else if blocked then
    ({ guard with heldData := guard.heldData ++ data, heldFin := guard.heldFin || fin }, .hold)
  else (guard, .forward data fin)

/-- The HEADERS of the stream went to nghttp3 as a whole and bytes behind them are held. -/
def mayFlush (guard : HeadersFrameGuard) : Bool :=
  guard.headerParsed && guard.isHeaders && !guard.heldData.isEmpty &&
    guard.headersForwarded = guard.headersTotalLen

/-! ### What the guard knows -/

/-- The bytes that the guard keeps back. -/
def parked (guard : HeadersFrameGuard) : Bytes := guard.parsePrefix ++ guard.heldData

/-- How a guard stands to the bytes passed to nghttp3 and the bytes received; `fin` says that the
FIN of the stream was received. -/
inductive Follows (guard : HeadersFrameGuard) (passed received : Bytes) (fin : Bool) : Prop
  /-- the frame header is not complete -/
  | unread (hparsed : guard.headerParsed = false) (hheader : tryParseH3FrameHeader received = none)
      (hfront : guard.parsePrefix = received) (hheld : guard.heldData = []) (hpassed : passed = [])
  /-- the FIN came before the frame header was complete -/
  | cutOff (hfin : fin = true) (hparsed : guard.headerParsed = false)
      (hheader : tryParseH3FrameHeader received = none) (hfront : guard.parsePrefix = [])
      (hheld : guard.heldData = []) (hpassed : passed = received)
  /-- the first frame is not HEADERS -/
  | other (hparsed : guard.headerParsed = true) (hheaders : guard.isHeaders = false)
      (hheader : tryParseH3FrameHeader received ≠ none) (hleading : leadingHeaders received = none)
      (hfront : guard.parsePrefix = []) (hheld : guard.heldData = []) (hpassed : passed = received)
  /-- the first frame is HEADERS; bytes are held only behind it -/
  | headers (hparsed : guard.headerParsed = true) (hheaders : guard.isHeaders = true)
      (hleading : leadingHeaders received = some guard.headersTotalLen)
      (hfront : guard.parsePrefix = []) (hbytes : passed ++ guard.heldData = received)
      (hforwarded : guard.headersForwarded = min passed.length guard.headersTotalLen)
      (hheld : guard.heldData ≠ [] → guard.headersTotalLen ≤ passed.length)

namespace Follows

variable {guard : HeadersFrameGuard} {passed received : Bytes} {fin : Bool}

theorem fresh : Follows {} [] [] fin := .unread rfl rfl rfl rfl rfl

/-- No byte is lost or moved. -/
theorem conserved (h : Follows guard passed received fin) :
    passed ++ guard.parked = received := by
  unfold parked
  cases h with
  | unread hparsed hheader hfront hheld hpassed => simp [hfront, hheld, hpassed]
  | cutOff hfin hparsed hheader hfront hheld hpassed => simp [hfront, hheld, hpassed]
  | other hparsed hheaders hheader hleading hfront hheld hpassed => simp [hfront, hheld, hpassed]
  | headers hparsed hheaders hleading hfront hbytes hforwarded hheld => simpa [hfront] using hbytes

/-- The FIN alone changes nothing. -/
theorem finished (h : Follows guard passed received false) (fin : Bool) :
    Follows guard passed received fin := by
  cases h with
  | unread hparsed hheader hfront hheld hpassed => exact .unread hparsed hheader hfront hheld hpassed
  | cutOff hfin hparsed hheader hfront hheld hpassed => exact absurd hfin Bool.false_ne_true
  | other hparsed hheaders hheader hleading hfront hheld hpassed =>
      exact .other hparsed hheaders hheader hleading hfront hheld hpassed
  | headers hparsed hheaders hleading hfront hbytes hforwarded hheld =>
      exact .headers hparsed hheaders hleading hfront hbytes hforwarded hheld

/-- Held bytes lie behind a HEADERS frame that was passed on as a whole. -/
theorem mayFlush (h : Follows guard passed received fin) (hne : guard.heldData ≠ []) :
    guard.mayFlush = true := by
  cases h with
  | unread hparsed hheader hfront hheld hpassed => exact absurd hheld hne
  | cutOff hfin hparsed hheader hfront hheld hpassed => exact absurd hheld hne
  | other hparsed hheaders hheader hleading hfront hheld hpassed => exact absurd hheld hne
  | headers hparsed hheaders hleading hfront hbytes hforwarded hheld =>
      have htotal : guard.headersForwarded = guard.headersTotalLen := by
        rw [hforwarded]
        exact Nat.min_eq_right (hheld hne)
      simp [HeadersFrameGuard.mayFlush, hparsed, hheaders, hne, htotal]

/-- The held bytes go to nghttp3. -/
theorem flush (h : Follows guard passed received fin) (hne : guard.heldData ≠ []) :
    Follows { guard with heldData := [], heldFin := false } (passed ++ guard.heldData) received
      fin := by
  cases h with
  | unread hparsed hheader hfront hheld hpassed => exact absurd hheld hne
  | cutOff hfin hparsed hheader hfront hheld hpassed => exact absurd hheld hne
  | other hparsed hheaders hheader hleading hfront hheld hpassed => exact absurd hheld hne
  | headers hparsed hheaders hleading hfront hbytes hforwarded hheld =>
      have hlen := hheld hne
      refine .headers hparsed hheaders hleading hfront ?_ ?_ ?_
      · rw [List.append_nil]
        exact hbytes
      · have hforwarded' : guard.headersForwarded = guard.headersTotalLen := by
          rw [hforwarded]
          exact Nat.min_eq_right hlen
        rw [List.length_append]
        change guard.headersForwarded = _
        rw [hforwarded']
        exact (Nat.min_eq_right (Nat.le_add_right_of_le hlen)).symm
      · intro hnil
        exact absurd rfl hnil

end Follows

/-- The guard and its verdict on new bytes do what they have to: nothing is lost, a blocked stream
gets nothing behind its HEADERS, and the FIN stays with the last byte. -/
structure Takes (passed received data : Bytes) (blocked fin : Bool)
    (result : HeadersFrameGuard × GuardVerdict) : Prop where
  park : result.2 = .park → fin = false ∧ Follows result.1 passed (received ++ data) fin ∧
    result.1.heldData = [] ∧ result.1.heldFin = false
  hold : result.2 = .hold → blocked = true ∧ Follows result.1 passed (received ++ data) fin ∧
    result.1.heldData ≠ [] ∧ result.1.heldFin = fin
  forward : ∀ bytes forwardFin, result.2 = .forward bytes forwardFin →
    Follows result.1 (passed ++ bytes) (received ++ data) fin ∧
    (blocked = true → ∀ total, leadingHeaders (received ++ data) = some total →
      (passed ++ bytes).length ≤ total) ∧
    ((forwardFin = fin ∧ result.1.heldFin = false ∧ (fin = true → result.1.parked = [])) ∨
      (forwardFin = false ∧ result.1.heldFin = fin ∧ result.1.heldData ≠ []))

namespace Takes

variable {guard : HeadersFrameGuard} {passed received data : Bytes} {blocked fin : Bool}

theorem ofPark (hfin : fin = false) (hfollows : Follows guard passed (received ++ data) fin)
    (hheld : guard.heldData = []) (hheldFin : guard.heldFin = false) :
    Takes passed received data blocked fin (guard, .park) :=
  ⟨fun _ => ⟨hfin, hfollows, hheld, hheldFin⟩, fun h => GuardVerdict.noConfusion h,
    fun _ _ h => GuardVerdict.noConfusion h⟩

theorem ofHold (hblocked : blocked = true) (hfollows : Follows guard passed (received ++ data) fin)
    (hheld : guard.heldData ≠ []) (hheldFin : guard.heldFin = fin) :
    Takes passed received data blocked fin (guard, .hold) :=
  ⟨fun h => GuardVerdict.noConfusion h, fun _ => ⟨hblocked, hfollows, hheld, hheldFin⟩,
    fun _ _ h => GuardVerdict.noConfusion h⟩

/-- Everything that is there goes on, the FIN with it. -/
theorem ofAll {bytes : Bytes} (hfollows : Follows guard (passed ++ bytes) (received ++ data) fin)
    (hbound : blocked = true → ∀ total, leadingHeaders (received ++ data) = some total →
      (passed ++ bytes).length ≤ total)
    (hheldFin : guard.heldFin = false) (hparked : fin = true → guard.parked = []) :
    Takes passed received data blocked fin (guard, .forward bytes fin) := by
  refine ⟨fun h => GuardVerdict.noConfusion h, fun h => GuardVerdict.noConfusion h, ?_⟩
  intro bytes' forwardFin h
  cases h
  exact ⟨hfollows, hbound, .inl ⟨rfl, hheldFin, hparked⟩⟩

/-- The part up to the end of the HEADERS goes on, and the rest is held. -/
theorem ofSplit {bytes : Bytes} (hfollows : Follows guard (passed ++ bytes) (received ++ data) fin)
    (hbound : ∀ total, leadingHeaders (received ++ data) = some total →
      (passed ++ bytes).length ≤ total)
    (hheldFin : guard.heldFin = fin) (hheld : guard.heldData ≠ []) :
    Takes passed received data blocked fin (guard, .forward bytes false) := by
  refine ⟨fun h => GuardVerdict.noConfusion h, fun h => GuardVerdict.noConfusion h, ?_⟩
  intro bytes' forwardFin h
  cases h
  exact ⟨hfollows, fun _ => hbound, .inr ⟨rfl, hheldFin, hheld⟩⟩

end Takes

/-- The first bytes of a stream. -/
theorem takeFirst_takes {guard : HeadersFrameGuard} (hparsed : guard.headerParsed = false)
    (hheld : guard.heldData = []) (hheldFin : guard.heldFin = false) (data : Bytes)
    (blocked fin : Bool) :
    Takes [] [] data blocked fin (guard.takeFirst data fin) := by
  unfold takeFirst
  cases hparse : tryParseH3FrameHeader data with
  | none =>
      dsimp only
      split_ifs with hfin
      · cases hfin
        refine .ofAll (.cutOff rfl hparsed hparse rfl hheld rfl) ?_ hheldFin ?_
        · intro _ total htotal
          simp only [leadingHeaders, List.nil_append, hparse] at htotal
          cases htotal
        · intro _
          simp [parked, hheld]
      · exact .ofPark (Bool.eq_false_iff.2 hfin) (.unread hparsed hparse rfl hheld rfl) hheld rfl
  | some header =>
      rcases header with ⟨frameType, payloadLength, headerLength⟩
      dsimp only
      have hleading : leadingHeaders data =
          if frameType = kH3FrameTypeHeaders then some (headerLength + payloadLength)
          else none := by
        simp only [leadingHeaders, hparse]
      by_cases htype : frameType = kH3FrameTypeHeaders
      · rw [if_pos htype] at hleading
        rw [if_neg (not_not_intro htype)]
        split_ifs with hlen
        · refine .ofAll ?_ ?_ hheldFin ?_
          · refine .headers rfl rfl hleading rfl ?_ ?_ ?_
            · simp [hheld]
            · exact (Nat.min_eq_left hlen).symm
            · intro hne
              exact absurd hheld hne
          · intro _ total htotal
            rw [List.nil_append, hleading] at htotal
            cases htotal
            exact hlen
          · intro _
            simp [parked, hheld]
        · have htotalLen : (data.take (headerLength + payloadLength)).length =
              headerLength + payloadLength := by
            rw [List.length_take]
            omega
          refine .ofSplit ?_ ?_ rfl ?_
          · refine .headers rfl rfl hleading rfl ?_ ?_ ?_
            · exact List.take_append_drop _ _
            · change headerLength + payloadLength = min _ (headerLength + payloadLength)
              rw [List.nil_append, htotalLen, Nat.min_self]
            · intro _
              rw [List.nil_append, htotalLen]
          · intro total htotal
            rw [List.nil_append, hleading] at htotal
            cases htotal
            rw [List.nil_append, htotalLen]
          · intro hnil
            exact hlen (List.drop_eq_nil_iff.1 hnil)
      · rw [if_neg htype] at hleading
        rw [if_pos htype]
        refine .ofAll (.other rfl rfl ?_ hleading rfl hheld rfl) ?_ hheldFin ?_
        · rw [List.nil_append, hparse]
          exact Option.some_ne_none _
        · intro _ total htotal
          rw [List.nil_append, hleading] at htotal
          cases htotal
        · intro _
          simp [parked, hheld]

/-- The sixteen bytes that are looked at decide the frame header of all of them. -/
theorem tryParseH3FrameHeader_combined {front : Bytes} (hnone : tryParseH3FrameHeader front = none)
    (data : Bytes) :
    tryParseH3FrameHeader
        (front ++ data.take (if front.length < 16 then min data.length (16 - front.length) else 0)) =
      tryParseH3FrameHeader (front ++ data) := by
  have hshort : front.length < 16 := by
    by_contra hlong
    exact tryParseH3FrameHeader_isSome (Nat.not_lt.1 hlong) hnone
  have htake : front ++ data.take (min data.length (16 - front.length)) =
      (front ++ data).take 16 := by
    rw [List.take_append, List.take_of_length_le (Nat.le_of_lt hshort), List.take_eq_take_min,
      Nat.min_comm data.length, Nat.min_assoc, Nat.min_self]
    rw [← List.take_eq_take_min]
  rw [if_pos hshort, htake, tryParseH3FrameHeader_take]

/-- More bytes, while the frame header was not complete. -/
theorem takeMore_takes {guard : HeadersFrameGuard} (hparsed : guard.headerParsed = false)
    (hnone : tryParseH3FrameHeader guard.parsePrefix = none) (hheld : guard.heldData = [])
    (hheldFin : guard.heldFin = false) (data : Bytes) (blocked fin : Bool) :
    Takes [] guard.parsePrefix data blocked fin (guard.takeMore data fin) := by
  unfold takeMore
  dsimp only
  rw [tryParseH3FrameHeader_combined hnone data]
  cases hparse : tryParseH3FrameHeader (guard.parsePrefix ++ data) with
  | none =>
      dsimp only
      split_ifs with hfin
      · cases hfin
        refine .ofAll (.cutOff rfl rfl hparse rfl hheld rfl) ?_ hheldFin ?_
        · intro _ total htotal
          simp only [leadingHeaders, hparse] at htotal
          cases htotal
        · intro _
          simp [parked, hheld]
      · exact .ofPark (Bool.eq_false_iff.2 hfin) (.unread hparsed hparse rfl hheld rfl) hheld hheldFin
  | some header =>
      rcases header with ⟨frameType, payloadLength, headerLength⟩
      dsimp only
      have hleading : leadingHeaders (guard.parsePrefix ++ data) =
          if frameType = kH3FrameTypeHeaders then some (headerLength + payloadLength)
          else none := by
        simp only [leadingHeaders, hparse]
      by_cases htype : frameType = kH3FrameTypeHeaders
      · rw [if_pos htype] at hleading
        rw [if_neg (not_not_intro htype)]
        split_ifs with hlen
        · refine .ofAll ?_ ?_ hheldFin ?_
          · refine .headers rfl rfl hleading rfl ?_ ?_ ?_
            · simp [hheld]
            · rw [List.nil_append, List.length_append]
              exact (Nat.min_eq_left hlen).symm
            · intro hne
              exact absurd hheld hne
          · intro _ total htotal
            rw [hleading] at htotal
            cases htotal
            rw [List.nil_append, List.length_append]
            exact hlen
          · intro _
            simp [parked, hheld]
        · -- The prefix ends inside the frame header, so the end of the HEADERS lies in `data`.
          have hfront := length_lt_of_parse_append hnone hparse
          have htotalLen : ([] ++ (guard.parsePrefix ++
              data.take (headerLength + payloadLength - guard.parsePrefix.length))).length =
              headerLength + payloadLength := by
            rw [List.nil_append, List.length_append, List.length_take]
            omega
          refine .ofSplit ?_ ?_ rfl ?_
          · refine .headers rfl rfl hleading rfl ?_ ?_ ?_
            · rw [List.nil_append, List.append_assoc]
              exact congrArg (guard.parsePrefix ++ ·) (List.take_append_drop _ _)
            · change headerLength + payloadLength = min _ (headerLength + payloadLength)
              rw [htotalLen, Nat.min_self]
            · intro _
              rw [htotalLen]
          · intro total htotal
            rw [hleading] at htotal
            cases htotal
            rw [htotalLen]
          · intro hnil
            have hle := List.drop_eq_nil_iff.1 hnil
            omega
      · rw [if_neg htype] at hleading
        rw [if_pos htype]
        refine .ofAll (.other rfl rfl ?_ hleading rfl hheld rfl) ?_ hheldFin ?_
        · rw [hparse]
          exact Option.some_ne_none _
        · intro _ total htotal
          rw [hleading] at htotal
          cases htotal
        · intro _
          simp [parked, hheld]

/-- More bytes of a stream whose first frame is HEADERS. -/
theorem takeHeaders_takes {guard : HeadersFrameGuard} {passed received : Bytes}
    (hparsed : guard.headerParsed = true) (hheaders : guard.isHeaders = true)
    (hleading : leadingHeaders received = some guard.headersTotalLen)
    (hfront : guard.parsePrefix = []) (hbytes : passed ++ guard.heldData = received)
    (hforwarded : guard.headersForwarded = min passed.length guard.headersTotalLen)
    (hheld : guard.heldData ≠ [] → guard.headersTotalLen ≤ passed.length)
    (hheldFin : guard.heldFin = false) {blocked : Bool}
    (hwaits : guard.heldData ≠ [] → blocked = true) {data : Bytes} (hdata : data ≠ []) (fin : Bool) :
    Takes passed received data blocked fin (guard.takeData blocked data fin) := by
  have hparse : tryParseH3FrameHeader received ≠ none := by
    intro hnone
    simp only [leadingHeaders, hnone] at hleading
    cases hleading
  have hleading' : leadingHeaders (received ++ data) = some guard.headersTotalLen := by
    rw [leadingHeaders_append data hparse, hleading]
  have hread : ¬ (!guard.headerParsed) = true := by simp [hparsed]
  have hkind : ¬ (!guard.isHeaders) = true := by simp [hheaders]
  unfold takeData
  rw [if_neg hread, if_neg hkind]
  by_cases hinside : guard.headersForwarded < guard.headersTotalLen
  · -- The end of the HEADERS is still to come, so nothing is held.
    have hforwarded' : guard.headersForwarded = passed.length := by omega
    have hnoneHeld : guard.heldData = [] := by
      by_contra hne
      have hle := hheld hne
      omega
    rw [hnoneHeld, List.append_nil] at hbytes
    rw [if_pos hinside]
    dsimp only
    split_ifs with hlen
    · refine .ofAll ?_ ?_ hheldFin ?_
      · refine .headers hparsed hheaders hleading' hfront ?_ ?_ ?_
        · change (passed ++ data) ++ guard.heldData = received ++ data
          rw [hnoneHeld, List.append_nil, hbytes]
        · change guard.headersForwarded + data.length = min _ guard.headersTotalLen
          rw [List.length_append]
          omega
        · intro hne
          exact absurd hnoneHeld hne
      · intro _ total htotal
        rw [hleading'] at htotal
        cases htotal
        rw [List.length_append]
        omega
      · intro _
        simp [parked, hfront, hnoneHeld]
    · have htotalLen : (passed ++
          data.take (guard.headersTotalLen - guard.headersForwarded)).length =
          guard.headersTotalLen := by
        rw [List.length_append, List.length_take]
        omega
      refine .ofSplit ?_ ?_ rfl ?_
      · refine .headers hparsed hheaders hleading' hfront ?_ ?_ ?_
        · rw [List.append_assoc, hbytes]
          exact congrArg (received ++ ·) (List.take_append_drop _ _)
        · change guard.headersTotalLen = min _ guard.headersTotalLen
          rw [htotalLen, Nat.min_self]
        · intro _
          rw [htotalLen]
      · intro total htotal
        rw [hleading'] at htotal
        cases htotal
        rw [htotalLen]
      · intro hnil
        exact hlen (List.drop_eq_nil_iff.1 hnil)
  · have htotal : guard.headersTotalLen ≤ passed.length := by omega
    rw [if_neg hinside]
    cases blocked with
    | true =>
        rw [if_pos rfl]
        refine .ofHold rfl ?_ ?_ ?_
        · refine .headers hparsed hheaders hleading' hfront ?_ hforwarded ?_
          · rw [← hbytes, List.append_assoc]
          · intro _
            exact htotal
        · intro hnil
          exact hdata (List.append_eq_nil_iff.1 hnil).2
        · change (guard.heldFin || fin) = fin
          rw [hheldFin, Bool.false_or]
    | false =>
        have hnoneHeld : guard.heldData = [] := by
          by_contra hne
          exact absurd (hwaits hne) Bool.false_ne_true
        rw [if_neg Bool.false_ne_true]
        rw [hnoneHeld, List.append_nil] at hbytes
        refine .ofAll ?_ ?_ hheldFin ?_
        · refine .headers hparsed hheaders hleading' hfront ?_ ?_ ?_
          · rw [hnoneHeld, List.append_nil, hbytes]
          · rw [hforwarded, List.length_append]
            omega
          · intro hne
            exact absurd hnoneHeld hne
        · intro hblocked
          exact absurd hblocked Bool.false_ne_true
        · intro _
          simp [parked, hfront, hnoneHeld]

/-- New bytes of a stream whose FIN is still to come. -/
theorem Follows.takeData {guard : HeadersFrameGuard} {passed received : Bytes}
    (h : Follows guard passed received false) (hheldFin : guard.heldFin = false) {blocked : Bool}
    (hwaits : guard.heldData ≠ [] → blocked = true) {data : Bytes} (hdata : data ≠ []) (fin : Bool) :
    Takes passed received data blocked fin (guard.takeData blocked data fin) := by
  cases h with
  | unread hparsed hheader hfront hheld hpassed =>
      subst hpassed
      unfold HeadersFrameGuard.takeData
      rw [hparsed, Bool.not_false, if_pos rfl]
      by_cases hempty : guard.parsePrefix = []
      · rw [if_pos hempty]
        rw [hempty] at hfront
        subst hfront
        exact takeFirst_takes hparsed hheld hheldFin data blocked fin
      · rw [if_neg hempty]
        subst hfront
        exact takeMore_takes hparsed hheader hheld hheldFin data blocked fin
  | cutOff hfin hparsed hheader hfront hheld hpassed => exact absurd hfin Bool.false_ne_true
  | other hparsed hheaders hheader hleading hfront hheld hpassed =>
      have hleading' : leadingHeaders (received ++ data) = none := by
        rw [leadingHeaders_append data hheader, hleading]
      unfold HeadersFrameGuard.takeData
      simp only [hparsed, hheaders, Bool.not_true, Bool.not_false, Bool.false_eq_true, if_false,
        if_true]
      subst hpassed
      refine .ofAll (.other hparsed hheaders ?_ hleading' hfront hheld rfl) ?_ hheldFin ?_
      · rcases Option.ne_none_iff_exists'.1 hheader with ⟨r, hr⟩
        rw [tryParseH3FrameHeader_append data hr]
        exact Option.some_ne_none _
      · intro _ total htotal
        rw [hleading'] at htotal
        cases htotal
      · intro _
        simp [parked, hfront, hheld]
  | headers hparsed hheaders hleading hfront hbytes hforwarded hheld =>
      exact takeHeaders_takes hparsed hheaders hleading hfront hbytes hforwarded hheld hheldFin
        hwaits hdata fin

end HeadersFrameGuard

end H3
end WebTransport
