import WebTransport.Data.History
import WebTransport.Quic.Evolution

/-!
# Quic.Retention — stream bytes from the queue to the acknowledgement

A payload waits in `stream_buffers_`, is offered to ngtcp2 by `send` and, as far as it was taken, kept
in `stream_unacked_` until it is acknowledged: ngtcp2 reads it there again when it retransmits.  The
log of a connection says what was queued, offered and acknowledged; the results compare the two maps
with it, stream by stream.
-/

namespace WebTransport
namespace Quic

open QuicConnection

variable {N : Ngtcp2}

/-! ## Histories -/

namespace Happening

def streamId : Happening → Int
  | .opened streamId => streamId
  | .queued streamId _ => streamId
  | .wrote streamId _ _ _ _ => streamId
  | .acked streamId _ _ => streamId
  | .ended streamId => streamId
  | .closed streamId => streamId

/-- The stream is opened, reset, closed, or ngtcp2 refuses its data for good. -/
def restarts (streamId : Int) : Happening → Bool
  | .opened id => id = streamId
  | .ended id => id = streamId
  | .closed id => id = streamId
  | .wrote id _ _ nwrite _ =>
      id = streamId ∧ (nwrite = errStreamShutWr ∨ nwrite = errStreamNotFound)
  | _ => false

/-- The stream is opened or closed. -/
def replaces (streamId : Int) : Happening → Bool
  | .opened id => id = streamId
  | .closed id => id = streamId
  | _ => false

/-- The payload that was queued. -/
def payload (streamId : Int) : Happening → Option StreamData
  | .queued id payload => if id = streamId then some payload else none
  | _ => none

/-- The bytes ngtcp2 took. -/
def taken (streamId : Int) : Happening → Bytes
  | .wrote id offered _ _ ndatalen => if id = streamId then offered.take ndatalen.toNat else []
  | _ => []

/-- The number of bytes that were acknowledged. -/
def released (streamId : Int) : Happening → Nat
  | .acked id _ datalen => if id = streamId then datalen else 0
  | _ => 0

end Happening

/-- The payloads of a stream that were queued. -/
def queued (streamId : Int) (log : List Happening) : List StreamData :=
  log.filterMap (Happening.payload streamId)

/-- The bytes of a stream that ngtcp2 accepted. -/
def accepted (streamId : Int) (log : List Happening) : Bytes :=
  log.flatMap (Happening.taken streamId)

/-- How many bytes of a stream were acknowledged. -/
def acknowledged (streamId : Int) (log : List Happening) : Nat :=
  (log.map (Happening.released streamId)).sum

/-- The bytes of payloads or buffers. -/
def bytesOf (payloads : List StreamData) : Bytes := payloads.flatMap StreamData.data

@[simp] theorem bytesOf_nil : bytesOf [] = [] := rfl

@[simp] theorem bytesOf_cons (payload : StreamData) (payloads : List StreamData) :
    bytesOf (payload :: payloads) = payload.data ++ bytesOf payloads := rfl

@[simp] theorem bytesOf_append (payloads more : List StreamData) :
    bytesOf (payloads ++ more) = bytesOf payloads ++ bytesOf more := List.flatMap_append

/-! ## Payloads that are handed over piece by piece -/

/-- `taken` is what was handed over of `payloads`, and `buffers` is what is left. -/
inductive Progress (payloads : List StreamData) (taken : Bytes) : List StreamData → Prop
  | drained (htaken : taken = bytesOf payloads) : Progress payloads taken []
  | waiting {front rest : List StreamData} {payload : StreamData} {begun left : Bytes}
      (hpayloads : payloads = front ++ payload :: rest) (hpayload : payload.data = begun ++ left)
      (htaken : taken = bytesOf front ++ begun) :
      Progress payloads taken (⟨left, payload.fin⟩ :: rest)

namespace Progress

variable {payloads buffers rest : List StreamData} {taken : Bytes} {buf : StreamData}

/-- Nothing of the payloads is lost, doubled or shuffled. -/
theorem complete (h : Progress payloads taken buffers) :
    taken ++ bytesOf buffers = bytesOf payloads := by
  cases h with
  | drained htaken => simp [htaken]
  | waiting hpayloads hpayload htaken => simp [hpayloads, hpayload, htaken]

theorem push (h : Progress payloads taken buffers) (payload : StreamData) :
    Progress (payloads ++ [payload]) taken (buffers ++ [payload]) := by
  cases h with
  | drained htaken =>
      have hnone : taken = bytesOf payloads ++ [] := by
        rw [htaken, List.append_nil]
      exact .waiting rfl rfl hnone
  | @waiting front rest first begun left hpayloads hpayload htaken =>
      have hmore : payloads ++ [payload] = front ++ first :: (rest ++ [payload]) := by
        simp [hpayloads]
      exact .waiting hmore hpayload htaken

theorem consume (h : Progress payloads taken (buf :: rest)) (ndatalen : Int) :
    Progress payloads (taken ++ buf.data.take ndatalen.toNat)
      (consumeFront buf rest ndatalen) := by
  cases h with
  | @waiting front _ payload begun left hpayloads hpayload htaken =>
      simp only [consumeFront]
      split_ifs with hpos hempty
      · -- the rest of the payload was taken
        have hall : left.take ndatalen.toNat = left := by
          rw [List.isEmpty_iff, List.drop_eq_nil_iff] at hempty
          exact List.take_of_length_le hempty
        have hdone : taken ++ left = bytesOf (front ++ [payload]) := by
          simp [htaken, hpayload]
        rw [hall, hdone]
        have hsplit : payloads = (front ++ [payload]) ++ rest := by
          simp [hpayloads]
        cases rest with
        | nil =>
            rw [hsplit, List.append_nil]
            exact .drained rfl
        | cons next rest => exact .waiting hsplit rfl (List.append_nil _).symm
      · have hpieces : payload.data =
            (begun ++ left.take ndatalen.toNat) ++ left.drop ndatalen.toNat := by
          rw [List.append_assoc, List.take_append_drop, hpayload]
        have hmore : taken ++ left.take ndatalen.toNat =
            bytesOf front ++ (begun ++ left.take ndatalen.toNat) := by
          rw [htaken, List.append_assoc]
        exact .waiting hpayloads hpieces hmore
      · have hnone : ndatalen.toNat = 0 := by
          omega
        rw [hnone, List.take_zero, List.append_nil]
        exact .waiting hpayloads hpayload htaken

end Progress

/-! ## One stream -/

/-- What a connection keeps for a stream. -/
structure Slot where
  buffers : List StreamData
  chunks : List Bytes
  acked : Nat

namespace QuicConnection

def slot (s : QuicConnection N) (streamId : Int) : Slot where
  buffers := s.buffers streamId
  chunks := (s.streamUnacked.find? streamId).getD []
  acked := (s.streamAckedOffset.find? streamId).getD 0

end QuicConnection

/-- What a happening does to a stream. -/
inductive SlotChange (streamId : Int) : Slot → Happening → Slot → Prop
  | opened {slot : Slot} : SlotChange streamId slot (.opened streamId) { slot with buffers := [] }
  | queued {slot : Slot} {payload : StreamData} :
      SlotChange streamId slot (.queued streamId payload)
        { slot with buffers := slot.buffers ++ [payload] }
  | wrote {buf : StreamData} {rest : List StreamData} {chunks : List Bytes} {acked : Nat}
      {nwrite ndatalen : Int} (hlen : ndatalen ≤ buf.data.length)
      (htaken : 0 < ndatalen → 0 ≤ nwrite ∨ nwrite = errWriteMore) :
      SlotChange streamId ⟨buf :: rest, chunks, acked⟩
        (.wrote streamId buf.data buf.fin nwrite ndatalen)
        ⟨buffersAfter buf rest nwrite ndatalen,
          if 0 < ndatalen then chunks ++ [resize buf.data ndatalen.toNat] else chunks, acked⟩
  | acked {slot : Slot} {offset datalen : Nat} :
      SlotChange streamId slot (.acked streamId offset datalen)
        { slot with
            acked := (releaseChunks (offset + datalen) slot.acked slot.chunks).1
            chunks := (releaseChunks (offset + datalen) slot.acked slot.chunks).2 }
  | ended {slot : Slot} : SlotChange streamId slot (.ended streamId) { slot with buffers := [] }
  | closed {slot : Slot} : SlotChange streamId slot (.closed streamId) ⟨[], [], 0⟩
  | elsewhere {slot : Slot} {happening : Happening} (hother : happening.streamId ≠ streamId) :
      SlotChange streamId slot happening slot

/-- ngtcp2 takes no more than it is offered, and reports an error only when it took nothing. -/
def Ngtcp2.WritesWithin (N : Ngtcp2) : Prop :=
  ∀ {conn path streamId data fin more now conn' written},
    N.writevStream conn path streamId data fin more now = (conn', written) →
      written.ndatalen ≤ data.length ∧
        (0 < written.ndatalen → 0 ≤ written.nwrite ∨ written.nwrite = errWriteMore)

/-- What is logged between `s` and `s'` is what happened to the stream. -/
def Logged (streamId : Int) (s s' : QuicConnection N) : Prop :=
  ∃ more, s'.log = s.log ++ more ∧ Path (SlotChange streamId) (s.slot streamId) more (s'.slot streamId)

namespace Logged

variable {streamId : Int} {s s' s'' : QuicConnection N}

theorem same (hlog : s'.log = s.log) (hslot : s'.slot streamId = s.slot streamId) :
    Logged streamId s s' :=
  ⟨[], by rw [hlog, List.append_nil], hslot.symm⟩

theorem refl (s : QuicConnection N) : Logged streamId s s := same rfl rfl

theorem trans (h : Logged streamId s s') (h' : Logged streamId s' s'') :
    Logged streamId s s'' := by
  rcases h with ⟨more, hlog, hpath⟩
  rcases h' with ⟨more', hlog', hpath'⟩
  refine ⟨more ++ more', ?_, hpath.join hpath'⟩
  rw [hlog', hlog, List.append_assoc]

theorem one {happening : Happening} (hlog : s'.log = s.log ++ [happening])
    (hchange : SlotChange streamId (s.slot streamId) happening (s'.slot streamId)) :
    Logged streamId s s' :=
  ⟨[happening], hlog, Path.one hchange⟩

/-- A happening of another stream. -/
theorem other {happening : Happening} (hlog : s'.log = s.log ++ [happening])
    (hother : happening.streamId ≠ streamId) (hslot : s'.slot streamId = s.slot streamId) :
    Logged streamId s s' := by
  apply one hlog
  rw [hslot]
  exact .elsewhere hother

end Logged

namespace QuicConnection

variable {streamId : Int}

theorem slot_ext {s s' : QuicConnection N} (hbuffers : s'.streamBuffers.find? streamId =
      s.streamBuffers.find? streamId)
    (hunacked : s'.streamUnacked.find? streamId = s.streamUnacked.find? streamId)
    (hacked : s'.streamAckedOffset.find? streamId = s.streamAckedOffset.find? streamId) :
    s'.slot streamId = s.slot streamId := by
  simp only [slot, buffers, hbuffers, hunacked, hacked]

theorem resetBuffers_logged (s : QuicConnection N) (id : Int) :
    Logged streamId s (s.resetBuffers id) := by
  have hlog : (s.resetBuffers id).log = s.log ++ [.opened id] := rfl
  by_cases hid : id = streamId
  · subst hid
    apply Logged.one hlog
    have hslot : (s.resetBuffers id).slot id = { s.slot id with buffers := [] } := by
      simp [slot, resetBuffers, record, buffers]
    rw [hslot]
    exact .opened
  · apply Logged.other hlog hid
    exact slot_ext (OrdMap.find?_insert_ne _ _ (Ne.symm hid)) rfl rfl

theorem forgetStream_logged (s : QuicConnection N) (id : Int) :
    Logged streamId s (s.forgetStream id) := by
  have hlog : (s.forgetStream id).log = s.log ++ [.closed id] := rfl
  by_cases hid : id = streamId
  · subst hid
    apply Logged.one hlog
    have hslot : (s.forgetStream id).slot id = ⟨[], [], 0⟩ := by
      simp [slot, forgetStream, record, buffers]
    rw [hslot]
    exact .closed
  · apply Logged.other hlog hid
    exact slot_ext (OrdMap.find?_erase_ne _ (Ne.symm hid)) (OrdMap.find?_erase_ne _ (Ne.symm hid))
      (OrdMap.find?_erase_ne _ (Ne.symm hid))

theorem eraseBuffers_logged (s : QuicConnection N) (id : Int) :
    Logged streamId s (s.eraseBuffers id) := by
  have hlog : (s.eraseBuffers id).log = s.log ++ [.ended id] := rfl
  by_cases hid : id = streamId
  · subst hid
    apply Logged.one hlog
    have hslot : (s.eraseBuffers id).slot id = { s.slot id with buffers := [] } := by
      simp [slot, eraseBuffers, record, buffers]
    rw [hslot]
    exact .ended
  · apply Logged.other hlog hid
    exact slot_ext (OrdMap.find?_erase_ne _ (Ne.symm hid)) rfl rfl

theorem acked_logged (s : QuicConnection N) (id : Int) (offset datalen : Nat) :
    Logged streamId s
      ((s.ackedStreamDataOffsetCb id offset datalen).record (.acked id offset datalen)) := by
  have hlog : ((s.ackedStreamDataOffsetCb id offset datalen).record
      (.acked id offset datalen)).log = s.log ++ [.acked id offset datalen] := by
    simp only [record, ackedStreamDataOffsetCb]
    split <;> rfl
  by_cases hid : id = streamId
  · subst hid
    apply Logged.one hlog
    have hslot : ((s.ackedStreamDataOffsetCb id offset datalen).record
        (.acked id offset datalen)).slot id =
        { s.slot id with
            acked := (releaseChunks (offset + datalen) (s.slot id).acked (s.slot id).chunks).1
            chunks := (releaseChunks (offset + datalen) (s.slot id).acked (s.slot id).chunks).2 } := by
      cases hchunks : s.streamUnacked.find? id with
      | none =>
          -- nothing is kept, so there is nothing to release
          simp [slot, record, ackedStreamDataOffsetCb, hchunks, releaseChunks, buffers]
      | some chunks =>
          simp only [slot, record, ackedStreamDataOffsetCb, hchunks, buffers,
            OrdMap.find?_insert_self, Option.getD_some]
          split_ifs with hempty
          · simp [List.isEmpty_iff.1 hempty]
          · simp
    rw [hslot]
    exact .acked
  · apply Logged.other hlog hid
    unfold ackedStreamDataOffsetCb
    cases hchunks : s.streamUnacked.find? id with
    | none => rfl
    | some chunks =>
        refine slot_ext rfl ?_ (OrdMap.find?_insert_ne _ _ (Ne.symm hid))
        simp only [record]
        split_ifs
        · exact OrdMap.find?_erase_ne _ (Ne.symm hid)
        · exact OrdMap.find?_insert_ne _ _ (Ne.symm hid)

theorem writeFront_logged (hN : N.WritesWithin) (s : QuicConnection N) {id : Int}
    {buf : StreamData} {rest : List StreamData} (hbuffers : s.buffers id = buf :: rest) (more : Bool)
    (now : Nat) : Logged streamId s (s.writeFront id buf rest more now).1 := by
  rcases hwrite : N.writevStream s.conn s.path id buf.data buf.fin more now with ⟨conn, written⟩
  rcases hN hwrite with ⟨hlen, htaken⟩
  have hlog : (s.writeFront id buf rest more now).1.log =
      s.log ++ [.wrote id buf.data buf.fin written.nwrite written.ndatalen] := by
    simp only [writeFront, hwrite, record]
  by_cases hid : id = streamId
  · subst hid
    apply Logged.one hlog
    have hslot : (s.writeFront id buf rest more now).1.slot id =
        ⟨buffersAfter buf rest written.nwrite written.ndatalen,
          if 0 < written.ndatalen then (s.slot id).chunks ++ [resize buf.data written.ndatalen.toNat]
          else (s.slot id).chunks, (s.slot id).acked⟩ := by
      simp only [writeFront, hwrite, record, slot, buffers, OrdMap.find?_insert_self,
        Option.getD_some, hold]
      split_ifs <;> simp
    have hbefore : s.slot id = ⟨buf :: rest, (s.slot id).chunks, (s.slot id).acked⟩ := by
      simp only [slot, hbuffers]
    rw [hslot, hbefore]
    exact .wrote hlen htaken
  · apply Logged.other hlog hid
    refine slot_ext ?_ ?_ rfl
    · simp only [writeFront, hwrite, record]
      exact OrdMap.find?_insert_ne _ _ (Ne.symm hid)
    · simp only [writeFront, hwrite, record, hold]
      split_ifs <;> exact OrdMap.find?_insert_ne _ _ (Ne.symm hid)

theorem sendStreamData_logged (s : QuicConnection N) (id : Int) (data : Bytes) (fin : Bool) :
    Logged streamId s (s.sendStreamData id data fin) := by
  by_cases hclosed : s.closed = true
  · simp only [sendStreamData, if_pos hclosed]
    exact Logged.refl s
  · have hlog : (s.sendStreamData id data fin).log = s.log ++ [.queued id ⟨data, fin⟩] := by
      simp only [sendStreamData, if_neg hclosed, record]
    by_cases hid : id = streamId
    · subst hid
      apply Logged.one hlog
      have hslot : (s.sendStreamData id data fin).slot id =
          { s.slot id with buffers := (s.slot id).buffers ++ [⟨data, fin⟩] } := by
        simp only [sendStreamData, if_neg hclosed, record, slot, buffers, OrdMap.find?_insert_self,
          Option.getD_some]
      rw [hslot]
      exact .queued
    · apply Logged.other hlog hid
      refine slot_ext ?_ ?_ ?_ <;> simp only [sendStreamData, if_neg hclosed, record]
      exact OrdMap.find?_insert_ne _ _ (Ne.symm hid)

theorem evolves_logged (hN : N.WritesWithin) : Evolves (@Logged N streamId) where
  trans := Logged.trans
  same := fun hbuffers hunacked hacked hlog =>
    Logged.same hlog (slot_ext (by rw [hbuffers]) (by rw [hunacked]) (by rw [hacked]))
  resetBuffers := resetBuffers_logged
  forgetStream := forgetStream_logged
  eraseBuffers := eraseBuffers_logged
  acked := acked_logged
  writeFront := fun s _ _ _ more now hbuffers => writeFront_logged hN s hbuffers more now

/-- The log of a connection is the history of each of its streams. -/
theorem run_logged (hN : N.WritesWithin) {conn : N.Conn} {path : Ngtcp2Path N.Addr}
    {enableDatagram early : Bool} {turns : List (Turn N.Addr)} {s : QuicConnection N}
    (hturns : Path Takes (create conn path enableDatagram early) turns s) :
    Path (SlotChange streamId) ⟨[], [], 0⟩ s.log (s.slot streamId) := by
  have hinv : Logged streamId (create conn path enableDatagram early) s := by
    refine Path.invariant (Logged streamId (create conn path enableDatagram early)) ?_ hturns
      (Logged.refl _)
    intro a b turn ha hturn
    have hb : b = (a.step turn.now turn.input).1 := (congrArg Prod.fst hturn).symm
    rw [hb]
    refine ha.trans ((evolves_logged hN).step a turn.now turn.input ?_)
    intro id data fin _
    exact sendStreamData_logged a id data fin
  rcases hinv with ⟨more, hlog, hpath⟩
  have hmore : s.log = more := hlog
  rw [hmore]
  exact hpath

end QuicConnection

/-! ## The history of a stream and what is kept of it -/

section Stream

variable {streamId : Int} {slot slot' : Slot} {log : List Happening} {happening : Happening}

theorem queued_concat (log : List Happening) (happening : Happening) :
    queued streamId (log ++ [happening]) =
      queued streamId log ++ (happening.payload streamId).toList := by
  simp only [queued, List.filterMap_append]
  cases hpayload : happening.payload streamId <;> simp [hpayload]

theorem accepted_concat (log : List Happening) (happening : Happening) :
    accepted streamId (log ++ [happening]) =
      accepted streamId log ++ happening.taken streamId := by
  simp [accepted]

theorem acknowledged_concat (log : List Happening) (happening : Happening) :
    acknowledged streamId (log ++ [happening]) =
      acknowledged streamId log + happening.released streamId := by
  simp [acknowledged]

/-- The buffers are what is left of the payloads since the stream was opened. -/
def Handed (streamId : Int) (log : List Happening) (slot : Slot) : Prop :=
  Progress (queued streamId (since (Happening.restarts streamId) log))
    (accepted streamId (since (Happening.restarts streamId) log)) slot.buffers

theorem Handed.restart (h : happening.restarts streamId = true) (hempty : slot.buffers = []) :
    Handed streamId (log ++ [happening]) slot := by
  simp only [Handed, since_concat, h, if_true, hempty]
  exact .drained rfl

/-- A happening of no consequence for the buffers. -/
theorem Handed.pass (h : Handed streamId log slot) (hrestarts : happening.restarts streamId = false)
    (hpayload : happening.payload streamId = none) (htaken : happening.taken streamId = [])
    (hsame : slot'.buffers = slot.buffers) : Handed streamId (log ++ [happening]) slot' := by
  simpa [Handed, since_concat, hrestarts, queued_concat, accepted_concat, hpayload, htaken,
    hsame] using h

theorem Handed.step (h : Handed streamId log slot) (hchange : SlotChange streamId slot happening slot') :
    Handed streamId (log ++ [happening]) slot' := by
  cases hchange with
  | opened => exact Handed.restart (by simp [Happening.restarts]) rfl
  | ended => exact Handed.restart (by simp [Happening.restarts]) rfl
  | closed => exact Handed.restart (by simp [Happening.restarts]) rfl
  | @queued slot payload =>
      have hpush := h.push payload
      simpa [Handed, since_concat, Happening.restarts, queued_concat, accepted_concat,
        Happening.payload, Happening.taken] using hpush
  | @wrote buf rest chunks acked nwrite ndatalen hlen htaken =>
      by_cases hrefused : nwrite = errStreamShutWr ∨ nwrite = errStreamNotFound
      · refine Handed.restart (by simp [Happening.restarts, hrefused]) ?_
        rcases hrefused with rfl | rfl <;> rfl
      · have hnone : ¬ (0 ≤ nwrite ∨ nwrite = errWriteMore) → ndatalen.toNat = 0 := by
          intro herror
          by_contra hpos
          exact herror (htaken (by omega))
        have hconsume := h.consume ndatalen
        have hbuffers : buffersAfter buf rest nwrite ndatalen = consumeFront buf rest ndatalen := by
          simp only [buffersAfter, if_neg hrefused]
          split_ifs with hneg hmore
          · rfl
          · have hzero := hnone (by omega)
            have hnot : ¬ 0 < ndatalen := by omega
            simp only [consumeFront, if_neg hnot]
          · rfl
        simpa [Handed, since_concat, Happening.restarts, hrefused, queued_concat, accepted_concat,
          Happening.payload, Happening.taken, hbuffers] using hconsume
  | acked =>
      exact h.pass (by simp [Happening.restarts]) (by simp [Happening.payload])
        (by simp [Happening.taken]) rfl
  | elsewhere hother =>
      cases happening <;> simp only [Happening.streamId] at hother <;>
        exact h.pass (by simp [Happening.restarts, hother]) (by simp [Happening.payload, hother])
          (by simp [Happening.taken, hother]) rfl

theorem releaseChunks_spec (releaseUpTo acked : Nat) (chunks : List Bytes) :
    ∃ released, (releaseChunks releaseUpTo acked chunks).1 = acked + released ∧
      (releaseChunks releaseUpTo acked chunks).2.flatten = chunks.flatten.drop released ∧
      released ≤ chunks.flatten.length ∧ (released = 0 ∨ acked + released ≤ releaseUpTo) := by
  induction chunks generalizing acked with
  | nil => exact ⟨0, by simp [releaseChunks]⟩
  | cons chunk chunks ih =>
      by_cases hfits : acked + chunk.length ≤ releaseUpTo
      · rcases ih (acked + chunk.length) with ⟨released, hacked, hrest, hlen, hbound⟩
        refine ⟨chunk.length + released, ?_, ?_, ?_, ?_⟩
        · simp only [releaseChunks, if_pos hfits, hacked]
          omega
        · simp only [releaseChunks, if_pos hfits, hrest, List.flatten_cons, List.drop_append]
          have hpast : chunk.drop (chunk.length + released) = [] :=
            List.drop_eq_nil_of_le (by omega)
          have hindex : chunk.length + released - chunk.length = released := by omega
          rw [hpast, hindex, List.nil_append]
        · simp only [List.flatten_cons, List.length_append]
          omega
        · rcases hbound with rfl | hbound
          · exact Or.inr hfits
          · exact Or.inr (by omega)
      · exact ⟨0, by simp [releaseChunks, hfits]⟩

/-- The chunks are `stale`, left from an earlier stream of the same id, and the bytes accepted since,
without the first `released` bytes; no more were released than acknowledged. -/
def Held (streamId : Int) (log : List Happening) (slot : Slot) : Prop :=
  ∃ stale base released,
    let recent := since (Happening.replaces streamId) log
    slot.chunks.flatten = (stale ++ accepted streamId recent).drop released ∧
      released ≤ (stale ++ accepted streamId recent).length ∧ slot.acked = base + released ∧
      released ≤ acknowledged streamId recent

/-- Acknowledgements come in order, without gaps. -/
def AcksContiguous (log : List Happening) : Prop :=
  ∀ past streamId offset datalen rest, log = past ++ .acked streamId offset datalen :: rest →
    offset = acknowledged streamId (since (Happening.replaces streamId) past)

theorem AcksContiguous.front {rest : List Happening} (h : AcksContiguous (log ++ rest)) :
    AcksContiguous log := by
  intro past streamId offset datalen after heq
  apply h past streamId offset datalen (after ++ rest)
  rw [heq, List.append_assoc, List.cons_append]

theorem AcksContiguous.concat (h : AcksContiguous log)
    (hlast : ∀ streamId offset datalen, happening = .acked streamId offset datalen →
      offset = acknowledged streamId (since (Happening.replaces streamId) log)) :
    AcksContiguous (log ++ [happening]) := by
  intro past streamId offset datalen rest heq
  rcases List.eq_nil_or_concat rest with rfl | ⟨rest, last, rfl⟩
  · rcases List.append_inj' heq rfl with ⟨rfl, hsame⟩
    exact hlast _ _ _ (by simpa using hsame)
  · rw [List.concat_eq_append, ← List.cons_append, ← List.append_assoc] at heq
    exact h _ _ _ _ _ (List.append_inj' heq rfl).1

theorem Held.replace (h : happening.replaces streamId = true) :
    Held streamId (log ++ [happening]) slot := by
  refine ⟨slot.chunks.flatten, slot.acked, 0, ?_⟩
  simp [since_concat, h, accepted, acknowledged]

/-- A happening of no consequence for the chunks. -/
theorem Held.pass (h : Held streamId log slot) (hreplaces : happening.replaces streamId = false)
    (htaken : happening.taken streamId = []) (hreleased : happening.released streamId = 0)
    (hchunks : slot'.chunks = slot.chunks) (hacked : slot'.acked = slot.acked) :
    Held streamId (log ++ [happening]) slot' := by
  simpa [Held, since_concat, hreplaces, accepted_concat, acknowledged_concat, htaken, hreleased,
    hchunks, hacked] using h

theorem resize_within {data : Bytes} {size : Nat} (h : size ≤ data.length) :
    resize data size = data.take size := by
  simp [resize, Nat.sub_eq_zero_of_le h]

theorem Held.step (h : Held streamId log slot) (hchange : SlotChange streamId slot happening slot')
    (hacks : AcksContiguous (log ++ [happening])) : Held streamId (log ++ [happening]) slot' := by
  cases hchange with
  | opened => exact Held.replace (by simp [Happening.replaces])
  | closed => exact Held.replace (by simp [Happening.replaces])
  | ended =>
      exact h.pass (by simp [Happening.replaces]) (by simp [Happening.taken])
        (by simp [Happening.released]) rfl rfl
  | queued =>
      exact h.pass (by simp [Happening.replaces]) (by simp [Happening.taken])
        (by simp [Happening.released]) rfl rfl
  | @wrote buf rest chunks acked nwrite ndatalen hlen htaken =>
      by_cases hpos : 0 < ndatalen
      · rcases h with ⟨stale, base, released, hchunks, hlength, hbase, hreleased⟩
        refine ⟨stale, base, released, ?_⟩
        have hresize : resize buf.data ndatalen.toNat = buf.data.take ndatalen.toNat :=
          resize_within (by omega)
        simp only [since_concat, Happening.replaces, Bool.false_eq_true, if_false, accepted_concat,
          acknowledged_concat, Happening.taken, Happening.released, if_true, if_pos hpos, hresize]
        refine ⟨?_, ?_, hbase, hreleased⟩
        · rw [List.flatten_append, List.flatten_singleton, hchunks, ← List.append_assoc,
            List.drop_append_of_le_length hlength]
        · rw [← List.append_assoc, List.length_append]
          omega
      · have hnone : ndatalen.toNat = 0 := by omega
        refine h.pass (by simp [Happening.replaces]) (by simp [Happening.taken, hnone])
          (by simp [Happening.released]) ?_ rfl
        simp only [if_neg hpos]
  | @acked slot offset datalen =>
      rcases h with ⟨stale, base, released, hchunks, hlength, hbase, hreleased⟩
      rcases releaseChunks_spec (offset + datalen) slot.acked slot.chunks with
        ⟨more, hacked, hrest, hmore, hbound⟩
      have hoffset := hacks log streamId offset datalen [] rfl
      refine ⟨stale, base, released + more, ?_⟩
      simp only [since_concat, Happening.replaces, Bool.false_eq_true, if_false, accepted_concat,
        acknowledged_concat, Happening.taken, Happening.released, if_true, List.append_nil]
      refine ⟨?_, ?_, ?_, ?_⟩
      · rw [hrest, hchunks, List.drop_drop]
      · rw [hchunks, List.length_drop] at hmore
        omega
      · rw [hacked, hbase, Nat.add_assoc]
      · rcases hbound with rfl | hbound <;> omega
  | elsewhere hother =>
      cases happening <;> simp only [Happening.streamId] at hother <;>
        exact h.pass (by simp [Happening.replaces, hother]) (by simp [Happening.taken, hother])
          (by simp [Happening.released, hother]) rfl rfl

theorem Handed.run (hpath : Path (SlotChange streamId) ⟨[], [], 0⟩ log slot) :
    Handed streamId log slot :=
  Path.history (Handed streamId) Handed.step hpath [] (.drained rfl)

theorem Held.run (hpath : Path (SlotChange streamId) ⟨[], [], 0⟩ log slot)
    (hacks : AcksContiguous log) : Held streamId log slot := by
  let Inv : List Happening → Slot → Prop := fun past slot =>
    AcksContiguous past → Held streamId past slot
  have hinv : Inv ([] ++ log) slot := by
    refine Path.history Inv ?_ hpath [] fun _ => ⟨[], 0, 0, by simp [accepted, acknowledged]⟩
    intro past a b happening hpast hchange hacks
    exact (hpast hacks.front).step hchange hacks
  exact hinv hacks

/-- What is accepted and not yet acknowledged is at the end of the kept bytes. -/
theorem Held.unacknowledged (h : Held streamId log slot) :
    (accepted streamId (since (Happening.replaces streamId) log)).drop
        (acknowledged streamId (since (Happening.replaces streamId) log)) <:+
      slot.chunks.flatten := by
  rcases h with ⟨stale, base, released, hchunks, -, -, hreleased⟩
  rw [hchunks, List.drop_append]
  refine List.IsSuffix.trans ?_ (List.suffix_append _ _)
  rw [show acknowledged streamId (since (Happening.replaces streamId) log) =
    (released - stale.length) +
      (acknowledged streamId (since (Happening.replaces streamId) log) -
        (released - stale.length)) by omega, ← List.drop_drop]
  exact List.drop_suffix _ _

/-- A FIN goes with the last bytes of the payload that asked for it. -/
theorem Handed.fin (h : Handed streamId log slot) {offered : Bytes} {nwrite ndatalen : Int}
    (hchange : SlotChange streamId slot (.wrote streamId offered true nwrite ndatalen) slot') :
    let recent := since (Happening.restarts streamId) log
    ∃ front payload behind, queued streamId recent = front ++ payload :: behind ∧
      payload.fin = true ∧ offered <:+ payload.data ∧
      accepted streamId recent ++ offered = bytesOf (front ++ [payload]) := by
  generalize hwrote : Happening.wrote streamId offered true nwrite ndatalen = happening at hchange
  cases hchange with
  | elsewhere hother =>
      subst hwrote
      exact absurd rfl hother
  | @wrote buf rest chunks acked nwrite ndatalen hlen htaken =>
      injection hwrote with _ hdata hfin _ _
      unfold Handed at h
      cases h with
      | @waiting front _ payload begun left hqueued hpayload htaken =>
          refine ⟨front, payload, rest, hqueued, hfin.symm, ?_, ?_⟩
          · rw [hdata, hpayload]
            exact List.suffix_append _ _
          · rw [hdata, htaken]
            simp [hpayload]
  | _ => cases hwrote

end Stream

/-- In every state of a run: what ngtcp2 accepted of a stream and what waits in `stream_buffers_` are
the payloads since it was opened, until it is reset, closed or refused; the FIN was only passed with
the last bytes of a payload that asks for it; and what is accepted and not acknowledged is at the end
of `stream_unacked_`, until the stream is closed or opened again. -/
theorem stream_bytes_kept (hN : N.WritesWithin) {conn : N.Conn} {path : Ngtcp2Path N.Addr}
    {enableDatagram early : Bool} {turns : List (Turn N.Addr)} {s : QuicConnection N}
    (hturns : Path Takes (create conn path enableDatagram early) turns s)
    (hacks : AcksContiguous s.log) (streamId : Int) :
    (let recent := since (Happening.restarts streamId) s.log;
      accepted streamId recent ++ bytesOf (s.buffers streamId) =
        bytesOf (queued streamId recent)) ∧
    (∀ {past offered nwrite ndatalen rest},
      s.log = past ++ .wrote streamId offered true nwrite ndatalen :: rest →
      let recent := since (Happening.restarts streamId) past
      ∃ front payload behind, queued streamId recent = front ++ payload :: behind ∧
        payload.fin = true ∧ offered <:+ payload.data ∧
        accepted streamId recent ++ offered = bytesOf (front ++ [payload])) ∧
    (let recent := since (Happening.replaces streamId) s.log;
      (accepted streamId recent).drop (acknowledged streamId recent) <:+
        ((s.streamUnacked.find? streamId).getD []).flatten) := by
  have hpath : Path (SlotChange streamId) ⟨[], [], 0⟩ s.log (s.slot streamId) :=
    run_logged hN hturns
  refine ⟨(Handed.run hpath).complete, ?_, (Held.run hpath hacks).unacknowledged⟩
  intro past offered nwrite ndatalen rest hsplit
  rw [hsplit] at hpath
  rcases hpath.split with ⟨slot, hpast, slot', hchange, -⟩
  exact (Handed.run hpast).fin hchange

/-- An ngtcp2 that takes two bytes at a time, and reads a datagram as an acknowledgement of as many
bytes of stream 0 as it has; it knows how many were acknowledged. -/
@[reducible] def frugal : Ngtcp2 where
  Conn := Nat
  Addr := Nat
  fillSockaddr := fun _ port => some port
  readPkt := fun acked _ data _ =>
    (acked + data.length, [.ackedStreamDataOffset 0 acked data.length], 0)
  pktRecv := fun acked => acked
  handleExpiry := fun acked _ => (acked, [], 0)
  getExpiry := fun _ => none
  inDrainingPeriod := fun _ => false
  writevStream := fun acked path _ data _ more _ =>
    (acked, ⟨if more then errWriteMore else 1, min 2 data.length, ⟨data.take 2, path⟩⟩)
  finishPacket := fun acked path _ => (acked, 1, ⟨[], path⟩)
  writevDatagram := fun acked path _ _ => (acked, errInvalidState, false, ⟨[], path⟩)
  writePkt := fun acked path _ => (acked, 0, ⟨[], path⟩)
  updatePktTxTime := fun acked _ => acked
  writeConnectionClose := fun acked path _ _ _ => (acked, 0, ⟨[], path⟩)
  getPto := fun _ => 10
  openStream := fun acked _ => (acked, 0, 0)
  shutdownStream := fun acked _ _ => (acked, 0)
  shutdownStreamRead := fun acked _ _ => (acked, 0)
  shutdownStreamWrite := fun acked _ _ => (acked, 0)
  remoteMaxDatagramFrameSize := fun _ => none
  strerror := fun _ => ""

theorem frugal_writesWithin : frugal.WritesWithin := by
  intro conn path streamId data fin more now conn' written hwrite
  cases hwrite
  refine ⟨by simp, fun _ => ?_⟩
  cases more
  · exact Or.inl (Int.one_nonneg)
  · exact Or.inr rfl

/-- Five bytes on a stream: four are taken, two of them acknowledged. -/
def frugalRun : QuicConnection frugal :=
  ((create 0 ⟨1, 2⟩ true true : QuicConnection frugal).run
    [(1, .openStream true), (2, .sendStreamData 0 [1, 2, 3, 4, 5] true), (3, .send),
      (4, .receive ⟨[0, 0], [], 1, [], 2⟩), (5, .send)]).1

theorem stream_bytes_kept_frugal :
    (frugalRun.buffers 0 = [⟨[5], true⟩] ∧ frugalRun.slot 0 = ⟨[⟨[5], true⟩], [[3, 4]], 2⟩) ∧
      accepted 0 (since (Happening.restarts 0) frugalRun.log) ++ [5] = [1, 2, 3, 4, 5] ∧
      [3, 4] <:+ ((frugalRun.streamUnacked.find? 0).getD []).flatten := by
  have hturns := run_path (create 0 ⟨1, 2⟩ true true : QuicConnection frugal)
    [(1, .openStream true), (2, .sendStreamData 0 [1, 2, 3, 4, 5] true), (3, .send),
      (4, .receive ⟨[0, 0], [], 1, [], 2⟩), (5, .send)]
  have hacks : AcksContiguous frugalRun.log := by
    have hlog : frugalRun.log =
        [.opened 0, .queued 0 ⟨[1, 2, 3, 4, 5], true⟩, .wrote 0 [1, 2, 3, 4, 5] true 1 2] ++
          [.acked 0 0 2] ++ [.wrote 0 [3, 4, 5] true 1 2] := rfl
    rw [hlog]
    refine AcksContiguous.concat (AcksContiguous.concat ?_ ?_) (fun _ _ _ h => nomatch h)
    · intro past streamId offset datalen rest heq
      have hmem : Happening.acked streamId offset datalen ∈
          [.opened 0, .queued 0 ⟨[1, 2, 3, 4, 5], true⟩, .wrote 0 [1, 2, 3, 4, 5] true 1 2] := by
        rw [heq]
        exact List.mem_append_right _ List.mem_cons_self
      simp at hmem
    · intro streamId offset datalen heq
      cases heq
      rfl
  have hkept := stream_bytes_kept frugal_writesWithin hturns hacks 0
  exact ⟨⟨rfl, rfl⟩, hkept.1, hkept.2.2⟩

end Quic
end WebTransport
