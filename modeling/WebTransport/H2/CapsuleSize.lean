import WebTransport.Bindings.PythonInput
import WebTransport.H2.Calls
import WebTransport.H2.Flush
import WebTransport.H2.Life

/-!
# H2.CapsuleSize — WT_STREAM capsules and the payload limit of the peer

The bound on what Python passes in is one on the data, the bound of `process_capsules` one on the
payload, and the payload carries the stream id in front of the data.

* `Over`                   : a piece of data that makes its capsule too long;
* `queueOver_cons`         : the pieces the inner loop of `flush_pending_sends` cuts;
* `walk_fits_iff`          : a walk over the streams;
* `stream_capsules_fit_iff`: when every capsule is one that a default peer takes.
-/

namespace WebTransport
namespace H2

open Bindings

/-- The default of `wt_max_capsule_payload_size`, which `kMaxPythonInputBytes` equals. -/
def defaultPayloadLimit : Nat := ({} : H2SessionConfig).wtMaxCapsulePayloadSize

/-- Every capsule with stream data has a payload within the limit. -/
def StreamsFit (cs : List Capsule) : Prop :=
  ∀ c ∈ cs, c.isStream = true → c.payload.length ≤ defaultPayloadLimit

/-- A capsule with `size` bytes for this stream is over the limit. -/
def Over (streamId size : Nat) : Prop := defaultPayloadLimit < quicVarintLength streamId + size

instance (streamId size : Nat) : Decidable (Over streamId size) := by
  unfold Over
  infer_instance

/-- Without data no capsule is over the limit. -/
theorem not_over_zero (streamId : Nat) : ¬ Over streamId 0 := by
  have hlimit : defaultPayloadLimit = 1048576 := rfl
  have hlength : quicVarintLength streamId ≤ 8 := by
    unfold quicVarintLength
    split_ifs <;> omega
  unfold Over
  omega

namespace StreamsFit

variable {cs cs' : List Capsule}

theorem nil : StreamsFit [] := fun _ hmem => absurd hmem List.not_mem_nil

theorem append_iff : StreamsFit (cs ++ cs') ↔ StreamsFit cs ∧ StreamsFit cs' := by
  constructor
  · intro h
    exact ⟨fun c hc => h c (List.mem_append_left _ hc), fun c hc => h c (List.mem_append_right _ hc)⟩
  · rintro ⟨h, h'⟩ c hmem
    rcases List.mem_append.1 hmem with hc | hc
    · exact h c hc
    · exact h' c hc

/-- Capsules without stream data. -/
theorem of_filter (h : cs.filter Capsule.isStream = []) : StreamsFit cs := by
  intro c hmem hstream
  have hkept : c ∈ cs.filter Capsule.isStream := List.mem_filter.2 ⟨hmem, hstream⟩
  rw [h] at hkept
  cases hkept

theorem stream_iff {fin : Bool} {streamId : Nat} {data : Bytes} :
    StreamsFit [.wtStream fin streamId data] ↔ ¬ Over streamId data.length := by
  have hlength : (Capsule.wtStream fin streamId data).payload.length =
      quicVarintLength streamId + data.length := by
    rw [Capsule.payload, List.length_append, varintBytes_length]
  unfold Over
  rw [← hlength, not_lt]
  constructor
  · intro h
    exact h _ (List.mem_singleton_self _) rfl
  · intro h c hmem _
    rw [List.mem_singleton.1 hmem]
    exact h

theorem cons_iff {fin : Bool} {streamId : Nat} {data : Bytes} :
    StreamsFit (.wtStream fin streamId data :: cs) ↔ ¬ Over streamId data.length ∧ StreamsFit cs :=
  append_iff.trans (and_congr_left' stream_iff)

end StreamsFit

namespace WtSessionInfo

variable {w : WtSessionInfo} {streamId : Nat} {info : WtStreamInfo}

/-- A release queues no stream data. -/
theorem streamsFit_maybeReleaseStream (streamId : Nat) (w : WtSessionInfo) :
    StreamsFit (w.maybeReleaseStream streamId).2 := by
  refine StreamsFit.of_filter ?_
  unfold maybeReleaseStream
  cases w.streams.find? streamId with
  | none => rfl
  | some info =>
      dsimp only
      split_ifs
      · rfl
      · unfold replenishStreams
        split_ifs <;> rfl
      · rfl

/-! ## `send_stream_data` -/

/-- The piece that `send_stream_data` sends at once is over the limit. -/
def SendsOver (w : WtSessionInfo) (streamId : Nat) (data : Bytes) : Prop :=
  w.isTerminated = false ∧ ∃ info, w.streams.find? streamId = some info ∧
    isSendableStream info.isLocal info.isUnidirectional = true ∧
    ¬ (info.sendState = .resetSent ∨ info.sendState = .dataSent) ∧ info.pendingSends = [] ∧
    Over streamId (min data.length
      (creditLeft w.bytesSent w.maxDataLocal info.bytesSent info.maxStreamDataLocal))

/-- The prefix that the credit admits, and what is announced behind it. -/
theorem sendBlocked_fits_iff (w : WtSessionInfo) (info : WtStreamInfo) (streamId : Nat)
    (data : Bytes) (fin : Bool) (sessionAvail streamAvail : Nat)
    (hlt : sendableBytes sessionAvail streamAvail < data.length) :
    StreamsFit (w.sendBlocked info streamId data fin sessionAvail streamAvail).2 ↔
      ¬ Over streamId (sendableBytes sessionAvail streamAvail) := by
  unfold sendBlocked
  dsimp only
  generalize sendableBytes sessionAvail streamAvail = sendable at hlt ⊢
  rw [List.append_assoc, StreamsFit.append_iff, StreamsFit.append_iff]
  have hblocked : ∀ (p : Prop) [Decidable p] (c : Capsule), c.isStream = false →
      StreamsFit (if p then [c] else []) := by
    intro p _ c hc
    split_ifs
    · refine StreamsFit.of_filter ?_
      rw [List.filter_singleton, hc]
      rfl
    · exact StreamsFit.nil
  have hrest := And.intro (hblocked ((sendable < data.length ∧ sessionAvail ≤ streamAvail) ∧
      (!w.dataBlockedSent) = true) (.wtDataBlocked w.maxDataLocal) rfl)
    (hblocked ((sendable < data.length ∧ streamAvail ≤ sessionAvail) ∧
      (!info.streamDataBlockedSent) = true)
      (.wtStreamDataBlocked streamId info.maxStreamDataLocal) rfl)
  refine (and_iff_left hrest).trans ?_
  split_ifs with hsome
  · have htake : (data.take sendable).length = sendable := by
      rw [List.length_take]
      omega
    rw [StreamsFit.stream_iff, htake]
  · have hzero : sendable = 0 := by omega
    rw [hzero]
    exact iff_of_true StreamsFit.nil (not_over_zero streamId)

theorem sendWhole_fits_iff (w : WtSessionInfo) (info : WtStreamInfo) (streamId : Nat)
    (data : Bytes) (fin : Bool) :
    StreamsFit (w.sendWhole info streamId data fin).2 ↔ ¬ Over streamId data.length := by
  unfold sendWhole
  dsimp only
  split_ifs
  · rw [Queued.andThen_snd, StreamsFit.append_iff, StreamsFit.stream_iff]
    exact and_iff_left (streamsFit_maybeReleaseStream _ _)
  · exact StreamsFit.stream_iff

/-- What `send_stream_data` sends at once fits exactly when the piece is not over. -/
theorem sendStreamData_fits_iff (w : WtSessionInfo) (streamId : Nat) (data : Bytes) (fin : Bool) :
    StreamsFit (w.sendStreamData streamId data fin).2 ↔ ¬ w.SendsOver streamId data := by
  have hnothing : ∀ {q : Queued}, q.2 = [] → ¬ w.SendsOver streamId data →
      (StreamsFit q.2 ↔ ¬ w.SendsOver streamId data) := by
    intro q hq hnot
    rw [hq]
    exact iff_of_true StreamsFit.nil hnot
  unfold sendStreamData
  by_cases hterm : w.isTerminated = true
  · rw [if_pos hterm]
    refine hnothing rfl ?_
    rintro ⟨hlive, -⟩
    rw [hterm] at hlive
    cases hlive
  rw [if_neg hterm]
  cases hfind : w.streams.find? streamId with
  | none =>
      refine hnothing rfl ?_
      rintro ⟨-, info, hsome, -⟩
      rw [hfind] at hsome
      cases hsome
  | some info =>
      have hiff : w.SendsOver streamId data ↔
          isSendableStream info.isLocal info.isUnidirectional = true ∧
          ¬ (info.sendState = .resetSent ∨ info.sendState = .dataSent) ∧ info.pendingSends = [] ∧
          Over streamId (min data.length
            (creditLeft w.bytesSent w.maxDataLocal info.bytesSent info.maxStreamDataLocal)) := by
        constructor
        · rintro ⟨-, info', hsome, hrest⟩
          rw [hfind] at hsome
          cases hsome
          exact hrest
        · intro hrest
          exact ⟨Bool.eq_false_of_not_eq_true hterm, info, hfind, hrest⟩
      dsimp only
      cases hsendable : isSendableStream info.isLocal info.isUnidirectional with
      | false =>
        refine hnothing rfl fun h => ?_
        rw [(hiff.1 h).1] at hsendable
        cases hsendable
      | true =>
        rw [if_neg (by decide)]
        by_cases hended : info.sendState = .resetSent ∨ info.sendState = .dataSent
        · rw [if_pos hended]
          exact hnothing rfl fun h => (hiff.1 h).2.1 hended
        rw [if_neg hended]
        cases hlast : info.pendingSends.getLast? with
        | some last =>
            have hqueued : info.pendingSends ≠ [] := by
              intro hnil
              rw [hnil] at hlast
              cases hlast
            dsimp only
            split_ifs
            · exact hnothing rfl fun h => hqueued (hiff.1 h).2.2.1
            · exact hnothing rfl fun h => hqueued (hiff.1 h).2.2.1
        | none =>
            have hempty : info.pendingSends = [] := List.getLast?_eq_none_iff.1 hlast
            have hsize : sendableBytes (availableCredit w.bytesSent w.maxDataLocal data.length)
                (availableCredit info.bytesSent info.maxStreamDataLocal data.length) =
                min data.length (creditLeft w.bytesSent w.maxDataLocal info.bytesSent
                  info.maxStreamDataLocal) := by
              rw [availableCredit_eq, availableCredit_eq, sendableBytes_eq]
              unfold creditLeft
              omega
            have hover : ¬ w.SendsOver streamId data ↔ ¬ Over streamId (min data.length
                (creditLeft w.bytesSent w.maxDataLocal info.bytesSent info.maxStreamDataLocal)) := by
              rw [hiff]
              exact not_congr ⟨fun h => h.2.2.2, fun h => ⟨hsendable, hended, hempty, h⟩⟩
            rw [hover]
            dsimp only
            split_ifs with hblocked
            · rw [sendBlocked_fits_iff _ _ _ _ _ _ _ hblocked, hsize]
            · rw [hsize] at hblocked
              have hall : min data.length (creditLeft w.bytesSent w.maxDataLocal info.bytesSent
                  info.maxStreamDataLocal) = data.length := by omega
              rw [sendWhole_fits_iff, hall]

/-! ## `flush_pending_sends` -/

/-- The bytes of queued entries. -/
def queuedBytes (pending : List PendingSend) : Nat := (pending.map fun p => p.data.length).sum

/-- The loop comes to an entry, as all in front of it have data and no FIN, with credit for a piece
that is over the limit. -/
def QueueOver (streamId : Nat) (pending : List PendingSend) (credit : Nat) : Prop :=
  ∃ before front behind, pending = before ++ front :: behind ∧
    (∀ p ∈ before, p.data ≠ [] ∧ p.fin = false) ∧
    Over streamId (min front.data.length (credit - queuedBytes before))

/-- It is the entry in front, or one behind it. -/
theorem queueOver_cons {front : PendingSend} {rest : List PendingSend} {credit : Nat} :
    QueueOver streamId (front :: rest) credit ↔
      Over streamId (min front.data.length credit) ∨
        (front.data ≠ [] ∧ front.fin = false) ∧
          QueueOver streamId rest (credit - front.data.length) := by
  constructor
  · rintro ⟨before, p, behind, hsplit, hpast, hover⟩
    cases before with
    | nil =>
        rw [List.nil_append, List.cons.injEq] at hsplit
        rcases hsplit with ⟨rfl, rfl⟩
        exact Or.inl hover
    | cons first before =>
        rw [List.cons_append, List.cons.injEq] at hsplit
        rcases hsplit with ⟨rfl, rfl⟩
        refine Or.inr ⟨hpast _ List.mem_cons_self, before, p, behind, rfl,
          fun p' hp' => hpast p' (List.mem_cons_of_mem _ hp'), ?_⟩
        have hbytes : queuedBytes (front :: before) = front.data.length + queuedBytes before := by
          unfold queuedBytes
          rw [List.map_cons, List.sum_cons]
        rw [hbytes, ← Nat.sub_sub] at hover
        exact hover
  · rintro (hover | ⟨hfront, before, p, behind, hsplit, hpast, hover⟩)
    · refine ⟨[], front, rest, rfl, fun p hp => absurd hp List.not_mem_nil, ?_⟩
      exact hover
    · refine ⟨front :: before, p, behind, ?_, ?_, ?_⟩
      · rw [hsplit, List.cons_append]
      · intro p' hp'
        rcases List.mem_cons.1 hp' with rfl | hmem
        · exact hfront
        · exact hpast p' hmem
      · have hbytes : queuedBytes (front :: before) = front.data.length + queuedBytes before := by
          unfold queuedBytes
          rw [List.map_cons, List.sum_cons]
        rw [hbytes, ← Nat.sub_sub]
        exact hover

theorem not_queueOver_zero {pending : List PendingSend} : ¬ QueueOver streamId pending 0 := by
  rintro ⟨before, front, behind, -, -, hover⟩
  rw [Nat.zero_sub, Nat.min_zero] at hover
  exact not_over_zero streamId hover

/-- The capsules of the inner loop. -/
theorem flushLoop_fits_iff (streamId sessionLimit streamLimit : Nat) (pending : List PendingSend)
    (sessionSent streamSent : Nat) :
    StreamsFit (flushLoop streamId sessionLimit streamLimit pending sessionSent
        streamSent).capsules ↔
      ¬ QueueOver streamId pending
        (creditLeft sessionSent sessionLimit streamSent streamLimit) := by
  induction pending generalizing sessionSent streamSent with
  | nil =>
      refine iff_of_true StreamsFit.nil ?_
      rintro ⟨before, front, behind, hsplit, -⟩
      exact absurd hsplit.symm (List.append_ne_nil_of_right_ne_nil _ (List.cons_ne_nil _ _))
  | cons front rest ih =>
      rw [flushLoop_cons]
      dsimp only
      generalize hcredit : creditLeft sessionSent sessionLimit streamSent streamLimit = credit
      rw [queueOver_cons, not_or]
      by_cases hempty : front.data = []
      · rw [if_pos (by simp [hempty])]
        refine iff_of_true StreamsFit.nil ⟨?_, fun h => h.1.1 hempty⟩
        rw [hempty]
        exact fun h => not_over_zero streamId (by simpa using h)
      · have hsize : 0 < front.data.length := List.length_pos_of_ne_nil hempty
        by_cases hpart : credit < front.data.length
        · -- The credit ends inside the entry: nothing behind it is sent.
          have hcut : min credit front.data.length = credit := by omega
          have hcut' : min front.data.length credit = credit := by omega
          have hbehind : ¬ ((front.data ≠ [] ∧ front.fin = false) ∧
              QueueOver streamId rest (credit - front.data.length)) := by
            rintro ⟨-, hover⟩
            have hnone : credit - front.data.length = 0 := by omega
            rw [hnone] at hover
            exact not_queueOver_zero hover
          rw [hcut, hcut', and_iff_left hbehind]
          split_ifs with hzero
          · rw [hzero]
            exact iff_of_true StreamsFit.nil (not_over_zero streamId)
          · have htake : (front.data.take credit).length = credit := by
              rw [List.length_take]
              omega
            rw [StreamsFit.stream_iff, htake]
        · have hwhole : min credit front.data.length = front.data.length := by omega
          have hwhole' : min front.data.length credit = front.data.length := by omega
          rw [hwhole, hwhole', if_neg hsize.ne', if_neg (lt_irrefl _)]
          cases hfin : front.fin with
          | true =>
              rw [if_pos rfl, StreamsFit.stream_iff]
              exact (and_iff_left fun h => Bool.false_ne_true h.1.2.symm).symm
          | false =>
              have hleft : creditLeft (sessionSent + front.data.length) sessionLimit
                  (streamSent + front.data.length) streamLimit = credit - front.data.length := by
                rw [← hcredit]
                unfold creditLeft
                omega
              rw [if_neg Bool.false_ne_true]
              dsimp only
              rw [StreamsFit.cons_iff, ih, hleft]
              exact and_congr_right' (not_congr ⟨fun h => ⟨⟨hempty, rfl⟩, h⟩, fun h => h.2⟩)

/-- A stream that finds `left` of the session credit has a piece over the limit. -/
def StreamOver (w : WtSessionInfo) (streamId left : Nat) : Prop :=
  ∃ info, w.streams.find? streamId = some info ∧ info.sendState.sendDone = false ∧
    QueueOver streamId info.pendingSends (min left (info.maxStreamDataLocal - info.bytesSent))

theorem flushStream_fits_iff (w : WtSessionInfo) (streamId : Nat) :
    StreamsFit (w.flushStream streamId).2 ↔ ¬ w.StreamOver streamId w.credit := by
  unfold flushStream
  cases hfind : w.streams.find? streamId with
  | none =>
      refine iff_of_true StreamsFit.nil ?_
      rintro ⟨info, hsome, -⟩
      rw [hfind] at hsome
      cases hsome
  | some info =>
      dsimp only
      cases hdone : info.sendState.sendDone with
      | true =>
          refine iff_of_true StreamsFit.nil ?_
          rintro ⟨info', hsome, hopen, -⟩
          rw [hfind] at hsome
          cases hsome
          rw [hdone] at hopen
          cases hopen
      | false =>
          have hiff : w.StreamOver streamId w.credit ↔ QueueOver streamId info.pendingSends
              (creditLeft w.bytesSent w.maxDataLocal info.bytesSent info.maxStreamDataLocal) := by
            constructor
            · rintro ⟨info', hsome, -, hover⟩
              rw [hfind] at hsome
              cases hsome
              exact hover
            · intro hover
              exact ⟨info, hfind, hdone, hover⟩
          have hloop := flushLoop_fits_iff streamId w.maxDataLocal info.maxStreamDataLocal
            info.pendingSends w.bytesSent info.bytesSent
          rw [← hiff] at hloop
          rw [if_neg Bool.false_ne_true]
          split_ifs
          · rw [Queued.andThen_snd, StreamsFit.append_iff]
            exact (and_iff_left (streamsFit_maybeReleaseStream _ _)).trans hloop
          · exact hloop

/-- The capsules of a walk: each stream finds what the ones in front of it left. -/
theorem walk_fits_iff {ids : List Nat} (hnodup : ids.Nodup) (hstates : w.SendStates) :
    StreamsFit (w.flushWalk ids).2 ↔ ∀ before id behind, ids = before ++ id :: behind →
      ¬ w.StreamOver id (w.credit - w.demands before) := by
  induction ids generalizing w with
  | nil =>
      refine iff_of_true StreamsFit.nil fun before id behind hsplit => ?_
      exact absurd hsplit.symm (List.append_ne_nil_of_right_ne_nil _ (List.cons_ne_nil _ _))
  | cons streamId ids ih =>
      obtain ⟨hfresh, hnodup'⟩ := List.nodup_cons.1 hnodup
      obtain ⟨haside, hsent, -, hstates'⟩ := flushStream_first hstates streamId
      have hfirst := flushStream_fits_iff w streamId
      unfold flushWalk
      rw [Queued.andThen_snd, StreamsFit.append_iff, hfirst, ih hnodup' hstates']
      generalize (w.flushStream streamId).1 = w₁ at haside hsent
      have hsame : ∀ id ∈ ids, w₁.streams.find? id = w.streams.find? id := by
        intro id hid
        refine haside.others id ?_
        rintro rfl
        exact hfresh hid
      have hcredit : w₁.credit = w.credit - w.demandOf streamId := by
        unfold credit at hsent ⊢
        rw [haside.limit, hsent]
        omega
      -- What a later stream finds is the same, counted from before or from behind the first one.
      have hlater : ∀ before id behind, ids = before ++ id :: behind →
          (w₁.StreamOver id (w₁.credit - w₁.demands before) ↔
            w.StreamOver id (w.credit - w.demands (streamId :: before))) := by
        rintro before id behind rfl
        have hid : id ∈ before ++ id :: behind := by simp
        have hbefore : w₁.demands before = w.demands before :=
          demands_congr fun id hid => hsame id (List.mem_append_left _ hid)
        unfold StreamOver
        rw [hsame id hid, hcredit, hbefore, demands_cons, Nat.sub_sub]
      constructor
      · rintro ⟨hone, hrest⟩ before id behind hsplit
        cases before with
        | nil =>
            rw [List.nil_append, List.cons.injEq] at hsplit
            rcases hsplit with ⟨rfl, rfl⟩
            exact hone
        | cons first before =>
            rw [List.cons_append, List.cons.injEq] at hsplit
            rcases hsplit with ⟨rfl, rfl⟩
            exact fun h => hrest before id behind rfl ((hlater before id behind rfl).2 h)
      · intro h
        refine ⟨h [] streamId ids rfl, fun before id behind hsplit hover => ?_⟩
        have hwhole : streamId :: ids = (streamId :: before) ++ id :: behind := by
          rw [hsplit, List.cons_append]
        exact h _ id behind hwhole ((hlater before id behind hsplit).1 hover)

/-- A queued piece that `flush_pending_sends` sends is over the limit. -/
def FlushesOver (w : WtSessionInfo) : Prop :=
  w.isTerminated = false ∧ ∃ id, w.StreamOver id (w.credit - w.demandsBelow id)

/-- All that is sent is sent in the first round. -/
theorem flushPendingSends_capsules (hstates : w.SendStates) (hlive : w.isTerminated = false) :
    w.flushPendingSends.2 = (w.flushWalk w.streams.keys).2 := by
  have hquiet := walk_quiescent hstates
  unfold flushPendingSends
  rw [if_neg (by rw [hlive]; decide)]
  unfold flushRounds
  dsimp only
  split_ifs
  · rfl
  · rw [Queued.andThen_snd]
    have hnothing := (flushWalk_idle hquiet (w.flushWalk w.streams.keys).1.streams.keys).1
    cases w.pendingBytes with
    | zero => exact List.append_nil _
    | succ n =>
        unfold flushRounds
        dsimp only
        rw [if_pos hnothing, hnothing, List.append_nil]

theorem flushPendingSends_fits_iff (hstates : w.SendStates) :
    StreamsFit w.flushPendingSends.2 ↔ ¬ w.FlushesOver := by
  cases hterm : w.isTerminated with
  | true =>
      have hnothing : w.flushPendingSends.2 = [] := by
        unfold flushPendingSends
        rw [if_pos hterm]
      rw [hnothing]
      refine iff_of_true StreamsFit.nil fun h => ?_
      rw [h.1] at hterm
      cases hterm
  | false =>
      rw [flushPendingSends_capsules hstates hterm, walk_fits_iff w.streams.keys_nodup hstates]
      constructor
      · rintro h ⟨-, id, hover⟩
        rcases hover with ⟨info, hfind, hrest⟩
        rcases exists_split hfind with ⟨before, behind, hsplit, hbelow⟩
        rw [hbelow] at hrest
        exact h before id behind hsplit ⟨info, hfind, hrest⟩
      · intro h before id behind hsplit hover
        refine h ⟨hterm, id, ?_⟩
        have hbelow : w.demandsBelow id = w.demands before := by
          unfold demandsBelow
          rw [filter_keys hsplit]
        rw [hbelow]
        exact hover

/-! ## The peer -/

/-- What a peer with the default configuration makes of one encoded capsule. -/
theorem default_peer_takes {c : Capsule} (hlength : c.payload.length ≤ kMaxQuicVarint)
    {peer : SessionScope} {v : WtSessionInfo} (hconfig : peer.config = {})
    (hentry : peer.entry = some v) (hlive : v.isTerminated = false) (hempty : v.capsuleBuffer = []) :
    peer.processCapsules (encodeCapsule c.type.toNat c.payload) =
      if c.payload.length ≤ defaultPayloadLimit then peer.dispatch (c.type.toNat, c.payload)
      else peer.closeOversized := by
  have htype := CapsuleType.toNat_le c.type
  have hlimit : peer.config.wtMaxCapsulePayloadSize = defaultPayloadLimit := by
    rw [hconfig]
    rfl
  by_cases hfits : c.payload.length ≤ defaultPayloadLimit
  · rw [if_pos hfits]
    rw [← hlimit] at hfits
    have hall : SessionScope.Fits peer.config (c.type.toNat, c.payload) := ⟨htype, hlength, hfits⟩
    have hone := SessionScope.processCapsules_one hentry hlive hempty hall
    exact hone
  · rw [if_neg hfits]
    rw [← hlimit, not_le] at hfits
    have hclosed := SessionScope.processCapsules_oversized hentry hlive hempty htype hlength hfits
    exact hclosed

/-- The capsules with stream data that `send_stream_data` and `flush_pending_sends` queue are
within the default limit exactly when no piece they send is over it together with its stream id;
a default peer dispatches a capsule within the limit and closes the session on any other. -/
theorem stream_capsules_fit_iff {isServer : Bool} (hwf : Wf isServer w) :
    (∀ streamId data fin,
      StreamsFit (w.sendStreamData streamId data fin).2 ↔ ¬ w.SendsOver streamId data) ∧
    (StreamsFit w.flushPendingSends.2 ↔ ¬ w.FlushesOver) ∧
    ∀ (c : Capsule) (peer : SessionScope) (v : WtSessionInfo),
      c.payload.length ≤ kMaxQuicVarint → peer.config = {} → peer.entry = some v →
      v.isTerminated = false → v.capsuleBuffer = [] →
      peer.processCapsules (encodeCapsule c.type.toNat c.payload) =
        if c.payload.length ≤ defaultPayloadLimit then peer.dispatch (c.type.toNat, c.payload)
        else peer.closeOversized := by
  refine ⟨?_, flushPendingSends_fits_iff hwf.sendStates, ?_⟩
  · intro streamId data fin
    exact sendStreamData_fits_iff w streamId data fin
  · intro c peer v hlength hconfig hentry hlive hempty
    exact default_peer_takes hlength hconfig hentry hlive hempty

/-- A byte on an open stream. -/
theorem stream_capsules_fit_byte :
    Wf false SessionScope.openedEntry ∧
      StreamsFit (SessionScope.openedEntry.sendStreamData 0 [7] false).2 := by
  have hwf := (SessionScope.reached_openedEntry.wf rfl).1
  refine ⟨hwf, ((stream_capsules_fit_iff hwf).1 0 [7] false).2 ?_⟩
  rintro ⟨-, info, -, -, -, -, hover⟩
  have hlimit : defaultPayloadLimit = 1048576 := rfl
  have hlength : quicVarintLength 0 = 1 := rfl
  have hone : ([7] : Bytes).length = 1 := rfl
  unfold Over at hover
  omega

/-- A client whose peer grants two MiB, with an open stream. -/
def granting : List H2Session.Input :=
  [.recvSettingsEntry 0x08 1, .recvSettingsEntry 0x2b60 1, .recvSettingsEntry 0x2b61 2097152,
    .recvSettingsEntry 0x2b66 2097152, .recvSettingsEntry 0x2b65 1,
    .connect (ascii "https://a/") [] 1 [], .beginHeaders 1,
    .recvHeader 1 (ascii ":status") (ascii "200"), .endHeaders 1 none, .openStream 1 false]

def granted : H2Session := H2Session.run { isServer := false, config := {} } granting

/-- As much data as Python may pass in, with credit for all of it, is one byte too much. -/
theorem longest_data_oversized :
    checkPythonInputSize "send_stream_data data"
        (List.replicate kMaxPythonInputBytes (0 : UInt8)).length = .ok () ∧
      ∃ w, granted.wtSessions.find? 1 = some w ∧
        ¬ StreamsFit (w.sendStreamData 0 (List.replicate kMaxPythonInputBytes 0) false).2 := by
  rw [List.length_replicate]
  refine ⟨rfl, ?_⟩
  have hgranted : granted.wtSessions.find? 1 ≠ none ∧
      ∀ w ∈ granted.wtSessions.find? 1, w.isTerminated = false ∧
        w.maxDataLocal - w.bytesSent = 2097152 ∧ w.streams.find? 0 ≠ none ∧
        ∀ info ∈ w.streams.find? 0,
          isSendableStream info.isLocal info.isUnidirectional = true ∧ info.sendState = .ready ∧
            info.pendingSends = [] ∧ info.maxStreamDataLocal - info.bytesSent = 2097152 := by
    decide +kernel
  rcases hgranted with ⟨hsome, hall⟩
  rcases Option.ne_none_iff_exists'.1 hsome with ⟨w, hentry⟩
  rcases hall w hentry with ⟨hlive, hsession, hstream, hinfo⟩
  rcases Option.ne_none_iff_exists'.1 hstream with ⟨info, hfind⟩
  rcases hinfo info hfind with ⟨hsendable, hready, hnone, hcredit⟩
  refine ⟨w, hentry, ?_⟩
  rw [sendStreamData_fits_iff, not_not]
  refine ⟨hlive, info, hfind, hsendable, by simp [hready], hnone, ?_⟩
  have hpython : kMaxPythonInputBytes = 1048576 := rfl
  have hlimit : defaultPayloadLimit = 1048576 := rfl
  have hlength : quicVarintLength 0 = 1 := rfl
  unfold Over creditLeft
  rw [hsession, hcredit, List.length_replicate]
  omega

end WtSessionInfo

end H2
end WebTransport
