import WebTransport.H2.Flush
import WebTransport.H2.Invariants

/-!
# H2.Parked — data waits only for credit

What `send_stream_data` cannot send it keeps in the queue of the stream, and `flush_pending_sends`
runs whenever a limit was raised.  So in every state between two operations a stream whose queue is
not empty has run out of its own credit, or the session has run out of its credit, as long as the
application sends no empty data.

* `Tidy`          : the queues themselves, kept by every change that sends (`Trans.tidy`);
* `Parked`        : with the credit that is missing;
* `Eases`         : a change that queues nothing and gives no credit keeps it;
* `flushPendingSends_parked` : credit that was given is used up;
* `parked_keeping` : every operation of the session keeps it.
-/

namespace WebTransport
namespace H2

open Bindings

/-- The call sends data, if it sends on a stream. -/
def Op.Filled : Op → Prop
  | .sendStreamData _ data _ => data ≠ []
  | _ => True

/-- The sending half of a stream: its state, its queue, and its credit. -/
def WtStreamInfo.sendHalf (info : WtStreamInfo) : StreamState × List PendingSend × Nat × Nat :=
  (info.sendState, info.pendingSends, info.bytesSent, info.maxStreamDataLocal)

/-- Every entry of the queue holds data, and behind the end of the stream there is none. -/
structure WtStreamInfo.Tidy (info : WtStreamInfo) : Prop where
  data : ∀ p ∈ info.pendingSends, p.data ≠ []
  ended : info.sendState.sendDone = true → info.pendingSends = []

theorem WtStreamInfo.tidy_of_empty {info : WtStreamInfo} (h : info.pendingSends = []) :
    info.Tidy := by
  refine ⟨?_, fun _ => h⟩
  rw [h]
  exact fun p hp => absurd hp List.not_mem_nil

/-- A change beside the sending half. -/
theorem WtStreamInfo.Tidy.same {info info' : WtStreamInfo} (h : info.Tidy)
    (hhalf : info'.sendHalf = info.sendHalf) : info'.Tidy := by
  have hstate : info'.sendState = info.sendState := congrArg Prod.fst hhalf
  have hpending : info'.pendingSends = info.pendingSends := congrArg (fun v => v.2.1) hhalf
  refine ⟨?_, ?_⟩
  · rw [hpending]
    exact h.data
  · rw [hstate, hpending]
    exact h.ended

namespace WtSessionInfo

variable {config : H2SessionConfig} {isServer : Bool} {w w' : WtSessionInfo} {streamId : Nat}
  {info info' : WtStreamInfo} {l : Label}

/-! ## The queues -/

/-- The queue of every stream is tidy. -/
def Tidy (w : WtSessionInfo) : Prop :=
  ∀ ⦃streamId : Nat⦄ ⦃info : WtStreamInfo⦄, w.streams.find? streamId = some info → info.Tidy

theorem Tidy.setStream (h : w.Tidy) (hinfo : info.Tidy) : (w.setStream streamId info).Tidy := by
  intro id info' hfind
  rw [find?_setStream] at hfind
  split_ifs at hfind
  · cases hfind
    exact hinfo
  · exact h hfind

theorem Tidy.dropStream (h : w.Tidy) : (w.dropStream streamId info).Tidy := by
  intro id info' hfind
  have hkept : (w.streams.erase streamId).find? id = some info' := hfind
  rw [OrdMap.find?_erase] at hkept
  split_ifs at hkept
  exact h hkept

theorem newStream_pendingSends (w : WtSessionInfo) (config : H2SessionConfig) (streamId : Nat)
    (isLocal isUni : Bool) : (w.newStream config streamId isLocal isUni).pendingSends = [] := by
  unfold newStream initializeStreamSendCredit
  cases w.receivedMaxStreamDataById.find? streamId <;> rfl

/-- A change that neither takes data in nor receives anything. -/
def Sends : Label → Prop
  | .accepted _ _ _ => False
  | .received _ _ => False
  | _ => True

/-- Sending, and everything around it, leaves the queues tidy: a part of an entry leaves a part of
it, and behind the FIN there is nothing. -/
theorem Trans.tidy {permits : Permits} (h : Trans permits config isServer w l w')
    (hwf : Wf isServer w) (hl : Sends l) (hw : w.Tidy) : w'.Tidy := by
  cases h with
  | enqueue data fin hfind hsendable hready hfin => exact hl.elim
  | @sendPart streamId info front rest size hfind hready hpending hsize hsession hstream =>
      have hinfo := hw hfind
      have hnext : ({ w with bytesSent := w.bytesSent + size } : WtSessionInfo).Tidy := hw
      refine hnext.setStream ⟨?_, ?_⟩
      · intro p hp
        rcases List.mem_cons.1 hp with rfl | hrest
        · intro hempty
          rw [List.drop_eq_nil_iff] at hempty
          exact absurd hempty (not_le.2 hsize)
        · refine hinfo.data p ?_
          rw [hpending]
          exact List.mem_cons_of_mem _ hrest
      · intro hdone
        exact absurd (hready.symm.trans hdone) Bool.false_ne_true
  | @sendFront streamId info front rest hfind hready hpending hsession hstream =>
      have hinfo := hw hfind
      have hnext : ({ w with bytesSent := w.bytesSent + front.data.length } : WtSessionInfo).Tidy :=
        hw
      refine hnext.setStream ⟨?_, ?_⟩
      · intro p hp
        refine hinfo.data p ?_
        rw [hpending]
        exact List.mem_cons_of_mem _ hp
      · -- the FIN stands at the end of the queue
        intro hdone
        cases hfin : front.fin with
        | false =>
            dsimp only at hdone
            rw [hfin, if_neg Bool.false_ne_true] at hdone
            exact absurd (hready.symm.trans hdone) Bool.false_ne_true
        | true =>
            by_contra hrest
            have hfront : front ∈ info.pendingSends.dropLast := by
              rw [hpending, List.dropLast_cons_of_ne_nil hrest]
              exact List.mem_cons_self
            have hnot := (hwf.stream hfind).fin_last front hfront
            exact absurd (hfin.symm.trans hnot) (by decide)
  | clearPending hfind hdone => exact hw.setStream (WtStreamInfo.tidy_of_empty rfl)
  | streamDataBlocked hfind hready hpending hexhausted =>
      exact hw.setStream ((hw hfind).same rfl)
  | reset errorCode hpermit hfind hready => exact hw.setStream (WtStreamInfo.tidy_of_empty rfl)
  | release hfind hreleasable => exact hw.dropStream
  | grantStreamData hfind hreceivable hstop hrise hle => exact hw.setStream ((hw hfind).same rfl)
  | openBidi hcreate hopened hnone =>
      have hnext : (w.allocateStreamId false).Tidy := hw
      exact hnext.setStream (WtStreamInfo.tidy_of_empty (newStream_pendingSends _ _ _ _ _))
  | openUni hcreate hopened hnone =>
      have hnext : (w.allocateStreamId true).Tidy := hw
      exact hnext.setStream (WtStreamInfo.tidy_of_empty (newStream_pendingSends _ _ _ _ _))
  | recvStream hreceivable hreaches hstate hlate hsession hstream => exact hl.elim
  | recvReset hreceivable hreaches hstate => exact hl.elim
  | recvStop hreceivable hfirst hfind => exact hl.elim
  | recvMaxData hrise => exact hl.elim
  | recvMaxStreamData hreceivable hstop hrise hfind => exact hl.elim
  | recvMaxStreamsBidi hle hrise => exact hl.elim
  | recvMaxStreamsUni hle hrise => exact hl.elim
  | _ => exact hw

/-- What only queues capsules leaves the queues tidy. -/
theorem Emits.tidy {permits : Permits} {q : Queued} (h : Emits permits config isServer w q)
    (hwf : Wf isServer w) (hw : w.Tidy) : q.1.Tidy := by
  rcases h with ⟨ls, hpath, -, hreceived, haccepted⟩
  generalize q.1 = w' at hpath
  induction ls generalizing w with
  | nil =>
      cases hpath
      exact hw
  | cons l ls ih =>
      rcases hpath with ⟨mid, hstep, hrest⟩
      have hl : Sends l := by
        cases l with
        | accepted id data fin => cases haccepted
        | received r events => cases hreceived
        | _ => trivial
      have hsplit : Label.receivedOf ls = [] ∧ Label.acceptedOf ls = [] := by
        cases l with
        | accepted id data fin => cases haccepted
        | received r events => cases hreceived
        | _ => exact ⟨hreceived, haccepted⟩
      exact ih (hstep.wf hwf) (hstep.tidy hwf hl hw) hsplit.1 hsplit.2 hrest

/-! ## Waiting for credit -/

/-- Tidy queues, and what waits in them has no credit. -/
structure Parked (w : WtSessionInfo) : Prop where
  tidy : w.Tidy
  drained : w.Drained

/-- No queue and no limit has grown, and no credit was given back. -/
structure Eases (w w' : WtSessionInfo) : Prop where
  limit : w'.maxDataLocal = w.maxDataLocal
  sent : w.bytesSent ≤ w'.bytesSent
  stream : ∀ id info', w'.streams.find? id = some info' →
    info'.pendingSends = [] ∨ ∃ info, w.streams.find? id = some info ∧
      info'.sendHalf = info.sendHalf

theorem Parked.eases (h : w.Parked) (heases : Eases w w') : w'.Parked := by
  refine ⟨?_, ?_⟩
  · intro id info' hfind'
    rcases heases.stream id info' hfind' with hempty | ⟨info, hfind, hhalf⟩
    · exact WtStreamInfo.tidy_of_empty hempty
    · exact (h.tidy hfind).same hhalf
  · intro id info' hfind' hready' hne'
    rcases heases.stream id info' hfind' with hempty | ⟨info, hfind, hhalf⟩
    · exact absurd hempty hne'
    · have hstate : info'.sendState = info.sendState := congrArg Prod.fst hhalf
      have hpending : info'.pendingSends = info.pendingSends := congrArg (fun v => v.2.1) hhalf
      have hsent : info'.bytesSent = info.bytesSent := congrArg (fun v => v.2.2.1) hhalf
      have hlimit : info'.maxStreamDataLocal = info.maxStreamDataLocal :=
        congrArg (fun v => v.2.2.2) hhalf
      rw [hstate] at hready'
      rw [hpending] at hne' ⊢
      rcases h.drained id info hfind hready' hne' with ⟨hwaits, hexhausted⟩
      refine ⟨hwaits, ?_⟩
      rw [heases.limit, hsent, hlimit]
      exact hexhausted.imp_left heases.sent.trans'

namespace Eases

theorem refl (w : WtSessionInfo) : Eases w w :=
  ⟨rfl, le_rfl, fun _ info hfind => Or.inr ⟨info, hfind, rfl⟩⟩

theorem trans {w'' : WtSessionInfo} (h : Eases w w') (h' : Eases w' w'') : Eases w w'' := by
  refine ⟨h'.limit.trans h.limit, h.sent.trans h'.sent, ?_⟩
  intro id info'' hfind''
  rcases h'.stream id info'' hfind'' with hempty | ⟨info', hfind', hhalf'⟩
  · exact Or.inl hempty
  · rcases h.stream id info' hfind' with hempty | ⟨info, hfind, hhalf⟩
    · refine Or.inl (Eq.trans ?_ hempty)
      exact congrArg (fun v => v.2.1) hhalf'
    · exact Or.inr ⟨info, hfind, hhalf'.trans hhalf⟩

/-- A change beside the streams. -/
theorem beside (hlimit : w'.maxDataLocal = w.maxDataLocal) (hsent : w.bytesSent ≤ w'.bytesSent)
    (hstreams : w'.streams = w.streams) : Eases w w' := by
  refine ⟨hlimit, hsent, ?_⟩
  intro id info hfind
  rw [hstreams] at hfind
  exact Or.inr ⟨info, hfind, rfl⟩

/-- A stream with nothing queued. -/
theorem setEmpty (hempty : info.pendingSends = []) : Eases w (w.setStream streamId info) := by
  refine ⟨rfl, le_rfl, ?_⟩
  intro id info' hfind
  rw [find?_setStream] at hfind
  split_ifs at hfind
  · cases hfind
    exact Or.inl hempty
  · exact Or.inr ⟨info', hfind, rfl⟩

/-- A change beside the sending half of a stream. -/
theorem update (hfind : w.streams.find? streamId = some info)
    (hhalf : info'.sendHalf = info.sendHalf) : Eases w (w.setStream streamId info') := by
  refine ⟨rfl, le_rfl, ?_⟩
  intro id info'' hfind''
  rw [find?_setStream] at hfind''
  split_ifs at hfind'' with hid
  · cases hfind''
    rw [hid]
    exact Or.inr ⟨info, hfind, hhalf⟩
  · exact Or.inr ⟨info'', hfind'', rfl⟩

theorem dropStream (w : WtSessionInfo) (streamId : Nat) (info : WtStreamInfo) :
    Eases w (w.dropStream streamId info) := by
  refine ⟨rfl, le_rfl, ?_⟩
  intro id info' hfind
  have hkept : (w.streams.erase streamId).find? id = some info' := hfind
  rw [OrdMap.find?_erase] at hkept
  split_ifs at hkept
  exact Or.inr ⟨info', hkept, rfl⟩

theorem replenishStreams (isUni : Bool) (w : WtSessionInfo) :
    Eases w (w.replenishStreams isUni).1 := by
  unfold WtSessionInfo.replenishStreams
  split_ifs <;> first | exact refl w | exact beside rfl le_rfl rfl

theorem maybeReleaseStream (streamId : Nat) (w : WtSessionInfo) :
    Eases w (w.maybeReleaseStream streamId).1 := by
  unfold WtSessionInfo.maybeReleaseStream
  cases w.streams.find? streamId with
  | none => exact refl w
  | some info =>
      dsimp only
      split_ifs
      · exact dropStream w streamId info
      · exact (dropStream w streamId info).trans (replenishStreams _ _)
      · exact refl w

theorem maybeSendMaxData (config : H2SessionConfig) (w : WtSessionInfo) :
    Eases w (w.maybeSendMaxData config).1 := by
  unfold WtSessionInfo.maybeSendMaxData
  dsimp only
  split_ifs <;> first | exact refl w | exact beside rfl le_rfl rfl

theorem maybeSendMaxStreamData (config : H2SessionConfig) (streamId : Nat) (w : WtSessionInfo) :
    Eases w (w.maybeSendMaxStreamData config streamId).1 := by
  unfold WtSessionInfo.maybeSendMaxStreamData
  cases hfind : w.streams.find? streamId <;> dsimp only <;> split_ifs <;>
    first | exact refl w | exact update hfind rfl

theorem finishRecv (streamId : Nat) (w : WtSessionInfo) : Eases w (w.finishRecv streamId).1 := by
  unfold WtSessionInfo.finishRecv
  cases hfind : w.streams.find? streamId with
  | none => exact refl w
  | some info =>
      have hmark : Eases w (w.setStream streamId { info with recvState := .dataRecvd }) :=
        update hfind rfl
      exact hmark.trans (maybeReleaseStream _ _)

theorem acceptStreamData (config : H2SessionConfig) (hfind : w.streams.find? streamId = some info)
    (fin : Bool) (size : Nat) : Eases w (w.acceptStreamData config streamId info fin size).1 := by
  have hbytes : Eases w { w with bytesReceived := w.bytesReceived + size } :=
    beside rfl le_rfl rfl
  have hcounted : Eases w (w.countReceived streamId info size) :=
    hbytes.trans (update hfind rfl)
  have hreplenished := (hcounted.trans (maybeSendMaxData config _)).trans
    (maybeSendMaxStreamData config streamId _)
  unfold WtSessionInfo.acceptStreamData
  dsimp only
  split_ifs
  · exact hreplenished.trans (finishRecv streamId _)
  · exact hreplenished

theorem resetStream (streamId errorCode : Nat) (w : WtSessionInfo) :
    Eases w (w.resetStream streamId errorCode).1 := by
  unfold WtSessionInfo.resetStream
  cases w.streams.find? streamId with
  | none =>
      dsimp only
      split_ifs <;> exact refl w
  | some info =>
      dsimp only
      split_ifs
      · exact refl w
      · exact refl w
      · have hcleared : Eases w
            (w.setStream streamId { info with sendState := .resetSent, pendingSends := [] }) :=
          setEmpty rfl
        exact hcleared.trans (maybeReleaseStream _ _)

theorem stopSending (streamId errorCode : Nat) (w : WtSessionInfo) :
    Eases w (w.stopSending streamId errorCode).1 := by
  unfold WtSessionInfo.stopSending
  split_ifs <;> first | exact refl w | exact beside rfl le_rfl rfl

theorem openStream (config : H2SessionConfig) (isServer isUni : Bool) (w : WtSessionInfo) :
    Eases w (w.openStream config isServer isUni).1.1 := by
  have hallocated : Eases w (w.allocateStreamId isUni) := by
    unfold allocateStreamId
    split_ifs <;> exact beside rfl le_rfl rfl
  unfold WtSessionInfo.openStream
  dsimp only
  split_ifs <;>
    first
      | exact refl w
      | exact beside rfl le_rfl rfl
      | exact hallocated.trans (setEmpty (newStream_pendingSends _ _ _ _ _))

end Eases

/-! ## Sending -/

/-- Data behind the queue waits with it. -/
theorem Parked.queueBehind (h : w.Parked) (hfind : w.streams.find? streamId = some info)
    (hopen : info.sendState.sendDone = false) (hne : info.pendingSends ≠ []) {data : Bytes}
    (hdata : data ≠ []) (fin : Bool) :
    (w.setStream streamId
      { info with pendingSends := info.pendingSends ++ [⟨data, fin⟩] }).Parked := by
  refine ⟨h.tidy.setStream ⟨?_, ?_⟩, ?_⟩
  · intro p hp
    rcases List.mem_append.1 hp with hold | hnew
    · exact (h.tidy hfind).data p hold
    · rw [List.mem_singleton.1 hnew]
      exact hdata
  · intro hdone
    exact absurd (hopen.symm.trans hdone) Bool.false_ne_true
  · intro id info' hfind' hready' hne'
    rw [find?_setStream] at hfind'
    split_ifs at hfind'
    · cases hfind'
      rcases h.drained streamId info hfind hready' hne with ⟨⟨front, rest, heq, hfront⟩, hexhausted⟩
      refine ⟨⟨front, rest ++ [⟨data, fin⟩], ?_, hfront⟩, hexhausted⟩
      dsimp only
      rw [heq, List.cons_append]
    · exact h.drained id info' hfind' hready' hne'

/-- The prefix that the credit admits was sent: now there is none. -/
theorem Parked.sendBlocked (h : w.Parked) (hopen : info.sendState.sendDone = false)
    (hempty : info.pendingSends = []) {data : Bytes} (fin : Bool) {sessionAvail streamAvail : Nat}
    (hshort : sendableBytes sessionAvail streamAvail < data.length)
    (hexhausted : w.maxDataLocal ≤ w.bytesSent + sendableBytes sessionAvail streamAvail ∨
      info.maxStreamDataLocal ≤ info.bytesSent + sendableBytes sessionAvail streamAvail) :
    (w.sendBlocked info streamId data fin sessionAvail streamAvail).1.Parked := by
  have hrest : data.drop (sendableBytes sessionAvail streamAvail) ≠ [] := by
    intro hnil
    rw [List.drop_eq_nil_iff] at hnil
    exact absurd hnil (not_le.2 hshort)
  unfold WtSessionInfo.sendBlocked
  dsimp only
  refine ⟨Tidy.setStream h.tidy ⟨?_, ?_⟩, ?_⟩
  · intro p hp
    rw [hempty, List.nil_append, List.mem_singleton] at hp
    rw [hp]
    exact hrest
  · intro hdone
    exact absurd (hopen.symm.trans hdone) Bool.false_ne_true
  · intro id info' hfind' hready' hne'
    rw [find?_setStream] at hfind'
    split_ifs at hfind'
    · cases hfind'
      refine ⟨⟨⟨data.drop (sendableBytes sessionAvail streamAvail), fin⟩, [], ?_, hrest⟩,
        hexhausted⟩
      dsimp only
      rw [hempty, List.nil_append]
    · -- what the other streams wait for has not come either
      rcases h.drained id info' hfind' hready' hne' with ⟨hwaits, hnone⟩
      exact ⟨hwaits, hnone.imp_left fun hle => hle.trans (Nat.le_add_right _ _)⟩

theorem Eases.sendWhole (hempty : info.pendingSends = []) (streamId : Nat) (data : Bytes)
    (fin : Bool) : Eases w (w.sendWhole info streamId data fin).1 := by
  have hcounted : Eases w { w with bytesSent := w.bytesSent + data.length } :=
    beside rfl (Nat.le_add_right _ _) rfl
  let whole : WtStreamInfo :=
    { info with
      bytesSent := info.bytesSent + data.length
      sendState := if fin then .dataSent else info.sendState }
  have hsent : Eases w
      ({ w with bytesSent := w.bytesSent + data.length }.setStream streamId whole) :=
    hcounted.trans (setEmpty hempty)
  unfold WtSessionInfo.sendWhole
  dsimp only
  split_ifs with hfin
  · rw [Queued.andThen_fst]
    refine Eases.trans ?_ (maybeReleaseStream streamId _)
    simpa only [whole, if_pos hfin] using hsent
  · simpa only [whole, if_neg hfin] using hsent

theorem Parked.sendStreamData (h : w.Parked) (streamId : Nat) {data : Bytes} (hdata : data ≠ [])
    (fin : Bool) : (w.sendStreamData streamId data fin).1.Parked := by
  cases htakes : w.takesData streamId with
  | false =>
      rw [sendStreamData_ignored htakes]
      exact h
  | true =>
      rcases takesData_spec htakes with ⟨info, hterm, hfind, hsendable, hopen, hfin⟩
      have hnot : ¬(info.sendState = .resetSent ∨ info.sendState = .dataSent) :=
        fun hdone => absurd (sendDone_iff.2 hdone) (by simp [hopen])
      unfold WtSessionInfo.sendStreamData
      rw [if_neg (by simp [hterm]), hfind]
      dsimp only
      rw [if_neg (by simp [hsendable]), if_neg hnot]
      cases hlast : info.pendingSends.getLast? with
      | some last =>
          have hne : info.pendingSends ≠ [] := by
            intro hnil
            rw [hnil] at hlast
            cases hlast
          dsimp only
          rw [if_neg (by simp [hfin last hlast])]
          exact h.queueBehind hfind hopen hne hdata fin
      | none =>
          have hempty : info.pendingSends = [] := List.getLast?_eq_none_iff.1 hlast
          dsimp only
          split_ifs with hshort
          · refine h.sendBlocked hopen hempty fin hshort ?_
            -- one of the two credits has admitted less than all
            rw [availableCredit_eq, availableCredit_eq, sendableBytes_eq] at hshort ⊢
            omega
          · exact h.eases (Eases.sendWhole hempty streamId data fin)

/-! ## Credit that was given -/

theorem not_stuck {pending : List PendingSend} (h : ∀ p ∈ pending, p.data ≠ []) :
    stuck pending = false := by
  induction pending with
  | nil => rfl
  | cons front rest ih =>
      have hfront := h front List.mem_cons_self
      have hrest := ih fun p hp => h p (List.mem_cons_of_mem _ hp)
      cases hfin : front.fin with
      | true => exact stuck_fin hfront hfin
      | false => exact (stuck_next hfront hfin).trans hrest

/-- Without empty entries a flush leaves only what waits for credit. -/
theorem flushPendingSends_parked (hwf : Wf isServer w) (hlive : w.isTerminated = false)
    (h : w.Tidy) : w.flushPendingSends.1.Parked := by
  have hemits : Emits .all {} isServer w w.flushPendingSends := flushPendingSends_emits hwf
  refine ⟨hemits.tidy hwf h, ?_⟩
  have hstrands : ¬w.Strands := by
    rintro ⟨id, info, hfind, -, hstuck, -⟩
    exact absurd ((not_stuck (h hfind).data).symm.trans hstuck) Bool.false_ne_true
  have hwalk := (walk_drained_iff hwf.sendStates).2 hstrands
  have hcleared := (flushRounds_settles hwf.sendStates _ (Nat.lt_succ_self w.pendingBytes)).2
  unfold flushPendingSends
  rw [if_neg (by simp [hlive])]
  exact hcleared.drained_iff.2 hwalk

/-! ## Received capsules -/

theorem judgeStreamData_parked (h : w.Parked) (config : H2SessionConfig)
    (hfind : w.streams.find? streamId = some info) (fin : Bool) (data : Bytes) :
    (w.judgeStreamData config info streamId fin data).Leaves Parked := by
  have haccepted : (w.acceptStreamData config streamId info fin data.length).1.Parked :=
    h.eases (Eases.acceptStreamData config hfind fin data.length)
  unfold judgeStreamData
  split_ifs
  · exact h
  · exact h
  · exact haccepted
  · exact haccepted

theorem judgeStream_parked (h : w.Parked) (config : H2SessionConfig) (isServer fin : Bool)
    (streamId : Nat) (data : Bytes) :
    (w.judgeStream config isServer fin streamId data).Leaves Parked := by
  unfold judgeStream
  cases hfind : w.streams.find? streamId with
  | some info =>
      dsimp only
      split_ifs
      · exact h
      · exact judgeStreamData_parked h config hfind fin data
  | none =>
      have hcreated : (w.setStream streamId (w.newPeerStream config isServer streamId)).Parked :=
        h.eases (Eases.setEmpty (newStream_pendingSends _ _ _ _ _))
      dsimp only
      split_ifs <;>
        first
          | exact h
          | exact judgeStreamData_parked hcreated config (find?_setStream_self _ _ _) fin data

theorem judgeReset_parked (h : w.Parked) (config : H2SessionConfig) (isServer : Bool)
    (streamId errorCode reliableSize : Nat) :
    (w.judgeReset config isServer streamId errorCode reliableSize).Leaves Parked := by
  unfold judgeReset
  cases hfind : w.streams.find? streamId with
  | some info =>
      have hmarked : Eases w (w.setStream streamId { info with recvState := .resetRecvd }) :=
        Eases.update hfind rfl
      dsimp only
      split_ifs <;>
        first
          | exact h
          | exact h.eases (hmarked.trans (Eases.maybeReleaseStream streamId _))
  | none =>
      have hcreated : Eases w (w.setStream streamId
          { w.newPeerStream config isServer streamId with recvState := .resetRecvd }) :=
        Eases.setEmpty (newStream_pendingSends w config _ _ _)
      dsimp only
      split_ifs <;>
        first
          | exact h
          | exact h.eases (hcreated.trans (Eases.maybeReleaseStream streamId _))

theorem judgeStopSending_parked (h : w.Parked) (isServer : Bool) (streamId errorCode : Nat) :
    (w.judgeStopSending isServer streamId errorCode).Leaves Parked := by
  have hrecorded : Eases w (w.recordStopSending streamId) := Eases.beside rfl le_rfl rfl
  unfold judgeStopSending
  cases hfind : w.streams.find? streamId with
  | some info =>
      have hmarked : Eases w ((w.recordStopSending streamId).setStream streamId
          { info with stopSendingReceived := true }) :=
        hrecorded.trans (Eases.update hfind rfl)
      dsimp only
      split_ifs <;>
        first
          | exact h
          | exact h.eases (hmarked.trans (Eases.resetStream streamId errorCode _))
  | none =>
      dsimp only
      split_ifs <;> first | exact h | exact h.eases hrecorded

theorem judgeMaxData_parked (h : w.Parked) (hwf : Wf isServer w) (hlive : w.isTerminated = false)
    (maxData : Nat) : (w.judgeMaxData maxData).Leaves Parked := by
  unfold judgeMaxData
  split_ifs with hfell hmore
  · exact h
  · have hwf' : Wf isServer ({ w with receivedMaxData := some maxData }.raiseMaxData maxData) :=
      wf_of_streams hwf rfl (hwf.sent_le.trans hmore.le)
    exact flushPendingSends_parked hwf' hlive h.tidy
  · exact h.eases (Eases.beside rfl le_rfl rfl)

theorem judgeMaxStreamData_parked (h : w.Parked) (hwf : Wf isServer w)
    (hlive : w.isTerminated = false) (streamId maxData : Nat) :
    (w.judgeMaxStreamData isServer streamId maxData).Leaves Parked := by
  have hrecorded : Eases w (w.recordMaxStreamData streamId maxData) := Eases.beside rfl le_rfl rfl
  unfold judgeMaxStreamData
  cases hfind : w.streams.find? streamId with
  | none =>
      dsimp only
      split_ifs <;> first | exact h | exact h.eases hrecorded
  | some info =>
      dsimp only
      split_ifs with hdir hstop hfell hmore
      · exact h
      · exact h
      · exact h
      · have hinfo := hwf.stream hfind
        have hraised : WfStream isServer streamId
            { info with maxStreamDataLocal := maxData, streamDataBlockedSent := false } :=
          ⟨hinfo.id_eq, hinfo.local_eq, hinfo.uni_eq, hinfo.send_state, hinfo.recv_state,
            hinfo.recv_only, hinfo.fin_last, hinfo.pending_sendable, hinfo.sent_le.trans hmore.le⟩
        have hrecorded' : Wf isServer (w.recordMaxStreamData streamId maxData) :=
          wf_of_streams hwf rfl hwf.sent_le
        have hwf' : Wf isServer ((w.recordMaxStreamData streamId maxData).raiseMaxStreamData
            streamId info maxData) := hrecorded'.setStream hraised
        have htidy : ((w.recordMaxStreamData streamId maxData).raiseMaxStreamData streamId info
            maxData).Tidy := Tidy.setStream h.tidy ⟨(h.tidy hfind).data, (h.tidy hfind).ended⟩
        exact flushPendingSends_parked hwf' hlive htidy
      · exact h.eases hrecorded

theorem judgeMaxStreams_parked (h : w.Parked) (isBidi : Bool) (maxStreams : Nat) :
    (w.judgeMaxStreams isBidi maxStreams).Leaves Parked := by
  unfold judgeMaxStreams
  split_ifs <;> first | exact h | exact h.eases (Eases.beside rfl le_rfl rfl)

/-- Every received capsule keeps it: where a limit was raised, the flush uses it up. -/
theorem judge_parked (h : w.Parked) (hwf : Wf isServer w) (hlive : w.isTerminated = false)
    (config : H2SessionConfig) (r : Received) : (w.judge config isServer r).Leaves Parked := by
  cases r with
  | stream fin streamId data => exact judgeStream_parked h config isServer fin streamId data
  | resetStream streamId errorCode reliableSize => exact judgeReset_parked h config isServer _ _ _
  | stopSending streamId errorCode => exact judgeStopSending_parked h isServer streamId errorCode
  | maxData maxData => exact judgeMaxData_parked h hwf hlive maxData
  | maxStreamData streamId maxData => exact judgeMaxStreamData_parked h hwf hlive streamId maxData
  | maxStreams isBidi maxStreams => exact judgeMaxStreams_parked h isBidi maxStreams
  | streamDataBlocked streamId =>
      unfold judge judgeStreamDataBlocked
      dsimp only
      split_ifs <;> exact h
  | streamsBlocked maxStreams =>
      unfold judge
      dsimp only
      split_ifs <;> exact h
  | closeSession errorCode message => trivial
  | _ => exact h

/-- Whatever an application that sends no empty data calls, and whatever the peer says, what is
queued waits for credit. -/
theorem parked_keeping (config : H2SessionConfig) (isServer : Bool) :
    Keeping config isServer (fun _ op => op.Filled) Parked where
  bookkeeping := by
    intro w w' hcore hw
    have hsent : w'.bytesSent = w.bytesSent := (congrArg bytesSent hcore :)
    have hlimit : w'.maxDataLocal = w.maxDataLocal := (congrArg maxDataLocal hcore :)
    have hstreams : w'.streams = w.streams := (congrArg streams hcore :)
    exact hw.eases (Eases.beside hlimit hsent.ge hstreams)
  limits := by
    rintro w ⟨u, bl, br⟩ hw
    cases u <;> cases bl <;> cases br <;> exact hw.eases (Eases.beside rfl le_rfl rfl)
  api := by
    intro w op hreceive hfilled hwf hw
    cases op with
    | openStream isUni => exact hw.eases (Eases.openStream config isServer isUni w)
    | sendStreamData streamId data fin => exact hw.sendStreamData streamId hfilled fin
    | resetStream streamId errorCode => exact hw.eases (Eases.resetStream streamId _ w)
    | stopSending streamId errorCode => exact hw.eases (Eases.stopSending streamId _ w)
    | _ => exact hw
  received := by
    intro w r hfits hlive hwf hw
    exact judge_parked hw hwf hlive config r

end WtSessionInfo

end H2
end WebTransport
