import WebTransport.H2.SendSide

/-!
# H2.Flush — what `flush_pending_sends` leaves behind (`webtransport_h2.cpp`)

The session credit is shared by the streams, in the order of their ids.  A stream sends up to its
first FIN, and no further than an entry without data: for this one the loop computes that nothing
can be sent, and stops as if there was no credit.

* `flushLoop_spec`      : the inner loop on one queue;
* `Walked`              : a walk over the streams, with what each of them found left of the credit;
* `flushRounds_settles` : the second round sends nothing;
* `flush_complete_iff`  : when every queued entry is sent that could be.
-/

namespace WebTransport
namespace H2

namespace WtSessionInfo

variable {w w' : WtSessionInfo} {streamId id : Nat} {info info' : WtStreamInfo}

/-! ## The inner loop -/

/-- The bytes that the loop can send without meeting an entry without data or passing a FIN. -/
def ahead : List PendingSend → Nat
  | [] => 0
  | pending :: rest =>
      if pending.data = [] then 0
      else if pending.fin then pending.data.length
      else pending.data.length + ahead rest

/-- Behind these bytes stands an entry without data. -/
def stuck : List PendingSend → Bool
  | [] => false
  | pending :: rest =>
      if pending.data = [] then true
      else if pending.fin then false
      else stuck rest

theorem availableCredit_eq (sent limit size : Nat) :
    availableCredit sent limit size = min (limit - sent) size := by
  unfold availableCredit
  dsimp only
  split_ifs <;> omega

theorem sendableBytes_eq (a b : Nat) : sendableBytes a b = min a b := by
  unfold sendableBytes
  split_ifs <;> omega

/-- The queue has an entry without data in front. -/
def Stopped (pending : List PendingSend) : Prop :=
  ∃ front rest, pending = front :: rest ∧ front.data = []

/-- The queue has data in front. -/
def Waits (pending : List PendingSend) : Prop :=
  ∃ front rest, pending = front :: rest ∧ front.data ≠ []

/-- What both credits admit. -/
abbrev creditLeft (sessionSent sessionLimit streamSent streamLimit : Nat) : Nat :=
  min (sessionLimit - sessionSent) (streamLimit - streamSent)

section FlushLoop

variable {sessionLimit streamLimit sessionSent streamSent : Nat} {front : PendingSend}
  {rest pending : List PendingSend}

/-- One turn of the loop. -/
theorem flushLoop_cons : flushLoop streamId sessionLimit streamLimit (front :: rest) sessionSent
      streamSent =
    let size := front.data.length
    let sendable := min (creditLeft sessionSent sessionLimit streamSent streamLimit) size
    if sendable = 0 then ⟨front :: rest, sessionSent, streamSent, [], false⟩
    else if sendable < size then
      ⟨{ front with data := front.data.drop sendable } :: rest, sessionSent + sendable,
        streamSent + sendable, [.wtStream false streamId (front.data.take sendable)], false⟩
    else if front.fin then
      ⟨rest, sessionSent + sendable, streamSent + sendable,
        [.wtStream front.fin streamId front.data], true⟩
    else
      let loop := flushLoop streamId sessionLimit streamLimit rest (sessionSent + sendable)
        (streamSent + sendable)
      { loop with capsules := .wtStream front.fin streamId front.data :: loop.capsules } := by
  have hsendable : sendableBytes (availableCredit sessionSent sessionLimit front.data.length)
      (availableCredit streamSent streamLimit front.data.length) =
        min (creditLeft sessionSent sessionLimit streamSent streamLimit) front.data.length := by
    rw [availableCredit_eq, availableCredit_eq, sendableBytes_eq]
    unfold creditLeft
    omega
  rw [flushLoop]
  dsimp only
  rw [hsendable]

/-- How the loop ends, with `left` in the queue. -/
inductive LoopEnd (pending : List PendingSend) (credit : Nat) (finSent : Bool) :
    List PendingSend → Prop
  | stopped {left : List PendingSend} (hstuck : stuck pending = true) (hle : ahead pending ≤ credit)
      (hfin : finSent = false) (hleft : Stopped left) : LoopEnd pending credit finSent left
  | emptied {left : List PendingSend} (hnot : stuck pending = true → credit < ahead pending)
      (hleft : left = []) : LoopEnd pending credit finSent left
  | ended {left : List PendingSend} (hnot : stuck pending = true → credit < ahead pending)
      (hfin : finSent = true) : LoopEnd pending credit finSent left
  | waits {left : List PendingSend} (hlt : credit < ahead pending) (hfin : finSent = false)
      (hleft : Waits left) : LoopEnd pending credit finSent left

/-- What is known of the inner loop behind it. -/
structure LoopSpec (pending : List PendingSend) (sessionSent streamSent credit : Nat)
    (loop : FlushLoop) : Prop where
  session : loop.sessionSent = sessionSent + min (ahead pending) credit
  stream : loop.streamSent = streamSent + min (ahead pending) credit
  ends : LoopEnd pending credit loop.finSent loop.pending

theorem ahead_empty (hempty : front.data = []) : ahead (front :: rest) = 0 := by
  rw [ahead, if_pos hempty]

theorem ahead_fin (hdata : front.data ≠ []) (hfin : front.fin = true) :
    ahead (front :: rest) = front.data.length := by
  rw [ahead, if_neg hdata, if_pos hfin]

theorem ahead_next (hdata : front.data ≠ []) (hfin : front.fin = false) :
    ahead (front :: rest) = front.data.length + ahead rest := by
  rw [ahead, if_neg hdata, if_neg (by simp [hfin])]

theorem stuck_empty (hempty : front.data = []) : stuck (front :: rest) = true := by
  rw [stuck, if_pos hempty]

theorem stuck_fin (hdata : front.data ≠ []) (hfin : front.fin = true) :
    stuck (front :: rest) = false := by
  rw [stuck, if_neg hdata, if_pos hfin]

theorem stuck_next (hdata : front.data ≠ []) (hfin : front.fin = false) :
    stuck (front :: rest) = stuck rest := by
  rw [stuck, if_neg hdata, if_neg (by simp [hfin])]

theorem length_le_ahead (hdata : front.data ≠ []) : front.data.length ≤ ahead (front :: rest) := by
  cases hfin : front.fin with
  | true => exact (ahead_fin hdata hfin).ge
  | false =>
      rw [ahead_next hdata hfin]
      exact Nat.le_add_right _ _

/-- The entry in front was sent and the loop went on. -/
theorem LoopSpec.next {loop : FlushLoop} {credit : Nat} {capsules : List Capsule}
    (h : LoopSpec rest (sessionSent + front.data.length) (streamSent + front.data.length)
      (credit - front.data.length) loop)
    (hdata : front.data ≠ []) (hfin : front.fin = false) (hcredit : front.data.length ≤ credit) :
    LoopSpec (front :: rest) sessionSent streamSent credit { loop with capsules := capsules } := by
  obtain ⟨hsession, hstream, hends⟩ := h
  have hahead : ahead (front :: rest) = front.data.length + ahead rest := ahead_next hdata hfin
  have hstuck : stuck (front :: rest) = stuck rest := stuck_next hdata hfin
  refine ⟨?_, ?_, ?_⟩
  · rw [hahead]
    dsimp only
    omega
  · rw [hahead]
    dsimp only
    omega
  · dsimp only
    cases hends with
    | stopped hs hle hf hleft => exact .stopped (hstuck.trans hs) (by omega) hf hleft
    | emptied hnot hleft =>
        refine .emptied (fun hs => ?_) hleft
        have hlt := hnot (hstuck.symm.trans hs)
        omega
    | ended hnot hf =>
        refine .ended (fun hs => ?_) hf
        have hlt := hnot (hstuck.symm.trans hs)
        omega
    | waits hlt hf hleft => exact .waits (by omega) hf hleft

theorem flushLoop_spec (streamId sessionLimit streamLimit : Nat) (pending : List PendingSend)
    (sessionSent streamSent : Nat) :
    LoopSpec pending sessionSent streamSent
      (creditLeft sessionSent sessionLimit streamSent streamLimit)
      (flushLoop streamId sessionLimit streamLimit pending sessionSent streamSent) := by
  induction pending generalizing sessionSent streamSent with
  | nil =>
      refine ⟨?_, ?_, .emptied (fun h => (Bool.false_ne_true h).elim) rfl⟩
      · simp [flushLoop, ahead]
      · simp [flushLoop, ahead]
  | cons front rest ih =>
      rw [flushLoop_cons]
      dsimp only
      generalize hcredit : creditLeft sessionSent sessionLimit streamSent streamLimit = credit
      by_cases hempty : front.data = []
      · -- an entry without data ends the loop, whatever the credit
        rw [if_pos (by simp [hempty])]
        refine ⟨?_, ?_, .stopped (stuck_empty hempty) ?_ rfl ⟨front, rest, rfl, hempty⟩⟩
        all_goals simp [ahead_empty hempty]
      · have hsize : 0 < front.data.length := List.length_pos_of_ne_nil hempty
        have hahead : front.data.length ≤ ahead (front :: rest) := length_le_ahead hempty
        by_cases hpart : credit < front.data.length
        · have hall : min (ahead (front :: rest)) credit = credit := by omega
          have hcut : min credit front.data.length = credit := by omega
          have hlt : credit < ahead (front :: rest) := by omega
          rw [hcut]
          split_ifs with hzero
          · exact ⟨by rw [hall, hzero]; rfl, by rw [hall, hzero]; rfl,
              .waits hlt rfl ⟨front, rest, rfl, hempty⟩⟩
          · refine ⟨by rw [hall], by rw [hall], .waits hlt rfl ⟨_, rest, rfl, ?_⟩⟩
            intro hdrop
            rw [List.drop_eq_nil_iff] at hdrop
            omega
        · have hwhole : min credit front.data.length = front.data.length := by omega
          rw [hwhole, if_neg hsize.ne', if_neg (lt_irrefl _)]
          cases hfin : front.fin with
          | true =>
              have hall : min (ahead (front :: rest)) credit = front.data.length := by
                rw [ahead_fin hempty hfin]
                omega
              refine ⟨by rw [hall]; rfl, by rw [hall]; rfl, .ended (fun h => ?_) rfl⟩
              rw [stuck_fin hempty hfin] at h
              cases h
          | false =>
              rw [if_neg Bool.false_ne_true]
              have hnext := ih (sessionSent + front.data.length) (streamSent + front.data.length)
              have hleft : creditLeft (sessionSent + front.data.length) sessionLimit
                  (streamSent + front.data.length) streamLimit = credit - front.data.length := by
                rw [← hcredit]
                unfold creditLeft
                omega
              rw [hleft] at hnext
              exact hnext.next hempty hfin (by omega)

end FlushLoop

/-! ## One stream -/

/-- What a stream takes of the session credit, if there is enough of it. -/
def demand (info : WtStreamInfo) : Nat :=
  if info.sendState.sendDone then 0
  else min (ahead info.pendingSends) (info.maxStreamDataLocal - info.bytesSent)

def demandOf (w : WtSessionInfo) (streamId : Nat) : Nat :=
  ((w.streams.find? streamId).map demand).getD 0

/-- What is left of the session credit. -/
def credit (w : WtSessionInfo) : Nat := w.maxDataLocal - w.bytesSent

/-- What holds of the entry of a stream behind a walk that came to it with `left` of the session
credit. -/
structure Outcome (info : WtStreamInfo) (left : Nat) (after : Option WtStreamInfo) : Prop where
  done : info.sendState.sendDone = true → after = some { info with pendingSends := [] }
  states : ∀ info', after = some info' →
    info'.sendState = .ready ∨ info'.sendState.sendDone = true
  stranded : info.sendState = .ready → stuck info.pendingSends = true →
    ahead info.pendingSends ≤ min left (info.maxStreamDataLocal - info.bytesSent) →
    ∃ info', after = some info' ∧ info'.sendState = .ready ∧ Stopped info'.pendingSends
  waits : (stuck info.pendingSends = true →
      min left (info.maxStreamDataLocal - info.bytesSent) < ahead info.pendingSends) →
    ∀ info', after = some info' → info'.sendState = .ready → info'.pendingSends ≠ [] →
      Waits info'.pendingSends ∧
        (info'.maxStreamDataLocal ≤ info'.bytesSent ∨ left ≤ demand info)

/-- Nothing but the entry of the stream and the sent bytes. -/
structure Aside (streamId : Nat) (w w' : WtSessionInfo) : Prop where
  limit : w'.maxDataLocal = w.maxDataLocal
  others : ∀ id, id ≠ streamId → w'.streams.find? id = w.streams.find? id

theorem find?_replenishStreams (isUni : Bool) (w : WtSessionInfo) (id : Nat) :
    (w.replenishStreams isUni).1.streams.find? id = w.streams.find? id := by
  unfold replenishStreams
  split_ifs <;> rfl

/-- A release erases the entry, or leaves it. -/
theorem maybeReleaseStream_aside (streamId : Nat) (w : WtSessionInfo) :
    Aside streamId w (w.maybeReleaseStream streamId).1 ∧
      (w.maybeReleaseStream streamId).1.bytesSent = w.bytesSent ∧
      ((w.maybeReleaseStream streamId).1.streams.find? streamId = none ∨
        (w.maybeReleaseStream streamId).1.streams.find? streamId = w.streams.find? streamId) := by
  unfold maybeReleaseStream
  cases hfind : w.streams.find? streamId with
  | none => exact ⟨⟨rfl, fun _ _ => rfl⟩, rfl, Or.inl hfind⟩
  | some info =>
      have hother : ∀ id, id ≠ streamId →
          (w.dropStream streamId info).streams.find? id = w.streams.find? id :=
        fun id hid => OrdMap.find?_erase_ne _ hid
      have hself : (w.dropStream streamId info).streams.find? streamId = none :=
        OrdMap.find?_erase_self _ _
      dsimp only
      split_ifs
      · exact ⟨⟨rfl, hother⟩, rfl, Or.inl hself⟩
      · refine ⟨⟨?_, fun id hid => ?_⟩, ?_, Or.inl ?_⟩
        · unfold replenishStreams
          split_ifs <;> rfl
        · rw [find?_replenishStreams]
          exact hother id hid
        · unfold replenishStreams
          split_ifs <;> rfl
        · rw [find?_replenishStreams]
          exact hself
      · exact ⟨⟨rfl, fun _ _ => rfl⟩, rfl, Or.inr hfind⟩

theorem flushStream_done (hfind : w.streams.find? streamId = some info)
    (hdone : info.sendState.sendDone = true) :
    w.flushStream streamId = (w.setStream streamId { info with pendingSends := [] }, []) := by
  unfold flushStream
  rw [hfind]
  exact if_pos hdone

theorem runFlushLoop_spec (w : WtSessionInfo) (streamId : Nat) (info : WtStreamInfo) :
    LoopSpec info.pendingSends w.bytesSent info.bytesSent
      (min w.credit (info.maxStreamDataLocal - info.bytesSent)) (w.runFlushLoop streamId info) :=
  flushLoop_spec streamId w.maxDataLocal info.maxStreamDataLocal info.pendingSends w.bytesSent
    info.bytesSent

/-- The entry behind a loop that sent no FIN. -/
theorem outcome_open (hready : info.sendState = .ready) {loop : FlushLoop} {left : Nat}
    (hspec : LoopSpec info.pendingSends w.bytesSent info.bytesSent
      (min left (info.maxStreamDataLocal - info.bytesSent)) loop) (hfin : loop.finSent = false) :
    Outcome info left (some (loop.info info)) := by
  have hstate : (loop.info info).sendState = .ready := by
    simp [FlushLoop.info, hfin, hready]
  have hpending : (loop.info info).pendingSends = loop.pending := rfl
  have hsent : (loop.info info).bytesSent = loop.streamSent := rfl
  refine ⟨fun hdone => ?_, fun info' h => ?_, fun _ hstuck hle => ?_, fun hnot info' h _ hne => ?_⟩
  · rw [hready] at hdone
    cases hdone
  · cases h
    exact Or.inl hstate
  · refine ⟨_, rfl, hstate, ?_⟩
    rw [hpending]
    cases hspec.ends with
    | stopped _ _ _ hleft => exact hleft
    | emptied hnot _ => exact absurd (hnot hstuck) (not_lt.2 hle)
    | ended _ hf =>
        rw [hfin] at hf
        cases hf
    | waits hlt _ _ => exact absurd hlt (not_lt.2 hle)
  · cases h
    rw [hpending] at hne ⊢
    cases hends : hspec.ends with
    | stopped hstuck hle _ _ => exact absurd (hnot hstuck) (not_lt.2 hle)
    | emptied _ hleft => exact absurd hleft hne
    | ended _ hf =>
        rw [hfin] at hf
        cases hf
    | waits hlt _ hleft =>
        refine ⟨hleft, ?_⟩
        have hstream := hspec.stream
        change info.maxStreamDataLocal ≤ loop.streamSent ∨ _
        have hdemand : demand info =
            min (ahead info.pendingSends) (info.maxStreamDataLocal - info.bytesSent) := by
          unfold demand
          rw [if_neg (by simp [hready, StreamState.sendDone])]
        rw [hdemand]
        omega

/-- The entry behind a loop that sent the FIN: it is done, or released. -/
theorem outcome_ended (hready : info.sendState = .ready) {loop : FlushLoop} {left : Nat}
    (hspec : LoopSpec info.pendingSends w.bytesSent info.bytesSent
      (min left (info.maxStreamDataLocal - info.bytesSent)) loop) (hfin : loop.finSent = true)
    {after : Option WtStreamInfo} (hafter : after = none ∨ after = some (loop.info info)) :
    Outcome info left after := by
  have hstate : (loop.info info).sendState = .dataSent := by
    simp [FlushLoop.info, hfin, hready]
  refine ⟨fun hdone => ?_, fun info' h => ?_, fun _ hstuck hle => ?_, fun _ info' h hopen => ?_⟩
  · rw [hready] at hdone
    cases hdone
  · rcases hafter with hnone | hsome
    · rw [hnone] at h
      cases h
    · rw [hsome] at h
      cases h
      rw [hstate]
      exact Or.inr rfl
  · cases hspec.ends with
    | stopped _ _ hf _ =>
        rw [hfin] at hf
        cases hf
    | emptied hnot _ => exact absurd (hnot hstuck) (not_lt.2 hle)
    | ended hnot _ => exact absurd (hnot hstuck) (not_lt.2 hle)
    | waits _ hf _ =>
        rw [hfin] at hf
        cases hf
  · rcases hafter with hnone | hsome
    · rw [hnone] at h
      cases h
    · rw [hsome] at h
      cases h
      rw [hstate] at hopen
      cases hopen

/-- One stream of the walk. -/
theorem flushStream_spec (hfind : w.streams.find? streamId = some info)
    (hstate : info.sendState = .ready ∨ info.sendState.sendDone = true) :
    Aside streamId w (w.flushStream streamId).1 ∧
      (w.flushStream streamId).1.bytesSent = w.bytesSent + min (demand info) w.credit ∧
      Outcome info w.credit ((w.flushStream streamId).1.streams.find? streamId) := by
  rcases hstate with hready | hdone
  · have hspec := runFlushLoop_spec w streamId info
    have hdemand : demand info =
        min (ahead info.pendingSends) (info.maxStreamDataLocal - info.bytesSent) := by
      unfold demand
      rw [if_neg (by simp [hready, StreamState.sendDone])]
    have hsent : (w.runFlushLoop streamId info).sessionSent =
        w.bytesSent + min (demand info) w.credit := by
      have hsession := hspec.session
      rw [hdemand]
      omega
    have hother : ∀ id, id ≠ streamId →
        (w.afterFlush streamId info (w.runFlushLoop streamId info)).streams.find? id =
          w.streams.find? id := by
      intro id hid
      unfold afterFlush
      rw [find?_setStream, if_neg hid]
    have hself : (w.afterFlush streamId info (w.runFlushLoop streamId info)).streams.find?
        streamId = some ((w.runFlushLoop streamId info).info info) := find?_setStream_self _ _ _
    unfold flushStream
    rw [hfind]
    dsimp only
    rw [if_neg (by simp [hready, StreamState.sendDone])]
    split_ifs with hfin
    · -- the FIN was sent: the release only erases the entry
      rw [Queued.andThen_fst]
      obtain ⟨haside, hkept, hafter⟩ := maybeReleaseStream_aside streamId
        (w.afterFlush streamId info (w.runFlushLoop streamId info))
      refine ⟨⟨haside.limit, fun id hid => (haside.others id hid).trans (hother id hid)⟩,
        hkept.trans hsent, outcome_ended hready hspec hfin ?_⟩
      rw [hself] at hafter
      exact hafter
    · rw [Bool.not_eq_true] at hfin
      refine ⟨⟨rfl, hother⟩, hsent, ?_⟩
      rw [hself]
      exact outcome_open hready hspec hfin
  · rw [flushStream_done hfind hdone]
    have hdemand : demand info = 0 := by
      unfold demand
      rw [if_pos hdone]
    refine ⟨⟨rfl, fun id hid => ?_⟩, ?_, ?_⟩
    · rw [find?_setStream, if_neg hid]
    · rw [hdemand, Nat.zero_min]
      rfl
    · rw [find?_setStream_self]
      refine ⟨fun _ => rfl, fun info' h => ?_, fun hready => ?_, fun _ info' h hready => ?_⟩
      · cases h
        exact Or.inr hdone
      · rw [hready] at hdone
        cases hdone
      · cases h
        have hready : info.sendState = .ready := hready
        rw [hready] at hdone
        cases hdone

/-! ## A walk over the streams -/

/-- The sending half of every stream is in a state of a sending half. -/
def SendStates (w : WtSessionInfo) : Prop :=
  ∀ id info, w.streams.find? id = some info →
    info.sendState = .ready ∨ info.sendState.sendDone = true

theorem Wf.sendStates {isServer : Bool} (h : Wf isServer w) : w.SendStates :=
  fun _ _ hfind => (h.stream hfind).send_state

/-- What the streams `ids` ask for. -/
def demands (w : WtSessionInfo) (ids : List Nat) : Nat := (ids.map w.demandOf).sum

/-- A walk over `ids`: each stream finds what the ones in front of it left. -/
structure Walked (ids : List Nat) (w w' : WtSessionInfo) : Prop where
  limit : w'.maxDataLocal = w.maxDataLocal
  sent : w'.bytesSent = w.bytesSent + min (w.demands ids) w.credit
  others : ∀ id, id ∉ ids → w'.streams.find? id = w.streams.find? id
  each : ∀ before id behind info, ids = before ++ id :: behind → w.streams.find? id = some info →
    Outcome info (w.credit - w.demands before) (w'.streams.find? id)

theorem demandOf_of_find? (hfind : w.streams.find? streamId = some info) :
    w.demandOf streamId = demand info := by
  unfold demandOf
  rw [hfind]
  rfl

/-- The first stream of a walk, whether it is there or not. -/
theorem flushStream_first (hstates : w.SendStates) (streamId : Nat) :
    Aside streamId w (w.flushStream streamId).1 ∧
      (w.flushStream streamId).1.bytesSent = w.bytesSent + min (w.demandOf streamId) w.credit ∧
      (∀ info, w.streams.find? streamId = some info →
        Outcome info w.credit ((w.flushStream streamId).1.streams.find? streamId)) ∧
      (w.flushStream streamId).1.SendStates := by
  cases hfind : w.streams.find? streamId with
  | none =>
      have hsame : w.flushStream streamId = (w, []) := by
        unfold flushStream
        rw [hfind]
      have hdemand : w.demandOf streamId = 0 := by
        unfold demandOf
        rw [hfind]
        rfl
      rw [hsame, hdemand, Nat.zero_min]
      refine ⟨⟨rfl, fun _ _ => rfl⟩, rfl, fun info h => ?_, hstates⟩
      cases h
  | some info =>
      obtain ⟨haside, hsent, houtcome⟩ := flushStream_spec hfind (hstates streamId info hfind)
      rw [demandOf_of_find? hfind]
      refine ⟨haside, hsent, fun info' h => ?_, fun id info' h => ?_⟩
      · cases h
        exact houtcome
      · by_cases hid : id = streamId
        · subst hid
          exact houtcome.states info' h
        · rw [haside.others id hid] at h
          exact hstates id info' h

theorem demands_congr {ids : List Nat}
    (h : ∀ id ∈ ids, w'.streams.find? id = w.streams.find? id) : w'.demands ids = w.demands ids := by
  unfold demands
  refine congrArg List.sum (List.map_congr_left fun id hid => ?_)
  unfold demandOf
  rw [h id hid]

theorem demands_cons (w : WtSessionInfo) (streamId : Nat) (ids : List Nat) :
    w.demands (streamId :: ids) = w.demandOf streamId + w.demands ids := rfl

theorem demands_append (w : WtSessionInfo) (before behind : List Nat) :
    w.demands (before ++ behind) = w.demands before + w.demands behind := by
  unfold demands
  rw [List.map_append, List.sum_append]

theorem flushWalk_spec {ids : List Nat} (hnodup : ids.Nodup) (hstates : w.SendStates) :
    Walked ids w (w.flushWalk ids).1 ∧ (w.flushWalk ids).1.SendStates := by
  induction ids generalizing w with
  | nil =>
      refine ⟨⟨rfl, ?_, fun _ _ => rfl, fun before id behind info h => ?_⟩, hstates⟩
      · exact (Nat.zero_min _).symm ▸ rfl
      · exact absurd h.symm (by simp)
  | cons streamId ids ih =>
      obtain ⟨hfresh, hnodup'⟩ := List.nodup_cons.1 hnodup
      obtain ⟨haside, hsent, hfirst, hstates'⟩ := flushStream_first hstates streamId
      unfold flushWalk
      rw [Queued.andThen_fst]
      generalize (w.flushStream streamId).1 = w₁ at haside hsent hfirst hstates' ⊢
      obtain ⟨⟨hlimit, hrest, hothers, heach⟩, hlast⟩ := ih hnodup' hstates'
      have hsame : ∀ id ∈ ids, w₁.streams.find? id = w.streams.find? id := by
        intro id hid
        refine haside.others id ?_
        rintro rfl
        exact hfresh hid
      have hcredit : w₁.credit = w.credit - w.demandOf streamId := by
        unfold credit at hsent ⊢
        rw [haside.limit, hsent]
        omega
      refine ⟨⟨hlimit.trans haside.limit, ?_, ?_, ?_⟩, hlast⟩
      · rw [hrest, hsent, hcredit, demands_congr hsame, demands_cons]
        omega
      · intro id hid
        rw [List.mem_cons, not_or] at hid
        rw [hothers id hid.2, haside.others id hid.1]
      · intro before id behind info hsplit hfind
        cases before with
        | nil =>
            rw [List.nil_append, List.cons.injEq] at hsplit
            obtain ⟨rfl, rfl⟩ := hsplit
            rw [hothers streamId hfresh]
            exact hfirst info hfind
        | cons other before =>
            rw [List.cons_append, List.cons.injEq] at hsplit
            obtain ⟨rfl, rfl⟩ := hsplit
            have hid : id ∈ before ++ id :: behind := by simp
            rw [← hsame id hid] at hfind
            have houtcome := heach before id behind info rfl hfind
            have hbefore : w₁.demands before = w.demands before :=
              demands_congr fun id hid => hsame id (List.mem_append_left _ hid)
            rw [hcredit, hbefore, Nat.sub_sub] at houtcome
            exact houtcome

/-! ## What is left -/

/-- What can still send has a queue that waits for credit, with data in front. -/
def Drained (w : WtSessionInfo) : Prop :=
  ∀ id info, w.streams.find? id = some info → info.sendState = .ready → info.pendingSends ≠ [] →
    Waits info.pendingSends ∧
      (w.maxDataLocal ≤ w.bytesSent ∨ info.maxStreamDataLocal ≤ info.bytesSent)

/-- What the streams with smaller ids ask for. -/
def demandsBelow (w : WtSessionInfo) (streamId : Nat) : Nat :=
  w.demands (w.streams.keys.filter fun id => id < streamId)

/-- The credit of a stream covers what it has in front of an entry without data. -/
def Strands (w : WtSessionInfo) : Prop :=
  ∃ id info, w.streams.find? id = some info ∧ info.sendState = .ready ∧
    stuck info.pendingSends = true ∧
    ahead info.pendingSends ≤ info.maxStreamDataLocal - info.bytesSent ∧
    ahead info.pendingSends ≤ (w.maxDataLocal - w.bytesSent) - w.demandsBelow id

theorem keys_sorted (w : WtSessionInfo) : w.streams.keys.Pairwise (· < ·) :=
  List.pairwise_map.2 w.streams.sorted

/-- The streams a walk comes to first are those with smaller ids. -/
theorem filter_keys {before behind : List Nat} (h : w.streams.keys = before ++ id :: behind) :
    (w.streams.keys.filter fun other => other < id) = before := by
  have hsorted := w.keys_sorted
  rw [h] at hsorted ⊢
  obtain ⟨-, hbehind, hbefore⟩ := List.pairwise_append.1 hsorted
  rw [List.filter_append]
  have hfront : (before.filter fun other => other < id) = before := by
    refine List.filter_eq_self.2 fun other hother => ?_
    exact decide_eq_true (hbefore other hother id List.mem_cons_self)
  have hback : ((id :: behind).filter fun other => other < id) = [] := by
    refine List.filter_eq_nil_iff.2 fun other hother => ?_
    rw [decide_eq_true_eq, not_lt]
    rcases List.mem_cons.1 hother with rfl | hmem
    · exact le_rfl
    · exact ((List.pairwise_cons.1 hbehind).1 other hmem).le
  rw [hfront, hback, List.append_nil]

theorem exists_split (hfind : w.streams.find? id = some info) :
    ∃ before behind, w.streams.keys = before ++ id :: behind ∧
      w.demandsBelow id = w.demands before := by
  have hmem : id ∈ w.streams.keys := (OrdMap.mem_keys_iff _ _).2 ⟨info, hfind⟩
  obtain ⟨before, behind, hsplit⟩ := List.append_of_mem hmem
  refine ⟨before, behind, hsplit, ?_⟩
  unfold demandsBelow
  rw [filter_keys hsplit]

/-- One walk over all streams. -/
theorem walk_drained_iff (hstates : w.SendStates) :
    (w.flushWalk w.streams.keys).1.Drained ↔ ¬w.Strands := by
  obtain ⟨hwalked, -⟩ := flushWalk_spec w.streams.keys_nodup hstates
  generalize (w.flushWalk w.streams.keys).1 = w' at hwalked ⊢
  constructor
  · rintro hdrained ⟨id, info, hfind, hready, hstuck, hstream, hsession⟩
    obtain ⟨before, behind, hsplit, hbelow⟩ := exists_split hfind
    rw [hbelow] at hsession
    have houtcome := hwalked.each before id behind info hsplit hfind
    have hle : ahead info.pendingSends ≤
        min (w.credit - w.demands before) (info.maxStreamDataLocal - info.bytesSent) :=
      le_min hsession hstream
    obtain ⟨info', hafter, hopen, front, rest, hpending, hempty⟩ :=
      houtcome.stranded hready hstuck hle
    obtain ⟨⟨front', rest', hpending', hdata⟩, -⟩ :=
      hdrained id info' hafter hopen (by simp [hpending])
    rw [hpending, List.cons.injEq] at hpending'
    exact hdata (hpending'.1 ▸ hempty)
  · intro hnot id info' hafter hopen hne
    by_cases hfind : ∃ info, w.streams.find? id = some info
    · obtain ⟨info, hfind⟩ := hfind
      obtain ⟨before, behind, hsplit, hbelow⟩ := exists_split hfind
      have houtcome := hwalked.each before id behind info hsplit hfind
      have hready : info.sendState = .ready := by
        refine (hstates id info hfind).resolve_right fun hdone => ?_
        have heq := houtcome.done hdone
        rw [hafter, Option.some.injEq] at heq
        rw [heq] at hne
        exact hne rfl
      have hwaits := houtcome.waits (fun hstuck => ?_) info' hafter hopen hne
      · refine ⟨hwaits.1, hwaits.2.symm.imp_left fun hleft => ?_⟩
        -- the streams up to this one have used up the session credit
        have hall : w.demands w.streams.keys =
            w.demands before + (demand info + w.demands behind) := by
          rw [hsplit, demands_append, demands_cons, demandOf_of_find? hfind]
        rw [hwalked.limit, hwalked.sent, hall]
        unfold credit at hleft ⊢
        omega
      · refine lt_of_not_ge fun hle => hnot ⟨id, info, hfind, hready, hstuck, ?_, ?_⟩
        · exact hle.trans (min_le_right _ _)
        · rw [hbelow]
          exact hle.trans (min_le_left _ _)
    · -- a walk creates no stream
      have hout : id ∉ w.streams.keys := fun hmem => hfind ((OrdMap.mem_keys_iff _ _).1 hmem)
      rw [hwalked.others id hout] at hafter
      exact absurd ⟨info', hafter⟩ hfind

/-! ## Rounds -/

/-- No stream can send anything: a walk makes no progress. -/
def Quiescent (w : WtSessionInfo) : Prop :=
  ∀ id info, w.streams.find? id = some info → min (demand info) w.credit = 0

/-- Nothing has changed but queues of streams that have ended. -/
structure Cleared (w w' : WtSessionInfo) : Prop where
  limit : w'.maxDataLocal = w.maxDataLocal
  sent : w'.bytesSent = w.bytesSent
  same : ∀ id, w'.streams.find? id = w.streams.find? id ∨
    ∃ info, w.streams.find? id = some info ∧ info.sendState.sendDone = true ∧
      w'.streams.find? id = some { info with pendingSends := [] }

theorem Cleared.refl (w : WtSessionInfo) : Cleared w w := ⟨rfl, rfl, fun _ => Or.inl rfl⟩

theorem Cleared.trans {w'' : WtSessionInfo} (h : Cleared w w') (h' : Cleared w' w'') :
    Cleared w w'' := by
  refine ⟨h'.limit.trans h.limit, h'.sent.trans h.sent, fun id => ?_⟩
  rcases h'.same id with heq' | ⟨info', hfind', hdone', heq'⟩
  · rw [heq']
    exact h.same id
  · refine Or.inr ?_
    rcases h.same id with heq | ⟨info, hfind, hdone, heq⟩
    · exact ⟨info', heq.symm.trans hfind', hdone', heq'⟩
    · rw [heq, Option.some.injEq] at hfind'
      subst hfind'
      exact ⟨info, hfind, hdone, heq'⟩

theorem demand_done (hdone : info.sendState.sendDone = true) : demand info = 0 := by
  unfold demand
  rw [if_pos hdone]

theorem Cleared.quiescent (h : Cleared w w') (hw : w.Quiescent) : w'.Quiescent := by
  intro id info' hfind'
  have hcredit : w'.credit = w.credit := by
    unfold credit
    rw [h.limit, h.sent]
  rcases h.same id with heq | ⟨info, hfind, hdone, heq⟩
  · rw [hcredit]
    exact hw id info' (heq.symm.trans hfind')
  · rw [heq, Option.some.injEq] at hfind'
    have hdone' : info'.sendState.sendDone = true := by
      rw [← hfind']
      exact hdone
    rw [demand_done hdone', Nat.zero_min]

theorem Cleared.drained_iff (h : Cleared w w') : w'.Drained ↔ w.Drained := by
  constructor
  · intro hw id info hfind hready hne
    have hfind' : w'.streams.find? id = some info := by
      rcases h.same id with heq | ⟨info', hother, hdone, -⟩
      · exact heq.trans hfind
      · rw [hfind, Option.some.injEq] at hother
        rw [← hother, hready] at hdone
        cases hdone
    have hwaits := hw id info hfind' hready hne
    rw [h.limit, h.sent] at hwaits
    exact hwaits
  · intro hw id info' hfind' hready hne
    rw [h.limit, h.sent]
    rcases h.same id with heq | ⟨info, -, -, heq⟩
    · exact hw id info' (heq.symm.trans hfind') hready hne
    · rw [heq, Option.some.injEq] at hfind'
      rw [← hfind'] at hne
      exact absurd rfl hne

theorem flushLoop_idle {sessionLimit streamLimit sessionSent streamSent : Nat}
    {pending : List PendingSend}
    (h : min (ahead pending) (creditLeft sessionSent sessionLimit streamSent streamLimit) = 0) :
    flushLoop streamId sessionLimit streamLimit pending sessionSent streamSent =
      ⟨pending, sessionSent, streamSent, [], false⟩ := by
  cases pending with
  | nil => rfl
  | cons front rest =>
      have hzero : min (creditLeft sessionSent sessionLimit streamSent streamLimit)
          front.data.length = 0 := by
        by_cases hempty : front.data = []
        · rw [hempty]
          exact Nat.min_zero _
        · have hahead : front.data.length ≤ ahead (front :: rest) := length_le_ahead hempty
          omega
      rw [flushLoop_cons]
      exact if_pos hzero

theorem flushStream_idle (hw : w.Quiescent) (streamId : Nat) :
    (w.flushStream streamId).2 = [] ∧ Cleared w (w.flushStream streamId).1 := by
  cases hfind : w.streams.find? streamId with
  | none =>
      unfold flushStream
      rw [hfind]
      exact ⟨rfl, Cleared.refl w⟩
  | some info =>
      by_cases hdone : info.sendState.sendDone = true
      · rw [flushStream_done hfind hdone]
        refine ⟨rfl, rfl, rfl, fun id => ?_⟩
        rw [find?_setStream]
        split_ifs with hid
        · subst hid
          exact Or.inr ⟨info, hfind, hdone, rfl⟩
        · exact Or.inl rfl
      · have hidle : w.runFlushLoop streamId info =
            ⟨info.pendingSends, w.bytesSent, info.bytesSent, [], false⟩ := by
          refine flushLoop_idle ?_
          have hnone := hw streamId info hfind
          unfold demand at hnone
          rw [if_neg hdone] at hnone
          unfold credit at hnone
          unfold creditLeft
          omega
        have hinfo : (w.runFlushLoop streamId info).info info = info := by
          rw [hidle]
          simp [FlushLoop.info]
        have hsame : w.afterFlush streamId info (w.runFlushLoop streamId info) = w := by
          unfold afterFlush
          rw [hinfo, hidle]
          exact setStream_of_find? hfind
        unfold flushStream
        rw [hfind]
        dsimp only
        rw [if_neg hdone, hsame, hidle]
        exact ⟨rfl, Cleared.refl w⟩

/-- A walk without progress. -/
theorem flushWalk_idle (hw : w.Quiescent) (ids : List Nat) :
    (w.flushWalk ids).2 = [] ∧ Cleared w (w.flushWalk ids).1 := by
  induction ids generalizing w with
  | nil => exact ⟨rfl, Cleared.refl w⟩
  | cons streamId ids ih =>
      obtain ⟨hnothing, hcleared⟩ := flushStream_idle hw streamId
      obtain ⟨hrest, hcleared'⟩ := ih (hcleared.quiescent hw)
      unfold flushWalk
      rw [Queued.andThen_fst, Queued.andThen_snd, hnothing, hrest]
      exact ⟨rfl, hcleared.trans hcleared'⟩

theorem ahead_stopped {pending : List PendingSend} (h : Stopped pending) : ahead pending = 0 := by
  obtain ⟨front, rest, rfl, hempty⟩ := h
  exact ahead_empty hempty

/-- A second walk finds nothing to send. -/
theorem walk_quiescent (hstates : w.SendStates) :
    (w.flushWalk w.streams.keys).1.Quiescent := by
  obtain ⟨hwalked, hstates'⟩ := flushWalk_spec w.streams.keys_nodup hstates
  generalize (w.flushWalk w.streams.keys).1 = w' at hwalked hstates' ⊢
  intro id info' hafter
  rcases hstates' id info' hafter with hopen | hdone
  · have hdemand : demand info' =
        min (ahead info'.pendingSends) (info'.maxStreamDataLocal - info'.bytesSent) := by
      unfold demand
      rw [if_neg (by simp [hopen, StreamState.sendDone])]
    by_cases hnil : info'.pendingSends = []
    · rw [hdemand, hnil]
      simp [ahead]
    by_cases hfind : ∃ info, w.streams.find? id = some info
    · obtain ⟨info, hfind⟩ := hfind
      obtain ⟨before, behind, hsplit, -⟩ := exists_split hfind
      have houtcome := hwalked.each before id behind info hsplit hfind
      have hready : info.sendState = .ready := by
        refine (hstates id info hfind).resolve_right fun hdone => ?_
        have heq := houtcome.done hdone
        rw [hafter, Option.some.injEq] at heq
        rw [heq] at hnil
        exact hnil rfl
      by_cases hstuck : stuck info.pendingSends = true ∧ ahead info.pendingSends ≤
          min (w.credit - w.demands before) (info.maxStreamDataLocal - info.bytesSent)
      · obtain ⟨info'', hafter', -, hstopped⟩ :=
          houtcome.stranded hready hstuck.1 hstuck.2
        rw [hafter, Option.some.injEq] at hafter'
        subst hafter'
        rw [hdemand, ahead_stopped hstopped]
        simp
      · have hwaits := houtcome.waits (fun hs => lt_of_not_ge fun hle => hstuck ⟨hs, hle⟩) info'
          hafter hopen hnil
        have hall : w.demands w.streams.keys =
            w.demands before + (demand info + w.demands behind) := by
          rw [hsplit, demands_append, demands_cons, demandOf_of_find? hfind]
        rcases hwaits.2 with hstream | hsession
        · rw [hdemand]
          omega
        · have hnone : w'.credit = 0 := by
            unfold credit at hsession ⊢
            rw [hwalked.limit, hwalked.sent, hall]
            unfold credit
            omega
          rw [hnone, Nat.min_zero]
    · have hout : id ∉ w.streams.keys := fun hmem => hfind ((OrdMap.mem_keys_iff _ _).1 hmem)
      rw [hwalked.others id hout] at hafter
      exact absurd ⟨info', hafter⟩ hfind
  · rw [demand_done hdone, Nat.zero_min]

/-- With nothing queued there is nothing to send. -/
theorem quiescent_of_pendingBytes (h : w.pendingBytes = 0) : w.Quiescent := by
  intro id info hfind
  have hmem : (id, info) ∈ w.streams.entries := OrdMap.mem_of_find? hfind
  have hsum : (info.pendingSends.map fun p => p.data.length).sum = 0 := by
    refine List.sum_eq_zero_iff.1 h _ ?_
    exact List.mem_map.2 ⟨(id, info), hmem, rfl⟩
  have hahead : ahead info.pendingSends = 0 := by
    cases hpending : info.pendingSends with
    | nil => rfl
    | cons front rest =>
        rw [hpending, List.map_cons, List.sum_cons] at hsum
        have hlength : front.data.length = 0 := by omega
        exact ahead_empty (List.length_eq_zero_iff.1 hlength)
  unfold demand
  split_ifs
  · exact Nat.zero_min _
  · rw [hahead]
    simp

/-- From the second round on nothing is sent, so the rounds end. -/
theorem flushRounds_settles (hstates : w.SendStates) (fuel : Nat) (hfuel : w.pendingBytes < fuel) :
    w.flushRounds fuel = w.flushRounds (w.pendingBytes + 1) ∧
      Cleared (w.flushWalk w.streams.keys).1 (w.flushRounds fuel).1 := by
  have hquiet := walk_quiescent hstates
  -- behind a walk any number of further rounds is the same
  have hrest : ∀ {a : WtSessionInfo}, a.Quiescent → ∀ n m,
      a.flushRounds (n + 1) = a.flushRounds (m + 1) ∧ Cleared a (a.flushRounds (n + 1)).1 := by
    intro a ha n m
    obtain ⟨hnothing, hcleared⟩ := flushWalk_idle ha a.streams.keys
    simp only [flushRounds, hnothing, if_true]
    exact ⟨trivial, hcleared⟩
  obtain ⟨fuel, rfl⟩ : ∃ n, fuel = n + 1 := ⟨fuel - 1, by omega⟩
  simp only [flushRounds]
  split_ifs with hnothing
  · exact ⟨rfl, Cleared.refl _⟩
  · -- something was sent, so something was queued
    have hpositive : w.pendingBytes ≠ 0 := by
      intro hzero
      exact hnothing (flushWalk_idle (quiescent_of_pendingBytes hzero) _).1
    obtain ⟨n, rfl⟩ : ∃ n, fuel = n + 1 := ⟨fuel - 1, by omega⟩
    obtain ⟨m, hm⟩ : ∃ m, w.pendingBytes = m + 1 := ⟨w.pendingBytes - 1, by omega⟩
    obtain ⟨heq, hcleared⟩ := hrest hquiet n m
    rw [hm]
    refine ⟨?_, hcleared⟩
    unfold Queued.andThen
    rw [heq]

/-- `flush_pending_sends` ends.  It leaves nothing queued that could be sent exactly when on no
stream the credit covers everything in front of an entry without data. -/
theorem flush_complete_iff (hstates : w.SendStates) :
    (∀ fuel, w.pendingBytes < fuel → w.flushRounds fuel = w.flushRounds (w.pendingBytes + 1)) ∧
      (w.flushPendingSends.1.Drained ↔
        if w.isTerminated = true then w.Drained else ¬w.Strands) := by
  refine ⟨fun fuel hfuel => (flushRounds_settles hstates fuel hfuel).1, ?_⟩
  unfold flushPendingSends
  split_ifs
  · exact Iff.rfl
  · have hcleared := (flushRounds_settles hstates _ (Nat.lt_succ_self w.pendingBytes)).2
    exact hcleared.drained_iff.trans (walk_drained_iff hstates)

/-- A stream with one byte queued, which the credit admits. -/
def oneByteQueued : WtSessionInfo :=
  { http2StreamId := 1, isEstablished := true, maxDataLocal := 5,
    streams := (∅ : OrdMap Nat WtStreamInfo).insert 0
      { streamId := 0, isLocal := true, isUnidirectional := false, maxStreamDataLocal := 100,
        pendingSends := [⟨[7], false⟩] } }

theorem flush_complete_one_byte : oneByteQueued.flushPendingSends.1.Drained := by
  have hstates : oneByteQueued.SendStates := by
    intro id info hfind
    refine Or.inl ?_
    unfold oneByteQueued at hfind
    rw [OrdMap.find?_insert] at hfind
    split_ifs at hfind
    · cases hfind
      rfl
    · cases hfind
  refine (flush_complete_iff hstates).2.2 ?_
  rw [if_neg (by decide)]
  rintro ⟨id, info, hfind, -, hstuck, -⟩
  unfold oneByteQueued at hfind
  rw [OrdMap.find?_insert] at hfind
  split_ifs at hfind
  · cases hfind
    cases hstuck
  · cases hfind

end WtSessionInfo

namespace SessionScope

/-- A byte without credit, an empty FIN behind it, and then credit for five bytes. -/
def emptyFinBehind : List Op :=
  [.sendStreamData 0 [7] false, .sendStreamData 0 [] true, .receive (maxDataCapsule 5)]

/-- The stream behind it. -/
def strandedStream : WtStreamInfo :=
  { streamId := 0, isLocal := true, isUnidirectional := false, bytesSent := 1,
    maxStreamDataLocal := 100, maxStreamDataRemote := 262144, pendingSends := [⟨[], true⟩] }

def strandedEntry : WtSessionInfo :=
  { openedEntry with
    bytesSent := 1, maxDataLocal := 5, receivedMaxData := some 5
    streams := (∅ : OrdMap Nat WtStreamInfo).insert 0 strandedStream }

theorem entry_emptyFinBehind :
    (emptyFinBehind.foldl step openedSession).entry = some strandedEntry := by
  decide

/-- The byte is sent and the FIN is not, although both credits have room for it and it needs
none. -/
theorem flush_strands_fin : Reached false {} strandedEntry ∧
    (emptyFinBehind.foldl step openedSession).entry = some strandedEntry ∧
    strandedEntry.isTerminated = false ∧
    strandedEntry.streams.find? 0 = some strandedStream ∧ strandedStream.sendState = .ready ∧
    strandedStream.pendingSends = [⟨[], true⟩] ∧
    strandedEntry.bytesSent < strandedEntry.maxDataLocal ∧
    strandedStream.bytesSent < strandedStream.maxStreamDataLocal ∧
    ¬strandedEntry.flushPendingSends.1.Drained := by
  refine ⟨?_, entry_emptyFinBehind, rfl, rfl, rfl, rfl, by decide, by decide, fun hdrained => ?_⟩
  · let fresh : WtSessionInfo :=
      { http2StreamId := 1, isEstablished := true, maxStreamsBidiLocal := 1,
        peerMaxStreamDataBidiLocal := 100 }
    let start : SessionScope :=
      { isServer := false, config := {}, sessionId := 1, entry := some fresh }
    have hopened : StepUnder .all start (.openStream false) openedSession :=
      stepUnder_all start (.openStream false)
    have hrun : Path (StepUnder .all) start (.openStream false :: emptyFinBehind)
        (emptyFinBehind.foldl step openedSession) :=
      ⟨openedSession, hopened, _, stepUnder_all openedSession _, _, stepUnder_all _ _, _,
        stepUnder_all _ _, rfl⟩
    exact ⟨start, fresh, _, _, ⟨rfl, rfl, rfl, rfl, rfl, rfl, rfl, rfl⟩, rfl, rfl, hrun,
      entry_emptyFinBehind⟩
  · have hleft : strandedEntry.flushPendingSends.1.streams.find? 0 = some strandedStream := by
      decide
    obtain ⟨⟨front, rest, hpending, hdata⟩, -⟩ := hdrained 0 _ hleft rfl (by decide)
    have hqueue : strandedStream.pendingSends = [⟨[], true⟩] := rfl
    rw [hqueue, List.cons.injEq] at hpending
    exact hdata (hpending.1 ▸ rfl)

end SessionScope

end H2
end WebTransport
