import WebTransport.Qmux.Connection

/-!
# Qmux.Delivery — what becomes of queued stream data

One queue holds the payloads of all streams, and `send` offers its head to dwnx.  For a stream that
was never shut for writing, the bytes that dwnx took and the bytes that are still queued are the
bytes given to `send_stream_data`, in order:

* `Attempt.conserved` : one result of `dwnx_conn_writev_stream`;
* `Kept.*`            : the API calls;
* `delivered`         : whole runs.

Two results break it.  A payload that meets `DWNX_ERR_STREAM_DATA_BLOCKED` is dropped although the
window may open again, and an empty payload without FIN that dwnx took stays at the head
(`blocked_payload_lost`).
-/

namespace WebTransport
namespace Qmux

open Bindings

/-! ## One result -/

namespace Attempt

/-- dwnx took the bytes that `datalen` counts. -/
def accepted (a : Attempt) : Bool := decide (a.n > 0) || decide (a.n = errWriteMore)

/-- The bytes of a stream that dwnx took. -/
def taken (streamId : Int) (a : Attempt) : Bytes :=
  match a.before with
  | [] => []
  | head :: _ =>
      if a.accepted = true ∧ head.streamId = streamId then head.data.take a.datalen.toNat else []

/-- The call was about the stream. -/
def about (streamId : Int) (a : Attempt) : Bool :=
  a.before.head?.any fun head => head.streamId = streamId

/-- The result does not end the payload of the stream: it is not shut for writing, and it is blocked
only with nothing to write. -/
def Fair (streamId : Int) (a : Attempt) : Prop :=
  ∀ head rest, a.before = head :: rest → head.streamId = streamId →
    a.n ≠ errStreamShutWr ∧ (a.n = errStreamDataBlocked → head.data = [])

end Attempt

/-- The bytes of a stream in the queue. -/
def remaining (streamId : Int) (pending : List PendingStreamData) : Bytes :=
  pending.flatMap fun entry => if entry.streamId = streamId then entry.data else []

theorem remaining_cons (streamId : Int) (head : PendingStreamData) (rest : List PendingStreamData) :
    remaining streamId (head :: rest) =
      (if head.streamId = streamId then head.data else []) ++ remaining streamId rest := rfl

theorem remaining_append (streamId : Int) (pending pending' : List PendingStreamData) :
    remaining streamId (pending ++ pending') =
      remaining streamId pending ++ remaining streamId pending' := List.flatMap_append

namespace QmuxConnection

/-- What is consumed goes from the front of the head. -/
theorem remaining_consume (streamId : Int) (head : PendingStreamData)
    (rest : List PendingStreamData) (datalen : Int) :
    (if head.streamId = streamId then head.data.take datalen.toNat else []) ++
        remaining streamId (consumeStreamData (head :: rest) datalen) =
      remaining streamId (head :: rest) := by
  unfold consumeStreamData
  dsimp only
  by_cases hstream : head.streamId = streamId
  · rw [if_pos hstream]
    split_ifs with hnone hall
    · have hzero : datalen.toNat = 0 := Int.toNat_eq_zero.2 hnone
      rw [hzero, List.take_zero, List.nil_append]
    · rw [remaining_cons, if_pos hstream, List.take_of_length_le hall]
    · rw [remaining_cons, remaining_cons, if_pos hstream, if_pos hstream, ← List.append_assoc,
        List.take_append_drop]
  · rw [if_neg hstream, List.nil_append]
    split_ifs with hnone hall
    · rfl
    · rw [remaining_cons, if_neg hstream, List.nil_append]
    · rw [remaining_cons, remaining_cons, if_neg hstream, if_neg hstream]

end QmuxConnection

/-- A fair result moves bytes from the queue to dwnx and loses none. -/
theorem Attempt.conserved {streamId : Int} {a : Attempt} (hfair : a.Fair streamId)
    (hafter : a.after = QmuxConnection.afterWrite a.before a.n a.datalen) :
    a.taken streamId ++ remaining streamId a.after = remaining streamId a.before := by
  rw [hafter]
  unfold Attempt.taken QmuxConnection.afterWrite
  cases hbefore : a.before with
  | nil =>
      dsimp only
      split_ifs <;> rfl
  | cons head rest =>
      dsimp only
      by_cases haccepted : a.n > 0 ∨ a.n = errWriteMore
      · have htrue : a.accepted = true := by
          unfold Attempt.accepted
          rcases haccepted with hpos | hmore
          · rw [decide_eq_true hpos, Bool.true_or]
          · rw [decide_eq_true hmore, Bool.or_true]
        rw [if_pos haccepted, htrue]
        simp only [true_and]
        exact QmuxConnection.remaining_consume streamId head rest a.datalen
      · have hfalse : ¬ (a.accepted = true ∧ head.streamId = streamId) := by
          rintro ⟨htrue, _⟩
          unfold Attempt.accepted at htrue
          simp only [Bool.or_eq_true, decide_eq_true_eq] at htrue
          exact haccepted htrue
        rw [if_neg haccepted, if_neg hfalse, List.nil_append]
        split_ifs with hdropped
        · -- The head goes; it has no bytes of the stream.
          rw [List.tail_cons, remaining_cons]
          split_ifs with hstream
          · rcases hfair head rest hbefore hstream with ⟨hopen, hblocked⟩
            rcases hdropped with hwindow | hshut
            · rw [hblocked hwindow, List.nil_append]
            · exact absurd hshut hopen
          · rfl
        · rfl

namespace QmuxConnection

variable {D : Dwnx} {s : QmuxConnection D} {streamId : Int} {total : Bytes}

/-! ## The calls -/

/-- The bytes of a stream that dwnx took so far. -/
def taken (s : QmuxConnection D) (streamId : Int) : Bytes :=
  s.attempts.flatMap (Attempt.taken streamId)

/-- As long as all results were fair to the stream, what dwnx took and what is queued make up the
whole. -/
def Kept (s : QmuxConnection D) (streamId : Int) (total : Bytes) : Prop :=
  (∀ a ∈ s.attempts, a.Fair streamId) →
    s.taken streamId ++ remaining streamId s.pendingStreamData = total

theorem Kept.attempt (h : s.Kept streamId total) : s.attempt.1.Kept streamId total := by
  intro hfair
  let a : Attempt :=
    ⟨s.pendingStreamData, (D.writevStream s.conn s.pendingStreamData.head?).2.1,
      (D.writevStream s.conn s.pendingStreamData.head?).2.2.1,
      afterWrite s.pendingStreamData (D.writevStream s.conn s.pendingStreamData.head?).2.1
        (D.writevStream s.conn s.pendingStreamData.head?).2.2.1⟩
  have hattempts : s.attempt.1.attempts = s.attempts ++ [a] := rfl
  rw [hattempts] at hfair
  have hold := h fun b hb => hfair b (List.mem_append_left _ hb)
  have hnew := Attempt.conserved (hfair a (List.mem_append_right _ List.mem_cons_self)) rfl
  calc
    s.attempt.1.taken streamId ++ remaining streamId s.attempt.1.pendingStreamData
        = (s.taken streamId ++ a.taken streamId) ++ remaining streamId a.after := by
          unfold taken
          rw [hattempts, List.flatMap_append]
          simp
          rfl
    _ = s.taken streamId ++ remaining streamId s.pendingStreamData := by
          rw [List.append_assoc, hnew]
    _ = total := hold

/-- The loop, whatever dwnx answers. -/
theorem writeStreamLoop_induction {P : QmuxConnection D → Prop}
    (hstep : ∀ s : QmuxConnection D, P s → P s.attempt.1) (attempts : Nat) (s : QmuxConnection D)
    (h : P s) : P (writeStreamLoop attempts s).1 := by
  induction attempts generalizing s with
  | zero => exact h
  | succ attempts ih =>
      have hnext := hstep s h
      unfold writeStreamLoop
      dsimp only
      split_ifs
      · exact hnext
      · exact ih _ hnext
      · exact hnext

/-- What concerns the stream queue. -/
def queue (s : QmuxConnection D) := (s.pendingStreamData, s.attempts)

theorem writeDatagramLoop_queue (attempts : Nat) (s : QmuxConnection D) :
    (writeDatagramLoop attempts s).1.queue = s.queue := by
  induction attempts generalizing s with
  | zero => rfl
  | succ attempts ih =>
      unfold writeDatagramLoop
      cases s.pendingDatagrams with
      | nil => rfl
      | cons data rest =>
          dsimp only
          split_ifs
          all_goals first
            | rfl
            | exact ih _

/-- `send` changes the stream queue by attempts only. -/
theorem send_induction {P : QmuxConnection D → Prop}
    (hstep : ∀ s : QmuxConnection D, P s → P s.attempt.1)
    (hqueue : ∀ s s' : QmuxConnection D, s'.queue = s.queue → P s → P s') (s : QmuxConnection D)
    (h : P s) : P s.send.1 := by
  have hloop := writeStreamLoop_induction hstep 64 s h
  unfold QmuxConnection.send
  split_ifs
  · exact hqueue s _ rfl h
  · unfold writePendingStreamData
    cases hwritten : writeStreamLoop 64 s with
    | mk s₁ record =>
        rw [hwritten] at hloop
        cases record with
        | some record => exact hloop
        | none =>
            dsimp only
            have hdatagrams := writeDatagramLoop_queue 64 s₁
            unfold writePendingDatagrams
            cases hsent : writeDatagramLoop 64 s₁ with
            | mk s₂ record =>
                rw [hsent] at hdatagrams
                cases record with
                | some record => exact hqueue s₁ s₂ hdatagrams hloop
                | none => exact hqueue s₁ _ hdatagrams hloop

/-- The calls that do not touch the stream queue. -/
theorem step_queue (s : QmuxConnection D) (input : Input) (hsend : input ≠ .send)
    (hdata : ∀ streamId data fin, input ≠ .sendStreamData streamId data fin) :
    (s.step input).queue = s.queue := by
  have hshutdown (call : D.Conn → Int → Nat → D.Conn × Int) (streamId : Int) (errorCode : Nat) :
      (s.orElse Prod.fst (s.shutdown call streamId errorCode)).queue = s.queue := by
    simp only [shutdown, checkVarintValue]
    split_ifs <;> rfl
  cases input with
  | send => exact absurd rfl hsend
  | sendStreamData streamId data fin => exact absurd rfl (hdata streamId data fin)
  | receive data =>
      simp only [step, receive]
      cases (D.read s.conn data).2.2 <;> rfl
  | handleTimeout => rfl
  | openStream bidirectional => rfl
  | sendDatagram data =>
      simp only [step, sendDatagram]
      split_ifs <;> rfl
  | resetStream streamId errorCode => exact hshutdown D.shutdownStreamWrite streamId errorCode
  | stopSending streamId errorCode => exact hshutdown D.shutdownStreamRead streamId errorCode
  | closeStream streamId errorCode => exact hshutdown D.shutdownStream streamId errorCode
  | close errorCode reason =>
      simp only [step, QmuxConnection.close, checkVarintValue]
      split_ifs <;> rfl

/-- The bytes that a call queues for a stream. -/
def Input.payload (streamId : Int) : Input → Bytes
  | .sendStreamData id data _ => if id = streamId then data else []
  | _ => []

theorem Kept.ofQueue {s' : QmuxConnection D} (hqueue : s'.queue = s.queue)
    (h : s.Kept streamId total) : s'.Kept streamId total := by
  simp only [queue, Prod.mk.injEq] at hqueue
  intro hfair
  unfold taken
  rw [hqueue.1, hqueue.2]
  rw [hqueue.2] at hfair
  exact h hfair

theorem Kept.step (h : s.Kept streamId total) (input : Input) :
    (s.step input).Kept streamId (total ++ input.payload streamId) := by
  by_cases hsend : input = .send
  · subst hsend
    have hsent : s.send.1.Kept streamId total :=
      send_induction (P := fun s => s.Kept streamId total) (fun _ h => h.attempt)
        (fun _ _ hqueue h => h.ofQueue hqueue) s h
    simpa [Input.payload, QmuxConnection.step] using hsent
  by_cases hdata : ∃ id data fin, input = .sendStreamData id data fin
  · rcases hdata with ⟨id, data, fin, rfl⟩
    intro hfair
    have hold := h hfair
    have htaken : (s.step (.sendStreamData id data fin)).taken streamId = s.taken streamId := rfl
    have hpending : (s.step (.sendStreamData id data fin)).pendingStreamData =
        s.pendingStreamData ++ [⟨id, data, fin⟩] := rfl
    rw [htaken, hpending, remaining_append, ← List.append_assoc, hold]
    simp [remaining, Input.payload]
  · have hqueue : (s.step input).queue = s.queue := by
      apply step_queue s input hsend
      intro id data fin heq
      exact hdata ⟨id, data, fin, heq⟩
    have hnone : input.payload streamId = [] := by
      cases input with
      | sendStreamData id data fin => exact absurd ⟨id, data, fin, rfl⟩ hdata
      | _ => rfl
    rw [hnone, List.append_nil]
    exact h.ofQueue hqueue

/-! ## Empty payloads -/

/-- Only payloads that carry the FIN are empty, in the queue and at every attempt. -/
structure NoEmpty (s : QmuxConnection D) : Prop where
  pending : ∀ entry ∈ s.pendingStreamData, entry.data = [] → entry.fin = true
  attempts : ∀ a ∈ s.attempts, ∀ entry ∈ a.before, entry.data = [] → entry.fin = true

theorem NoEmpty.ofQueue {s' : QmuxConnection D} (hqueue : s'.queue = s.queue) (h : s.NoEmpty) :
    s'.NoEmpty := by
  simp only [queue, Prod.mk.injEq] at hqueue
  refine ⟨?_, ?_⟩
  · rw [hqueue.1]
    exact h.pending
  · rw [hqueue.2]
    exact h.attempts

/-- What stays in the queue behind a result. -/
theorem afterWrite_noEmpty {pending : List PendingStreamData}
    (h : ∀ entry ∈ pending, entry.data = [] → entry.fin = true) (n datalen : Int) :
    ∀ entry ∈ afterWrite pending n datalen, entry.data = [] → entry.fin = true := by
  unfold afterWrite
  split_ifs
  · cases pending with
    | nil => exact h
    | cons head rest =>
        have hrest : ∀ entry ∈ rest, entry.data = [] → entry.fin = true :=
          fun entry hmem => h entry (List.mem_cons_of_mem _ hmem)
        unfold consumeStreamData
        dsimp only
        split_ifs with hnone hall
        · exact h
        · exact hrest
        · intro entry hmem hempty
          rcases List.mem_cons.1 hmem with rfl | hlater
          · exact absurd (List.drop_eq_nil_iff.1 hempty) hall
          · exact hrest entry hlater hempty
  · exact fun entry hmem => h entry (List.mem_of_mem_tail hmem)
  · exact h

theorem NoEmpty.attempt (h : s.NoEmpty) : s.attempt.1.NoEmpty := by
  refine ⟨afterWrite_noEmpty h.pending _ _, ?_⟩
  intro a ha
  rcases List.mem_append.1 ha with hold | hnew
  · exact h.attempts a hold
  · rw [List.mem_singleton.1 hnew]
    exact h.pending

theorem NoEmpty.step (h : s.NoEmpty) {input : Input}
    (hinput : ∀ streamId, input ≠ .sendStreamData streamId [] false) : (s.step input).NoEmpty := by
  by_cases hsend : input = .send
  · subst hsend
    exact send_induction (P := NoEmpty) (fun _ h => h.attempt)
      (fun _ _ hqueue h => h.ofQueue hqueue) s h
  by_cases hdata : ∃ id data fin, input = .sendStreamData id data fin
  · rcases hdata with ⟨id, data, fin, rfl⟩
    refine ⟨?_, h.attempts⟩
    intro entry hmem hempty
    rcases List.mem_append.1 hmem with hold | hnew
    · exact h.pending entry hold hempty
    · rw [List.mem_singleton.1 hnew] at hempty ⊢
      have hnil : data = [] := hempty
      cases fin with
      | true => rfl
      | false => exact absurd (by rw [hnil]) (hinput id)
  · apply h.ofQueue
    apply step_queue s input hsend
    intro id data fin heq
    exact hdata ⟨id, data, fin, heq⟩

/-! ## Runs -/

/-- The bytes queued for a stream by a run. -/
def queued (streamId : Int) (inputs : List Input) : Bytes := inputs.flatMap (Input.payload streamId)

theorem Kept.run (inputs : List Input) (h : s.Kept streamId total) :
    (s.run inputs).Kept streamId (total ++ queued streamId inputs) := by
  induction inputs generalizing s total with
  | nil =>
      have hnil : total ++ queued streamId [] = total := List.append_nil total
      rw [hnil]
      exact h
  | cons input rest ih =>
      have hrest := ih (h.step input)
      have hassoc : total ++ queued streamId (input :: rest) =
          (total ++ input.payload streamId) ++ queued streamId rest := by
        simp [queued]
      rw [hassoc]
      exact hrest

theorem NoEmpty.run (inputs : List Input) (h : s.NoEmpty)
    (hinputs : ∀ streamId, .sendStreamData streamId [] false ∉ inputs) : (s.run inputs).NoEmpty := by
  induction inputs generalizing s with
  | nil => exact h
  | cons input rest ih =>
      have hstep : (s.step input).NoEmpty := by
        apply h.step
        rintro streamId rfl
        exact hinputs streamId List.mem_cons_self
      exact ih hstep fun streamId hmem => hinputs streamId (List.mem_cons_of_mem _ hmem)

/-- dwnx never answered that the stream is shut for writing. -/
def neverShut (s : QmuxConnection D) (streamId : Int) : Prop :=
  ∀ a ∈ s.attempts, a.about streamId = true → a.n ≠ errStreamShutWr

/-- The send path neither drops, nor reorders, nor gets stuck. -/
structure Delivered (s : QmuxConnection D) (inputs : List Input) : Prop where
  /-- what dwnx took, then what is queued, is what the application sent -/
  bytes : ∀ streamId, s.neverShut streamId →
    s.taken streamId ++ remaining streamId s.pendingStreamData = queued streamId inputs
  /-- an empty payload that dwnx took leaves the head of the queue -/
  empty : ∀ a ∈ s.attempts, ∀ streamId rest, a.before = ⟨streamId, [], false⟩ :: rest →
    a.accepted = true → a.datalen = 0 → a.after = rest

/-- In every run in which no payload with bytes of an open stream meets
`DWNX_ERR_STREAM_DATA_BLOCKED` and no empty payload without FIN is queued. -/
theorem delivered (conn : D.Conn) (maxDatagramFrameSize : Nat) (inputs : List Input)
    (hwindow : ∀ a ∈ ((create conn maxDatagramFrameSize : QmuxConnection D).run inputs).attempts,
      a.n = errStreamDataBlocked → ∀ head rest, a.before = head :: rest →
        ((create conn maxDatagramFrameSize : QmuxConnection D).run inputs).neverShut head.streamId →
        head.data = [])
    (hpayloads : ∀ streamId, .sendStreamData streamId [] false ∉ inputs) :
    ((create conn maxDatagramFrameSize : QmuxConnection D).run inputs).Delivered inputs := by
  have hcreated : (create conn maxDatagramFrameSize : QmuxConnection D).NoEmpty :=
    ⟨fun _ hmem => absurd hmem List.not_mem_nil, fun _ hmem => absurd hmem List.not_mem_nil⟩
  have hnoEmpty := hcreated.run inputs hpayloads
  refine ⟨?_, ?_⟩
  · intro streamId hopen
    have hstart : (create conn maxDatagramFrameSize : QmuxConnection D).Kept streamId [] :=
      fun _ => rfl
    have hkept := hstart.run inputs
    rw [List.nil_append] at hkept
    apply hkept
    intro a ha head rest hbefore hstream
    refine ⟨?_, ?_⟩
    · apply hopen a ha
      simp [Attempt.about, hbefore, hstream]
    · intro hblocked
      apply hwindow a ha hblocked head rest hbefore
      rw [hstream]
      exact hopen
  · intro a ha streamId rest hbefore _ _
    -- No such payload was ever at the head.
    have hmem : ⟨streamId, [], false⟩ ∈ a.before := by
      rw [hbefore]
      exact List.mem_cons_self
    have hfin := hnoEmpty.attempts a ha ⟨streamId, [], false⟩ hmem rfl
    cases hfin

/-- A dwnx that answers `dwnx_conn_writev_stream` from a list, and then that there is nothing to
send. -/
def answering : Dwnx where
  Conn := List (Int × Int)
  writevStream
    | [], _ => ([], 0, -1, [])
    | (n, datalen) :: rest, _ => (rest, n, datalen, [])
  writevDatagram conn _ := (conn, 0, false, [])
  writeRecord conn := (conn, 0, [])
  writeConnectionClose conn _ _ := (conn, 0, [])
  read conn _ := (conn, 0, none)
  handleExpiry conn := conn
  openStream conn _ := (conn, 0, 0)
  shutdownStreamWrite conn _ _ := (conn, 0)
  shutdownStreamRead conn _ _ := (conn, 0)
  shutdownStream conn _ _ := (conn, 0)

/-- Two streams share the queue, and the first payload is written in parts. -/
def twoStreams : QmuxConnection answering :=
  (create [(errWriteMore, 2), (20, 1), (errWriteMore, 1), (0, -1)] 0 : QmuxConnection answering).run
    [.sendStreamData 0 [1, 2, 3] false, .sendStreamData 4 [9] true, .send, .send]

theorem delivered_two_streams :
    twoStreams.taken 0 = [1, 2, 3] ∧ twoStreams.Delivered
      [.sendStreamData 0 [1, 2, 3] false, .sendStreamData 4 [9] true, .send, .send] := by
  have hnever : ∀ a ∈ twoStreams.attempts, a.n ≠ errStreamDataBlocked := by decide +kernel
  refine ⟨by decide +kernel, delivered _ 0 _ ?_ ?_⟩
  · intro a ha hblocked
    exact absurd hblocked (hnever a ha)
  · intro streamId hmem
    simp at hmem

/-- The window of stream 0 is full behind the first byte and opens again later. -/
def blockedRun : QmuxConnection answering :=
  (create [(20, 1), (errStreamDataBlocked, -1), (0, -1), (20, 1)] 0 : QmuxConnection answering).run
    [.sendStreamData 0 [1, 2, 3] false, .send, .send, .sendStreamData 0 [4] false, .send]

/-- An empty payload is taken, and it is offered again for ever. -/
def stuckRun : QmuxConnection answering :=
  (create [(20, 0)] 0 : QmuxConnection answering).run
    [.sendStreamData 0 [] false, .sendStreamData 4 [9] false, .send]

/-- The rest of a payload that met `DWNX_ERR_STREAM_DATA_BLOCKED` is gone and the next payload of the
stream follows at once; an empty payload that dwnx took stays in front of another stream. -/
theorem blocked_payload_lost :
    (blockedRun.neverShut 0 ∧ blockedRun.taken 0 = [1, 4] ∧
      ¬ blockedRun.Delivered
        [.sendStreamData 0 [1, 2, 3] false, .send, .send, .sendStreamData 0 [4] false, .send]) ∧
    stuckRun.pendingStreamData = [⟨0, [], false⟩, ⟨4, [9], false⟩] ∧
      ¬ stuckRun.Delivered [.sendStreamData 0 [] false, .sendStreamData 4 [9] false, .send] := by
  have hopen : blockedRun.neverShut 0 := by
    unfold neverShut
    decide +kernel
  refine ⟨⟨hopen, by decide +kernel, ?_⟩, by decide +kernel, ?_⟩
  · intro h
    have hbytes := h.bytes 0 hopen
    revert hbytes
    decide +kernel
  · intro h
    have hhead := h.empty
      ⟨[⟨0, [], false⟩, ⟨4, [9], false⟩], 20, 0, [⟨0, [], false⟩, ⟨4, [9], false⟩]⟩
      (by decide +kernel) 0 [⟨4, [9], false⟩] rfl rfl rfl
    revert hhead
    decide

end QmuxConnection

end Qmux
end WebTransport
