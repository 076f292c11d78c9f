import WebTransport.Client.Waiters

/-!
# Client.WakeUps — the waiters of `quic.Client` lose no wake-up

An attempt to connect that is abandoned clears the table of receive states without setting any event.
By then the receive task is done, its end has woken every waiter, and as the ready queue is first-in
first-out they have run.

1. stages of the receive task and of `connect()`,
2. the receive task,
3. steps of the event loop,
4. runs.
-/

namespace WebTransport.QuicClient
namespace Client

variable {c : Client} {exempt : ObjectId → Prop} {busy : CallId → Prop} {i : CallId} {call : Call}

/-! ## Stages of the receive task and of `connect()` -/

/-- Another stage of the receive task and of `connect()`. -/
theorem Inv.move {task : Option TaskState} {connecting : Connecting} {ready : List Handle}
    (h : c.Inv exempt busy)
    (hqueue : ({ c with recvTask := task, connecting, ready } : Client).Queue)
    (hphases : ({ c with recvTask := task, connecting, ready } : Client).Phases)
    (hlive : task = some .done → ∀ i call, c.calls i = some call → call.status ≠ .suspended) :
    ({ c with recvTask := task, connecting, ready } : Client).Inv exempt busy := by
  refine ⟨hqueue, hphases, ?_, ⟨h.tables.made, h.tables.apart, ?_, h.tables.fresh, h.tables.called⟩,
    ⟨h.records.data, h.records.received⟩, h.running⟩
  · refine ⟨h.waits.current, h.waits.waiters, h.waits.nodup, h.waits.unset, ?_, ?_⟩
    · intro i call hcall hsuspended hexempt
      have hblocked := h.waits.blocked i call hcall hsuspended hexempt
      exact ⟨hblocked.completed, hblocked.taskError, hblocked.connectionClosed⟩
    · exact fun i call hcall hsuspended hdone => hlive hdone i call hcall hsuspended
  · exact fun i call hcall => ⟨(h.tables.own i call hcall).made, (h.tables.own i call hcall).stream⟩

/-- The queue when a stage posts what is due next. -/
theorem Queue.restage {task : Option TaskState} {connecting : Connecting} (h : c.Queue)
    (posted : List Handle) (hnodup : posted.Nodup)
    (hposted : ∀ handle ∈ posted, ¬ handle.IsWaiter ∧ ¬ c.Due handle)
    (hstart : .recvStart ∈ posted → c.connecting ≠ .resumed ∧ .connect ∉ posted)
    (hdue : ∀ handle : Handle, ¬ handle.IsWaiter →
      (({ c with recvTask := task, connecting } : Client).Due handle ↔
        c.Due handle ∨ handle ∈ posted)) :
    ({ c with recvTask := task, connecting, ready := c.ready ++ posted } : Client).Queue := by
  refine ⟨?_, ?_, h.abandoned.post_not_early fun handle hin => (hposted handle hin).1⟩
  · apply h.scheduled.post hnodup fun handle hin => (hposted handle hin).2
    intro handle
    by_cases hwaiter : handle.IsWaiter
    · have hnot : handle ∉ posted := fun hin => (hposted _ hin).1 hwaiter
      cases handle with
      | waiter i => exact ⟨.inl, fun hor => hor.resolve_right hnot⟩
      | _ => cases hwaiter
    · exact hdue handle hwaiter
  · by_cases hin : Handle.recvStart ∈ posted
    · obtain ⟨hresumed, hconnect⟩ := hstart hin
      apply h.started.post_not_late
      · rintro handle hready rfl
        exact hresumed ((h.scheduled.mem_iff _).1 hready)
      · rintro handle hposted' rfl
        exact hconnect hposted'
    · apply h.started.post_not_early
      rintro handle hposted' rfl
      exact hin hposted'

/-- The queue when a stage changes nothing in what is due. -/
theorem Queue.stay {task : Option TaskState} {connecting : Connecting} (h : c.Queue)
    (hdue : ∀ handle : Handle, ¬ handle.IsWaiter →
      (({ c with recvTask := task, connecting } : Client).Due handle ↔ c.Due handle)) :
    ({ c with recvTask := task, connecting, ready := c.ready } : Client).Queue := by
  have hqueue := h.restage [] List.nodup_nil (fun _ hin => absurd hin List.not_mem_nil)
    (fun hin => absurd hin List.not_mem_nil)
    fun handle hwaiter => (hdue handle hwaiter).trans (by simp)
  rw [List.append_nil] at hqueue
  exact hqueue

/-- The queue when the stage in front has run. -/
theorem Queue.popped {task : Option TaskState} {connecting : Connecting} {front : Handle}
    {rest : List Handle} (h : c.Queue) (hready : c.ready = front :: rest) (hfront : ¬ front.IsWaiter)
    (hdue : ∀ handle : Handle, ¬ handle.IsWaiter →
      (({ c with recvTask := task, connecting } : Client).Due handle ↔ c.Due handle ∧ handle ≠ front)) :
    ({ c with recvTask := task, connecting, ready := rest } : Client).Queue := by
  have hscheduled := h.scheduled
  have hstarted := h.started
  have habandoned := h.abandoned
  rw [hready] at hscheduled hstarted habandoned
  refine ⟨hscheduled.pop ?_, hstarted.pop, habandoned.pop⟩
  intro handle
  by_cases hwaiter : handle.IsWaiter
  · have hne : handle ≠ front := by
      rintro rfl
      exact hfront hwaiter
    cases handle with
    | waiter i => exact ⟨fun hdue => ⟨hdue, hne⟩, And.left⟩
    | _ => cases hwaiter
  · exact hdue handle hwaiter

/-- What is in front is due. -/
theorem Queue.due_front {front : Handle} {rest : List Handle} (h : c.Queue)
    (hready : c.ready = front :: rest) : c.Due front :=
  (h.scheduled.mem_iff front).1 (hready ▸ List.mem_cons_self)

/-- `_abandon_attempt` behind its await, when every call has ended. -/
theorem Inv.forgetAttempt (h : c.Inv Nothing Nobody) (hidle : c.connecting = .idle ∨
    c.connecting = .attempting) (htask : c.recvTask = none ∨ c.recvTask = some .done)
    (hfinished : ∀ i call, c.calls i = some call → ∃ outcome, call.status = .finished outcome) :
    c.forgetAttempt.Inv Nothing Nobody := by
  have hnobody {i call} (hcall : c.calls i = some call) (hsuspended : call.status = .suspended) :
      False := by
    obtain ⟨outcome, heq⟩ := hfinished i call hcall
    rw [hsuspended] at heq
    cases heq
  have hempty {streamId : Nat} {o : ObjectId} :
      (∅ : Dict Nat ObjectId).lookup streamId ≠ some o := by simp
  refine ⟨⟨?_, h.queue.started, h.queue.abandoned⟩, ?_, ?_, ?_, ⟨h.records.data, ?_⟩, h.running⟩
  · apply h.queue.scheduled.congr
    intro handle
    cases handle with
    | waiter i => exact Iff.rfl
    | recvStart => rcases htask with heq | heq <;> simp [Due, Client.forgetAttempt, heq]
    | recv => rcases htask with heq | heq <;> simp [Due, Client.forgetAttempt, heq]
    | _ => rcases hidle with heq | heq <;> simp [Due, Client.forgetAttempt, heq]
  · constructor <;> simp [Client.forgetAttempt]
    exact hfinished
  · refine ⟨?_, h.waits.waiters, h.waits.nodup, h.waits.unset, ?_, ?_⟩
    · exact fun i call hcall hsuspended => (hnobody hcall hsuspended).elim
    · exact fun i call hcall hsuspended => (hnobody hcall hsuspended).elim
    · exact fun i call hcall hsuspended => (hnobody hcall hsuspended).elim
  · refine ⟨fun s o hin => absurd hin hempty, fun s s' o hin => absurd hin hempty, ?_, h.tables.fresh,
      h.tables.called⟩
    exact fun i call hcall => ⟨(h.tables.own i call hcall).made, fun s hin => absurd hin hempty⟩
  · intro i call data fin hcall heq
    obtain ⟨hfin, hdata, -⟩ := h.records.received i call data fin hcall heq
    exact ⟨hfin, hdata, fun s hin => absurd hin hempty⟩

/-- `_abandon_attempt` of an attempt whose receive task was created and has started. -/
theorem Inv.abandonAttempt (h : c.Inv Nothing Nobody) (hidle : c.connecting = .idle)
    (htask : c.recvTask ≠ none) (hstarted : ∀ cancelled, c.recvTask ≠ some (.created cancelled)) :
    c.abandonAttempt.Inv Nothing Nobody := by
  unfold Client.abandonAttempt
  cases heq : c.recvTask with
  | none => exact absurd heq htask
  | some task =>
      cases task with
      | created cancelled => exact absurd heq (hstarted cancelled)
      | suspended =>
          -- `cancel()` schedules the task
          apply h.move
          · apply h.queue.restage [.recv] (List.nodup_singleton _)
            · simp [Handle.IsWaiter, Due, heq]
            · simp
            · rintro (_ | _) <;> simp [Handle.IsWaiter, Due, heq, hidle]
          · constructor <;> simp
          · simp
      | ready =>
          apply h.move
          · apply h.queue.stay
            rintro (_ | _) <;> simp [Handle.IsWaiter, Due, heq, hidle]
          · constructor <;> simp
          · simp
      | running =>
          apply h.move
          · apply h.queue.stay
            rintro (_ | _) <;> simp [Handle.IsWaiter, Due, heq, hidle]
          · constructor <;> simp
          · simp
      | done =>
          have hclosed := h.phases.closed heq
          apply h.move
          · apply h.queue.restage [.gatherDone] (List.nodup_singleton _)
            · simp [Handle.IsWaiter, Due, hidle]
            · simp
            · rintro (_ | _) <;> simp [Handle.IsWaiter, Due, heq, hidle]
          · constructor <;> simp [hclosed]
          · exact fun _ i call hcall hsuspended => h.waits.live i call hcall hsuspended heq

/-- The receive task is done. -/
theorem Inv.taskDone (h : c.Inv Nothing Nobody) (htask : c.recvTask = some .running)
    (hclosed : c.connectionClosedEvent = true)
    (hnobody : ∀ i call, c.calls i = some call → call.status ≠ .suspended) :
    c.taskDone.Inv Nothing Nobody := by
  unfold Client.taskDone
  split_ifs with hgathering
  · apply h.move
    · apply h.queue.restage [.gatherDone] (List.nodup_singleton _)
      · simp [Handle.IsWaiter, Due, hgathering]
      · simp
      · rintro (_ | _) <;> simp [Handle.IsWaiter, Due, htask, hgathering]
    · constructor <;> simp [hclosed]
    · exact fun _ => hnobody
  · have hattempting : c.connecting ≠ .attempting := by
      intro heq
      have hnone := h.phases.attempting heq
      rw [htask] at hnone
      cases hnone
    apply h.move
    · apply h.queue.stay
      rintro (_ | _) <;> simp [Handle.IsWaiter, Due, htask]
    · constructor <;> simp [hclosed, hgathering, hattempting]
    · exact fun _ => hnobody

/-- The connection is closed: every state is exempt until its event is set. -/
theorem Inv.closing (h : c.Inv Nothing busy) (taskError : Option Nat) :
    ({ c with taskError, connectionClosedEvent := true } : Client).Inv (fun _ => True) busy := by
  refine ⟨⟨h.queue.scheduled, h.queue.started, h.queue.abandoned⟩, ?_, ?_, ?_,
    ⟨h.records.data, h.records.received⟩, h.running⟩
  · exact { h.phases with closed := fun _ => rfl }
  · refine ⟨h.waits.current, h.waits.waiters, h.waits.nodup, h.waits.unset, ?_, h.waits.live⟩
    exact fun i call _ _ hnot => absurd trivial hnot
  · refine ⟨h.tables.made, h.tables.apart, ?_, h.tables.fresh, h.tables.called⟩
    exact fun i call hcall => ⟨(h.tables.own i call hcall).made, (h.tables.own i call hcall).stream⟩

/-- The ends of `_background_recv`: nobody is left waiting. -/
theorem Inv.ended (h : c.Inv Nothing Nobody) (htask : c.recvTask = some .running)
    (taskError : Option Nat) :
    (Client.wakeStreamWaiters { c with taskError, connectionClosedEvent := true }).taskDone.Inv
      Nothing Nobody := by
  obtain ⟨hinv, hnobody, hsame, -, hclosed⟩ := (h.closing taskError).wakeStreamWaiters
  exact hinv.taskDone (hsame.trans htask) hclosed hnobody

theorem setdefault_frame (streamId : Nat) (c : Client) :
    (c.setdefault streamId).1.recvTask = c.recvTask := by
  unfold Client.setdefault
  cases c.recvStates.lookup streamId <;> rfl

/-- The receive task handles an event. -/
theorem Inv.handleReceived (h : c.Inv Nothing busy) (received : Received) :
    (c.handleReceived received).Inv Nothing busy ∧
      (c.handleReceived received).recvTask = c.recvTask := by
  cases received with
  | streamData streamId data fin =>
      refine ⟨h.updateRecvState streamId data fin, ?_⟩
      have hset := setEvent_frame (c.setdefault streamId).2
      exact ((hset _).2.2.1).trans (setdefault_frame streamId c)
  | streamReset streamId errorCode =>
      refine ⟨h.handleStreamReset streamId errorCode, ?_⟩
      have hset := setEvent_frame (c.setdefault streamId).2
      exact ((hset _).2.2.1).trans (setdefault_frame streamId c)
  | connectionClosed =>
      obtain ⟨hinv, -, htask, -, -⟩ := (h.closing c.taskError).wakeStreamWaiters
      exact ⟨hinv, htask⟩
  | discardRecvState streamId =>
      exact ⟨h.discardRecvState streamId, (discardRecvState_frame h.waits streamId).1⟩

theorem Inv.foldl_handleReceived (received : List Received) (h : c.Inv Nothing busy) :
    (received.foldl Client.handleReceived c).Inv Nothing busy ∧
      (received.foldl Client.handleReceived c).recvTask = c.recvTask := by
  induction received generalizing c with
  | nil => exact ⟨h, rfl⟩
  | cons event rest ih =>
      obtain ⟨hinv, htask⟩ := h.handleReceived event
      obtain ⟨hinv', htask'⟩ := ih hinv
      exact ⟨hinv', htask'.trans htask⟩

/-- A step of the receive task, which has been taken off the queue. -/
theorem Inv.recvTurn (received : List Received) (stop : Stop)
    (h : ({ c with recvTask := some .running } : Client).Inv Nothing Nobody) :
    (c.recvTurn received stop).Inv Nothing Nobody := by
  obtain ⟨hinv, htask⟩ := h.foldl_handleReceived received
  unfold Client.recvTurn
  generalize received.foldl Client.handleReceived { c with recvTask := some .running } = c' at *
  dsimp only at htask ⊢
  cases stop with
  | awaits =>
      have hattempting : c'.connecting ≠ .attempting := by
        intro heq
        have hnone := hinv.phases.attempting heq
        rw [htask] at hnone
        cases hnone
      have hgathered : ¬ (c'.connecting = .gathered ∨ c'.connecting = .abandoning) := by
        intro heq
        have hdone := hinv.phases.gathered heq
        rw [htask] at hdone
        cases hdone
      apply hinv.move
      · apply hinv.queue.stay
        rintro (_ | _) <;> simp [Handle.IsWaiter, Due, htask]
      · constructor <;> simp_all
      · simp
  | returns => exact hinv.ended htask c'.taskError
  | cancelled => exact hinv.ended htask c'.taskError
  | raises exc => exact hinv.ended htask (some exc)

/-! ## Steps of the event loop -/

/-- A call whose wait is over is taken off the queue. -/
theorem Inv.take {rest : List Handle} (h : c.Inv Nothing Nobody) (hready : c.ready = .waiter i :: rest)
    (hcall : c.calls i = some call) :
    ({ c with ready := rest }.setCall i (call.become .running)).Inv Nothing (· = i) ∧
      ({ c with ready := rest }.setCall i (call.become .running)).InStep i (call.become .running) := by
  have hscheduled : call.status.scheduled = true := (due_waiter hcall).1 (h.queue.due_front hready)
  have haside : Aside { c with ready := rest } i := by
    intro before hbefore hsuspended
    have heq : some call = some before := hcall.symm.trans hbefore
    cases heq
    rw [hsuspended] at hscheduled
    cases hscheduled
  have htask : c.recvTask ≠ none := by
    intro hnone
    obtain ⟨outcome, hfinished⟩ := h.phases.idle hnone i call hcall
    rw [hfinished] at hscheduled
    cases hscheduled
  have hown := h.tables.own i call hcall
  have hself : ({ c with ready := rest }.setCall i (call.become .running)).calls i =
      some (call.become .running) := setCall_calls.2 (.inl ⟨rfl, rfl⟩)
  have hqueue := h.queue
  obtain ⟨hs, hstarted, habandoned⟩ := hqueue
  rw [hready] at hs hstarted habandoned
  -- the queue behind the front, with the same calls
  have hwaits : ({ c with ready := rest } : Client).Waits Nothing := by
    refine ⟨h.waits.current, h.waits.waiters, h.waits.nodup, h.waits.unset, ?_, h.waits.live⟩
    intro j call' hcall' hsuspended hexempt
    have hblocked := h.waits.blocked j call' hcall' hsuspended hexempt
    exact ⟨hblocked.completed, hblocked.taskError, hblocked.connectionClosed⟩
  have htables : ({ c with ready := rest } : Client).Tables := by
    refine ⟨h.tables.made, h.tables.apart, ?_, h.tables.fresh, h.tables.called⟩
    exact fun j call' hcall' =>
      ⟨(h.tables.own j call' hcall').made, (h.tables.own j call' hcall').stream⟩
  have hphases : ({ c with ready := rest } : Client).Phases := { h.phases with }
  have hrecords : ({ c with ready := rest } : Client).Records := ⟨h.records.data, h.records.received⟩
  have hcalled : i < c.called := by
    by_contra hle
    have hnone := h.tables.called i (Nat.le_of_not_lt hle)
    rw [hcall] at hnone
    cases hnone
  refine ⟨⟨⟨?_, hstarted.pop, habandoned.pop⟩, hphases.setCall htask,
    hwaits.setCall haside Status.noConfusion, htables.setCall ⟨hown.made, hown.stream⟩ hcalled,
    hrecords.setCall fun _ _ heq => Status.noConfusion heq, ?_⟩, ⟨⟨_, hself, rfl⟩,
    ⟨hown.made, hown.stream⟩, htask⟩⟩
  · apply hs.pop
    intro handle
    by_cases heq : handle = .waiter i
    · subst heq
      constructor
      · exact fun hdue => Bool.noConfusion (due_setCall.1 hdue)
      · exact fun hdue => absurd rfl hdue.2
    · have hsame : ({ c with ready := rest }.setCall i (call.become .running)).Due handle ↔
          c.Due handle := due_setCall_ne heq
      exact hsame.trans ⟨fun hdue => ⟨hdue, heq⟩, And.left⟩
  · intro j call' hcall' hrunning
    rcases setCall_calls.1 hcall' with ⟨heq, -⟩ | ⟨-, hsame⟩
    · exact heq
    · exact (h.running j call' hsame hrunning).elim

/-- The step of a call whose wait is over. -/
theorem Inv.resume {before : Call} (clock : Nat → ℚ) (h : c.Inv Nothing (· = i))
    (hstep : c.InStep i (before.become .running)) (hscheduled : before.status.scheduled = true) :
    (c.resume i clock before).Inv Nothing Nobody := by
  unfold Client.resume
  have hmade : before.state < c.made := hstep.own.made
  cases hstatus : before.status with
  | running => rw [hstatus] at hscheduled; cases hscheduled
  | suspended => rw [hstatus] at hscheduled; cases hscheduled
  | finished outcome => rw [hstatus] at hscheduled; cases hscheduled
  | woken =>
      apply (h.clearEvent hmade).waitLoop
      exact ⟨hstep.stored, ⟨hstep.own.made, hstep.own.stream⟩, hstep.task⟩
  | interrupted cancelled =>
      cases cancelled with
      | false => exact h.afterTimeout clock hstep
      | true =>
          apply h.finish
          · exact ⟨hstep.stored, ⟨hstep.own.made, hstep.own.stream⟩, hstep.task⟩
          · exact fun data fin heq => nomatch heq

/-- A call that waits is taken off the event of its state. -/
theorem Inv.unsuspend (h : c.Inv Nothing Nobody) (hcall : c.calls i = some call)
    (hsuspended : call.status = .suspended) :
    ((c.setObject call.state { c.objects call.state with
        event := { (c.objects call.state).event with
          waiters := (c.objects call.state).event.waiters.erase i } }).setCall i
            (call.become .running)).Inv Nothing (· = i) := by
  have hown := h.tables.own i call hcall
  have hnodup := h.waits.nodup call.state
  obtain ⟨hqueue, hphases, htables, hrecords⟩ :=
    h.setWaiters ((c.objects call.state).event.waiters.erase i) hown.made
  have hwaiters (o' : ObjectId) := objects_setWaiters c call.state
    ((c.objects call.state).event.waiters.erase i) o'
  have hsame (o' : ObjectId) := objects_update_event c call.state
    { (c.objects call.state).event with
      waiters := (c.objects call.state).event.waiters.erase i } o'
  have hlive := h.waits.live i call hcall hsuspended
  generalize hc : c.setObject call.state { c.objects call.state with
    event := { (c.objects call.state).event with
      waiters := (c.objects call.state).event.waiters.erase i } } = c' at *
  have hcalls : c'.calls = c.calls := by rw [← hc]; rfl
  have hstates : c'.recvStates = c.recvStates := by rw [← hc]; rfl
  have htask : c'.recvTask = c.recvTask := by rw [← hc]; rfl
  have hclosed : c'.connectionClosedEvent = c.connectionClosedEvent := by rw [← hc]; rfl
  have herror : c'.taskError = c.taskError := by rw [← hc]; rfl
  have hmade : c'.made = c.made := by rw [← hc]; rfl
  have hcalled : c'.called = c.called := by rw [← hc]; rfl
  have hcompleted (call' : Call) : c'.completed call' = c.completed call' := by
    have hobject := hsame call'.state
    rw [← hc]
    exact completed_congr rfl hobject.1 hobject.2.1 hobject.2.2
  have hself : (c'.setCall i (call.become .running)).calls i = some (call.become .running) :=
    setCall_calls.2 (.inl ⟨rfl, rfl⟩)
  have hother {j : CallId} {call' : Call}
      (hcall' : (c'.setCall i (call.become .running)).calls j = some call')
      (hsuspended' : call'.status = .suspended) : j ≠ i ∧ c.calls j = some call' := by
    rcases setCall_calls.1 hcall' with ⟨-, rfl⟩ | ⟨hne, hsame⟩
    · cases hsuspended'
    · exact ⟨hne, hcalls ▸ hsame⟩
  have hnone : c.recvTask ≠ none := by
    intro hnone
    obtain ⟨outcome, hfinished⟩ := h.phases.idle hnone i call hcall
    rw [hsuspended] at hfinished
    cases hfinished
  refine ⟨⟨?_, hqueue.started, hqueue.abandoned⟩, hphases.setCall (htask ▸ hnone), ?_, ?_, ?_, ?_⟩
  · apply Scheduled.setCall hqueue.scheduled
    rw [due_setCall, due_waiter (hcalls ▸ hcall), hsuspended]
    rfl
  · refine ⟨?_, ?_, ?_, ?_, ?_, ?_⟩
    · intro j call' hcall' hsuspended'
      obtain ⟨hne, hold⟩ := hother hcall' hsuspended'
      obtain ⟨hlookup, hin⟩ := h.waits.current j call' hold hsuspended'
      change c'.recvStates.lookup _ = _ ∧ j ∈ (c'.objects _).event.waiters
      rw [hstates, (hwaiters call'.state).1]
      refine ⟨hlookup, ?_⟩
      split_ifs with hstate
      · exact (List.mem_erase_of_ne hne).2 (hstate ▸ hin)
      · exact hin
    · intro o' j hin
      change j ∈ (c'.objects o').event.waiters at hin
      rw [(hwaiters o').1] at hin
      have hin' : j ∈ (c.objects o').event.waiters ∧ j ≠ i := by
        split_ifs at hin with hstate
        · subst hstate
          exact ⟨List.mem_of_mem_erase hin, fun heq => (hnodup.not_mem_erase) (heq ▸ hin)⟩
        · refine ⟨hin, ?_⟩
          rintro rfl
          obtain ⟨call', hcall', -, hstate'⟩ := h.waits.waiters o' j hin
          rw [hcall] at hcall'
          cases hcall'
          exact hstate hstate'.symm
      obtain ⟨call', hcall', hsuspended', hstate'⟩ := h.waits.waiters o' j hin'.1
      exact ⟨call', setCall_calls.2 (.inr ⟨hin'.2, hcalls ▸ hcall'⟩), hsuspended', hstate'⟩
    · intro o'
      change (c'.objects o').event.waiters.Nodup
      rw [(hwaiters o').1]
      split_ifs
      · exact hnodup.erase i
      · exact h.waits.nodup o'
    · intro o' hset
      change (c'.objects o').event.isSet = true at hset
      change (c'.objects o').event.waiters = []
      rw [(hwaiters o').2] at hset
      rw [(hwaiters o').1]
      split_ifs with hstate
      · subst hstate
        rw [h.waits.unset call.state hset]
        rfl
      · exact h.waits.unset o' hset
    · intro j call' hcall' hsuspended' hexempt
      obtain ⟨-, hold⟩ := hother hcall' hsuspended'
      have hblocked := h.waits.blocked j call' hold hsuspended' hexempt
      exact ⟨(hcompleted call').trans hblocked.completed, herror.trans hblocked.taskError,
        hclosed.trans hblocked.connectionClosed⟩
    · exact fun j call' _ _ => htask ▸ hlive
  · apply htables.setCall
    · exact ⟨hmade ▸ hown.made, fun s hin => hown.stream s (hstates ▸ hin)⟩
    · by_contra hle
      have hnone := h.tables.called i (Nat.le_of_not_lt (hcalled ▸ hle))
      rw [hcall] at hnone
      cases hnone
  · exact hrecords.setCall fun data fin hfinished => Status.noConfusion hfinished
  · intro j call' hcall' hrunning
    rcases setCall_calls.1 hcall' with ⟨heq, -⟩ | ⟨-, hsame⟩
    · exact heq
    · exact (h.running j call' (hcalls ▸ hsame) hrunning).elim

/-- A step of the receive task is taken off the queue. -/
theorem Inv.runTask {rest : List Handle} {front : Handle} (h : c.Inv Nothing Nobody)
    (hready : c.ready = front :: rest) (hfront : front = .recvStart ∨ front = .recv) :
    ({ c with recvTask := some .running, ready := rest } : Client).Inv Nothing Nobody := by
  have hdue := h.queue.due_front hready
  have hnone : c.recvTask ≠ none := by
    intro hnone
    rcases hfront with rfl | rfl
    · obtain ⟨cancelled, htask⟩ := hdue
      rw [hnone] at htask
      cases htask
    · change c.recvTask = some .ready at hdue
      rw [hnone] at hdue
      cases hdue
  have hdone : c.recvTask ≠ some .done := by
    intro hdone
    rcases hfront with rfl | rfl
    · obtain ⟨cancelled, htask⟩ := hdue
      rw [hdone] at htask
      cases htask
    · change c.recvTask = some .ready at hdue
      rw [hdone] at hdue
      cases hdue
  apply h.move
  · apply h.queue.popped hready
    · rcases hfront with rfl | rfl <;> exact not_false
    · rcases hfront with rfl | rfl
      · obtain ⟨cancelled, htask⟩ := hdue
        rintro (_ | _) <;> simp [Handle.IsWaiter, Due, htask]
      · have htask : c.recvTask = some .ready := hdue
        rintro (_ | _) <;> simp [Handle.IsWaiter, Due, htask]
  · refine ⟨?_, ?_, ?_, ?_, ?_, ?_, ?_⟩
    · exact fun hattempting => absurd (h.phases.attempting hattempting) hnone
    · exact fun _ => Option.some_ne_none _
    · exact fun _ heq => by cases heq
    · exact fun hgathered => absurd (h.phases.gathered hgathered) hdone
    · exact fun heq => by cases heq
    · exact fun heq => by cases heq
    · exact fun heq => absurd heq (Option.some_ne_none _)
  · exact fun heq => by cases heq

/-- Where `connect()` stood before that step does not matter. -/
theorem attempted_idle (reply : Reply) (c : Client) :
    c.attempted reply = ({ c with connecting := .idle } : Client).attempted reply := by
  cases reply with
  | failed more =>
      cases more with
      | true =>
          change c.abandonAttempt = Client.abandonAttempt { c with connecting := .idle }
          unfold Client.abandonAttempt
          cases c.recvTask with
          | none => rfl
          | some task => cases task <;> rfl
      | false => rfl
  | connected => rfl
  | raised => rfl

/-- `connect()` takes in how an attempt ended whose receive task was created and has started. -/
theorem Inv.attempted (reply : Reply) (h : c.Inv Nothing Nobody) (hidle : c.connecting = .idle)
    (htask : c.recvTask ≠ none) (hstarted : ∀ cancelled, c.recvTask ≠ some (.created cancelled)) :
    (c.attempted reply).Inv Nothing Nobody := by
  have hstay : { c with connecting := .idle } = c := by
    rw [← hidle]
  cases reply with
  | failed more =>
      cases more with
      | true => exact h.abandonAttempt hidle htask hstarted
      | false => exact hstay.symm ▸ h
  | connected => exact hstay.symm ▸ h
  | raised => exact hstay.symm ▸ h

/-- `_abandon_attempt` behind its await: who was woken has run, and nobody waits. -/
theorem Inv.all_finished {rest : List Handle} (h : c.Inv Nothing Nobody)
    (hready : c.ready = .abandoned :: rest) (i : CallId) (call : Call) (hcall : c.calls i = some call) :
    ∃ outcome, call.status = .finished outcome := by
  have hdone : c.recvTask = some .done := h.phases.gathered (.inr (h.queue.due_front hready))
  have habandoned := h.queue.abandoned
  rw [hready] at habandoned
  have hnotDue : call.status.scheduled = false := by
    by_contra hscheduled
    have hin := (h.queue.scheduled.mem_iff (.waiter i)).2
      ((due_waiter hcall).2 (Bool.eq_true_of_not_eq_false hscheduled))
    rw [hready] at hin
    rcases List.mem_cons.1 hin with heq | hin
    · cases heq
    · exact habandoned.behind trivial _ hin trivial
  cases hstatus : call.status with
  | running => exact (h.running i call hcall hstatus).elim
  | suspended => exact absurd hdone (h.waits.live i call hcall hstatus)
  | woken => rw [hstatus] at hnotDue; cases hnotDue
  | interrupted cancelled => rw [hstatus] at hnotDue; cases hnotDue
  | finished outcome => exact ⟨outcome, rfl⟩

/-- The step of `connect()` is taken off the queue. -/
theorem Inv.leaveConnect {rest : List Handle} {front : Handle} (h : c.Inv Nothing Nobody)
    (hready : c.ready = front :: rest) (hfront : front = .connect ∨ front = .abandoned) :
    ({ c with connecting := .idle, ready := rest } : Client).Inv Nothing Nobody ∧
      c.recvTask ≠ none := by
  have hdue := h.queue.due_front hready
  have hpending : c.recvTask ≠ none := by
    rcases hfront with rfl | rfl
    · exact h.phases.pending (.inr (.inl hdue))
    · rw [h.phases.gathered (.inr hdue)]
      exact Option.some_ne_none _
  have hconnecting : c.connecting = .resumed ∨ c.connecting = .abandoning := by
    rcases hfront with rfl | rfl
    · exact .inl hdue
    · exact .inr hdue
  refine ⟨?_, hpending⟩
  apply h.move
  · apply h.queue.popped hready
    · rcases hfront with rfl | rfl <;> exact not_false
    · rcases hfront with rfl | rfl
      · have hresumed : c.connecting = .resumed := hdue
        rintro (_ | _) <;> simp [Handle.IsWaiter, Due, hresumed]
      · have habandoning : c.connecting = .abandoning := hdue
        rintro (_ | _) <;> simp [Handle.IsWaiter, Due, habandoning]
  · have hstarted := h.phases.started
    have hclosed := h.phases.closed
    have hidle := h.phases.idle
    constructor <;> simp_all
  · exact fun hdone i call hcall hsuspended => h.waits.live i call hcall hsuspended hdone

/-- One turn of the event loop. -/
theorem Inv.turn (t : Turn) (h : c.Inv Nothing Nobody) : (c.turn t).Inv Nothing Nobody := by
  unfold Client.turn
  cases hready : c.ready with
  | nil => exact h
  | cons front rest =>
      cases front with
      | waiter i =>
          have hdue := h.queue.due_front hready
          obtain ⟨call, hcall, hscheduled⟩ := hdue
          obtain ⟨hinv, hstep⟩ := h.take hready hcall
          dsimp only
          rw [hcall]
          exact hinv.resume t.clock hstep hscheduled
      | recvStart =>
          obtain ⟨cancelled, htask⟩ := h.queue.due_front hready
          have hfresh : c.recvTask ≠ some (.created true) := h.phases.started
          dsimp only
          rw [if_neg hfresh]
          apply Inv.recvTurn
          exact h.runTask hready (.inl rfl)
      | recv =>
          apply Inv.recvTurn
          exact h.runTask hready (.inr rfl)
      | connect =>
          obtain ⟨hinv, htask⟩ := h.leaveConnect hready (.inl rfl)
          -- the receive task was created before this step was scheduled, and so it has started
          have hstarted : ∀ cancelled, c.recvTask ≠ some (.created cancelled) := by
            intro cancelled hcreated
            have hin := (h.queue.scheduled.mem_iff .recvStart).2 ⟨cancelled, hcreated⟩
            have hbehind := h.queue.started
            rw [hready] at hin hbehind
            rcases List.mem_cons.1 hin with heq | hin
            · cases heq
            · exact hbehind.behind rfl _ hin rfl
          dsimp only
          rw [attempted_idle]
          exact hinv.attempted t.reply rfl htask hstarted
      | gatherDone =>
          have hgathered : c.connecting = .gathered := h.queue.due_front hready
          have hdone := h.phases.gathered (.inl hgathered)
          have hclosed := h.phases.closed hdone
          -- the callback of `gather` first leaves the queue, and then schedules `connect()`
          have hleft : ({ c with connecting := .idle, ready := rest } : Client).Inv Nothing Nobody := by
            apply h.move
            · apply h.queue.popped hready not_false
              rintro (_ | _) <;> simp [Handle.IsWaiter, Due, hgathered]
            · constructor <;> simp [hdone, hclosed]
            · exact fun _ i call hcall hsuspended => h.waits.live i call hcall hsuspended hdone
          apply hleft.move
          · apply hleft.queue.restage [.abandoned] (List.nodup_singleton _)
            · simp [Handle.IsWaiter, Due]
            · simp
            · rintro (_ | _) <;> simp [Handle.IsWaiter, Due]
          · constructor <;> simp [hdone, hclosed]
          · exact fun _ i call hcall hsuspended => h.waits.live i call hcall hsuspended hdone
      | abandoned =>
          obtain ⟨hinv, -⟩ := h.leaveConnect hready (.inr rfl)
          have hdone : c.recvTask = some .done :=
            h.phases.gathered (.inr (h.queue.due_front hready))
          cases t.reply with
          | raised => exact hinv
          | connected => exact hinv.forgetAttempt (.inl rfl) (.inr hdone) (h.all_finished hready)
          | failed more => exact hinv.forgetAttempt (.inl rfl) (.inr hdone) (h.all_finished hready)

theorem setCall_setCall (i : CallId) (first second : Call) (c : Client) :
    (c.setCall i first).setCall i second = c.setCall i second := by
  simp [Client.setCall]

/-- The timer of `wait_for` fires, or the task of the call is cancelled. -/
theorem Inv.interrupt (i : CallId) (cancelled : Bool) (h : c.Inv Nothing Nobody) :
    (c.interrupt i cancelled).Inv Nothing Nobody := by
  unfold Client.interrupt
  cases hcall : c.calls i with
  | none => exact h
  | some call =>
      have hown := h.tables.own i call hcall
      have hcalled : i < c.called := by
        by_contra hle
        have hnone := h.tables.called i (Nat.le_of_not_lt hle)
        rw [hcall] at hnone
        cases hnone
      -- a call that is scheduled already keeps its place in the queue
      have hkept (before : call.status.scheduled = true) (cancelled' : Bool) :
          (c.setCall i (call.become (.interrupted cancelled'))).Inv Nothing Nobody := by
        have hnone : c.recvTask ≠ none := by
          intro hnone
          obtain ⟨outcome, hfinished⟩ := h.phases.idle hnone i call hcall
          rw [hfinished] at before
          cases before
        have haside : c.Aside i := by
          intro call' hcall' hsuspended
          rw [hcall] at hcall'
          cases hcall'
          rw [hsuspended] at before
          cases before
        refine ⟨⟨?_, h.queue.started, h.queue.abandoned⟩, h.phases.setCall hnone,
          h.waits.setCall haside Status.noConfusion, h.tables.setCall ⟨hown.made, hown.stream⟩ hcalled,
          h.records.setCall fun _ _ heq => Status.noConfusion heq, ?_⟩
        · apply Scheduled.setCall h.queue.scheduled
          rw [due_setCall, due_waiter hcall, before]
          rfl
        · intro j call' hcall' hrunning
          rcases setCall_calls.1 hcall' with ⟨-, rfl⟩ | ⟨-, hsame⟩
          · cases hrunning
          · exact h.running j call' hsame hrunning
      cases hstatus : call.status with
      | running => simpa only [hstatus] using h
      | finished outcome => simpa only [hstatus] using h
      | woken => simpa only [hstatus] using hkept (by rw [hstatus]; rfl) cancelled
      | interrupted before =>
          simpa only [hstatus] using hkept (by rw [hstatus]; rfl) (before || cancelled)
      | suspended =>
          have hlive := h.waits.live i call hcall hstatus
          have hnone : c.recvTask ≠ none := by
            intro hnone
            obtain ⟨outcome, hfinished⟩ := h.phases.idle hnone i call hcall
            rw [hstatus] at hfinished
            cases hfinished
          have hoff := h.unsuspend hcall hstatus
          generalize hc : c.setObject call.state { c.objects call.state with
            event := { (c.objects call.state).event with
              waiters := (c.objects call.state).event.waiters.erase i } } = c' at hoff
          have hagain : (((c'.setCall i (call.become .running)).setCall i
              (call.become (.interrupted cancelled))).schedule [.waiter i]).Inv Nothing Nobody := by
            apply hoff.setScheduled _ rfl
            · rw [← hc]
              exact hlive
            · refine ⟨⟨_, setCall_calls.2 (.inl ⟨rfl, rfl⟩), rfl⟩, ?_, ?_⟩
              · rw [← hc]
                exact ⟨hown.made, hown.stream⟩
              · rw [← hc]
                exact hnone
          rw [setCall_setCall] at hagain
          simpa only [hstatus, hc] using hagain

/-- A new call is in its first step. -/
theorem Inv.startCall (h : c.Inv Nothing Nobody) (hrunning : call.status = .running)
    (hown : c.Own call) (htask : c.recvTask ≠ none) :
    ({ c.setCall c.called call with called := c.called + 1 } : Client).Inv Nothing (· = c.called) ∧
      ({ c.setCall c.called call with called := c.called + 1 } : Client).InStep c.called call := by
  have hnew : c.calls c.called = none := h.tables.called c.called le_rfl
  have hself : (c.setCall c.called call).calls c.called = some call :=
    setCall_calls.2 (.inl ⟨rfl, rfl⟩)
  have haside : c.Aside c.called := by
    intro before hbefore
    rw [hnew] at hbefore
    cases hbefore
  have hphases : (c.setCall c.called call).Phases := h.phases.setCall htask
  have hwaits : (c.setCall c.called call).Waits Nothing := by
    apply h.waits.setCall haside
    rw [hrunning]
    exact Status.noConfusion
  have hrecords : (c.setCall c.called call).Records := by
    apply h.records.setCall
    intro data fin heq
    rw [hrunning] at heq
    cases heq
  have hqueue : Scheduled c.ready (c.setCall c.called call).Due := by
    apply Scheduled.setCall h.queue.scheduled
    rw [due_setCall, hrunning]
    constructor
    · exact fun hdue => Bool.noConfusion hdue
    · rintro ⟨before, hbefore, -⟩
      rw [hnew] at hbefore
      cases hbefore
  refine ⟨⟨⟨hqueue.congr ?_, h.queue.started, h.queue.abandoned⟩, { hphases with },
    { hwaits with blocked := ?_ }, ⟨h.tables.made, h.tables.apart, ?_, h.tables.fresh, ?_⟩,
    ⟨hrecords.data, hrecords.received⟩, ?_⟩, ⟨call, hself, hrunning⟩, ⟨hown.made, hown.stream⟩, htask⟩
  · intro handle
    cases handle <;> exact Iff.rfl
  · intro i call' hcall hsuspended hexempt
    have hblocked := hwaits.blocked i call' hcall hsuspended hexempt
    exact ⟨hblocked.completed, hblocked.taskError, hblocked.connectionClosed⟩
  · intro i call' hcall
    rcases setCall_calls.1 hcall with ⟨-, rfl⟩ | ⟨-, hsame⟩
    · exact ⟨hown.made, hown.stream⟩
    · exact ⟨(h.tables.own i call' hsame).made, (h.tables.own i call' hsame).stream⟩
  · intro i hle
    have hne : i ≠ c.called := (Nat.lt_of_succ_le hle).ne'
    exact (Function.update_of_ne hne _ _).trans (h.tables.called i (Nat.le_of_succ_le hle))
  · intro i call' hcall hstatus
    rcases setCall_calls.1 hcall with ⟨heq, -⟩ | ⟨-, hsame⟩
    · exact heq
    · exact (h.running i call' hsame hstatus).elim

/-- A call that is not refused finds the receive task. -/
theorem connected_of_refusal {method : Method} {inCallback : Bool} {timeout : ℚ} {overall : Option ℚ}
    (h : c.refusal method inCallback timeout overall = none) : c.recvTask ≠ none := by
  intro hnone
  unfold refusal at h
  rw [if_neg, if_pos] at h
  · cases h
  · simp [hnone]
  · simp [hnone]

/-- The first step of a call. -/
theorem Inv.firstStep (method : Method) (streamId : Nat) (timeout : ℚ) (overall : Option ℚ)
    (inCallback : Bool) (clock : Nat → ℚ) (h : c.Inv Nothing Nobody) :
    (c.call method streamId timeout overall inCallback clock).Inv Nothing Nobody := by
  unfold Client.call
  cases hrefusal : c.refusal method inCallback timeout overall with
  | some text => exact h
  | none =>
      have htask := connected_of_refusal hrefusal
      have hmade := h.setdefault streamId
      have hlookup := c.lookup_setdefault streamId
      have hcalled : (c.setdefault streamId).1.called = c.called := by
        unfold Client.setdefault
        cases c.recvStates.lookup streamId <;> rfl
      have htask' := (setdefault_frame streamId c).symm ▸ htask
      generalize c.setdefault streamId = made at hmade hlookup hcalled htask'
      obtain ⟨c', o⟩ := made
      dsimp only at hmade hlookup hcalled htask' ⊢
      rw [← hcalled]
      generalize hcall : newCall method streamId timeout overall (clock 0) o = call
      have hown : c'.Own call := by
        rw [← hcall]
        exact ⟨hmade.tables.made streamId o hlookup, fun s hin =>
          hmade.tables.apart s streamId o hin hlookup⟩
      obtain ⟨hinv, hstep⟩ := hmade.startCall (hcall ▸ rfl) hown htask'
      split
      · next outcome hcompleted => exact hinv.finish hstep (legit_completed hcompleted)
      · exact hinv.waitLoop clock 1 hstep

/-- An attempt that ends before its receive task is created. -/
theorem Inv.attemptEnded (reply : Reply) (h : c.Inv Nothing Nobody)
    (hattempting : c.connecting = .attempting) : (c.attempted reply).Inv Nothing Nobody := by
  have hnone := h.phases.attempting hattempting
  have hidle : ({ c with connecting := .idle } : Client).Inv Nothing Nobody := by
    apply h.move
    · apply h.queue.stay
      rintro (_ | _) <;> simp [Handle.IsWaiter, Due, hattempting]
    · exact ⟨Connecting.noConfusion, by simp, Connecting.noConfusion, by simp, h.phases.started,
        h.phases.closed, h.phases.idle⟩
    · intro hdone
      rw [hnone] at hdone
      cases hdone
  cases reply with
  | failed more =>
      cases more with
      | true =>
          change c.abandonAttempt.Inv Nothing Nobody
          unfold Client.abandonAttempt
          rw [hnone]
          exact h.forgetAttempt (.inr hattempting) (.inl hnone) (h.phases.idle hnone)
      | false => exact hidle
  | connected => exact hidle
  | raised => exact hidle

/-- The receive task is created. -/
theorem Inv.startTask (h : c.Inv Nothing Nobody) (hattempting : c.connecting = .attempting) :
    c.startTask.Inv Nothing Nobody := by
  have hnone := h.phases.attempting hattempting
  apply h.move
  · apply h.queue.restage [.recvStart] (List.nodup_singleton _)
    · simp [Handle.IsWaiter, Due, hnone]
    · simp [hattempting]
    · rintro (_ | _) <;> simp [Handle.IsWaiter, Due, hnone, hattempting]
  · constructor <;> simp
  · exact fun hdone => by cases hdone

/-- Every step of the event loop, of the application and of what the tasks await. -/
theorem Inv.step (label : Label) (h : c.Inv Nothing Nobody) : (c.step label).Inv Nothing Nobody := by
  cases label with
  | turn t => exact h.turn t
  | call method streamId timeout overall inCallback clock =>
      exact h.firstStep method streamId timeout overall inCallback clock
  | discardRecvState streamId => exact h.discardRecvState streamId
  | interrupt i cancelled => exact h.interrupt i cancelled
  | connect =>
      dsimp only [Client.step]
      split_ifs with hfree
      · apply h.move
        · apply h.queue.stay
          rintro (_ | _) <;> simp [Handle.IsWaiter, Due, hfree.2]
        · exact ⟨fun _ => hfree.1, by simp, Connecting.noConfusion, by simp, h.phases.started,
            h.phases.closed, h.phases.idle⟩
        · intro hdone
          rw [hfree.1] at hdone
          cases hdone
      · exact h
  | attempt reply =>
      dsimp only [Client.step]
      split_ifs with hattempting
      · cases reply with
        | none => exact h.startTask hattempting
        | some reply => exact h.attemptEnded reply hattempting
      · exact h
  | wakeConnect =>
      dsimp only [Client.step]
      split_ifs with hwaiting
      · have htask := h.phases.pending (.inl hwaiting)
        apply h.move
        · apply h.queue.restage [.connect] (List.nodup_singleton _)
          · simp [Handle.IsWaiter, Due, hwaiting]
          · simp
          · rintro (_ | _) <;> simp [Handle.IsWaiter, Due, hwaiting]
        · exact ⟨Connecting.noConfusion, fun _ => htask, Connecting.noConfusion, by simp,
            h.phases.started, h.phases.closed, h.phases.idle⟩
        · exact fun hdone i call hcall hsuspended => h.waits.live i call hcall hsuspended hdone
      · exact h
  | wakeRecv =>
      dsimp only [Client.step]
      split_ifs with hsuspended
      · apply h.move
        · apply h.queue.restage [.recv] (List.nodup_singleton _)
          · simp [Handle.IsWaiter, Due, hsuspended]
          · simp
          · rintro (_ | _) <;> simp [Handle.IsWaiter, Due, hsuspended]
        · have hattempting : c.connecting ≠ .attempting := by
            intro heq
            have hnone := h.phases.attempting heq
            rw [hsuspended] at hnone
            cases hnone
          have hgathered : ¬ (c.connecting = .gathered ∨ c.connecting = .abandoning) := by
            intro heq
            have hdone := h.phases.gathered heq
            rw [hsuspended] at hdone
            cases hdone
          constructor <;> simp_all
        · exact fun hdone => by cases hdone
      · exact h

/-! ## Runs -/

theorem Inv.initial : ({} : Client).Inv Nothing Nobody := by
  have hempty {streamId : Nat} {o : ObjectId} :
      (∅ : Dict Nat ObjectId).lookup streamId ≠ some o := by simp
  refine ⟨⟨⟨List.nodup_nil, ?_⟩, List.Pairwise.nil, List.Pairwise.nil⟩, ?_, ?_, ?_, ?_, ?_⟩
  · rintro (_ | _) <;> simp [Due]
  · constructor <;> simp
  · constructor <;> simp
  · refine ⟨fun _ _ hin => absurd hin hempty, fun _ _ _ hin => absurd hin hempty, ?_, ?_, ?_⟩
    · exact fun i call hcall => by cases hcall
    · exact fun o _ => ⟨rfl, rfl⟩
    · exact fun i _ => rfl
  · exact ⟨fun o => rfl, fun i call data fin hcall => by cases hcall⟩
  · exact fun i call hcall => by cases hcall

theorem Inv.run (labels : List Label) : (Client.run labels).Inv Nothing Nobody := by
  unfold Client.run
  generalize hstart : ({} : Client) = c
  have h : c.Inv Nothing Nobody := hstart ▸ Inv.initial
  clear hstart
  induction labels generalizing c with
  | nil => exact h
  | cons label rest ih => exact ih (c.step label) (h.step label)

end Client

end WebTransport.QuicClient
