import WebTransport.Client.Quic
import WebTransport.Data.ReadyQueue

/-!
# Client.Waiters — who waits for a receive state of `quic.Client`

A call that waits is enlisted in the event of its receive state.  Between two steps that state is the
one in `_recv_states`, its event is not set, and nothing the call waits for has happened.

1. what the invariant says,
2. events,
3. the tables,
4. calls,
5. the waiting loops.
-/

namespace WebTransport.QuicClient

/-! ## The invariant -/

/-- The step of a call that has waited. -/
def Handle.IsWaiter : Handle → Prop
  | .waiter _ => True
  | _ => False

/-- The steps by which an attempt is abandoned. -/
def Handle.IsAbandon : Handle → Prop
  | .gatherDone | .abandoned => True
  | _ => False

namespace Client

/-- What is due to run. -/
def Due (c : Client) : Handle → Prop
  | .waiter i => ∃ call, c.calls i = some call ∧ call.status.scheduled = true
  | .recvStart => ∃ cancelled, c.recvTask = some (.created cancelled)
  | .recv => c.recvTask = some .ready
  | .connect => c.connecting = .resumed
  | .gatherDone => c.connecting = .gathered
  | .abandoned => c.connecting = .abandoning

/-- The ready queue: the receive task starts before the wait for it ends, and who was woken runs
before the attempt is forgotten. -/
structure Queue (c : Client) : Prop where
  scheduled : Scheduled c.ready c.Due
  started : InFront (· = .recvStart) (· = .connect) c.ready
  abandoned : InFront Handle.IsWaiter Handle.IsAbandon c.ready

/-- The receive task and `connect()`. -/
structure Phases (c : Client) : Prop where
  attempting : c.connecting = .attempting → c.recvTask = none
  pending : c.connecting = .waiting ∨ c.connecting = .resumed ∨ c.connecting = .gathering →
    c.recvTask ≠ none
  gathering : c.connecting = .gathering → c.recvTask ≠ some .done
  gathered : c.connecting = .gathered ∨ c.connecting = .abandoning → c.recvTask = some .done
  started : c.recvTask ≠ some (.created true)
  closed : c.recvTask = some .done → c.connectionClosedEvent = true
  idle : c.recvTask = none → ∀ i call, c.calls i = some call → ∃ outcome, call.status = .finished outcome

/-- Nothing that the call waits for has happened. -/
structure Blocked (c : Client) (call : Call) : Prop where
  completed : c.completed call = none
  taskError : c.taskError = none
  connectionClosed : c.connectionClosedEvent = false

/-- The calls that wait, where those on an exempt state need not be blocked any more. -/
structure Waits (exempt : ObjectId → Prop) (c : Client) : Prop where
  current : ∀ i call, c.calls i = some call → call.status = .suspended →
    c.recvStates.lookup call.streamId = some call.state ∧ i ∈ (c.objects call.state).event.waiters
  waiters : ∀ o, ∀ i ∈ (c.objects o).event.waiters, ∃ call,
    c.calls i = some call ∧ call.status = .suspended ∧ call.state = o
  nodup : ∀ o, (c.objects o).event.waiters.Nodup
  unset : ∀ o, (c.objects o).event.isSet = true → (c.objects o).event.waiters = []
  blocked : ∀ i call, c.calls i = some call → call.status = .suspended → ¬ exempt call.state →
    c.Blocked call
  live : ∀ i call, c.calls i = some call → call.status = .suspended → c.recvTask ≠ some .done

/-- The state of a call exists, and no other stream has it. -/
structure Own (c : Client) (call : Call) : Prop where
  made : call.state < c.made
  stream : ∀ streamId, c.recvStates.lookup streamId = some call.state → streamId = call.streamId

/-- The tables. -/
structure Tables (c : Client) : Prop where
  made : ∀ streamId o, c.recvStates.lookup streamId = some o → o < c.made
  apart : ∀ streamId streamId' o, c.recvStates.lookup streamId = some o →
    c.recvStates.lookup streamId' = some o → streamId = streamId'
  own : ∀ i call, c.calls i = some call → c.Own call
  fresh : ∀ o, c.made ≤ o → c.objects o = {} ∧ c.recordedBytes o = []
  called : ∀ i, c.called ≤ i → c.calls i = none

/-- What the calls returned. -/
structure Records (c : Client) : Prop where
  data : ∀ o, (c.objects o).data = c.recordedBytes o
  received : ∀ i call data fin, c.calls i = some call → call.status = .finished (.received data fin) →
    fin = true ∧ data = (c.objects call.state).data ∧
      ∀ streamId, c.recvStates.lookup streamId ≠ some call.state

/-- The invariant, where the calls in `busy` are in their step. -/
structure Inv (exempt : ObjectId → Prop) (busy : CallId → Prop) (c : Client) : Prop where
  queue : c.Queue
  phases : c.Phases
  waits : c.Waits exempt
  tables : c.Tables
  records : c.Records
  running : ∀ i call, c.calls i = some call → call.status = .running → busy i

/-- No state is exempt. -/
def Nothing : ObjectId → Prop := fun _ => False

/-- No call is in its step. -/
def Nobody : CallId → Prop := fun _ => False

variable {c c' : Client} {exempt exempt' : ObjectId → Prop} {busy busy' : CallId → Prop}
  {o : ObjectId} {i : CallId} {call : Call} {streamId : Nat}

theorem Queue.no_abandon (h : c.Queue) (hp : c.Phases) (hlive : c.recvTask ≠ some .done) :
    ∀ handle ∈ c.ready, ¬ handle.IsAbandon := by
  intro handle hin habandon
  have hdue := (h.scheduled.mem_iff handle).1 hin
  cases handle with
  | gatherDone => exact hlive (hp.gathered (.inl hdue))
  | abandoned => exact hlive (hp.gathered (.inr hdue))
  | _ => exact habandon

/-! ## Events -/

theorem foldl_wake (l : List CallId) (c : Client) :
    l.foldl wake c =
      { c with
          calls := fun i => if i ∈ l then (c.calls i).map (Call.become · .woken) else c.calls i
          ready := c.ready ++ l.map .waiter } := by
  induction l generalizing c with
  | nil => simp
  | cons j rest ih =>
      rw [List.foldl_cons, ih]
      have hcalls : (fun i => if i ∈ rest then ((c.wake j).calls i).map (Call.become · .woken)
          else (c.wake j).calls i) =
          fun i => if i ∈ j :: rest then (c.calls i).map (Call.become · .woken) else c.calls i := by
        funext i
        by_cases hij : i = j
        · subst hij
          cases hcall : c.calls i with
          | none => simp [wake, schedule, hcall]
          | some call => simp [wake, schedule, hcall, Call.become]
        · simp [wake, schedule, hij]
      rw [hcalls]
      simp [wake, schedule]

/-- The client behind `event.set()`. -/
theorem setEvent_eq (o : ObjectId) (c : Client) :
    c.setEvent o =
      { c with
          objects := Function.update c.objects o
            { c.objects o with event := { isSet := true, waiters := [] } }
          calls := fun i => if i ∈ (c.objects o).event.waiters then
            (c.calls i).map (Call.become · .woken) else c.calls i
          ready := c.ready ++ (c.objects o).event.waiters.map .waiter } := by
  unfold setEvent
  rw [foldl_wake]
  rfl

theorem completed_congr {call' : Call} (hmethod : call'.method = call.method)
    (hfin : (c'.objects call'.state).fin = (c.objects call.state).fin)
    (hdata : (c'.objects call'.state).data = (c.objects call.state).data)
    (hreset : (c'.objects call'.state).resetErrorCode = (c.objects call.state).resetErrorCode) :
    c'.completed call' = c.completed call := by
  unfold completed
  rw [hmethod, hfin, hdata, hreset]

/-- An object whose event alone was changed. -/
theorem objects_update_event (c : Client) (o : ObjectId) (event : AsyncEvent) (o' : ObjectId) :
    (Function.update c.objects o { c.objects o with event } o').fin = (c.objects o').fin ∧
    (Function.update c.objects o { c.objects o with event } o').data = (c.objects o').data ∧
    (Function.update c.objects o { c.objects o with event } o').resetErrorCode =
      (c.objects o').resetErrorCode := by
  by_cases h : o' = o
  · subst h
    rw [Function.update_self]
    exact ⟨rfl, rfl, rfl⟩
  · rw [Function.update_of_ne h]
    exact ⟨rfl, rfl, rfl⟩

/-- A call behind `event.set()`: it was on the event and is woken, or it is as before. -/
theorem calls_setEvent (h : (c.setEvent o).calls i = some call) :
    (i ∈ (c.objects o).event.waiters ∧ ∃ before, c.calls i = some before ∧
      call = before.become .woken) ∨
    (i ∉ (c.objects o).event.waiters ∧ c.calls i = some call) := by
  rw [setEvent_eq] at h
  by_cases hin : i ∈ (c.objects o).event.waiters
  · left
    simp only [hin, if_true] at h
    obtain ⟨before, hbefore, rfl⟩ := Option.map_eq_some_iff.1 h
    exact ⟨hin, before, hbefore, rfl⟩
  · right
    simp only [hin, if_false] at h
    exact ⟨hin, h⟩

/-- The waiters of an event are calls that wait, so that a call that does not is left as it is. -/
theorem Waits.not_waiter (h : c.Waits exempt) (hcall : c.calls i = some call)
    (hstatus : call.status ≠ .suspended) : i ∉ (c.objects o).event.waiters := by
  intro hin
  obtain ⟨call', hcall', hsuspended, -⟩ := h.waiters o i hin
  rw [hcall] at hcall'
  cases hcall'
  exact hstatus hsuspended

theorem Queue.setEvent (h : c.Queue) (hp : c.Phases) (hw : c.Waits exempt) (o : ObjectId) :
    (c.setEvent o).Queue := by
  have hcalls {i call} := @calls_setEvent c o i call
  have hlive : (c.objects o).event.waiters ≠ [] → c.recvTask ≠ some .done := by
    intro hne
    obtain ⟨i, hin⟩ := List.exists_mem_of_ne_nil _ hne
    obtain ⟨call, hcall, hsuspended, -⟩ := hw.waiters o i hin
    exact hw.live i call hcall hsuspended
  have hwaiter : ∀ handle ∈ (c.objects o).event.waiters.map Handle.waiter, ∃ i, handle = .waiter i := by
    intro handle hin
    obtain ⟨i, -, rfl⟩ := List.mem_map.1 hin
    exact ⟨i, rfl⟩
  have hready : (c.setEvent o).ready = c.ready ++ (c.objects o).event.waiters.map .waiter := by
    rw [setEvent_eq]
  refine ⟨?_, ?_, ?_⟩
  · rw [hready]
    apply h.scheduled.post ((hw.nodup o).map fun i j hij => Handle.waiter.inj hij)
    · intro handle hin hdue
      obtain ⟨i, hwaits, rfl⟩ := List.mem_map.1 hin
      obtain ⟨call, hcall, hsuspended, -⟩ := hw.waiters o i hwaits
      obtain ⟨call', hcall', hscheduled⟩ := hdue
      rw [hcall] at hcall'
      cases hcall'
      rw [hsuspended] at hscheduled
      cases hscheduled
    · intro handle
      cases handle with
      | waiter i =>
          constructor
          · rintro ⟨call, hcall, hscheduled⟩
            rcases hcalls hcall with ⟨hin, -⟩ | ⟨-, hsame⟩
            · exact .inr (List.mem_map_of_mem hin)
            · exact .inl ⟨call, hsame, hscheduled⟩
          · rintro (⟨call, hcall, hscheduled⟩ | hin)
            · have hnot : i ∉ (c.objects o).event.waiters := by
                apply hw.not_waiter hcall
                intro hsuspended
                rw [hsuspended] at hscheduled
                cases hscheduled
              refine ⟨call, ?_, hscheduled⟩
              rw [setEvent_eq]
              simp only [hnot, if_false]
              exact hcall
            · obtain ⟨j, hin, heq⟩ := List.mem_map.1 hin
              cases heq
              obtain ⟨call, hcall, -⟩ := hw.waiters o i hin
              refine ⟨call.become .woken, ?_, rfl⟩
              rw [setEvent_eq]
              simp only [hin, if_true]
              rw [hcall]
              rfl
      | _ =>
          have hnot (handle : Handle) (hne : ¬ handle.IsWaiter) :
              handle ∉ (c.objects o).event.waiters.map Handle.waiter := by
            intro hin
            obtain ⟨i, rfl⟩ := hwaiter handle hin
            exact hne trivial
          rw [setEvent_eq]
          simp [Due]
  · rw [hready]
    apply h.started.post_not_early
    intro handle hin heq
    obtain ⟨i, rfl⟩ := hwaiter handle hin
    cases heq
  · rw [hready]
    by_cases hnil : (c.objects o).event.waiters = []
    · rw [hnil, List.map_nil, List.append_nil]
      exact h.abandoned
    · apply h.abandoned.post_not_late (h.no_abandon hp (hlive hnil))
      intro handle hin habandon
      obtain ⟨i, rfl⟩ := hwaiter handle hin
      exact habandon

theorem Phases.setEvent (h : c.Phases) (hw : c.Waits exempt) (o : ObjectId) :
    (c.setEvent o).Phases := by
  have hidle : c.recvTask = none → ∀ i call, (c.setEvent o).calls i = some call →
      ∃ outcome, call.status = .finished outcome := by
    intro hnone i call hcall
    rcases calls_setEvent hcall with ⟨hin, before, hbefore, -⟩ | ⟨-, hsame⟩
    · obtain ⟨outcome, hfinished⟩ := h.idle hnone i before hbefore
      exact absurd hin (hw.not_waiter hbefore (by rw [hfinished]; exact Status.noConfusion))
    · exact h.idle hnone i call hsame
  rw [setEvent_eq] at hidle ⊢
  exact { h with idle := hidle }

/-- Who still waits is on another event. -/
theorem Waits.suspended_setEvent (h : c.Waits exempt) (hcall : (c.setEvent o).calls i = some call)
    (hsuspended : call.status = .suspended) : c.calls i = some call ∧ call.state ≠ o := by
  rcases calls_setEvent hcall with ⟨-, before, -, rfl⟩ | ⟨hnot, hsame⟩
  · cases hsuspended
  · refine ⟨hsame, ?_⟩
    rintro rfl
    exact hnot (h.current i call hsame hsuspended).2

theorem Waits.setEvent (h : c.Waits exempt) (o : ObjectId) :
    (c.setEvent o).Waits fun o' => exempt o' ∧ o' ≠ o := by
  have hcalls {i call} := @Waits.suspended_setEvent c exempt o i call h
  have hobjects : (c.setEvent o).objects = Function.update c.objects o
      { c.objects o with event := { isSet := true, waiters := [] } } := by rw [setEvent_eq]
  have hstates : (c.setEvent o).recvStates = c.recvStates := by rw [setEvent_eq]
  have hother {o' : ObjectId} (hne : o' ≠ o) : (c.setEvent o).objects o' = c.objects o' := by
    rw [hobjects, Function.update_of_ne hne]
  have hself : ((c.setEvent o).objects o).event = { isSet := true, waiters := [] } := by
    rw [hobjects, Function.update_self]
  refine ⟨?_, ?_, ?_, ?_, ?_, ?_⟩
  · intro i call hcall hsuspended
    obtain ⟨hsame, hne⟩ := hcalls hcall hsuspended
    rw [hstates, hother hne]
    exact h.current i call hsame hsuspended
  · intro o' i hin
    by_cases heq : o' = o
    · subst heq
      rw [hself] at hin
      cases hin
    · rw [hother heq] at hin
      obtain ⟨call, hcall, hsuspended, hstate⟩ := h.waiters o' i hin
      refine ⟨call, ?_, hsuspended, hstate⟩
      have hnot : i ∉ (c.objects o).event.waiters := by
        intro hin'
        obtain ⟨call', hcall', -, hstate'⟩ := h.waiters o i hin'
        rw [hcall] at hcall'
        cases hcall'
        exact heq (hstate.symm.trans hstate')
      rw [setEvent_eq]
      simp only [hnot, if_false]
      exact hcall
  · intro o'
    by_cases heq : o' = o
    · subst heq
      rw [hself]
      exact List.nodup_nil
    · rw [hother heq]
      exact h.nodup o'
  · intro o' hset
    by_cases heq : o' = o
    · subst heq
      rw [hself]
    · rw [hother heq] at hset ⊢
      exact h.unset o' hset
  · intro i call hcall hsuspended hexempt
    obtain ⟨hsame, hne⟩ := hcalls hcall hsuspended
    have hblocked := h.blocked i call hsame hsuspended fun hin => hexempt ⟨hin, hne⟩
    constructor
    · rw [← hblocked.completed]
      apply completed_congr rfl <;> rw [hother hne]
    · rw [setEvent_eq]
      exact hblocked.taskError
    · rw [setEvent_eq]
      exact hblocked.connectionClosed
  · intro i call hcall hsuspended
    rw [setEvent_eq]
    exact h.live i call (hcalls hcall hsuspended).1 hsuspended

theorem Tables.setEvent (h : c.Tables) (ho : o < c.made) : (c.setEvent o).Tables := by
  have hown : ∀ i call, (c.setEvent o).calls i = some call → c.Own call := by
    intro i call hcall
    rcases calls_setEvent hcall with ⟨-, before, hbefore, rfl⟩ | ⟨-, hsame⟩
    · exact ⟨(h.own i before hbefore).made, (h.own i before hbefore).stream⟩
    · exact h.own i call hsame
  have hcalled : ∀ i, c.called ≤ i → (c.setEvent o).calls i = none := by
    intro i hi
    have hnone := h.called i hi
    rw [setEvent_eq]
    simp [hnone]
  have hfresh : ∀ o', c.made ≤ o' →
      (c.setEvent o).objects o' = {} ∧ c.recordedBytes o' = [] := by
    intro o' hmade
    have hne : o' ≠ o := fun heq => Nat.not_le.2 ho (heq ▸ hmade)
    rw [setEvent_eq]
    simp only [Function.update_of_ne hne]
    exact h.fresh o' hmade
  rw [setEvent_eq] at hown hcalled hfresh ⊢
  exact ⟨h.made, h.apart, fun i call hcall => ⟨(hown i call hcall).made, (hown i call hcall).stream⟩,
    hfresh, hcalled⟩

theorem Records.setEvent (h : c.Records) (o : ObjectId) : (c.setEvent o).Records := by
  have hobjects : (c.setEvent o).objects = Function.update c.objects o
      { c.objects o with event := { isSet := true, waiters := [] } } := by rw [setEvent_eq]
  have hdata (o' : ObjectId) : ((c.setEvent o).objects o').data = (c.objects o').data := by
    rw [hobjects]
    exact (objects_update_event c o _ o').2.1
  constructor
  · intro o'
    rw [hdata, h.data, setEvent_eq]
    rfl
  · intro i call data fin hcall hfinished
    rcases calls_setEvent hcall with ⟨-, before, -, rfl⟩ | ⟨-, hsame⟩
    · cases hfinished
    · rw [hdata, setEvent_eq]
      exact h.received i call data fin hsame hfinished

/-- `event.set()`: nobody waits on the state any more. -/
theorem Inv.setEvent (h : c.Inv exempt busy) (ho : o < c.made) :
    (c.setEvent o).Inv (fun o' => exempt o' ∧ o' ≠ o) busy := by
  refine ⟨h.queue.setEvent h.phases h.waits o, h.phases.setEvent h.waits o, h.waits.setEvent o,
    h.tables.setEvent ho, h.records.setEvent o, ?_⟩
  intro i call hcall hrunning
  rcases calls_setEvent hcall with ⟨-, before, -, rfl⟩ | ⟨-, hsame⟩
  · cases hrunning
  · exact h.running i call hsame hrunning

theorem Waits.mono (h : c.Waits exempt)
    (hexempt : ∀ i call, c.calls i = some call → call.status = .suspended → exempt call.state →
      exempt' call.state ∨ c.Blocked call) : c.Waits exempt' := by
  refine { h with blocked := ?_ }
  intro i call hcall hsuspended hnot
  by_cases hin : exempt call.state
  · exact (hexempt i call hcall hsuspended hin).resolve_left hnot
  · exact h.blocked i call hcall hsuspended hin

/-- What `event.set()` leaves in the other fields. -/
theorem setEvent_frame (o : ObjectId) (c : Client) :
    (c.setEvent o).recvStates = c.recvStates ∧ (c.setEvent o).made = c.made ∧
      (c.setEvent o).recvTask = c.recvTask ∧ (c.setEvent o).connecting = c.connecting ∧
      (c.setEvent o).taskError = c.taskError ∧
      (c.setEvent o).connectionClosedEvent = c.connectionClosedEvent := by
  rw [setEvent_eq]
  exact ⟨rfl, rfl, rfl, rfl, rfl, rfl⟩

/-- What the walk over the states leaves as it is, and who still waits behind it. -/
theorem setEvents_frame {l : List ObjectId} (h : c.Inv exempt busy) (hl : ∀ o ∈ l, o < c.made) :
    (∃ exempt', (l.foldl (fun c o => c.setEvent o) c).Inv exempt' busy) ∧
      (l.foldl (fun c o => c.setEvent o) c).recvStates = c.recvStates ∧
      (l.foldl (fun c o => c.setEvent o) c).recvTask = c.recvTask ∧
      (l.foldl (fun c o => c.setEvent o) c).connecting = c.connecting ∧
      (l.foldl (fun c o => c.setEvent o) c).connectionClosedEvent = c.connectionClosedEvent ∧
      ∀ i call, (l.foldl (fun c o => c.setEvent o) c).calls i = some call →
        call.status = .suspended → c.calls i = some call ∧ call.state ∉ l := by
  induction l generalizing c exempt with
  | nil => exact ⟨⟨exempt, h⟩, rfl, rfl, rfl, rfl, fun i call hcall _ => ⟨hcall, List.not_mem_nil⟩⟩
  | cons o rest ih =>
      obtain ⟨hstates, hmade, htask, hconnecting, -, hclosed⟩ := setEvent_frame o c
      have hnext := h.setEvent (hl o List.mem_cons_self)
      obtain ⟨hinv, hstates', htask', hconnecting', hclosed', hcalls⟩ := ih hnext fun o' hin => by
        rw [hmade]
        exact hl o' (List.mem_cons_of_mem o hin)
      rw [List.foldl_cons]
      refine ⟨hinv, hstates'.trans hstates, htask'.trans htask, hconnecting'.trans hconnecting,
        hclosed'.trans hclosed, ?_⟩
      intro i call hcall hsuspended
      obtain ⟨hbehind, hrest⟩ := hcalls i call hcall hsuspended
      obtain ⟨hsame, hne⟩ := h.waits.suspended_setEvent hbehind hsuspended
      exact ⟨hsame, List.not_mem_cons_of_ne_of_not_mem hne hrest⟩

/-- `_wake_stream_waiters`: nobody waits any more. -/
theorem Inv.wakeStreamWaiters (h : c.Inv exempt busy) :
    c.wakeStreamWaiters.Inv Nothing busy ∧
      (∀ i call, c.wakeStreamWaiters.calls i = some call → call.status ≠ .suspended) ∧
      c.wakeStreamWaiters.recvTask = c.recvTask ∧
      c.wakeStreamWaiters.connecting = c.connecting ∧
      c.wakeStreamWaiters.connectionClosedEvent = c.connectionClosedEvent := by
  have hvalues : ∀ o ∈ (Dict.values c.recvStates).reverse, o < c.made := by
    intro o hin
    obtain ⟨streamId, hlookup⟩ := Dict.mem_values.1 (List.mem_reverse.1 hin)
    exact h.tables.made streamId o hlookup
  obtain ⟨⟨exempt', hinv⟩, -, htask, hconnecting, hclosed, hcalls⟩ := setEvents_frame h hvalues
  have hnobody : ∀ i call, c.wakeStreamWaiters.calls i = some call → call.status ≠ .suspended := by
    intro i call hcall hsuspended
    obtain ⟨hsame, hnot⟩ := hcalls i call hcall hsuspended
    have hcurrent := (h.waits.current i call hsame hsuspended).1
    exact hnot (List.mem_reverse.2 (Dict.mem_values.2 ⟨_, hcurrent⟩))
  refine ⟨{ hinv with waits := hinv.waits.mono ?_ }, hnobody, htask, hconnecting, hclosed⟩
  exact fun i call hcall hsuspended _ => absurd hsuspended (hnobody i call hcall)

/-! ## The tables -/

/-- An existing state is given what an event carries; its event is still to be set. -/
theorem Inv.give (h : c.Inv Nothing busy) {state : StreamRecvState}
    {recorded : List (ObjectId × List UInt8)} (ho : c.recvStates.lookup streamId = some o)
    (hevent : state.event = (c.objects o).event)
    (hself : state.data = ({ c with recorded } : Client).recordedBytes o)
    (hother : ∀ o', o' ≠ o → ({ c with recorded } : Client).recordedBytes o' = c.recordedBytes o') :
    ({ c.setObject o state with recorded } : Client).Inv (· = o) busy := by
  have hmade := h.tables.made streamId o ho
  have hobject {o' : ObjectId} (hne : o' ≠ o) : (c.setObject o state).objects o' = c.objects o' :=
    Function.update_of_ne hne _ _
  have hsame (o' : ObjectId) : ((c.setObject o state).objects o').event = (c.objects o').event := by
    by_cases heq : o' = o
    · subst heq
      exact (congrArg StreamRecvState.event (Function.update_self _ _ _)).trans hevent
    · rw [hobject heq]
  refine ⟨⟨h.queue.scheduled, h.queue.started, h.queue.abandoned⟩, { h.phases with }, ?_, ?_, ?_,
    h.running⟩
  · refine ⟨?_, ?_, ?_, ?_, ?_, h.waits.live⟩
    · intro i call hcall hsuspended
      have hcurrent := h.waits.current i call hcall hsuspended
      exact ⟨hcurrent.1, (hsame call.state).symm ▸ hcurrent.2⟩
    · intro o' i hin
      exact h.waits.waiters o' i (hsame o' ▸ hin)
    · intro o'
      exact (hsame o').symm ▸ h.waits.nodup o'
    · intro o' hset
      have hwaiters := h.waits.unset o' (hsame o' ▸ hset)
      exact (congrArg AsyncEvent.waiters (hsame o')).trans hwaiters
    · intro i call hcall hsuspended hne
      have hblocked := h.waits.blocked i call hcall hsuspended not_false
      refine ⟨?_, hblocked.taskError, hblocked.connectionClosed⟩
      rw [← hblocked.completed]
      apply completed_congr rfl <;> exact congrArg _ (hobject hne)
  · refine ⟨h.tables.made, h.tables.apart, ?_, ?_, h.tables.called⟩
    · exact fun i call hcall => ⟨(h.tables.own i call hcall).made, (h.tables.own i call hcall).stream⟩
    · intro o' hle
      have hne : o' ≠ o := fun heq => Nat.not_le.2 hmade (heq ▸ hle)
      obtain ⟨hfresh, hbytes⟩ := h.tables.fresh o' hle
      exact ⟨(hobject hne).trans hfresh, (hother o' hne).trans hbytes⟩
  · constructor
    · intro o'
      by_cases heq : o' = o
      · subst heq
        exact (congrArg StreamRecvState.data (Function.update_self _ _ _)).trans hself
      · exact (congrArg StreamRecvState.data (hobject heq)).trans
          ((h.records.data o').trans (hother o' heq).symm)
    · intro i call data fin hcall hfinished
      obtain ⟨hfin, hdata, hgone⟩ := h.records.received i call data fin hcall hfinished
      have hne : call.state ≠ o := fun heq => hgone streamId (heq ▸ ho)
      exact ⟨hfin, hdata.trans (congrArg StreamRecvState.data (hobject hne)).symm, hgone⟩

/-- The event of a state that was given something is set. -/
theorem Inv.setGiven (h : c.Inv (· = o) busy) (ho : o < c.made) : (c.setEvent o).Inv Nothing busy := by
  have hset := h.setEvent ho
  exact { hset with waits := hset.waits.mono fun i call _ _ hin => absurd hin.1 hin.2 }

theorem Inv.setdefault (h : c.Inv Nothing busy) (streamId : Nat) :
    (c.setdefault streamId).1.Inv Nothing busy := by
  unfold Client.setdefault
  cases hlookup : c.recvStates.lookup streamId with
  | some o => exact h
  | none =>
      have hobject {o' : ObjectId} (hne : o' ≠ c.made) :
          (c.setObject c.made {}).objects o' = c.objects o' := Function.update_of_ne hne _ _
      have hnew : (c.setObject c.made {}).objects c.made = {} := Function.update_self _ _ _
      obtain ⟨hfresh, hbytes⟩ := h.tables.fresh c.made le_rfl
      -- a state that was not made is as a new one
      have hobjects : (c.setObject c.made {}).objects = c.objects := by
        funext o'
        by_cases heq : o' = c.made
        · rw [heq, hnew, hfresh]
        · exact hobject heq
      have hstates {streamId' : Nat} {o' : ObjectId} :
          (c.recvStates.insert streamId c.made).lookup streamId' = some o' ↔
            streamId' = streamId ∧ c.made = o' ∨
              streamId' ≠ streamId ∧ c.recvStates.lookup streamId' = some o' := Dict.lookup_insert_iff
      have hold {streamId' : Nat} {o' : ObjectId} (hlt : o' < c.made)
          (hin : (c.recvStates.insert streamId c.made).lookup streamId' = some o') :
          c.recvStates.lookup streamId' = some o' := by
        rcases hstates.1 hin with ⟨-, rfl⟩ | ⟨-, hin'⟩
        · exact absurd hlt (lt_irrefl _)
        · exact hin'
      refine ⟨⟨h.queue.scheduled, h.queue.started, h.queue.abandoned⟩, { h.phases with }, ?_, ?_, ?_,
        h.running⟩
      · refine ⟨?_, ?_, ?_, ?_, ?_, h.waits.live⟩
        · intro i call hcall hsuspended
          obtain ⟨hcurrent, hin⟩ := h.waits.current i call hcall hsuspended
          refine ⟨hstates.2 (.inr ⟨?_, hcurrent⟩), hobjects ▸ hin⟩
          rintro heq
          rw [heq, hlookup] at hcurrent
          cases hcurrent
        · exact fun o' i hin => h.waits.waiters o' i (hobjects ▸ hin)
        · exact fun o' => hobjects.symm ▸ h.waits.nodup o'
        · intro o'
          have hunset := h.waits.unset o'
          rw [← hobjects] at hunset
          exact hunset
        · intro i call hcall hsuspended hne
          have hblocked := h.waits.blocked i call hcall hsuspended hne
          refine ⟨?_, hblocked.taskError, hblocked.connectionClosed⟩
          rw [← hblocked.completed]
          apply completed_congr rfl <;> exact congrArg _ (congrFun hobjects call.state)
      · refine ⟨?_, ?_, ?_, ?_, h.tables.called⟩
        · intro streamId' o' hin
          rcases hstates.1 hin with ⟨-, rfl⟩ | ⟨-, hin'⟩
          · exact Nat.lt_succ_self _
          · exact Nat.lt_succ_of_lt (h.tables.made streamId' o' hin')
        · intro s s' o' hs hs'
          rcases hstates.1 hs with ⟨rfl, rfl⟩ | ⟨-, hin⟩
          · rcases hstates.1 hs' with ⟨rfl, -⟩ | ⟨-, hin'⟩
            · rfl
            · exact absurd (h.tables.made s' _ hin') (lt_irrefl _)
          · exact h.tables.apart s s' o' hin (hold (h.tables.made s o' hin) hs')
        · intro i call hcall
          have hown := h.tables.own i call hcall
          exact ⟨Nat.lt_succ_of_lt hown.made, fun s hin => hown.stream s (hold hown.made hin)⟩
        · intro o' hle
          have hle' : c.made ≤ o' := Nat.le_of_succ_le hle
          exact ⟨(congrFun hobjects o').trans (h.tables.fresh o' hle').1, (h.tables.fresh o' hle').2⟩
      · constructor
        · intro o'
          exact (congrArg StreamRecvState.data (congrFun hobjects o')).trans (h.records.data o')
        · intro i call data fin hcall hfinished
          obtain ⟨hfin, hdata, hgone⟩ := h.records.received i call data fin hcall hfinished
          refine ⟨hfin, hdata.trans (congrArg StreamRecvState.data (congrFun hobjects _)).symm, ?_⟩
          exact fun s hin => hgone s (hold (h.tables.own i call hcall).made hin)

theorem Inv.updateRecvState (h : c.Inv Nothing busy) (streamId : Nat) (data : List UInt8) (fin : Bool) :
    (c.updateRecvState streamId data fin).Inv Nothing busy := by
  have hmade := h.setdefault streamId
  have hlookup := c.lookup_setdefault streamId
  unfold Client.updateRecvState
  generalize c.setdefault streamId = made at hmade hlookup
  obtain ⟨c, o⟩ := made
  dsimp only at hmade hlookup ⊢
  have hbytes (o' : ObjectId) :
      ({ c with recorded := c.recorded ++ [(o, data)] } : Client).recordedBytes o' =
        c.recordedBytes o' ++ if o = o' then data else [] := by
    unfold recordedBytes
    rw [List.filter_append, List.flatMap_append]
    by_cases heq : o = o' <;> simp [heq]
  have hlt := hmade.tables.made streamId o hlookup
  refine Inv.setGiven ?_ hlt
  refine hmade.give hlookup ?_ ?_ ?_
  · rfl
  · rw [hbytes, if_pos rfl, hmade.records.data o]
  · intro o' hne
    rw [hbytes, if_neg hne.symm, List.append_nil]

theorem Inv.handleStreamReset (h : c.Inv Nothing busy) (streamId errorCode : Nat) :
    (c.handleStreamReset streamId errorCode).Inv Nothing busy := by
  have hmade := h.setdefault streamId
  have hlookup := c.lookup_setdefault streamId
  unfold Client.handleStreamReset
  generalize c.setdefault streamId = made at hmade hlookup
  obtain ⟨c, o⟩ := made
  dsimp only at hmade hlookup ⊢
  have hlt := hmade.tables.made streamId o hlookup
  refine Inv.setGiven ?_ hlt
  refine hmade.give hlookup ?_ (hmade.records.data o) fun o' _ => rfl
  rfl

/-- An entry on whose state nobody waits is removed. -/
theorem Inv.erase (h : c.Inv Nothing busy) (ho : c.recvStates.lookup streamId = some o)
    (hnobody : ∀ i call, c.calls i = some call → call.status = .suspended → call.state ≠ o) :
    ({ c with recvStates := c.recvStates.erase streamId } : Client).Inv Nothing busy := by
  have hstates {streamId' : Nat} {o' : ObjectId} :
      (c.recvStates.erase streamId).lookup streamId' = some o' ↔
        streamId' ≠ streamId ∧ c.recvStates.lookup streamId' = some o' := Dict.lookup_erase_iff
  refine ⟨⟨h.queue.scheduled, h.queue.started, h.queue.abandoned⟩, { h.phases with }, ?_, ?_, ?_,
    h.running⟩
  · refine ⟨?_, h.waits.waiters, h.waits.nodup, h.waits.unset, ?_, h.waits.live⟩
    · intro i call hcall hsuspended
      obtain ⟨hcurrent, hin⟩ := h.waits.current i call hcall hsuspended
      refine ⟨hstates.2 ⟨?_, hcurrent⟩, hin⟩
      intro heq
      rw [heq, ho] at hcurrent
      exact hnobody i call hcall hsuspended (Option.some.inj hcurrent).symm
    · intro i call hcall hsuspended hne
      have hblocked := h.waits.blocked i call hcall hsuspended hne
      exact ⟨hblocked.completed, hblocked.taskError, hblocked.connectionClosed⟩
  · refine ⟨?_, ?_, ?_, h.tables.fresh, h.tables.called⟩
    · exact fun s o' hin => h.tables.made s o' (hstates.1 hin).2
    · exact fun s s' o' hin hin' => h.tables.apart s s' o' (hstates.1 hin).2 (hstates.1 hin').2
    · intro i call hcall
      have hown := h.tables.own i call hcall
      exact ⟨hown.made, fun s hin => hown.stream s (hstates.1 hin).2⟩
  · refine ⟨h.records.data, ?_⟩
    intro i call data fin hcall hfinished
    obtain ⟨hfin, hdata, hgone⟩ := h.records.received i call data fin hcall hfinished
    exact ⟨hfin, hdata, fun s hin => hgone s (hstates.1 hin).2⟩

theorem Inv.discardRecvState (h : c.Inv Nothing busy) (streamId : Nat) :
    (c.discardRecvState streamId).Inv Nothing busy := by
  unfold Client.discardRecvState
  cases hlookup : c.recvStates.lookup streamId with
  | none => exact h
  | some o =>
      have hset := h.setEvent (h.tables.made streamId o hlookup)
      have hinv : (c.setEvent o).Inv Nothing busy :=
        { hset with waits := hset.waits.mono fun i call _ _ hin => absurd hin.1 not_false }
      apply hinv.erase (o := o)
      · rw [(setEvent_frame o c).1]
        exact hlookup
      · exact fun i call hcall hsuspended => (h.waits.suspended_setEvent hcall hsuspended).2

/-- What `_discard_recv_state` leaves as it is. -/
theorem discardRecvState_frame (h : c.Waits exempt) (streamId : Nat) :
    (c.discardRecvState streamId).recvTask = c.recvTask ∧
      (c.discardRecvState streamId).connecting = c.connecting ∧
      (c.discardRecvState streamId).made = c.made ∧
      (∀ o, ((c.discardRecvState streamId).objects o).data = (c.objects o).data) ∧
      (∀ streamId' o, (c.discardRecvState streamId).recvStates.lookup streamId' = some o →
        streamId' ≠ streamId ∧ c.recvStates.lookup streamId' = some o) ∧
      ∀ i call, c.calls i = some call → call.status ≠ .suspended →
        (c.discardRecvState streamId).calls i = some call := by
  unfold Client.discardRecvState
  cases hlookup : c.recvStates.lookup streamId with
  | none =>
      refine ⟨rfl, rfl, rfl, fun _ => rfl, ?_, fun _ _ hcall _ => hcall⟩
      intro streamId' o hin
      refine ⟨?_, hin⟩
      rintro rfl
      rw [hlookup] at hin
      cases hin
  | some o =>
      obtain ⟨hstates, hmade, htask, hconnecting, -⟩ := setEvent_frame o c
      refine ⟨htask, hconnecting, hmade, ?_, ?_, ?_⟩
      · intro o'
        change ((c.setEvent o).objects o').data = _
        rw [setEvent_eq]
        exact (objects_update_event c o _ o').2.1
      · intro streamId' o' hin
        have herase := Dict.lookup_erase_iff.1 hin
        rw [hstates] at herase
        exact herase
      · intro i call hcall hstatus
        change (c.setEvent o).calls i = some call
        rw [setEvent_eq]
        simp only [h.not_waiter hcall hstatus, if_false]
        exact hcall

/-! ## Calls -/

/-- A call is not on any event. -/
def Aside (c : Client) (i : CallId) : Prop :=
  ∀ before, c.calls i = some before → before.status ≠ .suspended

theorem setCall_calls {j : CallId} {call' : Call} :
    (c.setCall i call).calls j = some call' ↔
      j = i ∧ call' = call ∨ j ≠ i ∧ c.calls j = some call' := by
  change Function.update c.calls i (some call) j = some call' ↔ _
  by_cases h : j = i
  · subst h
    rw [Function.update_self]
    simp [eq_comm]
  · rw [Function.update_of_ne h]
    simp [h]

theorem Waits.setCall (h : c.Waits exempt) (haside : c.Aside i) (hstatus : call.status ≠ .suspended) :
    (c.setCall i call).Waits exempt := by
  have hsame {j call'} (hcall : (c.setCall i call).calls j = some call')
      (hsuspended : call'.status = .suspended) : c.calls j = some call' := by
    rcases setCall_calls.1 hcall with ⟨-, rfl⟩ | ⟨-, hcall⟩
    · exact absurd hsuspended hstatus
    · exact hcall
  refine ⟨?_, ?_, h.nodup, h.unset, ?_, ?_⟩
  · exact fun j call' hcall hsuspended => h.current j call' (hsame hcall hsuspended) hsuspended
  · intro o j hin
    obtain ⟨call', hcall, hsuspended, hstate⟩ := h.waiters o j hin
    refine ⟨call', setCall_calls.2 (.inr ⟨?_, hcall⟩), hsuspended, hstate⟩
    rintro rfl
    exact haside call' hcall hsuspended
  · intro j call' hcall hsuspended hexempt
    have hblocked := h.blocked j call' (hsame hcall hsuspended) hsuspended hexempt
    exact ⟨hblocked.completed, hblocked.taskError, hblocked.connectionClosed⟩
  · exact fun j call' hcall hsuspended => h.live j call' (hsame hcall hsuspended) hsuspended

theorem Tables.setCall (h : c.Tables) (hown : c.Own call) (hi : i < c.called) :
    (c.setCall i call).Tables := by
  refine ⟨h.made, h.apart, ?_, h.fresh, ?_⟩
  · intro j call' hcall
    rcases setCall_calls.1 hcall with ⟨-, rfl⟩ | ⟨-, hcall⟩
    · exact ⟨hown.made, hown.stream⟩
    · exact ⟨(h.own j call' hcall).made, (h.own j call' hcall).stream⟩
  · intro j hj
    have hne : j ≠ i := fun heq => Nat.not_le.2 hi (heq ▸ hj)
    exact (Function.update_of_ne hne _ _).trans (h.called j hj)

/-- What a call that returns data found. -/
def Found (c : Client) (call : Call) : Prop :=
  ∀ data fin, call.status = .finished (.received data fin) →
    fin = true ∧ data = (c.objects call.state).data ∧
      ∀ streamId, c.recvStates.lookup streamId ≠ some call.state

theorem Records.setCall (h : c.Records) (hfound : c.Found call) : (c.setCall i call).Records := by
  refine ⟨h.data, ?_⟩
  intro j call' data fin hcall hfinished
  rcases setCall_calls.1 hcall with ⟨-, rfl⟩ | ⟨-, hcall⟩
  · exact hfound data fin hfinished
  · exact h.received j call' data fin hcall hfinished

theorem Phases.setCall (h : c.Phases) (htask : c.recvTask ≠ none) : (c.setCall i call).Phases :=
  { h with idle := fun hnone => absurd hnone htask }

/-- An update of a call changes nothing in whether the others are due. -/
theorem due_setCall_ne {handle : Handle} (hne : handle ≠ .waiter i) :
    (c.setCall i call).Due handle ↔ c.Due handle := by
  cases handle with
  | waiter j =>
      have hsame {call'} : (c.setCall i call).calls j = some call' ↔ c.calls j = some call' := by
        have hji : j ≠ i := fun heq => hne (congrArg Handle.waiter heq)
        rw [setCall_calls]
        simp [hji]
      simp only [Due, hsame]
  | _ => exact Iff.rfl

/-- The queue behind an update of a call, if the same is due but for the call. -/
theorem Scheduled.setCall {queue : List Handle} (h : Scheduled queue c.Due)
    (hdue : (c.setCall i call).Due (.waiter i) ↔ c.Due (.waiter i)) :
    Scheduled queue (c.setCall i call).Due := by
  apply h.congr
  intro handle
  by_cases heq : handle = .waiter i
  · rw [heq]
    exact hdue
  · exact due_setCall_ne heq

theorem due_setCall : (c.setCall i call).Due (.waiter i) ↔ call.status.scheduled = true := by
  have hself : (c.setCall i call).calls i = some call := setCall_calls.2 (.inl ⟨rfl, rfl⟩)
  simp [Due, hself]

theorem due_waiter {before : Call} (h : c.calls i = some before) :
    c.Due (.waiter i) ↔ before.status.scheduled = true := by
  simp [Due, h]

/-- A call in its step: it may have taken another state since its last wait. -/
structure InStep (c : Client) (i : CallId) (call : Call) : Prop where
  stored : ∃ before, c.calls i = some before ∧ before.status = .running
  own : c.Own call
  task : c.recvTask ≠ none

theorem InStep.aside (h : c.InStep i call) : c.Aside i := by
  obtain ⟨before, hcall, hrunning⟩ := h.stored
  intro before' hcall'
  rw [hcall] at hcall'
  cases hcall'
  rw [hrunning]
  exact Status.noConfusion

theorem InStep.not_due (h : c.InStep i call) : ¬ c.Due (.waiter i) := by
  obtain ⟨before, hcall, hrunning⟩ := h.stored
  rw [due_waiter hcall, hrunning]
  exact Bool.noConfusion

theorem InStep.called (h : c.InStep i call) (ht : c.Tables) : i < c.called := by
  obtain ⟨before, hcall, -⟩ := h.stored
  by_contra hle
  have hnone := ht.called i (Nat.le_of_not_lt hle)
  rw [hcall] at hnone
  cases hnone

/-- Only the call in its step runs, and with another status it does not. -/
theorem Inv.none_running (h : c.Inv exempt (· = i)) (hstatus : call.status ≠ .running) :
    ∀ j call', (c.setCall i call).calls j = some call' → call'.status = .running → Nobody j := by
  intro j call' hcall hrunning
  rcases setCall_calls.1 hcall with ⟨-, rfl⟩ | ⟨hne, hcall⟩
  · exact hstatus hrunning
  · exact hne (h.running j call' hcall hrunning)

/-- The call in its step ends. -/
theorem Inv.setFinished {outcome : Outcome} (h : c.Inv Nothing (· = i)) (hstep : c.InStep i call)
    (hfound : c.Found (call.become (.finished outcome))) :
    (c.setCall i (call.become (.finished outcome))).Inv Nothing Nobody := by
  refine ⟨⟨?_, h.queue.started, h.queue.abandoned⟩, h.phases.setCall hstep.task,
    h.waits.setCall hstep.aside Status.noConfusion,
    h.tables.setCall ⟨hstep.own.made, hstep.own.stream⟩ (hstep.called h.tables),
    h.records.setCall hfound, h.none_running Status.noConfusion⟩
  apply Scheduled.setCall h.queue.scheduled
  rw [due_setCall]
  exact ⟨fun hdue => Bool.noConfusion hdue, fun hdue => absurd hdue hstep.not_due⟩

/-- The call is scheduled again. -/
theorem Inv.setScheduled {status : Status} (h : c.Inv Nothing (· = i)) (hstep : c.InStep i call)
    (hscheduled : status.scheduled = true) (hlive : c.recvTask ≠ some .done) :
    ((c.setCall i (call.become status)).schedule [.waiter i]).Inv Nothing Nobody := by
  have hnot : status ≠ .suspended ∧ status ≠ .running ∧ ∀ outcome, status ≠ .finished outcome := by
    refine ⟨?_, ?_, ?_⟩
    · rintro rfl
      cases hscheduled
    · rintro rfl
      cases hscheduled
    · rintro outcome rfl
      cases hscheduled
  have hwaiter : ∀ handle ∈ [Handle.waiter i], handle = .waiter i :=
    fun handle hin => List.mem_singleton.1 hin
  have hparts : (c.setCall i (call.become status)).Waits Nothing :=
    h.waits.setCall hstep.aside hnot.1
  have hphases : (c.setCall i (call.become status)).Phases := h.phases.setCall hstep.task
  have htables : (c.setCall i (call.become status)).Tables :=
    h.tables.setCall ⟨hstep.own.made, hstep.own.stream⟩ (hstep.called h.tables)
  have hrecords : (c.setCall i (call.become status)).Records :=
    h.records.setCall fun data fin hfinished => absurd hfinished (hnot.2.2 _)
  refine ⟨⟨?_, ?_, ?_⟩, { hphases with }, { hparts with blocked := ?_ },
    { htables with own := ?_ }, { hrecords with }, h.none_running hnot.2.1⟩
  · apply h.queue.scheduled.post (List.nodup_singleton _)
    · intro handle hin
      rw [hwaiter handle hin]
      exact hstep.not_due
    · intro handle
      by_cases heq : handle = .waiter i
      · subst heq
        have hdue : (c.setCall i (call.become status)).Due (.waiter i) := due_setCall.2 hscheduled
        exact ⟨fun _ => .inr (List.mem_singleton.2 rfl), fun _ => hdue⟩
      · have hsame : (c.setCall i (call.become status)).Due handle ↔ c.Due handle :=
          due_setCall_ne heq
        have hiff : c.Due handle ↔ c.Due handle ∨ handle ∈ [Handle.waiter i] :=
          ⟨.inl, fun hor => hor.resolve_right fun hin => heq (hwaiter handle hin)⟩
        exact hsame.trans hiff
  · apply h.queue.started.post_not_early
    intro handle hin
    rw [hwaiter handle hin]
    exact Handle.noConfusion
  · apply h.queue.abandoned.post_not_late (h.queue.no_abandon h.phases hlive)
    intro handle hin
    rw [hwaiter handle hin]
    exact not_false
  · intro j call' hcall hsuspended hexempt
    have hblocked := hparts.blocked j call' hcall hsuspended hexempt
    exact ⟨hblocked.completed, hblocked.taskError, hblocked.connectionClosed⟩
  · intro j call' hcall
    have hown := htables.own j call' hcall
    exact ⟨hown.made, hown.stream⟩

/-! ## The waiting loops -/

/-- What a call returns is what its state holds. -/
def Legit (c : Client) (call : Call) (outcome : Outcome) : Prop :=
  ∀ data fin, outcome = .received data fin → fin = true ∧ data = (c.objects call.state).data

theorem legit_completed {outcome : Outcome} (h : c.completed call = some outcome) :
    c.Legit call outcome := by
  rintro data fin rfl
  unfold completed at h
  cases hmethod : call.method with
  | recvStreamData =>
      simp only [hmethod] at h
      split_ifs at h
      cases h
      exact ⟨rfl, rfl⟩
  | waitForStreamReset =>
      simp only [hmethod] at h
      obtain ⟨code, -, hcode⟩ := Option.map_eq_some_iff.1 h
      cases hcode

theorem legit_timeoutError (c : Client) (call : Call) (reason : TimeoutReason) :
    c.Legit call (c.timeoutError call reason) := by
  intro data fin h
  unfold timeoutError at h
  split at h <;> cases h

theorem legit_taskError (exc : Nat) : c.Legit call (.taskError exc) := fun _ _ h => Outcome.noConfusion h

theorem legit_pass {outcome : Outcome} {now : ℚ} (h : c.pass call now = .finish outcome) :
    c.Legit call outcome := by
  unfold pass at h
  cases hcompleted : c.completed call with
  | some outcome' =>
      simp only [hcompleted] at h
      cases h
      exact legit_completed hcompleted
  | none =>
      simp only [hcompleted] at h
      cases htask : c.taskError with
      | some exc =>
          simp only [htask] at h
          cases h
          exact legit_taskError exc
      | none =>
          simp only [htask] at h
          split_ifs at h <;> cases h
          · exact legit_timeoutError c call _
          · exact legit_timeoutError c call _

/-- A call that goes on to wait is blocked. -/
theorem blocked_of_pass {now : ℚ} (h : c.pass call now = .wait) : c.Blocked call := by
  unfold pass at h
  cases hcompleted : c.completed call with
  | some outcome =>
      simp only [hcompleted] at h
      cases h
  | none =>
      simp only [hcompleted] at h
      cases htask : c.taskError with
      | some exc =>
          simp only [htask] at h
          cases h
      | none =>
          simp only [htask] at h
          cases hclosed : c.connectionClosedEvent with
          | true => simp [hclosed] at h
          | false => exact ⟨hcompleted, htask, hclosed⟩

/-- The call ends with what its state holds, or with an error. -/
theorem Inv.finish {outcome : Outcome} (h : c.Inv Nothing (· = i)) (hstep : c.InStep i call)
    (hlegit : c.Legit call outcome) : (c.finish i call outcome).Inv Nothing Nobody := by
  cases outcome with
  | received data fin =>
      obtain ⟨htask, -, hmade, hdata, hstates, hcalls⟩ := discardRecvState_frame h.waits call.streamId
      obtain ⟨before, hbefore, hrunning⟩ := hstep.stored
      obtain ⟨hfin, hsame⟩ := hlegit data fin rfl
      apply Inv.setFinished (h.discardRecvState call.streamId)
      · refine ⟨⟨before, hcalls i before hbefore ?_, hrunning⟩, ⟨?_, ?_⟩, ?_⟩
        · exact hstep.aside before hbefore
        · rw [hmade]
          exact hstep.own.made
        · exact fun s hin => hstep.own.stream s (hstates s _ hin).2
        · rw [htask]
          exact hstep.task
      · intro data' fin' heq
        cases heq
        refine ⟨hfin, hsame.trans (hdata call.state).symm, ?_⟩
        intro s hin
        obtain ⟨hne, hin'⟩ := hstates s _ hin
        exact hne (hstep.own.stream s hin')
  | _ => exact h.setFinished hstep fun data' fin' heq => nomatch heq

/-- `event.clear()` -/
theorem Inv.clearEvent (h : c.Inv exempt busy) (ho : o < c.made) : (c.clearEvent o).Inv exempt busy := by
  have hobjects : (c.clearEvent o).objects = Function.update c.objects o
      { c.objects o with event := { (c.objects o).event with isSet := false } } := rfl
  have hwaiters (o' : ObjectId) :
      ((c.clearEvent o).objects o').event.waiters = (c.objects o').event.waiters := by
    rw [hobjects]
    by_cases heq : o' = o
    · subst heq
      rw [Function.update_self]
    · rw [Function.update_of_ne heq]
  have hsame (o' : ObjectId) := objects_update_event c o
    { (c.objects o).event with isSet := false } o'
  refine ⟨⟨h.queue.scheduled, h.queue.started, h.queue.abandoned⟩, { h.phases with }, ?_, ?_, ?_,
    h.running⟩
  · refine ⟨?_, ?_, ?_, ?_, ?_, h.waits.live⟩
    · intro i call hcall hsuspended
      rw [hwaiters]
      exact h.waits.current i call hcall hsuspended
    · intro o' i hin
      rw [hwaiters] at hin
      exact h.waits.waiters o' i hin
    · intro o'
      rw [hwaiters]
      exact h.waits.nodup o'
    · intro o' hset
      rw [hwaiters]
      apply h.waits.unset o'
      rw [hobjects] at hset
      by_cases heq : o' = o
      · subst heq
        rw [Function.update_self] at hset
        cases hset
      · rwa [Function.update_of_ne heq] at hset
    · intro i call hcall hsuspended hexempt
      have hblocked := h.waits.blocked i call hcall hsuspended hexempt
      refine ⟨?_, hblocked.taskError, hblocked.connectionClosed⟩
      rw [← hblocked.completed]
      exact completed_congr rfl (hsame _).1 (hsame _).2.1 (hsame _).2.2
  · refine ⟨h.tables.made, h.tables.apart, ?_, ?_, h.tables.called⟩
    · exact fun i call hcall => ⟨(h.tables.own i call hcall).made, (h.tables.own i call hcall).stream⟩
    · intro o' hle
      have hne : o' ≠ o := fun heq => Nat.not_le.2 ho (heq ▸ hle)
      obtain ⟨hfresh, hbytes⟩ := h.tables.fresh o' hle
      exact ⟨(Function.update_of_ne hne _ _).trans hfresh, hbytes⟩
  · refine ⟨fun o' => (hsame o').2.1.trans (h.records.data o'), ?_⟩
    intro i call data fin hcall hfinished
    obtain ⟨hfin, hdata, hgone⟩ := h.records.received i call data fin hcall hfinished
    exact ⟨hfin, hdata.trans (hsame _).2.1.symm, hgone⟩

/-- A change of who waits on the event of a state. -/
theorem objects_setWaiters (c : Client) (o : ObjectId) (waiters : List CallId) (o' : ObjectId) :
    ((c.setObject o { c.objects o with event := { (c.objects o).event with waiters } }).objects
        o').event.waiters = (if o' = o then waiters else (c.objects o').event.waiters) ∧
      ((c.setObject o { c.objects o with event := { (c.objects o).event with waiters } }).objects
        o').event.isSet = (c.objects o').event.isSet := by
  change (Function.update c.objects o _ o').event.waiters = _ ∧
    (Function.update c.objects o _ o').event.isSet = _
  by_cases heq : o' = o
  · subst heq
    rw [Function.update_self]
    simp
  · rw [Function.update_of_ne heq]
    simp [heq]

/-- The parts of the invariant that a change of who waits does not touch. -/
theorem Inv.setWaiters (waiters : List CallId) (h : c.Inv exempt busy) (ho : o < c.made) :
    (c.setObject o { c.objects o with event := { (c.objects o).event with waiters } }).Queue ∧
      (c.setObject o { c.objects o with event := { (c.objects o).event with waiters } }).Phases ∧
      (c.setObject o { c.objects o with event := { (c.objects o).event with waiters } }).Tables ∧
      (c.setObject o { c.objects o with event := { (c.objects o).event with waiters } }).Records := by
  have hsame (o' : ObjectId) := objects_update_event c o
    { (c.objects o).event with waiters } o'
  refine ⟨⟨h.queue.scheduled, h.queue.started, h.queue.abandoned⟩, { h.phases with }, ?_, ?_⟩
  · refine ⟨h.tables.made, h.tables.apart, ?_, ?_, h.tables.called⟩
    · exact fun i call hcall => ⟨(h.tables.own i call hcall).made, (h.tables.own i call hcall).stream⟩
    · intro o' hle
      have hne : o' ≠ o := fun heq => Nat.not_le.2 ho (heq ▸ hle)
      obtain ⟨hfresh, hbytes⟩ := h.tables.fresh o' hle
      exact ⟨(Function.update_of_ne hne _ _).trans hfresh, hbytes⟩
  · refine ⟨fun o' => (hsame o').2.1.trans (h.records.data o'), ?_⟩
    intro i call data fin hcall hfinished
    obtain ⟨hfin, hdata, hgone⟩ := h.records.received i call data fin hcall hfinished
    exact ⟨hfin, hdata.trans (hsame _).2.1.symm, hgone⟩

/-- While something blocks, the receive task is not done. -/
theorem Phases.live (h : c.Phases) (hblocked : c.Blocked call) : c.recvTask ≠ some .done := by
  intro hdone
  have hclosed := h.closed hdone
  rw [hblocked.connectionClosed] at hclosed
  cases hclosed

/-- A blocked call waits on the event of its state, which is current and not set. -/
theorem Inv.suspend (h : c.Inv Nothing (· = i)) (hstep : c.InStep i call)
    (hcurrent : c.recvStates.lookup call.streamId = some call.state) (hblocked : c.Blocked call)
    (hunset : (c.objects call.state).event.isSet = false) : (c.suspend i call).Inv Nothing Nobody := by
  have hlive := h.phases.live hblocked
  obtain ⟨hqueue, hphases, htables, hrecords⟩ :=
    h.setWaiters ((c.objects call.state).event.waiters ++ [i]) hstep.own.made
  have hwaiters (o' : ObjectId) := objects_setWaiters c call.state
    ((c.objects call.state).event.waiters ++ [i]) o'
  have hsame (o' : ObjectId) := objects_update_event c call.state
    { (c.objects call.state).event with
      waiters := (c.objects call.state).event.waiters ++ [i] } o'
  have hnot : i ∉ (c.objects call.state).event.waiters := by
    obtain ⟨before, hbefore, -⟩ := hstep.stored
    exact h.waits.not_waiter hbefore (hstep.aside before hbefore)
  change ((c.setObject call.state { c.objects call.state with
    event := { (c.objects call.state).event with
      waiters := (c.objects call.state).event.waiters ++ [i] } }).setCall i
        (call.become .suspended)).Inv Nothing Nobody
  generalize hc : c.setObject call.state { c.objects call.state with
    event := { (c.objects call.state).event with
      waiters := (c.objects call.state).event.waiters ++ [i] } } = c' at *
  have hcalls : c'.calls = c.calls := by rw [← hc]; rfl
  have hstates : c'.recvStates = c.recvStates := by rw [← hc]; rfl
  have htask : c'.recvTask = c.recvTask := by rw [← hc]; rfl
  have hclosed : c'.connectionClosedEvent = c.connectionClosedEvent := by rw [← hc]; rfl
  have herror : c'.taskError = c.taskError := by rw [← hc]; rfl
  have hcompleted (call' : Call) : c'.completed call' = c.completed call' := by
    have hobject := hsame call'.state
    rw [← hc]
    exact completed_congr rfl hobject.1 hobject.2.1 hobject.2.2
  have hother {j : CallId} {call' : Call} (hne : j ≠ i)
      (hcall : (c'.setCall i (call.become .suspended)).calls j = some call') :
      c.calls j = some call' := by
    rcases setCall_calls.1 hcall with ⟨heq, -⟩ | ⟨-, hsame⟩
    · exact absurd heq hne
    · exact hcalls ▸ hsame
  have hself : (c'.setCall i (call.become .suspended)).calls i = some (call.become .suspended) :=
    setCall_calls.2 (.inl ⟨rfl, rfl⟩)
  have haside : c'.Aside i := fun before hbefore => hstep.aside before (hcalls ▸ hbefore)
  have hstill (call' : Call) (hb : c.Blocked call') :
      (c'.setCall i (call.become .suspended)).Blocked call' :=
    ⟨(hcompleted call').trans hb.completed, herror.trans hb.taskError,
      hclosed.trans hb.connectionClosed⟩
  refine ⟨⟨?_, hqueue.started, hqueue.abandoned⟩, hphases.setCall (htask ▸ hstep.task), ?_, ?_, ?_, ?_⟩
  · apply Scheduled.setCall hqueue.scheduled
    rw [due_setCall]
    constructor
    · exact fun hdue => Bool.noConfusion hdue
    · rintro ⟨call', hcall, hdue⟩
      exact absurd ⟨call', hcalls ▸ hcall, hdue⟩ hstep.not_due
  · refine ⟨?_, ?_, ?_, ?_, ?_, ?_⟩
    · intro j call' hcall hsuspended
      change c'.recvStates.lookup _ = _ ∧ j ∈ (c'.objects _).event.waiters
      rw [hstates, (hwaiters call'.state).1]
      by_cases heq : j = i
      · subst heq
        rw [hself] at hcall
        cases hcall
        refine ⟨hcurrent, ?_⟩
        rw [if_pos (show (call.become .suspended).state = call.state from rfl)]
        exact List.mem_append_right _ (List.mem_singleton.2 rfl)
      · obtain ⟨hlookup, hin⟩ := h.waits.current j call' (hother heq hcall) hsuspended
        refine ⟨hlookup, ?_⟩
        split_ifs with hstate
        · exact List.mem_append_left _ (hstate ▸ hin)
        · exact hin
    · intro o' j hin
      change j ∈ (c'.objects o').event.waiters at hin
      rw [(hwaiters o').1] at hin
      have hold (hin' : j ∈ (c.objects o').event.waiters) : ∃ call',
          (c'.setCall i (call.become .suspended)).calls j = some call' ∧
            call'.status = .suspended ∧ call'.state = o' := by
        obtain ⟨call', hcall, hsuspended, hstate⟩ := h.waits.waiters o' j hin'
        refine ⟨call', setCall_calls.2 (.inr ⟨?_, hcalls ▸ hcall⟩), hsuspended, hstate⟩
        rintro rfl
        exact hstep.aside call' hcall hsuspended
      split_ifs at hin with hstate
      · rcases List.mem_append.1 hin with hin' | hin'
        · exact hold (hstate ▸ hin')
        · rw [List.mem_singleton.1 hin']
          exact ⟨_, hself, rfl, hstate.symm⟩
      · exact hold hin
    · intro o'
      change (c'.objects o').event.waiters.Nodup
      rw [(hwaiters o').1]
      split_ifs
      · apply List.Nodup.append (h.waits.nodup call.state) (List.nodup_singleton i)
        intro j hin hin'
        rw [List.mem_singleton.1 hin'] at hin
        exact hnot hin
      · exact h.waits.nodup o'
    · intro o' hset
      change (c'.objects o').event.isSet = true at hset
      change (c'.objects o').event.waiters = []
      rw [(hwaiters o').2] at hset
      rw [(hwaiters o').1, if_neg ?_]
      · exact h.waits.unset o' hset
      · rintro rfl
        rw [hunset] at hset
        cases hset
    · intro j call' hcall hsuspended hexempt
      by_cases heq : j = i
      · subst heq
        rw [hself] at hcall
        cases hcall
        have hbecome := hstill call hblocked
        exact ⟨hbecome.completed, hbecome.taskError, hbecome.connectionClosed⟩
      · exact hstill call' (h.waits.blocked j call' (hother heq hcall) hsuspended hexempt)
    · exact fun j call' _ _ => htask ▸ hlive
  · have hmade : c'.made = c.made := by rw [← hc]; rfl
    have hcalled : c'.called = c.called := by rw [← hc]; rfl
    apply htables.setCall
    · exact ⟨hmade ▸ hstep.own.made, fun s hin => hstep.own.stream s (hstates ▸ hin)⟩
    · exact hcalled ▸ hstep.called h.tables
  · exact hrecords.setCall fun data fin hfinished => Status.noConfusion hfinished
  · intro j call' hcall hrunning
    by_cases heq : j = i
    · subst heq
      rw [hself] at hcall
      cases hcall
      cases hrunning
    · exact heq (h.running j call' (hother heq hcall) hrunning)

/-- A step that takes another state, or clears the event of its state, is still in its step. -/
theorem InStep.setdefault (h : c.InStep i call) (htables : (c.setdefault call.streamId).1.Tables) :
    (c.setdefault call.streamId).1.InStep i { call with state := (c.setdefault call.streamId).2 } := by
  have hlookup := c.lookup_setdefault call.streamId
  have hframe : (c.setdefault call.streamId).1.calls = c.calls ∧
      (c.setdefault call.streamId).1.recvTask = c.recvTask := by
    unfold Client.setdefault
    cases c.recvStates.lookup call.streamId <;> exact ⟨rfl, rfl⟩
  refine ⟨?_, ⟨htables.made _ _ hlookup, ?_⟩, ?_⟩
  · rw [hframe.1]
    exact h.stored
  · exact fun s hin => htables.apart s call.streamId _ hin hlookup
  · rw [hframe.2]
    exact h.task

/-- Whatever the checks of a pass and the clock come to, the call ends, is scheduled or waits. -/
theorem Inv.waitLoop (clock : Nat → ℚ) (n : Nat) (h : c.Inv Nothing (· = i)) (hstep : c.InStep i call) :
    (c.waitLoop i clock call n).Inv Nothing Nobody := by
  fun_induction Client.waitLoop i clock c call n with
  | case1 c call n outcome hpass => exact h.finish hstep (legit_pass hpass)
  | case2 c call n hpass made ih =>
      have hmade := h.setdefault call.streamId
      exact ih hmade (hstep.setdefault hmade.tables)
  | case3 c call n hpass state call' hspent =>
      have hblocked := blocked_of_pass hpass
      apply h.setScheduled _ rfl (h.phases.live hblocked)
      exact ⟨hstep.stored, ⟨hstep.own.made, hstep.own.stream⟩, hstep.task⟩
  | case4 c call n hpass state call' hspent hset ih =>
      apply ih (h.clearEvent hstep.own.made)
      exact ⟨hstep.stored, ⟨hstep.own.made, hstep.own.stream⟩, hstep.task⟩
  | case5 c call n hpass state call' hspent hset =>
      have hblocked := blocked_of_pass hpass
      apply h.suspend
      · exact ⟨hstep.stored, ⟨hstep.own.made, hstep.own.stream⟩, hstep.task⟩
      · exact pass_current.1 hpass
      · exact ⟨hblocked.completed, hblocked.taskError, hblocked.connectionClosed⟩
      · exact Bool.eq_false_iff.2 hset

/-- `except TimeoutError` -/
theorem Inv.afterTimeout (clock : Nat → ℚ) (h : c.Inv Nothing (· = i)) (hstep : c.InStep i call) :
    (c.afterTimeout i clock call).Inv Nothing Nobody := by
  unfold Client.afterTimeout
  cases call.method with
  | waitForStreamReset => exact h.waitLoop clock 0 hstep
  | recvStreamData =>
      cases hcompleted : c.completed call with
      | some outcome => exact h.finish hstep (legit_completed hcompleted)
      | none =>
          cases c.taskError with
          | some exc => exact h.finish hstep (legit_taskError exc)
          | none =>
              dsimp only
              split_ifs
              · exact h.finish hstep (legit_timeoutError c call _)
              · exact h.finish hstep (legit_timeoutError c call _)
              · exact h.waitLoop clock 1 hstep
              · exact h.finish hstep (legit_timeoutError c call _)

end Client

end WebTransport.QuicClient
