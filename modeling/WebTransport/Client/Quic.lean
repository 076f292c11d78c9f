import Mathlib.Logic.Function.Basic
import Mathlib.Data.Rat.Defs
import Mathlib.Algebra.Order.Field.Rat
import WebTransport.Data.Dict

/-!
# Client.Quic — the receive states of `quic.Client` and their waiters

`quic.Client` keeps a `_StreamRecvState` for each stream, which the background receive task fills and on
whose event `recv_stream_data()` and `wait_for_stream_reset()` wait.  What runs between two awaits is one
step, and the event loop runs the ready tasks in the order they were scheduled.

1. receive states, events and calls,
2. the client,
3. what the receive task and the public methods do to the receive states,
4. the two waiting loops,
5. the receive task and `connect()`,
6. steps of the event loop.
-/

namespace WebTransport.QuicClient

/-! ## Receive states, events and calls -/

abbrev ObjectId := Nat

abbrev CallId := Nat

/-- `asyncio.Event`, with the futures in `_waiters` that are not done. -/
structure AsyncEvent where
  isSet : Bool := false
  waiters : List CallId := []
deriving DecidableEq

/-- `_StreamRecvState` -/
structure StreamRecvState where
  data : List UInt8 := []
  fin : Bool := false
  resetErrorCode : Option Nat := none
  event : AsyncEvent := {}
deriving DecidableEq

/-- The two methods that wait for the event of a receive state. -/
inductive Method where
  | recvStreamData
  | waitForStreamReset
deriving DecidableEq

/-- The reasons `_recv_stream_timeout_error` names. -/
inductive TimeoutReason where
  | connectionClosed
  | overallTimeout
  | idleTimeout
deriving DecidableEq

/-- What a call returns or raises. -/
inductive Outcome where
  /-- `recv_stream_data` returns `(data, fin)`. -/
  | received (data : List UInt8) (fin : Bool)
  /-- `wait_for_stream_reset` returns the error code. -/
  | resetErrorCode (errorCode : Nat)
  /-- The exception that ended the receive task. -/
  | taskError (exc : Nat)
  | timeoutError (reason : TimeoutReason) (received : Nat)
  /-- `wait_for_stream_reset` raises `TimeoutError`. -/
  | resetTimeoutError (connectionClosed : Bool)
  | cancelledError
deriving DecidableEq

/-- Where the task of a call stands. -/
inductive Status where
  /-- In its step. -/
  | running
  /-- In `event.wait()`, on a future that is not done. -/
  | suspended
  /-- The future is resolved and the task is scheduled. -/
  | woken
  /-- `wait_for` timed out, or the task was cancelled, and it is scheduled. -/
  | interrupted (cancelled : Bool)
  | finished (outcome : Outcome)
deriving DecidableEq

/-- The status waits for its turn in the event loop. -/
def Status.scheduled : Status → Bool
  | .woken | .interrupted _ => true
  | _ => false

/-- A call of one of the two methods, with the local variables of its coroutine. -/
structure Call where
  method : Method
  streamId : Nat
  timeout : ℚ
  deadline : ℚ
  state : ObjectId
  receivedBefore : Nat := 0
  resetBefore : Option Nat := none
  status : Status := .running
deriving DecidableEq

/-- The call with another status. -/
def Call.become (call : Call) (status : Status) : Call := { call with status := status }

/-! ## The client -/

/-- The background receive task. -/
inductive TaskState where
  /-- Created, and maybe cancelled since; its first step is scheduled. -/
  | created (cancelled : Bool)
  | suspended
  | ready
  | running
  | done
deriving DecidableEq

/-- Where the task in `connect()` stands. -/
inductive Connecting where
  /-- `connect()` is not running. -/
  | idle
  /-- In `_attempt_connect`, before the receive task is created. -/
  | attempting
  /-- Awaiting `_connect_waiter`. -/
  | waiting
  /-- The wait is over and the task is scheduled. -/
  | resumed
  /-- In `_abandon_attempt`, awaiting the receive task. -/
  | gathering
  /-- The receive task is done and the callback of `gather` is scheduled. -/
  | gathered
  /-- `gather` is done and the task is scheduled. -/
  | abandoning
deriving DecidableEq

/-- What the event loop has ready. -/
inductive Handle where
  | waiter (call : CallId)
  /-- The first step of the receive task. -/
  | recvStart
  | recv
  | connect
  | gatherDone
  | abandoned
deriving DecidableEq

/-- `Client`, with the objects it made, the calls on it and the ready queue of the event loop. -/
structure Client where
  objects : ObjectId → StreamRecvState := fun _ => {}
  /-- The number of receive states made. -/
  made : ObjectId := 0
  recvStates : Dict Nat ObjectId := ∅
  taskError : Option Nat := none
  connectionClosedEvent : Bool := false
  recvTask : Option TaskState := none
  connecting : Connecting := .idle
  calls : CallId → Option Call := fun _ => none
  /-- The number of calls made. -/
  called : CallId := 0
  ready : List Handle := []
  /-- The bytes of each STREAM_DATA event and the receive state they went to. -/
  recorded : List (ObjectId × List UInt8) := []

namespace Client

def setObject (o : ObjectId) (state : StreamRecvState) (c : Client) : Client :=
  { c with objects := Function.update c.objects o state }

def setCall (i : CallId) (call : Call) (c : Client) : Client :=
  { c with calls := Function.update c.calls i (some call) }

def schedule (handles : List Handle) (c : Client) : Client :=
  { c with ready := c.ready ++ handles }

/-- The STREAM_DATA bytes that a receive state was given, in order. -/
def recordedBytes (c : Client) (o : ObjectId) : List UInt8 :=
  (c.recorded.filter fun entry => entry.1 = o).flatMap Prod.snd

/-- The future a call waits on is resolved: its task is scheduled. -/
def wake (c : Client) (i : CallId) : Client :=
  schedule [.waiter i]
    { c with calls := Function.update c.calls i ((c.calls i).map (Call.become · .woken)) }

/-- `event.set()` -/
def setEvent (o : ObjectId) (c : Client) : Client :=
  let state := c.objects o
  state.event.waiters.foldl wake
    (c.setObject o { state with event := { isSet := true, waiters := [] } })

/-- `event.clear()` -/
def clearEvent (o : ObjectId) (c : Client) : Client :=
  let state := c.objects o
  c.setObject o { state with event := { state.event with isSet := false } }

/-- `self._recv_states.setdefault(stream_id, _StreamRecvState())` -/
def setdefault (streamId : Nat) (c : Client) : Client × ObjectId :=
  match c.recvStates.lookup streamId with
  | some o => (c, o)
  | none =>
      ({ c.setObject c.made {} with
           made := c.made + 1, recvStates := c.recvStates.insert streamId c.made }, c.made)

/-! ## What is done to the receive states -/

/-- `_discard_recv_state`, and `discard_recv_state` -/
def discardRecvState (streamId : Nat) (c : Client) : Client :=
  match c.recvStates.lookup streamId with
  | none => c
  | some o =>
      let c := c.setEvent o
      { c with recvStates := c.recvStates.erase streamId }

/-- `_update_recv_state` -/
def updateRecvState (streamId : Nat) (data : List UInt8) (fin : Bool) (c : Client) : Client :=
  let (c, o) := c.setdefault streamId
  let state := c.objects o
  setEvent o
    { c.setObject o { state with data := state.data ++ data, fin := state.fin || fin } with
        recorded := c.recorded ++ [(o, data)] }

/-- `_handle_stream_reset` -/
def handleStreamReset (streamId errorCode : Nat) (c : Client) : Client :=
  let (c, o) := c.setdefault streamId
  (c.setObject o { c.objects o with resetErrorCode := some errorCode }).setEvent o

/-- `_wake_stream_waiters`; a dictionary is walked from its oldest key. -/
def wakeStreamWaiters (c : Client) : Client :=
  (Dict.values c.recvStates).reverse.foldl (fun c o => c.setEvent o) c

/-! ## The waiting loops -/

/-- What a call returns because its completion condition holds. -/
def completed (c : Client) (call : Call) : Option Outcome :=
  match call.method with
  | .recvStreamData =>
      if (c.objects call.state).fin then some (.received (c.objects call.state).data true) else none
  | .waitForStreamReset => (c.objects call.state).resetErrorCode.map .resetErrorCode

/-- The `TimeoutError` of a call. -/
def timeoutError (c : Client) (call : Call) (reason : TimeoutReason) : Outcome :=
  match call.method with
  | .recvStreamData => .timeoutError reason (c.objects call.state).data.length
  | .waitForStreamReset => .resetTimeoutError (reason = .connectionClosed)

/-- The call ends; `recv_stream_data` first discards the state of a stream it read up to the FIN. -/
def finish (i : CallId) (call : Call) (outcome : Outcome) (c : Client) : Client :=
  let c := match outcome with
    | .received _ _ => c.discardRecvState call.streamId
    | _ => c
  c.setCall i (call.become (.finished outcome))

/-- What the checks of one pass of `while True` come to. -/
inductive Pass where
  | finish (outcome : Outcome)
  /-- The entry was discarded: the call goes on with another state. -/
  | renew
  | wait
deriving DecidableEq

/-- The checks of one pass, with the clock they read. -/
def pass (c : Client) (call : Call) (now : ℚ) : Pass :=
  match c.completed call with
  | some outcome => .finish outcome
  | none =>
      match c.taskError with
      | some exc => .finish (.taskError exc)
      | none =>
          if c.connectionClosedEvent then .finish (c.timeoutError call .connectionClosed)
          else if c.recvStates.lookup call.streamId ≠ some call.state then .renew
          else if now ≥ call.deadline then .finish (c.timeoutError call .overallTimeout)
          else .wait

/-- The timeout that is passed to `asyncio.wait_for`. -/
def waitTimeout (call : Call) (now : ℚ) : ℚ :=
  match call.method with
  | .recvStreamData => min call.timeout (call.deadline - now)
  | .waitForStreamReset => call.deadline - now

/-- The future of `event.wait()` is made and awaited. -/
def suspend (i : CallId) (call : Call) (c : Client) : Client :=
  let state := c.objects call.state
  (c.setObject call.state
      { state with event := { state.event with waiters := state.event.waiters ++ [i] } }).setCall i
    (call.become .suspended)

/-- The state of a call is current where its pass goes on to wait, and only there. -/
theorem pass_current {c : Client} {call : Call} {now : ℚ} :
    (c.pass call now = .wait → c.recvStates.lookup call.streamId = some call.state) ∧
    (c.pass call now = .renew → c.recvStates.lookup call.streamId ≠ some call.state) := by
  unfold pass
  cases c.completed call with
  | some outcome => simp
  | none =>
      cases c.taskError with
      | some exc => simp
      | none =>
          by_cases hcurrent : c.recvStates.lookup call.streamId = some call.state
          · refine ⟨fun _ => hcurrent, ?_⟩
            intro h
            simp only [hcurrent, ne_eq, not_true, if_false] at h
            split_ifs at h
          · constructor
            · intro h
              dsimp only at h
              split_ifs at h
            · exact fun _ => hcurrent

theorem lookup_setdefault (c : Client) (streamId : Nat) :
    (c.setdefault streamId).1.recvStates.lookup streamId = some (c.setdefault streamId).2 := by
  unfold setdefault
  cases h : c.recvStates.lookup streamId with
  | some o => exact h
  | none => exact AList.lookup_insert _

/-- What is left of the `while True` of a call within one step: another state is taken at most once,
and then the event is cleared at most once. -/
def passesLeft (c : Client) (call : Call) : Nat :=
  (if c.recvStates.lookup call.streamId = some call.state then 0 else 2) +
    (if (c.objects call.state).event.isSet then 1 else 0)

/-- `while True` of the two methods; `clock n` is what the `n`-th call of `loop.time()` reads. -/
def waitLoop (i : CallId) (clock : Nat → ℚ) (c : Client) (call : Call) (n : Nat) : Client :=
  match hpass : c.pass call (clock n) with
  | .finish outcome => c.finish i call outcome
  | .renew =>
      let made := c.setdefault call.streamId
      waitLoop i clock made.1 { call with state := made.2 } (n + 1)
  | .wait =>
      let state := c.objects call.state
      let call' := { call with
        receivedBefore := state.data.length, resetBefore := state.resetErrorCode }
      -- a timeout that is not positive cancels the wait before it starts
      if waitTimeout call (clock (n + 1)) ≤ 0 then
        (c.setCall i (call'.become (.interrupted false))).schedule [.waiter i]
      else if state.event.isSet then
        waitLoop i clock (c.clearEvent call.state) call' (n + 2)
      else c.suspend i call'
termination_by passesLeft c call
decreasing_by
  · have hne := pass_current.2 hpass
    have hnew := c.lookup_setdefault call.streamId
    simp only [passesLeft, hne, hnew, if_false, if_true]
    split_ifs <;> omega
  · have hset : (c.objects call.state).event.isSet = true := ‹_›
    have hcurrent := pass_current.1 hpass
    have hsame : (c.clearEvent call.state).recvStates = c.recvStates := rfl
    have hclear : ((c.clearEvent call.state).objects call.state).event.isSet = false := by
      simp [clearEvent, setObject]
    simp only [passesLeft, hsame, hcurrent, hclear, hset, if_true, Bool.false_eq_true, if_false]
    exact Nat.zero_lt_one

/-! ## Calls -/

/-- The `overall_timeout` of `recv_stream_data`. -/
def overallTimeout (timeout : ℚ) (overall : Option ℚ) : ℚ := overall.getD (max (timeout * 6) 30)

/-- The errors that are raised before anything is done. -/
def refusal (c : Client) (method : Method) (inCallback : Bool) (timeout : ℚ) (overall : Option ℚ) :
    Option String :=
  if c.recvTask.isSome ∧ inCallback then
    match method with
    | .recvStreamData => some "recv_stream_data() cannot be called from within a callback"
    | .waitForStreamReset => some "wait_for_stream_reset() cannot be called from within a callback"
  else if c.recvTask.isNone then some "client is not connected"
  else
    match method with
    | .recvStreamData =>
        if timeout ≤ 0 ∨ overallTimeout timeout overall ≤ 0 then
          some "timeout and overall_timeout must be positive"
        else none
    | .waitForStreamReset => if timeout ≤ 0 then some "timeout must be positive" else none

/-- The locals of a call that starts at `now`. -/
def newCall (method : Method) (streamId : Nat) (timeout : ℚ) (overall : Option ℚ) (now : ℚ)
    (state : ObjectId) : Call :=
  { method, streamId, timeout, state
    deadline := match method with
      | .recvStreamData => now + overallTimeout timeout overall
      | .waitForStreamReset => now + timeout }

/-- The first step of `recv_stream_data(stream_id, timeout, overall_timeout=overall)` or of
`wait_for_stream_reset(stream_id, timeout)`. -/
def call (method : Method) (streamId : Nat) (timeout : ℚ) (overall : Option ℚ) (inCallback : Bool)
    (clock : Nat → ℚ) (c : Client) : Client :=
  match c.refusal method inCallback timeout overall with
  | some _ => c
  | none =>
      let i := c.called
      let (c, state) := c.setdefault streamId
      let call := newCall method streamId timeout overall (clock 0) state
      let c := { c.setCall i call with called := i + 1 }
      match c.completed call with
      | some outcome => c.finish i call outcome
      | none => c.waitLoop i clock call 1

/-- `except TimeoutError` of `recv_stream_data`; `wait_for_stream_reset` goes on at once. -/
def afterTimeout (i : CallId) (clock : Nat → ℚ) (c : Client) (call : Call) : Client :=
  match call.method with
  | .waitForStreamReset => c.waitLoop i clock call 0
  | .recvStreamData =>
      match c.completed call with
      | some outcome => c.finish i call outcome
      | none =>
          match c.taskError with
          | some exc => c.finish i call (.taskError exc)
          | none =>
              if c.connectionClosedEvent then c.finish i call (c.timeoutError call .connectionClosed)
              else if clock 0 ≥ call.deadline then
                c.finish i call (c.timeoutError call .overallTimeout)
              else if (c.objects call.state).data.length > call.receivedBefore ∨
                  (c.objects call.state).resetErrorCode ≠ call.resetBefore then
                c.waitLoop i clock call 1
              else c.finish i call (c.timeoutError call .idleTimeout)

/-- The step of a call whose wait is over. -/
def resume (i : CallId) (clock : Nat → ℚ) (c : Client) (call : Call) : Client :=
  match call.status with
  | .woken => (c.clearEvent call.state).waitLoop i clock (call.become .running) 0
  | .interrupted false => c.afterTimeout i clock (call.become .running)
  | .interrupted true => c.finish i call .cancelledError
  | _ => c

/-- The timer of `wait_for` fires, or the task of the call is cancelled. -/
def interrupt (i : CallId) (cancelled : Bool) (c : Client) : Client :=
  match c.calls i with
  | none => c
  | some call =>
      match call.status with
      | .suspended =>
          let state := c.objects call.state
          schedule [.waiter i]
            ((c.setObject call.state
                { state with
                  event := { state.event with waiters := state.event.waiters.erase i } }).setCall
              i (call.become (.interrupted cancelled)))
      | .woken => c.setCall i (call.become (.interrupted cancelled))
      | .interrupted before => c.setCall i (call.become (.interrupted (before || cancelled)))
      | _ => c

/-! ## The receive task and `connect()` -/

/-- What the receive task does between two awaits, as far as it concerns the receive states. -/
inductive Received where
  | streamData (streamId : Nat) (data : List UInt8) (fin : Bool)
  | streamReset (streamId errorCode : Nat)
  | connectionClosed
  /-- A callback calls `discard_recv_state`. -/
  | discardRecvState (streamId : Nat)

/-- How a step of the receive task ends. -/
inductive Stop where
  | awaits
  | returns
  | cancelled
  | raises (exc : Nat)

/-- One event of `_handle_received_events`. -/
def handleReceived (c : Client) : Received → Client
  | .streamData streamId data fin => c.updateRecvState streamId data fin
  | .streamReset streamId errorCode => c.handleStreamReset streamId errorCode
  | .connectionClosed => wakeStreamWaiters { c with connectionClosedEvent := true }
  | .discardRecvState streamId => c.discardRecvState streamId

/-- The receive task is done: a `gather` on it is told. -/
def taskDone (c : Client) : Client :=
  if c.connecting = .gathering then
    schedule [.gatherDone] { c with recvTask := some .done, connecting := .gathered }
  else { c with recvTask := some .done }

/-- The three ends of `_background_recv`. -/
def endTask (c : Client) : Client :=
  (wakeStreamWaiters { c with connectionClosedEvent := true }).taskDone

/-- A step of the receive task. -/
def recvTurn (received : List Received) (stop : Stop) (c : Client) : Client :=
  let c := received.foldl handleReceived { c with recvTask := some .running }
  match stop with
  | .awaits => { c with recvTask := some .suspended }
  | .returns | .cancelled => c.endTask
  | .raises exc => endTask { c with taskError := some exc }

/-- How an attempt to connect ends. -/
inductive Reply where
  | connected
  /-- `_attempt_connect` returns `False`; `more` tells whether a candidate is left. -/
  | failed (more : Bool)
  | raised

/-- What `_abandon_attempt` does behind its await; `connect()` then tries the next candidate. -/
def forgetAttempt (c : Client) : Client :=
  { c with recvTask := none, taskError := none, connectionClosedEvent := false, recvStates := ∅
           connecting := .attempting }

/-- `_abandon_attempt` up to its await: the receive task is cancelled and awaited. -/
def abandonAttempt (c : Client) : Client :=
  match c.recvTask with
  | none => c.forgetAttempt
  | some (.created _) => { c with recvTask := some (.created true), connecting := .gathering }
  | some .suspended => schedule [.recv] { c with recvTask := some .ready, connecting := .gathering }
  | some .done => schedule [.gatherDone] { c with connecting := .gathered }
  | some .ready | some .running => { c with connecting := .gathering }

/-- The step of `connect()` that takes in how an attempt ended. -/
def attempted (reply : Reply) (c : Client) : Client :=
  match reply with
  | .failed true => c.abandonAttempt
  | .connected | .failed false | .raised => { c with connecting := .idle }

/-- `_attempt_connect` creates the receive task and awaits `_connect_waiter`. -/
def startTask (c : Client) : Client :=
  schedule [.recvStart] { c with recvTask := some (.created false), connecting := .waiting }

/-! ## The event loop -/

/-- What the tasks see and do in one step. -/
structure Turn where
  clock : Nat → ℚ := fun _ => 0
  received : List Received := []
  stop : Stop := .awaits
  reply : Reply := .raised

/-- The event loop runs what is ready first. -/
def turn (t : Turn) (c : Client) : Client :=
  match c.ready with
  | [] => c
  | handle :: rest =>
      let c := { c with ready := rest }
      match handle with
      | .waiter i =>
          match c.calls i with
          | none => c
          | some call => (c.setCall i (call.become .running)).resume i t.clock call
      | .recvStart =>
          -- a task that was cancelled before its first step does nothing
          if c.recvTask = some (.created true) then c.taskDone else c.recvTurn t.received t.stop
      | .recv => c.recvTurn t.received t.stop
      | .connect => c.attempted t.reply
      | .gatherDone => schedule [.abandoned] { c with connecting := .abandoning }
      | .abandoned =>
          match t.reply with
          | .raised => { c with connecting := .idle }
          | .connected | .failed _ => c.forgetAttempt

/-- What can happen: the event loop turns, a task of the application calls a method of the client, or
something that a task awaits comes to pass. -/
inductive Label where
  | turn (t : Turn)
  | call (method : Method) (streamId : Nat) (timeout : ℚ) (overall : Option ℚ) (inCallback : Bool)
      (clock : Nat → ℚ)
  | discardRecvState (streamId : Nat)
  | connect
  | interrupt (i : CallId) (cancelled : Bool)
  /-- The awaits of `_attempt_connect` before the receive task is created are over; `none` if it is. -/
  | attempt (reply : Option Reply)
  /-- `_connect_waiter` is resolved, times out or is cancelled. -/
  | wakeConnect
  /-- What the receive task awaits comes to pass. -/
  | wakeRecv

def step (c : Client) : Label → Client
  | .turn t => c.turn t
  | .call method streamId timeout overall inCallback clock =>
      c.call method streamId timeout overall inCallback clock
  | .discardRecvState streamId => c.discardRecvState streamId
  | .connect =>
      if c.recvTask = none ∧ c.connecting = .idle then { c with connecting := .attempting } else c
  | .interrupt i cancelled => c.interrupt i cancelled
  | .attempt reply =>
      if c.connecting = .attempting then
        match reply with
        | none => c.startTask
        | some reply => c.attempted reply
      else c
  | .wakeConnect =>
      if c.connecting = .waiting then schedule [.connect] { c with connecting := .resumed } else c
  | .wakeRecv =>
      if c.recvTask = some .suspended then schedule [.recv] { c with recvTask := some .ready } else c

/-- A run from a new client. -/
def run (labels : List Label) : Client := labels.foldl step {}

end Client

end WebTransport.QuicClient
