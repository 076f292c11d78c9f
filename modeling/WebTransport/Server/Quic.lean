import Mathlib
import WebTransport.Data.Path
import WebTransport.Quic.Types
import WebTransport.Server.DcidIndex

/-!
# Server.Quic — the QUIC server (`quic/server.py`)

One receive loop hands datagrams to connections, drains their events into a queue for each
connection, and leaves the callbacks to one task for each connection.  The code between two `await`s
is one step.  The low level connections are outside: what their calls return comes in with a step.

* `QuicServer`   : the tables, the tasks and queues, and a record of what happened;
* the methods of the server, under their names;
* `Act`, `act`   : the steps of the receive loop, of the application and of the tasks;
* `Possible`     : what asyncio and the low level connections allow.
-/

namespace WebTransport
namespace Server

open Quic

/-! ## Data -/

/-- Where a `_run_connection_loop` stands. -/
inductive Phase (Addr : Type)
  | created
  /-- at `await queue.get()` -/
  | waiting
  /-- in `_dispatch_connection_event` -/
  | calling (addr : Addr) (event : QuicEvent)
  | done
  deriving DecidableEq

/-- A connection task and the queue it was created with. -/
structure Task (Addr Conn : Type) where
  connection : Conn
  queue : Nat
  phase : Phase Addr := .created
  /-- a `CancelledError` waits to be thrown into the task -/
  cancelling : Bool := false
  deriving DecidableEq

/-- `task.cancel()` -/
def Task.cancel {Addr Conn : Type} [DecidableEq Addr] (task : Task Addr Conn) : Task Addr Conn :=
  if task.phase = .done then task else { task with cancelling := true }

/-- A task that the event loop may schedule. -/
def Task.Ready {Addr Conn : Type} (task : Task Addr Conn)
    (queues : List (List (Addr × QuicEvent))) : Prop :=
  task.phase = .created ∨
    task.phase = .waiting ∧ (task.cancelling = true ∨ queues[task.queue]?.getD [] ≠ [])

instance {Addr Conn : Type} [DecidableEq Addr] (task : Task Addr Conn)
    (queues : List (List (Addr × QuicEvent))) : Decidable (task.Ready queues) :=
  inferInstanceAs (Decidable (_ ∨ _))

def Phase.isCalling {Addr : Type} : Phase Addr → Bool
  | .calling _ _ => true
  | _ => false

/-- What `Connection.accept` and the calls behind it returned. -/
structure Accepted (Conn : Type) where
  connection : Conn
  scids : List Bytes
  events : List QuicEvent

/-- What the low level returns while a datagram is handled: the result of `receive`, and behind it
`scid` and what `next_event` returns until `None`; `accept` is `none` where `Connection.accept`
raises. -/
structure Reception (Conn : Type) where
  result : ReceiveResult
  scids : List Bytes
  events : List QuicEvent
  accept : Option (Accepted Conn)

/-- `quic.Server`.  Tasks and queues are objects, so the tables hold their numbers; the last five
fields record what was done and are never read by the code. -/
structure QuicServer (Addr Conn : Type) where
  running : Bool := false
  connections : Dict Addr Conn := ∅
  connAddr : Dict Conn Addr := ∅
  dcids : DcidIndex Conn := {}
  connectionTasks : Dict Conn Nat := ∅
  connectionQueues : Dict Conn Nat := ∅
  callbacksRunning : Finset Conn := ∅
  tasks : List (Task Addr Conn) := []
  queues : List (List (Addr × QuicEvent)) := []
  accepted : List Conn := []
  receipts : List (Conn × Bytes) := []
  produced : List (Conn × QuicEvent) := []
  delivered : List (Conn × QuicEvent) := []
  closedLocally : List Conn := []

namespace QuicServer

variable {Addr Conn : Type} [DecidableEq Addr] [DecidableEq Conn]

/-! ## The tables -/

/-- `_refresh_dcid_index` -/
def refreshDcidIndex (s : QuicServer Addr Conn) (connection : Conn) (scids : List Bytes) :
    QuicServer Addr Conn :=
  if connection ∈ s.connAddr then
    { s with dcids := s.dcids.refreshDcidIndex connection scids }
  else s

/-- The guarded `del self._connections[addr]`. -/
def forgetAddress (s : QuicServer Addr Conn) (connection : Conn) : Dict Addr Conn :=
  match s.connAddr.lookup connection with
  | none => s.connections
  | some addr =>
      if s.connections.lookup addr = some connection then s.connections.erase addr
      else s.connections

/-- `_remove_connection` -/
def removeConnection (s : QuicServer Addr Conn) (connection : Conn) : QuicServer Addr Conn :=
  { s with
      connAddr := s.connAddr.erase connection
      connections := s.forgetAddress connection
      dcids := s.dcids.dropDcidIndex connection }

/-- The address key follows a migration. -/
def rekey (s : QuicServer Addr Conn) (connection : Conn) (addr : Addr) : QuicServer Addr Conn :=
  if s.connAddr.lookup connection = some addr then s
  else
    { s with
        connections := (s.forgetAddress connection).insert addr connection
        connAddr := s.connAddr.insert connection addr }

/-! ## Tasks and queues -/

/-- `task is not None and not task.done()` -/
def taskAlive (s : QuicServer Addr Conn) (connection : Conn) : Bool :=
  match s.connectionTasks.lookup connection with
  | none => false
  | some id => (s.tasks[id]?).any fun task => decide (task.phase ≠ .done)

/-- `_discard_connection` -/
def discardConnection (s : QuicServer Addr Conn) (connection : Conn) : QuicServer Addr Conn :=
  if connection ∈ s.callbacksRunning then s
  else
    let tasks :=
      match s.connectionTasks.lookup connection with
      | none => s.tasks
      | some id => s.tasks.modify id Task.cancel
    { s.removeConnection connection with
        tasks := tasks
        connectionTasks := s.connectionTasks.erase connection
        connectionQueues := s.connectionQueues.erase connection }

/-- The queue left by an earlier task, or a new one. -/
def ensureQueue (s : QuicServer Addr Conn) (connection : Conn) : QuicServer Addr Conn × Nat :=
  match s.connectionQueues.lookup connection with
  | some queue => (s, queue)
  | none =>
      ({ s with
          queues := s.queues ++ [[]]
          connectionQueues := s.connectionQueues.insert connection s.queues.length },
        s.queues.length)

/-- `_ensure_connection_task` -/
def ensureConnectionTask (s : QuicServer Addr Conn) (connection : Conn) : QuicServer Addr Conn :=
  if !s.running then s
  else if s.taskAlive connection then s
  else
    let (s, queue) := s.ensureQueue connection
    { s with
        tasks := s.tasks ++ [{ connection := connection, queue := queue }]
        connectionTasks := s.connectionTasks.insert connection s.tasks.length }

/-- One turn of the loop of `_enqueue_connection_events`. -/
def putEvent (connection : Conn) (addr : Addr) (queue : Nat) (s : QuicServer Addr Conn)
    (event : QuicEvent) : QuicServer Addr Conn :=
  let s :=
    { s with
        queues := s.queues.modify queue fun entries => entries ++ [(addr, event)]
        produced := s.produced ++ [(connection, event)] }
  if event.type = .connectionClosed then s.removeConnection connection else s

/-- `_enqueue_connection_events` -/
def enqueueConnectionEvents (s : QuicServer Addr Conn) (addr : Addr) (connection : Conn)
    (events : List QuicEvent) : QuicServer Addr Conn :=
  let s := s.ensureConnectionTask connection
  match s.connectionQueues.lookup connection with
  | none => s
  | some queue => events.foldl (putEvent connection addr queue) s

/-! ## Datagrams -/

/-- A call of `receive`. -/
def receive (s : QuicServer Addr Conn) (connection : Conn) (data : Bytes) : QuicServer Addr Conn :=
  { s with receipts := s.receipts ++ [(connection, data)] }

/-- `_accept_connection` -/
def acceptConnection (s : QuicServer Addr Conn) (addr : Addr) (data : Bytes)
    (accept : Accepted Conn) : QuicServer Addr Conn :=
  let s := s.receive accept.connection data
  let s :=
    { s with
        connections := s.connections.insert addr accept.connection
        connAddr := s.connAddr.insert accept.connection addr
        accepted := s.accepted ++ [accept.connection] }
  s.refreshDcidIndex accept.connection accept.scids

/-- `_handle_datagram` from `if connection is None` on; the flag is what it returns. -/
def acceptDatagram (s : QuicServer Addr Conn) (data : Bytes) (addr : Addr)
    (accept : Option (Accepted Conn)) : QuicServer Addr Conn × Bool :=
  if !s.running then (s, false)
  else
    match accept with
    | none => (s, true)
    | some accept =>
        let s := s.acceptConnection addr data accept
        (s.enqueueConnectionEvents addr accept.connection accept.events, true)

/-- `_handle_datagram` -/
def handleDatagram (s : QuicServer Addr Conn) (data : Bytes) (addr : Addr)
    (low : Reception Conn) : QuicServer Addr Conn × Bool :=
  match s.connections.lookup addr with
  | some connection =>
      let s := (s.receive connection data).refreshDcidIndex connection low.scids
      (s.enqueueConnectionEvents addr connection low.events, true)
  | none =>
      match s.dcids.candidate data with
      | none => s.acceptDatagram data addr low.accept
      | some candidate =>
          let s := s.receive candidate data
          match low.result with
          | .accepted =>
              let s := (s.rekey candidate addr).refreshDcidIndex candidate low.scids
              (s.enqueueConnectionEvents addr candidate low.events, true)
          | .closed =>
              -- the events go to the address the application knows, and the code runs on into the
              -- branch that accepts
              let known := (s.connAddr.lookup candidate).getD addr
              let s := s.enqueueConnectionEvents known candidate low.events
              s.acceptDatagram data addr low.accept
          | .discarded => s.acceptDatagram data addr low.accept

/-- A turn of the sweep of `run`, from the end of `_send_to` on. -/
def sweep (s : QuicServer Addr Conn) (connection : Conn) (scids : List Bytes)
    (events : List QuicEvent) (isClosed : Bool) : QuicServer Addr Conn :=
  let s := s.refreshDcidIndex connection scids
  match s.connAddr.lookup connection with
  | none => s
  | some addr =>
      let s := s.enqueueConnectionEvents addr connection events
      if isClosed ∧ connection ∈ s.connAddr then s.discardConnection connection else s

/-! ## `stop` -/

/-- `stop`, up to the `await` of the cancelled tasks; `caller` is the task that called it. -/
def stop (s : QuicServer Addr Conn) (caller : Option Nat) : QuicServer Addr Conn :=
  { s with
      running := false
      tasks := s.tasks.mapIdx fun id task =>
        if s.connectionTasks.lookup task.connection = some id ∧ caller ≠ some id then task.cancel
        else task }

/-- `stop`, behind the `await` of the cancelled tasks. -/
def stopGathered (s : QuicServer Addr Conn) : QuicServer Addr Conn :=
  { s with connectionTasks := ∅, connectionQueues := ∅ }

/-- The `finally` block of `stop`. -/
def stopFinally (s : QuicServer Addr Conn) : QuicServer Addr Conn :=
  { s with
      connections := ∅
      dcids := {}
      connAddr := ∅
      callbacksRunning := ∅ }

/-! ## `_run_connection_loop` -/

/-- The head of the loop: up to the callback if the queue has an entry, else up to the `await`. -/
def fetch (s : QuicServer Addr Conn) (id : Nat) (task : Task Addr Conn) : QuicServer Addr Conn :=
  match s.queues[task.queue]? with
  | some ((queuedAddr, event) :: entries) =>
      let addr := (s.connAddr.lookup task.connection).getD queuedAddr
      { s with
          queues := s.queues.set task.queue entries
          callbacksRunning := insert task.connection s.callbacksRunning
          tasks := s.tasks.set id { task with phase := .calling addr event, cancelling := false }
          delivered := s.delivered ++ [(task.connection, event)] }
  | _ => { s with tasks := s.tasks.set id { task with phase := .waiting, cancelling := false } }

/-- The `finally` block of the loop. -/
def leave (s : QuicServer Addr Conn) (id : Nat) (task : Task Addr Conn) : QuicServer Addr Conn :=
  let s := { s with tasks := s.tasks.set id { task with phase := .done, cancelling := false } }
  if s.queues[task.queue]?.getD [] = [] then
    { s with
        connectionQueues :=
          if s.connectionQueues.lookup task.connection = some task.queue then
            s.connectionQueues.erase task.connection
          else s.connectionQueues
        connectionTasks :=
          if s.connectionTasks.lookup task.connection = some id then
            s.connectionTasks.erase task.connection
          else s.connectionTasks }
  else s

/-- The task is scheduled: it starts, or wakes up in `queue.get()`. -/
def resume (s : QuicServer Addr Conn) (id : Nat) (task : Task Addr Conn) : QuicServer Addr Conn :=
  if task.cancelling then
    -- a task that never started ends without its `finally` block
    if task.phase = .created then
      { s with tasks := s.tasks.set id { task with phase := .done, cancelling := false } }
    else s.leave id task
  else s.fetch id task

/-- `self._callbacks_running.discard(connection)` -/
def callbackOver (s : QuicServer Addr Conn) (task : Task Addr Conn) : QuicServer Addr Conn :=
  { s with callbacksRunning := s.callbacksRunning.erase task.connection }

/-- The callback for `event` returned. -/
def callbackReturned (s : QuicServer Addr Conn) (id : Nat) (task : Task Addr Conn)
    (event : QuicEvent) : QuicServer Addr Conn :=
  let s := s.callbackOver task
  if event.type = .connectionClosed ∨ s.running = false then s.leave id task
  else s.fetch id task

/-- The callback raised, or let a `CancelledError` through. -/
def callbackRaised (s : QuicServer Addr Conn) (id : Nat) (task : Task Addr Conn) :
    QuicServer Addr Conn :=
  (s.callbackOver task).leave id task

/-! ## Steps -/

/-- A step of the server.  `refresh` is the end of a `_send_to` of the application, `close` a call
of the low level `close`: by `Server.close`, by `stop`, or where a task ended with an exception. -/
inductive Act (Addr Conn : Type)
  | start
  | datagram (data : Bytes) (addr : Addr) (low : Reception Conn)
  | sweep (connection : Conn) (scids : List Bytes) (events : List QuicEvent) (isClosed : Bool)
  | refresh (connection : Conn) (scids : List Bytes)
  | close (connection : Conn)
  | stop (caller : Option Nat)
  | stopGathered
  | stopFinally
  | resume (id : Nat)
  | returned (id : Nat)
  | raised (id : Nat)

def act (s : QuicServer Addr Conn) : Act Addr Conn → QuicServer Addr Conn
  | .start => { s with running := true }
  | .datagram data addr low => (s.handleDatagram data addr low).1
  | .sweep connection scids events isClosed => s.sweep connection scids events isClosed
  | .refresh connection scids => s.refreshDcidIndex connection scids
  | .close connection => { s with closedLocally := s.closedLocally ++ [connection] }
  | .stop caller => s.stop caller
  | .stopGathered => s.stopGathered
  | .stopFinally => s.stopFinally
  | .resume id =>
      match s.tasks[id]? with
      | none => s
      | some task => s.resume id task
  | .returned id =>
      match s.tasks[id]? with
      | none => s
      | some task =>
          match task.phase with
          | .calling _ event => s.callbackReturned id task event
          | _ => s
  | .raised id =>
      match s.tasks[id]? with
      | none => s
      | some task => s.callbackRaised id task

/-- A `ConnectionClosed` event is the last one. -/
def ClosedLast (events : List QuicEvent) : Prop :=
  ∀ event ∈ events.dropLast, event.type ≠ .connectionClosed

/-- No `ConnectionClosed` event. -/
def Quiet (events : List QuicEvent) : Prop :=
  ∀ event ∈ events, event.type ≠ .connectionClosed

instance (events : List QuicEvent) : Decidable (ClosedLast events) :=
  inferInstanceAs (Decidable (∀ event ∈ events.dropLast, event.type ≠ .connectionClosed))

instance (events : List QuicEvent) : Decidable (Quiet events) :=
  inferInstanceAs (Decidable (∀ event ∈ events, event.type ≠ .connectionClosed))

/-- What `next_event` has returned for a connection. -/
def producedFor (s : QuicServer Addr Conn) (connection : Conn) : List QuicEvent :=
  (s.produced.filter fun entry => entry.1 = connection).map Prod.snd

/-- The events whose dispatch has begun for a connection. -/
def deliveredFor (s : QuicServer Addr Conn) (connection : Conn) : List QuicEvent :=
  (s.delivered.filter fun entry => entry.1 = connection).map Prod.snd

end QuicServer

/-- What `Connection.accept` returns is a new object. -/
def Accepted.Possible {Conn : Type} [DecidableEq Conn] (accept : Accepted Conn)
    (accepted : List Conn) : Prop :=
  accept.connection ∉ accepted ∧ QuicServer.ClosedLast accept.events

instance {Conn : Type} [DecidableEq Conn] (accept : Accepted Conn) (accepted : List Conn) :
    Decidable (accept.Possible accepted) :=
  inferInstanceAs (Decidable (_ ∧ _))

/-- What the low level connections promise for a datagram: `accept` raises on a short header, and a
discarded datagram leaves no `ConnectionClosed` event behind. -/
def Reception.Possible {Conn : Type} [DecidableEq Conn] (low : Reception Conn) (data : Bytes)
    (accepted : List Conn) : Prop :=
  QuicServer.ClosedLast low.events ∧
    (low.result = .discarded → QuicServer.Quiet low.events) ∧
    (∀ accept ∈ low.accept, accept.Possible accepted) ∧
    (isLongHeader data = false → low.accept = none)

instance {Conn : Type} [DecidableEq Conn] (low : Reception Conn) (data : Bytes)
    (accepted : List Conn) : Decidable (low.Possible data accepted) :=
  inferInstanceAs (Decidable (_ ∧ _ ∧ _ ∧ _))

namespace QuicServer

variable {Addr Conn : Type} [DecidableEq Addr] [DecidableEq Conn]

/-- The task is in a callback. -/
def Calling (s : QuicServer Addr Conn) (id : Nat) : Prop :=
  ∃ task ∈ s.tasks[id]?, task.phase.isCalling = true

/-- A connection is closed by a `ConnectionClosed` event or by the application. -/
def ClosedFor (s : QuicServer Addr Conn) (connection : Conn) (events : List QuicEvent) : Prop :=
  ¬Quiet (s.producedFor connection ++ events) ∨ connection ∈ s.closedLocally

instance (s : QuicServer Addr Conn) (id : Nat) : Decidable (s.Calling id) :=
  inferInstanceAs (Decidable (∃ task ∈ s.tasks[id]?, task.phase.isCalling = true))

instance (s : QuicServer Addr Conn) (connection : Conn) (events : List QuicEvent) :
    Decidable (s.ClosedFor connection events) :=
  inferInstanceAs (Decidable (_ ∨ _))

/-- What asyncio and the low level connections allow in `s`. -/
def Act.Possible (s : QuicServer Addr Conn) : Act Addr Conn → Prop
  | .datagram data _ low => low.Possible data s.accepted
  | .sweep connection _ events isClosed =>
      ClosedLast events ∧ (isClosed = true → s.ClosedFor connection events)
  | .stop caller => ∀ id ∈ caller, s.Calling id
  | .resume id => ∃ task ∈ s.tasks[id]?, task.Ready s.queues
  | .returned id | .raised id => s.Calling id
  | .start | .refresh _ _ | .close _ | .stopGathered | .stopFinally => True

instance (s : QuicServer Addr Conn) (a : Act Addr Conn) : Decidable (a.Possible s) := by
  unfold Act.Possible
  cases a <;> dsimp only <;> infer_instance

/-- One step leads from `s` to `s'`; a run is a `Path` of such steps. -/
def Takes : QuicServer Addr Conn → Act Addr Conn → QuicServer Addr Conn → Prop :=
  Guarded act fun s a => a.Possible s

end QuicServer

end Server
end WebTransport
