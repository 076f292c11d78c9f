import WebTransport.Data.Trace
import WebTransport.Server.Delivery

/-!
# Server.Completion — a closed connection is served to its end

A connection that ends with a `ConnectionClosed` event, is not closed by the application, and whose
callbacks do not raise keeps a task until its last event is delivered.

* `Act.On`, `sameLane_act` : the steps that concern a connection;
* `Attended`               : the invariant of such a connection;
* `rest`                   : how many steps its task still takes.
-/

namespace WebTransport
namespace Server

open Quic

namespace QuicServer

variable {Addr Conn : Type} [DecidableEq Addr] [DecidableEq Conn]
  {s s' s'' : QuicServer Addr Conn} {c c' : Conn} {id : Nat} {task : Task Addr Conn}

/-! ## Steps that do not concern a connection -/

omit [DecidableEq Addr] in
theorem SameLane.trans (h : SameLane c s s') (h' : SameLane c s' s'') : SameLane c s s'' where
  running := h'.running.trans h.running
  entry := h'.entry.trans h.entry
  queue := h'.queue.trans h.queue
  contents queue hqueue := (h'.contents queue (h.queue.trans hqueue)).trans (h.contents queue hqueue)
  calling := h'.calling.trans h.calling
  tasks id task := (h'.tasks id task).trans (h.tasks id task)
  produced := h'.produced.trans h.produced
  delivered := h'.delivered.trans h.delivered
  registered hmem := h.registered (h'.registered hmem)
  accepted hmem := h'.accepted (h.accepted hmem)

theorem sameLane_ensure (hs : s.Sound) (hne : c' ≠ c) :
    SameLane c' s (s.ensureConnectionTask c) := by
  rcases ensureConnectionTask_cases s c with ⟨-, heq⟩ | ⟨-, -, ⟨queue, -, heq⟩ | ⟨-, heq⟩⟩
  · rw [heq]
    exact SameLane.refl c' s
  · rw [heq]
    exact sameLane_spawn hne
  · rw [heq]
    exact (sameLane_openQueue hne (hs.lane c')).trans (sameLane_spawn hne)

theorem sameLane_enqueue (hs : s.Sound) (hmem : c ∈ s.connAddr) (hne : c' ≠ c) (addr : Addr)
    (events : List QuicEvent) : SameLane c' s (s.enqueueConnectionEvents addr c events) := by
  refine (enqueue_rule hs hmem (SameLane c' s) (sameLane_ensure hs hne) ?_ ?_ addr events).2
  · intro a queue addr event ha hqueue hsame
    exact hsame.trans (sameLane_putNowait hne fun h => hne (ha.owned c' c queue h hqueue))
  · intro a hsame
    exact hsame.trans (sameLane_remove c')

theorem sameLane_discardConnection (hs : s.Sound) (hne : c' ≠ c) :
    SameLane c' s (s.discardConnection c) := by
  rcases discardConnection_cases s c with ⟨-, heq⟩ | ⟨-, ⟨-, heq⟩ | ⟨id, hentry, heq⟩⟩
  · rw [heq]
    exact SameLane.refl c' s
  · rw [heq]
    exact sameLane_discard hne fun _ _ => Iff.rfl
  · rw [heq]
    obtain ⟨task, htask, -⟩ := (hs.lane c).current id hentry
    exact sameLane_discard hne (taskOf_cancel_ne htask hne rfl)

theorem sameLane_leave {marks : Finset Conn} (hs : s.Sound) (htask : s.TaskOf c id task)
    (hlive : task.phase ≠ .done) (hne : c' ≠ c) (hmarks : c' ∈ marks ↔ c' ∈ s.callbacksRunning) :
    SameLane c' s ({ s with callbacksRunning := marks }.leave id task) := by
  have hfinish : SameLane c' s (s.finish id task marks) := sameLane_finish htask hne hmarks
  rcases leave_eq (hs.lane c) htask hlive marks with ⟨-, -, heq⟩ | ⟨-, heq⟩
  · rw [heq]
    exact hfinish.trans (sameLane_clear hne)
  · rw [heq]
    exact hfinish

theorem sameLane_fetch {marks : Finset Conn} (hs : s.Sound) (htask : s.TaskOf c id task)
    (hlive : task.phase ≠ .done) (hentry : s.connectionTasks.lookup c = some id) (hne : c' ≠ c)
    (hmarks : c' ∈ marks ↔ c' ∈ s.callbacksRunning) :
    SameLane c' s ({ s with callbacksRunning := marks }.fetch id task) := by
  rcases fetch_cases (hs.lane c) htask hlive hentry marks with
    ⟨-, heq⟩ | ⟨queuedAddr, event, entries, -, heq⟩
  · rw [heq]
    exact sameLane_await htask hne hmarks
  · rw [heq]
    obtain ⟨task', htask', hcurrent⟩ := (hs.lane c).current id hentry
    cases htask.1.symm.trans htask'.1
    exact sameLane_dispatch htask hne hmarks fun h => hne (hs.owned _ _ _ h (hcurrent hlive).1)

omit [DecidableEq Addr] [DecidableEq Conn] in
theorem Ready.live (hready : task.Ready s.queues) : task.phase ≠ .done := by
  rcases hready with h | ⟨h, -⟩ <;> simp [h]

omit [DecidableEq Addr] [DecidableEq Conn] in
theorem Ready.silent (hready : task.Ready s.queues) : task.phase.isCalling = false := by
  rcases hready with h | ⟨h, -⟩ <;> simp [h, Phase.isCalling]

omit [DecidableEq Addr] in
/-- A scheduled task that was not cancelled is the one in the tables. -/
theorem Lane.entry_of_ready (hs : s.Lane c) (htask : s.TaskOf c id task)
    (hready : task.Ready s.queues) (hcancelling : ¬task.cancelling = true) :
    s.running = true ∧ s.connectionTasks.lookup c = some id := by
  have hrunning : s.running = true := by
    by_contra hstopped
    rw [Bool.not_eq_true] at hstopped
    rcases hs.stopping hstopped id task htask (Ready.live hready) with h | h
    · rw [Ready.silent hready] at h
      cases h
    · exact hcancelling h
  refine ⟨hrunning, (hs.live id task htask (Ready.live hready)).resolve_right fun h => ?_⟩
  exact hcancelling (h.doomed hrunning).1

theorem sameLane_resume (hs : s.Sound) (htask : s.TaskOf c id task) (hready : task.Ready s.queues)
    (hne : c' ≠ c) : SameLane c' s (s.resume id task) := by
  unfold QuicServer.resume
  split_ifs with hcancelling hcreated
  · exact sameLane_finish htask hne Iff.rfl
  · exact sameLane_leave hs htask (Ready.live hready) hne Iff.rfl
  · have hentry := ((hs.lane c).entry_of_ready htask hready hcancelling).2
    exact sameLane_fetch hs htask (Ready.live hready) hentry hne Iff.rfl

theorem sameLane_callbackRaised (hs : s.Sound) (htask : s.TaskOf c id task)
    (hcalling : task.phase.isCalling = true) (hne : c' ≠ c) :
    SameLane c' s (s.callbackRaised id task) :=
  sameLane_leave hs htask (Phase.ne_done_of_isCalling hcalling) hne (htask.mem_erase_iff hne)

theorem sameLane_callbackReturned (hs : s.Sound) (htask : s.TaskOf c id task)
    (hcalling : task.phase.isCalling = true) (hne : c' ≠ c) (event : QuicEvent) :
    SameLane c' s (s.callbackReturned id task event) := by
  unfold QuicServer.callbackReturned
  dsimp only
  split_ifs with hover
  · exact sameLane_callbackRaised hs htask hcalling hne
  · have hrunning : s.running = true := by
      rw [not_or, Bool.not_eq_false] at hover
      exact hover.2
    exact sameLane_fetch hs htask (Phase.ne_done_of_isCalling hcalling)
      ((hs.lane c).entry_of_calling hrunning htask hcalling) hne (htask.mem_erase_iff hne)

theorem sameLane_acceptDatagram (hs : s.Sound) {data : Bytes} {addr : Addr}
    {accept : Option (Accepted Conn)} (hfree : s.connections.lookup addr = none)
    (hnew : ∀ fresh ∈ accept, fresh.connection ∉ s.accepted)
    (hne : ∀ fresh ∈ accept, c' ≠ fresh.connection) :
    SameLane c' s (s.acceptDatagram data addr accept).1 := by
  unfold QuicServer.acceptDatagram
  split_ifs
  · exact SameLane.refl c' s
  · cases accept with
    | none => exact SameLane.refl c' s
    | some fresh =>
        have haccepted := hs.accept data (hnew fresh rfl) hfree
        exact (sameLane_accept (hne fresh rfl)).trans (sameLane_enqueue haccepted
          (mem_connAddr_accept.2 (Or.inl rfl)) (hne fresh rfl) _ _)

/-- The datagram is neither passed to the connection nor does it bring it about. -/
theorem sameLane_datagram (hs : s.Sound) {data : Bytes} {addr : Addr} {low : Reception Conn}
    (hlow : low.Possible data s.accepted) (hreceiver : s.receiver data addr ≠ some c')
    (hne : s.receiver data addr = none → ∀ fresh ∈ low.accept, c' ≠ fresh.connection) :
    SameLane c' s (s.handleDatagram data addr low).1 := by
  have hnew : ∀ fresh ∈ low.accept, fresh.connection ∉ s.accepted := fun fresh h =>
    (hlow.2.2.1 fresh h).1
  unfold receiver at hreceiver hne
  unfold handleDatagram
  cases hlookup : s.connections.lookup addr with
  | some connection =>
      rw [hlookup] at hreceiver
      have hother : c' ≠ connection := fun h => hreceiver (congrArg some h.symm)
      have hrefreshed := (hs.receive connection data).refresh connection low.scids
      have hmem : connection ∈
          ((s.receive connection data).refreshDcidIndex connection low.scids).connAddr := by
        rw [connAddr_refreshDcidIndex]
        exact hs.consistent.registered hlookup
      have hsame : SameLane c' s
          ((s.receive connection data).refreshDcidIndex connection low.scids) :=
        (sameLane_receive c').trans (sameLane_refresh c')
      exact hsame.trans (sameLane_enqueue hrefreshed hmem hother addr low.events)
  | none =>
      rw [hlookup] at hreceiver hne
      cases hcandidate : s.dcids.candidate data with
      | none => exact sameLane_acceptDatagram hs hlookup hnew (hne hcandidate)
      | some other =>
          rw [hcandidate] at hreceiver
          have hother : c' ≠ other := fun h => hreceiver (congrArg some h.symm)
          obtain ⟨hshort, -, hindex⟩ := DcidIndex.candidate_eq_some hcandidate
          have hknown : other ∈ s.connAddr := hs.consistent.dcids.indexed hindex
          have hreceived := hs.receive other data
          have hknown' : other ∈ (s.receive other data).connAddr := hknown
          have hsame : SameLane c' s (s.receive other data) := sameLane_receive c'
          have hnone : low.accept = none := hlow.2.2.2 hshort
          cases hresult : low.result with
          | accepted =>
              have hrekeyed := hreceived.rekey addr hknown hlookup
              have hmem : other ∈ (((s.receive other data).rekey other addr).refreshDcidIndex other
                  low.scids).connAddr := by
                rw [connAddr_refreshDcidIndex]
                exact mem_connAddr_rekey hknown
              have hmoved : SameLane c' s (((s.receive other data).rekey other
                  addr).refreshDcidIndex other low.scids) :=
                hsame.trans ((sameLane_rekey c' hknown').trans (sameLane_refresh c'))
              exact hmoved.trans (sameLane_enqueue (hrekeyed.refresh other low.scids) hmem hother
                addr low.events)
          | closed =>
              have henqueued := hsame.trans (sameLane_enqueue hreceived hknown hother
                ((s.connAddr.lookup other).getD addr) low.events)
              dsimp only
              rw [hnone]
              unfold QuicServer.acceptDatagram
              split_ifs <;> exact henqueued
          | discarded =>
              dsimp only
              rw [hnone]
              unfold QuicServer.acceptDatagram
              split_ifs <;> exact hsame

/-- The step concerns the connection. -/
def Act.On (s : QuicServer Addr Conn) (c : Conn) : Act Addr Conn → Prop
  | .datagram data addr low =>
      s.receiver data addr = some c ∨
        s.receiver data addr = none ∧ ∃ fresh ∈ low.accept, c = fresh.connection
  | .sweep connection _ _ _ => c = connection
  | .resume id | .returned id | .raised id => ∃ task, s.TaskOf c id task
  | .stop _ | .stopGathered | .stopFinally => True
  | .start | .refresh _ _ | .close _ => False

theorem sameLane_act (hs : s.Sound) {a : Act Addr Conn} (ha : a.Possible s)
    (hservice : a.InService s) (hother : ¬a.On s c) : SameLane c s (s.act a) := by
  cases a with
  | start => exact hservice.elim
  | datagram data addr low =>
      rw [Act.On, not_or] at hother
      exact sameLane_datagram hs ha hother.1 fun hnone fresh h heq =>
        hother.2 ⟨hnone, fresh, h, heq⟩
  | sweep connection scids events isClosed =>
      have hrefreshed := hs.refresh connection scids
      have hsame : SameLane c s (s.refreshDcidIndex connection scids) := sameLane_refresh c
      simp only [act, sweep]
      cases hlookup : (s.refreshDcidIndex connection scids).connAddr.lookup connection with
      | none => exact hsame
      | some addr =>
          have hmem := Dict.mem_of_lookup hlookup
          have henqueued := hsame.trans (sameLane_enqueue hrefreshed hmem hother addr events)
          dsimp only
          split_ifs
          · exact henqueued.trans
              (sameLane_discardConnection (hrefreshed.enqueue hmem addr events) hother)
          · exact henqueued
  | refresh connection scids => exact sameLane_refresh c
  | close connection =>
      have honly : TablesOnly s (s.act (.close connection)) :=
        ⟨rfl, rfl, rfl, rfl, rfl, rfl, rfl, rfl⟩
      exact honly.sameLane c (fun h => h) fun h => h
  | stop caller => exact absurd trivial hother
  | stopGathered => exact absurd trivial hother
  | stopFinally => exact absurd trivial hother
  | resume id =>
      obtain ⟨task, htask, hready⟩ := ha
      have hne : c ≠ task.connection := fun h => hother ⟨task, htask, h.symm⟩
      simp only [act, show s.tasks[id]? = some task from htask]
      exact sameLane_resume hs ⟨htask, rfl⟩ hready hne
  | returned id =>
      obtain ⟨task, htask, hcalling⟩ := ha
      have hne : c ≠ task.connection := fun h => hother ⟨task, htask, h.symm⟩
      simp only [act, show s.tasks[id]? = some task from htask]
      cases hphase : task.phase with
      | calling addr event => exact sameLane_callbackReturned hs ⟨htask, rfl⟩ hcalling hne event
      | created | waiting | done => exact SameLane.refl c s
  | raised id =>
      obtain ⟨task, htask, hcalling⟩ := ha
      have hne : c ≠ task.connection := fun h => hother ⟨task, htask, h.symm⟩
      simp only [act, show s.tasks[id]? = some task from htask]
      exact sameLane_callbackRaised hs ⟨htask, rfl⟩ hcalling hne

/-! ## `ConnectionClosed` as the last event -/

section Events

variable {events before : List QuicEvent} {event : QuicEvent}

theorem Quiet.front (h : Quiet events) (hfront : before <+: events) : Quiet before :=
  fun event hmem => h event (hfront.subset hmem)

theorem quiet_append : Quiet (before ++ events) ↔ Quiet before ∧ Quiet events :=
  List.forall_mem_append

theorem closedLast_concat : ClosedLast (before ++ [event]) ↔ Quiet before := by
  unfold ClosedLast
  rw [List.dropLast_concat]
  exact Iff.rfl

/-- In front of a further event there was no `ConnectionClosed`. -/
theorem ClosedLast.quiet_front (h : ClosedLast events) (hfront : before ++ [event] <+: events) :
    Quiet before := by
  obtain ⟨rest, hrest⟩ := hfront
  intro other hmem
  refine h other ?_
  have hfront : before <+: events.dropLast := by
    rw [← hrest, List.append_assoc]
    rw [List.dropLast_append_of_ne_nil (by simp)]
    exact List.prefix_append _ _
  exact hfront.subset hmem

theorem ClosedLast.tail (h : ClosedLast (event :: events)) : ClosedLast events := by
  intro other hmem
  cases events with
  | nil => cases hmem
  | cons next rest => exact h other (List.mem_cons_of_mem _ hmem)

theorem ClosedLast.head (h : ClosedLast (event :: events)) (hnil : events ≠ []) :
    event.type ≠ .connectionClosed := by
  cases events with
  | nil => exact absurd rfl hnil
  | cons next rest => exact h event List.mem_cons_self

/-- Once `ConnectionClosed` is delivered nothing is left. -/
theorem ClosedLast.eq_of_closed (h : ClosedLast events) (hfront : before ++ [event] <+: events)
    (hclosed : event.type = .connectionClosed) : before ++ [event] = events := by
  obtain ⟨rest, hrest⟩ := hfront
  cases rest with
  | nil =>
      rw [List.append_nil] at hrest
      exact hrest
  | cons next rest =>
      have hlonger : (before ++ [event]) ++ [next] <+: events := ⟨rest, by rw [← hrest]; simp⟩
      exact absurd hclosed (h.quiet_front hlonger event (by simp))

end Events

/-! ## The invariant -/

/-- A connection that was not closed by the application, whose callbacks did not raise, on a server
that was not stopped. -/
structure Attended (s : QuicServer Addr Conn) (c : Conn) : Prop where
  running : s.running = true
  untouched : c ∉ s.closedLocally
  current : ∀ id task, s.TaskOf c id task → task.phase ≠ .done →
    s.connectionTasks.lookup c = some id
  alive : ∀ id task, s.connectionTasks.lookup c = some id → s.TaskOf c id task →
    task.phase ≠ .done
  served : s.connectionTasks.lookup c = none → s.connectionQueues.lookup c = none
  complete : s.connectionQueues.lookup c = none → s.deliveredFor c = s.producedFor c
  gone : ¬Quiet (s.producedFor c) → c ∉ s.connAddr
  closing : ClosedLast (s.producedFor c)
  waiting : ∀ id task, s.TaskOf c id task → task.phase ≠ .done → task.phase.isCalling = false →
    Quiet (s.deliveredFor c)

omit [DecidableEq Addr] in
theorem Attended.congr (hs : s.Attended c) (h : SameLane c s s') (huntouched : c ∉ s'.closedLocally) :
    s'.Attended c where
  running := h.running.trans hs.running
  untouched := huntouched
  current id task htask hlive := h.entry.trans (hs.current id task ((h.tasks _ _).1 htask) hlive)
  alive id task hentry htask :=
    hs.alive id task (h.entry.symm.trans hentry) ((h.tasks _ _).1 htask)
  served hentry := h.queue.trans (hs.served (h.entry.symm.trans hentry))
  complete hqueue := by
    rw [h.delivered, h.produced]
    exact hs.complete (h.queue.symm.trans hqueue)
  gone hclosed hmem := by
    rw [h.produced] at hclosed
    exact hs.gone hclosed (h.registered hmem)
  closing := by
    rw [h.produced]
    exact hs.closing
  waiting id task htask hlive hsilent := by
    rw [h.delivered]
    exact hs.waiting id task ((h.tasks _ _).1 htask) hlive hsilent

omit [DecidableEq Addr] in
theorem attended_started : (started : QuicServer Addr Conn).Attended c := by
  have hnone : ∀ id task, ¬(started : QuicServer Addr Conn).TaskOf c id task := by
    rintro id task ⟨h, -⟩
    simp [started] at h
  exact ⟨rfl, List.not_mem_nil, fun id task h => absurd h (hnone id task),
    fun id task _ h => absurd h (hnone id task), fun _ => rfl, fun _ => rfl,
    fun h => absurd (fun _ hmem => by cases hmem) h, fun _ hmem => (by cases hmem),
    fun id task h => absurd h (hnone id task)⟩

omit [DecidableEq Addr] in
/-- A registered connection has not reported its end. -/
theorem Attended.quiet (hs : s.Attended c) (hmem : c ∈ s.connAddr) : Quiet (s.producedFor c) := by
  by_contra hclosed
  exact hs.gone hclosed hmem

omit [DecidableEq Addr] in
theorem Attended.spawn (hs : s.Attended c) (hlane : s.Lane c) (hidle : s.Idle c)
    (hmem : c ∈ s.connAddr) : ((s.openQueue c).spawn c s.queues.length).Attended c := by
  have hentry : ((s.openQueue c).spawn c s.queues.length).connectionTasks.lookup c =
      some s.tasks.length := AList.lookup_insert _
  have hqueue : ((s.openQueue c).spawn c s.queues.length).connectionQueues.lookup c =
      some s.queues.length := AList.lookup_insert _
  have hold : ∀ {id task}, ((s.openQueue c).spawn c s.queues.length).TaskOf c id task →
      task.phase ≠ .done → id = s.tasks.length := by
    intro id task htask hlive
    rcases taskOf_spawn.1 htask with h | ⟨h, -⟩
    · exact absurd (hidle id task h) hlive
    · exact h
  refine ⟨hs.running, hs.untouched, ?_, ?_, ?_, ?_, hs.gone, hs.closing, ?_⟩
  · intro id task htask hlive
    cases hold htask hlive
    exact hentry
  · intro id task hid htask
    cases hentry.symm.trans hid
    rcases taskOf_spawn.1 htask with h | ⟨-, -, rfl⟩
    · have hnone : s.tasks[s.tasks.length]? = none := List.getElem?_eq_none le_rfl
      exact absurd (hnone.symm.trans h.1) (by simp)
    · exact fun h => by cases h
  · intro hnone
    cases hentry.symm.trans hnone
  · intro hnone
    cases hqueue.symm.trans hnone
  · exact fun _ _ _ _ _ => (hs.quiet hmem).front hlane.sofar

/-- Behind `_ensure_connection_task` there is a queue. -/
theorem Attended.ensure (ha : s.Attended c) (hs : s.Sound) (hmem : c ∈ s.connAddr) :
    (s.ensureConnectionTask c).Attended c ∧
      ∃ queue, (s.ensureConnectionTask c).connectionQueues.lookup c = some queue := by
  rcases ensureConnectionTask_cases s c with ⟨hcase, heq⟩ | ⟨hrunning, hdead, hcase⟩
  · rw [heq]
    rcases hcase with hstopped | halive
    · rw [ha.running] at hstopped
      cases hstopped
    · obtain ⟨id, task, hentry, htask, hlive⟩ := taskAlive_iff.1 halive
      obtain ⟨task', htask', hcurrent⟩ := (hs.lane c).current id hentry
      cases htask.symm.trans htask'.1
      exact ⟨ha, _, (hcurrent hlive).1⟩
  · have hidle := (hs.lane c).idle hrunning hmem hdead
    have hentry : s.connectionTasks.lookup c = none := by
      cases hlookup : s.connectionTasks.lookup c with
      | none => rfl
      | some id =>
          obtain ⟨task, htask, -⟩ := (hs.lane c).current id hlookup
          exact absurd (hidle id task htask) (ha.alive id task hlookup htask)
    have hnone := ha.served hentry
    rcases hcase with ⟨queue, hqueue, -⟩ | ⟨-, heq⟩
    · cases hnone.symm.trans hqueue
    · rw [heq]
      exact ⟨ha.spawn (hs.lane c) hidle hmem, _, AList.lookup_insert _⟩

/-- An event into the queue; the connection was still open. -/
theorem Attended.putEvent {queue : Nat} {addr : Addr} {event : QuicEvent} (ha : s.Attended c)
    (hqueue : s.connectionQueues.lookup c = some queue) (hquiet : Quiet (s.producedFor c)) :
    (QuicServer.putEvent c addr queue s event).Attended c := by
  have hproduced : (QuicServer.putEvent c addr queue s event).producedFor c =
      s.producedFor c ++ [event] := by
    have hput : (s.putNowait c queue addr event).producedFor c = s.producedFor c ++ [event] := by
      rw [producedFor_putNowait, if_pos rfl]
    rw [putEvent_eq]
    split_ifs <;> exact hput
  have hlookup :
      (QuicServer.putEvent c addr queue s event).connectionQueues.lookup c = some queue := by
    rw [putEvent_eq]
    split_ifs <;> exact hqueue
  have hgone : ¬Quiet (s.producedFor c ++ [event]) →
      c ∉ (QuicServer.putEvent c addr queue s event).connAddr := by
    intro hclosed hmem
    rw [putEvent_eq] at hmem
    split_ifs at hmem with htype
    · exact (AList.mem_erase.1 hmem).1 rfl
    · refine hclosed (quiet_append.2 ⟨hquiet, ?_⟩)
      intro other hother
      rw [List.mem_singleton.1 hother]
      exact htype
  have hsame : (QuicServer.putEvent c addr queue s event).tasks = s.tasks ∧
      (QuicServer.putEvent c addr queue s event).connectionTasks = s.connectionTasks ∧
      (QuicServer.putEvent c addr queue s event).running = s.running ∧
      (QuicServer.putEvent c addr queue s event).delivered = s.delivered ∧
      (QuicServer.putEvent c addr queue s event).closedLocally = s.closedLocally := by
    rw [putEvent_eq]
    split_ifs <;> exact ⟨rfl, rfl, rfl, rfl, rfl⟩
  obtain ⟨htasks, hentries, hrunning, hdelivered, hclosed⟩ := hsame
  have htaskOf : ∀ {id task}, (QuicServer.putEvent c addr queue s event).TaskOf c id task ↔
      s.TaskOf c id task := by
    intro id task
    rw [TaskOf, TaskOf, htasks]
  constructor
  · exact hrunning.trans ha.running
  · rw [hclosed]
    exact ha.untouched
  · intro id task htask hlive
    rw [hentries]
    exact ha.current id task (htaskOf.1 htask) hlive
  · intro id task hentry htask
    rw [hentries] at hentry
    exact ha.alive id task hentry (htaskOf.1 htask)
  · intro hnone
    rw [hentries] at hnone
    cases (ha.served hnone).symm.trans hqueue
  · intro hnone
    cases hnone.symm.trans hlookup
  · rw [hproduced]
    exact hgone
  · rw [hproduced]
    exact closedLast_concat.2 hquiet
  · intro id task htask hlive hsilent
    have hsofar : (QuicServer.putEvent c addr queue s event).deliveredFor c = s.deliveredFor c := by
      rw [deliveredFor, deliveredFor, hdelivered]
    rw [hsofar]
    exact ha.waiting id task (htaskOf.1 htask) hlive hsilent

theorem connectionQueues_putEvent {queue : Nat} {addr : Addr} {event : QuicEvent} :
    (QuicServer.putEvent c addr queue s event).connectionQueues = s.connectionQueues := by
  rw [putEvent_eq]
  split_ifs <;> rfl

theorem producedFor_putEvent {queue : Nat} {addr : Addr} {event : QuicEvent} :
    (QuicServer.putEvent c addr queue s event).producedFor c = s.producedFor c ++ [event] := by
  have hput : (s.putNowait c queue addr event).producedFor c = s.producedFor c ++ [event] := by
    rw [producedFor_putNowait, if_pos rfl]
  rw [putEvent_eq]
  split_ifs <;> exact hput

theorem Sound.putEvent {queue : Nat} {addr : Addr} {event : QuicEvent} (hs : s.Sound)
    (hqueue : s.connectionQueues.lookup c = some queue) :
    (QuicServer.putEvent c addr queue s event).Sound := by
  have hput := hs.putNowait hqueue addr event
  rw [putEvent_eq]
  split_ifs
  · exact hput.remove c
  · exact hput

/-- What `next_event` returned for a registered connection is in its queue. -/
theorem Attended.enqueue (ha : s.Attended c) (hs : s.Sound) (hmem : c ∈ s.connAddr) (addr : Addr)
    {events : List QuicEvent} (hlast : ClosedLast events) :
    (s.enqueueConnectionEvents addr c events).Attended c ∧
      (s.enqueueConnectionEvents addr c events).producedFor c = s.producedFor c ++ events := by
  obtain ⟨hensured, queue, hqueue⟩ := ha.ensure hs hmem
  have hsound := hs.ensureConnectionTask hmem
  have hproduced : (s.ensureConnectionTask c).producedFor c = s.producedFor c := by
    rcases ensureConnectionTask_cases s c with ⟨-, heq⟩ | ⟨-, -, ⟨_, -, heq⟩ | ⟨-, heq⟩⟩
    · rw [heq]
    · rw [heq]
      rfl
    · rw [heq]
      rfl
  have hquiet : Quiet ((s.ensureConnectionTask c).producedFor c) := by
    rw [hproduced]
    exact ha.quiet hmem
  rw [← hproduced]
  unfold enqueueConnectionEvents
  simp only [hqueue]
  clear hproduced
  generalize s.ensureConnectionTask c = a at hensured hsound hqueue hquiet
  -- only the last event may close the connection, so it is open in front of each
  induction events generalizing a with
  | nil => exact ⟨hensured, (List.append_nil _).symm⟩
  | cons event events ih =>
      have hput : (QuicServer.putEvent c addr queue a event).Attended c :=
        hensured.putEvent hqueue hquiet
      rw [List.foldl_cons]
      cases events with
      | nil => exact ⟨hput, producedFor_putEvent⟩
      | cons next rest =>
          have hopen : Quiet ((QuicServer.putEvent c addr queue a event).producedFor c) := by
            rw [producedFor_putEvent, quiet_append]
            refine ⟨hquiet, fun other hother => ?_⟩
            rw [List.mem_singleton.1 hother]
            exact hlast.head (List.cons_ne_nil _ _)
          obtain ⟨hdone, heq⟩ := ih hlast.tail _ hput (hsound.putEvent hqueue)
            (by rw [connectionQueues_putEvent]; exact hqueue) hopen
          refine ⟨hdone, heq.trans ?_⟩
          rw [producedFor_putEvent, List.append_assoc]
          rfl

omit [DecidableEq Addr] in
/-- A connection that was just accepted. -/
theorem Attended.register (ha : s.Attended c) (hlane : s.Lane c) (hnew : c ∉ s.accepted)
    (h : TablesOnly s s') (hclosed : s'.closedLocally = s.closedLocally) : s'.Attended c := by
  obtain ⟨hentry, hqueue, htasks, hproduced⟩ := hlane.fresh hnew
  have hnone : ∀ id task, ¬s'.TaskOf c id task := by
    intro id task htask
    rw [TaskOf, h.tasks] at htask
    exact htasks id task htask
  have hproduced' : s'.producedFor c = [] := by
    rw [producedFor, h.produced]
    exact hproduced
  have hdelivered : s'.deliveredFor c = [] := by
    have hsofar := hlane.sofar
    rw [hproduced] at hsofar
    rw [deliveredFor, h.delivered]
    exact List.prefix_nil.1 hsofar
  constructor
  · exact h.running.trans ha.running
  · rw [hclosed]
    exact ha.untouched
  · exact fun id task htask => absurd htask (hnone id task)
  · exact fun id task _ htask => absurd htask (hnone id task)
  · intro _
    rw [h.queued]
    exact hqueue
  · intro _
    rw [hdelivered, hproduced']
  · intro hclosing
    rw [hproduced'] at hclosing
    exact absurd (fun _ hmem => by cases hmem) hclosing
  · rw [hproduced']
    exact fun _ hmem => by cases hmem
  · exact fun id task htask => absurd htask (hnone id task)

/-! ## Steps of its task -/

/-- What the task in the tables becomes while it goes on. -/
theorem Attended.turn (ha : s.Attended c) (hlane : s.Lane c) (htask : s.TaskOf c id task)
    (hlive : task.phase ≠ .done) (new : Task Addr Conn) (hnew : new.connection = c)
    (hnewLive : new.phase ≠ .done) (htasks : s'.tasks = s.tasks.set id new)
    (hrunning : s'.running = s.running) (hclosed : s'.closedLocally = s.closedLocally)
    (hentries : s'.connectionTasks = s.connectionTasks)
    (hqueues : s'.connectionQueues = s.connectionQueues) (haddr : s'.connAddr = s.connAddr)
    (hproduced : s'.produced = s.produced)
    (hwaiting : new.phase.isCalling = false → Quiet (s'.deliveredFor c)) : s'.Attended c := by
  have hentry := ha.current id task htask hlive
  have hturn : ∀ {id' task'}, s'.TaskOf c id' task' → task'.phase ≠ .done →
      id' = id ∧ task' = new := fun {_ _} => taskOf_turn hlane htask hentry new hnew htasks
  have hproducedFor : s'.producedFor c = s.producedFor c := by
    rw [producedFor, producedFor, hproduced]
  obtain ⟨old, hold, hcurrent⟩ := hlane.current id hentry
  cases htask.1.symm.trans hold.1
  constructor
  · exact hrunning.trans ha.running
  · rw [hclosed]
    exact ha.untouched
  · intro id' task' htask' hlive'
    obtain ⟨rfl, -⟩ := hturn htask' hlive'
    rw [hentries]
    exact hentry
  · intro id' task' hid htask'
    rw [hentries] at hid
    cases hentry.symm.trans hid
    rcases (taskOf_set htask new hnew htasks).1 htask' with ⟨-, -, rfl⟩ | ⟨hne, -⟩
    · exact hnewLive
    · exact absurd rfl hne
  · intro hnone
    rw [hentries] at hnone
    cases hentry.symm.trans hnone
  · intro hnone
    rw [hqueues] at hnone
    cases (hcurrent hlive).1.symm.trans hnone
  · intro hclosing
    rw [hproducedFor] at hclosing
    rw [haddr]
    exact ha.gone hclosing
  · rw [hproducedFor]
    exact ha.closing
  · intro id' task' htask' hlive' hsilent
    obtain ⟨-, rfl⟩ := hturn htask' hlive'
    exact hwaiting hsilent

theorem Attended.fetch {marks : Finset Conn} (ha : s.Attended c) (hlane : s.Lane c)
    (htask : s.TaskOf c id task) (hlive : task.phase ≠ .done) (hquiet : Quiet (s.deliveredFor c)) :
    ({ s with callbacksRunning := marks }.fetch id task).Attended c := by
  have hentry := ha.current id task htask hlive
  rcases fetch_cases hlane htask hlive hentry marks with ⟨-, heq⟩ | ⟨queuedAddr, event, entries, -, heq⟩
  · rw [heq]
    exact ha.turn hlane htask hlive { task with phase := .waiting, cancelling := false } htask.2
      (fun h => by cases h) rfl rfl rfl rfl rfl rfl rfl fun _ => hquiet
  · rw [heq]
    exact ha.turn hlane htask hlive { task with phase := .calling _ event, cancelling := false }
      htask.2 (fun h => by cases h) rfl rfl rfl rfl rfl rfl rfl fun h => by cases h

theorem Attended.resume (ha : s.Attended c) (hs : s.Sound) (htask : s.TaskOf c id task)
    (hready : task.Ready s.queues) : (s.resume id task).Attended c := by
  have hlive := Ready.live hready
  obtain ⟨old, hold, hcurrent⟩ := (hs.lane c).current id (ha.current id task htask hlive)
  cases htask.1.symm.trans hold.1
  have hcancelling : task.cancelling = false := (hcurrent hlive).2 ha.running
  unfold QuicServer.resume
  rw [if_neg (by simp [hcancelling])]
  exact ha.fetch (hs.lane c) htask hlive (ha.waiting id task htask hlive (Ready.silent hready))

omit [DecidableEq Addr] in
/-- Behind the callback for `ConnectionClosed` the task ends and clears the tables. -/
theorem leave_last (marks : Finset Conn) {addr : Addr} {event : QuicEvent} (ha : s.Attended c)
    (hlane : s.Lane c) (htask : s.TaskOf c id task) (hphase : task.phase = .calling addr event)
    (hclosed : event.type = .connectionClosed) :
    ({ s with callbacksRunning := marks }.leave id task) = (s.finish id task marks).clear c ∧
      s.deliveredFor c = s.producedFor c := by
  have hlive : task.phase ≠ .done := by
    rw [hphase]
    simp
  obtain ⟨before, hbefore⟩ := hlane.last id task addr event htask hphase
  have hall : s.deliveredFor c = s.producedFor c := by
    have hsofar := hlane.sofar
    rw [hbefore] at hsofar ⊢
    exact ha.closing.eq_of_closed hsofar hclosed
  have hentry := ha.current id task htask hlive
  obtain ⟨old, hold, hcurrent⟩ := hlane.current id hentry
  cases htask.1.symm.trans hold.1
  obtain ⟨entries, hentries, hwhole⟩ := hlane.whole _ (hcurrent hlive).1
  have hempty : entries = [] := by
    rw [hall] at hwhole
    exact List.map_eq_nil_iff.1 (List.append_right_eq_self.1 hwhole)
  rcases leave_eq hlane htask hlive marks with ⟨-, -, heq⟩ | ⟨hnot, -⟩
  · exact ⟨heq, hall⟩
  · rw [hempty] at hentries
    exact absurd hentries (hnot hentry)

theorem Attended.callbackReturned {addr : Addr} {event : QuicEvent} (ha : s.Attended c)
    (hlane : s.Lane c) (htask : s.TaskOf c id task) (hphase : task.phase = .calling addr event) :
    (s.callbackReturned id task event).Attended c := by
  have hlive : task.phase ≠ .done := by
    rw [hphase]
    simp
  have hentry := ha.current id task htask hlive
  obtain ⟨before, hbefore⟩ := hlane.last id task addr event htask hphase
  unfold QuicServer.callbackReturned
  dsimp only
  split_ifs with hover
  · have hclosed : event.type = .connectionClosed := by
      refine hover.resolve_right fun h => ?_
      have hrunning : s.running = false := h
      rw [ha.running] at hrunning
      cases hrunning
    obtain ⟨heq, hall⟩ :=
      leave_last (s.callbacksRunning.erase task.connection) ha hlane htask hphase hclosed
    unfold callbackOver
    rw [heq]
    have hidle : (s.finish id task (s.callbacksRunning.erase task.connection)).Idle c :=
      hlane.idle_finish htask hentry
    have hnone : ((s.finish id task (s.callbacksRunning.erase task.connection)).clear
        c).connectionTasks.lookup c = none := AList.lookup_erase _ _
    refine ⟨ha.running, ha.untouched, fun id' task' h hlive' => absurd (hidle id' task' h) hlive', ?_,
      fun _ => AList.lookup_erase _ _, fun _ => hall, ha.gone, ha.closing,
      fun id' task' h hlive' => absurd (hidle id' task' h) hlive'⟩
    intro id' task' hid
    cases hnone.symm.trans hid
  · have hopen : event.type ≠ .connectionClosed := fun h => hover (Or.inl h)
    refine ha.fetch hlane htask hlive ?_
    have hsofar := hlane.sofar
    rw [hbefore] at hsofar ⊢
    refine quiet_append.2 ⟨ha.closing.quiet_front hsofar, fun other hother => ?_⟩
    rw [List.mem_singleton.1 hother]
    exact hopen

/-! ## Steps and runs -/

section ClosedLocally

omit [DecidableEq Addr] in
theorem closedLocally_refresh {scids : List Bytes} :
    (s.refreshDcidIndex c scids).closedLocally = s.closedLocally := by
  unfold refreshDcidIndex
  split_ifs <;> rfl

theorem closedLocally_enqueue {addr : Addr} {events : List QuicEvent} :
    (s.enqueueConnectionEvents addr c events).closedLocally = s.closedLocally := by
  have hensured : (s.ensureConnectionTask c).closedLocally = s.closedLocally := by
    rcases ensureConnectionTask_cases s c with ⟨-, heq⟩ | ⟨-, -, ⟨_, -, heq⟩ | ⟨-, heq⟩⟩
    · rw [heq]
    · rw [heq]
      rfl
    · rw [heq]
      rfl
  rw [← hensured]
  unfold enqueueConnectionEvents
  dsimp only
  cases (s.ensureConnectionTask c).connectionQueues.lookup c with
  | none => rfl
  | some queue =>
      dsimp only
      generalize s.ensureConnectionTask c = a
      induction events generalizing a with
      | nil => rfl
      | cons event events ih =>
          rw [List.foldl_cons, ih, putEvent_eq]
          split_ifs <;> rfl

theorem closedLocally_accept {data : Bytes} {addr : Addr} {accept : Option (Accepted Conn)} :
    (s.acceptDatagram data addr accept).1.closedLocally = s.closedLocally := by
  unfold QuicServer.acceptDatagram
  split_ifs
  · rfl
  · cases accept with
    | none => rfl
    | some fresh =>
        refine closedLocally_enqueue.trans ?_
        exact closedLocally_refresh

theorem closedLocally_datagram {data : Bytes} {addr : Addr} {low : Reception Conn} :
    (s.handleDatagram data addr low).1.closedLocally = s.closedLocally := by
  unfold handleDatagram
  cases s.connections.lookup addr with
  | some connection => exact closedLocally_enqueue.trans closedLocally_refresh
  | none =>
      cases s.dcids.candidate data with
      | none => exact closedLocally_accept
      | some other =>
          cases low.result with
          | accepted =>
              refine (closedLocally_enqueue.trans closedLocally_refresh).trans ?_
              unfold rekey
              split_ifs <;> rfl
          | closed => exact closedLocally_accept.trans closedLocally_enqueue
          | discarded => exact closedLocally_accept

theorem closedLocally_discard : (s.discardConnection c).closedLocally = s.closedLocally := by
  unfold discardConnection
  split_ifs <;> rfl

omit [DecidableEq Addr] in
theorem closedLocally_fetch : (s.fetch id task).closedLocally = s.closedLocally := by
  unfold QuicServer.fetch
  split <;> rfl

omit [DecidableEq Addr] in
theorem closedLocally_leave : (s.leave id task).closedLocally = s.closedLocally := by
  unfold QuicServer.leave
  dsimp only
  split_ifs <;> rfl

theorem closedLocally_act {a : Act Addr Conn} (ha : ∀ connection, a ≠ .close connection) :
    (s.act a).closedLocally = s.closedLocally := by
  cases a with
  | start | stop _ | stopGathered | stopFinally => rfl
  | datagram data addr low => exact closedLocally_datagram
  | sweep connection scids events isClosed =>
      simp only [act, QuicServer.sweep]
      cases (s.refreshDcidIndex connection scids).connAddr.lookup connection with
      | none => exact closedLocally_refresh
      | some addr =>
          dsimp only
          split_ifs
          · exact closedLocally_discard.trans (closedLocally_enqueue.trans closedLocally_refresh)
          · exact closedLocally_enqueue.trans closedLocally_refresh
  | refresh connection scids => exact closedLocally_refresh
  | close connection => exact absurd rfl (ha connection)
  | resume id =>
      simp only [act]
      cases s.tasks[id]? with
      | none => rfl
      | some task =>
          simp only [QuicServer.resume]
          split_ifs
          · rfl
          · exact closedLocally_leave
          · exact closedLocally_fetch
  | returned id =>
      simp only [act]
      cases s.tasks[id]? with
      | none => rfl
      | some task =>
          dsimp only
          cases task.phase with
          | created | waiting | done => rfl
          | calling addr event =>
              simp only [QuicServer.callbackReturned]
              split_ifs
              · exact closedLocally_leave
              · exact closedLocally_fetch
  | raised id =>
      simp only [act]
      cases s.tasks[id]? with
      | none => rfl
      | some task => exact closedLocally_leave

end ClosedLocally

/-- The step neither closes the connection from this side nor ends its callbacks with an exception,
and the server is not stopped. -/
def Act.Spares (s : QuicServer Addr Conn) (c : Conn) : Act Addr Conn → Prop
  | .close connection => connection ≠ c
  | .stop _ | .stopGathered | .stopFinally => False
  | .raised id => ∀ task ∈ s.tasks[id]?, task.connection ≠ c
  | _ => True

instance (s : QuicServer Addr Conn) (c : Conn) (a : Act Addr Conn) : Decidable (a.Spares s c) :=
  match a with
  | .close connection => inferInstanceAs (Decidable (connection ≠ c))
  | .stop _ | .stopGathered | .stopFinally => inferInstanceAs (Decidable False)
  | .raised id => inferInstanceAs (Decidable (∀ task ∈ s.tasks[id]?, task.connection ≠ c))
  | .start | .datagram _ _ _ | .sweep _ _ _ _ | .refresh _ _ | .resume _ | .returned _ =>
      inferInstanceAs (Decidable True)

omit [DecidableEq Addr] in
theorem Attended.same (ha : s.Attended c) (h : SameLane c s s')
    (hclosed : s'.closedLocally = s.closedLocally) : s'.Attended c := by
  refine ha.congr h ?_
  rw [hclosed]
  exact ha.untouched

theorem Attended.accept (ha : s.Attended c) (hs : s.Sound) {data : Bytes} {addr : Addr}
    {low : Reception Conn} (hlow : low.Possible data s.accepted)
    (hfree : s.connections.lookup addr = none) {fresh : Accepted Conn} (hfresh : fresh ∈ low.accept)
    (hc : c = fresh.connection) : (s.acceptDatagram data addr low.accept).1.Attended c := by
  subst hc
  obtain ⟨hnew, hlast⟩ := hlow.2.2.1 fresh hfresh
  rw [Option.mem_def.1 hfresh]
  unfold QuicServer.acceptDatagram
  dsimp only
  split_ifs
  · exact ha
  · have hregistered : (s.acceptConnection addr data fresh).Attended fresh.connection :=
      ha.register (hs.lane _) hnew tablesOnly_accept closedLocally_refresh
    exact (hregistered.enqueue (hs.accept data hnew hfree) (mem_connAddr_accept.2 (Or.inl rfl)) _
      hlast).1

/-- A datagram for the connection, or one that brings it about. -/
theorem Attended.datagram (ha : s.Attended c) (hs : s.Sound) {data : Bytes} {addr : Addr}
    {low : Reception Conn} (hlow : low.Possible data s.accepted)
    (hon : s.receiver data addr = some c ∨
      s.receiver data addr = none ∧ ∃ fresh ∈ low.accept, c = fresh.connection) :
    (s.handleDatagram data addr low).1.Attended c := by
  unfold receiver at hon
  unfold handleDatagram
  cases hlookup : s.connections.lookup addr with
  | some connection =>
      rw [hlookup] at hon
      obtain rfl : connection = c := Option.some.inj (hon.resolve_right fun h => by cases h.1)
      have hsame : SameLane connection s
          ((s.receive connection data).refreshDcidIndex connection low.scids) :=
        (sameLane_receive connection).trans (sameLane_refresh connection)
      have hrefreshed := (hs.receive connection data).refresh connection low.scids
      refine ((ha.same hsame closedLocally_refresh).enqueue hrefreshed ?_ addr hlow.1).1
      rw [connAddr_refreshDcidIndex]
      exact hs.consistent.registered hlookup
  | none =>
      rw [hlookup] at hon
      cases hcandidate : s.dcids.candidate data with
      | none =>
          rw [hcandidate] at hon
          obtain ⟨-, fresh, hfresh, hc⟩ := hon.resolve_left fun h => by cases h
          exact ha.accept hs hlow hlookup hfresh hc
      | some other =>
          rw [hcandidate] at hon
          obtain rfl : other = c := Option.some.inj (hon.resolve_right fun h => by cases h.1)
          obtain ⟨hshort, -, hindex⟩ := DcidIndex.candidate_eq_some hcandidate
          have hknown : other ∈ s.connAddr := hs.consistent.dcids.indexed hindex
          have hreceived := hs.receive other data
          have hsame : SameLane other s (s.receive other data) := sameLane_receive other
          have hkept : (s.receive other data).Attended other := ha.same hsame rfl
          -- `Connection.accept` raises for a short header
          have hnone : low.accept = none := hlow.2.2.2 hshort
          cases hresult : low.result with
          | accepted =>
              have hrekeyed := hreceived.rekey addr hknown hlookup
              have hknown' : other ∈ (s.receive other data).connAddr := hknown
              have hmoved : SameLane other s (((s.receive other data).rekey other
                  addr).refreshDcidIndex other low.scids) :=
                hsame.trans ((sameLane_rekey other hknown').trans (sameLane_refresh other))
              have hclosed : (((s.receive other data).rekey other
                  addr).refreshDcidIndex other low.scids).closedLocally = s.closedLocally := by
                refine closedLocally_refresh.trans ?_
                unfold rekey
                split_ifs <;> rfl
              refine ((ha.same hmoved hclosed).enqueue (hrekeyed.refresh other low.scids) ?_ addr
                hlow.1).1
              rw [connAddr_refreshDcidIndex]
              exact mem_connAddr_rekey hknown
          | closed =>
              have henqueued := (hkept.enqueue hreceived hknown
                ((s.connAddr.lookup other).getD addr) hlow.1).1
              dsimp only
              rw [hnone]
              unfold QuicServer.acceptDatagram
              split_ifs <;> exact henqueued
          | discarded =>
              dsimp only
              rw [hnone]
              unfold QuicServer.acceptDatagram
              split_ifs <;> exact hkept

/-- The sweep over the connection: it is removed only behind its `ConnectionClosed` event. -/
theorem Attended.sweep (ha : s.Attended c) (hs : s.Sound) {scids : List Bytes}
    {events : List QuicEvent} {isClosed : Bool} (hlast : ClosedLast events)
    (hover : isClosed = true → s.ClosedFor c events) :
    (s.sweep c scids events isClosed).Attended c := by
  have hrefreshed := hs.refresh c scids
  have hkept : (s.refreshDcidIndex c scids).Attended c :=
    ha.same (sameLane_refresh c) closedLocally_refresh
  have hproduced : (s.refreshDcidIndex c scids).producedFor c = s.producedFor c :=
    (sameLane_refresh c).produced
  unfold QuicServer.sweep
  dsimp only
  cases hlookup : (s.refreshDcidIndex c scids).connAddr.lookup c with
  | none => exact hkept
  | some addr =>
      obtain ⟨henqueued, hall⟩ := hkept.enqueue hrefreshed (Dict.mem_of_lookup hlookup) addr hlast
      dsimp only
      split_ifs with hclosed
      · rw [hproduced] at hall
        have hend : ¬Quiet (s.producedFor c ++ events) :=
          (hover hclosed.1).resolve_right ha.untouched
        rw [← hall] at hend
        exact absurd hclosed.2 (henqueued.gone hend)
      · exact henqueued

theorem Attended.act (ha : s.Attended c) (hs : s.Sound) {a : Act Addr Conn} (hpossible : a.Possible s)
    (hservice : a.InService s) (hspares : a.Spares s c) : (s.act a).Attended c := by
  by_cases hon : a.On s c
  · cases a with
    | datagram data addr low => exact ha.datagram hs hpossible hon
    | sweep connection scids events isClosed =>
        obtain rfl : c = connection := hon
        exact ha.sweep hs hpossible.1 hpossible.2
    | resume id =>
        obtain ⟨task, htask⟩ := hon
        obtain ⟨task', htask', hready⟩ := hpossible
        cases htask.1.symm.trans htask'
        simp only [QuicServer.act, htask.1]
        exact ha.resume hs htask hready
    | returned id =>
        obtain ⟨task, htask⟩ := hon
        simp only [QuicServer.act, htask.1]
        cases hphase : task.phase with
        | calling addr event => exact ha.callbackReturned (hs.lane c) htask hphase
        | created | waiting | done => exact ha
    | raised id =>
        obtain ⟨task, htask⟩ := hon
        exact absurd htask.2 (hspares task htask.1)
    | stop _ | stopGathered | stopFinally => exact hspares.elim
    | start | refresh _ _ | close _ => exact hon.elim
  · refine ha.congr (sameLane_act hs hpossible hservice hon) ?_
    by_cases hclose : ∀ connection, a ≠ .close connection
    · rw [closedLocally_act hclose]
      exact ha.untouched
    · push Not at hclose
      obtain ⟨connection, rfl⟩ := hclose
      have hne : connection ≠ c := hspares
      simp only [QuicServer.act, List.mem_append, List.mem_singleton, not_or]
      exact ⟨ha.untouched, fun h => hne h.symm⟩

/-! ## What is left to do -/

/-- The steps a task takes without a further event. -/
def weight : Phase Addr → Nat
  | .created => 1
  | .calling _ _ => 2
  | .waiting | .done => 0

/-- A bound for the steps its task takes until every event is delivered and the task has ended. -/
def rest (s : QuicServer Addr Conn) (c : Conn) : Nat :=
  3 * ((s.producedFor c).length - (s.deliveredFor c).length) +
    (((s.connectionTasks.lookup c).bind fun id => s.tasks[id]?).map fun task =>
      weight task.phase).getD 0

omit [DecidableEq Addr] in
theorem rest_eq (hentry : s.connectionTasks.lookup c = some id) (htask : s.TaskOf c id task) :
    s.rest c = 3 * ((s.producedFor c).length - (s.deliveredFor c).length) + weight task.phase := by
  unfold rest
  rw [hentry, Option.bind_some, htask.1]
  rfl

omit [DecidableEq Addr] in
theorem rest_eq_none (hentry : s.connectionTasks.lookup c = none) :
    s.rest c = 3 * ((s.producedFor c).length - (s.deliveredFor c).length) := by
  unfold rest
  rw [hentry]
  rfl

omit [DecidableEq Addr] in
theorem SameLane.rest_eq (h : SameLane c s s') (hlane : s.Lane c) : s'.rest c = s.rest c := by
  cases hentry : s.connectionTasks.lookup c with
  | none => rw [rest_eq_none (h.entry.trans hentry), rest_eq_none hentry, h.produced, h.delivered]
  | some id =>
      obtain ⟨task, htask, -⟩ := hlane.current id hentry
      rw [QuicServer.rest_eq (h.entry.trans hentry) ((h.tasks _ _).2 htask),
        QuicServer.rest_eq hentry htask, h.produced, h.delivered]

omit [DecidableEq Addr] in
/-- The head of the loop takes an event, or waits where there is none. -/
theorem Attended.rest_fetch {marks : Finset Conn} (ha : s.Attended c) (hlane : s.Lane c)
    (htask : s.TaskOf c id task) (hlive : task.phase ≠ .done)
    (hwork : task.phase = .waiting → s.queues[task.queue]? ≠ some []) :
    ({ s with callbacksRunning := marks }.fetch id task).rest c < s.rest c := by
  have hentry := ha.current id task htask hlive
  obtain ⟨old, hold, hcurrent⟩ := hlane.current id hentry
  cases htask.1.symm.trans hold.1
  obtain ⟨entries, hentries, hwhole⟩ := hlane.whole _ (hcurrent hlive).1
  have hlength : (s.producedFor c).length = (s.deliveredFor c).length + entries.length := by
    rw [← hwhole, List.length_append, List.length_map]
  rw [QuicServer.rest_eq hentry htask]
  rcases fetch_cases hlane htask hlive hentry marks with
    ⟨hempty, heq⟩ | ⟨queuedAddr, event, others, hfront, heq⟩
  · rw [heq]
    have hself : (s.await id task marks).TaskOf c id
        { task with phase := .waiting, cancelling := false } :=
      (taskOf_set htask { task with phase := .waiting, cancelling := false } htask.2 rfl).2
        (Or.inl ⟨rfl, rfl, rfl⟩)
    have hentry' : (s.await id task marks).connectionTasks.lookup c = some id := hentry
    have hpositive : 0 < weight task.phase := by
      cases hphase : task.phase with
      | created => exact Nat.one_pos
      | calling addr event => exact Nat.two_pos
      | waiting => exact absurd hempty (hwork hphase)
      | done => exact absurd hphase hlive
    rw [QuicServer.rest_eq hentry' hself]
    exact Nat.add_lt_add_left hpositive _
  · rw [heq]
    generalize (s.connAddr.lookup task.connection).getD queuedAddr = addr
    let new : Task Addr Conn := { task with phase := .calling addr event, cancelling := false }
    have hself : (s.dispatch id task marks addr event others).TaskOf c id new :=
      (taskOf_set htask new htask.2 rfl).2 (Or.inl ⟨rfl, rfl, rfl⟩)
    have hentry' : (s.dispatch id task marks addr event others).connectionTasks.lookup c =
        some id := hentry
    have hproduced : (s.dispatch id task marks addr event others).producedFor c =
        s.producedFor c := rfl
    have hpositive : 0 < entries.length := by
      cases hentries.symm.trans hfront
      exact Nat.succ_pos _
    rw [QuicServer.rest_eq hentry' hself, hproduced, deliveredFor_dispatch, if_pos htask.2,
      List.length_append, List.length_singleton]
    change _ + 2 < _
    omega

/-- A step of the task of the connection. -/
def Act.Steps (s : QuicServer Addr Conn) (c : Conn) : Act Addr Conn → Prop
  | .resume id | .returned id => ∃ task, s.TaskOf c id task
  | _ => False

theorem Attended.rest_resume (ha : s.Attended c) (hs : s.Sound) (htask : s.TaskOf c id task)
    (hready : task.Ready s.queues) : (s.resume id task).rest c < s.rest c := by
  have hlive := Ready.live hready
  obtain ⟨old, hold, hcurrent⟩ := (hs.lane c).current id (ha.current id task htask hlive)
  cases htask.1.symm.trans hold.1
  have hcancelling : task.cancelling = false := (hcurrent hlive).2 ha.running
  unfold QuicServer.resume
  rw [if_neg (by simp [hcancelling])]
  refine ha.rest_fetch (hs.lane c) htask hlive fun hwaiting hempty => ?_
  rcases hready with h | ⟨-, h | h⟩
  · rw [hwaiting] at h
    cases h
  · rw [hcancelling] at h
    cases h
  · rw [hempty] at h
    exact h rfl

omit [DecidableEq Addr] in
theorem Attended.rest_returned {addr : Addr} {event : QuicEvent} (ha : s.Attended c)
    (hlane : s.Lane c) (htask : s.TaskOf c id task) (hphase : task.phase = .calling addr event) :
    (s.callbackReturned id task event).rest c < s.rest c := by
  have hlive : task.phase ≠ .done := by
    rw [hphase]
    simp
  unfold QuicServer.callbackReturned
  dsimp only
  split_ifs with hover
  · have hclosed : event.type = .connectionClosed := by
      refine hover.resolve_right fun h => ?_
      have hrunning : s.running = false := h
      rw [ha.running] at hrunning
      cases hrunning
    obtain ⟨heq, hall⟩ :=
      leave_last (s.callbacksRunning.erase task.connection) ha hlane htask hphase hclosed
    have hnone : ((s.finish id task (s.callbacksRunning.erase task.connection)).clear
        c).connectionTasks.lookup c = none := AList.lookup_erase _ _
    unfold callbackOver
    rw [heq, rest_eq_none hnone, QuicServer.rest_eq (ha.current id task htask hlive) htask, hphase]
    exact Nat.lt_add_of_pos_right Nat.two_pos
  · refine ha.rest_fetch hlane htask hlive fun hwaiting => ?_
    rw [hphase] at hwaiting
    cases hwaiting

theorem registered_of_receiver (hs : s.Sound) {data : Bytes} {addr : Addr}
    (h : s.receiver data addr = some c) : c ∈ s.connAddr := by
  unfold receiver at h
  cases hlookup : s.connections.lookup addr with
  | some connection =>
      rw [hlookup] at h
      cases h
      exact hs.consistent.registered hlookup
  | none =>
      rw [hlookup] at h
      obtain ⟨-, -, hindex⟩ := DcidIndex.candidate_eq_some h
      exact hs.consistent.dcids.indexed hindex

/-- Behind its `ConnectionClosed` event only the steps of its task concern a connection. -/
theorem Attended.sameLane_ended (ha : s.Attended c) (hs : s.Sound) (hended : ¬Quiet (s.producedFor c))
    {a : Act Addr Conn} (hpossible : a.Possible s) (hservice : a.InService s)
    (hspares : a.Spares s c) (hsteps : ¬a.Steps s c) : SameLane c s (s.act a) := by
  have hgone : c ∉ s.connAddr := ha.gone hended
  by_cases hon : a.On s c
  · cases a with
    | datagram data addr low =>
        rcases hon with h | ⟨-, fresh, hfresh, rfl⟩
        · exact absurd (registered_of_receiver hs h) hgone
        · have hproduced := ((hs.lane _).fresh (hpossible.2.2.1 fresh hfresh).1).2.2.2
          rw [hproduced] at hended
          exact absurd (fun _ h => by cases h) hended
    | sweep connection scids events isClosed =>
        obtain rfl : c = connection := hon
        have hnone : (s.refreshDcidIndex c scids).connAddr.lookup c = none := by
          rw [connAddr_refreshDcidIndex]
          exact AList.lookup_eq_none.2 hgone
        simp only [QuicServer.act, QuicServer.sweep, hnone]
        exact sameLane_refresh c
    | resume id => exact absurd hon hsteps
    | returned id => exact absurd hon hsteps
    | raised id =>
        obtain ⟨task, htask⟩ := hon
        exact absurd htask.2 (hspares task htask.1)
    | stop _ | stopGathered | stopFinally => exact hspares.elim
    | start | refresh _ _ | close _ => exact hon.elim
  · exact sameLane_act hs hpossible hservice hon

theorem Attended.rest_steps (ha : s.Attended c) (hs : s.Sound) {a : Act Addr Conn}
    (hpossible : a.Possible s) (hsteps : a.Steps s c) : (s.act a).rest c < s.rest c := by
  cases a with
  | resume id =>
      obtain ⟨task, htask⟩ := hsteps
      obtain ⟨task', htask', hready⟩ := hpossible
      cases htask.1.symm.trans htask'
      simp only [QuicServer.act, htask.1]
      exact ha.rest_resume hs htask hready
  | returned id =>
      obtain ⟨task, htask⟩ := hsteps
      obtain ⟨task', htask', hcalling⟩ := hpossible
      cases htask.1.symm.trans htask'
      simp only [QuicServer.act, htask.1]
      cases hphase : task.phase with
      | calling addr event => exact ha.rest_returned (hs.lane c) htask hphase
      | created | waiting | done =>
          rw [hphase] at hcalling
          cases hcalling
  | start | datagram _ _ _ | sweep _ _ _ _ | refresh _ _ | close _ | stop _ | stopGathered
  | stopFinally | raised _ => exact hsteps.elim

omit [DecidableEq Addr] in
theorem produced_fetch : (s.fetch id task).produced = s.produced := by
  unfold QuicServer.fetch
  split <;> rfl

omit [DecidableEq Addr] in
theorem produced_leave : (s.leave id task).produced = s.produced := by
  unfold QuicServer.leave
  dsimp only
  split_ifs <;> rfl

/-- A task takes events, it produces none. -/
theorem produced_steps {a : Act Addr Conn} (hsteps : a.Steps s c) :
    (s.act a).produced = s.produced := by
  cases a with
  | resume id =>
      obtain ⟨task, htask⟩ := hsteps
      simp only [QuicServer.act, htask.1, QuicServer.resume]
      split_ifs
      · rfl
      · exact produced_leave
      · exact produced_fetch
  | returned id =>
      obtain ⟨task, htask⟩ := hsteps
      simp only [QuicServer.act, htask.1]
      cases task.phase with
      | created | waiting | done => rfl
      | calling addr event =>
          simp only [QuicServer.callbackReturned]
          split_ifs
          · exact produced_leave
          · exact produced_fetch
  | start | datagram _ _ _ | sweep _ _ _ _ | refresh _ _ | close _ | stop _ | stopGathered
  | stopFinally | raised _ => exact hsteps.elim

theorem Attended.producedFor_ended (ha : s.Attended c) (hs : s.Sound)
    (hended : ¬Quiet (s.producedFor c)) {a : Act Addr Conn} (hpossible : a.Possible s)
    (hservice : a.InService s) (hspares : a.Spares s c) :
    (s.act a).producedFor c = s.producedFor c := by
  by_cases hsteps : a.Steps s c
  · rw [producedFor, producedFor, produced_steps hsteps]
  · exact (ha.sameLane_ended hs hended hpossible hservice hspares hsteps).produced

theorem Attended.rest_le (ha : s.Attended c) (hs : s.Sound) (hended : ¬Quiet (s.producedFor c))
    {a : Act Addr Conn} (hpossible : a.Possible s) (hservice : a.InService s)
    (hspares : a.Spares s c) : (s.act a).rest c ≤ s.rest c := by
  by_cases hsteps : a.Steps s c
  · exact (ha.rest_steps hs hpossible hsteps).le
  · have hsame := ha.sameLane_ended hs hended hpossible hservice hspares hsteps
    exact (hsame.rest_eq (hs.lane c)).le

omit [DecidableEq Addr] in
/-- While something is left, a task of the connection can go on. -/
theorem Attended.ready_of_rest (ha : s.Attended c) (hlane : s.Lane c) (hrest : s.rest c ≠ 0) :
    ∃ a : Act Addr Conn, a.Possible s ∧ a.Steps s c := by
  cases hentry : s.connectionTasks.lookup c with
  | none =>
      refine absurd ?_ hrest
      rw [rest_eq_none hentry, ha.complete (ha.served hentry), Nat.sub_self]
  | some id =>
      obtain ⟨task, htask, hcurrent⟩ := hlane.current id hentry
      have hlive := ha.alive id task hentry htask
      cases hphase : task.phase with
      | created => exact ⟨.resume id, ⟨task, htask.1, Or.inl hphase⟩, task, htask⟩
      | waiting =>
          obtain ⟨entries, hentries, hwhole⟩ := hlane.whole _ (hcurrent hlive).1
          refine ⟨.resume id, ⟨task, htask.1, Or.inr ⟨hphase, Or.inr ?_⟩⟩, task, htask⟩
          rw [hentries]
          rintro rfl
          refine hrest ?_
          rw [rest_eq hentry htask, hphase, ← hwhole]
          simp [weight]
      | calling addr event =>
          exact ⟨.returned id, ⟨task, htask.1, by rw [hphase]; rfl⟩, task, htask⟩
      | done => exact absurd hphase hlive

omit [DecidableEq Addr] in
/-- Where nothing is left, everything is delivered and the connection is in no table of tasks. -/
theorem Attended.over (ha : s.Attended c) (hlane : s.Lane c) (hended : ¬Quiet (s.producedFor c))
    (hrest : s.rest c = 0) :
    s.deliveredFor c = s.producedFor c ∧ s.connectionTasks.lookup c = none ∧
      s.connectionQueues.lookup c = none ∧ c ∉ s.callbacksRunning := by
  have hnone : s.connectionTasks.lookup c = none := by
    by_contra hsome
    obtain ⟨id, hentry⟩ := Option.ne_none_iff_exists'.1 hsome
    obtain ⟨task, htask, -⟩ := hlane.current id hentry
    rw [rest_eq hentry htask] at hrest
    have hsilent : task.phase.isCalling = false := by
      cases hphase : task.phase with
      | calling addr event =>
          rw [hphase] at hrest
          simp [weight] at hrest
      | created | waiting | done => rfl
    have hall : s.deliveredFor c = s.producedFor c :=
      hlane.sofar.eq_of_length_le (by omega)
    refine hended ?_
    rw [← hall]
    exact ha.waiting id task htask (ha.alive id task hentry htask) hsilent
  refine ⟨ha.complete (ha.served hnone), hnone, ha.served hnone, fun hmem => ?_⟩
  obtain ⟨id, task, htask, hcalling⟩ := (hlane.marked ha.running).1 hmem
  have hentry := ha.current id task htask (Phase.ne_done_of_isCalling hcalling)
  cases hnone.symm.trans hentry

/-! ## Runs that go on -/

/-- The event loop goes on with the tasks of the connection, and its callbacks return. -/
def Fair (t : Trace (@Serves Addr Conn _ _)) (c : Conn) : Prop :=
  ∀ n, (∃ a : Act Addr Conn, a.Possible (t.state n) ∧ a.Steps (t.state n) c) →
    ∃ m, n ≤ m ∧ (t.label m).Steps (t.state m) c

theorem attended_trace {t : Trace (@Serves Addr Conn _ _)}
    (hstart : t.state 0 = started) (hspares : ∀ n, (t.label n).Spares (t.state n) c) (n : ℕ) :
    (t.state n).Sound ∧ (t.state n).Attended c := by
  refine t.invariant (fun s => s.Sound ∧ s.Attended c) ?_ ?_ n
  · rintro n ⟨hs, ha⟩
    obtain ⟨⟨hpossible, heq⟩, hservice⟩ := t.next n
    rw [← heq]
    exact ⟨hs.act hpossible hservice, ha.act hs hpossible hservice (hspares n)⟩
  · rw [hstart]
    exact ⟨sound_started, attended_started⟩

/-- Nothing is returned by `next_event` behind `ConnectionClosed`. -/
theorem producedFor_trace {t : Trace (@Serves Addr Conn _ _)}
    (hstart : t.state 0 = started) (hspares : ∀ n, (t.label n).Spares (t.state n) c) {n : ℕ}
    (hended : ¬Quiet ((t.state n).producedFor c)) {m : ℕ} (hm : n ≤ m) :
    (t.state m).producedFor c = (t.state n).producedFor c := by
  refine t.kept (fun s => s.producedFor c) (fun m _ hsame => ?_) hm
  obtain ⟨hs, ha⟩ := attended_trace hstart hspares m
  obtain ⟨⟨hpossible, heq⟩, hservice⟩ := t.next m
  rw [← hsame] at hended
  rw [← heq]
  exact ha.producedFor_ended hs hended hpossible hservice (hspares m)

theorem rest_trace {t : Trace (@Serves Addr Conn _ _)} (hstart : t.state 0 = started)
    (hspares : ∀ n, (t.label n).Spares (t.state n) c) (hfair : Fair t c) {n : ℕ}
    (hended : ¬Quiet ((t.state n).producedFor c)) :
    ∃ m, n ≤ m ∧ ∀ k, m ≤ k → (t.state k).rest c = 0 := by
  refine t.exhausted (fun s => s.rest c) ?_ ?_
  · intro m hm
    obtain ⟨hs, ha⟩ := attended_trace hstart hspares m
    obtain ⟨⟨hpossible, heq⟩, hservice⟩ := t.next m
    rw [← producedFor_trace hstart hspares hended hm] at hended
    rw [← heq]
    exact ha.rest_le hs hended hpossible hservice (hspares m)
  · intro m _ hrest
    obtain ⟨hs, ha⟩ := attended_trace hstart hspares m
    obtain ⟨k, hk, hsteps⟩ := hfair m (ha.ready_of_rest (hs.lane c) hrest)
    obtain ⟨hs', ha'⟩ := attended_trace hstart hspares k
    obtain ⟨⟨hpossible, heq⟩, -⟩ := t.next k
    refine ⟨k, hk, ?_⟩
    rw [← heq]
    exact ha'.rest_steps hs' hpossible hsteps

/-- The events up to a `ConnectionClosed` event, if it is the last one. -/
theorem ClosedLast.split {events : List QuicEvent} (h : ClosedLast events) (hended : ¬Quiet events) :
    ∃ before event, events = before ++ [event] ∧ Quiet before ∧
      event.type = .connectionClosed := by
  obtain rfl | ⟨before, event, rfl⟩ := List.eq_nil_or_concat' events
  · exact absurd (fun _ hmem => by cases hmem) hended
  · have hquiet := closedLast_concat.1 h
    refine ⟨before, event, rfl, hquiet, ?_⟩
    by_contra hopen
    refine hended (quiet_append.2 ⟨hquiet, fun other hother => ?_⟩)
    rw [List.mem_singleton.1 hother]
    exact hopen

/-- Callbacks of a connection run one at a time and in order, in every run.  If no callback raises,
the application does not close the connection and the server is not stopped, every event of a
connection that ends with `ConnectionClosed` is delivered, this one last, and then the connection
has no task, no queue and no callback any more. -/
theorem events_delivered (c : Conn) :
    (∀ (acts : List (Act Addr Conn)) (s : QuicServer Addr Conn), Path Serves started acts s →
      (∀ id id' task task', s.TaskOf c id task → s.TaskOf c id' task' →
        task.phase.isCalling = true → task'.phase.isCalling = true → id = id') ∧
      s.deliveredFor c <+: s.producedFor c) ∧
    (∀ t : Trace (@Serves Addr Conn _ _), t.state 0 = started →
      (∀ n, (t.label n).Spares (t.state n) c) → Fair t c →
      ∀ n, ¬Quiet ((t.state n).producedFor c) →
        ∃ before event, Quiet before ∧ event.type = .connectionClosed ∧
          ∃ m, n ≤ m ∧ ∀ k, m ≤ k →
            (t.state k).producedFor c = before ++ [event] ∧
            (t.state k).deliveredFor c = before ++ [event] ∧
            (t.state k).connectionTasks.lookup c = none ∧
            (t.state k).connectionQueues.lookup c = none ∧
            c ∉ (t.state k).callbacksRunning) := by
  constructor
  · intro acts s hrun
    have hlane := (sound_started.run hrun).lane c
    exact ⟨hlane.single, hlane.sofar⟩
  · intro t hstart hspares hfair n hended
    obtain ⟨-, ha⟩ := attended_trace hstart hspares n
    obtain ⟨before, event, hevents, hquiet, hclosed⟩ := ha.closing.split hended
    obtain ⟨m, hm, hzero⟩ := rest_trace hstart hspares hfair hended
    refine ⟨before, event, hquiet, hclosed, m, hm, fun k hk => ?_⟩
    obtain ⟨hs', ha'⟩ := attended_trace hstart hspares k
    have hproduced := producedFor_trace hstart hspares hended (hm.trans hk)
    rw [← hproduced] at hended
    obtain ⟨hdelivered, htask, hqueue, hmark⟩ := ha'.over (hs'.lane c) hended (hzero k hk)
    rw [hproduced.trans hevents] at hdelivered
    exact ⟨hproduced.trans hevents, hdelivered, htask, hqueue, hmark⟩

/-- A connection is accepted with bytes of a stream.  While the callback for them runs, the datagram
comes that ends the connection. -/
def visit : ℕ → Act Nat Nat
  | 0 => .datagram [0xc0] 10
      ⟨.accepted, [], [], some ⟨1, [], [{ type := .streamData, streamId := 0, data := [7] }]⟩⟩
  | 1 => .resume 0
  | 2 => .datagram [0x40] 10 ⟨.accepted, [], [{ type := .connectionClosed, reason := "done" }], none⟩
  | 3 | 4 => .returned 0
  | _ => .refresh 1 []

def visitState : ℕ → QuicServer Nat Nat
  | 0 => started
  | n + 1 => (visitState n).act (visit n)

theorem visitState_rest (n : ℕ) : visitState (n + 5) = visitState 5 := by
  induction n with
  | zero => rfl
  | succ n ih =>
      change (visitState (n + 5)).act (.refresh 1 []) = visitState 5
      rw [ih]
      rfl

theorem visitState_serves (n : ℕ) : Serves (visitState n) (visit n) (visitState (n + 1)) := by
  match n with
  | 0 => exact ⟨⟨by decide, rfl⟩, by decide⟩
  | 1 => exact ⟨⟨by decide, rfl⟩, by decide⟩
  | 2 => exact ⟨⟨by decide, rfl⟩, by decide⟩
  | 3 => exact ⟨⟨by decide, rfl⟩, by decide⟩
  | 4 => exact ⟨⟨by decide, rfl⟩, by decide⟩
  | n + 5 => exact ⟨⟨trivial, rfl⟩, trivial⟩

/-- The run of `visit`. -/
def visitTrace : Trace (@Serves Nat Nat _ _) := ⟨visitState, visit, visitState_serves⟩

theorem visitTrace_fair : Fair visitTrace 1 := by
  rintro n ⟨a, hpossible, hsteps⟩
  have htask : ∀ {s : QuicServer Nat Nat}, s.tasks[0]?.any (fun task => task.connection = 1) →
      ∃ task, s.TaskOf 1 0 task := by
    intro s h
    rw [Option.any_eq_true] at h
    obtain ⟨task, htask, hc⟩ := h
    exact ⟨task, htask, of_decide_eq_true hc⟩
  match n with
  | 0 | 1 => exact ⟨1, by decide, htask (by decide)⟩
  | 2 | 3 => exact ⟨3, by decide, htask (by decide)⟩
  | 4 => exact ⟨4, by decide, htask (by decide)⟩
  | n + 5 =>
      have hstate : visitTrace.state (n + 5) = visitState 5 := visitState_rest n
      have hdone : (visitState 5).tasks = [{ connection := 1, queue := 0, phase := .done }] := rfl
      rw [hstate] at hpossible hsteps
      exfalso
      cases a with
      | resume id =>
          obtain ⟨task, hget, hready⟩ := hpossible
          rw [hdone] at hget
          obtain rfl := List.mem_singleton.1 (List.mem_of_getElem? hget)
          exact Ready.live hready rfl
      | returned id =>
          obtain ⟨task, hget, hcalling⟩ := hpossible
          rw [hdone] at hget
          obtain rfl := List.mem_singleton.1 (List.mem_of_getElem? hget)
          cases hcalling
      | start | datagram _ _ _ | sweep _ _ _ _ | refresh _ _ | close _ | stop _ | stopGathered
      | stopFinally | raised _ => exact hsteps

/-- The callback runs while the last event comes; then both events are delivered, in order. -/
theorem events_delivered_visit :
    1 ∈ (visitState 2).callbacksRunning ∧ 1 ∈ (visitState 3).callbacksRunning ∧
      ((visitState 3).producedFor 1).length = 2 ∧ ((visitState 3).deliveredFor 1).length = 1 ∧
      ∃ before event, Quiet before ∧ event.type = .connectionClosed ∧ ∃ m, 3 ≤ m ∧ ∀ k, m ≤ k →
        (visitState k).producedFor 1 = before ++ [event] ∧
        (visitState k).deliveredFor 1 = before ++ [event] ∧
        (visitState k).connectionTasks.lookup 1 = none ∧
        (visitState k).connectionQueues.lookup 1 = none ∧
        1 ∉ (visitState k).callbacksRunning := by
  have hspares : ∀ n, (visit n).Spares (visitState n) 1 := by
    intro n
    match n with
    | 0 | 1 | 2 | 3 | 4 | n + 5 => exact trivial
  refine ⟨by decide, by decide, by decide, by decide, ?_⟩
  exact (events_delivered 1).2 visitTrace rfl hspares visitTrace_fair 3 (by decide)

end QuicServer

end Server
end WebTransport
