import WebTransport.Server.Tables

/-!
# Server.Delivery — the events of a connection reach its callbacks

A connection has a queue and at most one task that serves it.  `Lane` says how they stand for one
connection: whatever was taken from `next_event` is delivered, in this order, or waits in the queue.

* `SameLane` : a step that does not concern the connection;
* `Lane`     : the invariant, for one connection at a time;
* one lemma for each operation that touches tasks and queues, then steps and runs.
-/

namespace WebTransport
namespace Server

open Quic

namespace QuicServer

variable {Addr Conn : Type} [DecidableEq Addr] [DecidableEq Conn]
  {s s' : QuicServer Addr Conn} {c c' : Conn} {id : Nat} {task : Task Addr Conn}

/-! ## One connection at a time -/

/-- `task` is a task of the connection. -/
def TaskOf (s : QuicServer Addr Conn) (c : Conn) (id : Nat) (task : Task Addr Conn) : Prop :=
  s.tasks[id]? = some task ∧ task.connection = c

/-- Nothing that belongs to `c` has changed. -/
structure SameLane (c : Conn) (s s' : QuicServer Addr Conn) : Prop where
  running : s'.running = s.running
  entry : s'.connectionTasks.lookup c = s.connectionTasks.lookup c
  queue : s'.connectionQueues.lookup c = s.connectionQueues.lookup c
  contents : ∀ queue, s.connectionQueues.lookup c = some queue → s'.queues[queue]? = s.queues[queue]?
  calling : c ∈ s'.callbacksRunning ↔ c ∈ s.callbacksRunning
  tasks : ∀ id task, s'.TaskOf c id task ↔ s.TaskOf c id task
  produced : s'.producedFor c = s.producedFor c
  delivered : s'.deliveredFor c = s.deliveredFor c
  registered : c ∈ s'.connAddr → c ∈ s.connAddr
  accepted : c ∈ s.accepted → c ∈ s'.accepted

omit [DecidableEq Addr] in
theorem SameLane.refl (c : Conn) (s : QuicServer Addr Conn) : SameLane c s s where
  running := rfl
  entry := rfl
  queue := rfl
  contents _ _ := rfl
  calling := Iff.rfl
  tasks _ _ := Iff.rfl
  produced := rfl
  delivered := rfl
  registered h := h
  accepted h := h

/-- The task is no longer in the tables and will not call back. -/
structure Orphan (s : QuicServer Addr Conn) (c : Conn) (task : Task Addr Conn) : Prop where
  entry : s.connectionTasks.lookup c = none
  queue : s.connectionQueues.lookup c = none
  doomed : s.running = true →
    task.cancelling = true ∧ task.phase.isCalling = false ∧ c ∉ s.connAddr

/-- How tasks, queue and callbacks of a connection stand. -/
structure Lane (s : QuicServer Addr Conn) (c : Conn) : Prop where
  current : ∀ id, s.connectionTasks.lookup c = some id → ∃ task, s.TaskOf c id task ∧
    (task.phase ≠ .done → s.connectionQueues.lookup c = some task.queue ∧
      (s.running = true → task.cancelling = false))
  live : ∀ id task, s.TaskOf c id task → task.phase ≠ .done →
    s.connectionTasks.lookup c = some id ∨ s.Orphan c task
  stopping : s.running = false → ∀ id task, s.TaskOf c id task → task.phase ≠ .done →
    task.phase.isCalling = true ∨ task.cancelling = true
  marked : s.running = true → (c ∈ s.callbacksRunning ↔
    ∃ id task, s.TaskOf c id task ∧ task.phase.isCalling = true)
  single : ∀ id id' task task', s.TaskOf c id task → s.TaskOf c id' task' →
    task.phase.isCalling = true → task'.phase.isCalling = true → id = id'
  whole : ∀ queue, s.connectionQueues.lookup c = some queue → ∃ entries,
    s.queues[queue]? = some entries ∧ s.deliveredFor c ++ entries.map Prod.snd = s.producedFor c
  drained : s.running = true → c ∈ s.connAddr → s.connectionQueues.lookup c = none →
    s.deliveredFor c = s.producedFor c
  sofar : s.deliveredFor c <+: s.producedFor c
  last : ∀ id task addr event, s.TaskOf c id task → task.phase = .calling addr event →
    ∃ before, s.deliveredFor c = before ++ [event]
  fresh : c ∉ s.accepted → s.connectionTasks.lookup c = none ∧
    s.connectionQueues.lookup c = none ∧ (∀ id task, ¬s.TaskOf c id task) ∧ s.producedFor c = []

omit [DecidableEq Addr] in
theorem Lane.congr (hs : s.Lane c) (h : SameLane c s s') : s'.Lane c where
  current id hentry := by
    rw [h.entry] at hentry
    obtain ⟨task, htask, hlive⟩ := hs.current id hentry
    refine ⟨task, (h.tasks _ _).2 htask, ?_⟩
    rw [h.queue, h.running]
    exact hlive
  live id task htask hphase := by
    rcases hs.live id task ((h.tasks _ _).1 htask) hphase with hentry | horphan
    · refine Or.inl ?_
      rw [h.entry]
      exact hentry
    · refine Or.inr ⟨h.entry.trans horphan.entry, h.queue.trans horphan.queue, ?_⟩
      intro hrunning
      rw [h.running] at hrunning
      obtain ⟨hcancelling, hphase, hgone⟩ := horphan.doomed hrunning
      exact ⟨hcancelling, hphase, fun hmem => hgone (h.registered hmem)⟩
  stopping hrunning id task htask hphase := by
    rw [h.running] at hrunning
    exact hs.stopping hrunning id task ((h.tasks _ _).1 htask) hphase
  marked hrunning := by
    rw [h.running] at hrunning
    simp only [h.calling, h.tasks]
    exact hs.marked hrunning
  single id id' task task' htask htask' := hs.single id id' task task' ((h.tasks _ _).1 htask)
    ((h.tasks _ _).1 htask')
  whole queue hqueue := by
    rw [h.queue] at hqueue
    rw [h.contents queue hqueue, h.delivered, h.produced]
    exact hs.whole queue hqueue
  drained hrunning hmem hqueue := by
    rw [h.running] at hrunning
    rw [h.queue] at hqueue
    rw [h.delivered, h.produced]
    exact hs.drained hrunning (h.registered hmem) hqueue
  sofar := by
    rw [h.delivered, h.produced]
    exact hs.sofar
  last id task addr event htask hphase := by
    rw [h.delivered]
    exact hs.last id task addr event ((h.tasks _ _).1 htask) hphase
  fresh hnew := by
    have hold : c ∉ s.accepted := fun hmem => hnew (h.accepted hmem)
    obtain ⟨hentry, hqueue, htasks, hproduced⟩ := hs.fresh hold
    refine ⟨h.entry.trans hentry, h.queue.trans hqueue, ?_, h.produced.trans hproduced⟩
    intro id task htask
    exact htasks id task ((h.tasks _ _).1 htask)

/-! ## A new task -/

/-- Every task of the connection has ended. -/
def Idle (s : QuicServer Addr Conn) (c : Conn) : Prop :=
  ∀ id task, s.TaskOf c id task → task.phase = .done

theorem taskAlive_iff : s.taskAlive c = true ↔
    ∃ id task, s.connectionTasks.lookup c = some id ∧ s.tasks[id]? = some task ∧
      task.phase ≠ .done := by
  unfold taskAlive
  cases hentry : s.connectionTasks.lookup c with
  | none => simp
  | some id =>
      cases htask : s.tasks[id]? with
      | none => simp [htask]
      | some task => simp [htask]

theorem Lane.idle (hs : s.Lane c) (hrunning : s.running = true) (hmem : c ∈ s.connAddr)
    (hdead : s.taskAlive c = false) : s.Idle c := by
  intro id task htask
  by_contra hphase
  rcases hs.live id task htask hphase with hentry | horphan
  · have halive : s.taskAlive c = true := taskAlive_iff.2 ⟨id, task, hentry, htask.1, hphase⟩
    rw [hdead] at halive
    cases halive
  · exact (horphan.doomed hrunning).2.2 hmem

/-- `asyncio.Queue()` for a connection. -/
def openQueue (s : QuicServer Addr Conn) (c : Conn) : QuicServer Addr Conn :=
  { s with
      queues := s.queues ++ [[]]
      connectionQueues := s.connectionQueues.insert c s.queues.length }

/-- `asyncio.create_task` for a connection. -/
def spawn (s : QuicServer Addr Conn) (c : Conn) (queue : Nat) : QuicServer Addr Conn :=
  { s with
      tasks := s.tasks ++ [{ connection := c, queue := queue }]
      connectionTasks := s.connectionTasks.insert c s.tasks.length }

/-- What `_ensure_connection_task` does. -/
theorem ensureConnectionTask_cases (s : QuicServer Addr Conn) (c : Conn) :
    (s.running = false ∨ s.taskAlive c = true) ∧ s.ensureConnectionTask c = s ∨
      s.running = true ∧ s.taskAlive c = false ∧
        ((∃ queue, s.connectionQueues.lookup c = some queue ∧
            s.ensureConnectionTask c = s.spawn c queue) ∨
          s.connectionQueues.lookup c = none ∧
            s.ensureConnectionTask c = (s.openQueue c).spawn c s.queues.length) := by
  unfold ensureConnectionTask
  cases hrunning : s.running with
  | false => exact Or.inl ⟨Or.inl rfl, rfl⟩
  | true =>
      cases halive : s.taskAlive c with
      | true => exact Or.inl ⟨Or.inr rfl, rfl⟩
      | false =>
          refine Or.inr ⟨rfl, rfl, ?_⟩
          unfold ensureQueue
          cases hqueue : s.connectionQueues.lookup c with
          | some queue => exact Or.inl ⟨queue, rfl, rfl⟩
          | none => exact Or.inr ⟨rfl, rfl⟩

omit [DecidableEq Addr] in
theorem taskOf_spawn {queue : Nat} : (s.spawn c queue).TaskOf c' id task ↔
    s.TaskOf c' id task ∨
      id = s.tasks.length ∧ c = c' ∧ task = { connection := c, queue := queue } := by
  unfold TaskOf spawn
  dsimp only
  rw [List.getElem?_append]
  split_ifs with hlt
  · constructor
    · exact Or.inl
    · rintro (h | ⟨rfl, -⟩)
      · exact h
      · exact absurd hlt (lt_irrefl _)
  · have hnone : s.tasks[id]? = none := List.getElem?_eq_none (not_lt.1 hlt)
    rw [hnone, List.getElem?_singleton]
    constructor
    · rintro ⟨h, hc⟩
      split_ifs at h with hid
      cases h
      exact Or.inr ⟨by omega, hc, rfl⟩
    · rintro (⟨h, -⟩ | ⟨rfl, hc, rfl⟩)
      · cases h
      · simp [hc]

omit [DecidableEq Addr] in
theorem sameLane_openQueue (hne : c' ≠ c) (hs : s.Lane c') : SameLane c' s (s.openQueue c) :=
  { SameLane.refl c' s with
    queue := AList.lookup_insert_ne hne
    contents := by
      intro queue hqueue
      obtain ⟨entries, hentries, -⟩ := hs.whole queue hqueue
      obtain ⟨hlt, -⟩ := List.getElem?_eq_some_iff.1 hentries
      exact List.getElem?_append_left hlt }

omit [DecidableEq Addr] in
theorem sameLane_spawn {queue : Nat} (hne : c' ≠ c) : SameLane c' s (s.spawn c queue) :=
  { SameLane.refl c' s with
    entry := AList.lookup_insert_ne hne
    tasks := by
      intro id task
      rw [taskOf_spawn]
      exact or_iff_left fun h => hne h.2.1.symm }

omit [DecidableEq Addr] in
theorem Lane.openQueue (hs : s.Lane c) (hidle : s.Idle c) (hrunning : s.running = true)
    (hmem : c ∈ s.connAddr) (hnone : s.connectionQueues.lookup c = none) (hknown : c ∈ s.accepted) :
    (s.openQueue c).Lane c where
  current id hentry := by
    obtain ⟨task, htask, -⟩ := hs.current id hentry
    exact ⟨task, htask, fun hphase => absurd (hidle id task htask) hphase⟩
  live id task htask hphase := absurd (hidle id task htask) hphase
  stopping hstopped := by
    have hstopped : s.running = false := hstopped
    rw [hrunning] at hstopped
    cases hstopped
  marked := hs.marked
  single := hs.single
  whole queue hqueue := by
    have hnew : queue = s.queues.length := by
      have hlookup : (s.connectionQueues.insert c s.queues.length).lookup c =
          some s.queues.length := AList.lookup_insert _
      exact (Option.some.inj (hlookup.symm.trans hqueue)).symm
    subst hnew
    refine ⟨[], ?_, ?_⟩
    · exact List.getElem?_concat_length
    · rw [List.map_nil, List.append_nil]
      exact hs.drained hrunning hmem hnone
  drained _ _ hqueue := by
    have hlookup : (s.connectionQueues.insert c s.queues.length).lookup c = some s.queues.length :=
      AList.lookup_insert _
    exact absurd (hlookup.symm.trans hqueue) (by simp)
  sofar := hs.sofar
  last := hs.last
  fresh hnew := absurd hknown hnew

omit [DecidableEq Addr] in
theorem Lane.spawn {queue : Nat} (hs : s.Lane c) (hidle : s.Idle c) (hrunning : s.running = true)
    (hqueue : s.connectionQueues.lookup c = some queue) (hknown : c ∈ s.accepted) :
    (s.spawn c queue).Lane c := by
  have hcalling : ∀ id task, (s.spawn c queue).TaskOf c id task → task.phase.isCalling = true →
      False := by
    intro id task htask hphase
    rcases taskOf_spawn.1 htask with hold | ⟨-, -, rfl⟩
    · rw [hidle id task hold] at hphase
      cases hphase
    · cases hphase
  have hentry : (s.spawn c queue).connectionTasks.lookup c = some s.tasks.length :=
    AList.lookup_insert _
  constructor
  · intro id hid
    cases hentry.symm.trans hid
    exact ⟨_, taskOf_spawn.2 (Or.inr ⟨rfl, rfl, rfl⟩), fun _ => ⟨hqueue, fun _ => rfl⟩⟩
  · intro id task htask hphase
    rcases taskOf_spawn.1 htask with hold | ⟨rfl, -, -⟩
    · exact absurd (hidle id task hold) hphase
    · exact Or.inl hentry
  · intro hstopped
    have hstopped : s.running = false := hstopped
    rw [hrunning] at hstopped
    cases hstopped
  · intro _
    refine (hs.marked hrunning).trans ⟨?_, ?_⟩
    · rintro ⟨id, task, htask, hphase⟩
      exact ⟨id, task, taskOf_spawn.2 (Or.inl htask), hphase⟩
    · rintro ⟨id, task, htask, hphase⟩
      exact (hcalling id task htask hphase).elim
  · intro id id' task task' htask _ hphase
    exact (hcalling id task htask hphase).elim
  · exact hs.whole
  · exact hs.drained
  · exact hs.sofar
  · intro id task addr event htask hphase
    refine (hcalling id task htask ?_).elim
    rw [hphase]
    rfl
  · exact fun hnew => absurd hknown hnew

/-! ## The whole server -/

/-- Every connection stands as it should, and no queue belongs to two connections. -/
structure Sound (s : QuicServer Addr Conn) : Prop where
  consistent : s.Consistent
  owned : ∀ c c' queue, s.connectionQueues.lookup c = some queue →
    s.connectionQueues.lookup c' = some queue → c = c'
  lane : ∀ c, s.Lane c

/-- A step on one connection. -/
theorem Sound.of_lane (hs : s.Sound) (c : Conn) (hconsistent : s'.Consistent)
    (howned : ∀ c c' queue, s'.connectionQueues.lookup c = some queue →
      s'.connectionQueues.lookup c' = some queue → c = c')
    (hlane : s'.Lane c) (hother : ∀ c' ≠ c, SameLane c' s s') : s'.Sound := by
  refine ⟨hconsistent, howned, fun c' => ?_⟩
  by_cases hc : c' = c
  · subst hc
    exact hlane
  · exact (hs.lane c').congr (hother c' hc)

theorem Sound.openQueue (hs : s.Sound) (hidle : s.Idle c) (hrunning : s.running = true)
    (hmem : c ∈ s.connAddr) (hnone : s.connectionQueues.lookup c = none) :
    (s.openQueue c).Sound := by
  have hknown : c ∈ s.accepted := hs.consistent.accepted c hmem
  refine hs.of_lane c (hs.consistent.congr rfl) ?_
    ((hs.lane c).openQueue hidle hrunning hmem hnone hknown)
    fun c' hc => sameLane_openQueue hc (hs.lane c')
  -- the number of the new queue is taken by no other connection
  have hfresh : ∀ other, s.connectionQueues.lookup other ≠ some s.queues.length := by
    intro other hother
    obtain ⟨entries, hentries, -⟩ := (hs.lane other).whole _ hother
    obtain ⟨hlt, -⟩ := List.getElem?_eq_some_iff.1 hentries
    exact lt_irrefl _ hlt
  intro a b queue ha hb
  rcases Dict.lookup_insert_iff.1 ha with ⟨rfl, rfl⟩ | ⟨hac, ha⟩
  · rcases Dict.lookup_insert_iff.1 hb with ⟨rfl, -⟩ | ⟨-, hb⟩
    · rfl
    · exact absurd hb (hfresh b)
  · rcases Dict.lookup_insert_iff.1 hb with ⟨-, rfl⟩ | ⟨-, hb⟩
    · exact absurd ha (hfresh a)
    · exact hs.owned a b queue ha hb

theorem Sound.spawn {queue : Nat} (hs : s.Sound) (hidle : s.Idle c) (hrunning : s.running = true)
    (hmem : c ∈ s.connAddr) (hqueue : s.connectionQueues.lookup c = some queue) :
    (s.spawn c queue).Sound :=
  hs.of_lane c (hs.consistent.congr rfl) hs.owned
    ((hs.lane c).spawn hidle hrunning hqueue (hs.consistent.accepted c hmem))
    fun _ hc => sameLane_spawn hc

theorem Sound.ensureConnectionTask (hs : s.Sound) (hmem : c ∈ s.connAddr) :
    (s.ensureConnectionTask c).Sound := by
  rcases ensureConnectionTask_cases s c with ⟨-, heq⟩ | ⟨hrunning, hdead, h⟩
  · rw [heq]
    exact hs
  · have hidle := (hs.lane c).idle hrunning hmem hdead
    rcases h with ⟨queue, hqueue, heq⟩ | ⟨hnone, heq⟩
    · rw [heq]
      exact hs.spawn hidle hrunning hmem hqueue
    · rw [heq]
      have hopened := hs.openQueue hidle hrunning hmem hnone
      exact hopened.spawn hidle hrunning hmem (AList.lookup_insert _)

/-! ## Events into the queue -/

/-- `queue.put_nowait((addr, event))` -/
def putNowait (s : QuicServer Addr Conn) (c : Conn) (queue : Nat) (addr : Addr)
    (event : QuicEvent) : QuicServer Addr Conn :=
  { s with
      queues := s.queues.modify queue fun entries => entries ++ [(addr, event)]
      produced := s.produced ++ [(c, event)] }

theorem putEvent_eq {queue : Nat} {addr : Addr} {event : QuicEvent} :
    putEvent c addr queue s event =
      if event.type = .connectionClosed then (s.putNowait c queue addr event).removeConnection c
      else s.putNowait c queue addr event := rfl

omit [DecidableEq Addr] in
theorem producedFor_putNowait {queue : Nat} {addr : Addr} {event : QuicEvent} :
    (s.putNowait c queue addr event).producedFor c' =
      s.producedFor c' ++ if c = c' then [event] else [] := by
  unfold producedFor putNowait
  dsimp only
  rw [List.filter_append, List.map_append]
  split_ifs with h <;> simp [h]

omit [DecidableEq Addr] in
theorem sameLane_putNowait {queue : Nat} {addr : Addr} {event : QuicEvent} (hne : c' ≠ c)
    (hother : s.connectionQueues.lookup c' ≠ some queue) :
    SameLane c' s (s.putNowait c queue addr event) :=
  { SameLane.refl c' s with
    contents := by
      intro other hqueue
      have hqueues : queue ≠ other := by
        rintro rfl
        exact hother hqueue
      simp [QuicServer.putNowait, hqueues]
    produced := by
      rw [producedFor_putNowait, if_neg hne.symm, List.append_nil] }

omit [DecidableEq Addr] in
theorem Lane.putNowait {queue : Nat} {addr : Addr} {event : QuicEvent} (hs : s.Lane c)
    (hqueue : s.connectionQueues.lookup c = some queue) (hknown : c ∈ s.accepted) :
    (s.putNowait c queue addr event).Lane c := by
  have hproduced : (s.putNowait c queue addr event).producedFor c = s.producedFor c ++ [event] := by
    rw [producedFor_putNowait, if_pos rfl]
  refine ⟨hs.current, ?_, hs.stopping, hs.marked, hs.single, ?_, ?_, ?_, hs.last,
    fun hnew => absurd hknown hnew⟩
  · intro id task htask hphase
    exact (hs.live id task htask hphase).imp_right fun h => ⟨h.entry, h.queue, h.doomed⟩
  · intro other hother
    cases hqueue.symm.trans hother
    obtain ⟨entries, hentries, hwhole⟩ := hs.whole queue hqueue
    refine ⟨entries ++ [(addr, event)], ?_, ?_⟩
    · simp [QuicServer.putNowait, hentries]
    · rw [hproduced, ← hwhole, List.map_append, ← List.append_assoc]
      rfl
  · intro _ _ hnone
    exact absurd (hqueue.symm.trans hnone) (by simp)
  · rw [hproduced]
    exact hs.sofar.trans (List.prefix_append _ _)

theorem Sound.putNowait {queue : Nat} (hs : s.Sound)
    (hqueue : s.connectionQueues.lookup c = some queue) (addr : Addr) (event : QuicEvent) :
    (s.putNowait c queue addr event).Sound := by
  have hknown : c ∈ s.accepted := by
    by_contra hnew
    exact absurd (hqueue.symm.trans ((hs.lane c).fresh hnew).2.1) (by simp)
  refine hs.of_lane c (hs.consistent.congr rfl) hs.owned ((hs.lane c).putNowait hqueue hknown) ?_
  intro c' hc
  exact sameLane_putNowait hc fun hother => hc (hs.owned c' c queue hother hqueue)

/-! ## Steps on the tables -/

/-- Only the tables and the record of calls have changed. -/
structure TablesOnly (s s' : QuicServer Addr Conn) : Prop where
  running : s'.running = s.running
  entries : s'.connectionTasks = s.connectionTasks
  queued : s'.connectionQueues = s.connectionQueues
  marks : s'.callbacksRunning = s.callbacksRunning
  tasks : s'.tasks = s.tasks
  queues : s'.queues = s.queues
  produced : s'.produced = s.produced
  delivered : s'.delivered = s.delivered

omit [DecidableEq Addr] in
theorem TablesOnly.sameLane (h : TablesOnly s s') (c : Conn)
    (hregistered : c ∈ s'.connAddr → c ∈ s.connAddr) (haccepted : c ∈ s.accepted → c ∈ s'.accepted) :
    SameLane c s s' where
  running := h.running
  entry := by rw [h.entries]
  queue := by rw [h.queued]
  contents _ _ := by rw [h.queues]
  calling := by rw [h.marks]
  tasks _ _ := by rw [TaskOf, TaskOf, h.tasks]
  produced := by rw [producedFor, producedFor, h.produced]
  delivered := by rw [deliveredFor, deliveredFor, h.delivered]
  registered := hregistered
  accepted := haccepted

theorem Sound.tables (hs : s.Sound) (h : TablesOnly s s') (hconsistent : s'.Consistent)
    (hsame : ∀ c, SameLane c s s') : s'.Sound where
  consistent := hconsistent
  owned c c' queue := by
    rw [h.queued]
    exact hs.owned c c' queue
  lane c := (hs.lane c).congr (hsame c)

omit [DecidableEq Addr] in
theorem tablesOnly_refresh {scids : List Bytes} : TablesOnly s (s.refreshDcidIndex c scids) := by
  unfold refreshDcidIndex
  split_ifs <;> exact ⟨rfl, rfl, rfl, rfl, rfl, rfl, rfl, rfl⟩

theorem tablesOnly_remove : TablesOnly s (s.removeConnection c) :=
  ⟨rfl, rfl, rfl, rfl, rfl, rfl, rfl, rfl⟩

omit [DecidableEq Addr] [DecidableEq Conn] in
theorem tablesOnly_receive {data : Bytes} : TablesOnly s (s.receive c data) :=
  ⟨rfl, rfl, rfl, rfl, rfl, rfl, rfl, rfl⟩

theorem tablesOnly_rekey {addr : Addr} : TablesOnly s (s.rekey c addr) := by
  unfold rekey
  split_ifs <;> exact ⟨rfl, rfl, rfl, rfl, rfl, rfl, rfl, rfl⟩

theorem tablesOnly_accept {addr : Addr} {data : Bytes} {accept : Accepted Conn} :
    TablesOnly s (s.acceptConnection addr data accept) := by
  unfold acceptConnection refreshDcidIndex
  dsimp only
  split_ifs <;> exact ⟨rfl, rfl, rfl, rfl, rfl, rfl, rfl, rfl⟩

omit [DecidableEq Addr] in
theorem connAddr_refreshDcidIndex {scids : List Bytes} :
    (s.refreshDcidIndex c scids).connAddr = s.connAddr := by
  unfold refreshDcidIndex
  split_ifs <;> rfl

theorem mem_of_mem_remove (h : c' ∈ (s.removeConnection c).connAddr) : c' ∈ s.connAddr :=
  (AList.mem_erase.1 h).2

theorem mem_connAddr_rekey {addr : Addr} (hmem : c ∈ s.connAddr) :
    c ∈ (s.rekey c addr).connAddr := by
  unfold rekey
  split_ifs
  · exact hmem
  · exact (AList.mem_insert _).2 (Or.inl rfl)

theorem mem_of_mem_rekey {addr : Addr} (hmem : c ∈ s.connAddr)
    (h : c' ∈ (s.rekey c addr).connAddr) : c' ∈ s.connAddr := by
  unfold rekey at h
  split_ifs at h
  · exact h
  · rcases (AList.mem_insert _).1 h with rfl | h
    · exact hmem
    · exact h

theorem mem_connAddr_accept {addr : Addr} {data : Bytes} {accept : Accepted Conn} :
    c' ∈ (s.acceptConnection addr data accept).connAddr ↔
      c' = accept.connection ∨ c' ∈ s.connAddr := by
  unfold acceptConnection
  dsimp only
  rw [connAddr_refreshDcidIndex]
  exact AList.mem_insert _

omit [DecidableEq Addr] in
theorem accepted_refresh {scids : List Bytes} :
    (s.refreshDcidIndex c scids).accepted = s.accepted := by
  unfold refreshDcidIndex
  split_ifs <;> rfl

theorem accepted_rekey {addr : Addr} : (s.rekey c addr).accepted = s.accepted := by
  unfold rekey
  split_ifs <;> rfl

theorem accepted_accept {addr : Addr} {data : Bytes} {accept : Accepted Conn} :
    (s.acceptConnection addr data accept).accepted = s.accepted ++ [accept.connection] := by
  unfold acceptConnection
  dsimp only
  rw [accepted_refresh]
  rfl

omit [DecidableEq Addr] in
theorem sameLane_refresh (c' : Conn) {scids : List Bytes} :
    SameLane c' s (s.refreshDcidIndex c scids) := by
  refine tablesOnly_refresh.sameLane c' ?_ ?_
  · rw [connAddr_refreshDcidIndex]
    exact fun h => h
  · rw [accepted_refresh]
    exact fun h => h

theorem sameLane_remove (c' : Conn) : SameLane c' s (s.removeConnection c) :=
  tablesOnly_remove.sameLane c' mem_of_mem_remove fun h => h

omit [DecidableEq Addr] in
theorem sameLane_receive (c' : Conn) {data : Bytes} : SameLane c' s (s.receive c data) :=
  tablesOnly_receive.sameLane c' (fun h => h) fun h => h

theorem sameLane_rekey (c' : Conn) {addr : Addr} (hmem : c ∈ s.connAddr) :
    SameLane c' s (s.rekey c addr) := by
  refine tablesOnly_rekey.sameLane c' (mem_of_mem_rekey hmem) ?_
  rw [accepted_rekey]
  exact fun h => h

theorem sameLane_accept {addr : Addr} {data : Bytes} {accept : Accepted Conn}
    (hne : c' ≠ accept.connection) : SameLane c' s (s.acceptConnection addr data accept) := by
  refine tablesOnly_accept.sameLane c' ?_ ?_
  · exact fun h => (mem_connAddr_accept.1 h).resolve_left hne
  · rw [accepted_accept]
    exact fun h => List.mem_append_left _ h

theorem Sound.refresh (hs : s.Sound) (c : Conn) (scids : List Bytes) :
    (s.refreshDcidIndex c scids).Sound :=
  hs.tables tablesOnly_refresh (hs.consistent.refresh c scids) fun _ => sameLane_refresh _

theorem Sound.remove (hs : s.Sound) (c : Conn) : (s.removeConnection c).Sound :=
  hs.tables tablesOnly_remove (hs.consistent.remove c) fun _ => sameLane_remove _

theorem Sound.receive (hs : s.Sound) (c : Conn) (data : Bytes) : (s.receive c data).Sound :=
  hs.tables tablesOnly_receive (hs.consistent.congr rfl) fun _ => sameLane_receive _

theorem Sound.rekey (hs : s.Sound) (addr : Addr) (hmem : c ∈ s.connAddr)
    (hfree : s.connections.lookup addr = none) : (s.rekey c addr).Sound :=
  hs.tables tablesOnly_rekey (hs.consistent.rekey addr hmem hfree) fun _ => sameLane_rekey _ hmem

omit [DecidableEq Addr] in
/-- A connection without tasks and events may be registered. -/
theorem Lane.register (hs : s.Lane c) (hnew : c ∉ s.accepted) (h : TablesOnly s s')
    (hknown : c ∈ s'.accepted) : s'.Lane c := by
  obtain ⟨hentry, hqueue, htasks, hproduced⟩ := hs.fresh hnew
  have hnone : ∀ id task, ¬s'.TaskOf c id task := by
    intro id task htask
    rw [TaskOf, h.tasks] at htask
    exact htasks id task htask
  have hproduced' : s'.producedFor c = s.producedFor c := by
    rw [producedFor, producedFor, h.produced]
  have hdelivered : s'.deliveredFor c = s.deliveredFor c := by
    rw [deliveredFor, deliveredFor, h.delivered]
  have hempty : s.deliveredFor c = [] := by
    have hsofar := hs.sofar
    rw [hproduced] at hsofar
    exact List.prefix_nil.1 hsofar
  constructor
  · intro id hid
    rw [h.entries, hentry] at hid
    cases hid
  · exact fun id task htask => absurd htask (hnone id task)
  · exact fun _ id task htask => absurd htask (hnone id task)
  · intro hrunning
    rw [h.running] at hrunning
    rw [h.marks, hs.marked hrunning]
    constructor
    · rintro ⟨id, task, htask, -⟩
      exact absurd htask (htasks id task)
    · rintro ⟨id, task, htask, -⟩
      exact absurd htask (hnone id task)
  · exact fun id _ task _ htask => absurd htask (hnone id task)
  · intro queue hother
    rw [h.queued, hqueue] at hother
    cases hother
  · intro _ _ _
    rw [hdelivered, hproduced', hempty, hproduced]
  · rw [hdelivered, hproduced', hempty]
    exact List.nil_prefix
  · exact fun id task _ _ htask => absurd htask (hnone id task)
  · exact fun hunknown => absurd hknown hunknown

theorem Sound.accept (hs : s.Sound) {addr : Addr} (data : Bytes) {accept : Accepted Conn}
    (hnew : accept.connection ∉ s.accepted) (hfree : s.connections.lookup addr = none) :
    (s.acceptConnection addr data accept).Sound := by
  have honly : TablesOnly s (s.acceptConnection addr data accept) := tablesOnly_accept
  refine hs.of_lane accept.connection (hs.consistent.accept hnew hfree) ?_ ?_
    fun c' hc => sameLane_accept hc
  · rw [honly.queued]
    exact hs.owned
  · refine (hs.lane _).register hnew honly ?_
    rw [accepted_accept]
    exact List.mem_append_right _ List.mem_cons_self

/-- What holds behind `_ensure_connection_task` and is kept by every event and every removal. -/
theorem enqueue_rule (hs : s.Sound) (hmem : c ∈ s.connAddr) (P : QuicServer Addr Conn → Prop)
    (hensure : P (s.ensureConnectionTask c))
    (hput : ∀ {a : QuicServer Addr Conn} {queue addr event}, a.Sound →
      a.connectionQueues.lookup c = some queue → P a → P (a.putNowait c queue addr event))
    (hremove : ∀ {a : QuicServer Addr Conn}, P a → P (a.removeConnection c))
    (addr : Addr) (events : List QuicEvent) :
    (s.enqueueConnectionEvents addr c events).Sound ∧
      P (s.enqueueConnectionEvents addr c events) := by
  have hensured := hs.ensureConnectionTask hmem
  unfold enqueueConnectionEvents
  dsimp only
  cases hqueue : (s.ensureConnectionTask c).connectionQueues.lookup c with
  | none => exact ⟨hensured, hensure⟩
  | some queue =>
      dsimp only
      generalize s.ensureConnectionTask c = a at hensured hensure hqueue
      induction events generalizing a with
      | nil => exact ⟨hensured, hensure⟩
      | cons event events ih =>
          have hputSound := hensured.putNowait hqueue addr event
          have hputP : P (a.putNowait c queue addr event) := hput hensured hqueue hensure
          rw [List.foldl_cons, putEvent_eq]
          split_ifs
          · exact ih _ (hputSound.remove c) (hremove hputP) hqueue
          · exact ih _ hputSound hputP hqueue

/-- `_enqueue_connection_events`, for a registered connection. -/
theorem Sound.enqueue (hs : s.Sound) (hmem : c ∈ s.connAddr) (addr : Addr)
    (events : List QuicEvent) : (s.enqueueConnectionEvents addr c events).Sound :=
  (enqueue_rule hs hmem (fun _ => True) trivial (fun _ _ _ => trivial) (fun _ => trivial) addr
    events).1

/-! ## Steps of a task -/

omit [DecidableEq Addr] [DecidableEq Conn] in
theorem taskOf_set (htask : s.TaskOf c id task) (new : Task Addr Conn) (hnew : new.connection = c)
    (htasks : s'.tasks = s.tasks.set id new) {id' : Nat} {task' : Task Addr Conn} :
    s'.TaskOf c' id' task' ↔
      id' = id ∧ c' = c ∧ task' = new ∨ id' ≠ id ∧ s.TaskOf c' id' task' := by
  obtain ⟨hlt, -⟩ := List.getElem?_eq_some_iff.1 htask.1
  unfold TaskOf
  rw [htasks, List.getElem?_set]
  by_cases hid : id = id'
  · subst hid
    simp only [if_pos hlt, if_true, ne_eq, not_true_eq_false, false_and, or_false, true_and,
      Option.some.injEq]
    constructor
    · rintro ⟨rfl, hc⟩
      exact ⟨hc.symm.trans hnew, rfl⟩
    · rintro ⟨rfl, rfl⟩
      exact ⟨rfl, hnew⟩
  · have hne : id' ≠ id := fun h => hid h.symm
    simp [hid, hne]

omit [DecidableEq Addr] [DecidableEq Conn] in
/-- Another connection does not notice. -/
theorem taskOf_set_ne (htask : s.TaskOf c id task) (new : Task Addr Conn)
    (hnew : new.connection = c) (htasks : s'.tasks = s.tasks.set id new) (hne : c' ≠ c)
    (id' : Nat) (task' : Task Addr Conn) : s'.TaskOf c' id' task' ↔ s.TaskOf c' id' task' := by
  rw [taskOf_set htask new hnew htasks]
  constructor
  · rintro (⟨-, hc, -⟩ | ⟨-, h⟩)
    · exact absurd hc hne
    · exact h
  · intro h
    refine Or.inr ⟨?_, h⟩
    rintro rfl
    have hsame : task' = task := Option.some.inj (h.1.symm.trans htask.1)
    exact hne (by rw [← h.2, hsame, htask.2])

/-- A connection has one task in the tables; the others have ended or are orphans. -/
theorem Lane.others (hs : s.Lane c) (hentry : s.connectionTasks.lookup c = some id) {id' : Nat}
    {task' : Task Addr Conn} (htask' : s.TaskOf c id' task') (hne : id' ≠ id) :
    task'.phase = .done := by
  by_contra hphase
  rcases hs.live id' task' htask' hphase with h | h
  · exact hne (Option.some.inj (h.symm.trans hentry))
  · exact absurd (h.entry.symm.trans hentry) (by simp)

omit [DecidableEq Addr] in
/-- While the server runs, the task in a callback is the one in the tables. -/
theorem Lane.entry_of_calling (hs : s.Lane c) (hrunning : s.running = true)
    (htask : s.TaskOf c id task) (hcalling : task.phase.isCalling = true) :
    s.connectionTasks.lookup c = some id := by
  have hphase : task.phase ≠ .done := by
    intro h
    rw [h] at hcalling
    cases hcalling
  refine (hs.live id task htask hphase).resolve_right fun h => ?_
  rw [(h.doomed hrunning).2.1] at hcalling
  cases hcalling

omit [DecidableEq Addr] in
theorem Lane.known (hs : s.Lane c) (htask : s.TaskOf c id task) : c ∈ s.accepted := by
  by_contra hnew
  exact (hs.fresh hnew).2.2.1 id task htask

/-- The task has ended. -/
def finish (s : QuicServer Addr Conn) (id : Nat) (task : Task Addr Conn) (marks : Finset Conn) :
    QuicServer Addr Conn :=
  { s with
      callbacksRunning := marks
      tasks := s.tasks.set id { task with phase := .done, cancelling := false } }

omit [DecidableEq Addr] [DecidableEq Conn] in
theorem taskOf_finish {marks : Finset Conn} (htask : s.TaskOf c id task) {id' : Nat}
    {task' : Task Addr Conn} : (s.finish id task marks).TaskOf c' id' task' ↔
      id' = id ∧ c' = c ∧ task' = { task with phase := .done, cancelling := false } ∨
        id' ≠ id ∧ s.TaskOf c' id' task' :=
  taskOf_set htask { task with phase := .done, cancelling := false } htask.2 rfl

/-- A connection whose task in the tables ends has no task left. -/
theorem Lane.idle_finish {marks : Finset Conn} (hs : s.Lane c) (htask : s.TaskOf c id task)
    (hentry : s.connectionTasks.lookup c = some id) : (s.finish id task marks).Idle c := by
  intro id' task' htask'
  rcases (taskOf_finish htask).1 htask' with ⟨-, -, rfl⟩ | ⟨hid, hold⟩
  · rfl
  · exact hs.others hentry hold hid

theorem Lane.finish {marks : Finset Conn} (hs : s.Lane c) (htask : s.TaskOf c id task)
    (hlive : task.phase ≠ .done) (hmarks : s.running = true → c ∉ marks) :
    (s.finish id task marks).Lane c := by
  have htasks : ∀ {id' task'}, (s.finish id task marks).TaskOf c id' task' ↔ _ :=
    fun {_ _} => taskOf_finish htask
  have hrest : ∀ {id' task'}, (s.finish id task marks).TaskOf c id' task' → task'.phase ≠ .done →
      id' ≠ id ∧ s.TaskOf c id' task' := by
    intro id' task' htask' hphase
    rcases htasks.1 htask' with ⟨-, -, rfl⟩ | h
    · exact absurd rfl hphase
    · exact h
  have hsilent : ∀ {id' task'}, (s.finish id task marks).TaskOf c id' task' →
      task'.phase.isCalling = true → id' ≠ id ∧ s.TaskOf c id' task' := by
    intro id' task' htask' hcalling
    refine hrest htask' fun h => ?_
    rw [h] at hcalling
    cases hcalling
  refine ⟨?_, ?_, ?_, ?_, ?_, hs.whole, hs.drained, hs.sofar, ?_, ?_⟩
  · intro id' hentry
    by_cases hid : id' = id
    · subst hid
      exact ⟨_, htasks.2 (Or.inl ⟨rfl, rfl, rfl⟩), fun h => absurd rfl h⟩
    · obtain ⟨task', htask', hcurrent⟩ := hs.current id' hentry
      exact ⟨task', htasks.2 (Or.inr ⟨hid, htask'⟩), hcurrent⟩
  · intro id' task' htask' hphase
    obtain ⟨-, hold⟩ := hrest htask' hphase
    exact (hs.live id' task' hold hphase).imp_right fun h => ⟨h.entry, h.queue, h.doomed⟩
  · intro hstopped id' task' htask' hphase
    exact hs.stopping hstopped id' task' (hrest htask' hphase).2 hphase
  · intro hrunning
    refine ⟨fun h => absurd h (hmarks hrunning), ?_⟩
    rintro ⟨id', task', htask', hcalling⟩
    obtain ⟨hid, hold⟩ := hsilent htask' hcalling
    -- the task in a callback is the one in the tables, and every other one has ended
    have hentry := hs.entry_of_calling hrunning hold hcalling
    exact absurd (hs.others hentry htask fun h => hid h.symm) hlive
  · intro id₁ id₂ task₁ task₂ h₁ h₂ hcalling₁ hcalling₂
    exact hs.single id₁ id₂ task₁ task₂ (hsilent h₁ hcalling₁).2 (hsilent h₂ hcalling₂).2 hcalling₁
      hcalling₂
  · intro id' task' addr event htask' hphase
    have hcalling : task'.phase.isCalling = true := by
      rw [hphase]
      rfl
    exact hs.last id' task' addr event (hsilent htask' hcalling).2 hphase
  · exact fun hnew => absurd (hs.known htask) hnew

omit [DecidableEq Addr] in
theorem sameLane_finish {marks : Finset Conn} (htask : s.TaskOf c id task) (hne : c' ≠ c)
    (hmarks : c' ∈ marks ↔ c' ∈ s.callbacksRunning) : SameLane c' s (s.finish id task marks) :=
  { SameLane.refl c' s with
    calling := hmarks
    tasks := taskOf_set_ne htask { task with phase := .done, cancelling := false } htask.2 rfl hne }

theorem Sound.finish {marks : Finset Conn} (hs : s.Sound) (htask : s.TaskOf c id task)
    (hlive : task.phase ≠ .done) (hmarks : s.running = true → c ∉ marks)
    (hother : ∀ c' ≠ c, c' ∈ marks ↔ c' ∈ s.callbacksRunning) :
    (s.finish id task marks).Sound :=
  hs.of_lane c (hs.consistent.congr rfl) hs.owned ((hs.lane c).finish htask hlive hmarks)
    fun c' hc => sameLane_finish htask hc (hother c' hc)

/-- The entries of a connection leave the tables of tasks and queues. -/
def clear (s : QuicServer Addr Conn) (c : Conn) : QuicServer Addr Conn :=
  { s with
      connectionQueues := s.connectionQueues.erase c
      connectionTasks := s.connectionTasks.erase c }

omit [DecidableEq Addr] in
theorem sameLane_clear (hne : c' ≠ c) : SameLane c' s (s.clear c) :=
  { SameLane.refl c' s with
    entry := AList.lookup_erase_ne hne
    queue := AList.lookup_erase_ne hne }

omit [DecidableEq Addr] in
theorem Lane.clear {queue : Nat} (hs : s.Lane c) (hidle : s.Idle c)
    (hqueue : s.connectionQueues.lookup c = some queue) (hempty : s.queues[queue]? = some [])
    (hknown : c ∈ s.accepted) : (s.clear c).Lane c := by
  obtain ⟨entries, hentries, hwhole⟩ := hs.whole queue hqueue
  cases hempty.symm.trans hentries
  rw [List.map_nil, List.append_nil] at hwhole
  have hentry : (s.clear c).connectionTasks.lookup c = none := AList.lookup_erase _ _
  have hnone : (s.clear c).connectionQueues.lookup c = none := AList.lookup_erase _ _
  refine ⟨?_, ?_, hs.stopping, hs.marked, hs.single, ?_, fun _ _ _ => hwhole, hs.sofar, hs.last,
    fun hnew => absurd hknown hnew⟩
  · intro id hid
    cases hentry.symm.trans hid
  · exact fun id task htask hphase => absurd (hidle id task htask) hphase
  · intro other hother
    cases hnone.symm.trans hother

theorem Sound.clear {queue : Nat} (hs : s.Sound) (hidle : s.Idle c)
    (hqueue : s.connectionQueues.lookup c = some queue) (hempty : s.queues[queue]? = some [])
    (hknown : c ∈ s.accepted) : (s.clear c).Sound := by
  refine hs.of_lane c (hs.consistent.congr rfl) ?_ ((hs.lane c).clear hidle hqueue hempty hknown)
    fun _ hc => sameLane_clear hc
  intro a b other ha hb
  exact hs.owned a b other (Dict.lookup_erase_iff.1 ha).2 (Dict.lookup_erase_iff.1 hb).2

omit [DecidableEq Addr] in
/-- What `finally` does: a task in the tables clears them where its queue is empty. -/
theorem leave_eq (hs : s.Lane c) (htask : s.TaskOf c id task) (hlive : task.phase ≠ .done)
    (marks : Finset Conn) :
    let s' := { s with callbacksRunning := marks }.leave id task
    s.connectionTasks.lookup c = some id ∧ s.queues[task.queue]? = some [] ∧
        s' = (s.finish id task marks).clear c ∨
      (s.connectionTasks.lookup c = some id → s.queues[task.queue]? ≠ some []) ∧
        s' = s.finish id task marks := by
  obtain ⟨hget, rfl⟩ := htask
  have htask : s.TaskOf task.connection id task := ⟨hget, rfl⟩
  rcases hs.live id task htask hlive with hentry | horphan
  · obtain ⟨task', htask', hcurrent⟩ := hs.current id hentry
    cases htask.1.symm.trans htask'.1
    obtain ⟨hqueue, -⟩ := hcurrent hlive
    obtain ⟨entries, hentries, -⟩ := hs.whole _ hqueue
    cases entries with
    | nil =>
        refine Or.inl ⟨hentry, hentries, ?_⟩
        simp [leave, QuicServer.finish, QuicServer.clear, hentry, hqueue, hentries]
    | cons entry entries =>
        refine Or.inr ⟨fun _ => ?_, ?_⟩
        · rw [hentries]
          simp
        · simp [leave, QuicServer.finish, hentries]
  · refine Or.inr ⟨fun hentry => ?_, ?_⟩
    · exact absurd (horphan.entry.symm.trans hentry) (by simp)
    · simp [leave, QuicServer.finish, horphan.entry, horphan.queue]

theorem Sound.leave {marks : Finset Conn} (hs : s.Sound) (htask : s.TaskOf c id task)
    (hlive : task.phase ≠ .done) (hmarks : s.running = true → c ∉ marks)
    (hother : ∀ c' ≠ c, c' ∈ marks ↔ c' ∈ s.callbacksRunning) :
    ({ s with callbacksRunning := marks }.leave id task).Sound := by
  have hfinished := hs.finish htask hlive hmarks hother
  rcases leave_eq (hs.lane c) htask hlive marks with ⟨hentry, hempty, heq⟩ | ⟨-, heq⟩
  · rw [heq]
    obtain ⟨task', htask', hcurrent⟩ := (hs.lane c).current id hentry
    cases htask.1.symm.trans htask'.1
    obtain ⟨hqueue, -⟩ := hcurrent hlive
    exact hfinished.clear ((hs.lane c).idle_finish htask hentry) hqueue hempty
      ((hs.lane c).known htask)
  · rw [heq]
    exact hfinished

/-- The task waits for its queue. -/
def await (s : QuicServer Addr Conn) (id : Nat) (task : Task Addr Conn) (marks : Finset Conn) :
    QuicServer Addr Conn :=
  { s with
      callbacksRunning := marks
      tasks := s.tasks.set id { task with phase := .waiting, cancelling := false } }

/-- The task takes an event and calls back. -/
def dispatch (s : QuicServer Addr Conn) (id : Nat) (task : Task Addr Conn) (marks : Finset Conn)
    (addr : Addr) (event : QuicEvent) (entries : List (Addr × QuicEvent)) : QuicServer Addr Conn :=
  { s with
      queues := s.queues.set task.queue entries
      callbacksRunning := insert task.connection marks
      tasks := s.tasks.set id { task with phase := .calling addr event, cancelling := false }
      delivered := s.delivered ++ [(task.connection, event)] }

omit [DecidableEq Addr] in
/-- What the head of the loop does: it waits on an empty queue, else it takes the front. -/
theorem fetch_cases (hs : s.Lane c) (htask : s.TaskOf c id task) (hlive : task.phase ≠ .done)
    (hentry : s.connectionTasks.lookup c = some id) (marks : Finset Conn) :
    let s' := { s with callbacksRunning := marks }.fetch id task
    s.queues[task.queue]? = some [] ∧ s' = s.await id task marks ∨
      ∃ queuedAddr event entries, s.queues[task.queue]? = some ((queuedAddr, event) :: entries) ∧
        s' = s.dispatch id task marks ((s.connAddr.lookup task.connection).getD queuedAddr) event
          entries := by
  obtain ⟨task', htask', hcurrent⟩ := hs.current id hentry
  cases htask.1.symm.trans htask'.1
  obtain ⟨entries, hentries, -⟩ := hs.whole _ (hcurrent hlive).1
  cases entries with
  | nil =>
      refine Or.inl ⟨hentries, ?_⟩
      simp [fetch, await, hentries]
  | cons entry entries =>
      refine Or.inr ⟨entry.1, entry.2, entries, hentries, ?_⟩
      simp [fetch, dispatch, hentries]

omit [DecidableEq Addr] in
theorem deliveredFor_dispatch {marks : Finset Conn} {addr : Addr} {event : QuicEvent}
    {entries : List (Addr × QuicEvent)} :
    (s.dispatch id task marks addr event entries).deliveredFor c =
      s.deliveredFor c ++ if task.connection = c then [event] else [] := by
  unfold deliveredFor dispatch
  dsimp only
  rw [List.filter_append, List.map_append]
  split_ifs with h <;> simp [h]

/-- What a task in the tables becomes, the connection has no other that is alive. -/
theorem taskOf_turn (hs : s.Lane c) (htask : s.TaskOf c id task)
    (hentry : s.connectionTasks.lookup c = some id) (new : Task Addr Conn)
    (hnew : new.connection = c) (htasks : s'.tasks = s.tasks.set id new) {id' : Nat}
    {task' : Task Addr Conn} (htask' : s'.TaskOf c id' task') (hlive : task'.phase ≠ .done) :
    id' = id ∧ task' = new := by
  rcases (taskOf_set htask new hnew htasks).1 htask' with ⟨hid, -, heq⟩ | ⟨hid, hold⟩
  · exact ⟨hid, heq⟩
  · exact absurd (hs.others hentry hold hid) hlive

omit [DecidableEq Addr] in
theorem Phase.ne_done_of_isCalling {phase : Phase Addr} (h : phase.isCalling = true) :
    phase ≠ .done := by
  rintro rfl
  cases h

theorem Lane.await {marks : Finset Conn} (hs : s.Lane c) (htask : s.TaskOf c id task)
    (hlive : task.phase ≠ .done) (hrunning : s.running = true)
    (hentry : s.connectionTasks.lookup c = some id) (hmarks : c ∉ marks) :
    (s.await id task marks).Lane c := by
  let new : Task Addr Conn := { task with phase := .waiting, cancelling := false }
  have hset : (s.await id task marks).tasks = s.tasks.set id new := rfl
  have hturn : ∀ {id' task'}, (s.await id task marks).TaskOf c id' task' → task'.phase ≠ .done →
      id' = id ∧ task' = new := fun {_ _} => taskOf_turn hs htask hentry new htask.2 hset
  have hself : (s.await id task marks).TaskOf c id new :=
    (taskOf_set htask new htask.2 hset).2 (Or.inl ⟨rfl, rfl, rfl⟩)
  have hsilent : ∀ {id' task'}, (s.await id task marks).TaskOf c id' task' →
      task'.phase.isCalling = true → False := by
    intro id' task' htask' hcalling
    obtain ⟨-, rfl⟩ := hturn htask' (Phase.ne_done_of_isCalling hcalling)
    cases hcalling
  obtain ⟨old, hold, hcurrent⟩ := hs.current id hentry
  cases htask.1.symm.trans hold.1
  have hstopped : ∀ {p : Prop}, s.running = false → p := by
    intro p h
    rw [hrunning] at h
    cases h
  refine ⟨?_, ?_, fun h => hstopped h, ?_, ?_, hs.whole, hs.drained, hs.sofar, ?_, ?_⟩
  · intro id' hid
    cases hentry.symm.trans hid
    exact ⟨new, hself, fun _ => ⟨(hcurrent hlive).1, fun _ => rfl⟩⟩
  · intro id' task' htask' hphase
    obtain ⟨rfl, -⟩ := hturn htask' hphase
    exact Or.inl hentry
  · intro _
    refine ⟨fun h => absurd h hmarks, ?_⟩
    rintro ⟨id', task', htask', hcalling⟩
    exact (hsilent htask' hcalling).elim
  · intro id₁ _ task₁ _ h₁ _ hcalling
    exact (hsilent h₁ hcalling).elim
  · intro id' task' addr event htask' hphase
    refine (hsilent htask' ?_).elim
    rw [hphase]
    rfl
  · exact fun hnew => absurd (hs.known htask) hnew

theorem Lane.dispatch {marks : Finset Conn} {queuedAddr addr : Addr} {event : QuicEvent}
    {entries : List (Addr × QuicEvent)} (hs : s.Lane c) (htask : s.TaskOf c id task)
    (hlive : task.phase ≠ .done) (hrunning : s.running = true)
    (hentry : s.connectionTasks.lookup c = some id)
    (hfront : s.queues[task.queue]? = some ((queuedAddr, event) :: entries)) :
    (s.dispatch id task marks addr event entries).Lane c := by
  let new : Task Addr Conn := { task with phase := .calling addr event, cancelling := false }
  have hset : (s.dispatch id task marks addr event entries).tasks = s.tasks.set id new := rfl
  have hturn : ∀ {id' task'}, (s.dispatch id task marks addr event entries).TaskOf c id' task' →
      task'.phase ≠ .done → id' = id ∧ task' = new :=
    fun {_ _} => taskOf_turn hs htask hentry new htask.2 hset
  have hself : (s.dispatch id task marks addr event entries).TaskOf c id new :=
    (taskOf_set htask new htask.2 hset).2 (Or.inl ⟨rfl, rfl, rfl⟩)
  obtain ⟨old, hold, hcurrent⟩ := hs.current id hentry
  cases htask.1.symm.trans hold.1
  have hqueue := (hcurrent hlive).1
  obtain ⟨front, hfront', hwhole⟩ := hs.whole _ hqueue
  cases hfront.symm.trans hfront'
  obtain ⟨hlt, -⟩ := List.getElem?_eq_some_iff.1 hfront
  have hdelivered : (s.dispatch id task marks addr event entries).deliveredFor c =
      s.deliveredFor c ++ [event] := by
    rw [deliveredFor_dispatch, if_pos htask.2]
  have hrest : (s.deliveredFor c ++ [event]) ++ entries.map Prod.snd = s.producedFor c := by
    rw [← hwhole, List.append_assoc]
    rfl
  refine ⟨?_, ?_, ?_, ?_, ?_, ?_, ?_, ?_, ?_, ?_⟩
  · intro id' hid
    cases hentry.symm.trans hid
    exact ⟨new, hself, fun _ => ⟨hqueue, fun _ => rfl⟩⟩
  · intro id' task' htask' hphase
    obtain ⟨rfl, -⟩ := hturn htask' hphase
    exact Or.inl hentry
  · intro hstopped
    have hstopped : s.running = false := hstopped
    rw [hrunning] at hstopped
    cases hstopped
  · intro _
    refine ⟨fun _ => ⟨id, new, hself, rfl⟩, fun _ => ?_⟩
    have hmem : task.connection ∈ insert task.connection marks := Finset.mem_insert_self _ _
    rw [htask.2] at hmem
    unfold QuicServer.dispatch
    dsimp only
    rw [htask.2]
    exact hmem
  · intro id₁ id₂ task₁ task₂ h₁ h₂ hcalling₁ hcalling₂
    rw [(hturn h₁ (Phase.ne_done_of_isCalling hcalling₁)).1,
      (hturn h₂ (Phase.ne_done_of_isCalling hcalling₂)).1]
  · intro other hother
    cases hqueue.symm.trans hother
    refine ⟨entries, ?_, ?_⟩
    · exact List.getElem?_set_self hlt
    · rw [hdelivered]
      exact hrest
  · intro _ _ hnone
    cases hqueue.symm.trans hnone
  · rw [hdelivered]
    exact ⟨entries.map Prod.snd, hrest⟩
  · intro id' task' addr' event' htask' hphase
    have hne : task'.phase ≠ .done := by
      rw [hphase]
      simp
    obtain ⟨-, rfl⟩ := hturn htask' hne
    cases hphase
    exact ⟨_, hdelivered⟩
  · exact fun hnew => absurd (hs.known htask) hnew

omit [DecidableEq Addr] in
theorem sameLane_await {marks : Finset Conn} (htask : s.TaskOf c id task) (hne : c' ≠ c)
    (hmarks : c' ∈ marks ↔ c' ∈ s.callbacksRunning) : SameLane c' s (s.await id task marks) :=
  { SameLane.refl c' s with
    calling := hmarks
    tasks :=
      taskOf_set_ne htask { task with phase := .waiting, cancelling := false } htask.2 rfl hne }

omit [DecidableEq Addr] in
theorem sameLane_dispatch {marks : Finset Conn} {addr : Addr} {event : QuicEvent}
    {entries : List (Addr × QuicEvent)} (htask : s.TaskOf c id task) (hne : c' ≠ c)
    (hmarks : c' ∈ marks ↔ c' ∈ s.callbacksRunning)
    (hother : s.connectionQueues.lookup c' ≠ some task.queue) :
    SameLane c' s (s.dispatch id task marks addr event entries) :=
  { SameLane.refl c' s with
    contents := by
      intro queue hqueue
      have hqueues : task.queue ≠ queue := by
        rintro rfl
        exact hother hqueue
      exact List.getElem?_set_ne hqueues
    calling := by
      have hself : c' ≠ task.connection := by
        rw [htask.2]
        exact hne
      unfold dispatch
      dsimp only
      rw [Finset.mem_insert, or_iff_right hself]
      exact hmarks
    tasks := taskOf_set_ne htask { task with phase := .calling addr event, cancelling := false }
      htask.2 rfl hne
    delivered := by
      have hself : task.connection ≠ c' := by
        rw [htask.2]
        exact hne.symm
      rw [deliveredFor_dispatch, if_neg hself, List.append_nil] }

theorem Sound.fetch {marks : Finset Conn} (hs : s.Sound) (htask : s.TaskOf c id task)
    (hlive : task.phase ≠ .done) (hrunning : s.running = true)
    (hentry : s.connectionTasks.lookup c = some id) (hmarks : c ∉ marks)
    (hother : ∀ c' ≠ c, c' ∈ marks ↔ c' ∈ s.callbacksRunning) :
    ({ s with callbacksRunning := marks }.fetch id task).Sound := by
  rcases fetch_cases (hs.lane c) htask hlive hentry marks with
    ⟨-, heq⟩ | ⟨queuedAddr, event, entries, hfront, heq⟩
  · rw [heq]
    exact hs.of_lane c (hs.consistent.congr rfl) hs.owned
      ((hs.lane c).await htask hlive hrunning hentry hmarks)
      fun c' hc => sameLane_await htask hc (hother c' hc)
  · rw [heq]
    obtain ⟨task', htask', hcurrent⟩ := (hs.lane c).current id hentry
    cases htask.1.symm.trans htask'.1
    obtain ⟨hqueue, -⟩ := hcurrent hlive
    refine hs.of_lane c (hs.consistent.congr rfl) hs.owned
      ((hs.lane c).dispatch htask hlive hrunning hentry hfront) fun c' hc => ?_
    exact sameLane_dispatch htask hc (hother c' hc) fun h => hc (hs.owned _ _ _ h hqueue)

omit [DecidableEq Addr] in
theorem TaskOf.mem_erase_iff (htask : s.TaskOf c id task) (hne : c' ≠ c) :
    c' ∈ s.callbacksRunning.erase task.connection ↔ c' ∈ s.callbacksRunning := by
  have hself : c' ≠ task.connection := by
    rw [htask.2]
    exact hne
  rw [Finset.mem_erase]
  exact and_iff_right hself

/-- The loop goes on: behind a callback, or where the task is scheduled. -/
theorem Sound.resume (hs : s.Sound) (htask : s.TaskOf c id task) (hready : task.Ready s.queues) :
    (s.resume id task).Sound := by
  have hlive : task.phase ≠ .done := by
    rcases hready with h | ⟨h, -⟩ <;> simp [h]
  have hsilent : task.phase.isCalling = false := by
    rcases hready with h | ⟨h, -⟩ <;> simp [h, Phase.isCalling]
  -- a callback of the connection would be that of another task, which is in the tables
  have hmarks : s.running = true → c ∉ s.callbacksRunning := by
    intro hrunning hmem
    obtain ⟨id', task', htask', hcalling⟩ := ((hs.lane c).marked hrunning).1 hmem
    have hentry := (hs.lane c).entry_of_calling hrunning htask' hcalling
    have hid : id = id' := by
      by_contra hne
      exact hlive ((hs.lane c).others hentry htask hne)
    subst hid
    cases htask.1.symm.trans htask'.1
    rw [hsilent] at hcalling
    cases hcalling
  unfold QuicServer.resume
  split_ifs with hcancelling hcreated
  · exact hs.finish htask hlive hmarks fun _ _ => Iff.rfl
  · exact hs.leave htask hlive hmarks fun _ _ => Iff.rfl
  · have hrunning : s.running = true := by
      by_contra hstopped
      rw [Bool.not_eq_true] at hstopped
      rcases (hs.lane c).stopping hstopped id task htask hlive with h | h
      · rw [hsilent] at h
        cases h
      · exact hcancelling h
    have hentry : s.connectionTasks.lookup c = some id :=
      ((hs.lane c).live id task htask hlive).resolve_right fun h =>
        hcancelling (h.doomed hrunning).1
    exact hs.fetch htask hlive hrunning hentry (hmarks hrunning) fun _ _ => Iff.rfl

theorem Sound.callbackRaised (hs : s.Sound) (htask : s.TaskOf c id task)
    (hcalling : task.phase.isCalling = true) : (s.callbackRaised id task).Sound := by
  refine hs.leave htask (Phase.ne_done_of_isCalling hcalling) ?_
    fun c' hc => htask.mem_erase_iff hc
  intro _
  rw [htask.2]
  exact Finset.notMem_erase _ _

theorem Sound.callbackReturned (hs : s.Sound) (htask : s.TaskOf c id task)
    (hcalling : task.phase.isCalling = true) (event : QuicEvent) :
    (s.callbackReturned id task event).Sound := by
  unfold QuicServer.callbackReturned
  dsimp only
  split_ifs with hover
  · exact hs.callbackRaised htask hcalling
  · have hrunning : s.running = true := by
      rw [not_or, Bool.not_eq_false] at hover
      exact hover.2
    refine hs.fetch htask (Phase.ne_done_of_isCalling hcalling) hrunning
      ((hs.lane c).entry_of_calling hrunning htask hcalling) ?_ fun c' hc => htask.mem_erase_iff hc
    rw [htask.2]
    exact Finset.notMem_erase _ _

/-! ## Cancelled tasks -/

omit [DecidableEq Conn] in
@[simp] theorem cancel_phase : task.cancel.phase = task.phase := by
  unfold Task.cancel
  split_ifs <;> rfl

omit [DecidableEq Conn] in
@[simp] theorem cancel_queue : task.cancel.queue = task.queue := by
  unfold Task.cancel
  split_ifs <;> rfl

omit [DecidableEq Conn] in
@[simp] theorem cancel_connection : task.cancel.connection = task.connection := by
  unfold Task.cancel
  split_ifs <;> rfl

omit [DecidableEq Conn] in
theorem cancel_cancelling (hlive : task.phase ≠ .done) : task.cancel.cancelling = true := by
  unfold Task.cancel
  rw [if_neg hlive]

omit [DecidableEq Conn] in
/-- The task number `id` was cancelled. -/
theorem taskOf_cancel (htask : s.TaskOf c id task) (htasks : s'.tasks = s.tasks.modify id Task.cancel)
    {id' : Nat} {task' : Task Addr Conn} : s'.TaskOf c' id' task' ↔
      id' = id ∧ c' = c ∧ task' = task.cancel ∨ id' ≠ id ∧ s.TaskOf c' id' task' := by
  refine taskOf_set htask task.cancel (cancel_connection.trans htask.2) (htasks.trans ?_)
  apply List.ext_getElem?
  intro i
  by_cases hi : id = i
  · subst hi
    obtain ⟨hlt, hget⟩ := List.getElem?_eq_some_iff.1 htask.1
    simp [hlt, hget]
  · simp [hi]

omit [DecidableEq Conn] in
theorem taskOf_cancel_ne (htask : s.TaskOf c id task) (hne : c' ≠ c)
    (htasks : s'.tasks = s.tasks.modify id Task.cancel) (id' : Nat) (task' : Task Addr Conn) :
    s'.TaskOf c' id' task' ↔ s.TaskOf c' id' task' := by
  rw [taskOf_cancel htask htasks]
  constructor
  · rintro (⟨-, h, -⟩ | ⟨-, h⟩)
    · exact absurd h hne
    · exact h
  · intro h
    refine Or.inr ⟨?_, h⟩
    rintro rfl
    cases h.1.symm.trans htask.1
    exact hne (h.2.symm.trans htask.2)

/-- `_discard_connection`, where it is not put off. -/
def discard (s : QuicServer Addr Conn) (c : Conn) (tasks : List (Task Addr Conn)) :
    QuicServer Addr Conn :=
  { s.removeConnection c with
      tasks := tasks
      connectionTasks := s.connectionTasks.erase c
      connectionQueues := s.connectionQueues.erase c }

theorem discardConnection_cases (s : QuicServer Addr Conn) (c : Conn) :
    c ∈ s.callbacksRunning ∧ s.discardConnection c = s ∨
      c ∉ s.callbacksRunning ∧
        (s.connectionTasks.lookup c = none ∧ s.discardConnection c = s.discard c s.tasks ∨
          ∃ id, s.connectionTasks.lookup c = some id ∧
            s.discardConnection c = s.discard c (s.tasks.modify id Task.cancel)) := by
  unfold discardConnection
  split_ifs with hmarked
  · exact Or.inl ⟨hmarked, rfl⟩
  · refine Or.inr ⟨hmarked, ?_⟩
    cases hentry : s.connectionTasks.lookup c with
    | none => exact Or.inl ⟨rfl, rfl⟩
    | some id => exact Or.inr ⟨id, rfl, rfl⟩

/-- The tasks of the connection are the same, apart from cancellations. -/
structure Recast (c : Conn) (s s' : QuicServer Addr Conn) : Prop where
  old : ∀ {id task'}, s'.TaskOf c id task' → ∃ task, s.TaskOf c id task ∧
    task'.phase = task.phase ∧ task'.queue = task.queue ∧
    (task.cancelling = true → task'.cancelling = true)
  new : ∀ {id task}, s.TaskOf c id task → ∃ task', s'.TaskOf c id task' ∧
    task'.phase = task.phase ∧ task'.queue = task.queue

omit [DecidableEq Addr] [DecidableEq Conn] in
theorem Recast.refl (htasks : s'.tasks = s.tasks) : Recast c s s' := by
  have hsame : ∀ {id task}, s'.TaskOf c id task ↔ s.TaskOf c id task := by
    intro id task
    rw [TaskOf, TaskOf, htasks]
  constructor
  · exact fun {_ task'} h => ⟨task', hsame.1 h, rfl, rfl, fun hcancelling => hcancelling⟩
  · exact fun {_ task} h => ⟨task, hsame.2 h, rfl, rfl⟩

omit [DecidableEq Conn] in
theorem cancelling_cancel (h : task.cancelling = true) : task.cancel.cancelling = true := by
  unfold Task.cancel
  split_ifs
  · exact h
  · rfl

omit [DecidableEq Conn] in
theorem Recast.cancel (htask : s.TaskOf c id task)
    (htasks : s'.tasks = s.tasks.modify id Task.cancel) : Recast c s s' := by
  have htaskOf : ∀ {id' task'}, s'.TaskOf c id' task' ↔ _ := fun {_ _} => taskOf_cancel htask htasks
  constructor
  · intro id' task' htask'
    rcases htaskOf.1 htask' with ⟨rfl, -, rfl⟩ | ⟨-, hold⟩
    · exact ⟨task, htask, cancel_phase, cancel_queue, cancelling_cancel⟩
    · exact ⟨task', hold, rfl, rfl, fun h => h⟩
  · intro id' task' htask'
    by_cases hid : id' = id
    · subst hid
      cases htask.1.symm.trans htask'.1
      exact ⟨task.cancel, htaskOf.2 (Or.inl ⟨rfl, rfl, rfl⟩), cancel_phase, cancel_queue⟩
    · exact ⟨task', htaskOf.2 (Or.inr ⟨hid, htask'⟩), rfl, rfl⟩

omit [DecidableEq Addr] [DecidableEq Conn] in
theorem Recast.calling (h : Recast c s s') :
    (∃ id task, s'.TaskOf c id task ∧ task.phase.isCalling = true) ↔
      ∃ id task, s.TaskOf c id task ∧ task.phase.isCalling = true := by
  constructor
  · rintro ⟨id, task', htask', hcalling⟩
    obtain ⟨task, htask, hphase, -⟩ := h.old htask'
    rw [hphase] at hcalling
    exact ⟨id, task, htask, hcalling⟩
  · rintro ⟨id, task, htask, hcalling⟩
    obtain ⟨task', htask', hphase, -⟩ := h.new htask
    rw [← hphase] at hcalling
    exact ⟨id, task', htask', hcalling⟩

omit [DecidableEq Addr] in
/-- Cancellations leave the callbacks as they are. -/
theorem Lane.single_recast (hs : s.Lane c) (h : Recast c s s') {id₁ id₂ : Nat}
    {task₁ task₂ : Task Addr Conn} (h₁ : s'.TaskOf c id₁ task₁) (h₂ : s'.TaskOf c id₂ task₂)
    (hcalling₁ : task₁.phase.isCalling = true) (hcalling₂ : task₂.phase.isCalling = true) :
    id₁ = id₂ := by
  obtain ⟨old₁, hold₁, hphase₁, -⟩ := h.old h₁
  obtain ⟨old₂, hold₂, hphase₂, -⟩ := h.old h₂
  rw [hphase₁] at hcalling₁
  rw [hphase₂] at hcalling₂
  exact hs.single id₁ id₂ old₁ old₂ hold₁ hold₂ hcalling₁ hcalling₂

omit [DecidableEq Addr] in
theorem Lane.last_recast (hs : s.Lane c) (h : Recast c s s') {addr : Addr} {event : QuicEvent}
    (htask : s'.TaskOf c id task) (hphase : task.phase = .calling addr event) :
    ∃ before, s.deliveredFor c = before ++ [event] := by
  obtain ⟨old, hold, hsame, -⟩ := h.old htask
  exact hs.last id old addr event hold (hsame.symm.trans hphase)

omit [DecidableEq Addr] in
theorem Lane.stopping_recast (hs : s.Lane c) (h : Recast c s s') (hstopped : s.running = false)
    (htask : s'.TaskOf c id task) (hlive : task.phase ≠ .done) :
    task.phase.isCalling = true ∨ task.cancelling = true := by
  obtain ⟨old, hold, hphase, -, hkept⟩ := h.old htask
  rw [hphase] at hlive ⊢
  exact (hs.stopping hstopped id old hold hlive).imp_right hkept

/-- A discarded connection: what tasks it has are orphans now. -/
theorem Lane.discard {tasks : List (Task Addr Conn)} (hs : s.Lane c)
    (hmarked : c ∉ s.callbacksRunning) (hknown : c ∈ s.accepted)
    (hrecast : Recast c s (s.discard c tasks))
    (hcancelled : ∀ {id task}, s.connectionTasks.lookup c = some id →
      (s.discard c tasks).TaskOf c id task → task.phase ≠ .done → task.cancelling = true) :
    (s.discard c tasks).Lane c := by
  have hentry : (s.discard c tasks).connectionTasks.lookup c = none := AList.lookup_erase _ _
  have hqueue : (s.discard c tasks).connectionQueues.lookup c = none := AList.lookup_erase _ _
  have hgone : c ∉ (s.discard c tasks).connAddr := fun h => (AList.mem_erase.1 h).1 rfl
  constructor
  · intro id hid
    cases hentry.symm.trans hid
  · intro id task' htask' hlive
    refine Or.inr ⟨hentry, hqueue, fun hrunning => ?_⟩
    have hrunning : s.running = true := hrunning
    have hsilent : task'.phase.isCalling = false := by
      by_contra h
      rw [Bool.not_eq_false] at h
      exact hmarked ((hs.marked hrunning).2 (hrecast.calling.1 ⟨id, task', htask', h⟩))
    refine ⟨?_, hsilent, hgone⟩
    obtain ⟨task, htask, hphase, -, hkept⟩ := hrecast.old htask'
    rcases hs.live id task htask (hphase ▸ hlive) with h | h
    · exact hcancelled h htask' hlive
    · exact hkept (h.doomed hrunning).1
  · exact fun hstopped id task htask hlive => hs.stopping_recast hrecast hstopped htask hlive
  · exact fun hrunning => (hs.marked hrunning).trans hrecast.calling.symm
  · exact fun _ _ _ _ h₁ h₂ => hs.single_recast hrecast h₁ h₂
  · intro queue hother
    cases hqueue.symm.trans hother
  · exact fun _ hmem => absurd hmem hgone
  · exact hs.sofar
  · exact fun _ _ _ _ htask hphase => hs.last_recast hrecast htask hphase
  · exact fun hnew => absurd hknown hnew

theorem sameLane_discard {tasks : List (Task Addr Conn)} (hne : c' ≠ c)
    (htasks : ∀ id task, (s.discard c tasks).TaskOf c' id task ↔ s.TaskOf c' id task) :
    SameLane c' s (s.discard c tasks) :=
  { SameLane.refl c' s with
    entry := AList.lookup_erase_ne hne
    queue := AList.lookup_erase_ne hne
    tasks := htasks
    registered := fun h => (AList.mem_erase.1 h).2 }

theorem Sound.discardConnection (hs : s.Sound) (hmem : c ∈ s.connAddr) :
    (s.discardConnection c).Sound := by
  have hknown : c ∈ s.accepted := hs.consistent.accepted c hmem
  have hconsistent : ∀ tasks, (s.discard c tasks).Consistent := fun _ =>
    (hs.consistent.remove c).congr rfl
  have howned : ∀ tasks a b queue, (s.discard c tasks).connectionQueues.lookup a = some queue →
      (s.discard c tasks).connectionQueues.lookup b = some queue → a = b := by
    intro tasks a b queue ha hb
    exact hs.owned a b queue (Dict.lookup_erase_iff.1 ha).2 (Dict.lookup_erase_iff.1 hb).2
  rcases discardConnection_cases s c with ⟨-, heq⟩ | ⟨hmarked, ⟨hnone, heq⟩ | ⟨id, hentry, heq⟩⟩
  · rw [heq]
    exact hs
  · rw [heq]
    refine hs.of_lane c (hconsistent _) (howned _) ?_ fun c' hc => sameLane_discard hc fun _ _ => Iff.rfl
    refine (hs.lane c).discard hmarked hknown (Recast.refl rfl) ?_
    intro id task hentry
    cases hnone.symm.trans hentry
  · rw [heq]
    obtain ⟨task, htask, -⟩ := (hs.lane c).current id hentry
    have htasks : (s.discard c (s.tasks.modify id Task.cancel)).tasks =
        s.tasks.modify id Task.cancel := rfl
    refine hs.of_lane c (hconsistent _) (howned _) ?_
      fun c' hc => sameLane_discard hc (taskOf_cancel_ne htask hc htasks)
    · refine (hs.lane c).discard hmarked hknown (Recast.cancel htask htasks) ?_
      intro id' task' hentry' htask' hlive
      cases hentry.symm.trans hentry'
      rcases (taskOf_cancel htask htasks).1 htask' with ⟨-, -, rfl⟩ | ⟨hne, -⟩
      · rw [cancel_phase] at hlive
        exact cancel_cancelling hlive
      · exact absurd rfl hne

/-! ## `stop` -/

theorem getElem?_stop (caller : Option Nat) (id : Nat) : (s.stop caller).tasks[id]? =
    s.tasks[id]?.map fun task =>
      if s.connectionTasks.lookup task.connection = some id ∧ caller ≠ some id then task.cancel
      else task := by
  simp [stop]

theorem taskOf_stop {caller : Option Nat} {task' : Task Addr Conn} :
    (s.stop caller).TaskOf c id task' ↔ ∃ task, s.TaskOf c id task ∧
      task' = if s.connectionTasks.lookup c = some id ∧ caller ≠ some id then task.cancel
        else task := by
  unfold TaskOf
  rw [getElem?_stop]
  constructor
  · rintro ⟨htask', rfl⟩
    obtain ⟨task, htask, heq⟩ := Option.map_eq_some_iff.1 htask'
    have hc : task'.connection = task.connection := by
      rw [← heq]
      split_ifs <;> simp
    refine ⟨task, ⟨htask, hc.symm⟩, ?_⟩
    rw [hc]
    exact heq.symm
  · rintro ⟨task, ⟨htask, rfl⟩, rfl⟩
    constructor
    · rw [htask]
      rfl
    · split_ifs <;> simp

theorem recast_stop (caller : Option Nat) : Recast c s (s.stop caller) := by
  constructor
  · intro id task' htask'
    obtain ⟨task, htask, rfl⟩ := taskOf_stop.1 htask'
    refine ⟨task, htask, ?_⟩
    split_ifs
    · exact ⟨cancel_phase, cancel_queue, cancelling_cancel⟩
    · exact ⟨rfl, rfl, fun h => h⟩
  · intro id task htask
    refine ⟨_, taskOf_stop.2 ⟨task, htask, rfl⟩, ?_⟩
    split_ifs
    · exact ⟨cancel_phase, cancel_queue⟩
    · exact ⟨rfl, rfl⟩

theorem Lane.stop (hs : s.Lane c) {caller : Option Nat} (hcaller : ∀ id ∈ caller, s.Calling id) :
    (s.stop caller).Lane c := by
  have hrecast : Recast c s (s.stop caller) := recast_stop caller
  have hstopped : ∀ {p : Prop}, (s.stop caller).running = true → p := fun h => by cases h
  refine ⟨?_, ?_, ?_, fun h => hstopped h, fun _ _ _ _ h₁ h₂ => hs.single_recast hrecast h₁ h₂,
    hs.whole, fun h => hstopped h, hs.sofar,
    fun _ _ _ _ htask hphase => hs.last_recast hrecast htask hphase, ?_⟩
  · intro id hentry
    obtain ⟨task, htask, hcurrent⟩ := hs.current id hentry
    obtain ⟨task', htask', hphase, hqueue⟩ := hrecast.new htask
    refine ⟨task', htask', fun hlive => ⟨?_, fun h => hstopped h⟩⟩
    rw [hphase] at hlive
    rw [hqueue]
    exact (hcurrent hlive).1
  · intro id task' htask' hlive
    obtain ⟨task, htask, hphase, -⟩ := hrecast.old htask'
    rw [hphase] at hlive
    exact (hs.live id task htask hlive).imp_right fun h => ⟨h.entry, h.queue, fun h => hstopped h⟩
  · intro _ id task' htask' hlive
    obtain ⟨task, htask, rfl⟩ := taskOf_stop.1 htask'
    split_ifs at hlive ⊢ with hcancelled
    · rw [cancel_phase] at hlive
      exact Or.inr (cancel_cancelling hlive)
    · -- the task that called `stop` is in a callback, an orphan was cancelled before
      rcases hs.live id task htask hlive with hentry | horphan
      · have hself : caller = some id := by
          by_contra hne
          exact hcancelled ⟨hentry, hne⟩
        obtain ⟨old, hold, hcalling⟩ := hcaller id hself
        cases hold.symm.trans htask.1
        exact Or.inl hcalling
      · cases hrunning : s.running with
        | true => exact Or.inr (horphan.doomed hrunning).1
        | false => exact hs.stopping hrunning id task htask hlive
  · intro hnew
    obtain ⟨hentry, hqueue, htasks, hproduced⟩ := hs.fresh hnew
    refine ⟨hentry, hqueue, ?_, hproduced⟩
    intro id task' htask'
    obtain ⟨task, htask, -⟩ := hrecast.old htask'
    exact htasks id task htask

omit [DecidableEq Addr] in
theorem Lane.stopGathered (hs : s.Lane c) (hstopped : s.running = false) :
    s.stopGathered.Lane c := by
  have hrunning : ∀ {p : Prop}, s.running = true → p := by
    intro p h
    rw [hstopped] at h
    cases h
  refine ⟨fun id h => (by cases h), ?_, hs.stopping, fun h => hrunning h, hs.single,
    fun queue h => (by cases h), fun h => hrunning h, hs.sofar, hs.last, ?_⟩
  · intro id task htask hlive
    exact Or.inr ⟨rfl, rfl, fun h => hrunning h⟩
  · intro hnew
    obtain ⟨-, -, htasks, hproduced⟩ := hs.fresh hnew
    exact ⟨rfl, rfl, htasks, hproduced⟩

omit [DecidableEq Addr] in
theorem Lane.stopFinally (hs : s.Lane c) (hstopped : s.running = false) : s.stopFinally.Lane c := by
  have hrunning : ∀ {p : Prop}, s.running = true → p := by
    intro p h
    rw [hstopped] at h
    cases h
  refine ⟨hs.current, ?_, hs.stopping, fun h => hrunning h, hs.single, hs.whole,
    fun h => hrunning h, hs.sofar, hs.last, hs.fresh⟩
  intro id task htask hlive
  exact (hs.live id task htask hlive).imp_right fun h => ⟨h.entry, h.queue, fun h => hrunning h⟩

/-! ## Steps and runs -/

/-- The server was started once, and what follows in `stop` comes after its first line. -/
def Act.InService (s : QuicServer Addr Conn) : Act Addr Conn → Prop
  | .start => False
  | .stopGathered | .stopFinally => s.running = false
  | _ => True

instance (s : QuicServer Addr Conn) (a : Act Addr Conn) : Decidable (a.InService s) :=
  match a with
  | .start => inferInstanceAs (Decidable False)
  | .stopGathered | .stopFinally => inferInstanceAs (Decidable (s.running = false))
  | .datagram _ _ _ | .sweep _ _ _ _ | .refresh _ _ | .close _ | .stop _ | .resume _ | .returned _
  | .raised _ => inferInstanceAs (Decidable True)

theorem Sound.acceptDatagram (hs : s.Sound) {data : Bytes} {addr : Addr}
    {accept : Option (Accepted Conn)} (hfree : s.connections.lookup addr = none)
    (hnew : ∀ fresh ∈ accept, fresh.connection ∉ s.accepted) :
    (s.acceptDatagram data addr accept).1.Sound := by
  unfold QuicServer.acceptDatagram
  split_ifs
  · exact hs
  · cases accept with
    | none => exact hs
    | some fresh =>
        have haccepted := hs.accept data (hnew fresh rfl) hfree
        exact haccepted.enqueue (mem_connAddr_accept.2 (Or.inl rfl)) _ _

theorem Sound.datagram (hs : s.Sound) {data : Bytes} {addr : Addr} {low : Reception Conn}
    (hlow : low.Possible data s.accepted) : (s.handleDatagram data addr low).1.Sound := by
  have hnew : ∀ fresh ∈ low.accept, fresh.connection ∉ s.accepted := fun fresh h =>
    (hlow.2.2.1 fresh h).1
  unfold handleDatagram
  cases hlookup : s.connections.lookup addr with
  | some connection =>
      have hrefreshed := (hs.receive connection data).refresh connection low.scids
      refine hrefreshed.enqueue ?_ _ _
      rw [connAddr_refreshDcidIndex]
      exact hs.consistent.registered hlookup
  | none =>
      cases hcandidate : s.dcids.candidate data with
      | none => exact hs.acceptDatagram hlookup hnew
      | some other =>
          obtain ⟨hshort, -, hindex⟩ := DcidIndex.candidate_eq_some hcandidate
          have hknown : other ∈ s.connAddr := hs.consistent.dcids.indexed hindex
          have hreceived := hs.receive other data
          have hnone : low.accept = none := hlow.2.2.2 hshort
          cases hresult : low.result with
          | accepted =>
              have hrekeyed := hreceived.rekey addr hknown hlookup
              refine (hrekeyed.refresh other low.scids).enqueue ?_ _ _
              rw [connAddr_refreshDcidIndex]
              exact mem_connAddr_rekey hknown
          | closed =>
              have henqueued := hreceived.enqueue hknown ((s.connAddr.lookup other).getD addr)
                low.events
              dsimp only
              rw [hnone]
              unfold QuicServer.acceptDatagram
              split_ifs <;> exact henqueued
          | discarded => exact hreceived.acceptDatagram hlookup hnew

theorem Sound.sweep (hs : s.Sound) (c : Conn) (scids : List Bytes) (events : List QuicEvent)
    (isClosed : Bool) : (s.sweep c scids events isClosed).Sound := by
  have hrefreshed := hs.refresh c scids
  unfold QuicServer.sweep
  dsimp only
  cases hlookup : (s.refreshDcidIndex c scids).connAddr.lookup c with
  | none => exact hrefreshed
  | some addr =>
      have henqueued := hrefreshed.enqueue (Dict.mem_of_lookup hlookup) addr events
      dsimp only
      split_ifs with hclosed
      · exact henqueued.discardConnection hclosed.2
      · exact henqueued

theorem Sound.act (hs : s.Sound) {a : Act Addr Conn} (ha : a.Possible s) (hservice : a.InService s) :
    (s.act a).Sound := by
  have hconsistent := hs.consistent.act ha
  cases a with
  | start => exact hservice.elim
  | datagram data addr low => exact hs.datagram ha
  | sweep c scids events isClosed => exact hs.sweep c scids events isClosed
  | refresh c scids => exact hs.refresh c scids
  | close c =>
      have honly : TablesOnly s (s.act (.close c)) := ⟨rfl, rfl, rfl, rfl, rfl, rfl, rfl, rfl⟩
      exact hs.tables honly hconsistent fun _ => honly.sameLane _ (fun h => h) fun h => h
  | stop caller => exact ⟨hconsistent, hs.owned, fun c => (hs.lane c).stop ha⟩
  | stopGathered =>
      exact ⟨hconsistent, fun _ _ _ h => (by cases h), fun c => (hs.lane c).stopGathered hservice⟩
  | stopFinally => exact ⟨hconsistent, hs.owned, fun c => (hs.lane c).stopFinally hservice⟩
  | resume id =>
      obtain ⟨task, htask, hready⟩ := ha
      simp only [QuicServer.act, show s.tasks[id]? = some task from htask]
      exact hs.resume ⟨htask, rfl⟩ hready
  | returned id =>
      obtain ⟨task, htask, hcalling⟩ := ha
      simp only [QuicServer.act, show s.tasks[id]? = some task from htask]
      cases hphase : task.phase with
      | calling addr event => exact hs.callbackReturned ⟨htask, rfl⟩ hcalling event
      | created | waiting | done => exact hs
  | raised id =>
      obtain ⟨task, htask, hcalling⟩ := ha
      simp only [QuicServer.act, show s.tasks[id]? = some task from htask]
      exact hs.callbackRaised ⟨htask, rfl⟩ hcalling

/-- The server behind `start`. -/
def started : QuicServer Addr Conn := { running := true }

theorem sound_started : Sound (started : QuicServer Addr Conn) := by
  refine ⟨consistent_empty true, fun _ _ _ h => (by cases h), fun c => ?_⟩
  have hnone : ∀ id task, ¬(started : QuicServer Addr Conn).TaskOf c id task := by
    rintro id task ⟨h, -⟩
    simp [started] at h
  refine ⟨fun _ h => (by cases h), fun id task h => absurd h (hnone id task),
    fun _ id task h => absurd h (hnone id task), ?_, fun id _ task _ h => absurd h (hnone id task),
    fun _ h => (by cases h), fun _ _ _ => rfl, List.prefix_refl _,
    fun id task _ _ h => absurd h (hnone id task), fun _ => ⟨rfl, rfl, hnone, rfl⟩⟩
  intro _
  refine ⟨fun h => absurd h (Finset.notMem_empty c), ?_⟩
  rintro ⟨id, task, htask, -⟩
  exact absurd htask (hnone id task)

/-- A step of a server in service. -/
def Serves (s : QuicServer Addr Conn) (a : Act Addr Conn) (s' : QuicServer Addr Conn) : Prop :=
  Takes s a s' ∧ a.InService s

theorem Sound.run {acts : List (Act Addr Conn)} (h : Path Serves s acts s') (hs : s.Sound) :
    s'.Sound := by
  refine Path.invariant Sound ?_ h hs
  rintro a b l ha ⟨⟨hpossible, rfl⟩, hservice⟩
  exact ha.act hpossible hservice

end QuicServer

end Server
end WebTransport
