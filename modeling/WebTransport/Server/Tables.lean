import WebTransport.Server.Quic

/-!
# Server.Tables — the routing tables of the QUIC server

* `Registry`   : the tables, with the connections ever accepted; the tasks never touch them;
* `Consistent` : `_connections` and `_conn_addr` are inverse, and the index knows registered
  connections only;
* one lemma for each operation, `Consistent.act` for a step, and the runs.
-/

namespace WebTransport
namespace Server

open Quic

namespace QuicServer

variable {Addr Conn : Type} [DecidableEq Addr] [DecidableEq Conn]

/-! ## What the tables depend on -/

/-- The routing tables. -/
structure Registry (Addr Conn : Type) where
  connections : Dict Addr Conn
  connAddr : Dict Conn Addr
  dcids : DcidIndex Conn
  accepted : List Conn

def registry (s : QuicServer Addr Conn) : Registry Addr Conn :=
  ⟨s.connections, s.connAddr, s.dcids, s.accepted⟩

variable {s s' : QuicServer Addr Conn} {connection : Conn} {addr : Addr} {data : Bytes}
  {id : Nat} {task : Task Addr Conn}

omit [DecidableEq Addr] [DecidableEq Conn] in
@[simp] theorem registry_receive : (s.receive connection data).registry = s.registry := rfl

@[simp] theorem registry_ensureConnectionTask :
    (s.ensureConnectionTask connection).registry = s.registry := by
  unfold ensureConnectionTask
  split_ifs
  · rfl
  · rfl
  · unfold ensureQueue
    cases s.connectionQueues.lookup connection <;> rfl

omit [DecidableEq Addr] in
@[simp] theorem registry_fetch : (s.fetch id task).registry = s.registry := by
  unfold fetch
  split <;> rfl

omit [DecidableEq Addr] in
@[simp] theorem registry_leave : (s.leave id task).registry = s.registry := by
  unfold leave
  dsimp only
  split_ifs <;> rfl

@[simp] theorem registry_resume : (s.resume id task).registry = s.registry := by
  unfold resume
  split_ifs
  · rfl
  · exact registry_leave
  · exact registry_fetch

omit [DecidableEq Addr] in
@[simp] theorem registry_callbackReturned {event : QuicEvent} :
    (s.callbackReturned id task event).registry = s.registry := by
  unfold callbackReturned
  dsimp only
  split_ifs
  · exact registry_leave
  · exact registry_fetch

omit [DecidableEq Addr] in
@[simp] theorem registry_callbackRaised : (s.callbackRaised id task).registry = s.registry :=
  registry_leave

/-- A step of a task leaves the tables alone. -/
theorem registry_task (id : Nat) (a : Act Addr Conn)
    (h : a = .resume id ∨ a = .returned id ∨ a = .raised id) :
    (s.act a).registry = s.registry := by
  rcases h with rfl | rfl | rfl
  · simp only [act]
    cases s.tasks[id]? with
    | none => rfl
    | some task => exact registry_resume
  · simp only [act]
    cases s.tasks[id]? with
    | none => rfl
    | some task =>
        dsimp only
        cases task.phase with
        | calling _ event => exact registry_callbackReturned
        | created => rfl
        | waiting => rfl
        | done => rfl
  · simp only [act]
    cases s.tasks[id]? with
    | none => rfl
    | some task => exact registry_callbackRaised

/-! ## Consistent tables -/

/-- `_connections` and `_conn_addr` are inverse, what the index knows is registered, and an index
entry is among the ids of its connection. -/
structure Consistent (s : QuicServer Addr Conn) : Prop where
  inverse : ∀ addr connection,
    s.connections.lookup addr = some connection ↔ s.connAddr.lookup connection = some addr
  known : ∀ connection ∈ s.dcids.connDcids, connection ∈ s.connAddr
  backed : s.dcids.Backed
  accepted : ∀ connection ∈ s.connAddr, connection ∈ s.accepted

theorem Consistent.congr (hs : s.Consistent) (h : s'.registry = s.registry) : s'.Consistent := by
  simp only [registry, Registry.mk.injEq] at h
  obtain ⟨hconnections, hconnAddr, hdcids, haccepted⟩ := h
  constructor
  · rw [hconnections, hconnAddr]
    exact hs.inverse
  · rw [hdcids, hconnAddr]
    exact hs.known
  · rw [hdcids]
    exact hs.backed
  · rw [hconnAddr, haccepted]
    exact hs.accepted

theorem Consistent.dcids (hs : s.Consistent) : s.dcids.Registered (· ∈ s.connAddr) :=
  hs.backed.registered hs.known

theorem Consistent.registered (hs : s.Consistent)
    (h : s.connections.lookup addr = some connection) : connection ∈ s.connAddr :=
  Dict.mem_of_lookup ((hs.inverse _ _).1 h)

theorem Consistent.lookup_forgetAddress (hs : s.Consistent) {other : Conn} :
    (s.forgetAddress connection).lookup addr = some other ↔
      other ≠ connection ∧ s.connections.lookup addr = some other := by
  unfold forgetAddress
  cases hknown : s.connAddr.lookup connection with
  | none =>
      refine ⟨fun h => ⟨?_, h⟩, fun h => h.2⟩
      rintro rfl
      rw [(hs.inverse _ _).1 h] at hknown
      cases hknown
  | some known =>
      have hback : s.connections.lookup known = some connection := (hs.inverse _ _).2 hknown
      dsimp only
      rw [if_pos hback, Dict.lookup_erase_iff]
      refine and_congr_left fun h => ?_
      constructor
      · rintro hne rfl
        rw [(hs.inverse _ _).1 h] at hknown
        exact hne (Option.some.inj hknown)
      · rintro hne rfl
        rw [h] at hback
        exact hne (Option.some.inj hback)

theorem consistent_empty (running : Bool) :
    Consistent ({ running := running } : QuicServer Addr Conn) := by
  constructor
  · intro addr connection
    exact ⟨fun h => (by cases h), fun h => (by cases h)⟩
  · intro connection h
    cases h
  · exact DcidIndex.backed_empty
  · intro connection h
    cases h

/-! ## The operations -/

theorem Consistent.refresh (hs : s.Consistent) (connection : Conn) (scids : List Bytes) :
    (s.refreshDcidIndex connection scids).Consistent := by
  unfold refreshDcidIndex
  split_ifs with hmem
  · refine ⟨hs.inverse, ?_, hs.backed.refresh _ _, hs.accepted⟩
    intro other hother
    rcases DcidIndex.mem_connDcids_refresh.1 hother with rfl | hother
    · exact hmem
    · exact hs.known _ hother
  · exact hs

theorem Consistent.remove (hs : s.Consistent) (connection : Conn) :
    (s.removeConnection connection).Consistent := by
  constructor
  · intro addr other
    simp only [removeConnection]
    rw [hs.lookup_forgetAddress, Dict.lookup_erase_iff, hs.inverse]
  · intro other hother
    have hold := DcidIndex.mem_connDcids_drop.1 hother
    exact AList.mem_erase.2 ⟨hold.1, hs.known _ hold.2⟩
  · exact hs.backed.drop _
  · intro other hother
    exact hs.accepted _ (AList.mem_erase.1 hother).2

theorem Consistent.rekey (hs : s.Consistent) (addr : Addr) (hknown : connection ∈ s.connAddr)
    (hfree : s.connections.lookup addr = none) : (s.rekey connection addr).Consistent := by
  unfold QuicServer.rekey
  split_ifs with hsame
  · exact hs
  · constructor
    · intro other known
      simp only [Dict.lookup_insert_iff, hs.lookup_forgetAddress]
      constructor
      · rintro (⟨rfl, rfl⟩ | ⟨hother, hknown, hlookup⟩)
        · exact Or.inl ⟨rfl, rfl⟩
        · exact Or.inr ⟨hknown, (hs.inverse _ _).1 hlookup⟩
      · rintro (⟨rfl, rfl⟩ | ⟨hother, hlookup⟩)
        · exact Or.inl ⟨rfl, rfl⟩
        · have hback := (hs.inverse _ _).2 hlookup
          refine Or.inr ⟨?_, hother, hback⟩
          rintro rfl
          rw [hfree] at hback
          cases hback
    · intro other hother
      exact (AList.mem_insert _).2 (Or.inr (hs.known _ hother))
    · exact hs.backed
    · intro other hother
      rcases (AList.mem_insert _).1 hother with rfl | hother
      · exact hs.accepted _ hknown
      · exact hs.accepted _ hother

theorem Consistent.accept (hs : s.Consistent) {accept : Accepted Conn}
    (hnew : accept.connection ∉ s.accepted) (hfree : s.connections.lookup addr = none) :
    (s.acceptConnection addr data accept).Consistent := by
  have hunknown : accept.connection ∉ s.connAddr := fun h => hnew (hs.accepted _ h)
  refine Consistent.refresh ?_ _ _
  constructor
  · intro other known
    simp only [receive, Dict.lookup_insert_iff]
    constructor
    · rintro (⟨rfl, rfl⟩ | ⟨hother, hlookup⟩)
      · exact Or.inl ⟨rfl, rfl⟩
      · refine Or.inr ⟨?_, (hs.inverse _ _).1 hlookup⟩
        rintro rfl
        exact hunknown (hs.registered hlookup)
    · rintro (⟨rfl, rfl⟩ | ⟨hother, hlookup⟩)
      · exact Or.inl ⟨rfl, rfl⟩
      · have hback := (hs.inverse _ _).2 hlookup
        refine Or.inr ⟨?_, hback⟩
        rintro rfl
        rw [hfree] at hback
        cases hback
  · intro other hother
    exact (AList.mem_insert _).2 (Or.inr (hs.known _ hother))
  · exact hs.backed
  · intro other hother
    simp only [receive, List.mem_append, List.mem_singleton]
    rcases (AList.mem_insert _).1 hother with rfl | hother
    · exact Or.inr rfl
    · exact Or.inl (hs.accepted _ hother)

/-- What the removal of a connection keeps, `_enqueue_connection_events` keeps. -/
theorem enqueue_induction (P : QuicServer Addr Conn → Prop)
    (hcongr : ∀ {a b : QuicServer Addr Conn}, b.registry = a.registry → P a → P b)
    (hremove : ∀ {a : QuicServer Addr Conn}, P a → P (a.removeConnection connection))
    (hs : P s) (addr : Addr) (events : List QuicEvent) :
    P (s.enqueueConnectionEvents addr connection events) := by
  have hput : ∀ (queue : Nat) (events : List QuicEvent) (a : QuicServer Addr Conn), P a →
      P (events.foldl (putEvent connection addr queue) a) := by
    intro queue events
    induction events with
    | nil =>
        intro a ha
        exact ha
    | cons event events ih =>
        intro a ha
        apply ih
        unfold putEvent
        dsimp only
        split_ifs
        · exact hremove (hcongr (by rfl) ha)
        · exact hcongr (by rfl) ha
  have hensure : P (s.ensureConnectionTask connection) := hcongr registry_ensureConnectionTask hs
  unfold enqueueConnectionEvents
  dsimp only
  cases (s.ensureConnectionTask connection).connectionQueues.lookup connection with
  | none => exact hensure
  | some queue => exact hput queue events _ hensure

theorem Consistent.enqueue (hs : s.Consistent) (connection : Conn) (addr : Addr)
    (events : List QuicEvent) :
    (s.enqueueConnectionEvents addr connection events).Consistent :=
  enqueue_induction Consistent (fun h ha => ha.congr h) (fun ha => ha.remove _) hs addr events

theorem registry_discardConnection (s : QuicServer Addr Conn) (connection : Conn) :
    (s.discardConnection connection).registry = s.registry ∨
      (s.discardConnection connection).registry = (s.removeConnection connection).registry := by
  unfold discardConnection
  split_ifs
  · exact Or.inl rfl
  · exact Or.inr rfl

theorem Consistent.discard (hs : s.Consistent) : (s.discardConnection connection).Consistent := by
  rcases registry_discardConnection s connection with h | h
  · exact hs.congr h
  · exact (hs.remove connection).congr h

/-! ## Steps -/

theorem Consistent.acceptDatagram (hs : s.Consistent) {accept : Option (Accepted Conn)}
    (hfree : s.connections.lookup addr = none)
    (hnew : ∀ fresh ∈ accept, fresh.connection ∉ s.accepted) :
    (s.acceptDatagram data addr accept).1.Consistent := by
  unfold QuicServer.acceptDatagram
  split_ifs
  · exact hs
  · cases accept with
    | none => exact hs
    | some fresh => exact (hs.accept (hnew fresh rfl) hfree).enqueue _ _ _

theorem Consistent.datagram (hs : s.Consistent) {low : Reception Conn}
    (hlow : low.Possible data s.accepted) : (s.handleDatagram data addr low).1.Consistent := by
  have hnew : ∀ fresh ∈ low.accept, fresh.connection ∉ s.accepted := fun fresh h =>
    (hlow.2.2.1 fresh h).1
  unfold handleDatagram
  cases hlookup : s.connections.lookup addr with
  | some connection => exact ((hs.congr registry_receive).refresh _ _).enqueue _ _ _
  | none =>
      cases hcandidate : s.dcids.candidate data with
      | none => exact hs.acceptDatagram hlookup hnew
      | some other =>
          obtain ⟨hshort, -, hindex⟩ := DcidIndex.candidate_eq_some hcandidate
          have hknown : other ∈ s.connAddr := hs.dcids.indexed hindex
          have hreceived : (s.receive other data).Consistent := hs.congr registry_receive
          have hnone : low.accept = none := hlow.2.2.2 hshort
          cases hresult : low.result with
          | accepted =>
              have hrekeyed := hreceived.rekey addr hknown hlookup
              exact (hrekeyed.refresh _ _).enqueue _ _ _
          | closed =>
              have henqueued := hreceived.enqueue other
                ((s.connAddr.lookup other).getD addr) low.events
              dsimp only
              rw [hnone]
              unfold QuicServer.acceptDatagram
              split_ifs <;> exact henqueued
          | discarded => exact hreceived.acceptDatagram hlookup hnew

theorem Consistent.sweep (hs : s.Consistent) (scids : List Bytes) (events : List QuicEvent)
    (isClosed : Bool) : (s.sweep connection scids events isClosed).Consistent := by
  have hrefreshed := hs.refresh connection scids
  unfold QuicServer.sweep
  dsimp only
  cases (s.refreshDcidIndex connection scids).connAddr.lookup connection with
  | none => exact hrefreshed
  | some addr =>
      have henqueued := hrefreshed.enqueue connection addr events
      dsimp only
      split_ifs
      · exact henqueued.discard
      · exact henqueued

theorem Consistent.act (hs : s.Consistent) {a : Act Addr Conn} (ha : a.Possible s) :
    (s.act a).Consistent := by
  cases a with
  | start => exact hs.congr rfl
  | datagram data addr low => exact hs.datagram ha
  | sweep connection scids events isClosed => exact hs.sweep scids events isClosed
  | refresh connection scids => exact hs.refresh connection scids
  | close connection => exact hs.congr rfl
  | stop caller => exact hs.congr rfl
  | stopGathered => exact hs.congr rfl
  | stopFinally =>
      constructor
      · intro addr connection
        exact ⟨fun h => (by cases h), fun h => (by cases h)⟩
      · intro connection h
        cases h
      · exact DcidIndex.backed_empty
      · intro connection h
        cases h
  | resume id => exact hs.congr (registry_task id _ (Or.inl rfl))
  | returned id => exact hs.congr (registry_task id _ (Or.inr (Or.inl rfl)))
  | raised id => exact hs.congr (registry_task id _ (Or.inr (Or.inr rfl)))

/-! ## Index and ids -/

/-- The connection ids reported while a datagram is handled. -/
def datagramReports (s : QuicServer Addr Conn) (data : Bytes) (addr : Addr) (low : Reception Conn) :
    List (Conn × List Bytes) :=
  match s.connections.lookup addr with
  | some connection => [(connection, low.scids)]
  | none =>
      (s.dcids.candidate data).toList.map (fun other => (other, low.scids)) ++
        low.accept.toList.map fun accept => (accept.connection, accept.scids)

/-- The connection ids a step reports. -/
def reports (s : QuicServer Addr Conn) : Act Addr Conn → List (Conn × List Bytes)
  | .datagram data addr low => s.datagramReports data addr low
  | .sweep connection scids _ _ | .refresh connection scids => [(connection, scids)]
  | _ => []

/-- The ids a step reports are those of no other connection. -/
def Act.Apart (s : QuicServer Addr Conn) (a : Act Addr Conn) : Prop :=
  ∀ report ∈ s.reports a, s.dcids.Apart report.1 report.2

instance (s : QuicServer Addr Conn) (a : Act Addr Conn) : Decidable (a.Apart s) :=
  inferInstanceAs (Decidable (∀ report ∈ s.reports a, s.dcids.Apart report.1 report.2))

/-- The ids of every connection lead to it. -/
def Indexed (s : QuicServer Addr Conn) : Prop := s.dcids.Complete

omit [DecidableEq Addr] in
theorem Indexed.congr (hs : s.Indexed) (h : s'.registry = s.registry) : s'.Indexed := by
  simp only [registry, Registry.mk.injEq] at h
  unfold Indexed
  rw [h.2.2.1]
  exact hs

omit [DecidableEq Addr] in
theorem Indexed.refresh {scids : List Bytes} (hs : s.Indexed)
    (hapart : s.dcids.Apart connection scids) : (s.refreshDcidIndex connection scids).Indexed := by
  unfold refreshDcidIndex
  split_ifs
  · exact DcidIndex.Complete.refresh hs hapart
  · exact hs

theorem Indexed.remove (hs : s.Indexed) : (s.removeConnection connection).Indexed :=
  DcidIndex.Complete.drop hs connection

theorem Indexed.enqueue (hs : s.Indexed) (connection : Conn) (addr : Addr)
    (events : List QuicEvent) :
    (s.enqueueConnectionEvents addr connection events).Indexed :=
  enqueue_induction Indexed (fun h ha => ha.congr h) (fun ha => ha.remove) hs addr events

theorem rekey_dcids : (s.rekey connection addr).dcids = s.dcids := by
  unfold rekey
  split_ifs <;> rfl

theorem Indexed.acceptDatagram (hs : s.Indexed) {accept : Option (Accepted Conn)}
    (hapart : ∀ fresh ∈ accept, s.dcids.Apart fresh.connection fresh.scids) :
    (s.acceptDatagram data addr accept).1.Indexed := by
  unfold QuicServer.acceptDatagram
  split_ifs
  · exact hs
  · cases accept with
    | none => exact hs
    | some fresh =>
        refine Indexed.enqueue ?_ _ _ _
        exact Indexed.refresh hs (hapart fresh rfl)

theorem Indexed.datagram (hs : s.Indexed) {low : Reception Conn}
    (hlow : low.Possible data s.accepted)
    (hapart : ∀ report ∈ s.datagramReports data addr low, s.dcids.Apart report.1 report.2) :
    (s.handleDatagram data addr low).1.Indexed := by
  unfold datagramReports at hapart
  unfold handleDatagram
  cases hlookup : s.connections.lookup addr with
  | some connection =>
      rw [hlookup] at hapart
      have hreport : s.dcids.Apart connection low.scids := hapart _ List.mem_cons_self
      have hreceived : (s.receive connection data).Indexed := hs.congr registry_receive
      exact (hreceived.refresh hreport).enqueue _ _ _
  | none =>
      rw [hlookup] at hapart
      have hfresh : ∀ fresh ∈ low.accept, s.dcids.Apart fresh.connection fresh.scids := by
        intro fresh h
        refine hapart (fresh.connection, fresh.scids) (List.mem_append_right _ ?_)
        exact List.mem_map.2 ⟨fresh, Option.mem_toList.2 h, rfl⟩
      cases hcandidate : s.dcids.candidate data with
      | none => exact hs.acceptDatagram hfresh
      | some other =>
          have hreport : s.dcids.Apart other low.scids := by
            refine hapart (other, low.scids) (List.mem_append_left _ ?_)
            rw [hcandidate]
            exact List.mem_cons_self
          have hreceived : (s.receive other data).Indexed := hs.congr registry_receive
          have hnone : low.accept = none := hlow.2.2.2 (DcidIndex.candidate_eq_some hcandidate).1
          cases hresult : low.result with
          | accepted =>
              have hdcids : ((s.receive other data).rekey other addr).dcids = s.dcids := rekey_dcids
              have hrekeyed : ((s.receive other data).rekey other addr).Indexed := by
                unfold Indexed
                rw [hdcids]
                exact hs
              rw [← hdcids] at hreport
              exact (hrekeyed.refresh hreport).enqueue _ _ _
          | closed =>
              have henqueued := hreceived.enqueue other
                ((s.connAddr.lookup other).getD addr) low.events
              refine henqueued.acceptDatagram ?_
              rw [hnone]
              intro fresh h
              cases h
          | discarded => exact hreceived.acceptDatagram hfresh

theorem Indexed.act (hs : s.Indexed) {a : Act Addr Conn} (ha : a.Possible s) (hapart : a.Apart s) :
    (s.act a).Indexed := by
  cases a with
  | start => exact hs.congr rfl
  | datagram data addr low => exact hs.datagram ha hapart
  | sweep connection scids events isClosed =>
      have hrefreshed : (s.refreshDcidIndex connection scids).Indexed :=
        hs.refresh (hapart _ List.mem_cons_self)
      simp only [QuicServer.act, QuicServer.sweep]
      cases (s.refreshDcidIndex connection scids).connAddr.lookup connection with
      | none => exact hrefreshed
      | some addr =>
          have henqueued := hrefreshed.enqueue connection addr events
          dsimp only
          split_ifs
          · rcases registry_discardConnection ((s.refreshDcidIndex connection
              scids).enqueueConnectionEvents addr connection events) connection with h | h
            · exact henqueued.congr h
            · exact henqueued.remove.congr h
          · exact henqueued
  | refresh connection scids => exact hs.refresh (hapart _ List.mem_cons_self)
  | close connection => exact hs.congr rfl
  | stop caller => exact hs.congr rfl
  | stopGathered => exact hs.congr rfl
  | stopFinally => exact DcidIndex.complete_empty
  | resume id => exact hs.congr (registry_task id _ (Or.inl rfl))
  | returned id => exact hs.congr (registry_task id _ (Or.inr (Or.inl rfl)))
  | raised id => exact hs.congr (registry_task id _ (Or.inr (Or.inr rfl)))

/-! ## Discarded datagrams -/

/-- The registered connection a datagram is passed to. -/
def receiver (s : QuicServer Addr Conn) (data : Bytes) (addr : Addr) : Option Conn :=
  match s.connections.lookup addr with
  | some connection => some connection
  | none => s.dcids.candidate data

/-- Events without `ConnectionClosed` leave the tables alone. -/
theorem registry_enqueue_quiet (s : QuicServer Addr Conn) (addr : Addr) (connection : Conn)
    {events : List QuicEvent} (hquiet : Quiet events) :
    (s.enqueueConnectionEvents addr connection events).registry = s.registry := by
  have hput : ∀ (queue : Nat) (events : List QuicEvent) (a : QuicServer Addr Conn), Quiet events →
      (events.foldl (putEvent connection addr queue) a).registry = a.registry := by
    intro queue events
    induction events with
    | nil =>
        intro a _
        rfl
    | cons event events ih =>
        intro a hquiet
        have hevent : event.type ≠ .connectionClosed := hquiet event List.mem_cons_self
        rw [List.foldl_cons, ih _ fun other h => hquiet other (List.mem_cons_of_mem _ h)]
        unfold putEvent
        dsimp only
        rw [if_neg hevent]
        rfl
  unfold enqueueConnectionEvents
  dsimp only
  cases (s.ensureConnectionTask connection).connectionQueues.lookup connection with
  | none => exact registry_ensureConnectionTask
  | some queue => exact (hput queue events _ hquiet).trans registry_ensureConnectionTask

omit [DecidableEq Addr] in
theorem registry_refresh_receive {scids : List Bytes} :
    ((s.receive connection data).refreshDcidIndex connection scids).registry =
      (s.refreshDcidIndex connection scids).registry := by
  by_cases hmem : connection ∈ s.connAddr
  · have hreceived : connection ∈ (s.receive connection data).connAddr := hmem
    rw [refreshDcidIndex, refreshDcidIndex, if_pos hmem, if_pos hreceived]
    rfl
  · have hreceived : connection ∉ (s.receive connection data).connAddr := hmem
    rw [refreshDcidIndex, refreshDcidIndex, if_neg hmem, if_neg hreceived]
    rfl

/-- The tables behind a datagram that a registered connection discards: the ids of the connection at
its source address are refreshed, and nothing else. -/
theorem registry_discarded {low : Reception Conn} (hlow : low.Possible data s.accepted)
    (hpassed : (s.receiver data addr).isSome) (hresult : low.result = .discarded) :
    (s.handleDatagram data addr low).1.registry =
      match s.connections.lookup addr with
      | some connection => (s.refreshDcidIndex connection low.scids).registry
      | none => s.registry := by
  unfold receiver at hpassed
  unfold handleDatagram
  cases hlookup : s.connections.lookup addr with
  | some connection =>
      have hquiet := registry_enqueue_quiet
        ((s.receive connection data).refreshDcidIndex connection low.scids) addr connection
        (hlow.2.1 hresult)
      exact hquiet.trans registry_refresh_receive
  | none =>
      rw [hlookup] at hpassed
      cases hcandidate : s.dcids.candidate data with
      | none =>
          rw [hcandidate] at hpassed
          cases hpassed
      | some other =>
          have hnone : low.accept = none := hlow.2.2.2 (DcidIndex.candidate_eq_some hcandidate).1
          dsimp only
          rw [hresult, hnone]
          unfold acceptDatagram
          dsimp only
          split_ifs <;> rfl

/-! ## Runs -/

theorem consistent_run {acts : List (Act Addr Conn)} (h : Path Takes s acts s')
    (hs : s.Consistent) : s'.Consistent := by
  refine Path.invariant Consistent ?_ h hs
  rintro a b l ha ⟨hpossible, rfl⟩
  exact ha.act hpossible

theorem indexed_run {acts : List (Act Addr Conn)}
    (h : Path (fun a b c => Takes a b c ∧ b.Apart a) s acts s') (hs : s.Indexed) : s'.Indexed := by
  refine Path.invariant Indexed ?_ h hs
  rintro a b l ha ⟨⟨hpossible, rfl⟩, hapart⟩
  exact ha.act hpossible hapart

end QuicServer

end Server
end WebTransport
