import WebTransport.Server.Tables

/-!
# Server.H3 — the WebTransport server over HTTP/3 (`_h3_server.py`) and its tables

The server has one table of clients beside the index of connection ids, and handles a datagram to
its end, callbacks included, before it reads the next one.  Only what touches the tables is
modelled; what the connection and the session of a client report comes in with a step.

* `H3Server`, `Act`, `act` : the tables and where `_handle_datagram` stands;
* `Consistent`             : a client has one address, the index knows registered clients only;
* `stop_leaves_index`      : `stop` clears the clients and keeps the index;
* `tables_consistent`      : both servers over whole runs.
-/

namespace WebTransport
namespace Server

open Quic

/-! ## Data -/

/-- Where `_handle_datagram` stands once the datagram was passed on. -/
structure Handling (Addr Conn : Type) where
  addr : Addr
  eventAddr : Addr
  client : Conn
  deriving DecidableEq

/-- What the low level returns for a datagram: the result of `receive`, `scid` behind it, and the
client around the accepted connection, `none` where `Connection.accept` raises. -/
structure H3Reception (Conn : Type) where
  result : ReceiveResult
  scids : List Bytes
  accept : Option Conn
  deriving DecidableEq

/-- `Server`: `created` records the clients ever made and is never read by the code. -/
structure H3Server (Addr Conn : Type) where
  running : Bool := false
  clients : Dict Addr Conn := ∅
  dcids : DcidIndex Conn := {}
  handling : Option (Handling Addr Conn) := none
  created : List Conn := []
  deriving DecidableEq

namespace H3Server

variable {Addr Conn : Type} [DecidableEq Addr] [DecidableEq Conn]

/-! ## The code -/

/-- `_refresh_dcid_index` -/
def refreshDcidIndex (s : H3Server Addr Conn) (client : Conn) (scids : List Bytes) :
    H3Server Addr Conn :=
  if client ∈ Dict.values s.clients then
    { s with dcids := s.dcids.refreshDcidIndex client scids }
  else s

/-- `_remove_client` -/
def removeClient (s : H3Server Addr Conn) (addr : Addr) : H3Server Addr Conn :=
  match s.clients.lookup addr with
  | none => s
  | some client =>
      { s with clients := s.clients.erase addr, dcids := s.dcids.dropDcidIndex client }

/-- The guarded `del self._clients[old_addr]` with the entry for the new address. -/
def rekey (s : H3Server Addr Conn) (client : Conn) (addr : Addr) : H3Server Addr Conn :=
  let known := Dict.keyOf s.clients client
  if known = some addr then s
  else
    let clients :=
      match known with
      | none => s.clients
      | some known => s.clients.erase known
    { s with clients := clients.insert addr client }

def handle (s : H3Server Addr Conn) (handling : Handling Addr Conn) : H3Server Addr Conn :=
  { s with handling := some handling }

/-- `_create_connection` -/
def createConnection (s : H3Server Addr Conn) (addr : Addr) (client : Conn) : H3Server Addr Conn :=
  { s with clients := s.clients.insert addr client, created := s.created ++ [client] }

/-- `_handle_datagram` from `if client is None` on. -/
def createClient (s : H3Server Addr Conn) (addr : Addr) (accept : Option Conn) :
    H3Server Addr Conn :=
  if !s.running then s
  else
    match accept with
    | none => s
    | some client => (s.createConnection addr client).handle ⟨addr, addr, client⟩

/-- `_handle_datagram`, up to `_process_quic_events`. -/
def receiveDatagram (s : H3Server Addr Conn) (data : Bytes) (addr : Addr) (low : H3Reception Conn) :
    H3Server Addr Conn :=
  match s.clients.lookup addr with
  | some client => (s.refreshDcidIndex client low.scids).handle ⟨addr, addr, client⟩
  | none =>
      match s.dcids.candidate data with
      | none => s.createClient addr low.accept
      | some candidate =>
          match low.result with
          | .accepted =>
              ((s.rekey candidate addr).refreshDcidIndex candidate low.scids).handle
                ⟨addr, addr, candidate⟩
          | .closed =>
              -- the events go to the address the application knows
              let known := (Dict.keyOf s.clients candidate).getD addr
              s.handle ⟨addr, known, candidate⟩
          | .discarded => s.createClient addr low.accept

/-- A step of the server.  `connectionClosed`, `dismissed` and `finished` go on with the datagram
that is handled: `_process_quic_events` met `CONNECTION_CLOSED`, `_process_webtransport_events`
removed the client, the rest of the function ran; `aborted` is an exception.  `timeout` is a removal
by the sweep of `run`, `stop` and `stopFinally` are the two ends of `stop`. -/
inductive Act (Addr Conn : Type)
  | start
  | datagram (data : Bytes) (addr : Addr) (low : H3Reception Conn)
  | connectionClosed
  | dismissed
  | finished (sessionClosed : Bool)
  | aborted
  | timeout (addr : Addr)
  | stop
  | stopFinally
  deriving DecidableEq

def act (s : H3Server Addr Conn) : Act Addr Conn → H3Server Addr Conn
  | .start => { s with running := true }
  | .datagram data addr low => s.receiveDatagram data addr low
  | .connectionClosed =>
      match s.handling with
      | none => s
      | some handling => { s.removeClient handling.eventAddr with handling := none }
  | .dismissed =>
      match s.handling with
      | none => s
      | some handling => s.removeClient handling.addr
  | .finished sessionClosed =>
      match s.handling with
      | none => s
      | some handling =>
          let s := if sessionClosed then s.removeClient handling.addr else s
          { s with handling := none }
  | .aborted => { s with handling := none }
  | .timeout addr => s.removeClient addr
  | .stop => { s with running := false }
  -- `_dcid_index` and `_conn_dcids` are not cleared
  | .stopFinally => { s with clients := ∅ }

/-- What the low level promises: `accept` returns a new object, and raises on a short header. -/
def Act.Possible (s : H3Server Addr Conn) : Act Addr Conn → Prop
  | .datagram data _ low =>
      s.handling = none ∧ (∀ client ∈ low.accept, client ∉ s.created) ∧
        (isLongHeader data = false → low.accept = none)
  | _ => True

instance (s : H3Server Addr Conn) (a : Act Addr Conn) : Decidable (a.Possible s) := by
  unfold Act.Possible
  cases a <;> dsimp only <;> infer_instance

/-- One step leads from `s` to `s'`; a run is a `Path` of such steps. -/
def Takes : H3Server Addr Conn → Act Addr Conn → H3Server Addr Conn → Prop :=
  Guarded act fun s a => a.Possible s

/-- `stop` clears the clients while the index holds nothing. -/
def Act.Tidy (s : H3Server Addr Conn) : Act Addr Conn → Prop
  | .stopFinally => s.dcids.connDcids = ∅
  | _ => True

instance (s : H3Server Addr Conn) (a : Act Addr Conn) : Decidable (a.Tidy s) := by
  unfold Act.Tidy
  cases a <;> dsimp only <;> infer_instance

/-! ## Consistent tables -/

/-- A client is under one address, what the index knows is a client of the table, and an index entry
is among the ids of its client. -/
structure Consistent (s : H3Server Addr Conn) : Prop where
  single : ∀ ⦃addr addr' client⦄, s.clients.lookup addr = some client →
    s.clients.lookup addr' = some client → addr = addr'
  known : ∀ client ∈ s.dcids.connDcids, client ∈ Dict.values s.clients
  backed : s.dcids.Backed
  created : ∀ client ∈ Dict.values s.clients, client ∈ s.created

variable {s : H3Server Addr Conn} {addr : Addr} {client : Conn} {data : Bytes}

theorem Consistent.dcids (hs : s.Consistent) :
    s.dcids.Registered (· ∈ Dict.values s.clients) := hs.backed.registered hs.known

theorem consistent_empty : Consistent ({} : H3Server Addr Conn) := by
  constructor
  · intro addr addr' client h
    cases h
  · intro client h
    cases h
  · exact DcidIndex.backed_empty
  · intro client h
    cases h

theorem Consistent.handling (hs : s.Consistent) (handling : Option (Handling Addr Conn)) :
    Consistent { s with handling := handling } := ⟨hs.single, hs.known, hs.backed, hs.created⟩

theorem Consistent.refresh (hs : s.Consistent) (client : Conn) (scids : List Bytes) :
    (s.refreshDcidIndex client scids).Consistent := by
  unfold refreshDcidIndex
  split_ifs with hmem
  · refine ⟨hs.single, ?_, hs.backed.refresh _ _, hs.created⟩
    intro other hother
    rcases DcidIndex.mem_connDcids_refresh.1 hother with rfl | hother
    · exact hmem
    · exact hs.known _ hother
  · exact hs

theorem Consistent.remove (hs : s.Consistent) (addr : Addr) :
    (s.removeClient addr).Consistent := by
  unfold removeClient
  cases hlookup : s.clients.lookup addr with
  | none => exact hs
  | some client =>
      constructor
      · intro other other' shared h h'
        exact hs.single (Dict.lookup_erase_iff.1 h).2 (Dict.lookup_erase_iff.1 h').2
      · intro other hother
        obtain ⟨hne, hold⟩ := DcidIndex.mem_connDcids_drop.1 hother
        obtain ⟨key, hkey⟩ := Dict.mem_values.1 (hs.known _ hold)
        refine Dict.mem_values.2 ⟨key, Dict.lookup_erase_iff.2 ⟨?_, hkey⟩⟩
        rintro rfl
        rw [hlookup] at hkey
        exact hne (Option.some.inj hkey).symm
      · exact hs.backed.drop _
      · intro other hother
        obtain ⟨key, hkey⟩ := Dict.mem_values.1 hother
        exact hs.created _ (Dict.mem_values.2 ⟨key, (Dict.lookup_erase_iff.1 hkey).2⟩)

/-- A new key, where the client had none. -/
theorem Consistent.insert (hs : s.Consistent) (hfree : s.clients.lookup addr = none)
    (hnew : client ∉ Dict.values s.clients) (hcreated : client ∈ s.created) :
    Consistent { s with clients := s.clients.insert addr client } := by
  have hunknown : ∀ key, s.clients.lookup key ≠ some client := fun key h =>
    hnew (Dict.mem_values.2 ⟨key, h⟩)
  constructor
  · intro other other' shared h h'
    rcases Dict.lookup_insert_iff.1 h with ⟨rfl, rfl⟩ | ⟨hother, h⟩
    · rcases Dict.lookup_insert_iff.1 h' with ⟨rfl, -⟩ | ⟨-, h'⟩
      · rfl
      · exact absurd h' (hunknown _)
    · rcases Dict.lookup_insert_iff.1 h' with ⟨-, rfl⟩ | ⟨-, h'⟩
      · exact absurd h (hunknown _)
      · exact hs.single h h'
  · intro other hother
    obtain ⟨key, hkey⟩ := Dict.mem_values.1 (hs.known _ hother)
    refine Dict.mem_values.2 ⟨key, Dict.lookup_insert_iff.2 (Or.inr ⟨?_, hkey⟩)⟩
    rintro rfl
    rw [hfree] at hkey
    cases hkey
  · exact hs.backed
  · intro other hother
    obtain ⟨key, hkey⟩ := Dict.mem_values.1 hother
    rcases Dict.lookup_insert_iff.1 hkey with ⟨-, rfl⟩ | ⟨-, hkey⟩
    · exact hcreated
    · exact hs.created _ (Dict.mem_values.2 ⟨key, hkey⟩)

theorem Consistent.rekey (hs : s.Consistent) (hmem : client ∈ Dict.values s.clients)
    (hfree : s.clients.lookup addr = none) : (s.rekey client addr).Consistent := by
  unfold H3Server.rekey
  dsimp only
  split_ifs with hsame
  · exact hs
  · cases hknown : Dict.keyOf s.clients client with
    | none =>
        obtain ⟨key, hkey⟩ := Dict.mem_values.1 hmem
        exact absurd hkey (Dict.keyOf_eq_none hknown)
    | some known =>
        have hclient := Dict.lookup_of_keyOf hknown
        dsimp only
        constructor
        · intro other other' shared h h'
          rcases Dict.lookup_insert_iff.1 h with ⟨rfl, rfl⟩ | ⟨hother, h⟩
          · rcases Dict.lookup_insert_iff.1 h' with ⟨rfl, -⟩ | ⟨-, h'⟩
            · rfl
            · obtain ⟨hne, h'⟩ := Dict.lookup_erase_iff.1 h'
              exact absurd (hs.single h' hclient) hne
          · obtain ⟨hne, h⟩ := Dict.lookup_erase_iff.1 h
            rcases Dict.lookup_insert_iff.1 h' with ⟨-, rfl⟩ | ⟨-, h'⟩
            · exact absurd (hs.single h hclient) hne
            · exact hs.single h (Dict.lookup_erase_iff.1 h').2
        · intro other hother
          obtain ⟨key, hkey⟩ := Dict.mem_values.1 (hs.known _ hother)
          by_cases hc : other = client
          · subst hc
            exact Dict.mem_values.2 ⟨addr, Dict.lookup_insert_iff.2 (Or.inl ⟨rfl, rfl⟩)⟩
          · refine Dict.mem_values.2 ⟨key, Dict.lookup_insert_iff.2 (Or.inr ⟨?_, ?_⟩)⟩
            · rintro rfl
              rw [hfree] at hkey
              cases hkey
            · refine Dict.lookup_erase_iff.2 ⟨?_, hkey⟩
              rintro rfl
              rw [hclient] at hkey
              exact hc (Option.some.inj hkey).symm
        · exact hs.backed
        · intro other hother
          obtain ⟨key, hkey⟩ := Dict.mem_values.1 hother
          rcases Dict.lookup_insert_iff.1 hkey with ⟨-, rfl⟩ | ⟨-, hkey⟩
          · exact hs.created _ hmem
          · exact hs.created _ (Dict.mem_values.2 ⟨key, (Dict.lookup_erase_iff.1 hkey).2⟩)

theorem Consistent.create (hs : s.Consistent) (hfree : s.clients.lookup addr = none)
    {accept : Option Conn} (hnew : ∀ fresh ∈ accept, fresh ∉ s.created) :
    (s.createClient addr accept).Consistent := by
  unfold createClient
  split_ifs
  · exact hs
  · cases accept with
    | none => exact hs
    | some fresh =>
        have hunknown : fresh ∉ Dict.values s.clients := fun h => hnew fresh rfl (hs.created _ h)
        have hgrown : Consistent { s with created := s.created ++ [fresh] } :=
          ⟨hs.single, hs.known, hs.backed, fun other h => List.mem_append_left _ (hs.created _ h)⟩
        refine Consistent.handling ?_ _
        exact hgrown.insert hfree hunknown (List.mem_append_right _ List.mem_cons_self)

theorem Consistent.datagram (hs : s.Consistent) {low : H3Reception Conn}
    (ha : (Act.datagram data addr low).Possible s) :
    (s.receiveDatagram data addr low).Consistent := by
  obtain ⟨-, hnew, hshort⟩ := ha
  unfold receiveDatagram
  cases hlookup : s.clients.lookup addr with
  | some client => exact (hs.refresh _ _).handling _
  | none =>
      cases hcandidate : s.dcids.candidate data with
      | none => exact hs.create hlookup hnew
      | some candidate =>
          have hmem := hs.dcids.indexed (DcidIndex.candidate_eq_some hcandidate).2.2
          cases hresult : low.result with
          | accepted => exact ((hs.rekey hmem hlookup).refresh _ _).handling _
          | closed => exact hs.handling _
          | discarded => exact hs.create hlookup hnew

theorem Consistent.act (hs : s.Consistent) {a : Act Addr Conn} (ha : a.Possible s)
    (htidy : a.Tidy s) : (s.act a).Consistent := by
  cases a with
  | start => exact ⟨hs.single, hs.known, hs.backed, hs.created⟩
  | datagram data addr low => exact hs.datagram ha
  | connectionClosed =>
      unfold H3Server.act
      cases s.handling with
      | none => exact hs
      | some handling => exact (hs.remove _).handling _
  | dismissed =>
      unfold H3Server.act
      cases s.handling with
      | none => exact hs
      | some handling => exact hs.remove _
  | finished sessionClosed =>
      unfold H3Server.act
      cases s.handling with
      | none => exact hs
      | some handling =>
          refine Consistent.handling ?_ _
          split_ifs
          · exact hs.remove _
          · exact hs
  | aborted => exact hs.handling _
  | timeout addr => exact hs.remove _
  | stop => exact ⟨hs.single, hs.known, hs.backed, hs.created⟩
  | stopFinally =>
      have hempty : s.dcids.connDcids = ∅ := htidy
      constructor
      · intro addr addr' client h
        cases h
      · intro client h
        have hmem : client ∈ s.dcids.connDcids := h
        rw [hempty] at hmem
        cases hmem
      · exact hs.backed
      · intro client h
        cases h

/-! ## Index and ids -/

/-- The connection ids a step reports. -/
def reports (s : H3Server Addr Conn) : Act Addr Conn → List (Conn × List Bytes)
  | .datagram data addr low =>
      match s.clients.lookup addr with
      | some client => [(client, low.scids)]
      | none => (s.dcids.candidate data).toList.map fun candidate => (candidate, low.scids)
  | _ => []

/-- The ids a step reports are those of no other client. -/
def Act.Apart (s : H3Server Addr Conn) (a : Act Addr Conn) : Prop :=
  ∀ report ∈ s.reports a, s.dcids.Apart report.1 report.2

instance (s : H3Server Addr Conn) (a : Act Addr Conn) : Decidable (a.Apart s) :=
  inferInstanceAs (Decidable (∀ report ∈ s.reports a, s.dcids.Apart report.1 report.2))

theorem dcids_rekey : (s.rekey client addr).dcids = s.dcids := by
  unfold rekey
  dsimp only
  split_ifs <;> rfl

omit [DecidableEq Conn] in
theorem dcids_createClient {accept : Option Conn} :
    (s.createClient addr accept).dcids = s.dcids := by
  unfold createClient
  split_ifs
  · rfl
  · cases accept <;> rfl

omit [DecidableEq Addr] in
theorem complete_refresh {scids : List Bytes} (hs : s.dcids.Complete)
    (hapart : s.dcids.Apart client scids) : (s.refreshDcidIndex client scids).dcids.Complete := by
  unfold refreshDcidIndex
  split_ifs
  · exact hs.refresh hapart
  · exact hs

theorem complete_remove (hs : s.dcids.Complete) (addr : Addr) :
    (s.removeClient addr).dcids.Complete := by
  unfold removeClient
  cases s.clients.lookup addr with
  | none => exact hs
  | some client => exact hs.drop client

theorem complete_act (hs : s.dcids.Complete) {a : Act Addr Conn} (hapart : a.Apart s) :
    (s.act a).dcids.Complete := by
  cases a with
  | datagram data addr low =>
      unfold Act.Apart at hapart
      simp only [reports] at hapart
      simp only [act, receiveDatagram]
      cases hlookup : s.clients.lookup addr with
      | some client =>
          rw [hlookup] at hapart
          exact complete_refresh hs (hapart _ List.mem_cons_self)
      | none =>
          rw [hlookup] at hapart
          cases hcandidate : s.dcids.candidate data with
          | none =>
              dsimp only
              rw [dcids_createClient]
              exact hs
          | some candidate =>
              have hreport : s.dcids.Apart candidate low.scids := by
                refine hapart (candidate, low.scids) ?_
                rw [hcandidate]
                exact List.mem_cons_self
              cases hresult : low.result with
              | accepted =>
                  have hdcids : (s.rekey candidate addr).dcids = s.dcids := dcids_rekey
                  refine complete_refresh ?_ ?_
                  · rw [hdcids]
                    exact hs
                  · rw [hdcids]
                    exact hreport
              | closed => exact hs
              | discarded =>
                  dsimp only
                  rw [dcids_createClient]
                  exact hs
  | connectionClosed =>
      unfold H3Server.act
      cases s.handling with
      | none => exact hs
      | some handling => exact complete_remove hs _
  | dismissed =>
      unfold H3Server.act
      cases s.handling with
      | none => exact hs
      | some handling => exact complete_remove hs _
  | finished sessionClosed =>
      unfold H3Server.act
      cases s.handling with
      | none => exact hs
      | some handling =>
          dsimp only
          split_ifs
          · exact complete_remove hs _
          · exact hs
  | timeout addr => exact complete_remove hs addr
  | start => exact hs
  | aborted => exact hs
  | stop => exact hs
  | stopFinally => exact hs

/-! ## Discarded datagrams -/

/-- The registered client a datagram is passed to. -/
def receiver (s : H3Server Addr Conn) (data : Bytes) (addr : Addr) : Option Conn :=
  match s.clients.lookup addr with
  | some client => some client
  | none => s.dcids.candidate data

/-- The steps in which `_handle_datagram` goes on with its datagram. -/
def Act.Handles : Act Addr Conn → Prop
  | .connectionClosed | .dismissed | .finished _ | .aborted => True
  | _ => False

/-- Among them those in which the client of the datagram is found at its end. -/
def Act.Ends : Act Addr Conn → Prop
  | .connectionClosed | .dismissed | .finished true => True
  | _ => False

instance (a : Act Addr Conn) : Decidable a.Handles := by
  unfold Act.Handles
  cases a <;> dsimp only <;> infer_instance

/-- The tables are those of `base`, or those with the client at `addr` removed where it ended, and
what is handled, if anything, is a datagram of `addr`. -/
structure Leaves (base : H3Server Addr Conn) (addr : Addr) (ended : Prop)
    (s : H3Server Addr Conn) : Prop where
  tables : (s.clients = base.clients ∧ s.dcids = base.dcids) ∨
    ended ∧ s.clients = (base.removeClient addr).clients ∧
      s.dcids = (base.removeClient addr).dcids
  own : ∀ handling ∈ s.handling, handling.addr = addr ∧ handling.eventAddr = addr

section Leaves

variable {base : H3Server Addr Conn} {ended : Prop}

theorem Leaves.mono (hs : Leaves base addr ended s) {later : Prop} (h : ended → later) :
    Leaves base addr later s :=
  ⟨hs.tables.imp id fun hremoved => ⟨h hremoved.1, hremoved.2⟩, hs.own⟩

theorem Leaves.done (hs : Leaves base addr ended s) :
    Leaves base addr ended { s with handling := none } := by
  refine ⟨hs.tables, ?_⟩
  intro handling h
  cases h

/-- Removing the client at the address a second time does nothing. -/
theorem removeClient_gone (h : s.clients.lookup addr = none) : s.removeClient addr = s := by
  unfold removeClient
  rw [h]

theorem lookup_removeClient : (s.removeClient addr).clients.lookup addr = none := by
  unfold removeClient
  cases hlookup : s.clients.lookup addr with
  | none => exact hlookup
  | some client => exact AList.lookup_erase _ _

theorem removeClient_congr (hclients : s.clients = base.clients) (hdcids : s.dcids = base.dcids) :
    (s.removeClient addr).clients = (base.removeClient addr).clients ∧
      (s.removeClient addr).dcids = (base.removeClient addr).dcids := by
  unfold removeClient
  rw [hclients, hdcids]
  cases base.clients.lookup addr with
  | none => exact ⟨hclients, hdcids⟩
  | some client => exact ⟨rfl, rfl⟩

theorem handling_removeClient : (s.removeClient addr).handling = s.handling := by
  unfold removeClient
  cases s.clients.lookup addr <;> rfl

theorem Leaves.remove (hs : Leaves base addr ended s) :
    Leaves base addr True (s.removeClient addr) := by
  constructor
  · refine Or.inr ⟨trivial, ?_⟩
    rcases hs.tables with ⟨hclients, hdcids⟩ | ⟨-, hclients, hdcids⟩
    · exact removeClient_congr hclients hdcids
    · have hgone : s.clients.lookup addr = none := by
        rw [hclients]
        exact lookup_removeClient
      rw [removeClient_gone hgone]
      exact ⟨hclients, hdcids⟩
  · rw [handling_removeClient]
    exact hs.own

/-- One step of the handling. -/
theorem Leaves.act (hs : Leaves base addr ended s) {a : Act Addr Conn} (ha : a.Handles) :
    Leaves base addr (ended ∨ a.Ends) (s.act a) := by
  cases hhandling : s.handling with
  | none =>
      -- Nothing is handled any more, and these steps do nothing then.
      have hidle : { s with handling := none } = s := by rw [← hhandling]
      have hsame : s.act a = s := by
        cases a with
        | connectionClosed => simp only [H3Server.act, hhandling]
        | dismissed => simp only [H3Server.act, hhandling]
        | finished sessionClosed => simp only [H3Server.act, hhandling]
        | aborted => exact hidle
        | _ => exact ha.elim
      rw [hsame]
      exact hs.mono Or.inl
  | some handling =>
      -- What is removed is the client at `addr`, whichever of the two addresses the step uses.
      obtain ⟨haddr, heventAddr⟩ := hs.own handling hhandling
      cases a with
      | connectionClosed =>
          simp only [H3Server.act, hhandling, heventAddr]
          exact hs.remove.done.mono fun _ => Or.inr trivial
      | dismissed =>
          simp only [H3Server.act, hhandling, haddr]
          exact hs.remove.mono fun _ => Or.inr trivial
      | finished sessionClosed =>
          simp only [H3Server.act, hhandling, haddr]
          cases sessionClosed with
          | true => exact hs.remove.done.mono fun _ => Or.inr trivial
          | false => exact hs.done.mono Or.inl
      | aborted => exact hs.done.mono Or.inl
      | _ => exact ha.elim

theorem Leaves.run {acts : List (Act Addr Conn)} (hs : Leaves base addr ended s)
    (hacts : ∀ a ∈ acts, a.Handles) :
    Leaves base addr (ended ∨ ∃ a ∈ acts, a.Ends) (acts.foldl H3Server.act s) := by
  induction acts generalizing s ended with
  | nil => exact hs.mono Or.inl
  | cons a acts ih =>
      have hstep := hs.act (hacts a List.mem_cons_self)
      refine (ih hstep fun b hb => hacts b (List.mem_cons_of_mem _ hb)).mono ?_
      rintro ((hended | ha) | ⟨b, hb, hends⟩)
      · exact Or.inl hended
      · exact Or.inr ⟨a, List.mem_cons_self, ha⟩
      · exact Or.inr ⟨b, List.mem_cons_of_mem _ hb, hends⟩

end Leaves

/-- The server with the ids of the client at `addr` refreshed, if there is one. -/
def refreshedAt (s : H3Server Addr Conn) (addr : Addr) (scids : List Bytes) :
    H3Server Addr Conn :=
  match s.clients.lookup addr with
  | some client => s.refreshDcidIndex client scids
  | none => s

omit [DecidableEq Addr] in
theorem clients_refreshDcidIndex {scids : List Bytes} :
    (s.refreshDcidIndex client scids).clients = s.clients := by
  unfold refreshDcidIndex
  split_ifs <;> rfl

theorem clients_refreshedAt {scids : List Bytes} :
    (s.refreshedAt addr scids).clients = s.clients := by
  unfold refreshedAt
  cases s.clients.lookup addr with
  | none => rfl
  | some client => exact clients_refreshDcidIndex

/-- The tables behind a datagram that a registered client discards, and behind any part of the rest
of its handling: the ids of the client at its source address are refreshed, and that client is
removed if the handling finds it at its end. -/
theorem leaves_discarded {low : H3Reception Conn} (ha : (Act.datagram data addr low).Possible s)
    (hpassed : (s.receiver data addr).isSome) (hresult : low.result = .discarded) :
    Leaves (s.refreshedAt addr low.scids) addr False (s.receiveDatagram data addr low) := by
  unfold receiver at hpassed
  unfold receiveDatagram refreshedAt
  cases hlookup : s.clients.lookup addr with
  | some client =>
      refine ⟨Or.inl ⟨rfl, rfl⟩, ?_⟩
      intro handling h
      obtain rfl := Option.some.inj h
      exact ⟨rfl, rfl⟩
  | none =>
      rw [hlookup] at hpassed
      dsimp only at hpassed
      -- The datagram went to the client of the index; a discarded one does not move it to `addr`, and
      -- a short header opens no connection.
      obtain ⟨candidate, hcandidate⟩ := Option.isSome_iff_exists.1 hpassed
      have hnone : low.accept = none := ha.2.2 (DcidIndex.candidate_eq_some hcandidate).1
      have hsame : s.createClient addr none = s := by
        unfold createClient
        split_ifs <;> rfl
      dsimp only
      rw [hcandidate]
      dsimp only
      rw [hresult, hnone]
      dsimp only
      rw [hsame]
      refine ⟨Or.inl ⟨rfl, rfl⟩, ?_⟩
      intro handling h
      rw [ha.1] at h
      cases h

theorem tables_discarded {low : H3Reception Conn} {rest : List (Act Addr Conn)}
    (ha : (Act.datagram data addr low).Possible s) (hpassed : (s.receiver data addr).isSome)
    (hresult : low.result = .discarded) (hrest : ∀ a ∈ rest, a.Handles) :
    let refreshed := s.refreshedAt addr low.scids
    let after := rest.foldl act (s.receiveDatagram data addr low)
    refreshed.clients = s.clients ∧
      ((after.clients = s.clients ∧ after.dcids = refreshed.dcids) ∨
        (∃ a ∈ rest, a.Ends) ∧ after.clients = (refreshed.removeClient addr).clients ∧
          after.dcids = (refreshed.removeClient addr).dcids) := by
  have hclients : (s.refreshedAt addr low.scids).clients = s.clients := clients_refreshedAt
  refine ⟨hclients, ?_⟩
  rcases ((leaves_discarded ha hpassed hresult).run hrest).tables with
    ⟨hsame, hdcids⟩ | ⟨hends, hremoved⟩
  · exact Or.inl ⟨hsame.trans hclients, hdcids⟩
  · exact Or.inr ⟨hends.resolve_left id, hremoved⟩

/-! ## Runs -/

theorem consistent_run {acts : List (Act Addr Conn)} {s' : H3Server Addr Conn}
    (h : Path (fun a b c => Takes a b c ∧ b.Tidy a) s acts s') (hs : s.Consistent) :
    s'.Consistent := by
  refine Path.invariant Consistent ?_ h hs
  rintro a b l ha ⟨⟨hpossible, rfl⟩, htidy⟩
  exact ha.act hpossible htidy

theorem complete_run {acts : List (Act Addr Conn)} {s' : H3Server Addr Conn}
    (h : Path (fun a b c => Takes a b c ∧ b.Tidy a ∧ b.Apart a) s acts s')
    (hs : s.dcids.Complete) : s'.dcids.Complete := by
  refine Path.invariant (fun a => a.dcids.Complete) ?_ h hs
  rintro a b l ha ⟨⟨hpossible, rfl⟩, -, hapart⟩
  exact complete_act ha hapart

/-- Where `stop` clears the clients before the index is empty, the index is left with clients that
are not registered. -/
theorem unregistered_of_stop (h : s.dcids.connDcids ≠ ∅) :
    ¬(s.act .stopFinally).dcids.Registered (· ∈ Dict.values (s.act .stopFinally).clients) := by
  intro hregistered
  obtain ⟨client, hclient⟩ : ∃ client, client ∈ s.dcids.connDcids := by
    cases hentries : s.dcids.connDcids.entries with
    | nil => exact absurd (AList.ext hentries) h
    | cons entry entries =>
        refine ⟨entry.1, AList.mem_keys.2 ?_⟩
        rw [AList.keys, hentries]
        exact List.mem_cons_self
  cases hregistered.known client hclient

end H3Server

/-! ## Both servers -/

section Tables

variable (Addr Conn : Type) [DecidableEq Addr] [DecidableEq Conn]

/-- The routing tables over whole runs.  In the QUIC server they are consistent in every state; in
the WebTransport server they are as long as `stop` clears the clients only while the index is
empty, and exactly then. -/
theorem tables_consistent :
    (∀ acts (s : QuicServer Addr Conn), Path QuicServer.Takes {} acts s →
      (∀ addr connection,
        s.connections.lookup addr = some connection ↔ s.connAddr.lookup connection = some addr) ∧
      s.dcids.Registered (· ∈ s.connAddr) ∧
      ∀ data addr low, low.Possible data s.accepted → (s.receiver data addr).isSome →
        low.result = .discarded →
        (s.handleDatagram data addr low).1.registry =
          match s.connections.lookup addr with
          | some connection => (s.refreshDcidIndex connection low.scids).registry
          | none => s.registry) ∧
    (∀ acts (s : QuicServer Addr Conn),
      Path (fun a b c => QuicServer.Takes a b c ∧ b.Apart a) {} acts s →
      ∀ cid connection,
        s.dcids.index.lookup cid = some connection ↔ cid ∈ s.dcids.dcids connection) ∧
    (∀ acts (s : H3Server Addr Conn),
      Path (fun a b c => H3Server.Takes a b c ∧ b.Tidy a) {} acts s →
      (∀ addr addr' client, s.clients.lookup addr = some client →
        s.clients.lookup addr' = some client → addr = addr') ∧
      s.dcids.Registered (· ∈ Dict.values s.clients) ∧
      ∀ data addr low (rest : List (H3Server.Act Addr Conn)),
        (H3Server.Act.datagram data addr low).Possible s → (s.receiver data addr).isSome →
        low.result = .discarded → (∀ a ∈ rest, a.Handles) →
        let refreshed := s.refreshedAt addr low.scids
        let after := rest.foldl H3Server.act (s.receiveDatagram data addr low)
        refreshed.clients = s.clients ∧
          ((after.clients = s.clients ∧ after.dcids = refreshed.dcids) ∨
            (∃ a ∈ rest, a.Ends) ∧
              after.clients = (refreshed.removeClient addr).clients ∧
              after.dcids = (refreshed.removeClient addr).dcids)) ∧
    (∀ acts (s : H3Server Addr Conn),
      Path (fun a b c => H3Server.Takes a b c ∧ b.Tidy a ∧ b.Apart a) {} acts s →
      ∀ cid client, s.dcids.index.lookup cid = some client ↔ cid ∈ s.dcids.dcids client) ∧
    ∀ (s : H3Server Addr Conn) (a : H3Server.Act Addr Conn), ¬a.Tidy s →
      ¬(s.act a).dcids.Registered (· ∈ Dict.values (s.act a).clients) := by
  refine ⟨?_, ?_, ?_, ?_, ?_⟩
  · intro acts s h
    have hs := QuicServer.consistent_run h (QuicServer.consistent_empty false)
    exact ⟨hs.inverse, hs.dcids, fun _ _ _ hlow hpassed hresult =>
      QuicServer.registry_discarded hlow hpassed hresult⟩
  · intro acts s h cid connection
    have hindexed : s.Indexed := QuicServer.indexed_run h DcidIndex.complete_empty
    have hbacked : s.dcids.Backed := by
      have hpath : Path QuicServer.Takes {} acts s := h.imp fun h => h.1
      exact (QuicServer.consistent_run hpath (QuicServer.consistent_empty false)).backed
    exact DcidIndex.Complete.inverse hindexed hbacked
  · intro acts s h
    have hs := H3Server.consistent_run h H3Server.consistent_empty
    exact ⟨fun _ _ _ h h' => hs.single h h', hs.dcids, fun _ _ _ _ ha hpassed hresult hrest =>
      H3Server.tables_discarded ha hpassed hresult hrest⟩
  · intro acts s h cid client
    have hcomplete := H3Server.complete_run h DcidIndex.complete_empty
    have hbacked : s.dcids.Backed := by
      have hpath : Path (fun a b c => H3Server.Takes a b c ∧ b.Tidy a) {} acts s :=
        h.imp fun h => ⟨h.1, h.2.1⟩
      exact (H3Server.consistent_run hpath H3Server.consistent_empty).backed
    exact hcomplete.inverse hbacked
  · intro s a hstop
    cases a with
    | stopFinally => exact H3Server.unregistered_of_stop hstop
    | _ => exact absurd trivial hstop

end Tables

/-- A client is created, its ids are indexed with the second datagram, and the server stops. -/
def leftoverRun : List (H3Server.Act Nat Nat) :=
  [.start, .datagram [0xc0] 10 ⟨.accepted, [], some 1⟩, .finished false,
    .datagram shortHeader 10 ⟨.accepted, [[1, 2, 3, 4, 5, 6, 7, 8]], none⟩, .finished false,
    .stop, .stopFinally]

/-- Behind `stop` the index of the WebTransport server leads to a client that is not registered. -/
theorem stop_leaves_index : ∃ s : H3Server Nat Nat, Path H3Server.Takes {} leftoverRun s ∧
    s.dcids.index.lookup [1, 2, 3, 4, 5, 6, 7, 8] = some 1 ∧
    ¬s.dcids.Registered (· ∈ Dict.values s.clients) := by
  refine ⟨_, Guarded.path (by decide), by decide, ?_⟩
  intro hregistered
  have hleft : (leftoverRun.foldl H3Server.act {}).dcids.index.lookup [1, 2, 3, 4, 5, 6, 7, 8] =
      some 1 := by decide
  have hmem := hregistered.indexed hleft
  revert hmem
  decide

/-- A connection is accepted at one address and migrates to another. -/
def migrationRun : List (QuicServer.Act Nat Nat) :=
  [.start, .datagram [0xc0] 10 ⟨.accepted, [], [], some ⟨1, [[1, 2, 3, 4, 5, 6, 7, 8]], []⟩⟩,
    .datagram shortHeader 20 ⟨.accepted, [[1, 2, 3, 4, 5, 6, 7, 8]], [], none⟩]

/-- The same in the WebTransport server, which learns the id with the second datagram. -/
def clientMigrationRun : List (H3Server.Act Nat Nat) :=
  [.start, .datagram [0xc0] 10 ⟨.accepted, [], some 1⟩, .finished false,
    .datagram shortHeader 10 ⟨.accepted, [[1, 2, 3, 4, 5, 6, 7, 8]], none⟩, .finished false,
    .datagram shortHeader 20 ⟨.accepted, [[1, 2, 3, 4, 5, 6, 7, 8]], none⟩, .finished false]

/-- Behind the migrations, a datagram under the id from a third address is discarded by the client
and leaves the tables of the WebTransport server, also when it has been handled to its end. -/
theorem tables_consistent_migration :
    (∃ s, Path QuicServer.Takes {} migrationRun s ∧
      s.connections.lookup 10 = none ∧ s.connections.lookup 20 = some 1 ∧
      s.connAddr.lookup 1 = some 20 ∧ s.dcids.Registered (· ∈ s.connAddr)) ∧
    ∃ s, Path (fun a b c => H3Server.Takes a b c ∧ b.Tidy a) {} clientMigrationRun s ∧
      s.clients.lookup 10 = none ∧ s.clients.lookup 20 = some 1 ∧
      s.dcids.Registered (· ∈ Dict.values s.clients) ∧
      let after := (s.receiveDatagram shortHeader 30 ⟨.discarded, [], none⟩).act (.finished false)
      after.clients = s.clients ∧ after.dcids = s.dcids := by
  constructor
  · have hrun : Path QuicServer.Takes {} migrationRun (migrationRun.foldl QuicServer.act {}) :=
      Guarded.path (by decide)
    obtain ⟨hinverse, hregistered, -⟩ := (tables_consistent Nat Nat).1 _ _ hrun
    have haddr : (migrationRun.foldl QuicServer.act {}).connections.lookup 20 = some 1 := by decide
    exact ⟨_, hrun, by decide, haddr, (hinverse 20 1).1 haddr, hregistered⟩
  · have hguarded : Path (Guarded H3Server.act fun s a => a.Possible s ∧ a.Tidy s) {}
        clientMigrationRun (clientMigrationRun.foldl H3Server.act {}) := Guarded.path (by decide)
    have hrun : Path (fun a b c => H3Server.Takes a b c ∧ b.Tidy a) {} clientMigrationRun
        (clientMigrationRun.foldl H3Server.act {}) :=
      hguarded.imp fun h => ⟨⟨h.1.1, h.2⟩, h.1.2⟩
    obtain ⟨-, hregistered, hdiscarded⟩ := (tables_consistent Nat Nat).2.2.1 _ _ hrun
    refine ⟨_, hrun, by decide, by decide, hregistered, ?_⟩
    obtain ⟨-, hkept⟩ := hdiscarded shortHeader 30 ⟨.discarded, [], none⟩ [.finished false]
      (by decide) (by decide) rfl (by decide)
    rcases hkept with hkept | ⟨hends, -⟩
    · exact hkept
    · obtain ⟨a, ha, hends⟩ := hends
      obtain rfl := List.mem_singleton.1 ha
      exact hends.elim

end Server
end WebTransport
