import WebTransport.H2.InitHeader
import WebTransport.H2.Unfinished
import WebTransport.H2.Tracking
import WebTransport.H2.Wire

/-!
# H2.Opening — a session between two endpoints that run this code

The server's SETTINGS, the Extended CONNECT of the client, and the 2xx of the server, each as the
other side reads it.  Behind them both ends have the session established, with the limits that the
configuration of the other side announces.

* `H2SessionConfig.settings`           : the SETTINGS of `initialize`;
* `clientOpening_view`, `serverOpening_view` : the session behind the opening;
* `standing_opened`                    : it stands, with the initial limits queued.
-/

namespace WebTransport
namespace H2

open Bindings
open Received

/-! ## SETTINGS -/

/-- The SETTINGS that `initialize` announces, as far as the peer reads them: as `extra_settings`,
and SETTINGS_ENABLE_CONNECT_PROTOCOL on a server as a field of `nghttp2_settings`. -/
def H2SessionConfig.settings (config : H2SessionConfig) : List (Nat × Nat) :=
  [(0x08, 1), (0x2b60, 1), (0x2b61, config.wtInitialMaxData % 2 ^ 32),
    (0x2b62, config.wtInitialMaxStreamData % 2 ^ 32),
    (0x2b63, config.wtInitialMaxStreamData % 2 ^ 32),
    (0x2b66, config.wtInitialMaxStreamData % 2 ^ 32),
    (0x2b64, config.wtInitialMaxStreamsUni % 2 ^ 32),
    (0x2b65, config.wtInitialMaxStreamsBidi % 2 ^ 32)]

/-- What the peer has read then. -/
def H2SessionConfig.advertised (config : H2SessionConfig) : PeerSettings where
  enableConnectProtocol := true
  wtEnabled := true
  wtInitialMaxData := config.wtInitialMaxData
  wtInitialMaxStreamDataUni := config.wtInitialMaxStreamData
  wtInitialMaxStreamDataBidiLocal := config.wtInitialMaxStreamData
  wtInitialMaxStreamDataBidiRemote := config.wtInitialMaxStreamData
  wtInitialMaxStreamsUni := config.wtInitialMaxStreamsUni
  wtInitialMaxStreamsBidi := config.wtInitialMaxStreamsBidi

namespace H2Session

/-! ## The inputs -/

def settingsInputs (config : H2SessionConfig) : List Input :=
  config.settings.map fun e => .recvSettingsEntry e.1 e.2

/-- A HEADERS frame up to its last header. -/
def headersInputs (sessionId : Int) (headers : HeaderList) : List Input :=
  .beginHeaders sessionId :: headers.map fun h => .recvHeader sessionId h.1 h.2

/-- What a client with the configuration `own` does and reads. -/
def clientOpening (other : H2SessionConfig) (sessionId : Int) (url origin : Bytes)
    (flush : List WriteCallback) : List Input :=
  settingsInputs other ++ [.connect url origin sessionId flush] ++
    headersInputs sessionId (acceptHeaders other) ++ [.endHeaders sessionId none]

/-- What a server reads and does; `other` is the configuration of the client. -/
def serverOpening (other : H2SessionConfig) (sessionId : Int) (authority path origin : Bytes)
    (flush resetFlush : List WriteCallback) : List Input :=
  settingsInputs other ++ headersInputs sessionId (connectHeaders other authority path origin) ++
    [.endHeaders sessionId none, .acceptSession sessionId none flush resetFlush]

/-- The entry of the session then. -/
def opened (own other : H2SessionConfig) (sessionId : Int) : WtSessionInfo :=
  { applyInitLimits (newSession other.advertised own sessionId)
      { u := some other.wtInitialMaxStreamData, bl := some other.wtInitialMaxStreamData,
        br := some other.wtInitialMaxStreamData } with
    isEstablished := true }

/-! ## What they lead to -/

section Opening

variable {own other : H2SessionConfig} {sessionId : Int} {s : H2Session}

/-- The limits of an accepted configuration are announced as they are. -/
theorem run_settings (hcheck : other.check = .ok ()) (s : H2Session) :
    s.run (settingsInputs other) = { s with peer := other.advertised } := by
  rcases H2SessionConfig.check_ok hcheck with ⟨hdata, hstream, hbidi, huni⟩
  have hcast : ∀ {value : Nat}, value ≤ kMaxSettingsValue → value % 2 ^ 32 = value :=
    fun hle => Nat.mod_eq_of_lt (Nat.lt_succ_of_le hle)
  unfold settingsInputs H2SessionConfig.settings H2SessionConfig.advertised
  rw [hcast hdata, hcast hstream, hcast hbidi, hcast huni]
  simp only [List.map_cons, List.map_nil, run, List.foldl_cons, List.foldl_nil, step,
    onRecvSettingsEntry]
  simp

/-- Behind a HEADERS frame its headers are pending, and nothing else has changed. -/
theorem run_recvHeaders (headers : HeaderList) {front : HeaderList}
    (h : s.pendingHeaders.find? sessionId = some front) :
    ∃ p, s.run (headers.map fun h => Input.recvHeader sessionId h.1 h.2) =
        { s with pendingHeaders := p } ∧ p.find? sessionId = some (front ++ headers) := by
  induction headers generalizing s front with
  | nil =>
      refine ⟨s.pendingHeaders, rfl, ?_⟩
      rw [List.append_nil]
      exact h
  | cons header rest ih =>
      have hnext : (s.onRecvHeader sessionId header.1 header.2).pendingHeaders.find? sessionId =
          some (front ++ [header]) := by
        unfold onRecvHeader
        rw [OrdMap.find?_insert_self, h]
        rfl
      rcases ih hnext with ⟨p, hrun, hp⟩
      refine ⟨p, hrun, ?_⟩
      rw [hp, List.append_assoc]
      rfl

theorem run_headers (s : H2Session) (sessionId : Int) (headers : HeaderList) :
    (s.run (headersInputs sessionId headers)).pendingHeaders.find? sessionId = some headers ∧
      (s.run (headersInputs sessionId headers)).view sessionId = s.view sessionId ∧
      (s.run (headersInputs sessionId headers)).isServer = s.isServer ∧
      (s.run (headersInputs sessionId headers)).config = s.config ∧
      (s.run (headersInputs sessionId headers)).peer = s.peer := by
  have hfirst : (s.onBeginHeaders sessionId).pendingHeaders.find? sessionId = some [] :=
    OrdMap.find?_insert_self _ _ _
  rcases run_recvHeaders headers hfirst with ⟨p, hrun, hp⟩
  have hall : s.run (headersInputs sessionId headers) = { s with pendingHeaders := p } := hrun
  rw [hall]
  exact ⟨hp, rfl, rfl, rfl, rfl⟩

/-- The view behind an input, when its calls are known. -/
theorem step_view {input : Input} {calls : List Call} (h : s.callsOf sessionId input = calls) :
    (s.step input).view sessionId =
      calls.foldl (View.call s.isServer s.config sessionId) (s.view sessionId) := by
  have hpath := (step_calls s sessionId input).path
  rw [h] at hpath
  exact view_of_path hpath

theorem lastHeader_connect (authority path origin : Bytes) :
    lastHeader (connectHeaders other authority path origin) (ascii "webtransport-init") =
      some (encodeWebtransportInit other) := by
  have hmethod : ascii ":method" ≠ ascii "webtransport-init" := by decide
  have hscheme : ascii ":scheme" ≠ ascii "webtransport-init" := by decide
  have hauthority : ascii ":authority" ≠ ascii "webtransport-init" := by decide
  have hpath : ascii ":path" ≠ ascii "webtransport-init" := by decide
  have hprotocol : ascii ":protocol" ≠ ascii "webtransport-init" := by decide
  have horigin : ascii "origin" ≠ ascii "webtransport-init" := by decide
  unfold lastHeader connectHeaders
  split_ifs <;> simp [hmethod, hscheme, hauthority, hpath, hprotocol, horigin]

theorem lastHeader_accept :
    lastHeader (acceptHeaders other) (ascii "webtransport-init") =
      some (encodeWebtransportInit other) := by
  have hstatus : ascii ":status" ≠ ascii "webtransport-init" := by decide
  simp [lastHeader, acceptHeaders, hstatus]

/-- Nothing is buffered, so there is nothing to process. -/
theorem processCapsules_idle {sc : SessionScope} {w : WtSessionInfo} (hentry : sc.entry = some w)
    (hbuffer : w.capsuleBuffer = []) : sc.processCapsules [] = sc := by
  have hself : w.withBuffer [] = w := by
    cases w
    cases hbuffer
    rfl
  have happended : sc.appendBuffer [] = sc := by
    have hset := SessionScope.setEntry_self hentry
    unfold SessionScope.appendBuffer
    rw [hentry, Option.map_some, List.append_nil, hbuffer, hself]
    exact hset
  rw [SessionScope.processCapsules_eq_loop, happended]
  refine SessionScope.loop_of_stop (SessionScope.loopTurn_idle ?_)
  intro w' hw'
  cases hentry.symm.trans hw'
  exact hbuffer

/-- What a created endpoint sees of the session once the limits of the peer are read. -/
theorem create_settings {isServer : Bool} (h : create isServer own = .ok s)
    (hcheck : other.check = .ok ()) (sessionId : Int) :
    (s.run (settingsInputs other)).view sessionId = ⟨none, []⟩ ∧
      (s.run (settingsInputs other)).isServer = isServer ∧
      (s.run (settingsInputs other)).config = own ∧
      (s.run (settingsInputs other)).peer = other.advertised ∧
      (s.run (settingsInputs other)).goawayReceived = false := by
  rcases create_view h sessionId with ⟨hview, hrole, hconfig⟩
  rw [run_settings hcheck]
  refine ⟨hview, hrole, hconfig, rfl, ?_⟩
  unfold create at h
  rw [check_of_create h] at h
  cases h
  rfl

/-- Applying the parsed WebTransport-Init of the peer, and being established. -/
theorem establish_opened (hcheck : other.check = .ok ()) {headers : HeaderList}
    (hinit : lastHeader headers (ascii "webtransport-init") = some (encodeWebtransportInit other))
    {sc : SessionScope}
    (hentry : sc.entry = some (newSession other.advertised own sessionId)) :
    establish headers sc =
      ((sc.setEntry (opened own other sessionId)).pushEvent
        { type := .sessionReady, headers := headers }).sendInitialLimits := by
  have hlt : other.wtInitialMaxStreamData < 2 ^ 64 :=
    lt_of_le_of_lt (H2SessionConfig.check_ok hcheck).2.1 (by decide)
  unfold establish
  rw [hentry, hinit, Option.bind_some, parse_encode other hlt]
  rfl

/-- The session of a client behind the opening. -/
theorem clientOpening_view (h : create false own = .ok s) (hcheck : other.check = .ok ())
    {url origin : Bytes} (hurl : parseAuthorityPath url ≠ none) (hid : 0 ≤ sessionId)
    {flush : List WriteCallback} (hflush : closesOf sessionId flush = []) :
    ∃ es, (s.run (clientOpening other sessionId url origin flush)).view sessionId =
        ⟨some (opened own other sessionId), es⟩ ∧
      Effect.capsules es = own.initialLimits ∧ Effect.Delivers es [] := by
  rcases create_settings h hcheck sessionId with ⟨hview, hrole, hconfig, hpeer, hgoaway⟩
  have hrun : s.run (clientOpening other sessionId url origin flush) =
      (((s.run (settingsInputs other)).step (.connect url origin sessionId flush)).run
        (headersInputs sessionId (acceptHeaders other))).step (.endHeaders sessionId none) := by
    unfold clientOpening
    rw [run_append, run_append, run_append]
    rfl
  rw [hrun]
  generalize s.run (settingsInputs other) = s₁ at hview hrole hconfig hpeer hgoaway
  -- The CONNECT creates the entry.
  have hconnectCalls : s₁.callsOf sessionId (.connect url origin sessionId flush) =
      [.request (newSession other.advertised own sessionId) []] := by
    rcases Option.ne_none_iff_exists'.1 hurl with ⟨target, htarget⟩
    have hready : s₁.isWebtransportReady = true := by
      unfold isWebtransportReady
      rw [hpeer]
      rfl
    simp only [callsOf, connectCalls, hrole, hready, hgoaway, htarget, onSession, flushCalls,
      hflush, hpeer, hconfig, Bool.false_eq_true, Bool.not_true, if_false, if_true, not_lt.2 hid,
      ite_self, List.append_nil]
  have hconnected := step_view hconnectCalls
  have hsees := step_calls s₁ sessionId (.connect url origin sessionId flush)
  rw [hview] at hconnected
  generalize s₁.step (.connect url origin sessionId flush) = s₂ at hconnected hsees ⊢
  -- The 2xx establishes it.
  rcases run_headers s₂ sessionId (acceptHeaders other) with
    ⟨hpending, hview₃, hrole₃, hconfig₃, -⟩
  generalize s₂.run (headersInputs sessionId (acceptHeaders other)) = s₃
    at hpending hview₃ hrole₃ hconfig₃ ⊢
  rw [hconnected] at hview₃
  have hentry : s₃.wtSessions.find? sessionId = some (newSession other.advertised own sessionId) :=
    congrArg View.entry hview₃
  have hcalls : s₃.callsOf sessionId (.endHeaders sessionId none) =
      [.establish (acceptHeaders other)] := by
    have hsuccess : ((acceptHeaders other).any fun h =>
        h.1 = ascii ":status" && h.2.head? = some 50) = true := rfl
    simp only [callsOf, headerCalls, hpending, hrole₃, hsees.role, hrole, responseCalls, hsuccess,
      hentry, Option.isSome_some, Bool.and_self, if_true, onSession, Bool.false_eq_true, if_false]
  rw [step_view hcalls, hview₃, hconfig₃, hsees.config, hconfig]
  simp only [List.foldl_cons, List.foldl_nil, View.call, SessionScope.call]
  rw [establish_opened hcheck lastHeader_accept rfl]
  refine ⟨_, rfl, rfl, ?_, fun id => ⟨rfl, rfl⟩⟩
  intro e he
  simp only [SessionScope.sendInitialLimits, SessionScope.pushEvent, SessionScope.perform,
    SessionScope.setEntry, List.nil_append, List.cons_append, List.mem_cons, List.not_mem_nil,
    or_false] at he
  rcases he with rfl | rfl | rfl | rfl <;> rfl

/-- The session of a server behind the opening. -/
theorem serverOpening_view (h : create true own = .ok s) (hcheck : other.check = .ok ())
    {authority path origin : Bytes}
    (horigin : verifyOrigin own (connectHeaders other authority path origin) = true)
    (hid : 0 < sessionId ∧ sessionId % 2 ≠ 0) {flush resetFlush : List WriteCallback}
    (hflush : closesOf sessionId flush = []) :
    ∃ es, (s.run (serverOpening other sessionId authority path origin flush resetFlush)).view
        sessionId = ⟨some (opened own other sessionId), es⟩ ∧
      Effect.capsules es = own.initialLimits ∧ Effect.Delivers es [] := by
  have hlt : other.wtInitialMaxStreamData < 2 ^ 64 :=
    lt_of_le_of_lt (H2SessionConfig.check_ok hcheck).2.1 (by decide)
  rcases create_settings h hcheck sessionId with ⟨hview, hrole, hconfig, hpeer, -⟩
  have hrun : s.run (serverOpening other sessionId authority path origin flush resetFlush) =
      (((s.run (settingsInputs other)).run
        (headersInputs sessionId (connectHeaders other authority path origin))).step
          (.endHeaders sessionId none)).step (.acceptSession sessionId none flush resetFlush) := by
    unfold serverOpening
    rw [run_append, run_append]
    rfl
  rw [hrun]
  generalize s.run (settingsInputs other) = s₁ at hview hrole hconfig hpeer
  rcases run_headers s₁ sessionId (connectHeaders other authority path origin) with
    ⟨hpending, hview₂, hrole₂, hconfig₂, hpeer₂⟩
  generalize s₁.run (headersInputs sessionId (connectHeaders other authority path origin)) = s₂
    at hpending hview₂ hrole₂ hconfig₂ hpeer₂ ⊢
  rw [hview] at hview₂
  rw [hrole] at hrole₂
  rw [hconfig] at hconfig₂
  rw [hpeer] at hpeer₂
  -- The request creates the entry.
  let requested := applyInitLimits (newSession other.advertised own sessionId)
    { u := some other.wtInitialMaxStreamData, bl := some other.wtInitialMaxStreamData,
      br := some other.wtInitialMaxStreamData }
  have hrequestCalls : s₂.callsOf sessionId (.endHeaders sessionId none) = [.request requested
      [{ type := .sessionReady, headers := connectHeaders other authority path origin }]] := by
    have hmethod : (connectHeaders other authority path origin).contains
        (ascii ":method", ascii "CONNECT") = true := by
      simp [connectHeaders]
    have hprotocol : (connectHeaders other authority path origin).contains
        (ascii ":protocol", ascii "webtransport") = true := by
      simp [connectHeaders]
    have hcreated : s₂.requestedSession sessionId (connectHeaders other authority path origin) =
        some requested := by
      simp only [requestedSession, lastHeader_connect, parse_encode other hlt, Option.map_some,
        hpeer₂, hconfig₂, requested]
    simp only [callsOf, headerCalls, hpending, hrole₂, requestCalls, hmethod, hprotocol,
      Bool.and_self, if_true, hconfig₂, horigin, Bool.not_true, Bool.false_eq_true, if_false,
      hcreated, onSession]
  have hview₃ := step_view hrequestCalls
  have hsees₃ := step_calls s₂ sessionId (.endHeaders sessionId none)
  rw [hview₂, hrole₂, hconfig₂] at hview₃
  generalize s₂.step (.endHeaders sessionId none) = s₃ at hview₃ hsees₃ ⊢
  have hrole₃ : s₃.isServer = true := hsees₃.role.trans hrole₂
  have hconfig₃ : s₃.config = own := hsees₃.config.trans hconfig₂
  -- Its acceptance establishes it, finds nothing buffered and sends the limits.
  have hdrained : ((s₃.callNg (.submitResponse sessionId (acceptHeaders s₃.config))).drainAccepted
      sessionId flush).view sessionId = ⟨some (opened own other sessionId), [.event
        { type := .sessionReady, sessionId := sessionId,
          headers := connectHeaders other authority path origin }]⟩ := by
    have hsees := @Sees.drainAccepted sessionId
      (s₃.callNg (.submitResponse sessionId (acceptHeaders s₃.config))) sessionId flush
    have hcalls : onSession sessionId sessionId .markEstablished ++
        (s₃.callNg (.submitResponse sessionId (acceptHeaders s₃.config))).flushCalls
          sessionId flush ++
        onSession sessionId sessionId .drain = [.markEstablished, .drain] := by
      simp only [onSession, if_true, flushCalls, hflush, ite_self, List.append_nil]
      rfl
    rw [hcalls] at hsees
    have hview := view_of_path hsees.path
    have hstart : (s₃.callNg (.submitResponse sessionId (acceptHeaders s₃.config))).view sessionId =
        s₃.view sessionId := rfl
    rw [hstart, hview₃] at hview
    rw [hview]
    simp only [List.foldl_cons, List.foldl_nil, View.call, SessionScope.call,
      SessionScope.markEstablished]
    rw [processCapsules_idle rfl rfl]
    rfl
  have hdrainedRole : ((s₃.callNg (.submitResponse sessionId (acceptHeaders s₃.config))
      ).drainAccepted sessionId flush).isServer = true ∧
      ((s₃.callNg (.submitResponse sessionId (acceptHeaders s₃.config))).drainAccepted
        sessionId flush).config = own := by
    have hsees := @Sees.drainAccepted sessionId
      (s₃.callNg (.submitResponse sessionId (acceptHeaders s₃.config))) sessionId flush
    exact ⟨hsees.role.trans hrole₃, hsees.config.trans hconfig₃⟩
  have haccept : s₃.step (.acceptSession sessionId none flush resetFlush) =
      ((s₃.callNg (.submitResponse sessionId (acceptHeaders s₃.config))).drainAccepted
        sessionId flush).inScope sessionId (·.call .sendInitialLimits) := by
    have hentry := congrArg View.entry hdrained
    have hentry' : ((s₃.callNg (.submitResponse sessionId (acceptHeaders s₃.config))).drainAccepted
        sessionId flush).wtSessions.find? sessionId = some (opened own other sessionId) := hentry
    simp only [H2Session.step, acceptSession, hrole₃, Bool.not_true, Bool.false_eq_true, false_or,
      not_or.2 ⟨not_le.2 hid.1, hid.2⟩, if_false, finishAccept, hentry']
    rfl
  rw [haccept, view_call_self, hdrained, hdrainedRole.1, hdrainedRole.2]
  refine ⟨_, rfl, rfl, ?_, fun id => ⟨rfl, rfl⟩⟩
  intro e he
  simp only [SessionScope.call, SessionScope.sendInitialLimits, SessionScope.perform,
    List.nil_append, List.cons_append, List.mem_cons, List.not_mem_nil, or_false] at he
  rcases he with rfl | rfl | rfl | rfl <;> rfl

end Opening

/-! ## The session then -/

section Opened

variable {isServer : Bool} {own other : H2SessionConfig}

/-- The limits of a WebTransport-Init are those of the SETTINGS. -/
theorem opened_credits (own other : H2SessionConfig) (sessionId : Int) :
    Credits other (opened own other sessionId) := by
  have hrecord : ∀ value : Nat, recordReceivedLimit (settingsLimit value) value = some value := by
    intro value
    unfold settingsLimit
    split_ifs
    · exact if_neg (Nat.lt_irrefl value)
    · rfl
  refine ⟨?_, ?_⟩
  · intro isUni isLocal
    cases isUni <;> cases isLocal <;>
      exact Nat.max_self other.wtInitialMaxStreamData
  · intro isUni isLocal limit hlimit
    have hsome : (opened own other sessionId).advertisedStreamSendCredit isUni isLocal =
        recordReceivedLimit (settingsLimit other.wtInitialMaxStreamData)
          other.wtInitialMaxStreamData := by
      cases isUni <;> cases isLocal <;> rfl
    rw [hsome, hrecord] at hlimit
    exact (Option.some.inj hlimit).ge

/-- What the limits of an accepted configuration say may be said first. -/
theorem lawful_initialLimits (isServer : Bool) (hcheck : own.check = .ok ()) :
    Lawful isServer own (own.initialLimits.map Capsule.received) := by
  rcases H2SessionConfig.check_ok hcheck with ⟨-, -, hbidi, huni⟩
  have hlimit : kMaxSettingsValue ≤ kMaxStreamsLimit := by decide
  have hdata : Lawful isServer own ([] ++ [.maxData own.wtInitialMaxData]) :=
    (lawful_nil isServer own).concat (le_refl own.wtInitialMaxData)
  have hstreams : Lawful isServer own
      ([] ++ [.maxData own.wtInitialMaxData] ++ [.maxStreams true own.wtInitialMaxStreamsBidi]) :=
    hdata.concat ⟨hbidi.trans hlimit, le_refl own.wtInitialMaxStreamsBidi⟩
  exact hstreams.concat ⟨huni.trans hlimit, le_refl own.wtInitialMaxStreamsUni⟩

/-- A session that was just opened stands, with its limits queued. -/
theorem standing_opened (isServer : Bool) (hown : own.check = .ok ())
    (hother : other.check = .ok ()) (sessionId : Int) :
    Standing isServer own other (opened own other sessionId) (fun _ => []) own.initialLimits
      [] := by
  rcases H2SessionConfig.check_ok hown with ⟨hdata, -, hbidi, huni⟩
  rcases H2SessionConfig.check_ok hother with ⟨hdata', -, hbidi', huni'⟩
  have hlimit : kMaxSettingsValue ≤ kMaxStreamsLimit := by decide
  have hvarint : kMaxSettingsValue ≤ kMaxQuicVarint := kMaxSettingsValue_le
  have hsettings : ∀ {value limit : Nat}, settingsLimit value = some limit → limit ≤ value := by
    intro value limit hsome
    unfold settingsLimit at hsome
    split_ifs at hsome
    exact (Option.some.inj hsome).ge
  have hnone : ∀ id, (opened own other sessionId).streams.find? id = none := fun _ => rfl
  have hsilent : ∀ id, about id (own.initialLimits.map Capsule.received) = [] := fun _ => rfl
  have hempty : ∀ id, (opened own other sessionId).receivedMaxStreamDataById.find? id = none :=
    fun _ => rfl
  have hstream : ∀ id, StreamAccount isServer own other (opened own other sessionId) id
      (about id (own.initialLimits.map Capsule.received)) (about id []) := by
    intro id
    rw [hsilent]
    refine ⟨?_, fun _ => Or.inr ⟨rfl, rfl, rfl⟩, Nat.zero_le _, fun _ _ => ⟨rfl, rfl⟩, ?_, ?_, ?_,
      ?_, ?_⟩
    · intro info hfind
      cases (hnone id).symm.trans hfind
    · intro _ hor
      exact hor.elim (fun hne => absurd (hnone id) hne) (fun hne => absurd rfl hne)
    · exact fun hmem => absurd hmem (Finset.notMem_empty id)
    · exact fun hstop => absurd hstop Bool.false_ne_true
    · exact fun hmem => absurd hmem (Finset.notMem_empty id)
    · intro limit hfind
      cases (hempty id).symm.trans hfind
  have hcount : ∀ isUni, CountAccount own other isUni (opened own other sessionId)
      (own.initialLimits.map Capsule.received) [] := by
    intro isUni
    cases isUni with
    | true =>
        exact ⟨.one le_rfl, huni.trans hlimit, rfl, huni'.trans hlimit, fun _ => hsettings, rfl,
          Nat.zero_le _⟩
    | false =>
        exact ⟨.one le_rfl, hbidi.trans hlimit, rfl, hbidi'.trans hlimit, fun _ => hsettings, rfl,
          Nat.zero_le _⟩
  have haccount : Account isServer own other (opened own other sessionId)
      (own.initialLimits.map Capsule.received) [] :=
    ⟨lawful_initialLimits isServer hown, opened_credits own other sessionId, hstream, rfl, rfl,
      .one le_rfl, rfl, fun _ => hsettings, hcount⟩
  have hledger : Ledger (opened own other sessionId) (fun _ => []) own.initialLimits := by
    refine ⟨?_, fun id => List.nil_prefix⟩
    intro id
    have hnothing : Capsule.sentOn id own.initialLimits = [] := rfl
    have hnew : (opened own other sessionId).sendHalf id = none := rfl
    rw [hnothing, hnew]
    refine ⟨rfl, fun _ => rfl, fun _ => by simp [Capsule.hasFin], ?_, ?_, ?_⟩ <;>
      exact fun half hhalf => absurd hhalf.symm (Option.some_ne_none half)
  refine ⟨rfl, rfl, rfl, ?_, ?_, ?_, ?_, ⟨haccount, hledger⟩, ?_⟩
  · refine ⟨?_, Nat.zero_le _⟩
    intro id info hfind
    cases (hnone id).symm.trans hfind
  · refine ⟨hdata'.trans hvarint, hbidi'.trans hlimit, huni'.trans hlimit, rfl, rfl, ?_⟩
    intro id info hfind
    cases (hnone id).symm.trans hfind
  · have hrange : ∀ {c : Capsule} {value : Nat}, c.varintFields = [value] →
        value ≤ kMaxQuicVarint → c.applicationErrorCode = 0 → c.closeMessage = [] →
          c.Encodable := by
      intro c value hfields hle hcode hmessage
      refine ⟨?_, hcode.trans_le (Nat.zero_le _), ?_, fun hne => absurd hmessage hne⟩
      · intro value' hvalue'
        rw [hfields] at hvalue'
        rw [List.mem_singleton.1 hvalue']
        exact hle
      · rw [hmessage]
        exact Nat.zero_le _
    intro c hc
    simp only [H2SessionConfig.initialLimits, List.mem_cons, List.not_mem_nil, or_false] at hc
    rcases hc with rfl | rfl | rfl
    · exact hrange rfl (hdata.trans hvarint) rfl rfl
    · exact hrange rfl (hbidi.trans hvarint) rfl rfl
    · exact hrange rfl (huni.trans hvarint) rfl rfl
  · intro c hc
    simp only [H2SessionConfig.initialLimits, List.mem_cons, List.not_mem_nil, or_false] at hc
    rcases hc with rfl | rfl | rfl
    · exact WtSessionInfo.inRange_one rfl rfl (hdata.trans hvarint)
    · exact WtSessionInfo.inRange_one rfl rfl (hbidi.trans hvarint)
    · exact WtSessionInfo.inRange_one rfl rfl (huni.trans hvarint)
  · intro id hgrants
    rw [hsilent] at hgrants
    exact absurd rfl hgrants

end Opened

end H2Session

end H2
end WebTransport
