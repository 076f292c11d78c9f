import WebTransport.H2.Runs
import WebTransport.H2.Session

/-!
# H2.Calls — an `H2Session` seen from one session

A callback or an API call runs session methods on the entry of one id after the other.  `View` is
what a session id sees of it: its entry in `wt_sessions_` and what was done in its name.

* `Call`       : the session methods, `Call.Allowed` when the code runs them;
* `callsOf`    : the methods an input runs on one session id;
* `step_calls` : seen from a session id, an input is exactly these calls;
* `run_calls`  : the same for a run.

A property of a session over whole runs of the connection is therefore proved call by call.
-/

namespace WebTransport
namespace H2

open Bindings

/-- A session method that a callback or the API runs on the entry of an id. -/
inductive Call
  /-- `wt_sessions_[session_id] = ...`, with the event of the server. -/
  | request (w : WtSessionInfo) (events : List H2Event)
  /-- the client's 2xx -/
  | establish (headers : HeaderList)
  /-- the client's response that is not 2xx -/
  | beRejected (status : Bytes)
  | reject (status : Int) (rv : Option NgError)
  | recvEstablished (data : Bytes)
  | bufferPreAccept (data : Bytes)
  | handleEndStream
  | terminatePreAcceptEndStreamSession
  | markEstablished
  | clearBuffer
  /-- `process_capsules` on what was buffered before acceptance -/
  | drain
  | sendInitialLimits
  | streamClose (errorCode : Option Nat)
  /-- the application's calls -/
  | api (op : Op)

namespace SessionScope

/-- The session's part of `on_stream_close_callback`. -/
def closeStream (errorCode : Option Nat) (sc : SessionScope) : SessionScope :=
  let sc :=
    match sc.entry with
    | none => sc
    | some _ =>
        { sc.pushEvent { type := .sessionClosed, errorCode := errorCode.getD 0 } with
          entry := none }
  (sc.perform .eraseStreamBuffers).perform .discardStreamRecvBytes

/-- Run a session method. -/
def call (c : Call) (sc : SessionScope) : SessionScope :=
  match c with
  | .request w events => events.foldl pushEvent (sc.setEntry w)
  | .establish headers => H2Session.establish headers sc
  | .beRejected status => H2Session.beRejected status sc
  | .reject status rv => H2Session.reject status rv sc
  | .recvEstablished data => sc.recvEstablished data
  | .bufferPreAccept data => sc.bufferPreAccept data
  | .handleEndStream => sc.handleEndStream
  | .terminatePreAcceptEndStreamSession => sc.terminatePreAcceptEndStreamSession
  | .markEstablished => sc.markEstablished
  | .clearBuffer => sc.clearBuffer
  | .drain => sc.processCapsules []
  | .sendInitialLimits => sc.sendInitialLimits
  | .streamClose errorCode => sc.closeStream errorCode
  | .api op => sc.step op

/-! ## Calls stay in their scope -/

theorem foldl_pushEvent_identity (events : List H2Event) (sc : SessionScope) :
    (events.foldl pushEvent sc).identity = sc.identity := by
  induction events generalizing sc with
  | nil => rfl
  | cons e rest ih => exact ih (sc.pushEvent e)

theorem onEntry_identity (f : WtSessionInfo → Queued) (sc : SessionScope) :
    (sc.onEntry f).identity = sc.identity := by
  unfold onEntry
  cases sc.entry <;> rfl

theorem step_identity (sc : SessionScope) (op : Op) : (sc.step op).identity = sc.identity := by
  cases op with
  | openStream isUnidirectional => exact onEntry_identity _ sc
  | sendStreamData streamId data fin => exact onEntry_identity _ sc
  | resetStream streamId errorCode =>
      simp only [step]
      split_ifs
      · rfl
      · exact onEntry_identity _ sc
  | stopSending streamId errorCode =>
      simp only [step]
      split_ifs
      · rfl
      · exact onEntry_identity _ sc
  | sendDatagram data => exact onEntry_identity _ sc
  | drainSession => exact onEntry_identity _ sc
  | closeSession errorCode message => exact closeSession_identity _ _ _
  | receive c => exact processCapsules_identity _ _

theorem recvEstablished_identity (sc : SessionScope) (data : Bytes) :
    (sc.recvEstablished data).identity = sc.identity := by
  have hloop := processCapsules_identity sc data
  unfold recvEstablished
  dsimp only
  cases (sc.processCapsules data).entry with
  | none => exact hloop
  | some w =>
      dsimp only
      split_ifs
      · exact hloop
      · exact hloop

/-- A call never changes whose session it is. -/
theorem call_identity (c : Call) (sc : SessionScope) : (sc.call c).identity = sc.identity := by
  cases c with
  | request w events => exact foldl_pushEvent_identity events _
  | establish headers =>
      simp only [call, H2Session.establish]
      cases sc.entry <;> rfl
  | beRejected status =>
      simp only [call, H2Session.beRejected]
      cases sc.entry <;> rfl
  | reject status rv =>
      simp only [call, H2Session.reject]
      cases rv <;> cases hentry : sc.entry <;> split_ifs <;> simp [pushEvent, perform, hentry] <;> rfl
  | recvEstablished data => exact recvEstablished_identity sc data
  | bufferPreAccept data => rfl
  | handleEndStream =>
      simp only [call, SessionScope.handleEndStream]
      cases sc.entry with
      | none => rfl
      | some w =>
          dsimp only
          split_ifs <;> rfl
  | terminatePreAcceptEndStreamSession =>
      simp only [call, SessionScope.terminatePreAcceptEndStreamSession]
      cases sc.entry with
      | none => rfl
      | some w =>
          dsimp only
          split_ifs <;> rfl
  | markEstablished => rfl
  | clearBuffer => rfl
  | drain => exact processCapsules_identity sc []
  | sendInitialLimits => rfl
  | streamClose errorCode =>
      simp only [call, closeStream]
      cases sc.entry <;> rfl
  | api op => exact step_identity sc op

theorem call_sessionId (c : Call) (sc : SessionScope) : (sc.call c).sessionId = sc.sessionId :=
  congrArg (fun i => i.2.2) (call_identity c sc)

end SessionScope

/-! ## A rule for the loop -/

namespace SessionScope

/-- The scope in front of the turn after `n` dispatched capsules. -/
def afterTurns : Nat → SessionScope → Option SessionScope
  | 0, sc => some sc
  | n + 1, sc =>
      match sc.loopTurn with
      | .stop _ => none
      | .again sc' => afterTurns n sc'

/-- Every turn of the loop finds an entry with `P`. -/
def EachTurn (P : WtSessionInfo → Prop) (sc : SessionScope) : Prop :=
  ∀ n sc' w, afterTurns n sc = some sc' → sc'.entry = some w → P w

theorem EachTurn.next {P : WtSessionInfo → Prop} {sc sc' : SessionScope} (h : sc.EachTurn P)
    (hturn : sc.loopTurn = .again sc') : sc'.EachTurn P := by
  intro n sc'' w hafter hentry
  refine h (n + 1) sc'' w ?_ hentry
  simp only [afterTurns, hturn]
  exact hafter

/-- What the error of an oversized capsule and a turn that dispatches a capsule keep, the loop
keeps. -/
theorem loop_turns {Inv : SessionScope → Prop} {P : WtSessionInfo → Prop}
    (hbuffer : ∀ (sc : SessionScope) (w : WtSessionInfo) (buffer : Bytes), sc.entry = some w →
      Inv sc → Inv (sc.setEntry (w.withBuffer buffer)))
    (herror : ∀ (sc : SessionScope) (w : WtSessionInfo) (message : String), sc.entry = some w →
      w.isTerminated = false → P w → Inv sc → Inv (sc.reportWtError message))
    (hturn : ∀ (sc : SessionScope) (w : WtSessionInfo) (type size : Nat) (payload rest : Bytes),
      sc.entry = some w → w.isTerminated = false →
      readHead sc.config w.capsuleBuffer = .capsule type payload rest → P w → Inv sc →
      Inv ((((sc.setEntry (w.withBuffer rest)).perform (.dispatch type payload)).perform
        (.consumeRecvBytes size)).react (w.withBuffer rest) (readPayload type payload)))
    {sc : SessionScope} (hturns : sc.EachTurn P) (h : Inv sc) : Inv sc.loop := by
  refine loop_induction (P := fun sc sc' => sc.EachTurn P → Inv sc → Inv sc') ?_ ?_ ?_ ?_ ?_ sc
    hturns h
  · intro sc hentry hturns hinv
    exact hinv
  · intro sc w hentry hterm hturns hinv
    exact hbuffer sc w [] hentry hinv
  · intro sc w hentry hterm hhead hturns hinv
    exact hinv
  · intro sc w hentry hterm hhead hturns hinv
    -- An oversized capsule is an error that closes the session, and the buffer is cleared.
    have hreported := herror sc w "capsule payload exceeds limit" hentry hterm
      (hturns 0 sc w rfl hentry) hinv
    rcases closeOversized_entry hentry hterm with ⟨w', hw', -, -⟩
    cases hlast : (sc.reportWtError "capsule payload exceeds limit").entry with
    | none =>
        rw [closeOversized, hlast] at hw'
        cases hw'
    | some w'' =>
        have hcleared := hbuffer _ w'' [] hlast hreported
        have heq : sc.closeOversized =
            (sc.reportWtError "capsule payload exceeds limit").setEntry (w''.withBuffer []) := by
          simp only [closeOversized, hlast, Option.map_some, setEntry]
        rw [heq]
        exact hcleared
  · intro sc w type payload rest sc' hentry hterm hhead hsc' ih hturns hinv
    have hagain : sc.loopTurn = .again sc' := by
      rw [loopTurn_live hentry hterm, hhead, hsc']
    refine ih (hturns.next hagain) ?_
    rw [hsc', processCapsule, handleCapsule_eq rfl]
    exact hturn sc w type _ payload rest hentry hterm hhead (hturns 0 sc w rfl hentry) hinv

/-- What a dispatched capsule keeps and what the loop does around it keeps, the loop keeps. -/
theorem loop_rule {Inv : SessionScope → Prop} {P : WtSessionInfo → Prop}
    (hbuffer : ∀ (sc : SessionScope) (w : WtSessionInfo) (buffer : Bytes), sc.entry = some w →
      Inv sc → Inv (sc.setEntry (w.withBuffer buffer)))
    (hdispatch : ∀ (sc : SessionScope) (type size : Nat) (payload : Bytes), Inv sc →
      Inv ((sc.perform (.dispatch type payload)).perform (.consumeRecvBytes size)))
    (hreact : ∀ (sc : SessionScope) (w : WtSessionInfo) (buffer : Bytes) (r : Reading),
      r.Fits → sc.entry = some (w.withBuffer buffer) → w.isTerminated = false → P w → Inv sc →
      Inv (sc.react (w.withBuffer buffer) r))
    {sc : SessionScope} (hturns : sc.EachTurn P) (h : Inv sc) : Inv sc.loop := by
  refine loop_turns hbuffer ?_ ?_ hturns h
  · intro sc w message hentry hterm hw hinv
    have hself : sc.entry = some (w.withBuffer w.capsuleBuffer) := hentry
    exact hreact sc w w.capsuleBuffer (.wtError message) trivial hself hterm hw hinv
  · intro sc w type size payload rest hentry hterm _ hw hinv
    have hready := hdispatch _ type size payload (hbuffer sc w rest hentry hinv)
    exact hreact _ w rest (readPayload type payload) (readPayload_fits type payload) rfl hterm hw
      hready

/-- Data put into the buffer changes the buffer of an entry, if there is one. -/
theorem appendBuffer_rule {Inv : SessionScope → Prop}
    (hbuffer : ∀ (sc : SessionScope) (w : WtSessionInfo) (buffer : Bytes), sc.entry = some w →
      Inv sc → Inv (sc.setEntry (w.withBuffer buffer)))
    {sc : SessionScope} (data : Bytes) (h : Inv sc) : Inv (sc.appendBuffer data) := by
  cases hentry : sc.entry with
  | none =>
      have hself : sc.appendBuffer data = sc := by
        cases sc
        simp only [appendBuffer] at hentry ⊢
        rw [hentry, Option.map_none]
      rw [hself]
      exact h
  | some w =>
      have heq : sc.appendBuffer data = sc.setEntry (w.withBuffer (w.capsuleBuffer ++ data)) := by
        simp only [appendBuffer, hentry, Option.map_some, setEntry]
      rw [heq]
      exact hbuffer sc w _ hentry h

/-- The rule for `process_capsules`. -/
theorem processCapsules_rule {Inv : SessionScope → Prop} {P : WtSessionInfo → Prop}
    (hbuffer : ∀ (sc : SessionScope) (w : WtSessionInfo) (buffer : Bytes), sc.entry = some w →
      Inv sc → Inv (sc.setEntry (w.withBuffer buffer)))
    (hdispatch : ∀ (sc : SessionScope) (type size : Nat) (payload : Bytes), Inv sc →
      Inv ((sc.perform (.dispatch type payload)).perform (.consumeRecvBytes size)))
    (hreact : ∀ (sc : SessionScope) (w : WtSessionInfo) (buffer : Bytes) (r : Reading),
      r.Fits → sc.entry = some (w.withBuffer buffer) → w.isTerminated = false → P w → Inv sc →
      Inv (sc.react (w.withBuffer buffer) r))
    {sc : SessionScope} {data : Bytes} (hturns : (sc.appendBuffer data).EachTurn P) (h : Inv sc) :
    Inv (sc.processCapsules data) := by
  rw [processCapsules_eq_loop]
  exact loop_rule hbuffer hdispatch hreact hturns (appendBuffer_rule hbuffer data h)

theorem eachTurn_true (sc : SessionScope) : sc.EachTurn fun _ => True :=
  fun _ _ _ _ _ => trivial

end SessionScope

/-! ## The view of a session id -/

/-- What a session id sees of the connection: its entry, and everything done in its name. -/
structure View where
  entry : Option WtSessionInfo
  effects : List Effect

/-- The view behind a session method. -/
def View.call (isServer : Bool) (config : H2SessionConfig) (sessionId : Int) (v : View)
    (c : Call) : View :=
  let sc := SessionScope.call c
    { isServer := isServer, config := config, sessionId := sessionId, entry := v.entry }
  ⟨sc.entry, v.effects ++ sc.effects⟩

/-- An entry as `connect` or a CONNECT request makes it: nothing has happened yet, and the limits
given to the peer are those of the SETTINGS. -/
structure WtSessionInfo.Requested (config : H2SessionConfig) (w : WtSessionInfo) : Prop where
  established : w.isEstablished = false
  live : w.isTerminated = false
  endStream : w.preAcceptEndStream = false
  buffer : w.capsuleBuffer = []
  streams : w.streams = ∅
  released : w.releasedStreamIds = ∅
  sent : w.bytesSent = 0
  received : w.bytesReceived = 0
  maxData : w.maxDataRemote = config.wtInitialMaxData
  maxStreamsBidi : w.maxStreamsBidiRemote = config.wtInitialMaxStreamsBidi
  maxStreamsUni : w.maxStreamsUniRemote = config.wtInitialMaxStreamsUni

/-- When the code runs a method: the checks in front of it. -/
def Call.Allowed (isServer : Bool) (config : H2SessionConfig) (entry : Option WtSessionInfo) :
    Call → Prop
  | .request w events => w.Requested config ∧ ∀ e ∈ events, e.type = .sessionReady
  | .establish _ => isServer = false
  | .beRejected _ => isServer = false
  | .recvEstablished _ => ∃ w, entry = some w ∧ w.isTerminated = false ∧ w.isEstablished = true
  | .bufferPreAccept _ => ∃ w, entry = some w ∧ w.isTerminated = false ∧ w.isEstablished = false
  | .terminatePreAcceptEndStreamSession =>
      ∃ w, entry = some w ∧ w.isTerminated = false ∧ w.preAcceptEndStream = true
  | .sendInitialLimits =>
      ∃ w, entry = some w ∧ w.isTerminated = false ∧ w.preAcceptEndStream = false
  | .api op => ∀ c, op ≠ .receive c
  | _ => True

/-- One call, as the view sees it. -/
def Called (isServer : Bool) (config : H2SessionConfig) (sessionId : Int) (v : View) (c : Call)
    (v' : View) : Prop :=
  c.Allowed isServer config v.entry ∧ v' = v.call isServer config sessionId c

namespace H2Session

/-- The effects in the name of a session id. -/
def effectsOf (sessionId : Int) (trace : List (Int × Effect)) : List Effect :=
  trace.filterMap fun e => if e.1 = sessionId then some e.2 else none

/-- What a session id sees. -/
def view (s : H2Session) (sessionId : Int) : View :=
  ⟨s.wtSessions.find? sessionId, effectsOf sessionId s.trace⟩

/-- The fields that carrying out an effect leaves alone. -/
def kept (s : H2Session) : OrdMap Int WtSessionInfo × List (Int × Effect) × Bool ×
    H2SessionConfig × Bool × PeerSettings :=
  (s.wtSessions, s.trace, s.isServer, s.config, s.closed, s.peer)

theorem consumeConnectionRecvBytes_kept (s : H2Session) (size : Nat) :
    (s.consumeConnectionRecvBytes size).kept = s.kept := by
  unfold consumeConnectionRecvBytes
  dsimp only
  split_ifs <;> rfl

theorem perform_kept (sessionId : Int) (s : H2Session) (e : Effect) :
    (s.perform sessionId e).kept = s.kept := by
  cases e with
  | consumeRecvBytes size =>
      simp only [perform, consumeRecvBytes]
      split_ifs
      · rfl
      · cases s.unconsumedRecvBytes.find? sessionId with
        | none => rfl
        | some unconsumed =>
            dsimp only
            split_ifs
            · rfl
            · exact consumeConnectionRecvBytes_kept _ _
            · exact consumeConnectionRecvBytes_kept _ _
  | discardStreamRecvBytes =>
      simp only [perform, discardStreamRecvBytes]
      cases s.unconsumedRecvBytes.find? sessionId with
      | none => rfl
      | some remaining => exact consumeConnectionRecvBytes_kept _ _
  | _ => rfl

theorem foldl_perform_kept (sessionId : Int) (s : H2Session) (es : List Effect) :
    (es.foldl (perform sessionId) s).kept = s.kept := by
  induction es generalizing s with
  | nil => rfl
  | cons e es ih => exact (ih _).trans (perform_kept sessionId s e)

/-- The view reads the fields that effects leave alone. -/
theorem view_of_kept {s s' : H2Session} (h : s'.kept = s.kept) (sessionId : Int) :
    s'.view sessionId = s.view sessionId := by
  have hsessions : s'.wtSessions = s.wtSessions := congrArg (fun k => k.1) h
  have htrace : s'.trace = s.trace := congrArg (fun k => k.2.1) h
  unfold view
  rw [hsessions, htrace]

theorem effectsOf_append (sessionId : Int) (a b : List (Int × Effect)) :
    effectsOf sessionId (a ++ b) = effectsOf sessionId a ++ effectsOf sessionId b :=
  List.filterMap_append

theorem effectsOf_own (sessionId : Int) (es : List Effect) :
    effectsOf sessionId (es.map fun e => (sessionId, e)) = es := by
  unfold effectsOf
  rw [List.filterMap_map]
  simp

theorem effectsOf_other {sessionId streamId : Int} (h : streamId ≠ sessionId) (es : List Effect) :
    effectsOf sessionId (es.map fun e => (streamId, e)) = [] := by
  unfold effectsOf
  rw [List.filterMap_map, List.filterMap_eq_nil_iff]
  intro e _
  simp [h]

/-- A method run in the name of a session id is what its view says. -/
theorem view_call_self (s : H2Session) (sessionId : Int) (c : Call) :
    (s.inScope sessionId (·.call c)).view sessionId =
      (s.view sessionId).call s.isServer s.config sessionId c := by
  have hid : ((s.scope sessionId).call c).sessionId = sessionId := SessionScope.call_sessionId c _
  unfold inScope commit
  rw [view_of_kept (foldl_perform_kept _ _ _), hid]
  have hview : (s.view sessionId).call s.isServer s.config sessionId c =
      ⟨((s.scope sessionId).call c).entry,
        effectsOf sessionId s.trace ++ ((s.scope sessionId).call c).effects⟩ := rfl
  rw [hview]
  unfold view
  dsimp only
  rw [effectsOf_append, effectsOf_own]
  cases ((s.scope sessionId).call c).entry with
  | none => rw [OrdMap.find?_erase_self]
  | some w => rw [OrdMap.find?_insert_self]

/-- A method run in the name of another session is not seen. -/
theorem view_call_other (s : H2Session) {sessionId streamId : Int} (h : streamId ≠ sessionId)
    (c : Call) : (s.inScope streamId (·.call c)).view sessionId = s.view sessionId := by
  have hid : ((s.scope streamId).call c).sessionId = streamId := SessionScope.call_sessionId c _
  unfold inScope commit
  rw [view_of_kept (foldl_perform_kept _ _ _), hid]
  unfold view
  dsimp only
  rw [effectsOf_append, effectsOf_other h, List.append_nil]
  cases ((s.scope streamId).call c).entry with
  | none => rw [OrdMap.find?_erase_ne _ h.symm]
  | some w => rw [OrdMap.find?_insert_ne _ _ h.symm]

/-- Running a method keeps the role, the configuration, the connection open and the peer's
settings. -/
theorem inScope_kept (s : H2Session) (sessionId : Int) (f : SessionScope → SessionScope) :
    (s.inScope sessionId f).isServer = s.isServer ∧ (s.inScope sessionId f).config = s.config ∧
      (s.inScope sessionId f).closed = s.closed ∧ (s.inScope sessionId f).peer = s.peer := by
  unfold inScope commit
  have hkept := foldl_perform_kept (f (s.scope sessionId)).sessionId
    { s with
      wtSessions :=
        match (f (s.scope sessionId)).entry with
        | none => s.wtSessions.erase (f (s.scope sessionId)).sessionId
        | some w => s.wtSessions.insert (f (s.scope sessionId)).sessionId w
      trace := s.trace ++ (f (s.scope sessionId)).effects.map
        fun e => ((f (s.scope sessionId)).sessionId, e) } (f (s.scope sessionId)).effects
  exact ⟨congrArg (fun k => k.2.2.1) hkept, congrArg (fun k => k.2.2.2.1) hkept,
    congrArg (fun k => k.2.2.2.2.1) hkept, congrArg (fun k => k.2.2.2.2.2) hkept⟩

/-! ## The calls of an input -/

/-- A call made on one session, as another or the same sees it. -/
def onSession (sessionId streamId : Int) (c : Call) : List Call :=
  if streamId = sessionId then [c] else []

/-- The calls that write callbacks make. -/
def closesOf (sessionId : Int) (callbacks : List WriteCallback) : List Call :=
  callbacks.flatMap fun
    | .streamClose streamId errorCode => onSession sessionId streamId (.streamClose errorCode)
    | _ => []

/-- The calls of a `flush_output`. -/
def flushCalls (s : H2Session) (sessionId : Int) (flush : List WriteCallback) : List Call :=
  if s.closed then [] else closesOf sessionId flush

/-- The calls of `reject_session`. -/
def rejectCalls (s : H2Session) (sessionId streamId status : Int) (rv : Option NgError) :
    List Call :=
  if s.isServer ∧ 0 < streamId ∧ streamId % 2 ≠ 0 ∧ 200 ≤ status ∧ status < 600 then
    onSession sessionId streamId (.reject status rv)
  else []

/-- The entry a CONNECT request asks for; `none` is an unreadable WebTransport-Init. -/
def requestedSession (s : H2Session) (streamId : Int) (headers : HeaderList) :
    Option WtSessionInfo :=
  match lastHeader headers (ascii "webtransport-init") with
  | none => some (newSession s.peer s.config streamId)
  | some value =>
      (parseWebtransportInit value).map (applyInitLimits (newSession s.peer s.config streamId))

/-- The calls of `on_end_headers_callback` on a server. -/
def requestCalls (s : H2Session) (sessionId streamId : Int) (headers : HeaderList)
    (rv : Option NgError) : List Call :=
  if headers.contains (ascii ":method", ascii "CONNECT") &&
      headers.contains (ascii ":protocol", ascii "webtransport") then
    if !verifyOrigin s.config headers then s.rejectCalls sessionId streamId 403 rv
    else
      match s.requestedSession streamId headers with
      | none => s.rejectCalls sessionId streamId 400 rv
      | some w =>
          onSession sessionId streamId
            (.request w [{ type := .sessionReady, headers := headers }])
  else s.rejectCalls sessionId streamId 405 rv

/-- The calls of `on_end_headers_callback` on a client. -/
def responseCalls (s : H2Session) (sessionId streamId : Int) (headers : HeaderList) : List Call :=
  let isSuccess := headers.any fun h => h.1 = ascii ":status" && h.2.head? = some 50
  let status := (lastHeader headers (ascii ":status")).getD []
  if isSuccess && (s.wtSessions.find? streamId).isSome then
    onSession sessionId streamId (.establish headers)
  else if status ≠ [] ∧ status.head? ≠ some 49 ∧ status.head? ≠ some 50 then
    onSession sessionId streamId (.beRejected status)
  else []

/-- The calls of `on_end_headers_callback`. -/
def headerCalls (s : H2Session) (sessionId streamId : Int) (rv : Option NgError) : List Call :=
  match s.pendingHeaders.find? streamId with
  | none => []
  | some headers =>
      if s.isServer then s.requestCalls sessionId streamId headers rv
      else s.responseCalls sessionId streamId headers

/-- The calls of `on_recv_data_callback`. -/
def dataCalls (s : H2Session) (sessionId streamId : Int) (data : Bytes) (rv : Option NgError) :
    List Call :=
  match s.wtSessions.find? streamId with
  | none => []
  | some w =>
      if w.isTerminated then []
      else if data.length = 0 then []
      else if w.isEstablished then onSession sessionId streamId (.recvEstablished data)
      else if !s.isServer then []
      else if w.capsuleBuffer.length + data.length > s.config.wtPreAcceptBufferLimit then
        s.rejectCalls sessionId streamId 413 rv
      else onSession sessionId streamId (.bufferPreAccept data)

/-- The calls at the end of `accept_session`. -/
def finishCalls (s : H2Session) (sessionId streamId : Int) (resetFlush : List WriteCallback) :
    List Call :=
  match s.wtSessions.find? streamId with
  | none => []
  | some w =>
      if w.isTerminated then []
      else if w.preAcceptEndStream then
        onSession sessionId streamId .terminatePreAcceptEndStreamSession ++
          if w.capsuleBuffer ≠ [] then s.flushCalls sessionId resetFlush else []
      else onSession sessionId streamId .sendInitialLimits

/-- The calls of `accept_session`. -/
def acceptCalls (s : H2Session) (sessionId streamId : Int) (rv : Option NgError)
    (flush resetFlush : List WriteCallback) : List Call :=
  if !s.isServer ∨ streamId ≤ 0 ∨ streamId % 2 = 0 then []
  else
    let s := s.callNg (.submitResponse streamId (acceptHeaders s.config))
    match rv with
    | some _ => onSession sessionId streamId .clearBuffer
    | none =>
        onSession sessionId streamId .markEstablished ++ s.flushCalls sessionId flush ++
          onSession sessionId streamId .drain ++
          (s.drainAccepted streamId flush).finishCalls sessionId streamId resetFlush

/-- The calls of `connect`. -/
def connectCalls (s : H2Session) (sessionId : Int) (url : Bytes) (streamId : Int)
    (flush : List WriteCallback) : List Call :=
  if s.isServer then []
  else if !s.isWebtransportReady then []
  else if s.goawayReceived then []
  else
    match parseAuthorityPath url with
    | none => []
    | some _ =>
        if streamId < 0 then []
        else
          onSession sessionId streamId (.request (newSession s.peer s.config streamId) []) ++
            s.flushCalls sessionId flush

/-- The session methods that an input runs on a session id. -/
def callsOf (s : H2Session) (sessionId : Int) : Input → List Call
  | .recvSettingsEntry _ _ => []
  | .beginHeaders _ => []
  | .recvHeader _ _ _ => []
  | .endHeaders streamId rv => s.headerCalls sessionId streamId rv
  | .endTrailers _ => []
  | .recvData streamId data rv => s.dataCalls sessionId streamId data rv
  | .remoteEndStream streamId => onSession sessionId streamId .handleEndStream
  | .shutdown _ _ => []
  | .write callback => closesOf sessionId [callback]
  | .readError _ => []
  | .connect url _ streamId flush => s.connectCalls sessionId url streamId flush
  | .acceptSession streamId rv flush resetFlush =>
      s.acceptCalls sessionId streamId rv flush resetFlush
  | .rejectSession streamId status rv => s.rejectCalls sessionId streamId status rv
  | .openStream streamId isUni => onSession sessionId streamId (.api (.openStream isUni))
  | .sendStreamData streamId id data fin =>
      onSession sessionId streamId (.api (.sendStreamData id data fin))
  | .resetStream streamId id errorCode =>
      onSession sessionId streamId (.api (.resetStream id errorCode))
  | .stopSending streamId id errorCode =>
      onSession sessionId streamId (.api (.stopSending id errorCode))
  | .sendDatagram streamId data => onSession sessionId streamId (.api (.sendDatagram data))
  | .closeSession streamId errorCode message =>
      onSession sessionId streamId (.api (.closeSession errorCode message))
  | .drainSession streamId => onSession sessionId streamId (.api .drainSession)
  | .nextEvent => []

/-- The session methods that a run executes on a session id. -/
def runCalls (s : H2Session) (sessionId : Int) : List Input → List Call
  | [] => []
  | input :: rest => s.callsOf sessionId input ++ (s.step input).runCalls sessionId rest

/-! ## Seen from one session, an input is its calls -/

theorem newSession_fresh (peer : PeerSettings) (config : H2SessionConfig) (sessionId : Int) :
    (newSession peer config sessionId).Requested config :=
  ⟨rfl, rfl, rfl, rfl, rfl, rfl, rfl, rfl, rfl, rfl, rfl⟩

/-- WebTransport-Init only changes what this side may send. -/
theorem applyInitLimits_fresh {config : H2SessionConfig} {w : WtSessionInfo}
    (h : w.Requested config) (limits : InitLimits) : (applyInitLimits w limits).Requested config := by
  rcases limits with ⟨u, bl, br⟩
  cases u <;> cases bl <;> cases br <;>
    exact ⟨h.established, h.live, h.endStream, h.buffer, h.streams, h.released, h.sent, h.received,
      h.maxData, h.maxStreamsBidi, h.maxStreamsUni⟩

theorem requestedSession_fresh {s : H2Session} {streamId : Int} {headers : HeaderList}
    {w : WtSessionInfo} (h : s.requestedSession streamId headers = some w) :
    w.Requested s.config := by
  have hnew := newSession_fresh s.peer s.config streamId
  unfold requestedSession at h
  cases hinit : lastHeader headers (ascii "webtransport-init") with
  | none =>
      rw [hinit] at h
      cases h
      exact hnew
  | some value =>
      rw [hinit] at h
      rcases Option.map_eq_some_iff.1 h with ⟨limits, -, rfl⟩
      exact applyInitLimits_fresh hnew limits

/-- The session id sees exactly these calls, and the connection keeps its role. -/
structure Sees (sessionId : Int) (s : H2Session) (calls : List Call) (s' : H2Session) : Prop where
  path : Path (Called s.isServer s.config sessionId) (s.view sessionId) calls (s'.view sessionId)
  role : s'.isServer = s.isServer
  config : s'.config = s.config

namespace Sees

variable {sessionId streamId : Int} {s s' s'' : H2Session} {calls calls' : List Call}

theorem same (hview : s'.view sessionId = s.view sessionId) (hrole : s'.isServer = s.isServer)
    (hconfig : s'.config = s.config) : Sees sessionId s [] s' :=
  ⟨hview.symm, hrole, hconfig⟩

theorem refl (s : H2Session) : Sees sessionId s [] s := same rfl rfl rfl

theorem trans (h : Sees sessionId s calls s') (h' : Sees sessionId s' calls' s'') :
    Sees sessionId s (calls ++ calls') s'' := by
  have hpath := h'.path
  rw [h.role, h.config] at hpath
  exact ⟨h.path.join hpath, h'.role.trans h.role, h'.config.trans h.config⟩

/-- Changes behind the calls that no view sees. -/
theorem andThen (h : Sees sessionId s calls s') (hview : s''.view sessionId = s'.view sessionId)
    (hrole : s''.isServer = s'.isServer) (hconfig : s''.config = s'.config) :
    Sees sessionId s calls s'' := by
  have hboth := h.trans (same hview hrole hconfig)
  rwa [List.append_nil] at hboth

/-- A method on a session, seen from itself or from another. -/
theorem inScope (s : H2Session) (sessionId streamId : Int) (c : Call)
    (hallowed : c.Allowed s.isServer s.config (s.wtSessions.find? streamId)) :
    Sees sessionId s (onSession sessionId streamId c) (s.inScope streamId (·.call c)) := by
  rcases inScope_kept s streamId (·.call c) with ⟨hrole, hconfig, -, -⟩
  unfold onSession
  split_ifs with h
  · subst h
    exact ⟨Path.one ⟨hallowed, view_call_self s streamId c⟩, hrole, hconfig⟩
  · exact same (view_call_other s h c) hrole hconfig

/-- A call that does nothing, whether the code runs it or returns in front of it. -/
theorem idle (c : Call) (hallowed : c.Allowed s.isServer s.config (s.wtSessions.find? streamId))
    (hidle : (s.scope streamId).call c = s.scope streamId) :
    Sees sessionId s (onSession sessionId streamId c) s := by
  unfold onSession
  split_ifs with h
  · subst h
    refine ⟨Path.one ⟨hallowed, ?_⟩, rfl, rfl⟩
    have hview : (s.view streamId).call s.isServer s.config streamId c =
        ⟨((s.scope streamId).call c).entry,
          effectsOf streamId s.trace ++ ((s.scope streamId).call c).effects⟩ := rfl
    rw [hview, hidle]
    unfold view scope
    rw [List.append_nil]
  · exact refl s

/-- What is told to nghttp2 is not seen. -/
theorem callNg (sessionId : Int) (s : H2Session) (call : NgCall) : Sees sessionId s [] (s.callNg call) :=
  same rfl rfl rfl

theorem dropHeaders (s : H2Session) (streamId : Int) :
    Sees sessionId s [] (s.dropHeaders streamId) := same rfl rfl rfl

/-! ### nghttp2 callbacks -/

theorem onStreamClose (s : H2Session) (streamId : Int) (errorCode : Option Nat) :
    Sees sessionId s (onSession sessionId streamId (.streamClose errorCode))
      (s.onStreamClose streamId errorCode) :=
  (inScope s sessionId streamId (.streamClose errorCode) trivial).andThen rfl rfl rfl

theorem onReadData (s : H2Session) (streamId : Int) :
    Sees sessionId s [] (s.onReadData streamId).1 := by
  unfold H2Session.onReadData
  cases s.http2StreamBuffers.find? streamId <;> dsimp only <;> split <;> split_ifs <;>
    exact same rfl rfl rfl

theorem onWriteStreamDataOffset (s : H2Session) (streamId : Int) (offset len : Nat) :
    Sees sessionId s [] (s.onWriteStreamDataOffset streamId offset len) := by
  unfold H2Session.onWriteStreamDataOffset
  dsimp only
  split_ifs
  · exact same rfl rfl rfl
  · cases s.http2StreamBuffers.find? streamId <;> exact same rfl rfl rfl

theorem onWrite (s : H2Session) (callback : WriteCallback) :
    Sees sessionId s (closesOf sessionId [callback]) (s.onWrite callback) := by
  cases callback with
  | readData streamId => exact onReadData s streamId
  | writeStreamDataOffset streamId offset len => exact onWriteStreamDataOffset s streamId offset len
  | streamClose streamId errorCode =>
      have hone : closesOf sessionId [.streamClose streamId errorCode] =
          onSession sessionId streamId (.streamClose errorCode) := List.append_nil _
      rw [hone]
      exact onStreamClose s streamId errorCode

theorem foldl_onWrite (s : H2Session) (callbacks : List WriteCallback) :
    Sees sessionId s (closesOf sessionId callbacks) (callbacks.foldl H2Session.onWrite s) := by
  induction callbacks generalizing s with
  | nil => exact refl s
  | cons callback rest ih =>
      have hcons : closesOf sessionId ([callback] ++ rest) =
          closesOf sessionId [callback] ++ closesOf sessionId rest := List.flatMap_append
      rw [List.singleton_append] at hcons
      rw [hcons]
      exact (onWrite s callback).trans (ih _)

theorem flushOutput (sessionId : Int) (s : H2Session) (callbacks : List WriteCallback) :
    Sees sessionId s (s.flushCalls sessionId callbacks) (s.flushOutput callbacks) := by
  unfold flushCalls H2Session.flushOutput
  split_ifs
  · exact refl s
  · exact foldl_onWrite s callbacks

theorem rejectSession (s : H2Session) (streamId status : Int) (rv : Option NgError) :
    Sees sessionId s (s.rejectCalls sessionId streamId status rv)
      (s.orElse (s.rejectSession streamId status rv)) := by
  have hcall : Sees sessionId s (onSession sessionId streamId (.reject status rv))
      ((s.callNg (.submitResponse streamId (rejectHeaders status))).inScope streamId
        (reject status rv)) :=
    (callNg sessionId s _).trans (inScope _ _ _ (.reject status rv) trivial)
  unfold rejectCalls H2Session.rejectSession
  by_cases hall : s.isServer ∧ 0 < streamId ∧ streamId % 2 ≠ 0 ∧ 200 ≤ status ∧ status < 600
  · rcases hall with ⟨hserver, hpos, hodd, hlow, hhigh⟩
    have hstatus : ¬ (status < 200 ∨ status ≥ 600) := by omega
    rw [if_pos ⟨hserver, hpos, hodd, hlow, hhigh⟩, if_neg (by simp [hserver]),
      if_neg (not_le.2 hpos), if_neg hodd, if_neg hstatus]
    exact hcall
  · rw [if_neg hall]
    split_ifs with hserver hpos hodd hstatus
    · exact refl s
    · exact refl s
    · exact refl s
    · exact refl s
    · exact absurd ⟨by simpa using hserver, by omega, hodd, by omega, by omega⟩ hall

theorem rejectInCallback (s : H2Session) (streamId status : Int) (rv : Option NgError) :
    Sees sessionId s (s.rejectCalls sessionId streamId status rv)
      (s.rejectInCallback streamId status rv) := by
  have heq : s.rejectInCallback streamId status rv =
      s.orElse (s.rejectSession streamId status rv) := by
    unfold H2Session.rejectInCallback orElse
    cases s.rejectSession streamId status rv <;> rfl
  rw [heq]
  exact rejectSession s streamId status rv

theorem onRequestHeaders (s : H2Session) (streamId : Int) (headers : HeaderList)
    (rv : Option NgError) :
    Sees sessionId s (s.requestCalls sessionId streamId headers rv)
      (s.onRequestHeaders streamId headers rv) := by
  have hreject : ∀ status, Sees sessionId s (s.rejectCalls sessionId streamId status rv)
      ((s.dropHeaders streamId).rejectInCallback streamId status rv) := by
    intro status
    exact (dropHeaders s streamId).trans (rejectInCallback _ streamId status rv)
  unfold requestCalls H2Session.onRequestHeaders
  dsimp only
  split_ifs with hconnect horigin
  · exact hreject 403
  · change Sees sessionId s _
      (match s.requestedSession streamId headers with
      | none => (s.dropHeaders streamId).rejectInCallback streamId 400 rv
      | some w =>
          (s.inScope streamId fun sc =>
            (sc.setEntry w).pushEvent { type := .sessionReady, headers := headers }).dropHeaders
              streamId)
    cases hrequested : s.requestedSession streamId headers with
    | none => exact hreject 400
    | some w =>
        have hfresh : w.Requested s.config := requestedSession_fresh hrequested
        have hcall := inScope s sessionId streamId
          (.request w [{ type := .sessionReady, headers := headers }]) ⟨hfresh, by simp⟩
        exact hcall.andThen rfl rfl rfl
  · exact (rejectInCallback s streamId 405 rv).andThen rfl rfl rfl

theorem onResponseHeaders (s : H2Session) (streamId : Int) (headers : HeaderList)
    (hrole : s.isServer = false) :
    Sees sessionId s (s.responseCalls sessionId streamId headers)
      (s.onResponseHeaders streamId headers) := by
  unfold responseCalls H2Session.onResponseHeaders
  dsimp only
  split_ifs
  · exact (inScope s sessionId streamId (.establish headers) hrole).andThen rfl rfl rfl
  · exact (inScope s sessionId streamId (.beRejected _) hrole).andThen rfl rfl rfl
  · exact dropHeaders s streamId

theorem onEndHeaders (s : H2Session) (streamId : Int) (rv : Option NgError) :
    Sees sessionId s (s.headerCalls sessionId streamId rv) (s.onEndHeaders streamId rv) := by
  unfold headerCalls H2Session.onEndHeaders
  cases s.pendingHeaders.find? streamId with
  | none => exact refl s
  | some headers =>
      dsimp only
      split_ifs with hserver
      · exact onRequestHeaders s streamId headers rv
      · exact onResponseHeaders s streamId headers (Bool.eq_false_iff.2 hserver)

theorem onRecvData (s : H2Session) (streamId : Int) (data : Bytes) (rv : Option NgError) :
    Sees sessionId s (s.dataCalls sessionId streamId data rv) (s.onRecvData streamId data rv) := by
  -- Counting the bytes is not seen.
  have hdropped : Sees sessionId s []
      ({ s with connRecvWindowSize := s.connRecvWindowSize + data.length
          }.consumeConnectionRecvBytes data.length) := by
    have hkept := consumeConnectionRecvBytes_kept
      { s with connRecvWindowSize := s.connRecvWindowSize + data.length } data.length
    exact same (view_of_kept hkept sessionId) (congrArg (fun k => k.2.2.1) hkept)
      (congrArg (fun k => k.2.2.2.1) hkept)
  unfold dataCalls H2Session.onRecvData
  dsimp only
  cases hentry : s.wtSessions.find? streamId with
  | none => exact hdropped
  | some w =>
      have hrecorded : Sees sessionId s []
          { s with
            connRecvWindowSize := s.connRecvWindowSize + data.length
            unconsumedRecvBytes := s.unconsumedRecvBytes.insert streamId
              ((s.unconsumedRecvBytes.find? streamId).getD 0 + data.length) } := same rfl rfl rfl
      dsimp only
      split_ifs with hterm hempty hest hclient hlong
      · exact hdropped
      · exact same rfl rfl rfl
      · exact hrecorded.trans (inScope _ _ _ (.recvEstablished data)
          ⟨w, hentry, Bool.eq_false_iff.2 hterm, hest⟩)
      · exact hrecorded
      · exact hrecorded.trans (rejectInCallback _ streamId 413 rv)
      · exact hrecorded.trans (inScope _ _ _ (.bufferPreAccept data)
          ⟨w, hentry, Bool.eq_false_iff.2 hterm, Bool.eq_false_iff.2 hest⟩)

/-! ### The API -/

theorem drainAccepted (s : H2Session) (streamId : Int) (flush : List WriteCallback) :
    Sees sessionId s
      (onSession sessionId streamId .markEstablished ++ s.flushCalls sessionId flush ++
        onSession sessionId streamId .drain) (s.drainAccepted streamId flush) := by
  have hmark : Sees sessionId s (onSession sessionId streamId .markEstablished)
      (s.inScope streamId (·.markEstablished)) := inScope s _ _ .markEstablished trivial
  have hflush := flushOutput sessionId (s.inScope streamId (·.markEstablished)) flush
  have hclosed : (s.inScope streamId (·.markEstablished)).flushCalls sessionId flush =
      s.flushCalls sessionId flush := by
    unfold flushCalls
    rw [(inScope_kept s streamId (·.markEstablished)).2.2.1]
  rw [hclosed] at hflush
  exact (hmark.trans hflush).trans (inScope _ _ _ .drain trivial)

theorem finishAccept (s : H2Session) (streamId : Int) (resetFlush : List WriteCallback) :
    Sees sessionId s (s.finishCalls sessionId streamId resetFlush)
      (s.finishAccept streamId resetFlush) := by
  unfold finishCalls H2Session.finishAccept
  cases hentry : s.wtSessions.find? streamId with
  | none => exact refl s
  | some w =>
      dsimp only
      cases hterm : w.isTerminated with
      | true => exact refl s
      | false =>
          cases hend : w.preAcceptEndStream with
          | false =>
              exact inScope s sessionId streamId .sendInitialLimits
                ⟨w, hentry, hterm, hend⟩
          | true =>
              have hstop : Sees sessionId s
                  (onSession sessionId streamId .terminatePreAcceptEndStreamSession)
                  (s.inScope streamId (·.terminatePreAcceptEndStreamSession)) :=
                inScope s _ _ .terminatePreAcceptEndStreamSession ⟨w, hentry, hterm, hend⟩
              simp only [Bool.false_eq_true, if_false, if_true]
              by_cases hbuf : w.capsuleBuffer ≠ []
              · rw [if_pos hbuf, if_pos hbuf]
                have hflush := flushOutput sessionId
                  (s.inScope streamId (·.terminatePreAcceptEndStreamSession)) resetFlush
                unfold flushCalls at hflush ⊢
                rw [(inScope_kept s streamId (·.terminatePreAcceptEndStreamSession)).2.2.1] at hflush
                exact hstop.trans hflush
              · rw [if_neg hbuf, if_neg hbuf, List.append_nil]
                exact hstop

theorem acceptSession (s : H2Session) (streamId : Int) (rv : Option NgError)
    (flush resetFlush : List WriteCallback) :
    Sees sessionId s (s.acceptCalls sessionId streamId rv flush resetFlush)
      (s.acceptSession streamId rv flush resetFlush).1 := by
  unfold acceptCalls H2Session.acceptSession
  split_ifs
  · exact refl s
  · have hcalled := callNg sessionId s
      (.submitResponse streamId (acceptHeaders s.config))
    cases rv with
    | some err => exact hcalled.trans (inScope _ _ _ .clearBuffer trivial)
    | none =>
        exact hcalled.trans ((drainAccepted _ streamId flush).trans
          (finishAccept _ streamId resetFlush))

theorem connect (s : H2Session) (url origin : Bytes) (streamId : Int)
    (flush : List WriteCallback) :
    Sees sessionId s (s.connectCalls sessionId url streamId flush)
      (s.connect url origin streamId flush).1 := by
  unfold connectCalls H2Session.connect
  cases parseAuthorityPath url with
  | none =>
      dsimp only
      split_ifs <;> exact refl s
  | some target =>
      dsimp only
      split_ifs
      · exact refl s
      · exact refl s
      · exact refl s
      · exact callNg sessionId s _
      · have hfresh : (newSession s.peer s.config streamId).Requested s.config :=
          newSession_fresh s.peer s.config streamId
        have hcall := (callNg sessionId s
          (.submitRequest (connectHeaders s.config target.1 target.2 origin))).trans
          (inScope _ _ streamId (.request (newSession s.peer s.config streamId) [])
            ⟨hfresh, by simp⟩)
        have hflush := flushOutput sessionId
          ((s.callNg (.submitRequest (connectHeaders s.config target.1 target.2 origin))).inScope
            streamId (·.setEntry (newSession s.peer s.config streamId))) flush
        unfold flushCalls at hflush ⊢
        rw [(inScope_kept _ streamId _).2.2.1] at hflush
        exact hcall.trans hflush

/-- A call of the application on one session. -/
theorem api (sessionId : Int) (s : H2Session) (streamId : Int) (op : Op) (hop : ∀ c, op ≠ .receive c) :
    Sees sessionId s (onSession sessionId streamId (.api op)) (s.inScope streamId (·.step op)) :=
  inScope _ _ _ (.api op) hop

theorem openStream (s : H2Session) (streamId : Int) (isUnidirectional : Bool) :
    Sees sessionId s (onSession sessionId streamId (.api (.openStream isUnidirectional)))
      (s.openStream streamId isUnidirectional).1 := by
  unfold H2Session.openStream
  cases hentry : s.wtSessions.find? streamId with
  | none =>
      refine idle (.api (.openStream isUnidirectional)) (fun c => by simp) ?_
      simp only [SessionScope.call, SessionScope.step, SessionScope.onEntry, scope, hentry]
  | some w =>
      have hapi := api sessionId s streamId (.openStream isUnidirectional)
        (fun c => by simp)
      simp only [H2Session.inScope, SessionScope.step, SessionScope.onEntry, scope, hentry] at hapi
      simp only [H2Session.inScope, scope, hentry]
      exact hapi

theorem resetStream (s : H2Session) (streamId : Int) (id : Nat) (errorCode : UInt32) :
    Sees sessionId s (onSession sessionId streamId (.api (.resetStream id errorCode)))
      (s.orElse (s.resetStream streamId id errorCode)) := by
  unfold H2Session.resetStream
  split_ifs with hid
  · refine idle (.api (.resetStream id errorCode)) (fun c => by simp) ?_
    simp only [SessionScope.call, SessionScope.step]
    exact if_pos hid
  · have hapi := api sessionId s streamId (.resetStream id errorCode)
      (fun c => by simp)
    simp only [SessionScope.step, if_neg hid] at hapi
    exact hapi

theorem stopSending (s : H2Session) (streamId : Int) (id : Nat) (errorCode : UInt32) :
    Sees sessionId s (onSession sessionId streamId (.api (.stopSending id errorCode)))
      (s.orElse (s.stopSending streamId id errorCode)) := by
  unfold H2Session.stopSending
  split_ifs with hid
  · refine idle (.api (.stopSending id errorCode)) (fun c => by simp) ?_
    simp only [SessionScope.call, SessionScope.step]
    exact if_pos hid
  · have hapi := api sessionId s streamId (.stopSending id errorCode)
      (fun c => by simp)
    simp only [SessionScope.step, if_neg hid] at hapi
    exact hapi

theorem onRecvSettingsEntry (s : H2Session) (id value : Nat) :
    Sees sessionId s [] (s.onRecvSettingsEntry id value) := by
  unfold H2Session.onRecvSettingsEntry
  split_ifs <;> exact same rfl rfl rfl

theorem nextEvent (s : H2Session) : Sees sessionId s [] s.nextEvent.1 := by
  unfold H2Session.nextEvent
  cases s.events <;> exact same rfl rfl rfl

end Sees

/-! ## Every entry is well formed -/

end H2Session

namespace WtSessionInfo

theorem wf_ended {isServer : Bool} {w : WtSessionInfo} (h : Wf isServer w) : Wf isServer w.ended :=
  wf_of_streams h rfl h.sent_le

theorem Stands.wf {permits : Permits} {config : H2SessionConfig} {isServer : Bool}
    {w w' : WtSessionInfo} {entry : Option WtSessionInfo} (h : Stands permits config isServer w entry)
    (hwf : Wf isServer w) (hentry : entry = some w') : Wf isServer w' := by
  cases h with
  | live =>
      cases hentry
      exact hwf
  | ended =>
      cases hentry
      exact wf_ended hwf
  | refused hcreated =>
      cases hentry
      rcases hcreated.exists_stream with ⟨streamId, -, -, -, rfl⟩
      exact wf_ended (hwf.setStream (wfStream_newPeerStream w config streamId))
  | gone => cases hentry

end WtSessionInfo

namespace SessionScope

open WtSessionInfo (Wf)

/-- The entry of a scope, if there is one, is well formed. -/
def Sound (isServer : Bool) (sc : SessionScope) : Prop :=
  sc.isServer = isServer ∧ ∀ w, sc.entry = some w → Wf isServer w

namespace Sound

variable {isServer : Bool} {sc : SessionScope} {w : WtSessionInfo}

/-- A change of an entry that leaves its streams and its send credit alone. -/
theorem setEntry (h : Sound isServer sc) (hentry : sc.entry = some w) {w' : WtSessionInfo}
    (hstreams : w'.streams = w.streams) (hsent : w'.bytesSent = w.bytesSent)
    (hlimit : w'.maxDataLocal = w.maxDataLocal) : Sound isServer (sc.setEntry w') := by
  refine ⟨h.1, ?_⟩
  intro w'' hw''
  cases hw''
  refine WtSessionInfo.wf_of_streams (h.2 w hentry) hstreams ?_
  rw [hsent, hlimit]
  exact (h.2 w hentry).sent_le

theorem of_extends {permits : Permits} {ls : List Label} {w' : WtSessionInfo} {sc' : SessionScope}
    (hext : Extends permits sc w ls w' sc') (h : Sound isServer sc) (hentry : sc.entry = some w) :
    Sound isServer sc' := by
  rcases hext with ⟨hpath, hstands, hrole, -, -, -, -⟩
  rcases h with ⟨rfl, hwf⟩
  refine ⟨hrole, ?_⟩
  intro w'' hw''
  exact hstands.wf (path_keeps hpath (hwf w hentry)).1 hw''

theorem react (h : Sound isServer sc) (hentry : sc.entry = some w) (hlive : w.isTerminated = false)
    (r : Reading) : Sound isServer (sc.react w r) := by
  have hwf : Wf sc.isServer w := h.1.symm ▸ h.2 w hentry
  rcases react_extends hentry hwf hlive r
      (fun r _ => Permits.all_admits sc.isServer w r) with ⟨ls, w', hext, -, -⟩
  exact of_extends hext h hentry

theorem processCapsules (h : Sound isServer sc) (data : Bytes) :
    Sound isServer (sc.processCapsules data) := by
  refine processCapsules_rule ?_ ?_ ?_ (eachTurn_true _) h
  · intro sc w buffer hentry hinv
    exact hinv.setEntry hentry rfl rfl rfl
  · intro sc type size payload hinv
    exact hinv
  · intro sc w buffer r _ hentry hlive _ hinv
    exact hinv.react hentry hlive r

/-- The application's calls keep the entry well formed. -/
theorem step (h : Sound isServer sc) (op : Op) (hop : ∀ c, op ≠ .receive c) :
    Sound isServer (sc.step op) := by
  cases hentry : sc.entry with
  | none =>
      rw [(step_gone hentry op).1]
      exact h
  | some w =>
      have hwf : Wf sc.isServer w := h.1.symm ▸ h.2 w hentry
      rcases api_extends hentry hwf op hop (stepUnder_all sc op).1 with ⟨ls, w', hext, -, -⟩
      exact of_extends hext h hentry

/-- Events are not read. -/
theorem foldl_pushEvent (h : Sound isServer sc) (events : List H2Event) :
    Sound isServer (events.foldl pushEvent sc) := by
  induction events generalizing sc with
  | nil => exact h
  | cons e rest ih => exact ih h

theorem gone (h : Sound isServer sc) {sc' : SessionScope} (hrole : sc'.isServer = sc.isServer)
    (hentry : sc'.entry = none) : Sound isServer sc' := by
  refine ⟨hrole.trans h.1, ?_⟩
  intro w hw
  rw [hentry] at hw
  cases hw

/-- Every method keeps the entry well formed. -/
theorem call (h : Sound isServer sc) (c : Call)
    (hallowed : c.Allowed sc.isServer sc.config sc.entry) : Sound isServer (sc.call c) := by
  cases c with
  | request w events =>
      suffices hentered : Sound isServer (sc.setEntry w) from foldl_pushEvent hentered events
      refine ⟨h.1, ?_⟩
      intro w' hw'
      cases hw'
      refine ⟨?_, ?_⟩
      · intro streamId info hfind
        rw [hallowed.1.streams] at hfind
        cases hfind
      · rw [hallowed.1.sent]
        exact Nat.zero_le _
  | recvEstablished data =>
      have hloop := h.processCapsules data
      simp only [SessionScope.call, SessionScope.recvEstablished]
      cases hentry : (sc.processCapsules data).entry with
      | none => exact hloop
      | some w =>
          dsimp only
          split_ifs
          · exact hloop
          · exact hloop
  | drain => exact h.processCapsules []
  | api op => exact h.step op hallowed
  | sendInitialLimits => exact h
  | establish headers =>
      simp only [SessionScope.call, H2Session.establish]
      cases hentry : sc.entry with
      | none => exact h
      | some w =>
          dsimp only
          cases (H2Session.lastHeader headers (ascii "webtransport-init")).bind
              H2Session.parseWebtransportInit with
          | none => exact h.setEntry hentry rfl rfl rfl
          | some limits =>
              rcases limits with ⟨u, bl, br⟩
              refine Sound.setEntry h hentry ?_ ?_ ?_
              all_goals cases u <;> cases bl <;> cases br <;> rfl
  | beRejected status =>
      simp only [SessionScope.call, H2Session.beRejected]
      cases hentry : sc.entry with
      | none => exact h
      | some w => exact h.gone rfl rfl
  | reject status rv =>
      have hreported : ∀ sc' : SessionScope, sc'.isServer = sc.isServer → sc'.entry = sc.entry →
          Sound isServer (H2Session.reject status none sc') := by
        intro sc' hrole hsame
        simp only [H2Session.reject]
        split_ifs
        · exact h.gone hrole rfl
        · cases hentry : sc.entry with
          | none =>
              rw [hsame, hentry]
              exact h.gone hrole (hsame.trans hentry)
          | some w =>
              rw [hsame, hentry]
              have hsound : Sound isServer sc' := ⟨hrole.trans h.1, hsame ▸ h.2⟩
              exact hsound.setEntry (hsame.trans hentry) rfl rfl rfl
      cases rv with
      | none => exact hreported sc rfl rfl
      | some err => exact hreported _ rfl rfl
  | bufferPreAccept data =>
      rcases hallowed with ⟨w, hentry, -, -⟩
      simp only [SessionScope.call, SessionScope.bufferPreAccept, hentry, Option.map_some]
      exact h.setEntry hentry rfl rfl rfl
  | markEstablished =>
      simp only [SessionScope.call, SessionScope.markEstablished]
      cases hentry : sc.entry with
      | none => exact h.gone rfl rfl
      | some w => exact h.setEntry hentry rfl rfl rfl
  | clearBuffer =>
      simp only [SessionScope.call, SessionScope.clearBuffer]
      cases hentry : sc.entry with
      | none => exact h.gone rfl rfl
      | some w => exact h.setEntry hentry rfl rfl rfl
  | handleEndStream =>
      simp only [SessionScope.call, SessionScope.handleEndStream]
      cases hentry : sc.entry with
      | none => exact h
      | some w =>
          dsimp only
          split_ifs
          · exact h.setEntry hentry rfl rfl rfl
          · exact h
          · simp only [resetStreamForMalformedCapsule, hentry, Option.map_some]
            exact h.setEntry hentry rfl rfl rfl
          · exact h.gone rfl rfl
  | terminatePreAcceptEndStreamSession =>
      simp only [SessionScope.call, SessionScope.terminatePreAcceptEndStreamSession]
      cases hentry : sc.entry with
      | none => exact h
      | some w =>
          dsimp only
          split_ifs
          · simp only [resetStreamForMalformedCapsule, hentry, Option.map_some]
            exact h.setEntry hentry rfl rfl rfl
          · exact h.gone rfl rfl
  | streamClose errorCode =>
      simp only [SessionScope.call, closeStream]
      cases hentry : sc.entry with
      | none => exact h.gone rfl hentry
      | some w => exact h.gone rfl rfl

end Sound

end SessionScope

namespace H2Session

/-- Seen from a session id, an input is the calls it makes there. -/
theorem step_calls (s : H2Session) (sessionId : Int) (input : Input) :
    Sees sessionId s (s.callsOf sessionId input) (s.step input) := by
  cases input with
  | recvSettingsEntry id value => exact .onRecvSettingsEntry s id value
  | beginHeaders streamId => exact .same rfl rfl rfl
  | recvHeader streamId name value => exact .same rfl rfl rfl
  | endHeaders streamId rv => exact .onEndHeaders s streamId rv
  | endTrailers streamId => exact .dropHeaders s streamId
  | recvData streamId data rv => exact .onRecvData s streamId data rv
  | remoteEndStream streamId => exact .inScope s _ _ .handleEndStream trivial
  | shutdown lastStreamId errorCode => exact .same rfl rfl rfl
  | write callback => exact .onWrite s callback
  | readError err => exact .same rfl rfl rfl
  | connect url origin streamId flush => exact .connect s url origin streamId flush
  | acceptSession streamId rv flush resetFlush => exact .acceptSession s streamId rv flush resetFlush
  | rejectSession streamId status rv => exact .rejectSession s streamId status rv
  | openStream streamId isUnidirectional => exact .openStream s streamId isUnidirectional
  | sendStreamData streamId id data fin =>
      exact .api sessionId s streamId (.sendStreamData id data fin) (fun c => by simp)
  | resetStream streamId id errorCode => exact .resetStream s streamId id errorCode
  | stopSending streamId id errorCode => exact .stopSending s streamId id errorCode
  | sendDatagram streamId data => exact .api sessionId s streamId (.sendDatagram data) (fun c => by simp)
  | closeSession streamId errorCode message =>
      exact .api sessionId s streamId (.closeSession errorCode message) (fun c => by simp)
  | drainSession streamId => exact .api sessionId s streamId .drainSession (fun c => by simp)
  | nextEvent => exact .nextEvent s

/-- Seen from a session id, a run is the calls it makes there. -/
theorem run_calls (s : H2Session) (sessionId : Int) (inputs : List Input) :
    Sees sessionId s (s.runCalls sessionId inputs) (s.run inputs) := by
  induction inputs generalizing s with
  | nil => exact .refl s
  | cons input rest ih => exact (step_calls s sessionId input).trans (ih (s.step input))

/-- Every entry that a view passes through is well formed. -/
theorem path_sound {isServer : Bool} {config : H2SessionConfig} {sessionId : Int} {v v' : View}
    {calls : List Call} (h : Path (Called isServer config sessionId) v calls v')
    (hv : ∀ w, v.entry = some w → WtSessionInfo.Wf isServer w) :
    ∀ w, v'.entry = some w → WtSessionInfo.Wf isServer w := by
  refine h.invariant (fun v => ∀ w, v.entry = some w → WtSessionInfo.Wf isServer w) ?_ hv
  rintro a b c ha ⟨hallowed, rfl⟩
  have hsound : SessionScope.Sound isServer
      { isServer := isServer, config := config, sessionId := sessionId, entry := a.entry } :=
    ⟨rfl, ha⟩
  exact (hsound.call c hallowed).2

/-- A connection starts without sessions. -/
theorem create_view {isServer : Bool} {config : H2SessionConfig} {s : H2Session}
    (h : create isServer config = .ok s) (sessionId : Int) :
    s.view sessionId = ⟨none, []⟩ ∧ s.isServer = isServer ∧ s.config = config := by
  unfold create at h
  cases hcheck : config.check with
  | error message =>
      rw [hcheck] at h
      cases h
  | ok u =>
      rw [hcheck] at h
      cases h
      exact ⟨rfl, rfl, rfl⟩

/-- A run from creation, seen from a session id. -/
theorem created_run {isServer : Bool} {config : H2SessionConfig} {s : H2Session}
    (h : create isServer config = .ok s) (sessionId : Int) (inputs : List Input) :
    Path (Called isServer config sessionId) ⟨none, []⟩ (s.runCalls sessionId inputs)
      ((s.run inputs).view sessionId) := by
  rcases create_view h sessionId with ⟨hview, rfl, rfl⟩
  have hpath := (run_calls s sessionId inputs).path
  rwa [hview] at hpath

/-- In a run every entry is well formed. -/
theorem run_wf {isServer : Bool} {config : H2SessionConfig} {s : H2Session}
    (h : create isServer config = .ok s) (inputs : List Input) {sessionId : Int} {w : WtSessionInfo}
    (hentry : (s.run inputs).wtSessions.find? sessionId = some w) :
    WtSessionInfo.Wf isServer w := by
  refine path_sound (created_run h sessionId inputs) ?_ w hentry
  intro w hw
  cases hw

/-- A CONNECT request on a stream and its acceptance. -/
def openSession (sessionId : Int) : List Input :=
  [.beginHeaders sessionId, .recvHeader sessionId (ascii ":method") (ascii "CONNECT"),
    .recvHeader sessionId (ascii ":protocol") (ascii "webtransport"), .endHeaders sessionId none,
    .acceptSession sessionId none [] []]

end H2Session

end H2
end WebTransport
