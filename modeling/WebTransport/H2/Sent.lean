import WebTransport.H2.Endings
import WebTransport.H2.Grants

/-!
# H2.Sent — a run sends no more than the peer granted

`Grants` follows the limits along the changes of one entry.  Here they are followed along a run, from
the request of a session on.

* `StartsWith`         : the limits a requested entry starts with;
* `CreatesOnce`        : no stream is created again under a released id;
* `sent_within_grants` : the bytes and the streams of a run stay within what was granted, and no limit
  falls.
-/

namespace WebTransport
namespace H2

open Bindings

/-! ## Bytes of capsules and of labels -/

namespace Capsule

/-- The number of Stream Data bytes on a stream id. -/
def sizeOn (id : Nat) (cs : List Capsule) : Nat :=
  (streamBytes (cs.filter fun c => c.sendStream = some id)).length

/-- Only WT_STREAM capsules carry Stream Data. -/
theorem streamBytes_filter (cs : List Capsule) :
    streamBytes (cs.filter isStream) = streamBytes cs := by
  induction cs with
  | nil => rfl
  | cons c cs ih =>
      cases c with
      | wtStream fin streamId data => exact congrArg (data ++ ·) ih
      | _ => exact ih

theorem sizeOn_filter (id : Nat) (cs : List Capsule) : sizeOn id (cs.filter isStream) = sizeOn id cs := by
  unfold sizeOn
  rw [← streamBytes_filter (cs.filter fun c => c.sendStream = some id), List.filter_filter,
    List.filter_filter]
  simp only [Bool.and_comm]

/-- A capsule in front of others. -/
theorem streamBytes_cons (c : Capsule) (cs : List Capsule) :
    (streamBytes (c :: cs)).length = (Label.sent c).bytes + (streamBytes cs).length := by
  cases c with
  | wtStream fin streamId data => exact List.length_append
  | _ => exact (Nat.zero_add _).symm

theorem sizeOn_cons (id : Nat) (c : Capsule) (cs : List Capsule) :
    sizeOn id (c :: cs) = (Label.sent c).bytesOn id + sizeOn id cs := by
  unfold sizeOn
  cases c with
  | wtStream fin streamId data =>
      by_cases heq : streamId = id
      · subst heq
        simp [sendStream, streamBytes, Label.bytesOn]
      · simp [sendStream, Label.bytesOn, heq]
  | wtResetStream streamId errorCode reliableSize =>
      by_cases heq : streamId = id
      · subst heq
        simp [sendStream, streamBytes, Label.bytesOn]
      · simp [sendStream, Label.bytesOn, heq]
  | wtStreamDataBlocked streamId limit =>
      by_cases heq : streamId = id
      · subst heq
        simp [sendStream, streamBytes, Label.bytesOn]
      · simp [sendStream, Label.bytesOn, heq]
  | _ => simp [sendStream, Label.bytesOn]

end Capsule

namespace WtSessionInfo

/-- What the changes send is what the labels count. -/
theorem sentBytes_eq (ms : List Moment) :
    (Capsule.streamBytes (Label.sentOf (Moment.labels ms))).length = sentBytes ms := by
  unfold sentBytes
  induction Moment.labels ms with
  | nil => rfl
  | cons l ls ih =>
      cases l with
      | sent c =>
          calc
            (Capsule.streamBytes (c :: Label.sentOf ls)).length
                = (Label.sent c).bytes + (Capsule.streamBytes (Label.sentOf ls)).length :=
                  Capsule.streamBytes_cons c _
            _ = (Label.sent c).bytes + (ls.map Label.bytes).sum := by rw [ih]
      | _ => exact ih.trans (Nat.zero_add _).symm

theorem sentBytesOn_eq (id : Nat) (ms : List Moment) :
    Capsule.sizeOn id (Label.sentOf (Moment.labels ms)) = sentBytesOn id ms := by
  unfold sentBytesOn
  induction Moment.labels ms with
  | nil => rfl
  | cons l ls ih =>
      cases l with
      | sent c =>
          calc
            Capsule.sizeOn id (c :: Label.sentOf ls)
                = (Label.sent c).bytesOn id + Capsule.sizeOn id (Label.sentOf ls) :=
                  Capsule.sizeOn_cons id c _
            _ = (Label.sent c).bytesOn id + (ls.map (Label.bytesOn id)).sum := by rw [ih]
      | _ => exact ih.trans (Nat.zero_add _).symm

end WtSessionInfo

/-! ## The limits at the start -/

/-- The limit that the SETTINGS set for streams of the given direction and initiator: streams opened
here send under the peer's BIDI_REMOTE, those of the peer under its BIDI_LOCAL. -/
def PeerSettings.streamCredit (peer : PeerSettings) (isUni isLocal : Bool) : Nat :=
  if isUni then peer.wtInitialMaxStreamDataUni
  else if isLocal then peer.wtInitialMaxStreamDataBidiRemote
  else peer.wtInitialMaxStreamDataBidiLocal

/-- The number of streams of a direction that the SETTINGS let this side open. -/
def PeerSettings.streamLimit (peer : PeerSettings) (isUni : Bool) : Nat :=
  if isUni then peer.wtInitialMaxStreamsUni else peer.wtInitialMaxStreamsBidi

/-- An entry starts with the limits of the SETTINGS and of a WebTransport-Init. -/
structure WtSessionInfo.StartsWith (peer : PeerSettings) (init : Option H2Session.InitLimits)
    (w : WtSessionInfo) : Prop where
  data : w.maxDataLocal = peer.wtInitialMaxData
  streams : ∀ isUni, w.maxStreamsLocal isUni = peer.streamLimit isUni
  credit : ∀ isUni isLocal, w.peerSendCreditForStream isUni isLocal =
    max (peer.streamCredit isUni isLocal) ((init.bind (·.streamCredit isUni isLocal)).getD 0)
  opened : ∀ isUni, w.nextCounter isUni = 0 ∧ w.streamsOpened isUni = 0
  forgotten : w.receivedMaxStreamDataById = ∅

namespace H2Session

/-- The WebTransport-Init of a pending request. -/
def requestInit (s : H2Session) (streamId : Int) : Option InitLimits :=
  ((s.pendingHeaders.find? streamId).bind (lastHeader · (ascii "webtransport-init"))).bind
    parseWebtransportInit

theorem newSession_starts (peer : PeerSettings) (config : H2SessionConfig) (sessionId : Int) :
    (newSession peer config sessionId).StartsWith peer none := by
  refine ⟨rfl, ?_, ?_, ?_, rfl⟩
  · intro isUni
    cases isUni <;> rfl
  · intro isUni isLocal
    cases isUni <;> cases isLocal <;> exact (Nat.max_zero _).symm
  · intro isUni
    cases isUni <;> exact ⟨rfl, rfl⟩

/-- WebTransport-Init only raises the credit of streams. -/
theorem applyInitLimits_starts {peer : PeerSettings} {w : WtSessionInfo}
    (h : w.StartsWith peer none) (l : InitLimits) :
    (applyInitLimits w l).StartsWith peer (some l) := by
  have hcredit : ∀ isUni isLocal, (applyInitLimits w l).peerSendCreditForStream isUni isLocal =
      max (peer.streamCredit isUni isLocal)
        (((some l).bind (·.streamCredit isUni isLocal)).getD 0) := by
    intro isUni isLocal
    have hself : w.peerSendCreditForStream isUni isLocal = peer.streamCredit isUni isLocal :=
      (h.credit isUni isLocal).trans (Nat.max_zero _)
    rw [WtSessionInfo.applyInitLimits_credit, hself, Option.bind_some]
  rcases l with ⟨u, bl, br⟩
  cases u <;> cases bl <;> cases br <;>
    exact ⟨h.data, h.streams, hcredit, h.opened, h.forgotten⟩

/-- The entry of a request: the limits of the SETTINGS, raised by those of a WebTransport-Init. -/
def requestedEntry (peer : PeerSettings) (config : H2SessionConfig) (sessionId : Int) :
    Option InitLimits → WtSessionInfo
  | none => newSession peer config sessionId
  | some limits => applyInitLimits (newSession peer config sessionId) limits

theorem requestedEntry_starts (peer : PeerSettings) (config : H2SessionConfig) (sessionId : Int)
    (init : Option InitLimits) :
    (requestedEntry peer config sessionId init).StartsWith peer init := by
  have hnew := newSession_starts peer config sessionId
  cases init with
  | none => exact hnew
  | some limits => exact applyInitLimits_starts hnew limits

theorem requestedSession_eq {s : H2Session} {streamId : Int} {headers : HeaderList}
    {w : WtSessionInfo} (h : s.requestedSession streamId headers = some w) :
    w = requestedEntry s.peer s.config streamId
      ((lastHeader headers (ascii "webtransport-init")).bind parseWebtransportInit) := by
  unfold requestedSession at h
  cases hinit : lastHeader headers (ascii "webtransport-init") with
  | none =>
      rw [hinit] at h
      cases h
      rfl
  | some value =>
      rw [hinit] at h
      rcases Option.map_eq_some_iff.1 h with ⟨limits, hparse, rfl⟩
      rw [Option.bind_some, hparse]
      rfl

/-! ## Where requests come from -/

section Requests

variable {s : H2Session} {sessionId streamId : Int} {w : WtSessionInfo} {events : List H2Event}

theorem mem_onSession {c c' : Call} (h : c ∈ onSession sessionId streamId c') :
    streamId = sessionId ∧ c = c' := by
  unfold onSession at h
  split_ifs at h with heq
  · exact ⟨heq, List.mem_singleton.1 h⟩
  · cases h

/-- Write callbacks request nothing. -/
theorem request_not_mem_closesOf (callbacks : List WriteCallback) :
    Call.request w events ∉ closesOf sessionId callbacks := by
  intro h
  rcases List.mem_flatMap.1 h with ⟨callback, -, hmem⟩
  cases callback with
  | streamClose streamId errorCode => cases (mem_onSession hmem).2
  | _ => cases hmem

theorem request_not_mem_flushCalls (s : H2Session) (flush : List WriteCallback) :
    Call.request w events ∉ s.flushCalls sessionId flush := by
  unfold flushCalls
  split_ifs
  · exact List.not_mem_nil
  · exact request_not_mem_closesOf flush

theorem request_not_mem_rejectCalls (s : H2Session) (streamId status : Int) (rv : Option NgError) :
    Call.request w events ∉ s.rejectCalls sessionId streamId status rv := by
  intro h
  unfold rejectCalls at h
  split_ifs at h
  · cases (mem_onSession h).2
  · cases h

/-- A request of the client is read with its headers. -/
theorem requested_of_headerCalls {rv : Option NgError}
    (h : Call.request w events ∈ s.headerCalls sessionId streamId rv) :
    w = requestedEntry s.peer s.config sessionId
      (if s.isServer then s.requestInit sessionId else none) := by
  unfold headerCalls at h
  cases hheaders : s.pendingHeaders.find? streamId with
  | none =>
      rw [hheaders] at h
      cases h
  | some headers =>
      rw [hheaders] at h
      dsimp only at h
      cases hrole : s.isServer with
      | false =>
          rw [hrole] at h
          simp only [Bool.false_eq_true, if_false, responseCalls] at h
          split_ifs at h
          · cases (mem_onSession h).2
          · cases (mem_onSession h).2
          · cases h
      | true =>
          rw [hrole] at h
          simp only [if_true, requestCalls] at h
          split_ifs at h
          · exact absurd h (request_not_mem_rejectCalls s streamId 403 rv)
          · cases hrequested : s.requestedSession streamId headers with
            | none =>
                rw [hrequested] at h
                exact absurd h (request_not_mem_rejectCalls s streamId 400 rv)
            | some w' =>
                rw [hrequested] at h
                rcases mem_onSession h with ⟨rfl, hcall⟩
                cases hcall
                have hinit : s.requestInit streamId =
                    (lastHeader headers (ascii "webtransport-init")).bind parseWebtransportInit := by
                  unfold requestInit
                  rw [hheaders, Option.bind_some]
                rw [if_pos rfl, hinit]
                exact requestedSession_eq hrequested
          · exact absurd h (request_not_mem_rejectCalls s streamId 405 rv)

/-- A client requests a session in `connect`. -/
theorem requested_of_connectCalls {url : Bytes} {flush : List WriteCallback}
    (h : Call.request w events ∈ s.connectCalls sessionId url streamId flush) :
    w = requestedEntry s.peer s.config sessionId
      (if s.isServer then s.requestInit sessionId else none) := by
  unfold connectCalls at h
  cases htarget : parseAuthorityPath url with
  | none =>
      rw [htarget] at h
      dsimp only at h
      split_ifs at h <;> cases h
  | some target =>
      rw [htarget] at h
      dsimp only at h
      split_ifs at h with hrole
      · cases h
      · cases h
      · cases h
      · cases h
      · rw [if_neg hrole]
        rcases List.mem_append.1 h with hcall | hflush
        · rcases mem_onSession hcall with ⟨rfl, hrequest⟩
          cases hrequest
          rfl
        · exact absurd hflush (request_not_mem_flushCalls s flush)

/-- Every request of an input makes its entry from what the peer has set. -/
theorem requested_of_callsOf {input : Input}
    (h : Call.request w events ∈ s.callsOf sessionId input) :
    w = requestedEntry s.peer s.config sessionId
      (if s.isServer then s.requestInit sessionId else none) := by
  cases input with
  | endHeaders streamId rv => exact requested_of_headerCalls h
  | connect url origin streamId flush => exact requested_of_connectCalls h
  | write callback => exact absurd h (request_not_mem_closesOf [callback])
  | rejectSession streamId status rv => exact absurd h (request_not_mem_rejectCalls s streamId status rv)
  | recvData streamId data rv =>
      simp only [callsOf, dataCalls] at h
      cases hfind : s.wtSessions.find? streamId with
      | none =>
          rw [hfind] at h
          cases h
      | some w' =>
          rw [hfind] at h
          dsimp only at h
          split_ifs at h
          · cases h
          · cases h
          · cases (mem_onSession h).2
          · cases h
          · exact absurd h (request_not_mem_rejectCalls s streamId 413 rv)
          · cases (mem_onSession h).2
  | acceptSession streamId rv flush resetFlush =>
      simp only [callsOf, acceptCalls] at h
      split_ifs at h
      · cases h
      · cases rv with
        | some err => cases (mem_onSession h).2
        | none =>
            simp only [List.mem_append] at h
            rcases h with ((hmark | hflush) | hdrain) | hfinish
            · cases (mem_onSession hmark).2
            · exact absurd hflush (request_not_mem_flushCalls _ flush)
            · cases (mem_onSession hdrain).2
            · unfold finishCalls at hfinish
              split at hfinish
              · cases hfinish
              · split_ifs at hfinish
                · cases hfinish
                · rcases List.mem_append.1 hfinish with hend | hreset
                  · cases (mem_onSession hend).2
                  · exact absurd hreset (request_not_mem_flushCalls _ resetFlush)
                · rcases List.mem_append.1 hfinish with hend | hreset
                  · cases (mem_onSession hend).2
                  · cases hreset
                · cases (mem_onSession hfinish).2
  | recvSettingsEntry id value => cases h
  | beginHeaders streamId => cases h
  | recvHeader streamId name value => cases h
  | endTrailers streamId => cases h
  | shutdown lastStreamId errorCode => cases h
  | readError err => cases h
  | nextEvent => cases h
  | _ => cases (mem_onSession h).2

/-- Every request of a run makes its entry from what the peer had set by then. -/
theorem requested_of_runCalls {inputs : List Input}
    (h : Call.request w events ∈ s.runCalls sessionId inputs) :
    ∃ before, before <+: inputs ∧ w = requestedEntry (s.run before).peer s.config sessionId
      (if s.isServer then (s.run before).requestInit sessionId else none) := by
  induction inputs generalizing s with
  | nil => cases h
  | cons input rest ih =>
      rcases List.mem_append.1 h with hhere | hlater
      · exact ⟨[], List.nil_prefix, requested_of_callsOf hhere⟩
      · rcases ih hlater with ⟨before, hbefore, hrequested⟩
        refine ⟨input :: before, (List.prefix_cons_inj input).2 hbefore, ?_⟩
        have hsees := step_calls s sessionId input
        rw [hsees.role, hsees.config] at hrequested
        exact hrequested

end Requests

/-! ## Along a run -/

/-- The capsules that the methods of `back` queue for a session, behind those of `front`. -/
def queuedBy (s : H2Session) (sessionId : Int) (front back : List Call) : List Capsule :=
  Effect.capsules ((s.viewAfter sessionId (front ++ back)).effects.drop
    (s.viewAfter sessionId front).effects.length)

/-- The Stream Data that `back` queues is within a limit for the session: the first one, or that of a
received WT_MAX_DATA. -/
def DataWithin (s : H2Session) (sessionId : Int) (front back : List Call) (w₀ : WtSessionInfo) :
    Prop :=
  ∃ limit, (Capsule.streamBytes (s.queuedBy sessionId front back)).length ≤ limit ∧
    (limit = w₀.maxDataLocal ∨ ∃ w, s.Comes sessionId front back w (.maxData limit))

/-- The limit of every stream that is there was granted, and the stream is within it. -/
def LiveWithin (s : H2Session) (sessionId : Int) (front back : List Call) (w₀ : WtSessionInfo) :
    Prop :=
  ∀ w id info, (s.viewAfter sessionId (front ++ back)).entry = some w →
    w.streams.find? id = some info → info.bytesSent ≤ info.maxStreamDataLocal ∧
      WtSessionInfo.AllowedOn (s.Comes sessionId front back) s.isServer id w₀
        (back.flatMap Call.inits) info.maxStreamDataLocal

/-- The Stream Data that `back` queues on a stream id is within a limit for it: an initial one that
applies to it, or that of a WT_MAX_STREAM_DATA received for it. -/
def StreamDataWithin (s : H2Session) (sessionId : Int) (front back : List Call)
    (w₀ : WtSessionInfo) : Prop :=
  ∀ id, WtSessionInfo.AllowedOn (s.Comes sessionId front back) s.isServer id w₀
    (back.flatMap Call.inits) (Capsule.sizeOn id (s.queuedBy sessionId front back))

/-- Where `open_stream` opens a stream, its index is below the limit of its direction: the first one,
or that of a received WT_MAX_STREAMS. -/
def StreamsWithin (s : H2Session) (sessionId : Int) (front back : List Call) (w₀ : WtSessionInfo) :
    Prop :=
  ∀ mid isUni w, mid ++ [Call.api (.openStream isUni)] <+: back →
    (s.viewAfter sessionId (front ++ mid)).entry = some w →
    (w.openStream s.config s.isServer isUni).2 ≠ -1 →
      ∃ index limit : Nat,
        (w.openStream s.config s.isServer isUni).2 = (buildStreamId s.isServer isUni index : Nat) ∧
        index < limit ∧
        (limit = w₀.maxStreamsLocal isUni ∨
          ∃ w₁, s.Comes sessionId front back w₁ (.maxStreams (!isUni) limit))

/-- Between two states of the session its limits do not fall. -/
def LimitsRise (s : H2Session) (sessionId : Int) (front back : List Call) : Prop :=
  ∀ mid more w w', mid ++ more <+: back → (s.viewAfter sessionId (front ++ mid)).entry = some w →
    (s.viewAfter sessionId (front ++ mid ++ more)).entry = some w' →
      w.maxDataLocal ≤ w'.maxDataLocal ∧ ∀ isUni, w.maxStreamsLocal isUni ≤ w'.maxStreamsLocal isUni

/-- Between two states of the session the limit of a stream does not fall. -/
def StreamLimitsRise (s : H2Session) (sessionId : Int) (front back : List Call) : Prop :=
  ∀ mid more w w' id info info', mid ++ more <+: back →
    (s.viewAfter sessionId (front ++ mid)).entry = some w →
    (s.viewAfter sessionId (front ++ mid ++ more)).entry = some w' →
    w.streams.find? id = some info → w'.streams.find? id = some info' →
      info.maxStreamDataLocal ≤ info'.maxStreamDataLocal

/-- No stream is created under the id of a released one: a capsule and a call of `open_stream` that
create a stream find room in the record of released ids, and `open_stream` gives out none of these. -/
structure CreatesOnce (s : H2Session) (sessionId : Int) (front back : List Call) : Prop where
  peer : ∀ w r streamId, s.Comes sessionId front back w r → r.Creates w streamId →
    w.releasedStreamIds.card < kMaxReceivedMapEntries
  own : ∀ mid isUni w, mid ++ [Call.api (.openStream isUni)] <+: back →
    (s.viewAfter sessionId (front ++ mid)).entry = some w → w.isEstablished = true →
    w.hasRoom isUni → w.streams.find? (w.nextStreamId s.isServer isUni) = none →
      w.releasedStreamIds.card < kMaxReceivedMapEntries ∧ ¬ w.Reopens s.isServer (.openStream isUni)

section Runs

variable {isServer : Bool} {config : H2SessionConfig} {s : H2Session} {sessionId : Int}
  {inputs : List Input} {front back : List Call} {w₀ w : WtSessionInfo} {events : List H2Event}

open WtSessionInfo (Change Granted StreamGranted SentOnce AtLeast Wf Table Fresh granted_of_path
  granted_start sentBytes sentBytesOn)

/-- A request leaves its entry under the session id. -/
theorem entry_of_request (s : H2Session) (sessionId : Int) (front : List Call) (w₀ : WtSessionInfo)
    (events : List H2Event) :
    (s.viewAfter sessionId (front ++ [Call.request w₀ events])).entry = some w₀ := by
  have hentry := (viewAfter_append s sessionId front (.request w₀ events)).1
  exact hentry.trans (SessionScope.foldl_pushEvent_effects events _).1

/-- Capsules further on in a run are capsules of the run. -/
theorem Comes.behind {mid more : List Call} {r : Received}
    (h : s.Comes sessionId (front ++ mid) more w r) : s.Comes sessionId front (mid ++ more) w r := by
  rcases h with ⟨calls, c, data, n, sc, w₁, type, payload, rest, hcalls, htakes, hafter, hrest⟩
  refine ⟨mid ++ calls, c, data, n, sc, w₁, type, payload, rest, ?_, htakes, ?_, hrest⟩
  · rw [List.append_assoc]
    exact (List.prefix_append_right_inj mid).2 hcalls
  · rw [← List.append_assoc]
    exact hafter

/-- The capsules of `back` are those of its changes. -/
theorem queuedBy_streams {es : List Effect} {ms : List Moment}
    (heffects : (s.viewAfter sessionId (front ++ back)).effects =
      (s.viewAfter sessionId front).effects ++ es)
    (hstreams : Effect.streams es = (Label.sentOf (Moment.labels ms)).filter Capsule.isStream) :
    (Capsule.streamBytes (s.queuedBy sessionId front back)).length = sentBytes ms ∧
      ∀ id, Capsule.sizeOn id (s.queuedBy sessionId front back) = sentBytesOn id ms := by
  have hqueued : (s.queuedBy sessionId front back).filter Capsule.isStream =
      (Label.sentOf (Moment.labels ms)).filter Capsule.isStream := by
    unfold queuedBy
    rw [heffects, List.drop_left, ← hstreams]
    rfl
  refine ⟨?_, fun id => ?_⟩
  · rw [← Capsule.streamBytes_filter, hqueued, Capsule.streamBytes_filter]
    exact WtSessionInfo.sentBytes_eq ms
  · rw [← Capsule.sizeOn_filter, hqueued, Capsule.sizeOn_filter]
    exact WtSessionInfo.sentBytesOn_eq id ms

/-- The changes behind a run, with no condition on the streams it creates. -/
theorem changes_of_run (h : create isServer config = .ok s)
    (hcalls : front ++ back <+: s.runCalls sessionId inputs)
    (hrequest : ∀ w events, .request w events ∉ back)
    (hentry : (s.viewAfter sessionId front).entry = some w) :
    ∃ ms w', Path (Change (fun _ _ => True) (s.Comes sessionId front back) config isServer) w ms w' ∧
      (∀ w'', (s.viewAfter sessionId (front ++ back)).entry = some w'' → w'' = w') ∧
      (Capsule.streamBytes (s.queuedBy sessionId front back)).length = sentBytes ms ∧
      ∀ l ∈ Moment.inits ms, l ∈ back.flatMap Call.inits := by
  rcases life_of_run h hcalls (fun _ _ _ _ _ => trivial) hrequest (fun _ _ _ _ _ _ _ _ => trivial)
    hentry with ⟨es, heffects, ms, w', hpath, hlast, hstreams, hinits⟩
  exact ⟨ms, w', hpath, hlast, (queuedBy_streams heffects hstreams).1, hinits⟩

/-- A stream that a capsule creates is a new one. -/
theorem CreatesOnce.fresh_peer (honce : s.CreatesOnce sessionId front back) {r : Received}
    {streamId : Nat} (hcomes : s.Comes sessionId front back w r) (hcreates : r.Creates w streamId) :
    Fresh isServer w streamId :=
  ⟨honce.peer w r streamId hcomes hcreates, fun _ => hcreates.2.2⟩

/-- So is a stream that `open_stream` opens. -/
theorem CreatesOnce.fresh_own (honce : s.CreatesOnce sessionId front back) (mid : List Call)
    (isUni : Bool) (w : WtSessionInfo) (hmid : mid ++ [Call.api (.openStream isUni)] <+: back)
    (hw : (s.viewAfter sessionId (front ++ mid)).entry = some w) (hestablished : w.isEstablished = true)
    (hroom : w.hasRoom isUni) (hnone : w.streams.find? (w.nextStreamId s.isServer isUni) = none) :
    Fresh s.isServer w (w.nextStreamId s.isServer isUni) := by
  rcases honce.own mid isUni w hmid hw hestablished hroom hnone with ⟨hfew, hnot⟩
  refine ⟨hfew, fun hreceivable hmem => ?_⟩
  cases isUni with
  | true =>
      -- The peer never sends on a unidirectional stream of this side.
      have huni : isUniId (w.nextStreamId s.isServer true) = true := isUniId_buildStreamId _ _ _
      have hserver : isServerId (w.nextStreamId s.isServer true) = s.isServer :=
        isServerId_buildStreamId _ _ _
      unfold isReceivableDataCapsule at hreceivable
      rw [huni, hserver, beq_self_eq_true] at hreceivable
      cases hreceivable
  | false => exact hnot ⟨rfl, hestablished, hroom, hnone, hmem⟩

/-- The changes behind a run that creates no stream again. -/
theorem changes_once (h : create isServer config = .ok s)
    (hcalls : front ++ back <+: s.runCalls sessionId inputs)
    (hrequest : ∀ w events, .request w events ∉ back)
    (honce : s.CreatesOnce sessionId front back)
    (hentry : (s.viewAfter sessionId front).entry = some w) :
    ∃ ms w', Path (Change (Fresh isServer) (s.Comes sessionId front back) config isServer) w ms w' ∧
      (∀ w'', (s.viewAfter sessionId (front ++ back)).entry = some w'' → w'' = w') ∧
      (∀ id, Capsule.sizeOn id (s.queuedBy sessionId front back) = sentBytesOn id ms) ∧
      ∀ l ∈ Moment.inits ms, l ∈ back.flatMap Call.inits := by
  have hown := honce.fresh_own
  rw [(create_view h sessionId).2.1] at hown
  have hpeer : ∀ w r streamId, s.Comes sessionId front back w r → r.Creates w streamId →
      Fresh isServer w streamId := fun w r streamId hcomes hcreates =>
    honce.fresh_peer hcomes hcreates
  rcases life_of_run h hcalls hpeer hrequest hown hentry with
    ⟨es, heffects, ms, w', hpath, hlast, hstreams, hinits⟩
  exact ⟨ms, w', hpath, hlast, (queuedBy_streams heffects hstreams).2, hinits⟩

/-- The first half of a run meets the condition too. -/
theorem CreatesOnce.upTo {mid : List Call} (h : s.CreatesOnce sessionId front back)
    (hmid : mid <+: back) : s.CreatesOnce sessionId front mid :=
  ⟨fun w r streamId hcomes => h.peer w r streamId (hcomes.mono hmid),
    fun calls isUni w hcalls => h.own calls isUni w (hcalls.trans hmid)⟩

/-- So does the second half. -/
theorem CreatesOnce.behind {mid more : List Call} (h : s.CreatesOnce sessionId front back)
    (hmore : mid ++ more <+: back) : s.CreatesOnce sessionId (front ++ mid) more := by
  refine ⟨fun w r streamId hcomes => h.peer w r streamId (hcomes.behind.mono hmore), ?_⟩
  intro calls isUni w hcalls hentry
  refine h.own (mid ++ calls) isUni w ?_ ?_
  · rw [List.append_assoc]
    exact ((List.prefix_append_right_inj mid).2 hcalls).trans hmore
  · rw [← List.append_assoc]
    exact hentry

/-- A stream is opened under the next index, where there is room. -/
theorem openStream_result {isUni : Bool} (hopen : (w.openStream config isServer isUni).2 ≠ -1) :
    (w.openStream config isServer isUni).2 = (buildStreamId isServer isUni (w.nextCounter isUni) : Nat) ∧
      w.streamsOpened isUni < w.maxStreamsLocal isUni := by
  unfold WtSessionInfo.openStream at hopen ⊢
  cases isUni with
  | true =>
      simp only [if_true, true_and, Bool.not_true, Bool.false_eq_true, false_and, if_false] at hopen ⊢
      split_ifs at hopen ⊢ with hestablished hfull hsent hsome
      · exact absurd rfl hopen
      · exact absurd rfl hopen
      · exact absurd rfl hopen
      · exact absurd rfl hopen
      · exact ⟨rfl, not_le.1 hfull⟩
  | false =>
      simp only [if_false, true_and, Bool.not_false, Bool.false_eq_true, false_and] at hopen ⊢
      split_ifs at hopen ⊢ with hestablished hfull hsent hsome
      · exact absurd rfl hopen
      · exact absurd rfl hopen
      · exact absurd rfl hopen
      · exact absurd rfl hopen
      · exact ⟨rfl, not_le.1 hfull⟩

end Runs

section Parts

variable {isServer : Bool} {config : H2SessionConfig} {s : H2Session} {sessionId : Int}
  {inputs : List Input} {front back : List Call} {w₀ : WtSessionInfo}
  (h : create isServer config = .ok s) (hcalls : front ++ back <+: s.runCalls sessionId inputs)
  (hrequest : ∀ w events, .request w events ∉ back)
  (hentry : (s.viewAfter sessionId front).entry = some w₀)

open WtSessionInfo (Change Granted StreamGranted SentOnce AtLeast Wf Table Fresh granted_of_path
  sentBytes sentBytesOn)

include h hcalls hrequest hentry

theorem data_within (hsent : w₀.bytesSent = 0) : s.DataWithin sessionId front back w₀ := by
  rcases changes_of_run h hcalls hrequest hentry with ⟨ms, w, hpath, -, hsize, -⟩
  have hgranted := granted_of_path hpath
  have hstart : Wf isServer w₀ :=
    (scope_sound h ((List.prefix_append front back).trans hcalls)).2 w₀ hentry
  have hwf : Wf isServer w :=
    hpath.invariant (Wf isServer) (fun hwf hchange => hchange.wf hwf) hstart
  refine ⟨w.maxDataLocal, ?_, hgranted.data⟩
  calc
    (Capsule.streamBytes (s.queuedBy sessionId front back)).length = sentBytes ms := hsize
    _ = w.bytesSent := by rw [hgranted.sent, hsent, Nat.zero_add]
    _ ≤ w.maxDataLocal := hwf.sent_le

omit hentry in
theorem limits_rise : s.LimitsRise sessionId front back := by
  intro mid more w w' hmore hw hw'
  have hcalls' : front ++ mid ++ more <+: s.runCalls sessionId inputs := by
    rw [List.append_assoc]
    exact ((List.prefix_append_right_inj front).2 hmore).trans hcalls
  have hrequest' : ∀ w events, .request w events ∉ more := fun w events hmem =>
    hrequest w events (hmore.subset (List.mem_append_right mid hmem))
  rcases changes_of_run h hcalls' hrequest' hw with ⟨ms, last, hpath, hlast, -, -⟩
  have hgranted := granted_of_path hpath
  rw [hlast w' hw']
  exact ⟨hgranted.rises, hgranted.streamsRise⟩

theorem streams_within {peer : PeerSettings} {init : Option InitLimits}
    (hstarts : w₀.StartsWith peer init) : s.StreamsWithin sessionId front back w₀ := by
  intro mid isUni w hmid hw hopen
  rcases create_view h sessionId with ⟨-, hrole, hconfig⟩
  have hfront : mid <+: back := (List.prefix_append mid [_]).trans hmid
  have hcalls' : front ++ mid <+: s.runCalls sessionId inputs :=
    ((List.prefix_append_right_inj front).2 hfront).trans hcalls
  rcases changes_of_run h hcalls' (fun w events hmem => hrequest w events (hfront.subset hmem))
    hentry with ⟨ms, last, hpath, hlast, -, -⟩
  have hgranted := granted_of_path hpath
  rw [← hlast w hw] at hgranted
  have hcounted := hgranted.within (fun isUni => by
    rcases hstarts.opened isUni with ⟨hnext, hopened⟩
    rw [hnext, hopened]
    exact ⟨rfl, Nat.zero_le _⟩) isUni
  rw [hrole, hconfig] at hopen ⊢
  rcases openStream_result hopen with ⟨hresult, hroom⟩
  refine ⟨w.nextCounter isUni, w.maxStreamsLocal isUni, hresult, ?_, ?_⟩
  · rw [hcounted.1]
    exact hroom
  · rcases hgranted.streams isUni with hfirst | ⟨w₁, hcomes⟩
    · exact Or.inl hfirst
    · exact Or.inr ⟨w₁, hcomes.mono hfront⟩

omit hrequest in
/-- The limits of a stream id at the start. -/
theorem stream_granted_start {config : H2SessionConfig} (hw₀ : w₀.Requested config)
    {peer : PeerSettings} {init : Option InitLimits} (hstarts : w₀.StartsWith peer init) (id : Nat) :
    StreamGranted (s.Comes sessionId front back) isServer id w₀ [] w₀ := by
  refine ⟨?_, .settings le_rfl, ?_, ?_⟩
  · exact (scope_sound h ((List.prefix_append front back).trans hcalls)).2 w₀ hentry
  · intro value hvalue
    rw [hstarts.forgotten] at hvalue
    cases hvalue
  · intro info hinfo
    rw [hw₀.streams] at hinfo
    cases hinfo

theorem live_within {config' : H2SessionConfig} (hw₀ : w₀.Requested config') {peer : PeerSettings}
    {init : Option InitLimits} (hstarts : w₀.StartsWith peer init) :
    s.LiveWithin sessionId front back w₀ := by
  intro w id info hw hinfo
  rcases changes_of_run h hcalls hrequest hentry with ⟨ms, last, hpath, hlast, -, hinits⟩
  have hgranted := hpath.history
    (fun ms w => StreamGranted (s.Comes sessionId front back) isServer id w₀ ms w)
    (fun hgranted hchange => hgranted.change hchange) []
    (stream_granted_start h hcalls hentry hw₀ hstarts id)
  rw [List.nil_append, ← hlast w hw] at hgranted
  rw [(create_view h sessionId).2.1]
  exact ⟨(hgranted.wf.stream hinfo).sent_le, (hgranted.live info hinfo).mono le_rfl hinits⟩

omit hrequest in
/-- On an id that is not created again, what was sent is what its entries have counted. -/
theorem sent_once_start {config' : H2SessionConfig} (hw₀ : w₀.Requested config')
    {peer : PeerSettings} {init : Option InitLimits} (hstarts : w₀.StartsWith peer init) (id : Nat) :
    SentOnce (s.Comes sessionId front back) isServer id w₀ [] w₀ := by
  refine ⟨stream_granted_start h hcalls hentry hw₀ hstarts id,
    WtSessionInfo.table_requested hw₀, ?_, ?_⟩
  · intro info hinfo
    rw [hw₀.streams] at hinfo
    cases hinfo
  · intro _
    exact ⟨.settings (Nat.zero_le _), fun hsent => absurd rfl hsent⟩

theorem stream_data_within {config' : H2SessionConfig} (hw₀ : w₀.Requested config')
    {peer : PeerSettings} {init : Option InitLimits} (hstarts : w₀.StartsWith peer init)
    (honce : s.CreatesOnce sessionId front back) : s.StreamDataWithin sessionId front back w₀ := by
  intro id
  rcases changes_once h hcalls hrequest honce hentry with ⟨ms, last, hpath, -, hsize, hinits⟩
  have hsent := hpath.history
    (fun ms w => SentOnce (s.Comes sessionId front back) isServer id w₀ ms w)
    (fun hsent hchange => hsent.change hchange) []
    (sent_once_start h hcalls hentry hw₀ hstarts id)
  rw [List.nil_append] at hsent
  rw [(create_view h sessionId).2.1, hsize]
  exact hsent.allowed.mono le_rfl hinits

theorem stream_limits_rise {config' : H2SessionConfig} (hw₀ : w₀.Requested config')
    (honce : s.CreatesOnce sessionId front back) : s.StreamLimitsRise sessionId front back := by
  intro mid more w w' id info info' hmore hw hw' hinfo hinfo'
  have hfront : mid <+: back := (List.prefix_append mid more).trans hmore
  have hcalls' : front ++ mid ++ more <+: s.runCalls sessionId inputs := by
    rw [List.append_assoc]
    exact ((List.prefix_append_right_inj front).2 hmore).trans hcalls
  have hbefore : front ++ mid <+: s.runCalls sessionId inputs :=
    (List.prefix_append (front ++ mid) more).trans hcalls'
  -- The table is in order at the first state; from there on the stream is followed.
  rcases changes_once h hbefore (fun w events hmem => hrequest w events (hfront.subset hmem))
    (honce.upTo hfront) hentry with ⟨ms, last, hpath, hlast, -, -⟩
  have hwf₀ : Wf isServer w₀ :=
    (scope_sound h ((List.prefix_append front back).trans hcalls)).2 w₀ hentry
  have htable := hpath.invariant (fun w => Wf isServer w ∧ Table isServer w)
    (fun hab hchange => ⟨hchange.wf hab.1, (hchange.moved.1.table hab.1 hab.2).1⟩)
    ⟨hwf₀, WtSessionInfo.table_requested hw₀⟩
  rw [← hlast w hw] at htable
  have hstart : AtLeast isServer id info.maxStreamDataLocal w := by
    refine ⟨htable.1, htable.2, ?_, ?_⟩
    · intro info₁ hinfo₁
      rw [hinfo] at hinfo₁
      cases hinfo₁
      exact le_rfl
    · intro hnone
      rw [hinfo] at hnone
      cases hnone
  rcases changes_once h hcalls' (fun w events hmem => hrequest w events
    (hmore.subset (List.mem_append_right mid hmem))) (honce.behind hmore) hw with
      ⟨ms', last', hpath', hlast', -, -⟩
  have hend := hpath'.invariant (AtLeast isServer id info.maxStreamDataLocal)
    (fun hleast hchange => hleast.change hchange) hstart
  rw [← hlast' w' hw'] at hend
  exact hend.live info' hinfo'

end Parts

/-- From the request of a session on, its limits start with what the peer's SETTINGS and
WebTransport-Init say and do not fall, and the Stream Data sent in the session and the streams opened
here stay within them.  As long as no stream is created again under a released id, the Stream Data sent
on each stream id stays within the limits granted for it, which do not fall. -/
theorem sent_within_grants {isServer : Bool} {config : H2SessionConfig} {s : H2Session}
    (h : create isServer config = .ok s) (sessionId : Int) (inputs : List Input)
    {front back : List Call} {w₀ : WtSessionInfo} {events : List H2Event}
    (hcalls : front ++ [Call.request w₀ events] ++ back <+: s.runCalls sessionId inputs)
    (hrequest : ∀ w events, .request w events ∉ back) :
    (∃ before, before <+: inputs ∧ w₀.StartsWith (s.run before).peer
      (if s.isServer then (s.run before).requestInit sessionId else none)) ∧
    s.DataWithin sessionId (front ++ [Call.request w₀ events]) back w₀ ∧
    s.StreamsWithin sessionId (front ++ [Call.request w₀ events]) back w₀ ∧
    s.LiveWithin sessionId (front ++ [Call.request w₀ events]) back w₀ ∧
    s.LimitsRise sessionId (front ++ [Call.request w₀ events]) back ∧
    (s.CreatesOnce sessionId (front ++ [Call.request w₀ events]) back →
      s.StreamDataWithin sessionId (front ++ [Call.request w₀ events]) back w₀ ∧
      s.StreamLimitsRise sessionId (front ++ [Call.request w₀ events]) back) := by
  have hfront : front ++ [Call.request w₀ events] <+: s.runCalls sessionId inputs :=
    (List.prefix_append _ back).trans hcalls
  have hentry := entry_of_request s sessionId front w₀ events
  have hw₀ : w₀.Requested config := (called_next h hfront).1
  have hmem : Call.request w₀ events ∈ s.runCalls sessionId inputs :=
    hfront.subset (List.mem_append_right front (List.mem_singleton.2 rfl))
  rcases requested_of_runCalls hmem with ⟨before, hbefore, hrequested⟩
  have hstarts := requestedEntry_starts (s.run before).peer s.config sessionId
    (if s.isServer then (s.run before).requestInit sessionId else none)
  rw [← hrequested] at hstarts
  refine ⟨⟨before, hbefore, hstarts⟩, ?_, ?_, ?_, ?_, fun honce => ⟨?_, ?_⟩⟩
  · exact data_within h hcalls hrequest hentry hw₀.sent
  · exact streams_within h hcalls hrequest hentry hstarts
  · exact live_within h hcalls hrequest hentry hw₀ hstarts
  · exact limits_rise h hcalls hrequest
  · exact stream_data_within h hcalls hrequest hentry hw₀ hstarts honce
  · exact stream_limits_rise h hcalls hrequest hentry hw₀ honce

/-! ## A stream that is created again -/

/-- The peer grants 9 bytes to the session, 1 byte to a stream opened here and 1 such stream.  It
sends on the id of that stream first and ends it; both streams with this id take a byte. -/
def sentTwice : List Input :=
  .recvSettingsEntry 0x2b61 9 :: .recvSettingsEntry 0x2b66 1 :: .recvSettingsEntry 0x2b65 1 ::
    openSession 1 ++
      [.recvData 1 (encodeCapsule CapsuleType.wtStreamFin.toNat (varintBytes 1)) none,
        .sendStreamData 1 1 [7] true, .openStream 1 false, .sendStreamData 1 1 [7] false]

/-- There are no more turns than lead to an end. -/
theorem afterTurns_lt {m n : Nat} {sc sc' : SessionScope} (h : SessionScope.afterTurns m sc = none)
    (hn : SessionScope.afterTurns n sc = some sc') : n < m := by
  induction m generalizing n sc with
  | zero => cases h
  | succ m ih =>
      cases n with
      | zero => exact Nat.succ_pos m
      | succ n =>
          simp only [SessionScope.afterTurns] at h hn
          cases hturn : sc.loopTurn with
          | stop last =>
              rw [hturn] at hn
              cases hn
          | again next =>
              rw [hturn] at h hn
              exact Nat.succ_lt_succ (ih h hn)

/-- The next capsule of a scope is a WT_MAX_STREAM_DATA. -/
def nextRaises (config : H2SessionConfig) (sc : SessionScope) : Bool :=
  match sc.entry with
  | none => false
  | some w =>
      match SessionScope.readHead config w.capsuleBuffer with
      | .capsule type payload _ =>
          match readPayload type payload with
          | .received (.maxStreamData _ _) => true
          | _ => false
      | _ => false

/-- Every session method of `back` has at most one turn of `process_capsules` that dispatches a
capsule, and its scope has `P`. -/
def eachTurn (P : SessionScope → Bool) (s : H2Session) (sessionId : Int) (front back : List Call) :
    Bool :=
  (List.range back.length).all fun i =>
    match back[i]?.bind Call.takes with
    | none => true
    | some data =>
        let sc := (s.scopeAfter sessionId (front ++ back.take i)).appendBuffer data
        (SessionScope.afterTurns 2 sc).isNone &&
          (List.range 2).all fun n => (SessionScope.afterTurns n sc).all P

theorem eachTurn_sound {P : SessionScope → Bool} {s : H2Session} {sessionId : Int}
    {front back : List Call} (h : eachTurn P s sessionId front back = true) {w : WtSessionInfo}
    {r : Received} (hcomes : s.Comes sessionId front back w r) :
    ∃ sc w₁ type payload rest, P sc = true ∧ sc.entry = some w₁ ∧
      SessionScope.readHead s.config w₁.capsuleBuffer = .capsule type payload rest ∧
      readPayload type payload = .received r ∧ w = w₁.withBuffer rest := by
  rcases hcomes with ⟨mid, c, data, n, sc, w₁, type, payload, rest, ⟨more, rfl⟩, htakes, hafter,
    hentry, hhead, hread, hw⟩
  have hmem : mid.length ∈ List.range (mid ++ [c] ++ more).length := by simp
  have hchecked := List.all_eq_true.1 h mid.length hmem
  have hcall : (mid ++ [c] ++ more)[mid.length]? = some c := by simp
  have htake : (mid ++ [c] ++ more).take mid.length = mid := by simp
  simp only [hcall, Option.bind_some, htakes, htake, Bool.and_eq_true, Option.isNone_iff_eq_none]
    at hchecked
  have hn : n ∈ List.range 2 := List.mem_range.2 (afterTurns_lt hchecked.1 hafter)
  have hP := List.all_eq_true.1 hchecked.2 n hn
  rw [hafter, Option.all_some] at hP
  exact ⟨sc, w₁, type, payload, rest, hP, hentry, hhead, hread, hw⟩

/-- The two streams send 2 bytes on an id for which 1 was granted. -/
theorem sent_twice_exceeds :
    let s : H2Session := { isServer := true, config := {} }
    let front := (s.runCalls 1 sentTwice).take 1
    let back := (s.runCalls 1 sentTwice).drop 1
    create true {} = .ok s ∧ ∃ w₀, (s.viewAfter 1 front).entry = some w₀ ∧
      ¬ s.StreamDataWithin 1 front back w₀ := by
  intro s front back
  refine ⟨rfl, ?_⟩
  have hsize : Capsule.sizeOn 1 (s.queuedBy 1 front back) = 2 := by decide +kernel
  have hcredit : ((s.viewAfter 1 front).entry.map fun w =>
      w.peerSendCreditForStream (isUniId 1) (isServerId 1 == s.isServer)) = some 1 := by
    decide +kernel
  rcases Option.map_eq_some_iff.1 hcredit with ⟨w₀, hentry, hone⟩
  refine ⟨w₀, hentry, fun hwithin => ?_⟩
  have hallowed := hwithin 1
  rw [hsize] at hallowed
  cases hallowed with
  | settings hle =>
      rw [hone] at hle
      cases hle with
      | step hle => cases hle
  | init hl =>
      have hnone : (back.flatMap Call.inits).length = 0 := by decide +kernel
      rw [List.length_eq_zero_iff.1 hnone] at hl
      cases hl
  | capsule hmet =>
      have hturns : eachTurn (!nextRaises s.config ·) s 1 front back = true := by decide +kernel
      rcases eachTurn_sound hturns hmet with ⟨sc, w₁, type, payload, rest, hnot, hsc, hhead, hread, -⟩
      simp [nextRaises, hsc, hhead, hread] at hnot

/-- The call neither requests the session nor opens a stream. -/
def Call.isOrdinary : Call → Bool
  | .request _ _ | .api (.openStream _) => false
  | _ => true

/-- A request, and then ordinary calls. -/
def requestThenOrdinary : List Call → Bool
  | .request _ _ :: back => back.all Call.isOrdinary
  | _ => false

theorem exists_of_requestThenOrdinary {calls : List Call} (h : requestThenOrdinary calls = true) :
    ∃ back w events, calls = .request w events :: back ∧ back.all Call.isOrdinary = true := by
  cases calls with
  | nil => cases h
  | cons c back =>
      cases c with
      | request w events => exact ⟨back, w, events, rfl, h⟩
      | _ => cases h

/-- Up to the second stream nothing is created again. -/
theorem sent_within_grants_once :
    let s : H2Session := { isServer := true, config := {} }
    ∃ back w₀ events, s.runCalls 1 (sentTwice.take 10) = [Call.request w₀ events] ++ back ∧
      s.DataWithin 1 [Call.request w₀ events] back w₀ ∧
      s.StreamDataWithin 1 [Call.request w₀ events] back w₀ := by
  intro s
  have hcreate : create true {} = .ok s := rfl
  have hfirst : requestThenOrdinary (s.runCalls 1 (sentTwice.take 10)) = true := by decide +kernel
  rcases exists_of_requestThenOrdinary hfirst with ⟨back, w₀, events, hrun, hall⟩
  have hrequest : ∀ w events, Call.request w events ∉ back := by
    intro w events hmem
    cases List.all_eq_true.1 hall _ hmem
  have hprefix : [] ++ [Call.request w₀ events] ++ back <+: s.runCalls 1 (sentTwice.take 10) := by
    rw [hrun]
    exact List.prefix_rfl
  have hback : back = (s.runCalls 1 (sentTwice.take 10)).drop 1 := by
    rw [hrun]
    rfl
  have hfront : [Call.request w₀ events] = (s.runCalls 1 (sentTwice.take 10)).take 1 := by
    rw [hrun]
    rfl
  have hroom : eachTurn (fun sc => sc.entry.all fun w =>
      w.releasedStreamIds.card < kMaxReceivedMapEntries) s 1 [Call.request w₀ events] back = true := by
    rw [hfront, hback]
    decide +kernel
  have honce : s.CreatesOnce 1 [Call.request w₀ events] back := by
    refine ⟨?_, ?_⟩
    · intro w r streamId hcomes _
      rcases eachTurn_sound hroom hcomes with ⟨sc, w₁, type, payload, rest, hfew, hsc, -, -, rfl⟩
      rw [hsc, Option.all_some] at hfew
      exact of_decide_eq_true hfew
    · intro mid isUni w hmid
      have hmem : Call.api (.openStream isUni) ∈ back := hmid.subset (by simp)
      cases List.all_eq_true.1 hall _ hmem
  have hwithin := sent_within_grants hcreate 1 (sentTwice.take 10) hprefix hrequest
  exact ⟨back, w₀, events, hrun, hwithin.2.1, (hwithin.2.2.2.2.2 honce).1⟩

end H2Session

end H2
end WebTransport
