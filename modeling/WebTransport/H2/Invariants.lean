import WebTransport.H2.Calls

/-!
# H2.Invariants — properties of a session entry that last

What a session id sees of a run is a list of session methods (`H2.Calls`).  A property of the entry
is kept when the connection's own bookkeeping cannot touch it and the operations of the session keep
it (`Keeping`); it lasts when the entry of a request has it as well (`Lasting`).

* `Keeping.call`       : every session method keeps the property;
* `Keeping.afterTurns` : so does every turn of `process_capsules`;
* `Passes`             : the scopes a run passes through, between two session methods and behind
  every processed capsule;
* `passes_holding`     : their entries have a lasting property.
-/

namespace WebTransport
namespace H2

open Bindings

namespace WtSessionInfo

/-- The entry without the marks and the buffer, which only the connection reads. -/
def core (w : WtSessionInfo) : WtSessionInfo :=
  { w with isEstablished := false, isTerminated := false, preAcceptEndStream := false,
           capsuleBuffer := [] }

/-- What a call of the application makes of the entry. -/
def after (config : H2SessionConfig) (isServer : Bool) (w : WtSessionInfo) : Op → WtSessionInfo
  | .openStream isUnidirectional => (w.openStream config isServer isUnidirectional).1.1
  | .sendStreamData streamId data fin => (w.sendStreamData streamId data fin).1
  | .resetStream streamId errorCode => (w.resetStream streamId errorCode.toNat).1
  | .stopSending streamId errorCode => (w.stopSending streamId errorCode.toNat).1
  | _ => w

end WtSessionInfo

/-- Whatever entry a verdict leaves has `P`. -/
def Verdict.Leaves (P : WtSessionInfo → Prop) : Verdict → Prop
  | .refuse w _ _ _ => P w
  | .accept _ q _ => P q.1
  | .close _ => True

namespace WtSessionInfo

variable {config : H2SessionConfig} {isServer : Bool} {w : WtSessionInfo}

/-- A call of the application makes changes that receive nothing. -/
theorem after_path (hwf : Wf isServer w) (op : Op) :
    ∃ ls, Path (Trans .all config isServer) w ls (w.after config isServer op) ∧
      Label.receivedOf ls = [] := by
  have hemits : ∀ {q : Queued}, Emits .all config isServer w q →
      ∃ ls, Path (Trans .all config isServer) w ls q.1 ∧ Label.receivedOf ls = [] := by
    rintro q ⟨ls, hpath, -, hreceived, -⟩
    exact ⟨ls, hpath, hreceived⟩
  cases op with
  | openStream isUnidirectional =>
      exact hemits (openStream_emits w isUnidirectional fun _ _ => trivial)
  | sendStreamData streamId data fin =>
      rcases sendStreamData_path hwf streamId data fin with ⟨ls, hpath, -, hreceived, -⟩
      exact ⟨ls, hpath, hreceived⟩
  | resetStream streamId errorCode => exact hemits (resetStream_emits w trivial _)
  | stopSending streamId errorCode => exact hemits (stopSending_emits w trivial _)
  | _ => exact ⟨[], Path.none w, rfl⟩

/-- The entries a verdict can leave: behind the changes of an accepted capsule, as it was, or with
the stream that a refused data capsule has created. -/
theorem judge_leaves {P : WtSessionInfo → Prop} {r : Received} (hwf : Wf isServer w)
    (haccepted : ∀ events ls w', Path (Trans .all config isServer) w (.received r events :: ls) w' →
      Label.receivedOf ls = [] → P w')
    (hrefused : P w)
    (hcreated : ∀ streamId, w.streams.find? streamId = none →
      P (w.setStream streamId (w.newPeerStream config isServer streamId))) :
    (w.judge config isServer r).Leaves P := by
  have hends : (w.judge config isServer r).Ends P :=
    judge_ends hrefused r fun streamId _ _ hnone _ => hcreated streamId hnone
  cases hjudge : w.judge config isServer r with
  | refuse w' event errorCode message =>
      rw [hjudge] at hends
      exact hends.1
  | accept before q after =>
      rcases judge_answers hwf (Permits.all_admits isServer w r) hjudge with
        ⟨ls, hpath, -, hreceived, -⟩
      exact haccepted _ ls q.1 hpath hreceived
  | close event => trivial

end WtSessionInfo

/-- A property that an entry keeps as long as the application makes the calls it is `permitted`. -/
structure Keeping (config : H2SessionConfig) (isServer : Bool)
    (permitted : WtSessionInfo → Op → Prop) (P : WtSessionInfo → Prop) : Prop where
  bookkeeping : ∀ (w : WtSessionInfo) {w' : WtSessionInfo}, w'.core = w.core → P w → P w'
  limits : ∀ {w : WtSessionInfo} (limits : H2Session.InitLimits), P w →
    P (H2Session.applyInitLimits w limits)
  api : ∀ {w : WtSessionInfo} (op : Op), (∀ c, op ≠ .receive c) → permitted w op →
    WtSessionInfo.Wf isServer w → P w → P (w.after config isServer op)
  received : ∀ {w : WtSessionInfo} (r : Received), r.Fits → w.isTerminated = false →
    WtSessionInfo.Wf isServer w → P w → (w.judge config isServer r).Leaves P

/-- A property that every entry has from its request on. -/
structure Lasting (config : H2SessionConfig) (isServer : Bool)
    (permitted : WtSessionInfo → Op → Prop) (P : WtSessionInfo → Prop) : Prop
    extends Keeping config isServer permitted P where
  requested : ∀ {w : WtSessionInfo}, w.Requested config → P w

/-- A session method the application is permitted. -/
def Call.Permitted (permitted : WtSessionInfo → Op → Prop) (entry : Option WtSessionInfo)
    (c : Call) : Prop :=
  ∀ op w, c = .api op → entry = some w → permitted w op

namespace Keeping

open SessionScope (Sound)

variable {config : H2SessionConfig} {isServer : Bool} {permitted : WtSessionInfo → Op → Prop}
  {P : WtSessionInfo → Prop} {sc sc' : SessionScope} {w w' : WtSessionInfo}

/-- A scope of the connection whose entry, if there is one, has the property. -/
structure Holding (config : H2SessionConfig) (isServer : Bool) (P : WtSessionInfo → Prop)
    (sc : SessionScope) : Prop where
  sound : Sound isServer sc
  config_eq : sc.config = config
  entry : ∀ w, sc.entry = some w → P w

theorem closeSession_config (sc : SessionScope) (errorCode : Nat) (message : Bytes) :
    (sc.closeSession errorCode message).config = sc.config :=
  congrArg (fun i => i.2.1) (SessionScope.closeSession_identity sc errorCode message)

section Methods

variable (hP : Keeping config isServer permitted P)
include hP

/-- A verdict on a live entry leaves an entry with the property, if any. -/
theorem carryOut {verdict : Verdict} (hverdict : verdict.Leaves P)
    (hentry : (sc.carryOut verdict).entry = some w') : P w' := by
  cases verdict with
  | refuse w event errorCode message =>
      simp only [SessionScope.carryOut, SessionScope.closeSession] at hentry
      split_ifs at hentry with hterm
      · cases hentry
        exact hverdict
      · cases hentry
        exact hP.bookkeeping w rfl hverdict
  | accept before q after =>
      cases hentry
      exact hverdict
  | close event => cases hentry

theorem react (h : Holding config isServer P sc) (hentry : sc.entry = some w)
    (hlive : w.isTerminated = false) {reading : Reading} (hreading : reading.Fits) :
    Holding config isServer P (sc.react w reading) := by
  have hsound := h.sound.react hentry hlive reading
  have hwf : WtSessionInfo.Wf isServer w := h.sound.2 w hentry
  cases reading with
  | malformed =>
      refine ⟨hsound, h.config_eq, ?_⟩
      intro w' hw'
      simp only [SessionScope.react, SessionScope.resetStreamForMalformedCapsule, hentry,
        Option.map_some] at hw'
      cases hw'
      exact hP.bookkeeping w rfl (h.entry w hentry)
  | wtError message =>
      have hreported : ∀ sc' : SessionScope, sc'.entry = some w → ∀ w',
          (sc'.closeSession kWtError (ascii message)).entry = some w' → P w' := by
        intro sc' hsame w' hw'
        simp only [SessionScope.closeSession, hsame, hlive] at hw'
        cases hw'
        exact hP.bookkeeping w rfl (h.entry w hentry)
      have hconfig : (sc.react w (.wtError message)).config = config :=
        (closeSession_config (sc.pushEvent _) _ _).trans h.config_eq
      exact ⟨hsound, hconfig, hreported (sc.pushEvent _) hentry⟩
  | received r =>
      have hreact : sc.react w (.received r) = sc.carryOut (w.judge config isServer r) := by
        rw [← h.config_eq, ← h.sound.1]
        exact SessionScope.receive_eq hentry r
      have hverdict := hP.received r hreading hlive hwf (h.entry w hentry)
      rw [hreact] at hsound ⊢
      refine ⟨hsound, ?_, fun w' hw' => hP.carryOut hverdict hw'⟩
      cases w.judge config isServer r with
      | refuse w' event errorCode message =>
          exact (closeSession_config _ _ _).trans h.config_eq
      | accept before q after => exact h.config_eq
      | close event => exact h.config_eq

/-- A change of the marks or the buffer. -/
theorem setEntry (h : Holding config isServer P sc) (hentry : sc.entry = some w)
    (hcore : w'.core = w.core) : Holding config isServer P (sc.setEntry w') := by
  have hsound : Sound isServer (sc.setEntry w') :=
    h.sound.setEntry hentry (congrArg WtSessionInfo.streams hcore :)
      (congrArg WtSessionInfo.bytesSent hcore :) (congrArg WtSessionInfo.maxDataLocal hcore :)
  refine ⟨hsound, h.config_eq, ?_⟩
  intro w'' hw''
  cases hw''
  exact hP.bookkeeping w hcore (h.entry w hentry)

theorem processCapsules (h : Holding config isServer P sc) (data : Bytes) :
    Holding config isServer P (sc.processCapsules data) := by
  refine SessionScope.processCapsules_rule ?_ ?_ ?_ (SessionScope.eachTurn_true _) h
  · intro sc w buffer hentry hinv
    exact hP.setEntry hinv hentry rfl
  · intro sc type size payload hinv
    exact ⟨hinv.sound, hinv.config_eq, hinv.entry⟩
  · intro sc w buffer r hr hentry hlive _ hinv
    exact hP.react hinv hentry hlive hr

/-- Behind every processed capsule the property holds. -/
theorem afterTurns {n : Nat} (h : Holding config isServer P sc)
    (hafter : SessionScope.afterTurns n sc = some sc') : Holding config isServer P sc' := by
  induction n generalizing sc with
  | zero =>
      cases hafter
      exact h
  | succ n ih =>
      simp only [SessionScope.afterTurns] at hafter
      cases hturn : sc.loopTurn with
      | stop sc'' =>
          rw [hturn] at hafter
          cases hafter
      | again sc'' =>
          rw [hturn] at hafter
          refine ih ?_ hafter
          -- A turn that comes back has dispatched the capsule at the head of the buffer.
          cases hw : sc.entry with
          | none =>
              simp only [SessionScope.loopTurn, hw] at hturn
              cases hturn
          | some w₀ =>
              cases hterm : w₀.isTerminated with
              | true =>
                  rw [SessionScope.loopTurn_terminated hw hterm] at hturn
                  cases hturn
              | false =>
                  rw [SessionScope.loopTurn_live hw hterm] at hturn
                  cases hhead : SessionScope.readHead sc.config w₀.capsuleBuffer with
                  | unfinished =>
                      rw [hhead] at hturn
                      cases hturn
                  | oversized =>
                      rw [hhead] at hturn
                      cases hturn
                  | capsule type payload rest =>
                      rw [hhead] at hturn
                      cases hturn
                      have hrest : Holding config isServer P (sc.setEntry (w₀.withBuffer rest)) :=
                        hP.setEntry h hw rfl
                      have hready : Holding config isServer P
                          (((sc.setEntry (w₀.withBuffer rest)).perform (.dispatch type payload)
                            ).perform (.consumeRecvBytes (w₀.capsuleBuffer.length - rest.length))) :=
                        ⟨hrest.sound, hrest.config_eq, hrest.entry⟩
                      rw [SessionScope.processCapsule, SessionScope.handleCapsule_eq rfl]
                      exact hP.react hready rfl hterm (readPayload_fits type payload)

/-- The application's calls keep the property. -/
theorem step (h : Holding config isServer P sc) (op : Op) (hop : ∀ c, op ≠ .receive c)
    (hpermitted : Call.Permitted permitted sc.entry (.api op)) :
    Holding config isServer P (sc.step op) := by
  have hsound := h.sound.step op hop
  have hconfig : (sc.step op).config = config :=
    (congrArg (fun i => i.2.1) (SessionScope.step_identity sc op)).trans h.config_eq
  refine ⟨hsound, hconfig, ?_⟩
  intro w' hw'
  cases hentry : sc.entry with
  | none =>
      rw [(SessionScope.step_gone hentry op).1, hentry] at hw'
      cases hw'
  | some w =>
      have hw := h.entry w hentry
      have hafter := hP.api op hop (hpermitted op w rfl hentry) (h.sound.2 w hentry) hw
      cases op with
      | openStream isUnidirectional =>
          simp only [SessionScope.step, SessionScope.onEntry, hentry, SessionScope.store,
            h.config_eq, h.sound.1] at hw'
          cases hw'
          exact hafter
      | sendStreamData streamId data fin =>
          simp only [SessionScope.step, SessionScope.onEntry, hentry, SessionScope.store] at hw'
          cases hw'
          exact hafter
      | resetStream streamId errorCode =>
          simp only [SessionScope.step] at hw'
          split_ifs at hw' with hid
          · exact h.entry w' hw'
          · simp only [SessionScope.onEntry, hentry, SessionScope.store] at hw'
            cases hw'
            exact hafter
      | stopSending streamId errorCode =>
          simp only [SessionScope.step] at hw'
          split_ifs at hw' with hid
          · exact h.entry w' hw'
          · simp only [SessionScope.onEntry, hentry, SessionScope.store] at hw'
            cases hw'
            exact hafter
      | sendDatagram data =>
          simp only [SessionScope.step, SessionScope.onEntry, hentry, SessionScope.store,
            WtSessionInfo.sendDatagram] at hw'
          split_ifs at hw' <;> cases hw' <;> exact hw
      | drainSession =>
          simp only [SessionScope.step, SessionScope.onEntry, hentry, SessionScope.store,
            WtSessionInfo.drainSession] at hw'
          split_ifs at hw' <;> cases hw' <;> exact hw
      | closeSession errorCode message =>
          simp only [SessionScope.step, SessionScope.closeSession, hentry] at hw'
          split_ifs at hw' with hterm
          · exact h.entry w' hw'
          · cases hw'
            exact hP.bookkeeping w rfl hw
      | receive c => exact absurd rfl (hop c)

/-- Every session method keeps the property. -/
theorem call (h : Holding config isServer P sc) (c : Call)
    (hallowed : c.Allowed sc.isServer sc.config sc.entry)
    (hpermitted : c.Permitted permitted sc.entry)
    (hrequest : ∀ w events, c = .request w events → w.Requested config → P w) :
    Holding config isServer P (sc.call c) := by
  have hsound := h.sound.call c hallowed
  have hconfig : (sc.call c).config = config :=
    (congrArg (fun i => i.2.1) (SessionScope.call_identity c sc)).trans h.config_eq
  refine ⟨hsound, hconfig, ?_⟩
  intro w' hw'
  cases c with
  | request w events =>
      have hfold : ∀ sc' : SessionScope, (events.foldl SessionScope.pushEvent sc').entry =
          sc'.entry := by
        clear hw' hallowed hsound hconfig hpermitted hrequest
        induction events with
        | nil => exact fun sc' => rfl
        | cons e rest ih => exact fun sc' => ih (sc'.pushEvent e)
      simp only [SessionScope.call, hfold] at hw'
      cases hw'
      exact hrequest w' events rfl (h.config_eq ▸ hallowed.1)
  | establish headers =>
      simp only [SessionScope.call, H2Session.establish] at hw'
      cases hentry : sc.entry with
      | none =>
          simp only [hentry] at hw'
          cases hw'
      | some w =>
          cases hinit : (H2Session.lastHeader headers (ascii "webtransport-init")).bind
              H2Session.parseWebtransportInit with
          | none =>
              simp only [hentry, hinit] at hw'
              cases hw'
              exact hP.bookkeeping w rfl (h.entry w hentry)
          | some limits =>
              simp only [hentry, hinit] at hw'
              cases hw'
              exact hP.bookkeeping (H2Session.applyInitLimits w limits) rfl
                (hP.limits limits (h.entry w hentry))
  | beRejected status =>
      simp only [SessionScope.call, H2Session.beRejected] at hw'
      cases hentry : sc.entry with
      | none =>
          simp only [hentry] at hw'
          cases hw'
      | some w =>
          simp only [hentry] at hw'
          cases hw'
  | reject status rv =>
      have hsame : ∃ w, sc.entry = some w ∧ w'.core = w.core := by
        simp only [SessionScope.call, H2Session.reject] at hw'
        cases hentry : sc.entry with
        | none => cases rv <;> split_ifs at hw' <;>
            simp [SessionScope.pushEvent, SessionScope.perform, hentry] at hw'
        | some w =>
            refine ⟨w, rfl, ?_⟩
            cases rv <;> split_ifs at hw' <;>
              simp [SessionScope.pushEvent, SessionScope.perform, SessionScope.setEntry,
                hentry] at hw' <;> subst hw' <;> rfl
      rcases hsame with ⟨w, hentry, hcore⟩
      exact hP.bookkeeping w hcore (h.entry w hentry)
  | recvEstablished data =>
      have hloop := hP.processCapsules h data
      have hsame : (sc.recvEstablished data).entry = (sc.processCapsules data).entry := by
        unfold SessionScope.recvEstablished
        dsimp only
        cases hentry : (sc.processCapsules data).entry with
        | none => exact hentry
        | some w =>
            dsimp only
            split_ifs
            · exact hentry
            · exact hentry
      exact hloop.entry w' (hsame ▸ hw')
  | bufferPreAccept data =>
      rcases hallowed with ⟨w, hentry, -, -⟩
      simp only [SessionScope.call, SessionScope.bufferPreAccept, hentry, Option.map_some] at hw'
      cases hw'
      exact hP.bookkeeping w rfl (h.entry w hentry)
  | handleEndStream =>
      simp only [SessionScope.call, SessionScope.handleEndStream] at hw'
      cases hentry : sc.entry with
      | none =>
          simp only [hentry] at hw'
          cases hw'
      | some w =>
          simp only [hentry] at hw'
          split_ifs at hw'
          · cases hw'
            exact hP.bookkeeping w rfl (h.entry w hentry)
          · exact h.entry w' hw'
          · simp only [SessionScope.resetStreamForMalformedCapsule, hentry, Option.map_some] at hw'
            cases hw'
            exact hP.bookkeeping w rfl (h.entry w hentry)
          · cases hw'
  | terminatePreAcceptEndStreamSession =>
      simp only [SessionScope.call, SessionScope.terminatePreAcceptEndStreamSession] at hw'
      cases hentry : sc.entry with
      | none =>
          simp only [hentry] at hw'
          cases hw'
      | some w =>
          simp only [hentry] at hw'
          split_ifs at hw'
          · simp only [SessionScope.resetStreamForMalformedCapsule, hentry, Option.map_some] at hw'
            cases hw'
            exact hP.bookkeeping w rfl (h.entry w hentry)
          · cases hw'
  | markEstablished =>
      simp only [SessionScope.call, SessionScope.markEstablished] at hw'
      rcases Option.map_eq_some_iff.1 hw' with ⟨w, hentry, rfl⟩
      exact hP.bookkeeping w rfl (h.entry w hentry)
  | clearBuffer =>
      simp only [SessionScope.call, SessionScope.clearBuffer] at hw'
      rcases Option.map_eq_some_iff.1 hw' with ⟨w, hentry, rfl⟩
      exact hP.bookkeeping w rfl (h.entry w hentry)
  | drain => exact (hP.processCapsules h []).entry w' hw'
  | sendInitialLimits => exact h.entry w' hw'
  | streamClose errorCode =>
      simp only [SessionScope.call, SessionScope.closeStream] at hw'
      cases hentry : sc.entry with
      | none =>
          simp only [hentry, SessionScope.perform] at hw'
          cases hw'
      | some w =>
          simp only [hentry, SessionScope.perform] at hw'
          cases hw'
  | api op => exact (hP.step h op hallowed hpermitted).entry w' hw'

end Methods

end Keeping

/-! ## Along a run -/

namespace H2Session

open SessionScope (afterTurns)

/-- The view of a session id behind the first session methods of a run. -/
def viewAfter (s : H2Session) (sessionId : Int) (calls : List Call) : View :=
  calls.foldl (View.call s.isServer s.config sessionId) (s.view sessionId)

/-- The scope that a session method finds. -/
def scopeAfter (s : H2Session) (sessionId : Int) (calls : List Call) : SessionScope :=
  { isServer := s.isServer, config := s.config, sessionId := sessionId,
    entry := (s.viewAfter sessionId calls).entry }

/-- The run passes through the scope: some of its session methods lead up to it, and then, where
`process_capsules` is called with `data`, `n` processed capsules. -/
def Passes (s : H2Session) (sessionId : Int) (inputs : List Input) (sc : SessionScope) : Prop :=
  ∃ calls data n, calls <+: s.runCalls sessionId inputs ∧
    afterTurns n ((s.scopeAfter sessionId calls).appendBuffer data) = some sc

/-- Along the run the application keeps to the calls it is permitted on the session. -/
def KeepsTo (s : H2Session) (sessionId : Int) (permitted : WtSessionInfo → Op → Prop)
    (inputs : List Input) : Prop :=
  ∀ calls c, calls ++ [c] <+: s.runCalls sessionId inputs →
    c.Permitted permitted (s.viewAfter sessionId calls).entry

theorem keepsTo_all (s : H2Session) (sessionId : Int) (inputs : List Input) :
    s.KeepsTo sessionId (fun _ _ => True) inputs := fun _ _ _ _ _ _ _ => trivial

/-- A path of calls leads to the view that running them gives. -/
theorem view_of_path {isServer : Bool} {config : H2SessionConfig} {sessionId : Int} {v v' : View}
    {calls : List Call} (h : Path (Called isServer config sessionId) v calls v') :
    v' = calls.foldl (View.call isServer config sessionId) v := by
  induction calls generalizing v with
  | nil => exact h.symm
  | cons c calls ih =>
      rcases h with ⟨mid, ⟨-, rfl⟩, hrest⟩
      exact ih hrest

/-- The whole run leads to its last state. -/
theorem viewAfter_run (s : H2Session) (sessionId : Int) (inputs : List Input) :
    s.viewAfter sessionId (s.runCalls sessionId inputs) = (s.run inputs).view sessionId :=
  (view_of_path (run_calls s sessionId inputs).path).symm

/-- In its last state a run may take in data. -/
theorem passes_data (s : H2Session) (sessionId : Int) (inputs : List Input) (data : Bytes) :
    s.Passes sessionId inputs (((s.run inputs).scope sessionId).appendBuffer data) := by
  have hsees := run_calls s sessionId inputs
  have hscope : s.scopeAfter sessionId (s.runCalls sessionId inputs) =
      (s.run inputs).scope sessionId := by
    unfold scopeAfter
    rw [viewAfter_run, ← hsees.role, ← hsees.config]
    rfl
  refine ⟨s.runCalls sessionId inputs, data, 0, List.prefix_rfl, ?_⟩
  rw [hscope]
  rfl

/-- The last state of a run is one it passes through. -/
theorem passes_last (s : H2Session) (sessionId : Int) (inputs : List Input) :
    s.Passes sessionId inputs ((s.run inputs).scope sessionId) := by
  have hself : ((s.run inputs).scope sessionId).appendBuffer [] = (s.run inputs).scope sessionId := by
    unfold SessionScope.appendBuffer
    cases hentry : ((s.run inputs).scope sessionId).entry with
    | none => rw [Option.map_none, ← hentry]
    | some w =>
        rw [Option.map_some, List.append_nil]
        have hw : w.withBuffer w.capsuleBuffer = w := rfl
        rw [hw, ← hentry]
  have hpasses := passes_data s sessionId inputs []
  rwa [hself] at hpasses

variable {isServer : Bool} {config : H2SessionConfig} {s : H2Session} {sessionId : Int}
  {permitted : WtSessionInfo → Op → Prop} {P : WtSessionInfo → Prop}

theorem check_of_create (h : create isServer config = .ok s) : config.check = .ok () := by
  unfold create at h
  cases hcheck : config.check with
  | error message =>
      rw [hcheck] at h
      cases h
  | ok u => rfl

/-- The next call of a run is one the code makes there. -/
theorem called_next (h : create isServer config = .ok s) {inputs : List Input} {calls : List Call}
    {c : Call} (hcalls : calls ++ [c] <+: s.runCalls sessionId inputs) :
    c.Allowed isServer config (s.viewAfter sessionId calls).entry := by
  rcases create_view h sessionId with ⟨hview, hrole, hconfig⟩
  rcases hcalls with ⟨more, hmore⟩
  have hpath := created_run h sessionId inputs
  rw [← hmore, List.append_assoc] at hpath
  rcases hpath.split with ⟨mid, hfront, next, ⟨hallowed, -⟩, -⟩
  have hmid : s.viewAfter sessionId calls = mid := by
    unfold viewAfter
    rw [hview, hrole, hconfig]
    exact (view_of_path hfront).symm
  rw [hmid]
  exact hallowed

/-- A property that is kept is carried over the session methods of a run, by induction on them, as
long as every entry requested on the way has it. -/
theorem scopeAfter_keeping (hP : Keeping config isServer permitted P)
    (h : create isServer config = .ok s) {inputs : List Input}
    (hkeeps : s.KeepsTo sessionId permitted inputs) {front back : List Call}
    (hcalls : front ++ back <+: s.runCalls sessionId inputs)
    (hrequest : ∀ w events, .request w events ∈ back → w.Requested config → P w)
    (hstart : Keeping.Holding config isServer P (s.scopeAfter sessionId front)) :
    Keeping.Holding config isServer P (s.scopeAfter sessionId (front ++ back)) := by
  rcases create_view h sessionId with ⟨-, hrole, hconfig⟩
  induction back using List.reverseRecOn with
  | nil =>
      rw [List.append_nil]
      exact hstart
  | append_singleton back c ih =>
      rw [← List.append_assoc] at hcalls ⊢
      have hfront : front ++ back <+: s.runCalls sessionId inputs :=
        (List.prefix_append (front ++ back) [c]).trans hcalls
      have hbefore := ih hfront fun w events hmem =>
        hrequest w events (List.mem_append_left [c] hmem)
      have hallowed := called_next h hcalls
      rw [← hrole, ← hconfig] at hallowed
      have hcall := hP.call hbefore c hallowed (hkeeps (front ++ back) c hcalls)
        fun w events heq => hrequest w events (by rw [heq]; exact List.mem_append_right _ (by simp))
      have hnext : (s.scopeAfter sessionId (front ++ back ++ [c])).entry =
          ((s.scopeAfter sessionId (front ++ back)).call c).entry := by
        unfold scopeAfter viewAfter
        rw [List.foldl_append]
        rfl
      refine ⟨⟨hrole, ?_⟩, hconfig, ?_⟩
      · intro w hw
        exact hcall.sound.2 w (hnext ▸ hw)
      · intro w hw
        exact hcall.entry w (hnext ▸ hw)

/-- A lasting property holds between two session methods of a run. -/
theorem scopeAfter_holding (hP : Lasting config isServer permitted P)
    (h : create isServer config = .ok s) {inputs : List Input}
    (hkeeps : s.KeepsTo sessionId permitted inputs) {calls : List Call}
    (hcalls : calls <+: s.runCalls sessionId inputs) :
    Keeping.Holding config isServer P (s.scopeAfter sessionId calls) := by
  rcases create_view h sessionId with ⟨hview, hrole, hconfig⟩
  have hnone : (s.scopeAfter sessionId []).entry = none := congrArg View.entry hview
  have hstart : Keeping.Holding config isServer P (s.scopeAfter sessionId []) := by
    refine ⟨⟨hrole, ?_⟩, hconfig, ?_⟩
    · intro w hw
      rw [hnone] at hw
      cases hw
    · intro w hw
      rw [hnone] at hw
      cases hw
  have hsplit : [] ++ calls <+: s.runCalls sessionId inputs := hcalls
  exact scopeAfter_keeping hP.toKeeping h hkeeps hsplit (fun w events _ hw => hP.requested hw) hstart

theorem lasting_true : Lasting config isServer (fun _ _ => True) (fun _ => True) where
  bookkeeping _ _ _ _ := trivial
  limits _ _ := trivial
  api _ _ _ _ _ := trivial
  received {w} r _ _ _ _ := by
    cases w.judge config isServer r <;> trivial
  requested _ := trivial

/-- Between two session methods the entry is well formed. -/
theorem scope_sound (h : create isServer config = .ok s) {inputs : List Input} {calls : List Call}
    (hcalls : calls <+: s.runCalls sessionId inputs) :
    SessionScope.Sound isServer (s.scopeAfter sessionId calls) :=
  (scopeAfter_holding lasting_true h (keepsTo_all s sessionId inputs) hcalls).sound

/-- A scope a run passes through has the property. -/
theorem passes_holding (hP : Lasting config isServer permitted P)
    (h : create isServer config = .ok s) {inputs : List Input}
    (hkeeps : s.KeepsTo sessionId permitted inputs) {sc : SessionScope}
    (hpasses : s.Passes sessionId inputs sc) : Keeping.Holding config isServer P sc := by
  rcases hpasses with ⟨calls, data, n, hcalls, hafter⟩
  have hholds := scopeAfter_holding hP h hkeeps hcalls
  have happended : Keeping.Holding config isServer P
      ((s.scopeAfter sessionId calls).appendBuffer data) :=
    SessionScope.appendBuffer_rule
      (fun _ _ _ hentry hholding => hP.toKeeping.setEntry hholding hentry rfl) data hholds
  exact hP.toKeeping.afterTurns happended hafter

end H2Session

end H2
end WebTransport
