import WebTransport.H2.Life

/-!
# H2.Tracking — the capsules of a session next to its entry

What was queued for a session often says something about its entry.  `Tracks` lists what such a
relation has to survive: the changes of `Trans` with the capsules they send, the creation of a stream
that is refused right away, the limits of a WebTransport-Init, the bookkeeping of the connection, the
capsule that closes the session and the initial limits.

* `Tracks`         : a relation that survives all of these;
* `Tracked.call`   : it survives a session method;
* `tracked_of_run` : it survives a run, from any of its states on, as long as no new session is
  requested.
-/

namespace WebTransport
namespace H2

open Bindings

/-- The capsules of `sendInitialLimits`. -/
def H2SessionConfig.initialLimits (config : H2SessionConfig) : List Capsule :=
  [.wtMaxData config.wtInitialMaxData, .wtMaxStreamsBidi config.wtInitialMaxStreamsBidi,
    .wtMaxStreamsUni config.wtInitialMaxStreamsUni]

/-- No limit of the session has been raised yet. -/
def WtSessionInfo.AtInitial (config : H2SessionConfig) (w : WtSessionInfo) : Prop :=
  w.maxDataRemote = config.wtInitialMaxData ∧
    w.maxStreamsBidiRemote = config.wtInitialMaxStreamsBidi ∧
    w.maxStreamsUniRemote = config.wtInitialMaxStreamsUni

instance (config : H2SessionConfig) (w : WtSessionInfo) : Decidable (w.AtInitial config) :=
  inferInstanceAs (Decidable (_ ∧ _ ∧ _))

/-- The method queues the initial limits. -/
def Call.sendsInitialLimits : Call → Bool
  | .establish _ | .sendInitialLimits => true
  | _ => false

open WtSessionInfo (Trans) in
/-- A relation between the entry of a session and the capsules queued for it that survives whatever
becomes of them, where streams are created under `create`. -/
structure Tracks (create : WtSessionInfo → Nat → Prop) (config : H2SessionConfig) (isServer : Bool)
    (Inv : Option WtSessionInfo → List Capsule → Prop) : Prop where
  gone : ∀ {entry cs}, Inv entry cs → Inv none cs
  keeps : ∀ {w w' cs}, Inv (some w) cs → w'.core = w.core → Inv (some w') cs
  trans : ∀ {w w' l cs}, Inv (some w) cs → Trans (.creating create) config isServer w l w' →
    Inv (some w') (cs ++ Label.sentOf [l])
  refused : ∀ {w streamId cs}, Inv (some w) cs → create w streamId →
    isReceivableDataCapsule streamId isServer = true → w.streams.find? streamId = none →
    Inv (some (w.setStream streamId (w.newPeerStream config isServer streamId))) cs
  limits : ∀ {w cs} l, Inv (some w) cs → Inv (some (H2Session.applyInitLimits w l)) cs
  close : ∀ {entry cs c}, Inv entry cs → c.isClose = true → Inv entry (cs ++ [c])
  initial : ∀ {w cs}, Inv (some w) cs → w.AtInitial config →
    Inv (some w) (cs ++ config.initialLimits)

namespace SessionScope

open WtSessionInfo (Trans Wf)

/-! ## Methods that queue nothing -/

/-- Nothing is queued, and the entry is gone or has changed in its bookkeeping only. -/
def Silent (sc sc' : SessionScope) : Prop :=
  sc'.identity = sc.identity ∧ ∃ es, sc'.effects = sc.effects ++ es ∧ Effect.capsules es = [] ∧
    ∀ w', sc'.entry = some w' → ∃ w, sc.entry = some w ∧ w'.core = w.core

namespace Silent

variable {sc sc' sc'' : SessionScope} {w : WtSessionInfo}

theorem refl (sc : SessionScope) : Silent sc sc :=
  ⟨rfl, [], (List.append_nil _).symm, rfl, fun w hw => ⟨w, hw, rfl⟩⟩

theorem trans (h : Silent sc sc') (h' : Silent sc' sc'') : Silent sc sc'' := by
  obtain ⟨hidentity, es, heffects, hcapsules, hentry⟩ := h
  obtain ⟨hidentity', es', heffects', hcapsules', hentry'⟩ := h'
  refine ⟨hidentity'.trans hidentity, es ++ es', ?_, ?_, ?_⟩
  · rw [heffects', heffects, List.append_assoc]
  · rw [Effect.capsules_append, hcapsules, hcapsules']
    rfl
  · intro w'' hw''
    obtain ⟨w', hw', hcore'⟩ := hentry' w'' hw''
    obtain ⟨w, hw, hcore⟩ := hentry w' hw'
    exact ⟨w, hw, hcore'.trans hcore⟩

theorem perform (h : Silent sc sc') {e : Effect} (he : Effect.capsules [e] = []) :
    Silent sc (sc'.perform e) :=
  h.trans ⟨rfl, [e], rfl, he, fun w hw => ⟨w, hw, rfl⟩⟩

/-- The entry is erased. -/
theorem gone (h : Silent sc sc') : Silent sc { sc' with entry := none } := by
  refine h.trans ⟨rfl, [], (List.append_nil _).symm, rfl, ?_⟩
  intro w hw
  cases hw

/-- Marks and buffer are rewritten. -/
theorem mark (h : Silent sc sc') (hentry : sc'.entry = some w) {w' : WtSessionInfo}
    (hcore : w'.core = w.core) : Silent sc (sc'.setEntry w') := by
  refine h.trans ⟨rfl, [], (List.append_nil _).symm, rfl, ?_⟩
  intro w'' hw''
  cases hw''
  exact ⟨w, hentry, hcore⟩

/-- Marks and buffer of the entry, if there is one, are rewritten. -/
theorem map {f : WtSessionInfo → WtSessionInfo} (hf : ∀ w, (f w).core = w.core) (sc : SessionScope) :
    Silent sc { sc with entry := sc.entry.map f } := by
  refine ⟨rfl, [], (List.append_nil _).symm, rfl, ?_⟩
  intro w' hw'
  obtain ⟨w, hw, rfl⟩ := Option.map_eq_some_iff.1 hw'
  exact ⟨w, hw, hf w⟩

theorem resetStreamForMalformedCapsule (sc : SessionScope) :
    Silent sc sc.resetStreamForMalformedCapsule := by
  have hmarked : Silent sc { sc with entry := sc.entry.map WtSessionInfo.ended } :=
    @map WtSessionInfo.ended (fun _ => rfl) sc
  exact hmarked.perform rfl

theorem eraseSession (h : Silent sc sc') : Silent sc sc'.eraseSession := by
  refine h.trans ⟨rfl, _, rfl, rfl, ?_⟩
  intro w hw
  cases hw

theorem events (h : Silent sc sc') (es : List H2Event) :
    Silent sc { sc' with effects := sc'.effects ++ es.map sc'.eventEffect } :=
  h.trans ⟨rfl, _, rfl, capsules_events es sc', fun w hw => ⟨w, hw, rfl⟩⟩

end Silent

theorem silent_of_quiet (sc : SessionScope) {c : Call} (hquiet : c.isQuiet = true)
    (hlimits : c.sendsInitialLimits = false) : sc.Silent (sc.call c) := by
  cases c with
  | request w events => cases hquiet
  | establish headers => cases hquiet
  | recvEstablished data => cases hquiet
  | drain => cases hquiet
  | api op => cases hquiet
  | sendInitialLimits => cases hlimits
  | beRejected status =>
      simp only [call, H2Session.beRejected]
      cases sc.entry with
      | none => exact .refl sc
      | some w =>
          have hevent : sc.Silent (sc.pushEvent { type := .sessionRejected,
                                                  statusCode := H2Session.rejectedStatus status }) :=
            (Silent.refl sc).perform rfl
          exact hevent.gone.perform rfl
  | reject status rv =>
      have hreported : ∀ sc' : SessionScope, sc.Silent sc' →
          sc.Silent (H2Session.reject status none sc') := by
        intro sc' hsilent
        simp only [H2Session.reject]
        split_ifs
        · exact hsilent.gone.perform rfl
        · cases hentry : sc'.entry with
          | none => exact hsilent
          | some w =>
              have hmarked : sc.Silent (sc'.setEntry { w with isTerminated := true,
                                                              preAcceptEndStream := false,
                                                              capsuleBuffer := [] }) :=
                hsilent.mark hentry rfl
              exact hmarked.perform rfl
      cases rv with
      | none => exact hreported sc (.refl sc)
      | some err => exact hreported _ ((Silent.refl sc).perform rfl)
  | bufferPreAccept data =>
      exact @Silent.map (fun w => { w with capsuleBuffer := w.capsuleBuffer ++ data })
        (fun _ => rfl) sc
  | handleEndStream =>
      simp only [call, handleEndStream]
      cases hentry : sc.entry with
      | none => exact .refl sc
      | some w =>
          dsimp only
          split_ifs
          · exact (Silent.refl sc).mark hentry rfl
          · exact .refl sc
          · exact .resetStreamForMalformedCapsule sc
          · exact ((Silent.refl sc).perform rfl).eraseSession
  | terminatePreAcceptEndStreamSession =>
      simp only [call, terminatePreAcceptEndStreamSession]
      cases sc.entry with
      | none => exact .refl sc
      | some w =>
          dsimp only
          split_ifs
          · exact .resetStreamForMalformedCapsule sc
          · exact ((Silent.refl sc).perform rfl).eraseSession
  | markEstablished => exact @Silent.map (fun w => { w with isEstablished := true }) (fun _ => rfl) sc
  | clearBuffer => exact @Silent.map (fun w => { w with capsuleBuffer := [] }) (fun _ => rfl) sc
  | streamClose errorCode =>
      simp only [call, closeStream]
      cases sc.entry with
      | none => exact ((Silent.refl sc).perform rfl).perform rfl
      | some w =>
          have hevent : sc.Silent (sc.pushEvent { type := .sessionClosed,
                                                  errorCode := errorCode.getD 0 }) :=
            (Silent.refl sc).perform rfl
          exact (hevent.gone.perform rfl).perform rfl

/-! ## The relation behind a session method -/

/-- A scope of the connection in which the relation holds; `past` is what was queued before its own
effects. -/
structure Tracked (config : H2SessionConfig) (isServer : Bool)
    (Inv : Option WtSessionInfo → List Capsule → Prop) (past : List Capsule) (sc : SessionScope) :
    Prop where
  sound : Sound isServer sc
  config_eq : sc.config = config
  inv : Inv sc.entry (past ++ Effect.capsules sc.effects)

namespace Tracked

variable {create : WtSessionInfo → Nat → Prop} {config : H2SessionConfig} {isServer : Bool}
  {Inv : Option WtSessionInfo → List Capsule → Prop} {past : List Capsule} {es : List Effect}
  {sc sc' : SessionScope} {w w' : WtSessionInfo} {ls : List Label}

theorem silent (hInv : Tracks create config isServer Inv) (h : Tracked config isServer Inv past sc)
    (hsilent : sc.Silent sc') : Tracked config isServer Inv past sc' := by
  obtain ⟨hidentity, es, heffects, hcapsules, hentry⟩ := hsilent
  refine ⟨⟨(congrArg Prod.fst hidentity).trans h.sound.1, ?_⟩,
    (congrArg (fun i => i.2.1) hidentity).trans h.config_eq, ?_⟩
  · intro w' hw'
    obtain ⟨w, hw, hcore⟩ := hentry w' hw'
    exact WtSessionInfo.wf_of_core (h.sound.2 w hw) hcore
  · rw [heffects, Effect.capsules_append, hcapsules, List.append_nil]
    cases hnext : sc'.entry with
    | none => exact hInv.gone h.inv
    | some w' =>
        obtain ⟨w, hw, hcore⟩ := hentry w' hnext
        have hinv := h.inv
        rw [hw] at hinv
        exact hInv.keeps hinv hcore

/-- The entry becomes another one, and capsules are queued. -/
theorem become (h : Tracked config isServer Inv past sc) (hwf : Wf isServer w')
    (hidentity : sc'.identity = sc.identity) (hentry : sc'.entry = some w')
    (heffects : sc'.effects = sc.effects ++ es)
    (hinv : Inv (some w') (past ++ Effect.capsules sc.effects ++ Effect.capsules es)) :
    Tracked config isServer Inv past sc' := by
  refine ⟨⟨(congrArg Prod.fst hidentity).trans h.sound.1, ?_⟩,
    (congrArg (fun i => i.2.1) hidentity).trans h.config_eq, ?_⟩
  · intro w'' hw''
    rw [hentry] at hw''
    cases hw''
    exact hwf
  · rw [hentry, heffects, Effect.capsules_append, ← List.append_assoc]
    exact hinv

/-- A path of changes, with what they send. -/
theorem path (hInv : Tracks create config isServer Inv) {cs : List Capsule} (h : Inv (some w) cs)
    (hpath : Path (Trans (.creating create) config isServer) w ls w') :
    Inv (some w') (cs ++ Label.sentOf ls) := by
  induction ls generalizing w cs with
  | nil =>
      cases hpath
      rw [show Label.sentOf [] = [] from rfl, List.append_nil]
      exact h
  | cons l ls ih =>
      obtain ⟨mid, hone, hrest⟩ := hpath
      have hnext := ih (hInv.trans h hone) hrest
      rw [List.append_assoc, ← Label.sentOf_append] at hnext
      exact hnext

/-- Changes of the entry, with what they send. -/
theorem labels (hInv : Tracks create config isServer Inv) (h : Tracked config isServer Inv past sc)
    (hentry : sc.entry = some w) (hpath : Path (Trans (.creating create) config isServer) w ls w')
    (hidentity : sc'.identity = sc.identity) (heffects : sc'.effects = sc.effects ++ es)
    (hentry' : sc'.entry = some w') (hsent : Effect.capsules es = Label.sentOf ls) :
    Tracked config isServer Inv past sc' := by
  have hinv := h.inv
  rw [hentry] at hinv
  have hwf : Wf isServer w' :=
    hpath.invariant (Wf isServer) (fun hwf htrans => htrans.wf hwf) (h.sound.2 w hentry)
  refine h.become hwf hidentity hentry' heffects ?_
  rw [hsent]
  exact path hInv hinv hpath

theorem closeSession (hInv : Tracks create config isServer Inv)
    (h : Tracked config isServer Inv past sc) (errorCode : Nat) (message : Bytes) :
    Tracked config isServer Inv past (sc.closeSession errorCode message) := by
  unfold SessionScope.closeSession
  cases hentry : sc.entry with
  | none => exact h
  | some w =>
      dsimp only
      split_ifs
      · exact h
      · have hinv := h.inv
        rw [hentry] at hinv
        have hended : Inv (some w.ended) (past ++ Effect.capsules sc.effects ++
            [.wtCloseSession errorCode (closeMessage message)]) :=
          hInv.close (hInv.keeps hinv rfl) rfl
        have hwf : Wf isServer w.ended := WtSessionInfo.wf_of_core (h.sound.2 w hentry) rfl
        exact h.become hwf rfl rfl rfl hended

/-- A verdict on what was read. -/
theorem carryOut (hInv : Tracks create config isServer Inv) (h : Tracked config isServer Inv past sc)
    (hentry : sc.entry = some w) (r : Received)
    (hcreate : ∀ streamId, r.Creates w streamId → create w streamId) :
    Tracked config isServer Inv past (sc.carryOut (w.judge config isServer r)) := by
  have hends : (w.judge config isServer r).Ends fun w' => w' = w ∨ ∃ streamId,
      isReceivableDataCapsule streamId isServer = true ∧ r.Creates w streamId ∧
        w' = w.setStream streamId (w.newPeerStream config isServer streamId) :=
    WtSessionInfo.judge_ends (Or.inl rfl) r fun streamId hstream hreceivable hnone hnew =>
      Or.inr ⟨streamId, hreceivable, ⟨hstream, hnone, hnew⟩, rfl⟩
  cases hjudge : w.judge config isServer r with
  | refuse w' event errorCode message =>
      rw [hjudge] at hends
      have hleft : Tracked config isServer Inv past { sc with entry := some w' } := by
        rcases hends.1 with rfl | ⟨streamId, hreceivable, hcreates, rfl⟩
        · rw [← hentry]
          exact h
        · have hinv := h.inv
          rw [hentry] at hinv
          refine h.become ((h.sound.2 w hentry).setStream
            (WtSessionInfo.wfStream_newPeerStream w config _)) rfl rfl (List.append_nil _).symm ?_
          have hrefused := hInv.refused hinv (hcreate streamId hcreates) hreceivable hcreates.2.1
          rw [← List.append_nil (past ++ Effect.capsules sc.effects)] at hrefused
          exact hrefused
      exact (hleft.silent hInv ((Silent.refl _).events event.toList)).closeSession hInv _ _
  | accept before q after =>
      have hadmits : (Permits.creating create).Admits isServer w r :=
        ⟨fun _ _ _ _ => trivial,
          fun streamId hstream hnone hnew => hcreate streamId ⟨hstream, hnone, hnew⟩,
          fun _ _ _ _ _ => trivial⟩
      obtain ⟨ls, hpath, hsent, -, -⟩ :=
        WtSessionInfo.judge_answers (h.sound.2 w hentry) hadmits hjudge
      refine h.labels hInv hentry hpath rfl rfl rfl ?_
      rw [Effect.capsules_append, Effect.capsules_append, capsules_events, capsules_events,
        capsules_map_capsule, List.append_nil, List.nil_append]
      exact hsent.symm
  | close event => exact h.silent hInv ((Silent.refl sc).perform rfl).eraseSession

/-- A dispatched capsule. -/
theorem turn (hInv : Tracks create config isServer Inv) (h : Tracked config isServer Inv past sc)
    (hentry : sc.entry = some w) (type size : Nat) (payload rest : Bytes)
    (hcreate : ∀ r, readPayload type payload = .received r → ∀ streamId,
      r.Creates (w.withBuffer rest) streamId → create (w.withBuffer rest) streamId) :
    Tracked config isServer Inv past
      ((((sc.setEntry (w.withBuffer rest)).perform (.dispatch type payload)).perform
        (.consumeRecvBytes size)).react (w.withBuffer rest) (readPayload type payload)) := by
  let sc₁ := ((sc.setEntry (w.withBuffer rest)).perform (.dispatch type payload)).perform
    (.consumeRecvBytes size)
  have hmarked : sc.Silent (sc.setEntry (w.withBuffer rest)) := (Silent.refl sc).mark hentry rfl
  have hready : Tracked config isServer Inv past sc₁ :=
    h.silent hInv ((hmarked.perform rfl).perform rfl)
  cases hreading : readPayload type payload with
  | malformed => exact hready.silent hInv (.resetStreamForMalformedCapsule sc₁)
  | wtError message =>
      have hevent : sc₁.Silent (sc₁.pushEvent { type := .error, errorCode := kWtError,
                                                errorMessage := ascii message }) :=
        (Silent.refl sc₁).perform rfl
      exact (hready.silent hInv hevent).closeSession hInv _ _
  | received r =>
      have hreact : sc₁.react (w.withBuffer rest) (.received r) =
          sc₁.carryOut ((w.withBuffer rest).judge sc₁.config sc₁.isServer r) :=
        receive_eq rfl r
      have hrole : sc₁.isServer = isServer := hready.sound.1
      have hconfig : sc₁.config = config := hready.config_eq
      rw [hrole, hconfig] at hreact
      rw [hreact]
      exact hready.carryOut hInv rfl r (hcreate r hreading)

theorem processCapsules {P : WtSessionInfo → Prop} (hInv : Tracks create config isServer Inv)
    (hcreate : ∀ w type payload rest r, P w →
      readHead config w.capsuleBuffer = .capsule type payload rest →
      readPayload type payload = .received r → ∀ streamId,
        r.Creates (w.withBuffer rest) streamId → create (w.withBuffer rest) streamId)
    (h : Tracked config isServer Inv past sc) (data : Bytes)
    (hturns : (sc.appendBuffer data).EachTurn P) :
    Tracked config isServer Inv past (sc.processCapsules data) := by
  have hbuffer : ∀ (sc : SessionScope) (w : WtSessionInfo) (buffer : Bytes), sc.entry = some w →
      Tracked config isServer Inv past sc →
      Tracked config isServer Inv past (sc.setEntry (w.withBuffer buffer)) := by
    intro sc w buffer hentry htracked
    exact htracked.silent hInv ((Silent.refl sc).mark hentry rfl)
  rw [processCapsules_eq_loop]
  refine loop_turns hbuffer ?_ ?_ hturns (appendBuffer_rule hbuffer data h)
  · intro sc w message hentry hlive _ htracked
    have hevent : sc.Silent (sc.pushEvent { type := .error, errorCode := kWtError,
                                            errorMessage := ascii message }) :=
      (Silent.refl sc).perform rfl
    exact (htracked.silent hInv hevent).closeSession hInv _ _
  · intro sc w type size payload rest hentry _ hhead hw htracked
    refine htracked.turn hInv hentry type size payload rest fun r hr => ?_
    rw [htracked.config_eq] at hhead
    exact hcreate w type payload rest r hw hhead hr

/-- What an operation of the session queues. -/
theorem emits (hInv : Tracks create config isServer Inv) (h : Tracked config isServer Inv past sc)
    (hentry : sc.entry = some w) {q : Queued}
    (hemits : WtSessionInfo.Emits (.creating create) config isServer w q) :
    Tracked config isServer Inv past (sc.store q) := by
  obtain ⟨ls, hpath, hsent, -, -⟩ := hemits
  refine h.labels hInv hentry hpath rfl rfl rfl ?_
  rw [capsules_map_capsule, hsent]

/-- A call of the application, where the stream it opens may be created. -/
theorem step (hInv : Tracks create config isServer Inv) (h : Tracked config isServer Inv past sc)
    (op : Op) (hop : ∀ c, op ≠ .receive c)
    (hopen : ∀ isUni w, op = .openStream isUni → sc.entry = some w → w.isEstablished = true →
      w.hasRoom isUni → w.streams.find? (w.nextStreamId isServer isUni) = none →
      create w (w.nextStreamId isServer isUni)) :
    Tracked config isServer Inv past (sc.step op) := by
  cases hentry : sc.entry with
  | none =>
      rw [(step_gone hentry op).1]
      exact h
  | some w =>
      have hstore : ∀ f : WtSessionInfo → Queued, sc.onEntry f = sc.store (f w) := by
        intro f
        unfold onEntry
        rw [hentry]
      have hwf := h.sound.2 w hentry
      cases op with
      | openStream isUni =>
          simp only [SessionScope.step, h.config_eq, h.sound.1]
          rw [hstore]
          refine h.emits hInv hentry ?_
          cases hestablished : w.isEstablished with
          | false =>
              have hself : (w.openStream config isServer isUni).1 = (w, []) := by
                unfold WtSessionInfo.openStream
                rw [if_pos (by rw [hestablished]; rfl)]
              rw [hself]
              exact .refl w
          | true =>
              refine WtSessionInfo.openStream_emits w isUni fun hnone hroom => ?_
              exact hopen isUni w rfl hentry hestablished hroom hnone
      | sendStreamData streamId data fin =>
          simp only [SessionScope.step]
          rw [hstore]
          obtain ⟨ls, hpath, hsent, -, -⟩ := WtSessionInfo.sendStreamData_path hwf streamId data fin
          refine h.labels hInv hentry hpath rfl rfl rfl ?_
          rw [capsules_map_capsule, hsent]
      | resetStream streamId errorCode =>
          simp only [SessionScope.step]
          split_ifs
          · exact h
          · rw [hstore]
            exact h.emits hInv hentry (WtSessionInfo.resetStream_emits w trivial _)
      | stopSending streamId errorCode =>
          simp only [SessionScope.step]
          split_ifs
          · exact h
          · rw [hstore]
            exact h.emits hInv hentry (WtSessionInfo.stopSending_emits w trivial _)
      | sendDatagram data =>
          simp only [SessionScope.step]
          rw [hstore]
          exact h.emits hInv hentry (WtSessionInfo.sendDatagram_emits w data)
      | drainSession =>
          simp only [SessionScope.step]
          rw [hstore]
          exact h.emits hInv hentry (WtSessionInfo.drainSession_emits w)
      | closeSession errorCode message => exact h.closeSession hInv _ _
      | receive c => exact absurd rfl (hop c)

/-- The initial limits. -/
theorem sendInitialLimits (hInv : Tracks create config isServer Inv)
    (h : Tracked config isServer Inv past sc) (hentry : sc.entry = some w)
    (hinitial : w.AtInitial config) :
    Tracked config isServer Inv past sc.sendInitialLimits := by
  have hinv := h.inv
  rw [hentry] at hinv
  have heffects : sc.sendInitialLimits.effects =
      sc.effects ++ config.initialLimits.map Effect.capsule := by
    rw [← h.config_eq]
    simp [SessionScope.sendInitialLimits, SessionScope.perform, H2SessionConfig.initialLimits]
  refine h.become (h.sound.2 w hentry) rfl hentry heffects ?_
  rw [capsules_map_capsule]
  exact hInv.initial hinv hinitial

/-- The client's 2xx. -/
theorem establish (hInv : Tracks create config isServer Inv)
    (h : Tracked config isServer Inv past sc) (headers : HeaderList)
    (hinitial : ∀ w, sc.entry = some w → w.AtInitial config) :
    Tracked config isServer Inv past (sc.call (.establish headers)) := by
  cases hentry : sc.entry with
  | none =>
      have hself : sc.call (.establish headers) = sc := by
        simp only [SessionScope.call, H2Session.establish, hentry]
      rw [hself]
      exact h
  | some w =>
      -- The limits of a WebTransport-Init, if there is one, come before the mark.
      have hready : ∀ w', Tracked config isServer Inv past (sc.setEntry w') → w'.AtInitial config →
          sc.call (.establish headers) =
            ((sc.setEntry { w' with isEstablished := true }).pushEvent
              { type := .sessionReady, headers := headers }).sendInitialLimits →
          Tracked config isServer Inv past (sc.call (.establish headers)) := by
        intro w' htracked hw' hcall
        rw [hcall]
        have hmarked : (sc.setEntry w').Silent (sc.setEntry { w' with isEstablished := true }) :=
          (Silent.refl (sc.setEntry w')).mark rfl rfl
        have hevent : (sc.setEntry w').Silent ((sc.setEntry { w' with isEstablished := true }).pushEvent
            { type := .sessionReady, headers := headers }) := hmarked.perform rfl
        exact (htracked.silent hInv hevent).sendInitialLimits hInv rfl hw'
      cases hinit : (H2Session.lastHeader headers (ascii "webtransport-init")).bind
          H2Session.parseWebtransportInit with
      | none =>
          refine hready w ?_ (hinitial w hentry) ?_
          · rw [setEntry_self hentry]
            exact h
          · simp only [SessionScope.call, H2Session.establish, hentry, hinit]
      | some limits =>
          have hinv := h.inv
          rw [hentry] at hinv
          refine hready (H2Session.applyInitLimits w limits) ?_ ?_ ?_
          · have hchange : WtSessionInfo.Change create (fun _ _ => True) config isServer w
                (.limits limits) (H2Session.applyInitLimits w limits) := .limits limits
            refine h.become (hchange.wf (h.sound.2 w hentry)) rfl rfl (List.append_nil _).symm ?_
            have hlimits := hInv.limits limits hinv
            rw [← List.append_nil (past ++ Effect.capsules sc.effects)] at hlimits
            exact hlimits
          · have hat := hinitial w hentry
            rcases limits with ⟨u, bl, br⟩
            cases u <;> cases bl <;> cases br <;> exact hat
          · simp only [SessionScope.call, H2Session.establish, hentry, hinit]

/-- The relation survives a session method but a request. -/
theorem call (hInv : Tracks create config isServer Inv) (h : Tracked config isServer Inv past sc)
    (c : Call) (hallowed : c.Allowed sc.isServer sc.config sc.entry)
    (hrequest : ∀ w events, c ≠ .request w events)
    (hcreate : ∀ data n sc' w type payload rest r, c.takes = some data →
      afterTurns n (sc.appendBuffer data) = some sc' → sc'.entry = some w →
      readHead config w.capsuleBuffer = .capsule type payload rest →
      readPayload type payload = .received r → ∀ streamId,
        r.Creates (w.withBuffer rest) streamId → create (w.withBuffer rest) streamId)
    (hopen : ∀ isUni w, c = .api (.openStream isUni) → sc.entry = some w → w.isEstablished = true →
      w.hasRoom isUni → w.streams.find? (w.nextStreamId isServer isUni) = none →
      create w (w.nextStreamId isServer isUni))
    (hinitial : c.sendsInitialLimits = true → ∀ w, sc.entry = some w → w.AtInitial config) :
    Tracked config isServer Inv past (sc.call c) := by
  have hprocess : ∀ data, c.takes = some data →
      Tracked config isServer Inv past (sc.processCapsules data) := by
    intro data htakes
    let P : WtSessionInfo → Prop := fun w => ∃ n sc',
      afterTurns n (sc.appendBuffer data) = some sc' ∧ sc'.entry = some w
    refine h.processCapsules (P := P) hInv ?_ data fun n sc' w hafter hentry =>
      ⟨n, sc', hafter, hentry⟩
    rintro w type payload rest r ⟨n, sc', hafter, hentry⟩ hhead hread
    exact hcreate data n sc' w type payload rest r htakes hafter hentry hhead hread
  cases c with
  | request w events => exact absurd rfl (hrequest w events)
  | establish headers => exact h.establish hInv headers (hinitial rfl)
  | sendInitialLimits =>
      obtain ⟨w, hentry, -, -⟩ := hallowed
      exact h.sendInitialLimits hInv hentry (hinitial rfl w hentry)
  | recvEstablished data =>
      have hloop := hprocess data rfl
      refine hloop.silent hInv ?_
      simp only [SessionScope.call, recvEstablished]
      cases (sc.processCapsules data).entry with
      | none => exact .refl _
      | some w =>
          dsimp only
          split_ifs
          · exact (Silent.refl _).perform rfl
          · exact .refl _
  | drain => exact hprocess [] rfl
  | api op =>
      refine h.step hInv op hallowed ?_
      intro isUni w hop hentry
      exact hopen isUni w (by rw [hop]) hentry
  | _ => exact h.silent hInv (silent_of_quiet sc rfl rfl)

end Tracked

end SessionScope

/-! ## Along a run -/

namespace H2Session

variable {create' : WtSessionInfo → Nat → Prop} {isServer : Bool} {config : H2SessionConfig}
  {Inv : Option WtSessionInfo → List Capsule → Prop} {s : H2Session} {sessionId : Int}
  {inputs : List Input}

/-- From any state of a run on, the relation survives what is queued, as long as no new session is
requested and the initial limits are queued before one is raised. -/
theorem tracked_of_run (hInv : Tracks create' config isServer Inv) (h : create isServer config = .ok s)
    {front back : List Call} (hcalls : front ++ back <+: s.runCalls sessionId inputs)
    (hcreate : ∀ w r streamId, s.Comes sessionId front back w r → r.Creates w streamId →
      create' w streamId)
    (hrequest : ∀ w events, .request w events ∉ back)
    (hopen : ∀ mid isUni w, mid ++ [Call.api (.openStream isUni)] <+: back →
      (s.viewAfter sessionId (front ++ mid)).entry = some w → w.isEstablished = true →
      w.hasRoom isUni → w.streams.find? (w.nextStreamId isServer isUni) = none →
      create' w (w.nextStreamId isServer isUni))
    (hlimits : ∀ mid c w, mid ++ [c] <+: back → c.sendsInitialLimits = true →
      (s.viewAfter sessionId (front ++ mid)).entry = some w → w.AtInitial s.config)
    (hinv : Inv (s.viewAfter sessionId front).entry []) :
    ∃ es, (s.viewAfter sessionId (front ++ back)).effects =
        (s.viewAfter sessionId front).effects ++ es ∧
      Inv (s.viewAfter sessionId (front ++ back)).entry (Effect.capsules es) := by
  obtain ⟨-, hrole, hconfig⟩ := create_view h sessionId
  -- By induction on the methods: the relation in front of the last one, and the last one.
  induction back using List.reverseRecOn with
  | nil =>
      refine ⟨[], ?_, ?_⟩
      · rw [List.append_nil, List.append_nil]
      · rw [List.append_nil]
        exact hinv
  | append_singleton back c ih =>
      rw [← List.append_assoc] at hcalls ⊢
      have hmore : back <+: back ++ [c] := List.prefix_append back [c]
      have hfront : front ++ back <+: s.runCalls sessionId inputs :=
        (List.prefix_append (front ++ back) [c]).trans hcalls
      obtain ⟨es, heffects, hheld⟩ := ih hfront
        (fun w r streamId hcomes => hcreate w r streamId (hcomes.mono hmore))
        (fun w events hmem => hrequest w events (List.mem_append_left [c] hmem))
        (fun mid isUni w hmid => hopen mid isUni w (hmid.trans hmore))
        (fun mid c' w hmid => hlimits mid c' w (hmid.trans hmore))
      have hallowed := called_next h hcalls
      rw [← hrole, ← hconfig] at hallowed
      have htracked : SessionScope.Tracked config isServer Inv (Effect.capsules es)
          (s.scopeAfter sessionId (front ++ back)) := by
        refine ⟨scope_sound h hfront, hconfig, ?_⟩
        have hnone : Effect.capsules es ++
            Effect.capsules (s.scopeAfter sessionId (front ++ back)).effects =
              Effect.capsules es := List.append_nil _
        rw [hnone]
        exact hheld
      have hcall := htracked.call hInv c hallowed
        (fun w events heq => hrequest w events (by rw [heq]; exact List.mem_append_right _ (by simp)))
        (fun data n sc w type payload rest r htakes hafter hscope hhead hread streamId hcreates =>
          hcreate (w.withBuffer rest) r streamId
            ⟨back, c, data, n, sc, w, type, payload, rest, List.prefix_rfl, htakes, hafter, hscope,
              hconfig.symm ▸ hhead, hread, rfl⟩ hcreates)
        (fun isUni w heq hscope => hopen back isUni w (by rw [heq]) hscope)
        (fun hsends w hscope => hconfig ▸ hlimits back c w List.prefix_rfl hsends hscope)
      obtain ⟨hentry', heffects'⟩ := viewAfter_append s sessionId (front ++ back) c
      refine ⟨es ++ ((s.scopeAfter sessionId (front ++ back)).call c).effects, ?_, ?_⟩
      · rw [heffects', heffects, List.append_assoc]
      · rw [hentry', Effect.capsules_append]
        exact hcall.inv

end H2Session

end H2
end WebTransport
