import WebTransport.H2.Invariants
import WebTransport.H2.SendSide

/-!
# H2.Life — what becomes of a session entry

Whatever session methods a run executes on an entry, the entry goes through changes of `Trans`, the
bookkeeping of the connection, the limits of a WebTransport-Init, and the creation of a stream that
is refused right away.  The capsules with stream data that the session queued are the ones of the
changes, and every capsule taken in is one the run comes to (`H2Session.Comes`).

* `Change`      : what a session entry can go through;
* `Life`        : the changes behind a list of effects;
* `Life.call`   : a session method continues the changes;
* `life_of_run` : from any state of a run on, as long as no new session is requested.
-/

namespace WebTransport
namespace H2

open Bindings

/-- A change with its label, or the limits of a WebTransport-Init. -/
inductive Moment
  | change (l : Label)
  | limits (l : H2Session.InitLimits)

namespace Moment

def labels (ms : List Moment) : List Label :=
  ms.filterMap fun
    | .change l => some l
    | .limits _ => none

def inits (ms : List Moment) : List H2Session.InitLimits :=
  ms.filterMap fun
    | .change _ => none
    | .limits l => some l

@[simp] theorem labels_append (ms ms' : List Moment) :
    labels (ms ++ ms') = labels ms ++ labels ms' := List.filterMap_append

@[simp] theorem inits_append (ms ms' : List Moment) : inits (ms ++ ms') = inits ms ++ inits ms' :=
  List.filterMap_append

@[simp] theorem labels_map_change (ls : List Label) : labels (ls.map .change) = ls := by
  unfold labels
  rw [List.filterMap_map]
  exact List.filterMap_some

@[simp] theorem inits_map_change (ls : List Label) : inits (ls.map .change) = [] := by
  unfold inits
  rw [List.filterMap_map, List.filterMap_eq_nil_iff]
  exact fun _ _ => rfl

end Moment

/-- Runs restricted only in the streams they create. -/
def Permits.creating (create : WtSessionInfo → Nat → Prop) : Permits where
  reset _ := True
  stop _ := True
  create := create
  lateFin _ := True

namespace Capsule

/-- A WT_STREAM or WT_STREAM_FIN -/
def isStream : Capsule → Bool
  | .wtStream _ _ _ => true
  | _ => false

end Capsule

namespace Effect

/-- The capsules with stream data that were queued. -/
def streams (es : List Effect) : List Capsule := (capsules es).filter Capsule.isStream

@[simp] theorem streams_append (es es' : List Effect) :
    streams (es ++ es') = streams es ++ streams es' := by
  unfold streams
  rw [capsules_append, List.filter_append]

end Effect

namespace WtSessionInfo

/-- What a session entry can go through, where it creates streams under `create` and takes capsules
in under `met`. -/
inductive Change (create : WtSessionInfo → Nat → Prop) (met : WtSessionInfo → Received → Prop)
    (config : H2SessionConfig) (isServer : Bool) : WtSessionInfo → Moment → WtSessionInfo → Prop
  | trans {w w' : WtSessionInfo} {l : Label}
      (h : Trans (.creating create) config isServer w l w')
      (hmet : ∀ r events, l = .received r events → met w r) :
      Change create met config isServer w (.change l) w'
  | keeps {w w' : WtSessionInfo} (hcore : w'.core = w.core) :
      Change create met config isServer w (.change .internal) w'
  -- Stream data that is refused has created its stream first.
  | refused {w : WtSessionInfo} {streamId : Nat} (hcreate : create w streamId)
      (hreceivable : isReceivableDataCapsule streamId isServer = true)
      (hnone : w.streams.find? streamId = none) :
      Change create met config isServer w (.change .internal)
        (w.setStream streamId (w.newPeerStream config isServer streamId))
  | limits {w : WtSessionInfo} (l : H2Session.InitLimits) :
      Change create met config isServer w (.limits l) (H2Session.applyInitLimits w l)

variable {create : WtSessionInfo → Nat → Prop} {met : WtSessionInfo → Received → Prop}
  {config : H2SessionConfig} {isServer : Bool}
  {w w₁ w₂ : WtSessionInfo} {es es' : List Effect} {inits inits' : List H2Session.InitLimits}
  {entry entry' : Option WtSessionInfo}

/-- Marks and buffer do not matter to a well-formed entry. -/
theorem wf_of_core (hwf : Wf isServer w) (hcore : w₁.core = w.core) : Wf isServer w₁ := by
  refine wf_of_streams hwf (congrArg WtSessionInfo.streams hcore :) ?_
  have hsent : w₁.bytesSent = w.bytesSent := (congrArg WtSessionInfo.bytesSent hcore :)
  have hlimit : w₁.maxDataLocal = w.maxDataLocal := (congrArg WtSessionInfo.maxDataLocal hcore :)
  rw [hsent, hlimit]
  exact hwf.sent_le

/-- A change keeps the entry well formed. -/
theorem Change.wf {m : Moment} (h : Change create met config isServer w m w₁)
    (hwf : Wf isServer w) : Wf isServer w₁ := by
  cases h with
  | trans h => exact h.wf hwf
  | keeps hcore => exact wf_of_core hwf hcore
  | refused hcreate hreceivable hnone => exact hwf.setStream (wfStream_newPeerStream w config _)
  | limits l =>
      rcases l with ⟨u, bl, br⟩
      refine wf_of_streams hwf ?_ ?_
      · cases u <;> cases bl <;> cases br <;> rfl
      · cases u <;> cases bl <;> cases br <;> exact hwf.sent_le

/-- Changes that take nothing in. -/
theorem path_quiet {ls : List Label} (h : Path (Trans (.creating create) config isServer) w ls w₁)
    (hreceived : Label.receivedOf ls = []) :
    Path (Change create met config isServer) w (ls.map .change) w₁ := by
  induction ls generalizing w with
  | nil => exact h
  | cons l ls ih =>
      rcases h with ⟨mid, hone, hrest⟩
      cases l with
      | received r events => cases hreceived
      | _ => exact ⟨mid, .trans hone (by simp), ih hrest hreceived⟩

/-- Changes of which only the first one may take something in. -/
theorem path_change {ls : List Label} (h : Path (Trans (.creating create) config isServer) w ls w₁)
    (hmet : ∀ r ∈ Label.receivedOf ls, met w r) (htail : Label.receivedOf ls.tail = []) :
    Path (Change create met config isServer) w (ls.map .change) w₁ := by
  cases ls with
  | nil => exact h
  | cons l ls =>
      rcases h with ⟨mid, hone, hrest⟩
      refine ⟨mid, .trans hone ?_, path_quiet hrest htail⟩
      rintro r events rfl
      exact hmet r (List.mem_cons_self ..)

/-- The changes behind the effects `es` and the limits `inits` that lead from `w` to the entry; when
it is gone, to the last one there was. -/
def Life (create : WtSessionInfo → Nat → Prop) (met : WtSessionInfo → Received → Prop)
    (config : H2SessionConfig) (isServer : Bool) (w : WtSessionInfo) (es : List Effect)
    (inits : List H2Session.InitLimits) (entry : Option WtSessionInfo) : Prop :=
  ∃ ms w', Path (Change create met config isServer) w ms w' ∧ (∀ w'', entry = some w'' → w'' = w') ∧
    Effect.streams es = (Label.sentOf (Moment.labels ms)).filter Capsule.isStream ∧
    ∀ l ∈ Moment.inits ms, l ∈ inits

namespace Life

theorem start (w : WtSessionInfo) : Life create met config isServer w [] [] (some w) := by
  refine ⟨[], w, rfl, ?_, rfl, ?_⟩
  · intro w'' hw''
    cases hw''
    rfl
  · exact fun l hl => absurd hl List.not_mem_nil

/-- Further changes of the entry. -/
theorem goOn (h : Life create met config isServer w es inits (some w₁)) {ms : List Moment}
    (hpath : Path (Change create met config isServer) w₁ ms w₂)
    (hentry : ∀ w'', entry' = some w'' → w'' = w₂)
    (hstreams : Effect.streams es' = (Label.sentOf (Moment.labels ms)).filter Capsule.isStream)
    (hinits : ∀ l ∈ Moment.inits ms, l ∈ inits') :
    Life create met config isServer w (es ++ es') (inits ++ inits') entry' := by
  rcases h with ⟨past, w', hpast, hlast, hsent, hlimits⟩
  cases hlast w₁ rfl
  refine ⟨past ++ ms, w₂, hpast.join hpath, hentry, ?_, ?_⟩
  · rw [Effect.streams_append, hsent, hstreams, Moment.labels_append, Label.sentOf_append,
      List.filter_append]
  · intro l hl
    rw [Moment.inits_append] at hl
    rcases List.mem_append.1 hl with hl | hl
    · exact List.mem_append_left _ (hlimits l hl)
    · exact List.mem_append_right _ (hinits l hl)

/-- Effects without stream data behind which the entry is gone, or has changed in its bookkeeping
only. -/
theorem quietly (h : Life create met config isServer w es inits entry)
    (hstreams : Effect.streams es' = [])
    (hentry : ∀ w'', entry' = some w'' → ∃ w₁, entry = some w₁ ∧ w''.core = w₁.core) :
    Life create met config isServer w (es ++ es') (inits ++ inits') entry' := by
  cases hnext : entry' with
  | none =>
      rcases h with ⟨past, w', hpast, -, hsent, hlimits⟩
      refine ⟨past, w', hpast, fun w'' hw'' => absurd hw''.symm (Option.some_ne_none w''), ?_, ?_⟩
      · rw [Effect.streams_append, hstreams, hsent, List.append_nil]
      · exact fun l hl => List.mem_append_left _ (hlimits l hl)
  | some w₂ =>
      rcases hentry w₂ hnext with ⟨w₁, rfl, hcore⟩
      refine h.goOn (Path.one (.keeps hcore)) ?_ hstreams ?_
      · intro w'' hw''
        cases hw''
        rfl
      · exact fun l hl => absurd hl List.not_mem_nil

theorem mono {met' : WtSessionInfo → Received → Prop}
    (h : Life create met config isServer w es inits entry) (hmet : ∀ w r, met w r → met' w r) :
    Life create met' config isServer w es inits entry := by
  rcases h with ⟨ms, w', hpath, hrest⟩
  refine ⟨ms, w', hpath.imp ?_, hrest⟩
  intro a b m hab
  cases hab with
  | trans h hm => exact .trans h fun r events hl => hmet _ _ (hm r events hl)
  | keeps hcore => exact .keeps hcore
  | refused hcreate hreceivable hnone => exact .refused hcreate hreceivable hnone
  | limits l => exact .limits l

end Life

end WtSessionInfo

namespace SessionScope

open WtSessionInfo (Wf Life Change)

/-! ## Methods beside the changes -/

/-- Effects without stream data, behind which the entry is gone or has changed in its bookkeeping
only. -/
def Beside (sc sc' : SessionScope) : Prop :=
  sc'.identity = sc.identity ∧ ∃ es, sc'.effects = sc.effects ++ es ∧ Effect.streams es = [] ∧
    ∀ w', sc'.entry = some w' → ∃ w, sc.entry = some w ∧ w'.core = w.core

namespace Beside

variable {sc sc' sc'' : SessionScope} {w : WtSessionInfo}

theorem refl (sc : SessionScope) : Beside sc sc :=
  ⟨rfl, [], (List.append_nil _).symm, rfl, fun w hw => ⟨w, hw, rfl⟩⟩

theorem trans (h : Beside sc sc') (h' : Beside sc' sc'') : Beside sc sc'' := by
  rcases h with ⟨hidentity, es, heffects, hstreams, hentry⟩
  rcases h' with ⟨hidentity', es', heffects', hstreams', hentry'⟩
  refine ⟨hidentity'.trans hidentity, es ++ es', ?_, ?_, ?_⟩
  · rw [heffects', heffects, List.append_assoc]
  · rw [Effect.streams_append, hstreams, hstreams']
    rfl
  · intro w'' hw''
    rcases hentry' w'' hw'' with ⟨w', hw', hcore'⟩
    rcases hentry w' hw' with ⟨w, hw, hcore⟩
    exact ⟨w, hw, hcore'.trans hcore⟩

theorem perform {e : Effect} (h : Beside sc sc') (he : Effect.streams [e] = []) :
    Beside sc (sc'.perform e) :=
  h.trans ⟨rfl, [e], rfl, he, fun w hw => ⟨w, hw, rfl⟩⟩

/-- The entry is erased. -/
theorem gone (h : Beside sc sc') : Beside sc { sc' with entry := none } := by
  refine h.trans ⟨rfl, [], (List.append_nil _).symm, rfl, ?_⟩
  intro w hw
  cases hw

/-- Marks and buffer are rewritten. -/
theorem mark (h : Beside sc sc') (hentry : sc'.entry = some w) {w' : WtSessionInfo}
    (hcore : w'.core = w.core) : Beside sc (sc'.setEntry w') := by
  refine h.trans ⟨rfl, [], (List.append_nil _).symm, rfl, ?_⟩
  intro w'' hw''
  cases hw''
  exact ⟨w, hentry, hcore⟩

/-- Marks and buffer of the entry, if there is one, are rewritten. -/
theorem map {f : WtSessionInfo → WtSessionInfo} (hf : ∀ w, (f w).core = w.core) (sc : SessionScope) :
    Beside sc { sc with entry := sc.entry.map f } := by
  refine ⟨rfl, [], (List.append_nil _).symm, rfl, ?_⟩
  intro w' hw'
  rcases Option.map_eq_some_iff.1 hw' with ⟨w, hw, rfl⟩
  exact ⟨w, hw, hf w⟩

theorem resetStreamForMalformedCapsule (sc : SessionScope) :
    Beside sc sc.resetStreamForMalformedCapsule := by
  have hmarked : Beside sc { sc with entry := sc.entry.map WtSessionInfo.ended } :=
    @map WtSessionInfo.ended (fun _ => rfl) sc
  exact hmarked.perform rfl

theorem eraseSession (h : Beside sc sc') : Beside sc sc'.eraseSession := by
  refine h.trans ⟨rfl, _, rfl, rfl, ?_⟩
  intro w hw
  cases hw

/-- The capsule that closes the session carries no stream data. -/
theorem closeSession (h : Beside sc sc') (errorCode : Nat) (message : Bytes) :
    Beside sc (sc'.closeSession errorCode message) := by
  unfold SessionScope.closeSession
  cases hentry : sc'.entry with
  | none => exact h
  | some w =>
      dsimp only
      split_ifs
      · exact h
      · refine h.trans ⟨rfl, _, rfl, rfl, ?_⟩
        intro w' hw'
        cases hw'
        exact ⟨w, hentry, rfl⟩

theorem events (h : Beside sc sc') (es : List H2Event) :
    Beside sc { sc' with effects := sc'.effects ++ es.map sc'.eventEffect } := by
  refine h.trans ⟨rfl, _, rfl, ?_, fun w hw => ⟨w, hw, rfl⟩⟩
  unfold Effect.streams
  rw [capsules_events]
  rfl

end Beside

end SessionScope

namespace Call

/-- The method neither sends stream data nor takes any in. -/
def isQuiet : Call → Bool
  | .request _ _ => false
  | .establish _ => false
  | .recvEstablished _ => false
  | .drain => false
  | .api _ => false
  | _ => true

/-- The bytes that the method gives to `process_capsules`. -/
def takes : Call → Option Bytes
  | .recvEstablished data => some data
  | .drain => some []
  | _ => none

/-- The WebTransport-Init that the method reads. -/
def inits : Call → List H2Session.InitLimits
  | .establish headers =>
      ((H2Session.lastHeader headers (ascii "webtransport-init")).bind
        H2Session.parseWebtransportInit).toList
  | _ => []

end Call

namespace SessionScope

open WtSessionInfo (Wf Life Change)

theorem beside_of_quiet (sc : SessionScope) {c : Call} (hquiet : c.isQuiet = true) :
    sc.Beside (sc.call c) := by
  cases c with
  | request w events => cases hquiet
  | establish headers => cases hquiet
  | recvEstablished data => cases hquiet
  | drain => cases hquiet
  | api op => cases hquiet
  | beRejected status =>
      simp only [call, H2Session.beRejected]
      cases hentry : sc.entry with
      | none => exact .refl sc
      | some w =>
          let e : H2Event :=
            { type := .sessionRejected, statusCode := H2Session.rejectedStatus status }
          have hevent : sc.Beside (sc.pushEvent e) := (Beside.refl sc).perform rfl
          exact hevent.gone.perform rfl
  | reject status rv =>
      have hreported : ∀ sc' : SessionScope, sc.Beside sc' →
          sc.Beside (H2Session.reject status none sc') := by
        intro sc' hbeside
        simp only [H2Session.reject]
        split_ifs
        · exact hbeside.gone.perform rfl
        · cases hentry : sc'.entry with
          | none => exact hbeside
          | some w =>
              have hmarked : sc.Beside (sc'.setEntry { w with isTerminated := true,
                                                              preAcceptEndStream := false,
                                                              capsuleBuffer := [] }) :=
                hbeside.mark hentry rfl
              exact hmarked.perform rfl
      cases rv with
      | none => exact hreported sc (.refl sc)
      | some err => exact hreported _ ((Beside.refl sc).perform rfl)
  | bufferPreAccept data =>
      exact @Beside.map (fun w => { w with capsuleBuffer := w.capsuleBuffer ++ data })
        (fun _ => rfl) sc
  | handleEndStream =>
      simp only [call, handleEndStream]
      cases hentry : sc.entry with
      | none => exact .refl sc
      | some w =>
          dsimp only
          split_ifs
          · exact (Beside.refl sc).mark hentry rfl
          · exact .refl sc
          · exact .resetStreamForMalformedCapsule sc
          · exact ((Beside.refl sc).perform rfl).eraseSession
  | terminatePreAcceptEndStreamSession =>
      simp only [call, terminatePreAcceptEndStreamSession]
      cases hentry : sc.entry with
      | none => exact .refl sc
      | some w =>
          dsimp only
          split_ifs
          · exact .resetStreamForMalformedCapsule sc
          · exact ((Beside.refl sc).perform rfl).eraseSession
  | markEstablished => exact @Beside.map (fun w => { w with isEstablished := true }) (fun _ => rfl) sc
  | clearBuffer => exact @Beside.map (fun w => { w with capsuleBuffer := [] }) (fun _ => rfl) sc
  | sendInitialLimits =>
      exact (((Beside.refl sc).perform rfl).perform rfl).perform rfl
  | streamClose errorCode =>
      simp only [call, closeStream]
      cases hentry : sc.entry with
      | none => exact ((Beside.refl sc).perform rfl).perform rfl
      | some w =>
          let e : H2Event := { type := .sessionClosed, errorCode := errorCode.getD 0 }
          have hevent : sc.Beside (sc.pushEvent e) := (Beside.refl sc).perform rfl
          exact (hevent.gone.perform rfl).perform rfl

/-! ## The changes behind a scope -/

/-- A scope of the connection with the changes behind its entry; `past` is what was queued before
its own effects. -/
structure Lived (create : WtSessionInfo → Nat → Prop) (met : WtSessionInfo → Received → Prop)
    (config : H2SessionConfig) (isServer : Bool) (w : WtSessionInfo) (past : List Effect)
    (inits : List H2Session.InitLimits) (sc : SessionScope) : Prop where
  sound : Sound isServer sc
  config_eq : sc.config = config
  life : Life create met config isServer w (past ++ sc.effects) inits sc.entry

namespace Lived

variable {create : WtSessionInfo → Nat → Prop} {met : WtSessionInfo → Received → Prop}
  {config : H2SessionConfig} {isServer : Bool} {w w₁ w₂ : WtSessionInfo} {past es : List Effect}
  {inits inits' : List H2Session.InitLimits} {sc sc' : SessionScope} {ms : List Moment}

theorem beside (h : Lived create met config isServer w past inits sc) (hbeside : sc.Beside sc') :
    Lived create met config isServer w past inits sc' := by
  rcases hbeside with ⟨hidentity, es, heffects, hstreams, hentry⟩
  refine ⟨⟨(congrArg Prod.fst hidentity).trans h.sound.1, ?_⟩,
    (congrArg (fun i => i.2.1) hidentity).trans h.config_eq, ?_⟩
  · intro w'' hw''
    rcases hentry w'' hw'' with ⟨w₁, hw₁, hcore⟩
    exact WtSessionInfo.wf_of_core (h.sound.2 w₁ hw₁) hcore
  · have hlife : Life create met config isServer w (past ++ sc.effects ++ es) (inits ++ [])
        sc'.entry := h.life.quietly hstreams hentry
    rwa [List.append_nil, List.append_assoc, ← heffects] at hlife

/-- Further changes of the entry. -/
theorem goOn (h : Lived create met config isServer w past inits sc) (hentry : sc.entry = some w₁)
    (hpath : Path (Change create met config isServer) w₁ ms w₂)
    (hidentity : sc'.identity = sc.identity) (heffects : sc'.effects = sc.effects ++ es)
    (hentry' : sc'.entry = some w₂)
    (hstreams : Effect.streams es = (Label.sentOf (Moment.labels ms)).filter Capsule.isStream)
    (hinits : ∀ l ∈ Moment.inits ms, l ∈ inits') :
    Lived create met config isServer w past (inits ++ inits') sc' := by
  have hwf : Wf isServer w₂ :=
    hpath.invariant (Wf isServer) (fun hwf hchange => hchange.wf hwf) (h.sound.2 w₁ hentry)
  have hlast : ∀ w'', sc'.entry = some w'' → w'' = w₂ := by
    intro w'' hw''
    exact Option.some_injective _ (hw''.symm.trans hentry')
  refine ⟨⟨(congrArg Prod.fst hidentity).trans h.sound.1, ?_⟩,
    (congrArg (fun i => i.2.1) hidentity).trans h.config_eq, ?_⟩
  · intro w'' hw''
    rw [hlast w'' hw'']
    exact hwf
  · have hlife := h.life
    rw [hentry] at hlife
    have hgoes : Life create met config isServer w (past ++ sc.effects ++ es) (inits ++ inits')
        sc'.entry := hlife.goOn hpath hlast hstreams hinits
    rwa [List.append_assoc, ← heffects] at hgoes

/-- Changes of which only the first one may take something in. -/
theorem labels {ls : List Label} (h : Lived create met config isServer w past inits sc)
    (hentry : sc.entry = some w₁)
    (hpath : Path (WtSessionInfo.Trans (.creating create) config isServer) w₁ ls w₂)
    (hmet : ∀ r ∈ Label.receivedOf ls, met w₁ r) (htail : Label.receivedOf ls.tail = [])
    (hidentity : sc'.identity = sc.identity) (heffects : sc'.effects = sc.effects ++ es)
    (hentry' : sc'.entry = some w₂) (hsent : Effect.capsules es = Label.sentOf ls) :
    Lived create met config isServer w past inits sc' := by
  have hgoes : Lived create met config isServer w past (inits ++ []) sc' := by
    refine h.goOn hentry (WtSessionInfo.path_change hpath hmet htail) hidentity heffects hentry' ?_ ?_
    · rw [Moment.labels_map_change, ← hsent]
      rfl
    · rw [Moment.inits_map_change]
      exact fun l hl => hl
  rwa [List.append_nil] at hgoes

section Methods

variable (hcreate : ∀ w r streamId, met w r → r.Creates w streamId → create w streamId)
include hcreate

/-- Stream data of the peer creates no recorded id. -/
theorem admits {w : WtSessionInfo} {r : Received} (hmet : met w r) :
    (Permits.creating create).Admits isServer w r :=
  ⟨fun _ _ _ _ => trivial,
    fun streamId hstream hnone hnew => hcreate w r streamId hmet ⟨hstream, hnone, hnew⟩,
    fun _ _ _ _ _ => trivial⟩

/-- A verdict on what was read. -/
theorem carryOut (h : Lived create met config isServer w past inits sc) (hentry : sc.entry = some w₁)
    (r : Received) (hmet : met w₁ r) : Lived create met config isServer w past inits
      (sc.carryOut (w₁.judge config isServer r)) := by
  have hends : (w₁.judge config isServer r).Ends fun w' => w' = w₁ ∨ ∃ streamId,
      isReceivableDataCapsule streamId isServer = true ∧ r.Creates w₁ streamId ∧
        w' = w₁.setStream streamId (w₁.newPeerStream config isServer streamId) :=
    WtSessionInfo.judge_ends (Or.inl rfl) r fun streamId hstream hreceivable hnone hnew =>
      Or.inr ⟨streamId, hreceivable, ⟨hstream, hnone, hnew⟩, rfl⟩
  cases hjudge : w₁.judge config isServer r with
  | refuse w' event errorCode message =>
      rw [hjudge] at hends
      have hleft : Lived create met config isServer w past inits { sc with entry := some w' } := by
        rcases hends.1 with rfl | ⟨streamId, hreceivable, hcreates, rfl⟩
        · rw [← hentry]
          exact h
        · have hgoes : Lived create met config isServer w past (inits ++ [])
              { sc with entry := some (w₁.setStream streamId
                                  (w₁.newPeerStream config isServer streamId)) } := by
            have hpath : Path (Change create met config isServer) w₁ [.change .internal]
                (w₁.setStream streamId (w₁.newPeerStream config isServer streamId)) :=
              Path.one (.refused (hcreate w₁ r streamId hmet hcreates) hreceivable hcreates.2.1)
            exact h.goOn hentry hpath rfl (List.append_nil _).symm rfl rfl fun l hl => hl
          rwa [List.append_nil] at hgoes
      exact hleft.beside (((Beside.refl _).events event.toList).closeSession _ _)
  | accept before q after =>
      have hanswers := WtSessionInfo.judge_answers (h.sound.2 w₁ hentry)
        (admits hcreate hmet) hjudge
      rcases hanswers with ⟨ls, hpath, hsent, hreceived, -⟩
      refine h.labels hentry hpath ?_ hreceived rfl rfl rfl ?_
      · intro r' hr'
        have hall : Label.receivedOf (.received r (before ++ after) :: ls) =
            r :: Label.receivedOf ls := rfl
        rw [hall, hreceived] at hr'
        rw [List.mem_singleton.1 hr']
        exact hmet
      · rw [Effect.capsules_append, Effect.capsules_append, capsules_events, capsules_events,
          capsules_map_capsule, List.append_nil, List.nil_append]
        exact hsent.symm
  | close event => exact h.beside ((Beside.refl sc).perform rfl).eraseSession

/-- A dispatched capsule. -/
theorem turn (h : Lived create met config isServer w past inits sc) (hentry : sc.entry = some w₁)
    (type size : Nat) (payload rest : Bytes)
    (hmet : ∀ r, readPayload type payload = .received r → met (w₁.withBuffer rest) r) :
    Lived create met config isServer w past inits
      ((((sc.setEntry (w₁.withBuffer rest)).perform (.dispatch type payload)).perform
        (.consumeRecvBytes size)).react (w₁.withBuffer rest) (readPayload type payload)) := by
  let sc₁ := ((sc.setEntry (w₁.withBuffer rest)).perform (.dispatch type payload)).perform
    (.consumeRecvBytes size)
  have hmarked : sc.Beside (sc.setEntry (w₁.withBuffer rest)) := (Beside.refl sc).mark hentry rfl
  have hready : Lived create met config isServer w past inits sc₁ :=
    h.beside ((hmarked.perform rfl).perform rfl)
  cases hreading : readPayload type payload with
  | malformed => exact hready.beside (.resetStreamForMalformedCapsule sc₁)
  | wtError message =>
      have hevent : sc₁.Beside (sc₁.pushEvent { type := .error, errorCode := kWtError,
                                                errorMessage := ascii message }) :=
        (Beside.refl sc₁).perform rfl
      exact hready.beside (hevent.closeSession _ _)
  | received r =>
      have hreact : sc₁.react (w₁.withBuffer rest) (.received r) =
          sc₁.carryOut ((w₁.withBuffer rest).judge sc₁.config sc₁.isServer r) :=
        receive_eq rfl r
      have hrole : sc₁.isServer = isServer := hready.sound.1
      have hconfig : sc₁.config = config := hready.config_eq
      rw [hrole, hconfig] at hreact
      rw [hreact]
      exact hready.carryOut hcreate rfl r (hmet r hreading)

theorem processCapsules {P : WtSessionInfo → Prop}
    (hmet : ∀ w₁ type payload rest r, P w₁ →
      readHead config w₁.capsuleBuffer = .capsule type payload rest →
      readPayload type payload = .received r → met (w₁.withBuffer rest) r)
    (h : Lived create met config isServer w past inits sc) (data : Bytes)
    (hturns : (sc.appendBuffer data).EachTurn P) :
    Lived create met config isServer w past inits (sc.processCapsules data) := by
  have hbuffer : ∀ (sc : SessionScope) (w₁ : WtSessionInfo) (buffer : Bytes),
      sc.entry = some w₁ → Lived create met config isServer w past inits sc →
      Lived create met config isServer w past inits (sc.setEntry (w₁.withBuffer buffer)) := by
    intro sc w₁ buffer hentry hlived
    exact hlived.beside ((Beside.refl sc).mark hentry rfl)
  rw [processCapsules_eq_loop]
  refine loop_turns hbuffer ?_ ?_ hturns (appendBuffer_rule hbuffer data h)
  · intro sc w₁ message hentry hlive _ hlived
    have hevent : sc.Beside (sc.pushEvent { type := .error, errorCode := kWtError,
                                            errorMessage := ascii message }) :=
      (Beside.refl sc).perform rfl
    exact hlived.beside (hevent.closeSession _ _)
  · intro sc w₁ type size payload rest hentry _ hhead hw₁ hlived
    refine hlived.turn hcreate hentry type size payload rest fun r hr => ?_
    rw [hlived.config_eq] at hhead
    exact hmet w₁ type payload rest r hw₁ hhead hr

end Methods

/-- Changes that take nothing in, and the capsules they send. -/
theorem sends {q : Queued} {ls : List Label} (h : Lived create met config isServer w past inits sc)
    (hentry : sc.entry = some w₁)
    (hpath : Path (WtSessionInfo.Trans (.creating create) config isServer) w₁ ls q.1)
    (hsent : Label.sentOf ls = q.2) (hreceived : Label.receivedOf ls = []) :
    Lived create met config isServer w past inits (sc.store q) := by
  have htail : Label.receivedOf ls.tail = [] := by
    refine List.eq_nil_iff_forall_not_mem.2 fun r hr => ?_
    have hmem : r ∈ Label.receivedOf ls :=
      (List.Sublist.filterMap _ (List.tail_sublist ls)).subset hr
    rw [hreceived] at hmem
    cases hmem
  refine h.labels hentry hpath ?_ htail rfl rfl rfl ?_
  · intro r hr
    rw [hreceived] at hr
    cases hr
  · rw [capsules_map_capsule, hsent]

/-- What an operation of the session queues. -/
theorem emits {q : Queued} (h : Lived create met config isServer w past inits sc)
    (hentry : sc.entry = some w₁)
    (hemits : WtSessionInfo.Emits (.creating create) config isServer w₁ q) :
    Lived create met config isServer w past inits (sc.store q) := by
  rcases hemits with ⟨ls, hpath, hsent, hreceived, -⟩
  exact h.sends hentry hpath hsent hreceived

/-- A call of the application, where the stream it opens may be created. -/
theorem step (h : Lived create met config isServer w past inits sc) (op : Op)
    (hop : ∀ c, op ≠ .receive c)
    (hopen : ∀ isUni w₁, op = .openStream isUni → sc.entry = some w₁ → w₁.isEstablished = true →
      w₁.hasRoom isUni → w₁.streams.find? (w₁.nextStreamId isServer isUni) = none →
      create w₁ (w₁.nextStreamId isServer isUni)) :
    Lived create met config isServer w past inits (sc.step op) := by
  cases hentry : sc.entry with
  | none =>
      rw [(step_gone hentry op).1]
      exact h
  | some w₁ =>
      have hstore : ∀ f : WtSessionInfo → Queued, sc.onEntry f = sc.store (f w₁) := by
        intro f
        unfold onEntry
        rw [hentry]
      have hwf := h.sound.2 w₁ hentry
      cases op with
      | openStream isUni =>
          simp only [SessionScope.step, h.config_eq, h.sound.1]
          rw [hstore]
          refine h.emits hentry ?_
          cases hestablished : w₁.isEstablished with
          | false =>
              have hself : (w₁.openStream config isServer isUni).1 = (w₁, []) := by
                unfold WtSessionInfo.openStream
                rw [if_pos (by rw [hestablished]; rfl)]
              rw [hself]
              exact .refl w₁
          | true =>
              refine WtSessionInfo.openStream_emits w₁ isUni fun hnone hroom => ?_
              exact hopen isUni w₁ rfl hentry hestablished hroom hnone
      | sendStreamData streamId data fin =>
          simp only [SessionScope.step]
          rw [hstore]
          rcases WtSessionInfo.sendStreamData_path hwf streamId data fin with
            ⟨ls, hpath, hsent, hreceived, -⟩
          exact h.sends hentry hpath hsent hreceived
      | resetStream streamId errorCode =>
          simp only [SessionScope.step]
          split_ifs
          · exact h
          · rw [hstore]
            exact h.emits hentry (WtSessionInfo.resetStream_emits w₁ trivial _)
      | stopSending streamId errorCode =>
          simp only [SessionScope.step]
          split_ifs
          · exact h
          · rw [hstore]
            exact h.emits hentry (WtSessionInfo.stopSending_emits w₁ trivial _)
      | sendDatagram data =>
          simp only [SessionScope.step]
          rw [hstore]
          exact h.emits hentry (WtSessionInfo.sendDatagram_emits w₁ data)
      | drainSession =>
          simp only [SessionScope.step]
          rw [hstore]
          exact h.emits hentry (WtSessionInfo.drainSession_emits w₁)
      | closeSession errorCode message =>
          exact h.beside ((Beside.refl sc).closeSession _ _)
      | receive c => exact absurd rfl (hop c)

end Lived

namespace Lived

variable {create : WtSessionInfo → Nat → Prop} {met : WtSessionInfo → Received → Prop}
  {config : H2SessionConfig} {isServer : Bool} {w w₁ : WtSessionInfo} {past : List Effect}
  {inits inits' : List H2Session.InitLimits} {sc sc' : SessionScope}

theorem more (h : Lived create met config isServer w past inits sc)
    (inits' : List H2Session.InitLimits) :
    Lived create met config isServer w past (inits ++ inits') sc := by
  rcases h.life with ⟨ms, w', hpath, hentry, hstreams, hinits⟩
  exact ⟨h.sound, h.config_eq, ms, w', hpath, hentry, hstreams,
    fun l hl => List.mem_append_left _ (hinits l hl)⟩

/-- The client's 2xx. -/
theorem establish (h : Lived create met config isServer w past inits sc) (headers : HeaderList) :
    Lived create met config isServer w past (inits ++ (Call.establish headers).inits)
      (sc.call (.establish headers)) := by
  cases hentry : sc.entry with
  | none =>
      have hself : sc.call (.establish headers) = sc := by
        simp only [SessionScope.call, H2Session.establish, hentry]
      rw [hself]
      exact h.more _
  | some w₁ =>
      -- The limits, if there are any, come before the mark.
      have hready : ∀ w₂, Lived create met config isServer w past
            (inits ++ (Call.establish headers).inits) (sc.setEntry w₂) →
          sc.call (.establish headers) =
            ((sc.setEntry { w₂ with isEstablished := true }).pushEvent
              { type := .sessionReady, headers := headers }).sendInitialLimits →
          Lived create met config isServer w past (inits ++ (Call.establish headers).inits)
            (sc.call (.establish headers)) := by
        intro w₂ hlived hcall
        refine hlived.beside ?_
        · rw [hcall]
          let w₃ : WtSessionInfo := { w₂ with isEstablished := true }
          have hmarked : (sc.setEntry w₂).Beside (sc.setEntry w₃) :=
            (Beside.refl (sc.setEntry w₂)).mark rfl rfl
          have hevent : (sc.setEntry w₂).Beside ((sc.setEntry w₃).pushEvent
              { type := .sessionReady, headers := headers }) := hmarked.perform rfl
          exact ((hevent.perform rfl).perform rfl).perform rfl
      cases hinit : (H2Session.lastHeader headers (ascii "webtransport-init")).bind
          H2Session.parseWebtransportInit with
      | none =>
          refine hready w₁ ?_ ?_
          · have hself : sc.setEntry w₁ = sc := setEntry_self hentry
            rw [hself]
            exact h.more _
          · simp only [SessionScope.call, H2Session.establish, hentry, hinit]
      | some limits =>
          refine hready (H2Session.applyInitLimits w₁ limits) ?_ ?_
          · have hpath : Path (Change create met config isServer) w₁ [.limits limits]
                (H2Session.applyInitLimits w₁ limits) := Path.one (.limits limits)
            refine h.goOn hentry hpath rfl (List.append_nil _).symm rfl rfl ?_
            intro l hl
            have hl' : l = limits := List.mem_singleton.1 hl
            rw [hl']
            simp only [Call.inits, hinit, Option.toList_some, List.mem_singleton]
          · simp only [SessionScope.call, H2Session.establish, hentry, hinit]

/-- A session method but a request continues the changes. -/
theorem call
    (hcreate : ∀ w r streamId, met w r → r.Creates w streamId → create w streamId)
    (h : Lived create met config isServer w past inits sc) (c : Call)
    (hallowed : c.Allowed sc.isServer sc.config sc.entry)
    (hrequest : ∀ w₁ events, c ≠ .request w₁ events)
    (hmet : ∀ data n sc' w₁ type payload rest r, c.takes = some data →
      afterTurns n (sc.appendBuffer data) = some sc' → sc'.entry = some w₁ →
      readHead config w₁.capsuleBuffer = .capsule type payload rest →
      readPayload type payload = .received r → met (w₁.withBuffer rest) r)
    (hopen : ∀ isUni w₁, c = .api (.openStream isUni) → sc.entry = some w₁ →
      w₁.isEstablished = true → w₁.hasRoom isUni →
      w₁.streams.find? (w₁.nextStreamId isServer isUni) = none →
      create w₁ (w₁.nextStreamId isServer isUni)) :
    Lived create met config isServer w past (inits ++ c.inits) (sc.call c) := by
  have hprocess : ∀ data, c.takes = some data →
      Lived create met config isServer w past inits (sc.processCapsules data) := by
    intro data htakes
    let P : WtSessionInfo → Prop := fun w₁ => ∃ n sc',
      afterTurns n (sc.appendBuffer data) = some sc' ∧ sc'.entry = some w₁
    refine h.processCapsules hcreate (P := P) ?_ data fun n sc' w₁ hafter hentry =>
      ⟨n, sc', hafter, hentry⟩
    rintro w₁ type payload rest r ⟨n, sc', hafter, hentry⟩ hhead hread
    exact hmet data n sc' w₁ type payload rest r htakes hafter hentry hhead hread
  cases hquiet : c.isQuiet with
  | true => exact (h.beside (beside_of_quiet sc hquiet)).more _
  | false =>
      cases c with
      | request w₁ events => exact absurd rfl (hrequest w₁ events)
      | establish headers => exact h.establish headers
      | recvEstablished data =>
          have hloop := hprocess data rfl
          refine (hloop.beside ?_).more []
          simp only [SessionScope.call, recvEstablished]
          cases hentry : (sc.processCapsules data).entry with
          | none => exact .refl _
          | some w₁ =>
              dsimp only
              split_ifs
              · exact (Beside.refl _).perform rfl
              · exact .refl _
      | drain => exact (hprocess [] rfl).more []
      | api op =>
          refine (h.step op hallowed ?_).more []
          intro isUni w₁ hop hentry
          exact hopen isUni w₁ (by rw [hop]) hentry
      | _ => cases hquiet

end Lived

end SessionScope

/-! ## Along a run -/

namespace H2Session

open SessionScope (Lived)
open WtSessionInfo (Life)

variable {create' : WtSessionInfo → Nat → Prop} {isServer : Bool} {config : H2SessionConfig}
  {s : H2Session} {sessionId : Int} {inputs : List Input} {w : WtSessionInfo}

/-- The next session method of a view. -/
theorem viewAfter_append (s : H2Session) (sessionId : Int) (calls : List Call) (c : Call) :
    (s.viewAfter sessionId (calls ++ [c])).entry = ((s.scopeAfter sessionId calls).call c).entry ∧
      (s.viewAfter sessionId (calls ++ [c])).effects =
        (s.viewAfter sessionId calls).effects ++ ((s.scopeAfter sessionId calls).call c).effects := by
  unfold scopeAfter viewAfter
  rw [List.foldl_append]
  exact ⟨rfl, rfl⟩

/-- Behind the methods of `front`, the run comes to a capsule with `w` as the entry: one of the methods
of `back` gives bytes to `process_capsules`, and behind some turns the capsule is the next in the
buffer. -/
def Comes (s : H2Session) (sessionId : Int) (front back : List Call) (w : WtSessionInfo)
    (r : Received) : Prop :=
  ∃ mid c data n sc w₁ type payload rest, mid ++ [c] <+: back ∧ c.takes = some data ∧
    SessionScope.afterTurns n ((s.scopeAfter sessionId (front ++ mid)).appendBuffer data) = some sc ∧
    sc.entry = some w₁ ∧
    SessionScope.readHead s.config w₁.capsuleBuffer = .capsule type payload rest ∧
    readPayload type payload = .received r ∧ w = w₁.withBuffer rest

theorem Comes.mono {front back back' : List Call} {r : Received}
    (h : s.Comes sessionId front back w r) (hback : back <+: back') :
    s.Comes sessionId front back' w r := by
  rcases h with ⟨mid, c, data, n, sc, w₁, type, payload, rest, hmid, hrest⟩
  exact ⟨mid, c, data, n, sc, w₁, type, payload, rest, hmid.trans hback, hrest⟩

/-- From any state of a run on, an entry goes through changes until it is gone, as long as no new
session is requested. -/
theorem life_of_run (h : create isServer config = .ok s) {front back : List Call}
    (hcalls : front ++ back <+: s.runCalls sessionId inputs)
    (hcreate : ∀ w r streamId, s.Comes sessionId front back w r → r.Creates w streamId →
      create' w streamId)
    (hrequest : ∀ w₁ events, .request w₁ events ∉ back)
    (hopen : ∀ mid isUni w₁, mid ++ [Call.api (.openStream isUni)] <+: back →
      (s.viewAfter sessionId (front ++ mid)).entry = some w₁ → w₁.isEstablished = true →
      w₁.hasRoom isUni → w₁.streams.find? (w₁.nextStreamId isServer isUni) = none →
      create' w₁ (w₁.nextStreamId isServer isUni))
    (hentry : (s.viewAfter sessionId front).entry = some w) :
    ∃ es, (s.viewAfter sessionId (front ++ back)).effects =
        (s.viewAfter sessionId front).effects ++ es ∧
      Life create' (s.Comes sessionId front back) config isServer w es (back.flatMap Call.inits)
        (s.viewAfter sessionId (front ++ back)).entry := by
  rcases create_view h sessionId with ⟨hview, hrole, hconfig⟩
  -- By induction on the methods: what was lived before the last one, and the last one.
  induction back using List.reverseRecOn with
  | nil =>
      refine ⟨[], ?_, ?_⟩
      · rw [List.append_nil, List.append_nil]
      · rw [List.append_nil, hentry]
        exact .start w
  | append_singleton back c ih =>
      rw [← List.append_assoc] at hcalls ⊢
      have hfront : front ++ back <+: s.runCalls sessionId inputs :=
        (List.prefix_append (front ++ back) [c]).trans hcalls
      rcases ih hfront
          (fun w r streamId hcomes =>
            hcreate w r streamId (hcomes.mono (List.prefix_append back [c])))
          (fun w₁ events hmem => hrequest w₁ events (List.mem_append_left [c] hmem))
          (fun mid isUni w₁ hmid => hopen mid isUni w₁ (hmid.trans (List.prefix_append back [c])))
        with ⟨es, heffects, hlife⟩
      have hallowed := called_next h hcalls
      rw [← hrole, ← hconfig] at hallowed
      have hlived : Lived create' (s.Comes sessionId front (back ++ [c])) config isServer w es
          (back.flatMap Call.inits) (s.scopeAfter sessionId (front ++ back)) := by
        refine ⟨scope_sound h hfront, hconfig, ?_⟩
        have hempty : es ++ (s.scopeAfter sessionId (front ++ back)).effects = es :=
          List.append_nil es
        rw [hempty]
        exact hlife.mono fun w r hcomes => hcomes.mono (List.prefix_append back [c])
      have hcall := hlived.call hcreate c hallowed
        (fun w₁ events heq => hrequest w₁ events
          (by rw [heq]; exact List.mem_append_right _ (by simp)))
        (fun data n sc w₁ type payload rest r htakes hafter hscope hhead hread =>
          ⟨back, c, data, n, sc, w₁, type, payload, rest, List.prefix_rfl, htakes, hafter, hscope,
            hconfig.symm ▸ hhead, hread, rfl⟩)
        (fun isUni w₁ heq hscope => hopen back isUni w₁ (by rw [heq]) hscope)
      rcases viewAfter_append s sessionId (front ++ back) c with ⟨hentry', heffects'⟩
      refine ⟨es ++ ((s.scopeAfter sessionId (front ++ back)).call c).effects, ?_, ?_⟩
      · rw [heffects', heffects, List.append_assoc]
      · rw [hentry', List.flatMap_append, List.flatMap_singleton]
        exact hcall.life

end H2Session

end H2
end WebTransport
