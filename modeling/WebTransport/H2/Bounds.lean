import WebTransport.H2.Sent

/-!
# H2.Bounds — the bytes of an unfinished capsule

A session buffers what comes before its acceptance, and later the capsule at the head of the stream
until it is whole.  `process_capsules` checks a length before it waits for the payload.

* `processCapsules_settled` : what `process_capsules` leaves in the buffer;
* `Call.Stages`             : what a session method does to the marks and the buffer of an entry;
* `Input.runs`              : the session methods that an input can run;
* `BufferBounded`           : the bound on the buffer, which every input keeps (`Bounded.step`);
* `bounded_duringAccept`    : what is left of it while `accept_session` writes the 2xx.
-/

namespace WebTransport
namespace H2

open Bindings

/-! ## What the loop leaves in the buffer -/

/-- Bytes that hold no whole varint are fewer than the longest one has. -/
theorem length_of_undecoded {data : Bytes} (h : decodeQuicVarint data = none) : data.length < 8 := by
  cases data with
  | nil => exact Nat.zero_lt_succ _
  | cons first rest =>
      simp only [decodeQuicVarint] at h
      split_ifs at h with hshort
      have hprefix : first.toNat / 64 ≤ 3 := by
        have hfirst : first.toNat < 256 := first.toNat_lt
        omega
      calc
        (first :: rest).length < 2 ^ (first.toNat / 64) := hshort
        _ ≤ 2 ^ 3 := Nat.pow_le_pow_right (by decide) hprefix

theorem length_of_decoded {data : Bytes} {value len : Nat}
    (h : decodeQuicVarint data = some (value, len)) : len ≤ 8 := by
  have hlengths := decodeQuicVarint_length h
  omega

namespace SessionScope

/-- The length is checked before the payload is waited for. -/
theorem length_of_unfinished {config : H2SessionConfig} {buffer : Bytes}
    (h : readHead config buffer = .unfinished) :
    buffer.length < 16 + config.wtMaxCapsulePayloadSize := by
  unfold readHead at h
  cases htype : decodeQuicVarint buffer with
  | none =>
      have hshort := length_of_undecoded htype
      omega
  | some r =>
      rcases r with ⟨type, typeLen⟩
      have htypeLen := length_of_decoded htype
      rw [htype] at h
      dsimp only at h
      cases hlength : decodeQuicVarint (buffer.drop typeLen) with
      | none =>
          have hshort := length_of_undecoded hlength
          rw [List.length_drop] at hshort
          omega
      | some r =>
          rcases r with ⟨len, lengthLen⟩
          have hlengthLen := length_of_decoded hlength
          rw [hlength] at h
          dsimp only at h
          split_ifs at h with hmax hpayload
          omega

/-- The loop leaves an unfinished capsule, and nothing in a terminated session. -/
theorem loop_settled (sc : SessionScope) : ∀ w, sc.loop.entry = some w →
    w.capsuleBuffer.length < 16 + sc.config.wtMaxCapsulePayloadSize ∧
      (w.isTerminated = true → w.capsuleBuffer = []) := by
  have hcleared : ∀ {w : WtSessionInfo} {config : H2SessionConfig}, w.capsuleBuffer = [] →
      w.capsuleBuffer.length < 16 + config.wtMaxCapsulePayloadSize ∧
        (w.isTerminated = true → w.capsuleBuffer = []) := by
    intro w config hbuffer
    refine ⟨?_, fun _ => hbuffer⟩
    rw [hbuffer, List.length_nil]
    omega
  refine loop_induction (P := fun sc sc' => ∀ w, sc'.entry = some w →
    w.capsuleBuffer.length < 16 + sc.config.wtMaxCapsulePayloadSize ∧
      (w.isTerminated = true → w.capsuleBuffer = [])) ?_ ?_ ?_ ?_ ?_ sc
  · intro sc hentry w hw
    rw [hentry] at hw
    cases hw
  · intro sc w hentry hterm w' hw'
    cases hw'
    exact hcleared rfl
  · intro sc w hentry hterm hhead w' hw'
    rw [hentry] at hw'
    cases hw'
    refine ⟨length_of_unfinished hhead, fun hended => ?_⟩
    rw [hterm] at hended
    cases hended
  · intro sc w hentry hterm hhead w' hw'
    rcases closeOversized_entry hentry hterm with ⟨w'', hw'', -, hbuffer⟩
    rw [hw''] at hw'
    cases hw'
    exact hcleared hbuffer
  · intro sc w type payload rest sc' hentry hterm hhead hsc' ih w' hw'
    have hone : sc'.identity = sc.identity := by
      rw [hsc']
      exact processCapsule_identity rfl type payload _
    have hconfig : sc'.config = sc.config := congrArg (fun i => i.2.1) hone
    rw [← hconfig]
    exact ih w' hw'

theorem processCapsules_settled {sc : SessionScope} {data : Bytes} {w : WtSessionInfo}
    (h : (sc.processCapsules data).entry = some w) :
    w.capsuleBuffer.length < 16 + sc.config.wtMaxCapsulePayloadSize ∧
      (w.isTerminated = true → w.capsuleBuffer = []) := by
  rw [processCapsules_eq_loop] at h
  exact loop_settled (sc.appendBuffer data) w h

end SessionScope

/-! ## Marks and buffer behind a session method -/

namespace WtSessionInfo

/-- An operation of the session leaves the marks and the buffer as they were, but for the end of the
session. -/
structure Stays (w w' : WtSessionInfo) : Prop where
  marks : w'.isEstablished = w.isEstablished ∧ w'.isTerminated = w.isTerminated ∨
    w'.isEstablished = false ∧ w'.isTerminated = true
  buffer : w'.capsuleBuffer = w.capsuleBuffer

theorem Stays.of_stage {w w' : WtSessionInfo} (h : w'.stage = w.stage) : w.Stays w' where
  marks := Or.inl ⟨(congrArg Prod.fst h :), (congrArg (fun i => i.2.1) h :)⟩
  buffer := (congrArg (fun i => i.2.2.2) h :)

theorem Stays.terminated {w w' : WtSessionInfo} (h : w.Stays w') (hterm : w.isTerminated = true) :
    w'.isTerminated = true := by
  rcases h.marks with ⟨-, hsame⟩ | ⟨-, hended⟩
  · exact hsame.trans hterm
  · exact hended

/-- A session that is not terminated keeps its mark. -/
theorem Stays.established {w w' : WtSessionInfo} (h : w.Stays w') :
    w'.isTerminated = true ∨ w'.isEstablished = w.isEstablished := by
  rcases h.marks with ⟨hsame, -⟩ | ⟨-, hended⟩
  · exact Or.inr hsame
  · exact Or.inl hended

/-- What `process_capsules` makes of an entry. -/
structure Settled (config : H2SessionConfig) (w w' : WtSessionInfo) : Prop where
  buffer_lt : w'.capsuleBuffer.length < 16 + config.wtMaxCapsulePayloadSize
  cleared : w'.isTerminated = true → w'.capsuleBuffer = []
  terminated : w.isTerminated = true → w'.isTerminated = true
  established : w'.isTerminated = true ∨ w'.isEstablished = w.isEstablished

end WtSessionInfo

namespace SessionScope

open WtSessionInfo (Wf)

variable {isServer : Bool} {sc sc' : SessionScope} {w w' : WtSessionInfo}

theorem stays_of_extends {permits : Permits} {ls : List Label} {w₁ : WtSessionInfo}
    (h : Extends permits sc w ls w₁ sc') (hentry : sc'.entry = some w') : w.Stays w' := by
  rcases h with ⟨hpath, hstands, -⟩
  have hstage : w₁.stage = w.stage :=
    hpath.invariant (fun w₂ => w₂.stage = w.stage) (fun heq hstep => hstep.stage_eq.trans heq) rfl
  have hstays := WtSessionInfo.Stays.of_stage hstage
  rw [hentry] at hstands
  cases hstands with
  | live => exact hstays
  | ended => exact ⟨Or.inr ⟨rfl, rfl⟩, hstays.buffer⟩
  | refused hcreated =>
      rcases hcreated.exists_stream with ⟨streamId, -, -, -, rfl⟩
      exact ⟨Or.inr ⟨rfl, rfl⟩, hstays.buffer⟩

/-- A session that is not terminated by its capsules keeps its mark. -/
theorem processCapsules_established (h : Sound isServer sc) (hentry : sc.entry = some w)
    (data : Bytes) (hentry' : (sc.processCapsules data).entry = some w') :
    w'.isTerminated = true ∨ w'.isEstablished = w.isEstablished := by
  let Inv : SessionScope → Prop := fun sc => Sound isServer sc ∧
    ∀ w', sc.entry = some w' → w'.isTerminated = true ∨ w'.isEstablished = w.isEstablished
  have hstart : Inv sc := by
    refine ⟨h, fun w' hw' => Or.inr ?_⟩
    rw [hentry] at hw'
    cases hw'
    rfl
  have hloop : Inv (sc.processCapsules data) := by
    refine processCapsules_rule ?_ ?_ ?_ (eachTurn_true _) hstart
    · intro sc w₁ buffer hentry hinv
      refine ⟨hinv.1.setEntry hentry rfl rfl rfl, fun w₂ hw₂ => ?_⟩
      cases hw₂
      exact hinv.2 w₁ hentry
    · intro sc type size payload hinv
      exact hinv
    · intro sc w₁ buffer r _ hentry hlive _ hinv
      have hwf : Wf sc.isServer (w₁.withBuffer buffer) := hinv.1.1.symm ▸ hinv.1.2 _ hentry
      refine ⟨hinv.1.react hentry hlive r, fun w₂ hw₂ => ?_⟩
      rcases react_extends hentry hwf hlive r
          (fun r _ => Permits.all_admits sc.isServer _ r) with ⟨ls, w₃, hext, -, -⟩
      rcases (stays_of_extends hext hw₂).established with hended | hsame
      · exact Or.inl hended
      · rcases hinv.2 _ hentry with hended | hold
        · exact absurd (hlive.symm.trans hended) Bool.false_ne_true
        · exact Or.inr (hsame.trans hold)
  exact hloop.2 w' hentry'

/-- Capsules do not make a terminated session live again. -/
theorem processCapsules_terminated (hentry : sc.entry = some w) (hterm : w.isTerminated = true)
    (data : Bytes) (hentry' : (sc.processCapsules data).entry = some w') :
    w'.isTerminated = true := by
  have happended : (sc.appendBuffer data).entry = some (w.withBuffer (w.capsuleBuffer ++ data)) := by
    simp only [appendBuffer, hentry, Option.map_some]
  rw [processCapsules_eq_loop, loop_of_stop (loopTurn_terminated happended hterm)] at hentry'
  cases hentry'
  exact hterm

theorem processCapsules_stages (h : Sound isServer sc) {data : Bytes}
    (hentry' : (sc.processCapsules data).entry = some w') :
    ∃ w, sc.entry = some w ∧ w.Settled sc.config w' := by
  cases hentry : sc.entry with
  | none =>
      simp only [processCapsules, hentry] at hentry'
      cases hentry'
  | some w =>
      rcases processCapsules_settled hentry' with ⟨hlt, hcleared⟩
      exact ⟨w, rfl, hlt, hcleared, fun hterm => processCapsules_terminated hentry hterm data hentry',
        processCapsules_established h hentry data hentry'⟩

end SessionScope

/-- What a session method but a request does to the marks and the buffer of an entry. -/
def Call.Stages (config : H2SessionConfig) (w w' : WtSessionInfo) : Call → Prop
  | .establish _ => w'.isEstablished = true ∧ w'.isTerminated = w.isTerminated ∧
      w'.capsuleBuffer = w.capsuleBuffer
  | .markEstablished => w'.isEstablished = true ∧ w'.isTerminated = w.isTerminated ∧
      w'.capsuleBuffer = w.capsuleBuffer
  | .bufferPreAccept data => w'.isEstablished = w.isEstablished ∧
      w'.isTerminated = w.isTerminated ∧ w'.capsuleBuffer = w.capsuleBuffer ++ data
  | .recvEstablished _ => w.Settled config w'
  | .drain => w.Settled config w'
  | .reject _ _ => (w.isTerminated = true → w'.isTerminated = true) ∧ w'.capsuleBuffer = []
  | .clearBuffer => (w.isTerminated = true → w'.isTerminated = true) ∧ w'.capsuleBuffer = []
  | _ => w.Stays w'

namespace SessionScope

variable {isServer : Bool} {sc : SessionScope} {w w' : WtSessionInfo}

/-- The application's calls leave the marks and the buffer, but for the end of the session. -/
theorem step_stages (h : Sound isServer sc) (op : Op) (hop : ∀ c, op ≠ .receive c)
    (hentry' : (sc.step op).entry = some w') : ∃ w, sc.entry = some w ∧ w.Stays w' := by
  cases hentry : sc.entry with
  | none =>
      rw [(step_gone hentry op).1, hentry] at hentry'
      cases hentry'
  | some w =>
      have hwf : WtSessionInfo.Wf sc.isServer w := h.1.symm ▸ h.2 w hentry
      rcases api_extends hentry hwf op hop (stepUnder_all sc op).1 with ⟨ls, w₁, hext, -, -⟩
      exact ⟨w, rfl, stays_of_extends hext hentry'⟩

theorem call_stages (h : Sound isServer sc) {c : Call}
    (hallowed : c.Allowed sc.isServer sc.config sc.entry) (hrequest : c.requests = false)
    (hentry' : (sc.call c).entry = some w') :
    ∃ w, sc.entry = some w ∧ c.Stages sc.config w w' := by
  cases c with
  | request w events => cases hrequest
  | api op => exact step_stages h op hallowed hentry'
  | drain => exact processCapsules_stages h hentry'
  | recvEstablished data =>
      have hsame : (sc.recvEstablished data).entry = (sc.processCapsules data).entry := by
        unfold recvEstablished
        dsimp only
        cases hloop : (sc.processCapsules data).entry with
        | none => exact hloop
        | some w =>
            dsimp only
            split_ifs
            · exact hloop
            · exact hloop
      exact processCapsules_stages h (hsame ▸ hentry')
  | establish headers =>
      simp only [call, H2Session.establish] at hentry'
      cases hentry : sc.entry with
      | none =>
          simp only [hentry] at hentry'
          cases hentry'
      | some w =>
          refine ⟨w, rfl, ?_⟩
          cases hinit : (H2Session.lastHeader headers (ascii "webtransport-init")).bind
              H2Session.parseWebtransportInit with
          | none =>
              simp only [hentry, hinit] at hentry'
              cases hentry'
              exact ⟨rfl, rfl, rfl⟩
          | some limits =>
              simp only [hentry, hinit] at hentry'
              cases hentry'
              rcases limits with ⟨u, bl, br⟩
              refine ⟨rfl, ?_, ?_⟩
              all_goals cases u <;> cases bl <;> cases br <;> rfl
  | beRejected status =>
      simp only [call, H2Session.beRejected] at hentry'
      cases hentry : sc.entry with
      | none =>
          simp only [hentry] at hentry'
          cases hentry'
      | some w =>
          simp only [hentry] at hentry'
          cases hentry'
  | reject status rv =>
      -- What is left behind a 2xx is terminated.
      simp only [call, H2Session.reject] at hentry'
      cases hentry : sc.entry with
      | none =>
          cases rv <;> split_ifs at hentry' <;> simp [pushEvent, perform, hentry] at hentry'
      | some w =>
          refine ⟨w, rfl, ?_⟩
          cases rv <;> split_ifs at hentry' <;>
            simp [pushEvent, perform, setEntry, hentry] at hentry' <;> subst hentry' <;>
              exact ⟨fun _ => rfl, rfl⟩
  | bufferPreAccept data =>
      rcases Option.map_eq_some_iff.1 hentry' with ⟨w, hentry, rfl⟩
      exact ⟨w, hentry, rfl, rfl, rfl⟩
  | handleEndStream =>
      simp only [call, SessionScope.handleEndStream] at hentry'
      cases hentry : sc.entry with
      | none =>
          simp only [hentry] at hentry'
          cases hentry'
      | some w =>
          refine ⟨w, rfl, ?_⟩
          simp only [hentry] at hentry'
          split_ifs at hentry'
          · cases hentry'
            exact ⟨Or.inl ⟨rfl, rfl⟩, rfl⟩
          · cases hentry.symm.trans hentry'
            exact ⟨Or.inl ⟨rfl, rfl⟩, rfl⟩
          · simp only [resetStreamForMalformedCapsule, hentry, Option.map_some] at hentry'
            cases hentry'
            exact ⟨Or.inr ⟨rfl, rfl⟩, rfl⟩
          · cases hentry'
  | terminatePreAcceptEndStreamSession =>
      simp only [call, SessionScope.terminatePreAcceptEndStreamSession] at hentry'
      cases hentry : sc.entry with
      | none =>
          simp only [hentry] at hentry'
          cases hentry'
      | some w =>
          refine ⟨w, rfl, ?_⟩
          simp only [hentry] at hentry'
          split_ifs at hentry'
          · simp only [resetStreamForMalformedCapsule, hentry, Option.map_some] at hentry'
            cases hentry'
            exact ⟨Or.inr ⟨rfl, rfl⟩, rfl⟩
          · cases hentry'
  | markEstablished =>
      rcases Option.map_eq_some_iff.1 hentry' with ⟨w, hentry, rfl⟩
      exact ⟨w, hentry, rfl, rfl, rfl⟩
  | clearBuffer =>
      rcases Option.map_eq_some_iff.1 hentry' with ⟨w, hentry, rfl⟩
      exact ⟨w, hentry, id, rfl⟩
  | sendInitialLimits => exact ⟨w', hentry', Or.inl ⟨rfl, rfl⟩, rfl⟩
  | streamClose errorCode =>
      simp only [call, closeStream] at hentry'
      cases hentry : sc.entry with
      | none =>
          simp only [hentry, perform] at hentry'
          cases hentry'
      | some w =>
          simp only [hentry, perform] at hentry'
          cases hentry'

end SessionScope

/-- No method but a request makes a terminated session live again. -/
theorem Call.Stages.terminated {config : H2SessionConfig} {w w' : WtSessionInfo} {c : Call}
    (h : c.Stages config w w')
    (hrequest : c.requests = false) (hterm : w.isTerminated = true) : w'.isTerminated = true := by
  cases c with
  | request w events => cases hrequest
  | establish headers => exact h.2.1.trans hterm
  | markEstablished => exact h.2.1.trans hterm
  | bufferPreAccept data => exact h.2.1.trans hterm
  | recvEstablished data => exact WtSessionInfo.Settled.terminated h hterm
  | drain => exact WtSessionInfo.Settled.terminated h hterm
  | reject status rv => exact h.1 hterm
  | clearBuffer => exact h.1 hterm
  | _ => exact WtSessionInfo.Stays.terminated h hterm

/-! ## Which methods an input runs -/

namespace H2Session

/-- The session methods that an input can run. -/
def Input.runs : Input → Call → Bool
  | .endHeaders _ _, .request _ _ => true
  | .endHeaders _ _, .establish _ => true
  | .endHeaders _ _, .beRejected _ => true
  | .endHeaders _ _, .reject _ _ => true
  | .recvData _ _ _, .recvEstablished _ => true
  | .recvData _ _ _, .bufferPreAccept _ => true
  | .recvData _ _ _, .reject _ _ => true
  | .remoteEndStream _, .handleEndStream => true
  | .write _, .streamClose _ => true
  | .connect _ _ _ _, .request _ _ => true
  | .connect _ _ _ _, .streamClose _ => true
  | .acceptSession _ _ _ _, .clearBuffer => true
  | .acceptSession _ _ _ _, .markEstablished => true
  | .acceptSession _ _ _ _, .drain => true
  | .acceptSession _ _ _ _, .streamClose _ => true
  | .acceptSession _ _ _ _, .terminatePreAcceptEndStreamSession => true
  | .acceptSession _ _ _ _, .sendInitialLimits => true
  | .rejectSession _ _ _, .reject _ _ => true
  | .openStream _ _, .api _ => true
  | .sendStreamData _ _ _ _, .api _ => true
  | .resetStream _ _ _, .api _ => true
  | .stopSending _ _ _, .api _ => true
  | .sendDatagram _ _, .api _ => true
  | .closeSession _ _ _, .api _ => true
  | .drainSession _, .api _ => true
  | _, _ => false

section Runs

variable {s : H2Session} {sessionId : Int}

theorem runs_of_headers (streamId : Int) (rv : Option NgError) :
    ∀ c ∈ s.headerCalls sessionId streamId rv, (Input.endHeaders streamId rv).runs c = true := by
  have hnone : ∀ c ∈ ([] : List Call), (Input.endHeaders streamId rv).runs c = true :=
    fun c hc => absurd hc List.not_mem_nil
  unfold headerCalls
  cases s.pendingHeaders.find? streamId with
  | none => exact hnone
  | some headers =>
      dsimp only
      split_ifs
      · unfold requestCalls
        split_ifs
        · exact rejectCalls_all streamId 403 rv fun _ => rfl
        · cases s.requestedSession streamId headers with
          | none => exact rejectCalls_all streamId 400 rv fun _ => rfl
          | some w => exact onSession_all fun _ => rfl
        · exact rejectCalls_all streamId 405 rv fun _ => rfl
      · exact responseCalls_all streamId headers fun _ => ⟨rfl, fun _ => rfl⟩

theorem runs_of_connect (url origin : Bytes) (streamId : Int) (flush : List WriteCallback) :
    ∀ c ∈ s.connectCalls sessionId url streamId flush,
      (Input.connect url origin streamId flush).runs c = true := by
  have hnone : ∀ c ∈ ([] : List Call), (Input.connect url origin streamId flush).runs c = true :=
    fun c hc => absurd hc List.not_mem_nil
  unfold connectCalls
  cases parseAuthorityPath url with
  | none =>
      dsimp only
      split_ifs <;> exact hnone
  | some target =>
      dsimp only
      split_ifs
      · exact hnone
      · exact hnone
      · exact hnone
      · exact hnone
      · intro c hc
        rcases List.mem_append.1 hc with hc | hc
        · rw [(mem_onSession hc).2]
          rfl
        · exact flushCalls_all (P := fun c => (Input.connect url origin streamId flush).runs c = true)
            (fun _ => rfl) s sessionId flush c hc

/-- An input runs no other methods. -/
theorem runs_of_mem {input : Input} : ∀ c ∈ s.callsOf sessionId input, input.runs c = true := by
  have hnone : ∀ c ∈ ([] : List Call), input.runs c = true :=
    fun c hc => absurd hc List.not_mem_nil
  cases input with
  | endHeaders streamId rv => exact runs_of_headers streamId rv
  | connect url origin streamId flush => exact runs_of_connect url origin streamId flush
  | recvData streamId data rv => exact dataCalls_all streamId data rv rfl rfl fun _ _ _ => rfl
  | acceptSession streamId rv flush resetFlush =>
      exact acceptCalls_all streamId rv flush resetFlush (fun _ => rfl) rfl rfl rfl rfl rfl
  | rejectSession streamId status rv => exact rejectCalls_all streamId status rv fun _ => rfl
  | write callback =>
      cases callback with
      | streamClose streamId errorCode =>
          intro c hc
          rcases List.mem_append.1 hc with hc | hc
          · rw [(mem_onSession hc).2]
            rfl
          · cases hc
      | _ => exact hnone
  | recvSettingsEntry id value => exact hnone
  | beginHeaders streamId => exact hnone
  | recvHeader streamId name value => exact hnone
  | endTrailers streamId => exact hnone
  | shutdown lastStreamId errorCode => exact hnone
  | readError err => exact hnone
  | nextEvent => exact hnone
  | _ => exact onSession_all fun _ => rfl

end Runs

end H2Session

/-! ## The bound on the buffer -/

namespace WtSessionInfo

/-- The bound on the buffer: the limit before acceptance while the session waits for it, less than
the longest capsule while it is established, and one of both once it is terminated. -/
structure BufferBounded (config : H2SessionConfig) (w : WtSessionInfo) : Prop where
  waiting : w.isEstablished = false → w.isTerminated = false →
    w.capsuleBuffer.length ≤ config.wtPreAcceptBufferLimit
  established : w.isEstablished = true →
    w.capsuleBuffer.length < 16 + config.wtMaxCapsulePayloadSize
  within : w.capsuleBuffer.length ≤ config.wtPreAcceptBufferLimit ∨
    w.capsuleBuffer.length < 16 + config.wtMaxCapsulePayloadSize

/-- On a client nothing is buffered before the session is established. -/
structure Bounds (isServer : Bool) (config : H2SessionConfig) (w : WtSessionInfo) : Prop
    extends BufferBounded config w where
  client : isServer = false → w.capsuleBuffer.length < 16 + config.wtMaxCapsulePayloadSize

variable {isServer : Bool} {config : H2SessionConfig} {w w' : WtSessionInfo}

theorem bounds_of_empty (h : w.capsuleBuffer = []) : Bounds isServer config w := by
  have hzero : w.capsuleBuffer.length = 0 := by rw [h, List.length_nil]
  have hlt : w.capsuleBuffer.length < 16 + config.wtMaxCapsulePayloadSize := by omega
  exact ⟨⟨fun _ _ => by omega, fun _ => hlt, Or.inr hlt⟩, fun _ => hlt⟩

theorem Bounds.stays (h : Bounds isServer config w) (hstays : w.Stays w') :
    Bounds isServer config w' := by
  have hbuffer := hstays.buffer
  rcases hstays.marks with ⟨hest, hterm⟩ | ⟨hest, hterm⟩
  · refine ⟨⟨?_, ?_, ?_⟩, ?_⟩
    · rw [hest, hterm, hbuffer]
      exact h.waiting
    · rw [hest, hbuffer]
      exact h.established
    · rw [hbuffer]
      exact h.within
    · rw [hbuffer]
      exact h.client
  · refine ⟨⟨?_, ?_, ?_⟩, ?_⟩
    · intro _ hlive
      rw [hterm] at hlive
      cases hlive
    · intro hmarked
      rw [hest] at hmarked
      cases hmarked
    · rw [hbuffer]
      exact h.within
    · rw [hbuffer]
      exact h.client

/-- Behind `process_capsules` an established session is within its bound. -/
theorem bounds_of_settled (h : w.Settled config w') (hest : w.isEstablished = true) :
    Bounds isServer config w' := by
  refine ⟨⟨?_, fun _ => h.buffer_lt, Or.inr h.buffer_lt⟩, fun _ => h.buffer_lt⟩
  intro hnot hlive
  rcases h.established with hended | hsame
  · rw [hlive] at hended
    cases hended
  · rw [hsame, hest] at hnot
    cases hnot

end WtSessionInfo

/-- The method puts bytes into the buffer, or marks the entry in front of its drain. -/
def Call.fills : Call → Bool
  | .bufferPreAccept _ => true
  | .markEstablished => true
  | .drain => true
  | _ => false

namespace SessionScope

open WtSessionInfo (Bounds bounds_of_empty bounds_of_settled)

variable {isServer : Bool} {config : H2SessionConfig} {sc : SessionScope} {c : Call}
  {w : WtSessionInfo}

/-- What the other methods keep. -/
theorem call_bounds (h : Sound isServer sc) (hconfig : sc.config = config)
    (hallowed : c.Allowed isServer config sc.entry) (hfills : c.fills = false)
    (hbounds : ∀ w, sc.entry = some w → Bounds isServer config w)
    (hentry : (sc.call c).entry = some w) : Bounds isServer config w := by
  have hrole := h.1
  cases c with
  | request w₀ events =>
      have hsame : (sc.call (.request w₀ events)).entry = some w₀ :=
        (foldl_pushEvent_effects events _).1
      rw [hsame] at hentry
      cases hentry
      exact bounds_of_empty hallowed.1.buffer
  | bufferPreAccept data => cases hfills
  | markEstablished => cases hfills
  | drain => cases hfills
  | recvEstablished data =>
      rw [← hrole, ← hconfig] at hallowed
      rcases call_stages h hallowed rfl hentry with ⟨w', hw', hstages⟩
      rcases hallowed with ⟨w'', hw'', hlive, hest⟩
      cases hw'.symm.trans hw''
      exact bounds_of_settled (hconfig ▸ hstages) hest
  | establish headers =>
      have hclient : isServer = false := hallowed
      rw [← hrole, ← hconfig] at hallowed
      rcases call_stages h hallowed rfl hentry with ⟨w', hw', hest, -, hbuffer⟩
      have hlt : w.capsuleBuffer.length < 16 + config.wtMaxCapsulePayloadSize := by
        rw [hbuffer]
        exact (hbounds w' hw').client hclient
      refine ⟨⟨?_, fun _ => hlt, Or.inr hlt⟩, fun _ => hlt⟩
      intro hnot
      rw [hest] at hnot
      cases hnot
  | reject status rv =>
      rw [← hrole, ← hconfig] at hallowed
      rcases call_stages h hallowed rfl hentry with ⟨w', -, -, hbuffer⟩
      exact bounds_of_empty hbuffer
  | clearBuffer =>
      rw [← hrole, ← hconfig] at hallowed
      rcases call_stages h hallowed rfl hentry with ⟨w', -, -, hbuffer⟩
      exact bounds_of_empty hbuffer
  | _ =>
      rw [← hrole, ← hconfig] at hallowed
      rcases call_stages h hallowed rfl hentry with ⟨w', hw', hstays⟩
      exact (hbounds w' hw').stays hstays

end SessionScope

/-! ## The bound along a run -/

/-- The entry of a view, if there is one, is well formed and within the bound. -/
def View.Bounded (isServer : Bool) (config : H2SessionConfig) (v : View) : Prop :=
  ∀ w, v.entry = some w →
    WtSessionInfo.Wf isServer w ∧ WtSessionInfo.Bounds isServer config w

section Views

open WtSessionInfo (Wf Bounds bounds_of_settled)

variable {isServer : Bool} {config : H2SessionConfig} {sessionId : Int} {v v' : View}
  {calls rest : List Call} {c : Call}

theorem Called.sound (h : Called isServer config sessionId v c v')
    (hv : ∀ w, v.entry = some w → Wf isServer w) : ∀ w, v'.entry = some w → Wf isServer w :=
  H2Session.path_sound (Path.one h) hv

/-- The methods that fill no buffer keep the bound. -/
theorem bounded_of_path (h : Path (Called isServer config sessionId) v calls v')
    (hfills : ∀ c ∈ calls, c.fills = false) (hv : v.Bounded isServer config) :
    v'.Bounded isServer config := by
  induction calls generalizing v with
  | nil =>
      cases h
      exact hv
  | cons c calls ih =>
      rcases h with ⟨mid, hcalled, hrest⟩
      refine ih hrest (fun c' hc' => hfills c' (List.mem_cons_of_mem c hc')) ?_
      intro w hw
      refine ⟨hcalled.sound (fun w hw => (hv w hw).1) w hw, ?_⟩
      rcases hcalled with ⟨hallowed, rfl⟩
      have hsound : SessionScope.Sound isServer
          { isServer := isServer, config := config, sessionId := sessionId, entry := v.entry } :=
        ⟨rfl, fun w hw => (hv w hw).1⟩
      exact SessionScope.call_bounds hsound rfl hallowed (hfills c (List.mem_cons_self ..))
        (fun w hw => (hv w hw).2) hw

/-- Write callbacks leave an entry as it is, or remove it. -/
theorem entry_of_closes (h : Path (Called isServer config sessionId) v calls v')
    (hclose : ∀ c ∈ calls, ∃ errorCode, c = .streamClose errorCode) :
    ∀ w, v'.entry = some w → v.entry = some w := by
  induction calls generalizing v with
  | nil =>
      cases h
      exact fun w hw => hw
  | cons c calls ih =>
      rcases h with ⟨mid, hcalled, hrest⟩
      intro w hw
      have hmid := ih hrest (fun c' hc' => hclose c' (List.mem_cons_of_mem c hc')) w hw
      rcases hclose c (List.mem_cons_self ..) with ⟨errorCode, rfl⟩
      rcases hcalled with ⟨-, rfl⟩
      simp only [View.call, SessionScope.call, SessionScope.closeStream] at hmid
      cases hentry : v.entry with
      | none =>
          simp only [hentry, SessionScope.perform] at hmid
          cases hmid
      | some w' =>
          simp only [hentry, SessionScope.perform] at hmid
          cases hmid

/-- Marking the entry and processing what it holds restores the bound. -/
theorem bounded_of_accept {closes : List Call}
    (h : Path (Called isServer config sessionId) v
      ([Call.markEstablished] ++ closes ++ [Call.drain] ++ rest) v')
    (hclose : ∀ c ∈ closes, ∃ errorCode, c = .streamClose errorCode)
    (hrest : ∀ c ∈ rest, c.fills = false) (hv : ∀ w, v.entry = some w → Wf isServer w) :
    v'.Bounded isServer config := by
  rcases h.split with ⟨drained, hfront, hback⟩
  refine bounded_of_path hback hrest ?_
  rcases hfront.split with ⟨waited, hwaiting, hdrain⟩
  rcases hwaiting.split with ⟨marked, hmark, hflush⟩
  have hwf := H2Session.path_sound hwaiting hv
  rcases hdrain with ⟨_, hcalled, rfl⟩
  intro w hw
  refine ⟨hcalled.sound hwf w hw, ?_⟩
  rcases hcalled with ⟨hallowed, rfl⟩
  have hsound : SessionScope.Sound isServer
      { isServer := isServer, config := config, sessionId := sessionId, entry := waited.entry } :=
    ⟨rfl, hwf⟩
  rcases SessionScope.processCapsules_stages hsound hw with ⟨w₁, hw₁, hsettled⟩
  -- The entry was marked, and the callbacks in between have left it.
  have hmarked : marked.entry = some w₁ := entry_of_closes hflush hclose w₁ hw₁
  rcases hmark with ⟨_, ⟨-, rfl⟩, rfl⟩
  rcases Option.map_eq_some_iff.1 hmarked with ⟨w₀, -, rfl⟩
  exact bounds_of_settled hsettled rfl

end Views

namespace H2Session

open WtSessionInfo (Wf Bounds)

variable {s : H2Session} {sessionId : Int}

/-- Every session is within the bound. -/
def Bounded (s : H2Session) : Prop :=
  ∀ sessionId, (s.view sessionId).Bounded s.isServer s.config

/-- DATA in front of the acceptance is only buffered within the limit. -/
theorem bounded_of_data (h : s.Bounded) (streamId : Int) (data : Bytes) (rv : Option NgError) :
    (s.step (.recvData streamId data rv)).Bounded := by
  intro sessionId
  have hsees := step_calls s sessionId (.recvData streamId data rv)
  rw [hsees.role, hsees.config]
  have hpath := hsees.path
  by_cases hfills : ∀ c ∈ s.callsOf sessionId (.recvData streamId data rv), c.fills = false
  · exact bounded_of_path hpath hfills (h sessionId)
  · simp only [callsOf, dataCalls] at hfills hpath
    cases hentry : s.wtSessions.find? streamId with
    | none =>
        rw [hentry] at hfills
        exact absurd (fun c hc => absurd hc List.not_mem_nil) hfills
    | some w =>
        rw [hentry] at hfills hpath
        dsimp only at hfills hpath
        have hnone : ∀ c ∈ ([] : List Call), c.fills = false :=
          fun c hc => absurd hc List.not_mem_nil
        split_ifs at hfills hpath with hterm hempty hest hserver hlimit
        · exact absurd hnone hfills
        · exact absurd hnone hfills
        · exact absurd (onSession_all (P := fun c => c.fills = false) fun _ => rfl) hfills
        · exact absurd hnone hfills
        · exact absurd (rejectCalls_all (P := fun c => c.fills = false) streamId 413 rv
            fun _ => rfl) hfills
        · by_cases hid : streamId = sessionId
          · subst hid
            rw [onSession, if_pos rfl] at hpath
            rcases hpath with ⟨_, hcalled, rfl⟩
            have hwf := hcalled.sound fun w hw => (h streamId w hw).1
            rcases hcalled with ⟨-, hview⟩
            intro w' hw'
            refine ⟨hwf w' hw', ?_⟩
            rw [hview] at hw'
            have hw : (s.view streamId).entry = some w := hentry
            simp only [View.call, SessionScope.call, SessionScope.bufferPreAccept, hw,
              Option.map_some] at hw'
            cases hw'
            have hle : (w.capsuleBuffer ++ data).length ≤ s.config.wtPreAcceptBufferLimit := by
              rw [List.length_append]
              exact not_lt.1 hlimit
            refine ⟨⟨fun _ _ => hle, fun hmarked => absurd hmarked hest, Or.inl hle⟩, ?_⟩
            intro hclient
            simp [hclient] at hserver
          · rw [onSession, if_neg hid] at hfills
            exact absurd hnone hfills

theorem bounded_of_accepting (h : s.Bounded) (streamId : Int) (rv : Option NgError)
    (flush resetFlush : List WriteCallback) :
    (s.step (.acceptSession streamId rv flush resetFlush)).Bounded := by
  intro sessionId
  have hsees := step_calls s sessionId (.acceptSession streamId rv flush resetFlush)
  rw [hsees.role, hsees.config]
  have hpath := hsees.path
  by_cases hfills : ∀ c ∈ s.callsOf sessionId (.acceptSession streamId rv flush resetFlush),
      c.fills = false
  · exact bounded_of_path hpath hfills (h sessionId)
  · simp only [callsOf, acceptCalls] at hfills hpath
    have hnone : ∀ c ∈ ([] : List Call), c.fills = false :=
      fun c hc => absurd hc List.not_mem_nil
    split_ifs at hfills hpath
    · exact absurd hnone hfills
    · cases rv with
      | some err =>
          exact absurd (onSession_all (P := fun c => c.fills = false) fun _ => rfl) hfills
      | none =>
          dsimp only at hfills hpath
          have hfinish := @finishCalls_all (((s.callNg (.submitResponse streamId
            (acceptHeaders s.config))).drainAccepted streamId flush)) sessionId
            (fun c => c.fills = false) streamId resetFlush (fun _ => rfl) rfl rfl
          have hclose := flushCalls_all (P := fun c => ∃ errorCode, c = .streamClose errorCode)
            (fun errorCode => ⟨errorCode, rfl⟩)
            (s.callNg (.submitResponse streamId (acceptHeaders s.config))) sessionId flush
          by_cases hid : streamId = sessionId
          · have hown : ∀ c, onSession sessionId streamId c = [c] := fun c => if_pos hid
            rw [hown, hown] at hpath
            exact bounded_of_accept hpath hclose hfinish fun w hw => (h sessionId w hw).1
          · -- Another session only sees the write callbacks.
            have hother : ∀ c, onSession sessionId streamId c = [] := fun c => if_neg hid
            rw [hother, hother] at hfills
            refine absurd ?_ hfills
            intro c hc
            simp only [List.nil_append, List.append_nil] at hc
            rcases List.mem_append.1 hc with hc | hc
            · rcases hclose c hc with ⟨errorCode, rfl⟩
              rfl
            · exact hfinish c hc

/-- Every input keeps the bound. -/
theorem Bounded.step (h : s.Bounded) (input : Input) : (s.step input).Bounded := by
  have hplain : (∀ c : Call, input.runs c = true → c.fills = false) →
      (s.step input).Bounded := by
    intro hruns sessionId
    have hsees := step_calls s sessionId input
    rw [hsees.role, hsees.config]
    exact bounded_of_path hsees.path (fun c hc => hruns c (runs_of_mem c hc)) (h sessionId)
  cases input with
  | recvData streamId data rv => exact bounded_of_data h streamId data rv
  | acceptSession streamId rv flush resetFlush =>
      exact bounded_of_accepting h streamId rv flush resetFlush
  | _ =>
      refine hplain fun c hc => ?_
      cases c <;> first | rfl | cases hc

theorem Bounded.run (h : s.Bounded) (inputs : List Input) : (s.run inputs).Bounded := by
  induction inputs generalizing s with
  | nil => exact h
  | cons input rest ih => exact ih (h.step input)

theorem bounded_create {isServer : Bool} {config : H2SessionConfig}
    (h : create isServer config = .ok s) : s.Bounded := by
  intro sessionId w hw
  rw [(create_view h sessionId).1] at hw
  cases hw

/-! ### While a session is accepted -/

/-- The state at the end of a callback that nghttp2 makes while `accept_session` writes the 2xx. -/
def duringAccept (s : H2Session) (sessionId : Int) (flush : List WriteCallback) : H2Session :=
  ((s.callNg (.submitResponse sessionId (acceptHeaders s.config))).inScope sessionId
    (·.markEstablished)).flushOutput flush

/-- The entry is marked with what it has buffered so far. -/
theorem bounded_duringAccept (h : s.Bounded) (acceptId : Int) (flush : List WriteCallback)
    {w : WtSessionInfo}
    (hentry : (s.duringAccept acceptId flush).wtSessions.find? sessionId = some w) :
    w.capsuleBuffer.length ≤ s.config.wtPreAcceptBufferLimit ∨
      w.capsuleBuffer.length < 16 + s.config.wtMaxCapsulePayloadSize := by
  let called := s.callNg (.submitResponse acceptId (acceptHeaders s.config))
  let marked := called.inScope acceptId (·.markEstablished)
  have hflush : Sees sessionId marked (marked.flushCalls sessionId flush)
      (s.duringAccept acceptId flush) := Sees.flushOutput sessionId marked flush
  have hclose := flushCalls_all (P := fun c => ∃ errorCode, c = .streamClose errorCode)
    (fun errorCode => ⟨errorCode, rfl⟩) marked sessionId flush
  have hmarked : (marked.view sessionId).entry = some w :=
    entry_of_closes hflush.path hclose w hentry
  have hmark : Sees sessionId called (onSession sessionId acceptId .markEstablished) marked :=
    Sees.inScope called sessionId acceptId .markEstablished trivial
  have hpath := hmark.path
  by_cases hid : acceptId = sessionId
  · rw [onSession, if_pos hid] at hpath
    rcases hpath with ⟨_, ⟨-, rfl⟩, hview⟩
    rw [← hview] at hmarked
    rcases Option.map_eq_some_iff.1 hmarked with ⟨w₀, hw₀, rfl⟩
    exact (h sessionId w₀ hw₀).2.within
  · rw [onSession, if_neg hid] at hpath
    have hsame : called.view sessionId = marked.view sessionId := hpath
    rw [← hsame] at hmarked
    exact (h sessionId w hmarked).2.within

end H2Session

end H2
end WebTransport
