import WebTransport.H2.Calls
import WebTransport.H2.ConnWindow

/-!
# H2.Unfinished — unfinished capsules and the connection window

The bytes of an unfinished capsule stay in the receive record of their session, up to
`max_unfinished_capsule_bytes` for each session, while the connection window is one for all of
them.

* `retained`          : what a buffer leaves in the record, read off its bytes;
* `onRecvData_total`  : what all sessions together hold behind a DATA frame;
* `window_stays_open` : the window stays open along every run in which the sessions together hold
  no more than the window can spare.
-/

namespace WebTransport
namespace H2

open Bindings

namespace Effect

/-- What an effect leaves of the receive record of its session. -/
def settle (record : Nat) : Effect → Nat
  | .consumeRecvBytes size => record - size
  | .discardStreamRecvBytes => 0
  | _ => record

end Effect

/-- What a list of effects leaves of the receive record. -/
def settleAll (record : Nat) (es : List Effect) : Nat := es.foldl Effect.settle record

theorem settleAll_append (record : Nat) (es es' : List Effect) :
    settleAll record (es ++ es') = settleAll (settleAll record es) es' :=
  List.foldl_append

theorem settleAll_one (record size : Nat) :
    settleAll record [.consumeRecvBytes size] = record - size := rfl

/-- Effects that neither consume nor discard leave the record alone. -/
theorem settleAll_of_quiet {es : List Effect} (h : ∀ e ∈ es, ∀ record, e.settle record = record)
    (record : Nat) : settleAll record es = record := by
  induction es with
  | nil => rfl
  | cons e es ih =>
      have hfirst := h e List.mem_cons_self record
      unfold settleAll
      rw [List.foldl_cons, hfirst]
      exact ih fun e' he' => h e' (List.mem_cons_of_mem _ he')

/-! ## The record of the connection -/

namespace H2Session

/-- The entry of a session in `unconsumed_recv_bytes_`. -/
def recordOf (s : H2Session) (sessionId : Int) : Nat :=
  (s.unconsumedRecvBytes.find? sessionId).getD 0

theorem consumeRecvBytes_record (s : H2Session) (sessionId : Int) (size : Nat) :
    (s.consumeRecvBytes sessionId size).recordOf sessionId = s.recordOf sessionId - size ∧
      (s.consumeRecvBytes sessionId size).unconsumedRecvBytes.total + s.recordOf sessionId =
        s.unconsumedRecvBytes.total + (s.consumeRecvBytes sessionId size).recordOf sessionId := by
  unfold consumeRecvBytes recordOf
  cases hfind : s.unconsumedRecvBytes.find? sessionId with
  | none =>
      dsimp only
      split_ifs
      · simp [hfind]
      · simp [hfind]
  | some unconsumed =>
      dsimp only
      have herase := s.unconsumedRecvBytes.total_erase sessionId
      have hinsert := s.unconsumedRecvBytes.total_insert sessionId
        (unconsumed - min size unconsumed)
      rw [hfind, Option.getD_some] at herase hinsert
      have hsame := consumeConnectionRecvBytes_unconsumed
        (s.callNg (.extendMaxStreamOffset sessionId (min size unconsumed))) (min size unconsumed)
      split_ifs with hzero hnone hrest
      · rw [hfind, Option.getD_some, hzero]
        exact ⟨rfl, rfl⟩
      · rw [hfind, Option.getD_some]
        omega
      · dsimp only
        rw [hsame]
        dsimp only [callNg]
        rw [OrdMap.find?_erase_self, Option.getD_none, Option.getD_some]
        omega
      · dsimp only
        rw [hsame]
        dsimp only [callNg]
        rw [OrdMap.find?_insert_self, Option.getD_some, Option.getD_some]
        omega

theorem discardStreamRecvBytes_record (s : H2Session) (sessionId : Int) :
    (s.discardStreamRecvBytes sessionId).recordOf sessionId = 0 ∧
      (s.discardStreamRecvBytes sessionId).unconsumedRecvBytes.total + s.recordOf sessionId =
        s.unconsumedRecvBytes.total + (s.discardStreamRecvBytes sessionId).recordOf sessionId := by
  unfold discardStreamRecvBytes recordOf
  cases hfind : s.unconsumedRecvBytes.find? sessionId with
  | none => simp [hfind]
  | some remaining =>
      dsimp only
      have herase := s.unconsumedRecvBytes.total_erase sessionId
      rw [consumeConnectionRecvBytes_unconsumed]
      dsimp only
      rw [OrdMap.find?_erase_self]
      rw [hfind] at herase
      exact ⟨rfl, herase⟩

/-- An effect settles the record of its own session, and no other. -/
theorem perform_record (s : H2Session) (sessionId : Int) (e : Effect) :
    (s.perform sessionId e).recordOf sessionId = e.settle (s.recordOf sessionId) ∧
      (s.perform sessionId e).unconsumedRecvBytes.total + s.recordOf sessionId =
        s.unconsumedRecvBytes.total + (s.perform sessionId e).recordOf sessionId := by
  cases e with
  | consumeRecvBytes size => exact consumeRecvBytes_record s sessionId size
  | discardStreamRecvBytes => exact discardStreamRecvBytes_record s sessionId
  | _ => exact ⟨rfl, rfl⟩

theorem foldl_perform_record (s : H2Session) (sessionId : Int) (es : List Effect) :
    (es.foldl (perform sessionId) s).recordOf sessionId = settleAll (s.recordOf sessionId) es ∧
      (es.foldl (perform sessionId) s).unconsumedRecvBytes.total + s.recordOf sessionId =
        s.unconsumedRecvBytes.total + settleAll (s.recordOf sessionId) es := by
  induction es generalizing s with
  | nil => exact ⟨rfl, rfl⟩
  | cons e es ih =>
      rcases perform_record s sessionId e with ⟨hone, htotal⟩
      rcases ih (s.perform sessionId e) with ⟨hrest, hrestTotal⟩
      have hsettle : settleAll (s.recordOf sessionId) (e :: es) =
          settleAll ((s.perform sessionId e).recordOf sessionId) es := by
        rw [hone]
        rfl
      rw [List.foldl_cons, hsettle]
      refine ⟨hrest, ?_⟩
      omega

/-- What a session method leaves in the record. -/
theorem inScope_record (s : H2Session) (sessionId : Int) (f : SessionScope → SessionScope)
    (hid : (f (s.scope sessionId)).sessionId = sessionId) :
    (s.inScope sessionId f).unconsumedRecvBytes.total + s.recordOf sessionId =
      s.unconsumedRecvBytes.total +
        settleAll (s.recordOf sessionId) (f (s.scope sessionId)).effects := by
  unfold inScope commit
  rw [hid]
  exact (foldl_perform_record _ sessionId _).2

end H2Session

/-! ## What a session keeps of its record -/

namespace SessionScope

/-- What a buffer leaves in the receive record when the loop is through with it: an unfinished
capsule up to the threshold, everything behind a malformed payload. -/
def retained (config : H2SessionConfig) (buffer : Bytes) : Nat :=
  match _h : readHead config buffer with
  | .unfinished => min buffer.length maxUnfinishedCapsuleBytes
  | .oversized => 0
  | .capsule type payload rest =>
      match readPayload type payload with
      | .malformed => rest.length
      | _ => retained config rest
  termination_by buffer.length
  decreasing_by exact length_lt_of_readHead _h

theorem retained_unfinished {config : H2SessionConfig} {buffer : Bytes}
    (h : readHead config buffer = .unfinished) :
    retained config buffer = min buffer.length maxUnfinishedCapsuleBytes := by
  rw [retained]
  split <;> simp_all

theorem retained_oversized {config : H2SessionConfig} {buffer : Bytes}
    (h : readHead config buffer = .oversized) : retained config buffer = 0 := by
  rw [retained]
  split <;> simp_all

theorem retained_malformed {config : H2SessionConfig} {buffer payload rest : Bytes} {type : Nat}
    (h : readHead config buffer = .capsule type payload rest)
    (hread : readPayload type payload = .malformed) : retained config buffer = rest.length := by
  rw [retained]
  split <;> simp_all

theorem retained_capsule {config : H2SessionConfig} {buffer payload rest : Bytes} {type : Nat}
    (h : readHead config buffer = .capsule type payload rest)
    (hread : readPayload type payload ≠ .malformed) :
    retained config buffer = retained config rest := by
  rw [retained]
  split
  · simp_all
  · simp_all
  · rename_i heq
    rw [h] at heq
    cases heq
    split
    · exact absurd ‹_› hread
    · rfl

theorem retained_le (config : H2SessionConfig) (buffer : Bytes) :
    retained config buffer ≤ buffer.length := by
  induction hn : buffer.length using Nat.strong_induction_on generalizing buffer with
  | _ n ih =>
      cases hhead : readHead config buffer with
      | unfinished =>
          rw [retained_unfinished hhead]
          omega
      | oversized =>
          rw [retained_oversized hhead]
          exact Nat.zero_le _
      | capsule type payload rest =>
          have hlt := length_lt_of_readHead hhead
          by_cases hread : readPayload type payload = .malformed
          · rw [retained_malformed hhead hread]
            omega
          · rw [retained_capsule hhead hread]
            have hrest := ih rest.length (by omega) rest rfl
            omega

/-- The session does not go on. -/
def Over (sc : SessionScope) : Prop := ∀ w, sc.entry = some w → w.isTerminated = true

theorem closeSession_settles {sc : SessionScope} {w : WtSessionInfo} (hentry : sc.entry = some w)
    (hlive : w.isTerminated = false) (errorCode : Nat) (message : Bytes) :
    ∃ es, (sc.closeSession errorCode message).effects = sc.effects ++ es ∧
      (sc.closeSession errorCode message).Over ∧ ∀ record, settleAll record es = 0 := by
  rw [closeSession_live hentry hlive]
  refine ⟨_, rfl, ?_, fun record => rfl⟩
  intro w' hw'
  cases hw'
  rfl

/-- A handler settles nothing while the session goes on.  Every end of the session but the reset
for a malformed capsule gives the whole record back. -/
theorem react_settles {sc : SessionScope} {w : WtSessionInfo} (hentry : sc.entry = some w)
    (hwf : WtSessionInfo.Wf sc.isServer w) (hlive : w.isTerminated = false) (r : Reading) :
    ∃ es, (sc.react w r).effects = sc.effects ++ es ∧
      ((∃ w', (sc.react w r).entry = some w' ∧ w'.isTerminated = false ∧
          w'.capsuleBuffer = w.capsuleBuffer ∧ r ≠ .malformed ∧
          ∀ record, settleAll record es = record) ∨
        ((sc.react w r).Over ∧ r ≠ .malformed ∧ ∀ record, settleAll record es = 0) ∨
        ((sc.react w r).Over ∧ r = .malformed ∧ ∀ record, settleAll record es = record)) := by
  cases r with
  | malformed =>
      refine ⟨_, rfl, Or.inr (Or.inr ⟨?_, rfl, fun record => rfl⟩)⟩
      intro w' hw'
      simp only [react, resetStreamForMalformedCapsule, hentry, Option.map_some] at hw'
      cases hw'
      rfl
  | wtError message =>
      have hreported : (sc.pushEvent { type := .error, errorCode := kWtError,
                                       errorMessage := ascii message }).entry = some w := hentry
      rcases closeSession_settles hreported hlive kWtError (ascii message) with
        ⟨es, hes, hover, hsettle⟩
      refine ⟨_ :: es, hes.trans (List.append_assoc _ [_] es), Or.inr (Or.inl ⟨hover, by simp, ?_⟩)⟩
      exact fun record => hsettle record
  | received r =>
      have hreact : sc.react w (.received r) = sc.carryOut (w.judge sc.config sc.isServer r) :=
        receive_eq hentry r
      have hends : (w.judge sc.config sc.isServer r).Ends fun w' => w'.isTerminated = false :=
        WtSessionInfo.judge_ends hlive r fun _ _ _ _ _ => hlive
      rw [hreact]
      cases hjudge : w.judge sc.config sc.isServer r with
      | refuse w' event errorCode message =>
          rw [hjudge] at hends
          have hleft : { sc with
              entry := some w'
              effects := sc.effects ++ event.toList.map sc.eventEffect }.entry = some w' := rfl
          rcases closeSession_settles hleft hends.1 errorCode (ascii message) with
            ⟨es, hes, hover, hsettle⟩
          refine ⟨event.toList.map sc.eventEffect ++ es, hes.trans (List.append_assoc _ _ es),
            Or.inr (Or.inl ⟨hover, by simp, ?_⟩)⟩
          intro record
          rw [settleAll_append, hsettle]
      | close event =>
          refine ⟨_, List.append_assoc _ _ _, Or.inr (Or.inl ⟨?_, by simp, fun record => rfl⟩)⟩
          intro w' hw'
          cases hw'
      | accept before q after =>
          rcases WtSessionInfo.judge_answers hwf (Permits.all_admits sc.isServer w r) hjudge with
            ⟨ls, hpath, -⟩
          have hstage := (path_keeps hpath hwf).2
          refine ⟨_, rfl, Or.inl ⟨q.1, rfl, ?_, ?_, by simp, ?_⟩⟩
          · exact (congrArg (fun s => s.2.1) hstage).trans hlive
          · exact congrArg (fun s => s.2.2.2) hstage
          · refine settleAll_of_quiet ?_
            intro e he record
            simp only [List.mem_append, List.mem_map] at he
            rcases he with (⟨_, -, rfl⟩ | ⟨_, -, rfl⟩) | ⟨_, -, rfl⟩ <;> rfl

/-- The end of the established branch of `on_recv_data_callback`. -/
def giveBack (sc : SessionScope) : SessionScope :=
  match sc.entry with
  | none => sc
  | some w =>
      if !w.isTerminated ∧ w.capsuleBuffer.length > maxUnfinishedCapsuleBytes then
        sc.perform (.consumeRecvBytes (w.capsuleBuffer.length - maxUnfinishedCapsuleBytes))
      else sc

theorem recvEstablished_eq (sc : SessionScope) (data : Bytes) :
    sc.recvEstablished data = (sc.processCapsules data).giveBack := rfl

/-- A session that is over dispatches nothing and gives nothing back. -/
theorem loop_giveBack_over {sc : SessionScope} (h : sc.Over) :
    sc.loop.giveBack.effects = sc.effects ∧ sc.loop.giveBack.Over := by
  cases hentry : sc.entry with
  | none =>
      have hturn : sc.loopTurn = .stop sc := by simp only [loopTurn, hentry]
      have hself : sc.giveBack = sc := by simp only [giveBack, hentry]
      rw [loop_of_stop hturn, hself]
      exact ⟨rfl, h⟩
  | some w =>
      have hterm : w.isTerminated = true := h w hentry
      have hself : (sc.setEntry (w.withBuffer [])).giveBack = sc.setEntry (w.withBuffer []) := by
        simp [giveBack, setEntry]
      rw [loop_of_stop (loopTurn_terminated hentry hterm), hself]
      refine ⟨rfl, ?_⟩
      intro w' hw'
      cases hw'
      exact hterm

/-- What the loop leaves of a record: at most what the buffer retains beyond it, and exactly that
while the session goes on. -/
def Settles (sc : SessionScope) (w : WtSessionInfo) (sc' : SessionScope) : Prop :=
  ∃ es, sc'.effects = sc.effects ++ es ∧ ∀ record,
    settleAll record es ≤ record + retained sc.config w.capsuleBuffer - w.capsuleBuffer.length ∧
      (¬ sc'.Over → settleAll record es =
        record + retained sc.config w.capsuleBuffer - w.capsuleBuffer.length)

theorem settles_unfinished {sc : SessionScope} {w : WtSessionInfo} (hentry : sc.entry = some w)
    (hlive : w.isTerminated = false)
    (hhead : readHead sc.config w.capsuleBuffer = .unfinished) : sc.Settles w sc.giveBack := by
  unfold Settles
  rw [retained_unfinished hhead]
  by_cases hlong : w.capsuleBuffer.length > maxUnfinishedCapsuleBytes
  · have hback : sc.giveBack =
        sc.perform (.consumeRecvBytes (w.capsuleBuffer.length - maxUnfinishedCapsuleBytes)) := by
      unfold giveBack
      rw [hentry]
      exact if_pos ⟨by rw [hlive]; rfl, hlong⟩
    rw [hback]
    refine ⟨[.consumeRecvBytes (w.capsuleBuffer.length - maxUnfinishedCapsuleBytes)], rfl, ?_⟩
    intro record
    rw [settleAll_one]
    generalize maxUnfinishedCapsuleBytes = limit at hlong ⊢
    omega
  · have hback : sc.giveBack = sc := by
      unfold giveBack
      rw [hentry]
      exact if_neg fun h => hlong h.2
    rw [hback]
    refine ⟨[], (List.append_nil _).symm, ?_⟩
    intro record
    have hsettle : settleAll record [] = record := rfl
    rw [hsettle]
    generalize maxUnfinishedCapsuleBytes = limit at hlong ⊢
    omega

theorem settles_oversized {sc : SessionScope} {w : WtSessionInfo} (hentry : sc.entry = some w)
    (hlive : w.isTerminated = false) : sc.Settles w sc.closeOversized.giveBack := by
  have hreported : (sc.pushEvent { type := .error, errorCode := kWtError,
                                   errorMessage := ascii "capsule payload exceeds limit" }).entry =
      some w := hentry
  rcases closeSession_settles hreported hlive kWtError (ascii "capsule payload exceeds limit") with
    ⟨es, hes, -, hsettle⟩
  rcases closeOversized_entry hentry hlive with ⟨w', hw', hterm, -⟩
  have hover : sc.closeOversized.Over := by
    intro w'' hw''
    rw [hw'] at hw''
    cases hw''
    exact hterm
  have hback : sc.closeOversized.giveBack = sc.closeOversized := by
    simp [giveBack, hw', hterm]
  rw [hback]
  refine ⟨_ :: es, hes.trans (List.append_assoc _ [_] es), ?_⟩
  intro record
  refine ⟨?_, fun hlast => absurd hover hlast⟩
  change settleAll record es ≤ _
  rw [hsettle]
  exact Nat.zero_le _

/-- The loop and the give-back behind it settle the record. -/
theorem loop_settles {isServer : Bool} (sc : SessionScope) :
    Sound isServer sc → ∀ w, sc.entry = some w → w.isTerminated = false →
      sc.Settles w sc.loop.giveBack := by
  refine loop_induction (P := fun sc sc' => Sound isServer sc → ∀ w, sc.entry = some w →
    w.isTerminated = false → sc.Settles w sc'.giveBack) ?_ ?_ ?_ ?_ ?_ sc
  · intro sc hnone _ w hentry
    rw [hnone] at hentry
    cases hentry
  · intro sc w hentry hterm _ w' hentry' hlive
    rw [hentry] at hentry'
    cases hentry'
    rw [hterm] at hlive
    cases hlive
  · intro sc w hentry hlive hhead _ w' hentry' _
    rw [hentry] at hentry'
    cases hentry'
    exact settles_unfinished hentry hlive hhead
  · intro sc w hentry hlive hhead _ w' hentry' _
    rw [hentry] at hentry'
    cases hentry'
    exact settles_oversized hentry hlive
  · intro sc w type payload rest sc' hentry hlive hhead hsc' ih hsound w' hentry' _
    rw [hentry] at hentry'
    cases hentry'
    have hlt := length_lt_of_readHead hhead
    have hle := retained_le sc.config rest
    have hready : ((sc.setEntry (w.withBuffer rest)).perform (.dispatch type payload)).perform
        (.consumeRecvBytes (w.capsuleBuffer.length - rest.length)) |>.Sound isServer :=
      hsound.setEntry hentry rfl rfl rfl
    have hwf := hready.1.symm ▸ hready.2 _ rfl
    have hreact := hready.react rfl hlive (readPayload type payload)
    rcases react_settles rfl hwf hlive (readPayload type payload) with ⟨es, hes, hcases⟩
    have hdispatch : sc' = (((sc.setEntry (w.withBuffer rest)).perform (.dispatch type payload)
        ).perform (.consumeRecvBytes (w.capsuleBuffer.length - rest.length))).react
          (w.withBuffer rest) (readPayload type payload) := by
      rw [hsc', processCapsule, handleCapsule_eq rfl]
    rw [← hdispatch] at hes hcases hreact
    have heffects : sc'.effects = sc.effects ++ (.dispatch type payload ::
        .consumeRecvBytes (w.capsuleBuffer.length - rest.length) :: es) := by
      rw [hes]
      simp only [perform, setEntry, List.append_assoc, List.cons_append, List.nil_append]
    -- The dispatch takes the bytes of the capsule off the record, the handler the rest.
    have hsettle : ∀ (record : Nat) (es' : List Effect), settleAll record ((.dispatch type payload ::
        .consumeRecvBytes (w.capsuleBuffer.length - rest.length) :: es) ++ es') =
        settleAll (settleAll (record - (w.capsuleBuffer.length - rest.length)) es) es' := by
      intro record es'
      rw [settleAll_append]
      rfl
    rcases hcases with ⟨w₁, hw₁, hlive₁, hbuf₁, hread, hquiet⟩ | ⟨hover, hread, hzero⟩ |
      ⟨hover, hread, hquiet⟩
    · have hbuf : w₁.capsuleBuffer = rest := hbuf₁
      have hconfig : sc'.config = sc.config := by
        rw [hsc']
        exact congrArg (fun i => i.2.1)
          (@processCapsule_identity (sc.setEntry (w.withBuffer rest)) _ rfl type payload _)
      rcases ih hreact w₁ hw₁ hlive₁ with ⟨es', hes', hrest⟩
      unfold Settles
      have hboth : sc'.loop.giveBack.effects = sc.effects ++ ((.dispatch type payload ::
          .consumeRecvBytes (w.capsuleBuffer.length - rest.length) :: es) ++ es') := by
        rw [hes', heffects, List.append_assoc]
      refine ⟨_, hboth, ?_⟩
      intro record
      rw [retained_capsule hhead hread, hsettle, hquiet]
      have hone := hrest (record - (w.capsuleBuffer.length - rest.length))
      rw [hbuf, hconfig] at hone
      refine ⟨by omega, fun hlast => ?_⟩
      have heq := hone.2 hlast
      omega
    · rcases loop_giveBack_over hover with ⟨hstop, hlast⟩
      have hboth : sc'.loop.giveBack.effects = sc.effects ++ ((.dispatch type payload ::
          .consumeRecvBytes (w.capsuleBuffer.length - rest.length) :: es) ++ []) := by
        rw [hstop, heffects, List.append_nil]
      refine ⟨_, hboth, ?_⟩
      intro record
      rw [hsettle, hzero]
      exact ⟨Nat.zero_le _, fun hgo => absurd hlast hgo⟩
    · rcases loop_giveBack_over hover with ⟨hstop, hlast⟩
      have hboth : sc'.loop.giveBack.effects = sc.effects ++ ((.dispatch type payload ::
          .consumeRecvBytes (w.capsuleBuffer.length - rest.length) :: es) ++ []) := by
        rw [hstop, heffects, List.append_nil]
      refine ⟨_, hboth, ?_⟩
      intro record
      rw [hsettle, hquiet, retained_malformed hhead hread]
      refine ⟨?_, fun hgo => absurd hlast hgo⟩
      have hnil : settleAll (record - (w.capsuleBuffer.length - rest.length)) [] =
          record - (w.capsuleBuffer.length - rest.length) := rfl
      rw [hnil]
      omega

/-- What DATA leaves of the record of an established session. -/
theorem recvEstablished_settles {isServer : Bool} {sc : SessionScope} {w : WtSessionInfo}
    (hsound : Sound isServer sc) (hentry : sc.entry = some w) (hlive : w.isTerminated = false)
    (data : Bytes) : (sc.appendBuffer data).Settles (w.withBuffer (w.capsuleBuffer ++ data))
      (sc.recvEstablished data) := by
  have heq : sc.appendBuffer data = sc.setEntry (w.withBuffer (w.capsuleBuffer ++ data)) := by
    simp only [appendBuffer, hentry, Option.map_some, setEntry]
  have hsound' : Sound isServer (sc.appendBuffer data) := by
    rw [heq]
    exact hsound.setEntry hentry rfl rfl rfl
  rw [recvEstablished_eq, processCapsules_eq_loop]
  refine loop_settles _ hsound' _ ?_ hlive
  rw [heq]
  rfl

end SessionScope

namespace H2Session

open SessionScope (retained)

/-! ## The record behind a DATA frame -/

/-- What all sessions together hold behind `data` for `sessionId`. -/
def recordAfter (s : H2Session) (sessionId : Int) (data : Bytes) : Nat :=
  match s.wtSessions.find? sessionId with
  | none => s.unconsumedRecvBytes.total
  | some w =>
      if w.isTerminated ∨ data.length = 0 then s.unconsumedRecvBytes.total
      else if w.isEstablished then
        s.unconsumedRecvBytes.total - s.recordOf sessionId +
          (s.recordOf sessionId + retained s.config (w.capsuleBuffer ++ data) -
            w.capsuleBuffer.length)
      else if s.isServer ∧ w.capsuleBuffer.length + data.length > s.config.wtPreAcceptBufferLimit ∧
          0 < sessionId ∧ sessionId % 2 ≠ 0 then
        -- The 413 gives the record of the session back.
        s.unconsumedRecvBytes.total - s.recordOf sessionId
      else s.unconsumedRecvBytes.total + data.length

/-- `unconsumed_recv_bytes_[session_id] += datalen` -/
def recordData (s : H2Session) (sessionId : Int) (data : Bytes) : H2Session :=
  { s with
    connRecvWindowSize := s.connRecvWindowSize + data.length
    unconsumedRecvBytes := s.unconsumedRecvBytes.insert sessionId
      (s.recordOf sessionId + data.length) }

theorem recordData_total (s : H2Session) (sessionId : Int) (data : Bytes) :
    (s.recordData sessionId data).unconsumedRecvBytes.total =
        s.unconsumedRecvBytes.total + data.length ∧
      (s.recordData sessionId data).recordOf sessionId = s.recordOf sessionId + data.length := by
  have hinsert := s.unconsumedRecvBytes.total_insert sessionId (s.recordOf sessionId + data.length)
  have hself : (s.recordData sessionId data).recordOf sessionId =
      s.recordOf sessionId + data.length := by
    unfold recordData recordOf
    rw [OrdMap.find?_insert_self, Option.getD_some]
  refine ⟨?_, hself⟩
  have hold : (s.unconsumedRecvBytes.find? sessionId).getD 0 = s.recordOf sessionId := rfl
  rw [hold] at hinsert
  unfold recordData
  dsimp only
  omega

/-- The branches of `on_recv_data_callback` behind the lookup. -/
theorem onRecvData_eq {s : H2Session} {sessionId : Int} {w : WtSessionInfo}
    (hentry : s.wtSessions.find? sessionId = some w) (data : Bytes) (rv : Option NgError) :
    s.onRecvData sessionId data rv =
      if w.isTerminated then
        { s with connRecvWindowSize := s.connRecvWindowSize + data.length
          }.consumeConnectionRecvBytes data.length
      else if data.length = 0 then
        { s with connRecvWindowSize := s.connRecvWindowSize + data.length }
      else if w.isEstablished then
        (s.recordData sessionId data).inScope sessionId (·.recvEstablished data)
      else if !s.isServer then s.recordData sessionId data
      else if w.capsuleBuffer.length + data.length > s.config.wtPreAcceptBufferLimit then
        (s.recordData sessionId data).rejectInCallback sessionId 413 rv
      else (s.recordData sessionId data).inScope sessionId (·.bufferPreAccept data) := by
  unfold onRecvData
  dsimp only
  rw [hentry]
  rfl

/-- DATA on an established session. -/
theorem recvEstablished_total {s : H2Session} {sessionId : Int} {w : WtSessionInfo}
    (hentry : s.wtSessions.find? sessionId = some w) (hwf : WtSessionInfo.Wf s.isServer w)
    (hlive : w.isTerminated = false) (data : Bytes) :
    let s' := (s.recordData sessionId data).inScope sessionId (·.recvEstablished data)
    let record := s.unconsumedRecvBytes.total - s.recordOf sessionId +
      (s.recordOf sessionId + retained s.config (w.capsuleBuffer ++ data) - w.capsuleBuffer.length)
    s'.unconsumedRecvBytes.total ≤ record ∧
      (¬ (((s.recordData sessionId data).scope sessionId).recvEstablished data).Over →
        s'.unconsumedRecvBytes.total = record) := by
  dsimp only
  have hsound : ((s.recordData sessionId data).scope sessionId).Sound s.isServer := by
    refine ⟨rfl, ?_⟩
    intro w' hw'
    have heq : some w = some w' := hentry.symm.trans hw'
    cases heq
    exact hwf
  have hid : (((s.recordData sessionId data).scope sessionId).recvEstablished data).sessionId =
      sessionId := congrArg (fun i => i.2.2) (SessionScope.recvEstablished_identity _ data)
  have hrecord := inScope_record (s.recordData sessionId data) sessionId (·.recvEstablished data) hid
  rcases SessionScope.recvEstablished_settles hsound hentry hlive data with ⟨es, hes, hsettles⟩
  have heffects : (((s.recordData sessionId data).scope sessionId).recvEstablished data).effects =
      es := hes
  rcases recordData_total s sessionId data with ⟨htotal, hself⟩
  rw [heffects, htotal, hself] at hrecord
  have hle := s.unconsumedRecvBytes.find?_le_total sessionId
  have hown : (s.unconsumedRecvBytes.find? sessionId).getD 0 = s.recordOf sessionId := rfl
  rw [hown] at hle
  have hbound := hsettles (s.recordOf sessionId + data.length)
  have hlen : (w.withBuffer (w.capsuleBuffer ++ data)).capsuleBuffer.length =
      w.capsuleBuffer.length + data.length := List.length_append
  have hretained : retained (((s.recordData sessionId data).scope sessionId).appendBuffer
      data).config (w.withBuffer (w.capsuleBuffer ++ data)).capsuleBuffer =
      retained s.config (w.capsuleBuffer ++ data) := rfl
  rw [hlen, hretained] at hbound
  refine ⟨by omega, fun hgo => ?_⟩
  have heq := hbound.2 hgo
  omega

/-- The 413 behind a full pre-accept buffer. -/
theorem reject_total {s : H2Session} {sessionId : Int} {w : WtSessionInfo}
    (hserver : s.isServer = true) (data : Bytes) (rv : Option NgError)
    (hlong : w.capsuleBuffer.length + data.length > s.config.wtPreAcceptBufferLimit) :
    ((s.recordData sessionId data).rejectInCallback sessionId 413 rv).unconsumedRecvBytes.total ≤
      if w.capsuleBuffer.length + data.length > s.config.wtPreAcceptBufferLimit ∧ 0 < sessionId ∧
          sessionId % 2 ≠ 0 then
        s.unconsumedRecvBytes.total - s.recordOf sessionId
      else s.unconsumedRecvBytes.total + data.length := by
  rcases recordData_total s sessionId data with ⟨htotal, hself⟩
  by_cases hid : 0 < sessionId ∧ sessionId % 2 ≠ 0
  · rw [if_pos ⟨hlong, hid⟩]
    have hsent : (s.recordData sessionId data).rejectInCallback sessionId 413 rv =
        ((s.recordData sessionId data).callNg (.submitResponse sessionId (rejectHeaders 413))).inScope
          sessionId (reject 413 rv) := by
      have hrole : (s.recordData sessionId data).isServer = true := hserver
      unfold rejectInCallback rejectSession
      rw [if_neg (by simp [hrole]), if_neg (not_le.2 hid.1), if_neg hid.2, if_neg (by decide)]
    have hrecord := inScope_record
      ((s.recordData sessionId data).callNg (.submitResponse sessionId (rejectHeaders 413))) sessionId
      (reject 413 rv) (SessionScope.call_sessionId (.reject 413 rv) _)
    have hzero : ∀ record, settleAll record (reject 413 rv
        (((s.recordData sessionId data).callNg (.submitResponse sessionId (rejectHeaders 413))).scope
          sessionId)).effects = 0 := by
      intro record
      cases rv <;> rfl
    rw [hzero] at hrecord
    rw [hsent]
    have hsame : ((s.recordData sessionId data).callNg
        (.submitResponse sessionId (rejectHeaders 413))).recordOf sessionId =
        (s.recordData sessionId data).recordOf sessionId := rfl
    have hsame' : ((s.recordData sessionId data).callNg
        (.submitResponse sessionId (rejectHeaders 413))).unconsumedRecvBytes =
        (s.recordData sessionId data).unconsumedRecvBytes := rfl
    rw [hsame, hsame', hself, htotal] at hrecord
    omega
  · rw [if_neg fun h => hid h.2]
    have hignored : (s.recordData sessionId data).rejectInCallback sessionId 413 rv =
        s.recordData sessionId data := by
      have hrole : (s.recordData sessionId data).isServer = true := hserver
      unfold rejectInCallback rejectSession
      rw [if_neg (by simp [hrole])]
      by_cases hpos : sessionId ≤ 0
      · rw [if_pos hpos]
      · rw [if_neg hpos, if_pos (by_contra fun hodd => hid ⟨not_le.1 hpos, hodd⟩)]
    rw [hignored]
    exact le_of_eq htotal

/-- All sessions together hold no more behind a DATA frame than `recordAfter` says. -/
theorem onRecvData_total {s : H2Session} {sessionId : Int}
    (hwf : ∀ w, s.wtSessions.find? sessionId = some w → WtSessionInfo.Wf s.isServer w)
    (data : Bytes) (rv : Option NgError) :
    (s.onRecvData sessionId data rv).unconsumedRecvBytes.total ≤ s.recordAfter sessionId data := by
  rcases recordData_total s sessionId data with ⟨htotal, hself⟩
  cases hentry : s.wtSessions.find? sessionId with
  | none =>
      unfold onRecvData recordAfter
      dsimp only
      rw [hentry]
      dsimp only
      rw [consumeConnectionRecvBytes_unconsumed]
  | some w =>
      rw [onRecvData_eq hentry]
      unfold recordAfter
      rw [hentry]
      dsimp only
      cases hterm : w.isTerminated with
      | true =>
          simp only [if_true, true_or]
          rw [consumeConnectionRecvBytes_unconsumed]
      | false =>
          by_cases hempty : data.length = 0
          · simp only [hempty, Bool.false_eq_true, if_false, if_true, or_true, le_refl]
          · simp only [Bool.false_eq_true, if_false, hempty, or_self]
            cases hest : w.isEstablished with
            | true => exact (recvEstablished_total hentry (hwf w hentry) hterm data).1
            | false =>
                simp only [Bool.false_eq_true, if_false]
                cases hserver : s.isServer with
                | false =>
                    simp only [Bool.not_false, if_true, Bool.false_eq_true, false_and, if_false]
                    exact le_of_eq htotal
                | true =>
                    simp only [Bool.not_true, Bool.false_eq_true, if_false, true_and]
                    by_cases hlong : w.capsuleBuffer.length + data.length >
                        s.config.wtPreAcceptBufferLimit
                    · rw [if_pos hlong]
                      exact reject_total hserver data rv hlong
                    · rw [if_neg hlong, if_neg fun h => hlong h.1]
                      have hbuffered := inScope_record (s.recordData sessionId data) sessionId
                        (·.bufferPreAccept data) rfl
                      have hnone : settleAll ((s.recordData sessionId data).recordOf sessionId)
                          (((s.recordData sessionId data).scope sessionId).bufferPreAccept
                            data).effects = (s.recordData sessionId data).recordOf sessionId := rfl
                      rw [hnone, htotal] at hbuffered
                      omega

/-! ## The window -/

/-- The window has room for an input: DATA stays inside it with a byte to spare, or leaves no more
than the half of the window that `conn_consumed_size_` cannot hold back. -/
def RoomFor (s : H2Session) : Input → Prop
  | .recvData sessionId data _ =>
      s.connRecvWindowSize + data.length < connLocalWindowSize ∨
        (s.recordAfter sessionId data : Int) ≤ connLocalWindowSize - connLocalWindowSize / 2
  | _ => True

instance (s : H2Session) (input : Input) : Decidable (s.RoomFor input) := by
  cases input <;> unfold RoomFor <;> infer_instance

/-- Every input of a run has room. -/
def RoomAlong (s : H2Session) : List Input → Prop
  | [] => True
  | input :: rest => s.RoomFor input ∧ (s.step input).RoomAlong rest

theorem run_append (s : H2Session) (inputs more : List Input) :
    s.run (inputs ++ more) = (s.run inputs).run more := List.foldl_append

variable {isServer : Bool} {config : H2SessionConfig} {s : H2Session}

/-- In a run every session that DATA arrives for is well formed. -/
theorem run_wf_role (h : create isServer config = .ok s) (past : List Input) (sessionId : Int)
    (w : WtSessionInfo) (hentry : (s.run past).wtSessions.find? sessionId = some w) :
    WtSessionInfo.Wf (s.run past).isServer w := by
  rw [(run_calls s sessionId past).role, (create_view h sessionId).2.1]
  exact run_wf h past hentry

/-- An input that has room leaves the window open. -/
theorem step_stays_open (h : create isServer config = .ok s) (past : List Input) {input : Input}
    (hroom : (s.run past).RoomFor input)
    (hopen : (s.run past).connRecvWindowSize < connLocalWindowSize) :
    ((s.run past).step input).connRecvWindowSize < connLocalWindowSize := by
  have hcredit := (credit_create h).run past
  have hle := hcredit.window_step input
  have hlocal : connLocalWindowSize = 65535 := rfl
  have hhalf : connLocalWindowSize / 2 = 32767 := rfl
  rw [hhalf] at hle
  cases input with
  | recvData sessionId data rv =>
      rcases hroom with hfits | hrecord
      · have hbytes : Input.dataBytes (.recvData sessionId data rv) = data.length := rfl
        rw [hbytes] at hle
        omega
      · -- What waits to be announced is below half the window, the rest is the record.
        have hafter := hcredit.step (.recvData sessionId data rv)
        have htotal := onRecvData_total (run_wf_role h past sessionId) data rv
        have hwindow := hafter.window
        have hconsumed := hafter.consumed_lt
        rw [hhalf] at hconsumed hrecord
        have hstep : (s.run past).step (.recvData sessionId data rv) =
            (s.run past).onRecvData sessionId data rv := rfl
        rw [hstep] at hwindow hconsumed ⊢
        omega
  | _ =>
      dsimp only [Input.dataBytes] at hle
      omega

/-- Without room the window closes: DATA of a peer that keeps to the window, for an established
session that goes on, uses the window up. -/
theorem step_fills_window (h : create isServer config = .ok s) (past : List Input)
    {sessionId : Int} {data : Bytes} {rv : Option NgError} {w w' : WtSessionInfo}
    (hfits : (s.run past).connRecvWindowSize + data.length ≤ connLocalWindowSize)
    (hroom : ¬ (s.run past).RoomFor (.recvData sessionId data rv))
    (hentry : (s.run past).wtSessions.find? sessionId = some w) (hest : w.isEstablished = true)
    (hlive : w.isTerminated = false) (hdata : data.length ≠ 0)
    (hentry' : ((s.run past).step (.recvData sessionId data rv)).wtSessions.find? sessionId =
      some w') (hlive' : w'.isTerminated = false) :
    ((s.run past).step (.recvData sessionId data rv)).connRecvWindowSize = connLocalWindowSize := by
  have hcredit := (credit_create h).run past
  have hle := hcredit.window_step (.recvData sessionId data rv)
  have hwindow := (hcredit.step (.recvData sessionId data rv)).window
  have hnonneg := (hcredit.step (.recvData sessionId data rv)).consumed_nonneg
  have hstep : (s.run past).step (.recvData sessionId data rv) =
      ((s.run past).recordData sessionId data).inScope sessionId (·.recvEstablished data) := by
    have heq := onRecvData_eq hentry data rv
    rw [if_neg (by simp [hlive]), if_neg hdata, if_pos hest] at heq
    exact heq
  rw [hstep] at hentry' hle hwindow hnonneg ⊢
  have hview := view_call_self ((s.run past).recordData sessionId data) sessionId
    (.recvEstablished data)
  have hlast : (((((s.run past).recordData sessionId data).scope sessionId).recvEstablished
      data).entry) = some w' := (congrArg View.entry hview).symm.trans hentry'
  have hgo : ¬ ((((s.run past).recordData sessionId data).scope sessionId).recvEstablished
      data).Over := by
    intro hover
    rw [hover w' hlast] at hlive'
    cases hlive'
  have htotal := (recvEstablished_total hentry (run_wf_role h past sessionId w hentry) hlive
    data).2 hgo
  have hrecord : (s.run past).recordAfter sessionId data =
      (s.run past).unconsumedRecvBytes.total - (s.run past).recordOf sessionId +
        ((s.run past).recordOf sessionId +
          retained (s.run past).config (w.capsuleBuffer ++ data) - w.capsuleBuffer.length) := by
    unfold recordAfter
    rw [hentry]
    dsimp only
    rw [if_neg (by simp [hlive, hdata]), if_pos hest]
  have hbytes : Input.dataBytes (.recvData sessionId data rv) = data.length := rfl
  have hhalf : connLocalWindowSize / 2 = 32767 := rfl
  have hlocal : connLocalWindowSize = 65535 := rfl
  unfold RoomFor at hroom
  push Not at hroom
  rw [hrecord, ← htotal, hhalf, hlocal] at hroom
  rw [hbytes, hhalf] at hle
  rw [hlocal] at hfits ⊢
  omega

/-- The connection window stays open along every run whose inputs have room. -/
theorem window_stays_open (h : create isServer config = .ok s) (inputs : List Input)
    (hroom : s.RoomAlong inputs) :
    ∀ before, before <+: inputs → (s.run before).connRecvWindowSize < connLocalWindowSize := by
  have hstart : (s.run []).connRecvWindowSize < connLocalWindowSize := by
    have hannounced := (credit_create h).announced
    have hself : s.run [] = s := rfl
    have hlocal : connLocalWindowSize = 65535 := rfl
    rw [hself]
    omega
  have hall : ∀ past, (s.run past).RoomAlong inputs →
      (s.run past).connRecvWindowSize < connLocalWindowSize →
      ∀ before, before <+: inputs →
        (s.run (past ++ before)).connRecvWindowSize < connLocalWindowSize := by
    clear hroom hstart
    induction inputs with
    | nil =>
        intro past _ hopen before hbefore
        rw [List.prefix_nil.1 hbefore, List.append_nil]
        exact hopen
    | cons input rest ih =>
        intro past hroom hopen before hbefore
        cases before with
        | nil =>
            rw [List.append_nil]
            exact hopen
        | cons first before =>
            rcases List.cons_prefix_cons.1 hbefore with ⟨rfl, hrest⟩
            have hone := step_stays_open h past hroom.1 hopen
            have hrun : s.run (past ++ [first]) = (s.run past).step first := by
              rw [run_append]
              rfl
            have hnext := ih (past ++ [first]) (by rw [hrun]; exact hroom.2)
              (by rw [hrun]; exact hone) before hrest
            rwa [List.append_assoc, List.singleton_append] at hnext
  exact hall [] hroom hstart

/-! ## Two sessions fill the window -/

/-- DATA that leaves a capsule unfinished below the threshold is kept whole. -/
theorem onRecvData_unfinished {sessionId : Int} {w : WtSessionInfo} {data : Bytes}
    (hentry : s.wtSessions.find? sessionId = some w) (hlive : w.isTerminated = false)
    (hest : w.isEstablished = true) (hdata : data.length ≠ 0)
    (hhead : SessionScope.readHead s.config (w.capsuleBuffer ++ data) = .unfinished)
    (hshort : (w.capsuleBuffer ++ data).length ≤ maxUnfinishedCapsuleBytes) (rv : Option NgError) :
    (s.onRecvData sessionId data rv).connRecvWindowSize = s.connRecvWindowSize + data.length ∧
      (s.onRecvData sessionId data rv).wtSessions =
        s.wtSessions.insert sessionId (w.withBuffer (w.capsuleBuffer ++ data)) ∧
      (s.onRecvData sessionId data rv).config = s.config := by
  have hscope : ((s.recordData sessionId data).scope sessionId).recvEstablished data =
      ((s.recordData sessionId data).scope sessionId).setEntry
        (w.withBuffer (w.capsuleBuffer ++ data)) := by
    have hscoped : ((s.recordData sessionId data).scope sessionId).entry = some w := hentry
    have happ : ((s.recordData sessionId data).scope sessionId).appendBuffer data =
        ((s.recordData sessionId data).scope sessionId).setEntry
          (w.withBuffer (w.capsuleBuffer ++ data)) := by
      simp only [SessionScope.appendBuffer, hscoped, Option.map_some, SessionScope.setEntry]
    have hturn : (((s.recordData sessionId data).scope sessionId).appendBuffer data).loopTurn =
        .stop (((s.recordData sessionId data).scope sessionId).appendBuffer data) := by
      rw [happ, SessionScope.loopTurn_live (w := w.withBuffer (w.capsuleBuffer ++ data)) rfl hlive]
      have hsame : SessionScope.readHead (((s.recordData sessionId data).scope sessionId).setEntry
          (w.withBuffer (w.capsuleBuffer ++ data))).config
          (w.withBuffer (w.capsuleBuffer ++ data)).capsuleBuffer = .unfinished := hhead
      rw [hsame]
    rw [SessionScope.recvEstablished_eq, SessionScope.processCapsules_eq_loop,
      SessionScope.loop_of_stop hturn, happ]
    unfold SessionScope.giveBack
    exact if_neg fun hlong => absurd hlong.2 (not_lt.2 hshort)
  rw [onRecvData_eq hentry, if_neg (by simp [hlive]), if_neg hdata, if_pos hest]
  unfold inScope
  dsimp only
  rw [hscope]
  exact ⟨rfl, rfl, rfl⟩

/-- The header of a DATAGRAM capsule with 65535 bytes of payload. -/
def datagramHeader : Bytes := [0x00, 0x80, 0x00, 0xff, 0xff]

/-- It is not finished before all of them are there. -/
theorem readHead_datagram {part : Bytes} (h : part.length < 65535) :
    SessionScope.readHead {} (datagramHeader ++ part) = .unfinished := by
  have htype : decodeQuicVarint (datagramHeader ++ part) = some (0, 1) :=
    decodeQuicVarint_append part (by decide)
  have hdrop : (datagramHeader ++ part).drop 1 = [0x80, 0x00, 0xff, 0xff] ++ part := rfl
  have hlength : decodeQuicVarint ((datagramHeader ++ part).drop 1) = some (65535, 4) := by
    rw [hdrop]
    exact decodeQuicVarint_append part (by decide)
  unfold SessionScope.readHead
  rw [htype]
  dsimp only
  rw [hlength]
  dsimp only
  have hlen : (datagramHeader ++ part).length = part.length + 5 := by
    rw [List.length_append, Nat.add_comm]
    rfl
  rw [if_neg (by decide), hlen, if_pos (by omega)]

/-- DATA that goes on with the capsule. -/
theorem onRecvData_datagram {sessionId : Int} {w : WtSessionInfo} (data part : Bytes)
    (hconfig : s.config = {}) (hentry : s.wtSessions.find? sessionId = some w)
    (hlive : w.isTerminated = false) (hest : w.isEstablished = true) (hdata : data.length ≠ 0)
    (hpart : w.capsuleBuffer ++ data = datagramHeader ++ part) (hshort : part.length ≤ 32763) :
    (s.step (.recvData sessionId data none)).connRecvWindowSize =
        s.connRecvWindowSize + data.length ∧
      (s.step (.recvData sessionId data none)).wtSessions =
        s.wtSessions.insert sessionId (w.withBuffer (datagramHeader ++ part)) ∧
      (s.step (.recvData sessionId data none)).config = {} := by
  have hlen : (datagramHeader ++ part).length ≤ maxUnfinishedCapsuleBytes := by
    have hlimit : maxUnfinishedCapsuleBytes = 32768 := rfl
    have hheader : datagramHeader.length = 5 := rfl
    rw [List.length_append, hlimit, hheader]
    omega
  have hstep := onRecvData_unfinished hentry hlive hest hdata
    (by rw [hpart, hconfig]; exact readHead_datagram (by omega)) (by rw [hpart]; exact hlen) none
  rw [hpart, hconfig] at hstep
  exact hstep

/-- Two DATA frames with the head of the capsule. -/
def halfDatagram (sessionId : Int) (size : Nat) : List Input :=
  [.recvData sessionId (datagramHeader ++ List.replicate 16379 0) none,
    .recvData sessionId (List.replicate size 0) none]

theorem run_halfDatagram {sessionId : Int} {w : WtSessionInfo} (size : Nat)
    (hconfig : s.config = {}) (hentry : s.wtSessions.find? sessionId = some w)
    (hlive : w.isTerminated = false) (hest : w.isEstablished = true) (hbuf : w.capsuleBuffer = [])
    (hpos : 0 < size) (hsize : size ≤ 16384) :
    (s.run (halfDatagram sessionId size)).connRecvWindowSize =
        s.connRecvWindowSize + 16384 + size ∧
      (∀ streamId, streamId ≠ sessionId →
        (s.run (halfDatagram sessionId size)).wtSessions.find? streamId =
          s.wtSessions.find? streamId) ∧
      (s.run (halfDatagram sessionId size)).config = {} := by
  have hlen : (datagramHeader ++ List.replicate 16379 0).length = 16384 := by
    rw [List.length_append, List.length_replicate]
    rfl
  rcases onRecvData_datagram _ (List.replicate 16379 0) hconfig hentry hlive hest
    (by rw [hlen]; decide) (by rw [hbuf, List.nil_append]) (by rw [List.length_replicate]; decide)
    with ⟨hwin₁, hmap₁, hconf₁⟩
  have hentry₁ : (s.step (.recvData sessionId (datagramHeader ++ List.replicate 16379 0)
      none)).wtSessions.find? sessionId =
      some (w.withBuffer (datagramHeader ++ List.replicate 16379 0)) := by
    rw [hmap₁]
    exact OrdMap.find?_insert_self _ _ _
  rcases onRecvData_datagram (List.replicate size 0)
    (List.replicate (16379 + size) 0) hconf₁ hentry₁ hlive hest
    (by rw [List.length_replicate]; omega)
    (by
      rw [WtSessionInfo.withBuffer_capsuleBuffer, List.append_assoc,
        List.replicate_append_replicate])
    (by rw [List.length_replicate]; omega) with ⟨hwin₂, hmap₂, hconf₂⟩
  have hrun : s.run (halfDatagram sessionId size) =
      (s.step (.recvData sessionId (datagramHeader ++ List.replicate 16379 0) none)).step
        (.recvData sessionId (List.replicate size 0) none) := rfl
  rw [hrun]
  refine ⟨?_, ?_, hconf₂⟩
  · rw [hwin₂, hwin₁, hlen, List.length_replicate]
    rfl
  · intro streamId hne
    rw [hmap₂, hmap₁, OrdMap.find?_insert_ne _ _ hne, OrdMap.find?_insert_ne _ _ hne]

/-- Two sessions that receive half of a DATAGRAM capsule each. -/
def halfDatagrams : List Input :=
  openSession 1 ++ openSession 3 ++ halfDatagram 1 16384 ++ halfDatagram 3 16383

/-- The bytes of each session are the head of one capsule within the default limit, and after the
last DATA frame the peer has no connection window left to send the rest of either. -/
theorem half_datagrams_fill_window :
    create true {} = .ok { isServer := true, config := {} } ∧
      datagramHeader ++ List.replicate 32763 0 <+: encodeCapsule 0 (List.replicate 65535 0) ∧
      ¬ (run { isServer := true, config := {} } halfDatagrams).connRecvWindowSize <
        connLocalWindowSize := by
  refine ⟨rfl, ?_, ?_⟩
  · have hencoded : encodeCapsule 0 (List.replicate 65535 0) =
        datagramHeader ++ List.replicate 65535 0 := by
      unfold encodeCapsule
      rw [List.length_replicate]
      rfl
    rw [hencoded]
    refine (List.prefix_append_right_inj _).2 ⟨List.replicate 32772 0, ?_⟩
    rw [List.replicate_append_replicate]
  · generalize hopened : run { isServer := true, config := {} } (openSession 1 ++ openSession 3) = s
    have hfirst : (s.wtSessions.find? 1).map
        (fun w => (w.isTerminated, w.isEstablished, w.capsuleBuffer)) = some (false, true, []) := by
      rw [← hopened]
      decide +kernel
    have hsecond : (s.wtSessions.find? 3).map
        (fun w => (w.isTerminated, w.isEstablished, w.capsuleBuffer)) = some (false, true, []) := by
      rw [← hopened]
      decide +kernel
    have hwindow : s.connRecvWindowSize = 0 := by
      rw [← hopened]
      decide +kernel
    have hconfig : s.config = {} := by
      rw [← hopened]
      decide +kernel
    rcases Option.map_eq_some_iff.1 hfirst with ⟨w, hw, hstage⟩
    rcases Option.map_eq_some_iff.1 hsecond with ⟨w', hw', hstage'⟩
    simp only [Prod.mk.injEq] at hstage hstage'
    rcases hstage with ⟨hlive, hest, hbuf⟩
    rcases hstage' with ⟨hlive', hest', hbuf'⟩
    -- The first session takes in 32768 bytes, the second 32767.
    rcases run_halfDatagram 16384 hconfig hw hlive hest hbuf (by decide) (by decide) with
      ⟨hwin, hother, hconfig'⟩
    have hw₃ : (s.run (halfDatagram 1 16384)).wtSessions.find? 3 = some w' :=
      (hother 3 (by decide)).trans hw'
    rcases run_halfDatagram 16383 hconfig' hw₃ hlive' hest' hbuf' (by decide)
      (by decide) with ⟨hwin', -, -⟩
    unfold halfDatagrams
    rw [run_append, run_append, hopened, hwin', hwin, hwindow]
    decide

/-- One session with an unfinished capsule has room. -/
theorem window_stays_open_one_datagram :
    create true {} = .ok { isServer := true, config := {} } ∧
      RoomAlong { isServer := true, config := {} } (openSession 1 ++ [.recvData 1 [0, 5, 1] none]) ∧
      (run { isServer := true, config := {} } (openSession 1 ++ [.recvData 1 [0, 5, 1] none])
        ).connRecvWindowSize < connLocalWindowSize := by
  have hcreate : create true {} = .ok { isServer := true, config := {} } := rfl
  have hroom : RoomAlong { isServer := true, config := {} }
      (openSession 1 ++ [.recvData 1 [0, 5, 1] none]) := by
    refine ⟨trivial, trivial, trivial, trivial, trivial, Or.inl ?_, trivial⟩
    decide +kernel
  exact ⟨hcreate, hroom, window_stays_open hcreate _ hroom _ (List.prefix_refl _)⟩

end H2Session

end H2
end WebTransport
