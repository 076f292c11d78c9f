import WebTransport.H2.Bounds
import WebTransport.H2.Unfinished

/-!
# H2.Remembered — the ids and limits that a peer names

`received_max_stream_data_by_id`, `received_stop_sending_stream_ids` and `released_stream_ids` are
keyed by ids that the peer chooses, so they are kept below a fixed number of entries.  Up to there
nothing is forgotten.

* `Capped`          : the three collections are within the bound;
* `Recalls`         : what is recorded stays recorded;
* `TakesAt`         : a place of a run where a capsule is taken out of the buffer;
* `holds_at`        : what a capsule leaves holds at every later place of the session;
* `memory_bounded`  : what a run stores, and what is detected while there is room.
-/

namespace WebTransport
namespace H2

open Bindings

/-! ## The three collections -/

namespace WtSessionInfo

/-- The collections that are keyed by stream ids of the peer. -/
structure Memory where
  credits : OrdMap Nat Nat
  stops : Finset Nat
  released : Finset Nat

def memory (w : WtSessionInfo) : Memory where
  credits := w.receivedMaxStreamDataById
  stops := w.receivedStopSendingStreamIds
  released := w.releasedStreamIds

/-- None of them has more entries than allowed. -/
structure Capped (m : Memory) : Prop where
  credits : m.credits.size ≤ kMaxReceivedMapEntries
  stops : m.stops.card ≤ kMaxReceivedMapEntries
  released : m.released.card ≤ kMaxReceivedMapEntries

/-- What is recorded in `m` is recorded in `m'`, and a limit for a stream has not fallen. -/
structure Recalls (m m' : Memory) : Prop where
  stops : m.stops ⊆ m'.stops
  size : m.credits.size ≤ m'.credits.size
  credits : ∀ id value, m.credits.find? id = some value →
    ∃ value', m'.credits.find? id = some value' ∧ value ≤ value'

theorem Recalls.refl (m : Memory) : Recalls m m :=
  ⟨Finset.Subset.refl _, le_refl _, fun _ value h => ⟨value, h, le_refl _⟩⟩

/-- Recording a value not below the last one. -/
theorem recalls_insert {m : OrdMap Nat Nat} {id value : Nat} (stops released : Finset Nat)
    (hrise : ∀ previous, m.find? id = some previous → previous ≤ value) :
    Recalls ⟨m, stops, released⟩ ⟨m.insert id value, stops, released⟩ := by
  refine ⟨Finset.Subset.refl _, ?_, ?_⟩
  · dsimp only
    rw [OrdMap.size_insert]
    split_ifs
    · exact le_refl _
    · exact Nat.le_succ _
  · intro id' value' hfind
    dsimp only at hfind ⊢
    rw [OrdMap.find?_insert]
    split_ifs with heq
    · subst heq
      exact ⟨value, rfl, hrise value' hfind⟩
    · exact ⟨value', hfind, le_refl _⟩

variable {permits : Permits} {config : H2SessionConfig} {isServer : Bool} {w w' : WtSessionInfo}
  {l : Label}

/-- The three ways in which a change touches the collections. -/
inductive Recording (w : WtSessionInfo) : Label → Memory → Prop
  | nothing {l : Label}
      (hstop : ∀ id code events, l ≠ .received (.stopSending id code) events)
      (hcredit : ∀ id value events, l ≠ .received (.maxStreamData id value) events) :
      Recording w l w.memory
  | release (streamId : Nat) (info : WtStreamInfo) :
      Recording w .internal (w.dropStream streamId info).memory
  | stop (streamId errorCode : Nat) (events : List H2Event) :
      Recording w (.received (.stopSending streamId errorCode) events)
        (w.recordStopSending streamId).memory
  | credit (streamId maxData : Nat)
      (hrise : ∀ previous, w.receivedMaxStreamDataById.find? streamId = some previous →
        previous ≤ maxData) :
      Recording w (.received (.maxStreamData streamId maxData) [])
        (w.recordMaxStreamData streamId maxData).memory

theorem Trans.recording (h : Trans permits config isServer w l w') : Recording w l w'.memory := by
  have hprevious : ∀ {streamId maxData : Nat},
      (∀ previous, SessionScope.previousMaxStreamData isServer w streamId = some previous →
        previous ≤ maxData) →
      ∀ previous, w.receivedMaxStreamDataById.find? streamId = some previous →
        previous ≤ maxData := by
    intro streamId maxData hrise previous hfind
    refine hrise previous ?_
    unfold SessionScope.previousMaxStreamData
    rw [hfind]
  cases h with
  | release hfind hreleasable => exact .release _ _
  | recvStop hreceivable hfirst hfind => exact .stop _ _ _
  | recvStopUnknown hreceivable hfirst hfind => exact .stop _ _ _
  | recvMaxStreamData hreceivable hstop hrise hfind =>
      split_ifs
      · exact .credit _ _ (hprevious hrise)
      · exact .credit _ _ (hprevious hrise)
  | recvMaxStreamDataUnknown hreceivable hstop hrise hfind => exact .credit _ _ (hprevious hrise)
  | recvMaxData hrise => split_ifs <;> exact .nothing (by simp) (by simp)
  | recvMaxStreamsBidi hle hrise => split_ifs <;> exact .nothing (by simp) (by simp)
  | recvMaxStreamsUni hle hrise => split_ifs <;> exact .nothing (by simp) (by simp)
  | recvNothing hnothing =>
      refine .nothing ?_ ?_
      · rintro id code events heq
        cases heq
        exact hnothing
      · rintro id value events heq
        cases heq
        exact hnothing
  | _ => exact .nothing (by simp) (by simp)

theorem Recording.capped {m : Memory} (h : Recording w l m) (hw : Capped w.memory) : Capped m := by
  -- An entry is only added to a collection that has room for it.
  have hinsert : ∀ {s : Finset Nat} {id : Nat}, s.card < kMaxReceivedMapEntries →
      (insert id s).card ≤ kMaxReceivedMapEntries :=
    fun hroom => le_trans (Finset.card_insert_le _ _) hroom
  cases h with
  | nothing => exact hw
  | release streamId info =>
      refine ⟨hw.credits, hw.stops, ?_⟩
      simp only [memory, dropStream]
      split_ifs with hroom
      · exact hinsert hroom.2
      · exact hw.released
  | stop streamId errorCode events =>
      refine ⟨hw.credits, ?_, hw.released⟩
      simp only [memory, recordStopSending]
      split_ifs with hroom
      · exact hinsert hroom
      · exact hw.stops
  | credit streamId maxData hrise =>
      refine ⟨?_, hw.stops, hw.released⟩
      simp only [memory, recordMaxStreamData]
      by_cases hknown : (w.receivedMaxStreamDataById.find? streamId).isSome = true
      · rw [if_pos (Or.inl hknown), OrdMap.size_insert, if_pos hknown]
        exact hw.credits
      · by_cases hroom : w.receivedMaxStreamDataById.size < kMaxReceivedMapEntries
        · rw [if_pos (Or.inr hroom), OrdMap.size_insert, if_neg hknown]
          exact hroom
        · rw [if_neg (not_or.2 ⟨hknown, hroom⟩)]
          exact hw.credits

theorem Recording.recalls {m : Memory} (h : Recording w l m) : Recalls w.memory m := by
  cases h with
  | nothing => exact .refl _
  | release streamId info =>
      exact ⟨Finset.Subset.refl _, le_refl _, fun _ value hfind => ⟨value, hfind, le_refl _⟩⟩
  | stop streamId errorCode events =>
      refine ⟨?_, le_refl _, fun _ value hfind => ⟨value, hfind, le_refl _⟩⟩
      simp only [memory, recordStopSending]
      split_ifs
      · exact Finset.subset_insert _ _
      · exact Finset.Subset.refl _
  | credit streamId maxData hrise =>
      simp only [memory, recordMaxStreamData]
      split_ifs
      · exact recalls_insert _ _ hrise
      · exact .refl _

/-- A property of the collections is kept along a run when the changes keep it. -/
theorem keeping_of_memory {P : Memory → Prop}
    (htrans : ∀ {w w' : WtSessionInfo} {l : Label}, Trans .all config isServer w l w' → P w.memory →
      P w'.memory) : Keeping config isServer (fun _ _ => True) fun w => P w.memory where
  bookkeeping w w' hcore hw := by
    have hsame : w'.memory = w.memory := (congrArg memory hcore :)
    rw [hsame]
    exact hw
  limits := by
    rintro w ⟨u, bl, br⟩ hw
    cases u <;> cases bl <;> cases br <;> exact hw
  api {w} op hop _ hwf hw := by
    have hafter : ∃ ls, Path (Trans .all config isServer) w ls (w.after config isServer op) ∧
        Label.receivedOf ls = [] := after_path hwf op
    rcases hafter with ⟨ls, hpath, -⟩
    exact hpath.invariant (fun w => P w.memory) (fun ha hab => htrans hab ha) hw
  received {w} r _ _ hwf hw := by
    refine judge_leaves hwf ?_ hw fun streamId _ => hw
    intro events ls w' hpath _
    exact hpath.invariant (fun w => P w.memory) (fun ha hab => htrans hab ha) hw

/-! ### What a capsule leaves in them -/

/-- The id has been named by a WT_STOP_SENDING, or there is no room left for it. -/
def StopRecorded (isServer : Bool) (id : Nat) (m : Memory) : Prop :=
  isReceivableFlowCapsule id isServer = true ∧
    (id ∈ m.stops ∨ kMaxReceivedMapEntries ≤ m.stops.card)

/-- A WT_MAX_STREAM_DATA not below the value has been received for the id, or there is no room left
for it. -/
def CreditRecorded (isServer : Bool) (id value : Nat) (m : Memory) : Prop :=
  isReceivableFlowCapsule id isServer = true ∧
    ((∃ value', m.credits.find? id = some value' ∧ value ≤ value') ∨
      kMaxReceivedMapEntries ≤ m.credits.size)

theorem StopRecorded.recalls {m m' : Memory} {id : Nat} (h : StopRecorded isServer id m)
    (hrecalls : Recalls m m') : StopRecorded isServer id m' := by
  refine ⟨h.1, ?_⟩
  rcases h.2 with hmem | hfull
  · exact Or.inl (hrecalls.stops hmem)
  · exact Or.inr (le_trans hfull (Finset.card_le_card hrecalls.stops))

theorem CreditRecorded.recalls {m m' : Memory} {id value : Nat} (h : CreditRecorded isServer id value m)
    (hrecalls : Recalls m m') : CreditRecorded isServer id value m' := by
  refine ⟨h.1, ?_⟩
  rcases h.2 with ⟨value', hfind, hle⟩ | hfull
  · rcases hrecalls.credits id value' hfind with ⟨value'', hfind', hle'⟩
    exact Or.inl ⟨value'', hfind', le_trans hle hle'⟩
  · exact Or.inr (le_trans hfull hrecalls.size)

/-- Capsules about the sending half of a stream are only accepted for streams that have one here. -/
theorem Trans.receivable {r : Received} {events : List H2Event} {id : Nat}
    (h : Trans permits config isServer w (.received r events) w')
    (hr : (∃ errorCode, r = .stopSending id errorCode) ∨ ∃ value, r = .maxStreamData id value) :
    isReceivableFlowCapsule id isServer = true := by
  cases h with
  | recvStop hreceivable hfirst hfind =>
      rcases hr with ⟨_, heq⟩ | ⟨_, heq⟩ <;> cases heq
      exact hreceivable
  | recvStopUnknown hreceivable hfirst hfind =>
      rcases hr with ⟨_, heq⟩ | ⟨_, heq⟩ <;> cases heq
      exact hreceivable
  | recvMaxStreamData hreceivable hstop hrise hfind =>
      rcases hr with ⟨_, heq⟩ | ⟨_, heq⟩ <;> cases heq
      exact hreceivable
  | recvMaxStreamDataUnknown hreceivable hstop hrise hfind =>
      rcases hr with ⟨_, heq⟩ | ⟨_, heq⟩ <;> cases heq
      exact hreceivable
  | recvNothing hnothing => rcases hr with ⟨_, rfl⟩ | ⟨_, rfl⟩ <;> cases hnothing
  | _ => rcases hr with ⟨_, heq⟩ | ⟨_, heq⟩ <;> cases heq

theorem Trans.stopped {id errorCode : Nat} {events : List H2Event}
    (h : Trans permits config isServer w (.received (.stopSending id errorCode) events) w') :
    StopRecorded isServer id w'.memory := by
  refine ⟨h.receivable (Or.inl ⟨errorCode, rfl⟩), ?_⟩
  have hrecording := h.recording
  generalize w'.memory = m at hrecording
  cases hrecording with
  | nothing hstop hcredit => exact absurd rfl (hstop id errorCode events)
  | stop =>
      simp only [memory, recordStopSending]
      split_ifs with hroom
      · exact Or.inl (Finset.mem_insert_self _ _)
      · exact Or.inr (not_lt.1 hroom)

theorem Trans.credited {id value : Nat} {events : List H2Event}
    (h : Trans permits config isServer w (.received (.maxStreamData id value) events) w') :
    CreditRecorded isServer id value w'.memory := by
  refine ⟨h.receivable (Or.inr ⟨value, rfl⟩), ?_⟩
  have hrecording := h.recording
  generalize w'.memory = m at hrecording
  cases hrecording with
  | nothing hstop hcredit => exact absurd rfl (hcredit id value events)
  | credit _ _ hrise =>
      simp only [memory, recordMaxStreamData]
      split_ifs with hroom
      · exact Or.inl ⟨value, OrdMap.find?_insert_self _ _ _, le_refl _⟩
      · exact Or.inr (not_lt.1 fun hlt => hroom (Or.inr hlt))

end WtSessionInfo

/-! ## Places of a run -/

namespace SessionScope

variable {sc sc' : SessionScope} {w : WtSessionInfo} {m k n : Nat}

theorem afterTurns_add (h : afterTurns m sc = some sc') : afterTurns (m + k) sc = afterTurns k sc' := by
  induction m generalizing sc with
  | zero =>
      cases h
      rw [Nat.zero_add]
  | succ m ih =>
      rw [Nat.succ_add]
      simp only [afterTurns] at h ⊢
      cases hturn : sc.loopTurn with
      | stop last =>
          rw [hturn] at h
          cases h
      | again next =>
          rw [hturn] at h
          exact ih h

theorem loop_of_afterTurns (h : afterTurns n sc = some sc') : sc.loop = sc'.loop := by
  induction n generalizing sc with
  | zero =>
      cases h
      rfl
  | succ n ih =>
      simp only [afterTurns] at h
      cases hturn : sc.loopTurn with
      | stop last =>
          rw [hturn] at h
          cases h
      | again next =>
          rw [hturn] at h
          rw [loop_of_again hturn]
          exact ih h

/-- The loop stops at once where the session is over. -/
theorem Over.loopTurn (h : sc.Over) : ∃ last, sc.loopTurn = .stop last ∧ last.Over := by
  cases hentry : sc.entry with
  | none =>
      refine ⟨sc, ?_, h⟩
      simp only [SessionScope.loopTurn, hentry]
  | some w =>
      have hterm : w.isTerminated = true := h w hentry
      refine ⟨_, loopTurn_terminated hentry hterm, ?_⟩
      intro w' hw'
      cases hw'
      exact hterm

theorem Over.afterTurns (h : sc.Over) (hafter : SessionScope.afterTurns n sc = some sc') :
    sc'.Over := by
  cases n with
  | zero =>
      cases hafter
      exact h
  | succ n =>
      rcases h.loopTurn with ⟨last, hturn, -⟩
      simp only [SessionScope.afterTurns, hturn] at hafter
      cases hafter

theorem Over.loop (h : sc.Over) : sc.loop.Over := by
  rcases h.loopTurn with ⟨last, hturn, hover⟩
  rw [loop_of_stop hturn]
  exact hover

theorem Over.appendBuffer (h : sc.Over) (data : Bytes) : (sc.appendBuffer data).Over := by
  intro w hw
  rcases Option.map_eq_some_iff.1 hw with ⟨w₀, hw₀, rfl⟩
  exact h w₀ hw₀

/-- The turn ends the session with a WT_CLOSE_SESSION of the error code. -/
def Detects (errorCode : Nat) (sc : SessionScope) : Prop :=
  ∃ sc' es message, sc.loopTurn = .again sc' ∧ (∃ w, sc'.entry = some w ∧ w.isTerminated = true) ∧
    sc'.effects = sc.effects ++ es ∧ .capsule (.wtCloseSession errorCode message) ∈ es

/-- The scope in which the loop hands a capsule to its handler. -/
def taken (sc : SessionScope) (w : WtSessionInfo) (type : Nat) (payload rest : Bytes) : SessionScope :=
  ((sc.setEntry (w.withBuffer rest)).perform (.dispatch type payload)).perform
    (.consumeRecvBytes (w.capsuleBuffer.length - rest.length))

/-- A capsule that is read is judged. -/
theorem loopTurn_judge {type : Nat} {payload rest : Bytes} {r : Received}
    (hentry : sc.entry = some w) (hlive : w.isTerminated = false)
    (hhead : readHead sc.config w.capsuleBuffer = .capsule type payload rest)
    (hread : readPayload type payload = .received r) :
    sc.loopTurn = .again ((sc.taken w type payload rest).carryOut
      ((w.withBuffer rest).judge sc.config sc.isServer r)) := by
  have hready : (sc.taken w type payload rest).entry = some (w.withBuffer rest) := rfl
  rw [loopTurn_live hentry hlive, hhead]
  dsimp only
  rw [processCapsule, handleCapsule_eq rfl, hread]
  exact congrArg LoopTurn.again (receive_eq hready r)

/-- A refusal is detected. -/
theorem detects_of_refuse {type : Nat} {payload rest : Bytes} {r : Received} {w₁ : WtSessionInfo}
    {event : Option H2Event} {errorCode : Nat} {message : String} (hentry : sc.entry = some w)
    (hlive : w.isTerminated = false)
    (hhead : readHead sc.config w.capsuleBuffer = .capsule type payload rest)
    (hread : readPayload type payload = .received r)
    (hjudge : (w.withBuffer rest).judge sc.config sc.isServer r =
      .refuse w₁ event errorCode message) (hlive₁ : w₁.isTerminated = false) :
    sc.Detects errorCode := by
  have hturn := loopTurn_judge hentry hlive hhead hread
  rw [hjudge] at hturn
  dsimp only [carryOut] at hturn
  rw [closeSession_live rfl hlive₁] at hturn
  refine ⟨_, [.dispatch type payload, .consumeRecvBytes (w.capsuleBuffer.length - rest.length)] ++
    event.toList.map (sc.taken w type payload rest).eventEffect ++ [.discardStreamRecvBytes,
      .capsule (.wtCloseSession errorCode (closeMessage (ascii message))), .endStreamPending],
    closeMessage (ascii message), hturn, ⟨w₁.ended, rfl, rfl⟩, ?_, ?_⟩
  · simp [taken, perform, setEntry]
  · simp

/-- What a judged capsule leaves, unless it ends the session. -/
theorem holds_of_judge {isServer : Bool} {config : H2SessionConfig} {r : Received}
    {P : WtSessionInfo.Memory → Prop} (hwf : WtSessionInfo.Wf isServer w)
    (hreceived : ∀ {w w' : WtSessionInfo} {events : List H2Event},
      WtSessionInfo.Trans .all config isServer w (.received r events) w' → P w'.memory)
    (hkeeps : ∀ {m m' : WtSessionInfo.Memory}, P m → WtSessionInfo.Recalls m m' → P m')
    {w' : WtSessionInfo}
    (hentry : (sc.carryOut (w.judge config isServer r)).entry = some w') :
    w'.isTerminated = true ∨ P w'.memory := by
  cases hjudge : w.judge config isServer r with
  | refuse w₁ event errorCode message =>
      left
      rw [hjudge] at hentry
      simp only [carryOut, closeSession] at hentry
      split_ifs at hentry with hterm
      · cases hentry
        exact hterm
      · cases hentry
        rfl
  | accept before q after =>
      right
      rw [hjudge] at hentry
      cases hentry
      rcases WtSessionInfo.judge_answers hwf (Permits.all_admits isServer w r) hjudge with
        ⟨ls, ⟨mid, hfirst, hrest⟩, -⟩
      exact hrest.invariant (fun w => P w.memory)
        (fun ha hab => hkeeps ha hab.recording.recalls) (hreceived hfirst)
  | close event =>
      rw [hjudge] at hentry
      cases hentry

end SessionScope

namespace H2Session

open SessionScope (afterTurns readHead Over Detects)
open WtSessionInfo (Memory Capped Recalls StopRecorded CreditRecorded keeping_of_memory)

/-- A place of a run: the method `c` behind the methods `calls` gives bytes to `process_capsules`, and
after `n` capsules `r` is the next one in the buffer of an entry that is not terminated. -/
structure TakesAt (s : H2Session) (sessionId : Int) (calls : List Call) (c : Call) (n : Nat)
    (sc : SessionScope) (w : WtSessionInfo) (r : Received) : Prop where
  turn : ∃ data, c.takes = some data ∧
    afterTurns n ((s.scopeAfter sessionId calls).appendBuffer data) = some sc
  entry : sc.entry = some w
  live : w.isTerminated = false
  head : ∃ type payload rest, readHead sc.config w.capsuleBuffer = .capsule type payload rest ∧
    readPayload type payload = .received r

/-- The second place is behind the first one, in the same session. -/
def Later (calls : List Call) (c : Call) (n : Nat) (calls' : List Call) (c' : Call) (n' : Nat) : Prop :=
  calls' = calls ∧ c' = c ∧ n < n' ∨
    ∃ mid, calls' = calls ++ [c] ++ mid ∧ ∀ w events, .request w events ∉ mid

section Places

variable {isServer : Bool} {config : H2SessionConfig} {s : H2Session} {sessionId : Int}
  {inputs : List Input} {calls calls' mid : List Call} {c c' : Call} {n n' : Nat}
  {sc sc' : SessionScope} {w w' : WtSessionInfo} {r r' : Received}

/-- A session that is over stays so until a new one is requested. -/
theorem over_of_calls (h : create isServer config = .ok s)
    (hcalls : calls ++ mid <+: s.runCalls sessionId inputs)
    (hrequest : ∀ w events, .request w events ∉ mid) (hover : (s.scopeAfter sessionId calls).Over) :
    (s.scopeAfter sessionId (calls ++ mid)).Over := by
  rcases create_view h sessionId with ⟨-, hrole, hconfig⟩
  induction mid using List.reverseRecOn with
  | nil =>
      rw [List.append_nil]
      exact hover
  | append_singleton mid c ih =>
      rw [← List.append_assoc] at hcalls ⊢
      have hfront : calls ++ mid <+: s.runCalls sessionId inputs :=
        (List.prefix_append (calls ++ mid) [c]).trans hcalls
      have hbefore := ih hfront fun w events hmem =>
        hrequest w events (List.mem_append_left [c] hmem)
      have hallowed := called_next h hcalls
      rw [← hrole, ← hconfig] at hallowed
      have hplain : c.requests = false := by
        cases c with
        | request w events => exact absurd (List.mem_append_right mid (by simp)) (hrequest w events)
        | _ => rfl
      have hsound := scope_sound h hfront
      intro w hw
      rw [scopeAfter, (viewAfter_append s sessionId (calls ++ mid) c).1] at hw
      rcases SessionScope.call_stages hsound hallowed hplain hw with ⟨w₀, hw₀, hstages⟩
      exact hstages.terminated hplain (hbefore w₀ hw₀)

/-- The entry behind a method that calls `process_capsules`. -/
theorem entry_of_takes {data : Bytes} (htakes : c.takes = some data) (sc : SessionScope) :
    (sc.call c).entry = (sc.appendBuffer data).loop.entry := by
  rw [← SessionScope.processCapsules_eq_loop]
  cases c with
  | recvEstablished bytes =>
      cases htakes
      simp only [SessionScope.call, SessionScope.recvEstablished]
      cases hloop : (sc.processCapsules data).entry with
      | none => exact hloop
      | some w =>
          dsimp only
          split_ifs
          · exact hloop
          · exact hloop
  | drain =>
      cases htakes
      rfl
  | _ => cases htakes

/-- What a capsule leaves in a session that goes on holds at every later place of the session. -/
theorem holds_at {P : WtSessionInfo → Prop} (hP : Keeping config isServer (fun _ _ => True) P)
    (h : create isServer config = .ok s) (hcalls : calls' ++ [c'] <+: s.runCalls sessionId inputs)
    (hfirst : s.TakesAt sessionId calls c n sc w r)
    (hleaves : ∀ next, sc.loopTurn = .again next → ∀ w', next.entry = some w' →
      w'.isTerminated = true ∨ P w')
    (hlater : Later calls c n calls' c' n') (hsecond : s.TakesAt sessionId calls' c' n' sc' w' r') :
    P w' := by
  rcases hfirst.turn with ⟨data, htakes, hturns⟩
  rcases hsecond.turn with ⟨data', htakes', hturns'⟩
  have hprefix : calls' <+: s.runCalls sessionId inputs := (List.prefix_append _ _).trans hcalls
  have hfront : calls <+: s.runCalls sessionId inputs := by
    rcases hlater with ⟨rfl, -, -⟩ | ⟨mid, rfl, -⟩
    · exact hprefix
    · rw [List.append_assoc] at hprefix
      exact (List.prefix_append _ _).trans hprefix
  -- Behind its turn the session is over, or it goes on with the property.
  rcases hfirst.head with ⟨type, payload, rest, hhead, hread⟩
  obtain ⟨next, hnext⟩ : ∃ next, sc.loopTurn = .again next :=
    ⟨_, SessionScope.loopTurn_judge hfirst.entry hfirst.live hhead hread⟩
  have hone : afterTurns (n + 1) ((s.scopeAfter sessionId calls).appendBuffer data) = some next := by
    rw [SessionScope.afterTurns_add hturns]
    simp only [afterTurns, hnext]
  have hpasses := passes_holding lasting_true h (keepsTo_all s sessionId inputs)
    ⟨calls, data, n + 1, hfront, hone⟩
  have hstate : next.Over ∨ Keeping.Holding config isServer P next := by
    cases hentry : next.entry with
    | none =>
        left
        intro w₁ hw₁
        rw [hentry] at hw₁
        cases hw₁
    | some w₁ =>
        rcases hleaves next hnext w₁ hentry with hterm | hw₁
        · left
          intro w₂ hw₂
          cases hentry.symm.trans hw₂
          exact hterm
        · right
          refine ⟨hpasses.sound, hpasses.config_eq, ?_⟩
          intro w₂ hw₂
          cases hentry.symm.trans hw₂
          exact hw₁
  have hlive : ¬ sc'.Over := by
    intro hover
    have hterm := hover w' hsecond.entry
    rw [hsecond.live] at hterm
    cases hterm
  rcases hlater with ⟨rfl, rfl, hlt⟩ | ⟨mid, rfl, hrequest⟩
  · -- The later place is in the same loop.
    rw [htakes] at htakes'
    cases htakes'
    obtain ⟨k, rfl⟩ : ∃ k, n' = n + 1 + k := ⟨n' - (n + 1), by omega⟩
    rw [SessionScope.afterTurns_add hone] at hturns'
    rcases hstate with hover | hholds
    · exact absurd (hover.afterTurns hturns') hlive
    · exact (hP.afterTurns hholds hturns').entry w' hsecond.entry
  · have hcall : (s.scopeAfter sessionId (calls ++ [c])).entry = next.loop.entry := by
      rw [← SessionScope.loop_of_afterTurns hone, ← entry_of_takes htakes]
      exact (viewAfter_append s sessionId calls c).1
    have hbehind : calls ++ [c] <+: s.runCalls sessionId inputs :=
      (List.prefix_append (calls ++ [c]) mid).trans hprefix
    rcases hstate with hover | hholds
    · have hended : (s.scopeAfter sessionId (calls ++ [c])).Over := by
        intro w₁ hw₁
        rw [hcall] at hw₁
        exact hover.loop w₁ hw₁
      have hstays := over_of_calls h hprefix hrequest hended
      exact absurd ((hstays.appendBuffer data').afterTurns hturns') hlive
    · have hempty : next.appendBuffer [] = next := by
        cases next with
        | mk isServer config sessionId entry effects =>
            cases entry with
            | none => rfl
            | some w => simp [SessionScope.appendBuffer, WtSessionInfo.withBuffer]
      have hloop := hP.processCapsules hholds []
      rw [SessionScope.processCapsules_eq_loop, hempty] at hloop
      have hsound := scope_sound h hbehind
      have hstart : Keeping.Holding config isServer P (s.scopeAfter sessionId (calls ++ [c])) := by
        refine ⟨hsound, (create_view h sessionId).2.2, ?_⟩
        intro w₁ hw₁
        exact hloop.entry w₁ (hcall ▸ hw₁)
      have hends := scopeAfter_keeping hP h (keepsTo_all s sessionId inputs) hprefix
        (fun w events hmem => absurd hmem (hrequest w events)) hstart
      have happended : Keeping.Holding config isServer P
          ((s.scopeAfter sessionId (calls ++ [c] ++ mid)).appendBuffer data') :=
        SessionScope.appendBuffer_rule
          (fun _ _ _ hentry hholding => hP.setEntry hholding hentry rfl) data' hends
      exact (hP.afterTurns happended hturns').entry w' hsecond.entry

/-- The entry of a request has recorded nothing. -/
theorem capped_of_requested (peer : PeerSettings) (config : H2SessionConfig) (sessionId : Int)
    (init : Option InitLimits) : Capped (requestedEntry peer config sessionId init).memory := by
  cases init with
  | none => exact ⟨Nat.zero_le _, Nat.zero_le _, Nat.zero_le _⟩
  | some limits =>
      rcases limits with ⟨u, bl, br⟩
      cases u <;> cases bl <;> cases br <;> exact ⟨Nat.zero_le _, Nat.zero_le _, Nat.zero_le _⟩

/-- The collections stay within their bound. -/
theorem capped_of_run (h : create isServer config = .ok s)
    (hentry : (s.run inputs).wtSessions.find? sessionId = some w) : Capped w.memory := by
  rcases create_view h sessionId with ⟨hview, hrole, hconfig⟩
  have hP : Keeping config isServer (fun _ _ => True) fun w => Capped w.memory :=
    keeping_of_memory fun htrans hw => htrans.recording.capped hw
  have hnone : (s.scopeAfter sessionId []).entry = none := congrArg View.entry hview
  have hstart : Keeping.Holding config isServer (fun w => Capped w.memory)
      (s.scopeAfter sessionId []) := by
    refine ⟨⟨hrole, ?_⟩, hconfig, ?_⟩
    · intro w hw
      rw [hnone] at hw
      cases hw
    · intro w hw
      rw [hnone] at hw
      cases hw
  have hholds := scopeAfter_keeping hP h (keepsTo_all s sessionId inputs)
    (List.prefix_rfl : [] ++ s.runCalls sessionId inputs <+: s.runCalls sessionId inputs)
    (fun w events hmem _ => by
      rcases requested_of_runCalls hmem with ⟨before, -, rfl⟩
      exact capped_of_requested _ _ _ _) hstart
  refine hholds.entry w ?_
  rw [List.nil_append]
  exact (congrArg View.entry (viewAfter_run s sessionId inputs)).trans hentry

/-- At a place of a run the entry is well formed. -/
theorem TakesAt.sound (h : create isServer config = .ok s)
    (hcalls : calls <+: s.runCalls sessionId inputs) (hat : s.TakesAt sessionId calls c n sc w r) :
    sc.isServer = isServer ∧ sc.config = config ∧ WtSessionInfo.Wf isServer w := by
  rcases hat.turn with ⟨data, -, hturns⟩
  have hpasses := passes_holding lasting_true h (keepsTo_all s sessionId inputs)
    ⟨calls, data, n, hcalls, hturns⟩
  exact ⟨hpasses.sound.1, hpasses.config_eq, hpasses.sound.2 w hat.entry⟩

/-- What a capsule records holds at every later place of the session. -/
theorem recorded_at {P : Memory → Prop} (h : create isServer config = .ok s)
    (hcalls : calls' ++ [c'] <+: s.runCalls sessionId inputs)
    (hfirst : s.TakesAt sessionId calls c n sc w r) (hlater : Later calls c n calls' c' n')
    (hsecond : s.TakesAt sessionId calls' c' n' sc' w' r')
    (hreceived : ∀ {w w' : WtSessionInfo} {events : List H2Event},
      WtSessionInfo.Trans .all config isServer w (.received r events) w' → P w'.memory)
    (hkeeps : ∀ {m m' : Memory}, P m → Recalls m m' → P m') : P w'.memory := by
  have hP : Keeping config isServer (fun _ _ => True) fun w => P w.memory :=
    keeping_of_memory fun htrans hw => hkeeps hw htrans.recording.recalls
  refine holds_at hP h hcalls hfirst ?_ hlater hsecond
  intro next hnext w₁ hw₁
  have hfront : calls <+: s.runCalls sessionId inputs := by
    have hprefix : calls' <+: s.runCalls sessionId inputs :=
      (List.prefix_append _ _).trans hcalls
    rcases hlater with ⟨rfl, -, -⟩ | ⟨mid, rfl, -⟩
    · exact hprefix
    · rw [List.append_assoc] at hprefix
      exact (List.prefix_append _ _).trans hprefix
  rcases hfirst.sound h hfront with ⟨hrole, hconfig, hwf⟩
  rcases hfirst.head with ⟨type, payload, rest, hhead, hread⟩
  have hturn := SessionScope.loopTurn_judge hfirst.entry hfirst.live hhead hread
  rw [hnext, hrole, hconfig] at hturn
  cases hturn
  have hwf' : WtSessionInfo.Wf isServer (w.withBuffer rest) :=
    WtSessionInfo.wf_of_streams hwf rfl hwf.sent_le
  exact SessionScope.holds_of_judge hwf' hreceived hkeeps hw₁

/-- A second WT_STOP_SENDING is detected. -/
theorem detects_stop {id errorCode : Nat} (hat : s.TakesAt sessionId calls c n sc w
      (.stopSending id errorCode)) (hstopped : StopRecorded sc.isServer id w.memory)
    (hroom : w.receivedStopSendingStreamIds.card < kMaxReceivedMapEntries) :
    sc.Detects kWtStreamStateError := by
  rcases hat.head with ⟨type, payload, rest, hhead, hread⟩
  have hmem : id ∈ (w.withBuffer rest).receivedStopSendingStreamIds := by
    rcases hstopped.2 with hmem | hfull
    · exact hmem
    · exact absurd hroom (not_lt.2 hfull)
  have hagain : (w.withBuffer rest).hasReceivedStopSending id = true := if_pos hmem
  have hjudge : (w.withBuffer rest).judge sc.config sc.isServer (.stopSending id errorCode) =
      .streamStateError (w.withBuffer rest) id "WT_STOP_SENDING received twice" := by
    simp only [WtSessionInfo.judge, WtSessionInfo.judgeStopSending, hstopped.1, hagain,
      Bool.not_true, Bool.false_eq_true, if_false, if_true]
  exact SessionScope.detects_of_refuse hat.entry hat.live hhead hread hjudge hat.live

/-- A decreasing WT_MAX_STREAM_DATA is detected. -/
theorem detects_decrease {id value value' : Nat} (hat : s.TakesAt sessionId calls c n sc w
      (.maxStreamData id value')) (hcredited : CreditRecorded sc.isServer id value w.memory)
    (hlt : value' < value) (hroom : w.receivedMaxStreamDataById.size < kMaxReceivedMapEntries) :
    sc.Detects (if w.hasReceivedStopSending id then kWtStreamStateError else kWtFlowControlError) := by
  rcases hat.head with ⟨type, payload, rest, hhead, hread⟩
  obtain ⟨last, hfind, hle⟩ : ∃ last, w.receivedMaxStreamDataById.find? id = some last ∧
      value ≤ last := by
    rcases hcredited.2 with hfind | hfull
    · exact hfind
    · exact absurd hroom (not_lt.2 hfull)
  have hprevious : SessionScope.previousMaxStreamData sc.isServer (w.withBuffer rest) id =
      some last := by
    unfold SessionScope.previousMaxStreamData
    rw [WtSessionInfo.withBuffer_receivedMaxStreamDataById, hfind]
  have hsame : (w.withBuffer rest).hasReceivedStopSending id = w.hasReceivedStopSending id := rfl
  cases hstop : w.hasReceivedStopSending id with
  | true =>
      have hjudge : (w.withBuffer rest).judge sc.config sc.isServer (.maxStreamData id value') =
          .streamStateError (w.withBuffer rest) id
            "WT_MAX_STREAM_DATA received after WT_STOP_SENDING" := by
        simp only [WtSessionInfo.judge, WtSessionInfo.judgeMaxStreamData, hcredited.1, hsame, hstop,
          Bool.not_true, Bool.false_eq_true, if_false, if_true]
      rw [if_pos rfl]
      exact SessionScope.detects_of_refuse hat.entry hat.live hhead hread hjudge hat.live
  | false =>
      have hbelow : decide (value' < last) = true := decide_eq_true (lt_of_lt_of_le hlt hle)
      have hjudge : (w.withBuffer rest).judge sc.config sc.isServer (.maxStreamData id value') =
          .flowControlError (w.withBuffer rest) "WT_MAX_STREAM_DATA decreased" := by
        simp only [WtSessionInfo.judge, WtSessionInfo.judgeMaxStreamData, hcredited.1, hsame, hstop,
          hprevious, Option.any_some, hbelow, Bool.not_true, Bool.false_eq_true, if_false, if_true]
      rw [if_neg Bool.false_ne_true]
      exact SessionScope.detects_of_refuse hat.entry hat.live hhead hread hjudge hat.live

end Places

/-- Whatever is received and called, a session stores no more than the limits say, and while there is
room it recognises a repeated WT_STOP_SENDING and a decreasing WT_MAX_STREAM_DATA. -/
theorem memory_bounded {isServer : Bool} {config : H2SessionConfig} {s : H2Session}
    (h : create isServer config = .ok s) (inputs : List Input) (sessionId : Int) :
    (∀ w, (s.run inputs).wtSessions.find? sessionId = some w →
      w.BufferBounded config ∧ Capped w.memory) ∧
    (∀ acceptId flush w,
      ((s.run inputs).duringAccept acceptId flush).wtSessions.find? sessionId = some w →
        w.capsuleBuffer.length ≤ config.wtPreAcceptBufferLimit ∨
          w.capsuleBuffer.length < 16 + config.wtMaxCapsulePayloadSize) ∧
    (∀ (sc : SessionScope) data w, (sc.processCapsules data).entry = some w →
      w.isTerminated = true → w.capsuleBuffer = []) ∧
    ∀ calls c n sc w r calls' c' n' sc' w' r', calls' ++ [c'] <+: s.runCalls sessionId inputs →
      s.TakesAt sessionId calls c n sc w r → Later calls c n calls' c' n' →
      s.TakesAt sessionId calls' c' n' sc' w' r' →
        (∀ id errorCode errorCode', r = .stopSending id errorCode → r' = .stopSending id errorCode' →
          w'.receivedStopSendingStreamIds.card < kMaxReceivedMapEntries →
            sc'.Detects kWtStreamStateError) ∧
        ∀ id value value', r = .maxStreamData id value → r' = .maxStreamData id value' →
          value' < value → w'.receivedMaxStreamDataById.size < kMaxReceivedMapEntries →
            sc'.Detects
              (if w'.hasReceivedStopSending id then kWtStreamStateError else kWtFlowControlError) := by
  rcases create_view h sessionId with ⟨-, hrole, hconfig⟩
  have hsees := run_calls s sessionId inputs
  have hbounded := (bounded_create h).run inputs
  refine ⟨?_, ?_, ?_, ?_⟩
  · intro w hw
    have hw' := (hbounded sessionId w hw).2.toBufferBounded
    rw [hsees.config, hconfig] at hw'
    exact ⟨hw', capped_of_run h hw⟩
  · intro acceptId flush w hw
    have hw' := bounded_duringAccept hbounded acceptId flush hw
    rwa [hsees.config, hconfig] at hw'
  · exact fun sc data w hw => (SessionScope.processCapsules_settled hw).2
  · intro calls c n sc w r calls' c' n' sc' w' r' hcalls hfirst hlater hsecond
    have hprefix : calls' <+: s.runCalls sessionId inputs := (List.prefix_append _ _).trans hcalls
    have hserver : sc'.isServer = isServer := (hsecond.sound h hprefix).1
    refine ⟨?_, ?_⟩
    · rintro id errorCode errorCode' rfl rfl hroom
      have hstopped : StopRecorded isServer id w'.memory :=
        recorded_at h hcalls hfirst hlater hsecond (fun htrans => htrans.stopped)
          fun hm hrecalls => hm.recalls hrecalls
      exact detects_stop hsecond (hserver ▸ hstopped) hroom
    · rintro id value value' rfl rfl hlt hroom
      have hcredited : CreditRecorded isServer id value w'.memory :=
        recorded_at h hcalls hfirst hlater hsecond (fun htrans => htrans.credited)
          fun hm hrecalls => hm.recalls hrecalls
      exact detects_decrease hsecond (hserver ▸ hcredited) hlt hroom

/-! ## Concrete runs -/

/-- The place of a run, evaluated. -/
def takesAt? (s : H2Session) (sessionId : Int) (calls : List Call) (c : Call) (n : Nat) :
    Option (SessionScope × WtSessionInfo × Received) :=
  c.takes.bind fun data =>
    (afterTurns n ((s.scopeAfter sessionId calls).appendBuffer data)).bind fun sc =>
      (sc.entry.filter (!·.isTerminated)).bind fun w =>
        match readHead sc.config w.capsuleBuffer with
        | .capsule type payload _ =>
            match readPayload type payload with
            | .received r => some (sc, w, r)
            | _ => none
        | _ => none

theorem takesAt_of_eq {s : H2Session} {sessionId : Int} {calls : List Call} {c : Call} {n : Nat}
    {r : Received} (h : (s.takesAt? sessionId calls c n).map (·.2.2) = some r) :
    ∃ sc w, s.takesAt? sessionId calls c n = some (sc, w, r) ∧
      s.TakesAt sessionId calls c n sc w r := by
  rcases Option.map_eq_some_iff.1 h with ⟨⟨sc, w, r'⟩, hplace, rfl⟩
  rcases Option.bind_eq_some_iff.1 hplace with ⟨data, htakes, hrest⟩
  rcases Option.bind_eq_some_iff.1 hrest with ⟨sc', hturns, hrest⟩
  rcases Option.bind_eq_some_iff.1 hrest with ⟨w', hentry, hrest⟩
  rcases Option.filter_eq_some_iff.1 hentry with ⟨hentry, hlive⟩
  split at hrest
  · rename_i type payload rest hhead
    split at hrest
    · rename_i r'' hread
      cases hrest
      exact ⟨sc, w, hplace, ⟨data, htakes, hturns⟩, hentry, by simpa using hlive,
        ⟨type, payload, rest, hhead, hread⟩⟩
    · cases hrest
  · cases hrest

/-- The peer stops stream 0 twice in one DATA frame. -/
def stoppedTwice : List Input :=
  let stop := encodeCapsule CapsuleType.wtStopSending.toNat (varintBytes 0 ++ varintBytes 7)
  openSession 1 ++ [.recvData 1 (stop ++ stop) none]

/-- The session methods of this run. -/
def stoppingCalls : List Call := runCalls { isServer := true, config := {} } 1 stoppedTwice

theorem stoppingCalls_ne_nil : stoppingCalls ≠ [] := by
  have hlength : stoppingCalls.length = 5 := by decide +kernel
  intro hnil
  rw [hnil] at hlength
  cases hlength

/-- The second WT_STOP_SENDING is detected. -/
theorem memory_bounded_stopped :
    create true {} = .ok { isServer := true, config := {} } ∧
      ∃ calls c sc sc' w w',
        TakesAt { isServer := true, config := {} } 1 calls c 0 sc w (.stopSending 0 7) ∧
        TakesAt { isServer := true, config := {} } 1 calls c 1 sc' w' (.stopSending 0 7) ∧
        sc'.Detects kWtStreamStateError := by
  have hcreate : create true {} = .ok { isServer := true, config := {} } := rfl
  have hplace : ∀ n, n < 2 → ((takesAt? { isServer := true, config := {} } 1
      stoppingCalls.dropLast (stoppingCalls.getLast stoppingCalls_ne_nil) n).map (·.2.2)) =
        some (.stopSending 0 7) := by
    decide +kernel
  rcases takesAt_of_eq (hplace 0 (by decide)) with ⟨sc, w, -, hfirst⟩
  rcases takesAt_of_eq (hplace 1 (by decide)) with ⟨sc', w', heq, hsecond⟩
  have hroom : w'.receivedStopSendingStreamIds.card < kMaxReceivedMapEntries := by
    have hall : ((takesAt? { isServer := true, config := {} } 1 stoppingCalls.dropLast
        (stoppingCalls.getLast stoppingCalls_ne_nil) 1).all fun place =>
          place.2.1.receivedStopSendingStreamIds.card < kMaxReceivedMapEntries) = true := by
      decide +kernel
    rw [heq] at hall
    exact of_decide_eq_true hall
  have hlast : stoppingCalls.dropLast ++ [stoppingCalls.getLast stoppingCalls_ne_nil] <+:
      stoppingCalls := by
    rw [List.dropLast_append_getLast stoppingCalls_ne_nil]
  refine ⟨hcreate, _, _, sc, sc', w, w', hfirst, hsecond, ?_⟩
  exact ((memory_bounded hcreate stoppedTwice 1).2.2.2 _ _ _ _ _ _ _ _ _ _ _ _ hlast hfirst
    (Or.inl ⟨rfl, rfl, Nat.zero_lt_one⟩) hsecond).1 0 7 7 rfl rfl hroom

/-- END_STREAM inside a capsule: the terminated session keeps what it had buffered, which is more than
it could have buffered before its acceptance. -/
theorem ended_buffer_exceeds :
    ¬ ∀ (isServer : Bool) (config : H2SessionConfig) (s : H2Session) (inputs : List Input)
        (sessionId : Int) (w : WtSessionInfo), create isServer config = .ok s →
      (s.run inputs).wtSessions.find? sessionId = some w → w.isEstablished = false →
        w.capsuleBuffer.length ≤ config.wtPreAcceptBufferLimit := by
  intro hall
  let config : H2SessionConfig := { wtPreAcceptBufferLimit := 1 }
  let inputs : List Input := openSession 1 ++ [.recvData 1 [0, 5, 7] none, .remoteEndStream 1]
  obtain ⟨w, hentry, hest, hlength⟩ : ∃ w,
      (run { isServer := true, config := config } inputs).wtSessions.find? 1 = some w ∧
        w.isEstablished = false ∧ w.capsuleBuffer.length = 3 := by
    have hsome : ((run { isServer := true, config := config } inputs).wtSessions.find? 1).map
        (fun w => (w.isEstablished, w.capsuleBuffer.length)) = some (false, 3) := by
      decide +kernel
    rcases Option.map_eq_some_iff.1 hsome with ⟨w, hentry, hw⟩
    exact ⟨w, hentry, congrArg Prod.fst hw, congrArg Prod.snd hw⟩
  have hle := hall true config { isServer := true, config := config } inputs 1 w rfl hentry hest
  rw [hlength] at hle
  exact absurd hle (by decide)

end H2Session

end H2
end WebTransport
