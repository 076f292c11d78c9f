import WebTransport.H2.Bounds
import WebTransport.H2.Opening

/-!
# H2.Exchange — two endpoints that run this code

A client and a server share a session.  Each queues capsules for the other, and the bytes of these
arrive in order, cut at any place and at any time.  Meanwhile both applications use the session as
they may (`Op.Honest`), and both connections go about their other business.

* `Exchange`            : the two endpoints and what was handed over;
* `Exchange.Move`       : what one of them does next;
* `Exchange.accepted`   : what `send_stream_data` takes in along a run;
* `Sound`               : the invariant that relates both ends and the bytes between them;
* `no_spurious_errors`  : in no run does an endpoint report an error or end the session.
-/

namespace WebTransport
namespace H2

open Bindings
open Received
open H2Session (effectsOf)

/-- The data that a session method takes in. -/
def Call.taken (w : WtSessionInfo) (id : Nat) : Call → List PendingSend
  | .api op => op.taken w id
  | _ => []

/-- A client (`false`) and a server (`true`), and how many bytes of the session each was handed. -/
structure Exchange where
  endpoint : Bool → H2Session
  handed : Bool → Nat

namespace Exchange

/-- What an endpoint has queued on the session so far. -/
def queued (sessionId : Int) (x : Exchange) (side : Bool) : List Capsule :=
  Effect.capsules (effectsOf sessionId (x.endpoint side).trace)

/-- The bytes on their way to an endpoint. -/
def underway (sessionId : Int) (x : Exchange) (side : Bool) : Bytes :=
  (wire (x.queued sessionId (!side))).drop (x.handed side)

/-- What happens next: something at one endpoint, or a DATA frame of the session with some of the
bytes that are on their way to it. -/
inductive Move
  | act (side : Bool) (input : H2Session.Input)
  | deliver (side : Bool) (size : Nat)

/-- A move. -/
def step (sessionId : Int) (x : Exchange) : Move → Exchange
  | .act side input =>
      { x with endpoint := Function.update x.endpoint side ((x.endpoint side).step input) }
  | .deliver side size =>
      let data := (x.underway sessionId side).take size
      { endpoint := Function.update x.endpoint side
          ((x.endpoint side).step (.recvData sessionId data none))
        handed := Function.update x.handed side (x.handed side + data.length) }

/-- A run. -/
def run (sessionId : Int) (x : Exchange) (moves : List Move) : Exchange :=
  moves.foldl (step sessionId) x

/-- An endpoint is used as it should be: an input is an honest call on the session, or is not about
the session at all. -/
def Move.Honest (sessionId : Int) (x : Exchange) : Move → Prop
  | .act side input =>
      (x.endpoint side).callsOf sessionId input = [] ∨
        ∃ op, (x.endpoint side).callsOf sessionId input = [.api op] ∧ op.Honest side ∧ op.InRange
  | .deliver _ _ => True

/-- Every move of a run is honest where it is made. -/
def HonestRun (sessionId : Int) (x : Exchange) : List Move → Prop
  | [] => True
  | move :: moves => move.Honest sessionId x ∧ HonestRun sessionId (x.step sessionId move) moves

/-- The data that `send_stream_data` takes in at an endpoint, on a stream of the session. -/
def Move.accepted (sessionId : Int) (x : Exchange) (side : Bool) (id : Nat) :
    Move → List PendingSend
  | .act acting (.sendStreamData streamId id' data fin) =>
      if acting = side ∧ streamId = sessionId ∧ id' = id ∧
          ((x.endpoint side).wtSessions.find? sessionId).any (·.takesData id) = true then
        [⟨data, fin⟩]
      else []
  | _ => []

/-- What it takes in along a run. -/
def accepted (sessionId : Int) (x : Exchange) (side : Bool) (id : Nat) :
    List Move → List PendingSend
  | [] => []
  | move :: moves =>
      move.accepted sessionId x side id ++ accepted sessionId (x.step sessionId move) side id moves

/-- Both ends of the session, just opened. -/
structure Opened (config : Bool → H2SessionConfig) (sessionId : Int) (x : Exchange) : Prop where
  checked : ∀ side, (config side).check = .ok ()
  role : ∀ side, (x.endpoint side).isServer = side
  config_eq : ∀ side, (x.endpoint side).config = config side
  view : ∀ side, ∃ es, (x.endpoint side).view sessionId =
      ⟨some (H2Session.opened (config side) (config !side) sessionId), es⟩ ∧
    Effect.capsules es = (config side).initialLimits ∧ Effect.Delivers es []
  handed : ∀ side, x.handed side = 0

/-- One end of the session: it stands at `w`, was sent `calls`, has taken in `taken` of what the
other end queued and told the application of it, and the bytes of the rest are in its buffer or on
their way. -/
structure End (config : Bool → H2SessionConfig) (sessionId : Int) (x : Exchange) (side : Bool)
    (calls : Nat → List PendingSend) (w : WtSessionInfo) (taken : List Capsule) : Prop where
  role : (x.endpoint side).isServer = side
  config_eq : (x.endpoint side).config = config side
  entry : (x.endpoint side).wtSessions.find? sessionId = some w
  delivers : Effect.Delivers (effectsOf sessionId (x.endpoint side).trace)
    (taken.map Capsule.received)
  standing : Standing side (config side) (config !side) w calls (x.queued sessionId side)
    (taken.map Capsule.received)
  arriving : ∃ rest, x.queued sessionId (!side) = taken ++ rest ∧
    w.capsuleBuffer ++ x.underway sessionId side = wire rest
  handed_le : x.handed side ≤ (wire (x.queued sessionId !side)).length
  waits : SessionScope.readHead (config side) w.capsuleBuffer = .unfinished

/-- Both ends are sound, and were sent `calls`. -/
def Sound (config : Bool → H2SessionConfig) (sessionId : Int)
    (calls : Bool → Nat → List PendingSend) (x : Exchange) : Prop :=
  ∀ side, ∃ w taken, x.End config sessionId side (calls side) w taken

section Steps

variable {config : Bool → H2SessionConfig} {sessionId : Int} {x x' : Exchange} {side : Bool}
  {w : WtSessionInfo} {taken : List Capsule} {called : Nat → List PendingSend}
  {calls calls' : Bool → Nat → List PendingSend}

theorem queued_eq (sessionId : Int) (x : Exchange) (side : Bool) :
    x.queued sessionId side = Effect.capsules ((x.endpoint side).view sessionId).effects := rfl

/-- The session was just opened: nothing is taken in yet. -/
theorem Opened.sound (h : x.Opened config sessionId) :
    x.Sound config sessionId fun _ _ => [] := by
  intro side
  rcases h.view side with ⟨es, hview, hcapsules, hdelivers⟩
  have hqueued : x.queued sessionId side = (config side).initialLimits := by
    rw [queued_eq, hview]
    exact hcapsules
  refine ⟨H2Session.opened (config side) (config !side) sessionId, [], h.role side,
    h.config_eq side, congrArg View.entry hview, ?_, ?_, ?_, ?_, rfl⟩
  · have heffects : effectsOf sessionId (x.endpoint side).trace = es := congrArg View.effects hview
    rw [heffects]
    exact hdelivers
  · rw [hqueued]
    exact H2Session.standing_opened side (h.checked side) (h.checked !side) sessionId
  · refine ⟨x.queued sessionId (!side), rfl, ?_⟩
    unfold underway
    rw [h.handed side]
    rfl
  · rw [h.handed side]
    exact Nat.zero_le _

/-- An end of which nothing is seen but that the other end queued more. -/
theorem End.grow (h : x.End config sessionId side called w taken) (new : List Capsule)
    (hview : (x'.endpoint side).view sessionId = (x.endpoint side).view sessionId)
    (hrole : (x'.endpoint side).isServer = (x.endpoint side).isServer)
    (hconfig : (x'.endpoint side).config = (x.endpoint side).config)
    (hqueued : x'.queued sessionId (!side) = x.queued sessionId (!side) ++ new)
    (hhanded : x'.handed side = x.handed side) : x'.End config sessionId side called w taken := by
  have hself : x'.queued sessionId side = x.queued sessionId side := by
    rw [queued_eq, queued_eq, hview]
  have heffects : effectsOf sessionId (x'.endpoint side).trace =
      effectsOf sessionId (x.endpoint side).trace := congrArg View.effects hview
  rcases h.arriving with ⟨rest, hrest, hbytes⟩
  refine ⟨hrole.trans h.role, hconfig.trans h.config_eq,
    (congrArg View.entry hview).trans h.entry, ?_, ?_, ?_, ?_, h.waits⟩
  · rw [heffects]
    exact h.delivers
  · rw [hself]
    exact h.standing
  · refine ⟨rest ++ new, ?_, ?_⟩
    · rw [hqueued, hrest, List.append_assoc]
    · have hunderway : x'.underway sessionId side = x.underway sessionId side ++ wire new := by
        unfold underway
        rw [hqueued, hhanded, wire_append, List.drop_append_of_le_length h.handed_le]
      rw [hunderway, wire_append, ← List.append_assoc, hbytes]
  · rw [hhanded, hqueued, wire_append, List.length_append]
    exact h.handed_le.trans (Nat.le_add_right _ _)

/-- One end has run a session method; the other has not moved. -/
theorem Sound.set (side : Bool) {s' : H2Session} (h : x.Sound config sessionId calls)
    (hendpoint : x'.endpoint = Function.update x.endpoint side s')
    (hhanded : x'.handed (!side) = x.handed (!side)) (new : List Capsule)
    (hqueued : x'.queued sessionId side = x.queued sessionId side ++ new)
    (hcalls : calls' (!side) = calls (!side))
    (hself : ∃ w taken, x'.End config sessionId side (calls' side) w taken) :
    x'.Sound config sessionId calls' := by
  intro side'
  by_cases hside : side' = side
  · rw [hside]
    exact hself
  · have hother : side' = !side := Bool.eq_not.2 hside
    rcases h side' with ⟨w', taken', hend⟩
    have hsent : calls' side' = calls side' := by
      rw [hother]
      exact hcalls
    have hsame : x'.endpoint side' = x.endpoint side' := by
      rw [hendpoint, Function.update_of_ne hside]
    rw [hsent]
    refine ⟨w', taken', hend.grow new ?_ ?_ ?_ ?_ ?_⟩
    · rw [hsame]
    · rw [hsame]
    · rw [hsame]
    · rw [hother, Bool.not_not]
      exact hqueued
    · rw [hother]
      exact hhanded

/-- Queuing honest capsules is calm, and the application is not told of it. -/
theorem delivers_capsules {isServer : Bool} {own : H2SessionConfig} {cs : List Capsule}
    {front : List Capsule} (h : Lawful isServer own ((front ++ cs).map Capsule.received)) :
    Effect.Delivers (cs.map Effect.capsule) [] := by
  refine ⟨?_, .silent (Effect.events_capsules cs)⟩
  intro e he
  rcases List.mem_map.1 he with ⟨c, hc, rfl⟩
  exact h.not_close c (List.mem_append_right _ hc)

/-- What is taken in at an endpoint is what its session methods take in. -/
theorem Move.accepted_calls (h : (x.endpoint side).wtSessions.find? sessionId = some w)
    (input : H2Session.Input) (id : Nat) :
    (Move.act side input).accepted sessionId x side id =
      ((x.endpoint side).callsOf sessionId input).flatMap (Call.taken w id) := by
  have hruns := @H2Session.runs_of_mem (x.endpoint side) sessionId input
  -- Nothing is taken in but by `send_stream_data`.
  have hother : (∀ c ∈ (x.endpoint side).callsOf sessionId input, c.taken w id = []) →
      ((x.endpoint side).callsOf sessionId input).flatMap (Call.taken w id) = [] :=
    List.flatMap_eq_nil_iff.2
  have hnotApi : (∀ op, input.runs (.api op) = false) →
      ∀ c ∈ (x.endpoint side).callsOf sessionId input, c.taken w id = [] := by
    intro hno c hc
    cases c with
    | api op => exact absurd ((hno op).symm.trans (hruns _ hc)) Bool.false_ne_true
    | _ => rfl
  cases input with
  | sendStreamData streamId id' data fin =>
      have hcalls : (x.endpoint side).callsOf sessionId (.sendStreamData streamId id' data fin) =
          H2Session.onSession sessionId streamId (.api (.sendStreamData id' data fin)) := rfl
      rw [hcalls]
      unfold Move.accepted H2Session.onSession
      rw [h, Option.any_some]
      by_cases hsession : streamId = sessionId
      · simp [hsession, Call.taken, Op.taken]
      · simp [hsession]
  | openStream streamId isUni =>
      refine (hother fun c hc => ?_).symm
      rw [(H2Session.mem_onSession hc).2]
      rfl
  | resetStream streamId id' errorCode =>
      refine (hother fun c hc => ?_).symm
      rw [(H2Session.mem_onSession hc).2]
      rfl
  | stopSending streamId id' errorCode =>
      refine (hother fun c hc => ?_).symm
      rw [(H2Session.mem_onSession hc).2]
      rfl
  | sendDatagram streamId data =>
      refine (hother fun c hc => ?_).symm
      rw [(H2Session.mem_onSession hc).2]
      rfl
  | closeSession streamId errorCode message =>
      refine (hother fun c hc => ?_).symm
      rw [(H2Session.mem_onSession hc).2]
      rfl
  | drainSession streamId =>
      refine (hother fun c hc => ?_).symm
      rw [(H2Session.mem_onSession hc).2]
      rfl
  | _ => exact (hother (hnotApi fun _ => rfl)).symm

theorem Move.accepted_other (input : H2Session.Input) (id : Nat) :
    (Move.act side input).accepted sessionId x (!side) id = [] := by
  cases input with
  | sendStreamData streamId id' data fin =>
      exact if_neg fun hand => Bool.not_ne_self side hand.1.symm
  | _ => rfl

/-- An honest input keeps both ends sound. -/
theorem Sound.act (h : x.Sound config sessionId calls) {input : H2Session.Input}
    (hhonest : (Move.act side input).Honest sessionId x) :
    (x.step sessionId (.act side input)).Sound config sessionId fun side' id =>
      calls side' id ++ (Move.act side input).accepted sessionId x side' id := by
  rcases h side with ⟨w, taken, hend⟩
  have haccepted := Move.accepted_calls hend.entry input
  have hpeerCalls : (fun id => calls (!side) id ++
      (Move.act side input).accepted sessionId x (!side) id) = calls (!side) := by
    funext id
    rw [Move.accepted_other, List.append_nil]
  have hsees := H2Session.step_calls (x.endpoint side) sessionId input
  have hat : (x.step sessionId (.act side input)).endpoint side = (x.endpoint side).step input :=
    Function.update_self _ _ _
  have hother : (x.step sessionId (.act side input)).endpoint (!side) = x.endpoint (!side) :=
    Function.update_of_ne (Bool.not_ne_self side) _ _
  have hunmoved : (x.step sessionId (.act side input)).queued sessionId (!side) =
      x.queued sessionId (!side) := by
    rw [queued_eq, queued_eq, hother]
  rcases hhonest with hnone | ⟨op, hcalls, hop, hrange⟩
  · -- Nothing of the session.
    rw [hnone] at hsees
    have hview : ((x.endpoint side).step input).view sessionId = (x.endpoint side).view sessionId :=
      hsees.path.symm
    have hsame : (fun id => calls side id ++
        (Move.act side input).accepted sessionId x side id) = calls side := by
      funext id
      rw [haccepted id, hnone, List.flatMap_nil, List.append_nil]
    have hafter : (x.step sessionId (.act side input)).End config sessionId side (calls side) w
        taken := by
      refine hend.grow [] ?_ ?_ ?_ ?_ rfl
      · rw [hat]
        exact hview
      · rw [hat]
        exact hsees.role
      · rw [hat]
        exact hsees.config
      · rw [hunmoved, List.append_nil]
    rw [← hsame] at hafter
    refine h.set side rfl rfl [] ?_ hpeerCalls ⟨w, taken, hafter⟩
    rw [queued_eq, queued_eq, hat, hview, List.append_nil]
  · -- A call of the application.
    have hview := H2Session.step_view hcalls
    rw [List.foldl_cons, List.foldl_nil, hend.role, hend.config_eq] at hview
    have hentry : ((x.endpoint side).view sessionId).entry = some w := hend.entry
    let sc : SessionScope :=
      { isServer := side, config := config side, sessionId := sessionId,
        entry := ((x.endpoint side).view sessionId).entry }
    have hscope : sc.entry = some w := hentry
    rcases hend.standing.api hscope rfl rfl rfl hop hrange with
      ⟨w', new, hentry', heffects, hbuffer, hstanding⟩
    have hcalled : ((x.endpoint side).view sessionId).call side (config side) sessionId (.api op) =
        ⟨some w', effectsOf sessionId (x.endpoint side).trace ++ new.map .capsule⟩ := by
      rw [← hentry', ← heffects]
      rfl
    rw [hcalled] at hview
    have hqueued : (x.step sessionId (.act side input)).queued sessionId side =
        x.queued sessionId side ++ new := by
      rw [queued_eq, hat, hview, Effect.capsules_append, SessionScope.capsules_map_capsule]
      rfl
    have hgrown : (fun id => calls side id ++
        (Move.act side input).accepted sessionId x side id) =
        fun id => calls side id ++ op.taken w id := by
      funext id
      rw [haccepted id, hcalls, List.flatMap_singleton]
      rfl
    have hafter : (x.step sessionId (.act side input)).End config sessionId side
        (fun id => calls side id ++ op.taken w id) w' taken := by
      refine ⟨?_, ?_, ?_, ?_, ?_, ?_, ?_, ?_⟩
      · rw [hat]
        exact hsees.role.trans hend.role
      · rw [hat]
        exact hsees.config.trans hend.config_eq
      · rw [hat]
        exact congrArg View.entry hview
      · have htrace : effectsOf sessionId
          ((x.step sessionId (.act side input)).endpoint side).trace =
            effectsOf sessionId (x.endpoint side).trace ++ new.map .capsule := by
          rw [hat]
          exact congrArg View.effects hview
        have hall := hend.delivers.append (delivers_capsules hstanding.account.lawful)
        rw [List.append_nil] at hall
        rw [htrace]
        exact hall
      · rw [hqueued]
        exact hstanding
      · rcases hend.arriving with ⟨rest, hrest, hbytes⟩
        refine ⟨rest, hunmoved.trans hrest, ?_⟩
        have hunderway : (x.step sessionId (.act side input)).underway sessionId side =
            x.underway sessionId side := by
          unfold underway
          rw [hunmoved]
          rfl
        rw [hbuffer, hunderway]
        exact hbytes
      · rw [hunmoved]
        exact hend.handed_le
      · rw [hbuffer]
        exact hend.waits
    rw [← hgrown] at hafter
    exact h.set side rfl rfl new hqueued hpeerCalls ⟨w', taken, hafter⟩

/-- The payloads that an endpoint queued are within the limit of the other one. -/
def Fits (config : Bool → H2SessionConfig) (sessionId : Int) (x : Exchange) : Prop :=
  ∀ side, ∀ c ∈ x.queued sessionId side,
    c.payload.length ≤ (config !side).wtMaxCapsulePayloadSize

/-- What a DATA frame of the session runs at a sound end. -/
theorem End.dataCalls (h : x.End config sessionId side called w taken) (data : Bytes) :
    (x.endpoint side).callsOf sessionId (.recvData sessionId data none) =
      if data.length = 0 then [] else [.recvEstablished data] := by
  have hentry : (x.endpoint side).wtSessions.find? sessionId = some w := h.entry
  simp only [H2Session.callsOf, H2Session.dataCalls, hentry, h.standing.live,
    h.standing.established, Bool.false_eq_true, if_false, if_true, H2Session.onSession]

/-- A DATA frame with bytes of the session keeps both ends sound. -/
theorem Sound.deliver (h : x.Sound config sessionId calls) (hfits : x.Fits config sessionId)
    (size : Nat) : (x.step sessionId (.deliver side size)).Sound config sessionId calls := by
  rcases h side with ⟨w, taken, hend⟩
  rcases h (!side) with ⟨w', taken', hpeer⟩
  let data := (x.underway sessionId side).take size
  let more := (x.underway sessionId side).drop data.length
  have hsplit : data ++ more = x.underway sessionId side :=
    List.prefix_iff_eq_append.1 (List.take_prefix size _)
  have hsees := H2Session.step_calls (x.endpoint side) sessionId (.recvData sessionId data none)
  let x' := x.step sessionId (.deliver side size)
  have hat : x'.endpoint side = (x.endpoint side).step (.recvData sessionId data none) :=
    Function.update_self _ _ _
  have hother : x'.endpoint (!side) = x.endpoint (!side) :=
    Function.update_of_ne (Bool.not_ne_self side) _ _
  have hhanded : x'.handed side = x.handed side + data.length := Function.update_self _ _ _
  have hhanded' : x'.handed (!side) = x.handed (!side) :=
    Function.update_of_ne (Bool.not_ne_self side) _ _
  have hunmoved : x'.queued sessionId (!side) = x.queued sessionId (!side) := by
    rw [queued_eq, queued_eq, hother]
  have hentry : (x.endpoint side).wtSessions.find? sessionId = some w := hend.entry
  have hunderway : x'.underway sessionId side = more := by
    unfold underway
    rw [hunmoved, hhanded, ← List.drop_drop]
    rfl
  have hcalls := hend.dataCalls data
  by_cases hempty : data.length = 0
  · rw [hcalls, if_pos hempty] at hsees
    have hview : ((x.endpoint side).step (.recvData sessionId data none)).view sessionId =
        (x.endpoint side).view sessionId := hsees.path.symm
    refine h.set side rfl hhanded' [] ?_ rfl ⟨w, taken, hend.grow [] ?_ ?_ ?_ ?_ ?_⟩
    · rw [queued_eq, queued_eq, hat, hview, List.append_nil]
    · rw [hat]
      exact hview
    · rw [hat]
      exact hsees.role
    · rw [hat]
      exact hsees.config
    · rw [hunmoved, List.append_nil]
    · rw [hhanded, hempty, Nat.add_zero]
  · rw [if_neg hempty] at hcalls
    have hview := H2Session.step_view hcalls
    rw [List.foldl_cons, List.foldl_nil, hend.role, hend.config_eq] at hview
    let sc : SessionScope :=
      { isServer := side, config := config side, sessionId := sessionId,
        entry := ((x.endpoint side).view sessionId).entry }
    have hscope : sc.entry = some w := hentry
    rcases hend.arriving with ⟨rest, hrest, hbytes⟩
    rw [← hsplit] at hbytes
    have hreceiving : Receiving side (config side) (config !side) sc (calls side)
        (x.queued sessionId side) taken rest (data ++ more) :=
      ⟨rfl, rfl, w, hend.entry, hend.standing, hbytes⟩
    have hheard : taken'.map Capsule.received <+:
        (x.queued sessionId side).map Capsule.received := by
      rcases hpeer.arriving with ⟨rest', hrest', -⟩
      rw [Bool.not_not] at hrest'
      rw [hrest', List.map_append]
      exact List.prefix_append _ _
    have hpayload := hfits (!side)
    have hstanding' := hpeer.standing
    rw [Bool.not_not] at hpayload hstanding'
    rcases hreceiving.recvEstablished hstanding' hpayload hheard hrest with
      ⟨es, new, rest', heffects, hdelivers, rfl, hafter, hwaits⟩
    rcases hafter.standing with ⟨v, hentry', hstanding, hbytes'⟩
    have hcalled : ((x.endpoint side).view sessionId).call side (config side) sessionId
        (.recvEstablished data) =
        ⟨some v, effectsOf sessionId (x.endpoint side).trace ++ es⟩ := by
      have hes : (sc.recvEstablished data).effects = es := heffects
      rw [← hentry', ← hes]
      rfl
    rw [hcalled] at hview
    have hqueued : x'.queued sessionId side = x.queued sessionId side ++ Effect.capsules es := by
      rw [queued_eq, hat, hview, Effect.capsules_append]
      rfl
    refine h.set side rfl hhanded' _ hqueued rfl ⟨v, taken ++ new, ?_⟩
    refine ⟨?_, ?_, ?_, ?_, ?_, ?_, ?_, ?_⟩
    · rw [hat]
      exact hsees.role.trans hend.role
    · rw [hat]
      exact hsees.config.trans hend.config_eq
    · rw [hat]
      exact congrArg View.entry hview
    · have htrace : effectsOf sessionId (x'.endpoint side).trace =
          effectsOf sessionId (x.endpoint side).trace ++ es := by
        rw [hat]
        exact congrArg View.effects hview
      rw [htrace, List.map_append]
      exact hend.delivers.append hdelivers
    · rw [hqueued]
      exact hstanding
    · refine ⟨rest', ?_, ?_⟩
      · rw [hunmoved, hrest, List.append_assoc]
      · rw [hunderway]
        exact hbytes'
    · rw [hhanded, hunmoved]
      have hlength : data.length ≤ (x.underway sessionId side).length := by
        rw [← hsplit, List.length_append]
        exact Nat.le_add_right _ _
      have hle := hend.handed_le
      unfold underway at hlength
      rw [List.length_drop] at hlength
      omega
    · have hread := hwaits v hentry'
      rw [hafter.config_eq] at hread
      exact hread

/-- What an endpoint has queued stays queued. -/
theorem queued_step (x : Exchange) (move : Move) (side : Bool) :
    x.queued sessionId side <+: (x.step sessionId move).queued sessionId side := by
  have hinput : ∀ (s : H2Session) (input : H2Session.Input),
      Effect.capsules (s.view sessionId).effects <+:
        Effect.capsules ((s.step input).view sessionId).effects := by
    intro s input
    have hview := H2Session.view_of_path (H2Session.step_calls s sessionId input).path
    rw [hview]
    generalize s.callsOf sessionId input = calls
    generalize s.view sessionId = v
    induction calls generalizing v with
    | nil => exact List.prefix_rfl
    | cons c calls ih =>
        refine List.IsPrefix.trans ?_ (ih _)
        unfold View.call
        dsimp only
        rw [Effect.capsules_append]
        exact List.prefix_append _ _
  have hupdate : ∀ (acting : Bool) (input : H2Session.Input),
      Effect.capsules ((x.endpoint side).view sessionId).effects <+:
        Effect.capsules ((Function.update x.endpoint acting ((x.endpoint acting).step input)
          side).view sessionId).effects := by
    intro acting input
    by_cases hside : side = acting
    · rw [hside, Function.update_self]
      exact hinput _ _
    · rw [Function.update_of_ne hside]
  cases move with
  | act acting input => exact hupdate acting input
  | deliver acting size => exact hupdate acting _

theorem queued_run (x : Exchange) (moves : List Move) (side : Bool) :
    x.queued sessionId side <+: (x.run sessionId moves).queued sessionId side := by
  induction moves generalizing x with
  | nil => exact List.prefix_rfl
  | cons move moves ih => exact (queued_step x move side).trans (ih _)

/-- Both ends stay sound along an honest run whose payloads fit. -/
theorem Sound.run (h : x.Sound config sessionId calls) {moves : List Move}
    (hhonest : HonestRun sessionId x moves)
    (hfits : (x.run sessionId moves).Fits config sessionId) :
    (x.run sessionId moves).Sound config sessionId fun side id =>
      calls side id ++ accepted sessionId x side id moves := by
  induction moves generalizing x calls with
  | nil =>
      have hnone : (fun side id => calls side id ++ accepted sessionId x side id []) = calls := by
        funext side id
        exact List.append_nil _
      rw [hnone]
      exact h
  | cons move moves ih =>
      rcases hhonest with ⟨hmove, hrest⟩
      have hassoc : (fun side id => calls side id ++ accepted sessionId x side id (move :: moves)) =
          fun side id => calls side id ++ move.accepted sessionId x side id ++
            accepted sessionId (x.step sessionId move) side id moves := by
        funext side id
        exact (List.append_assoc _ _ _).symm
      rw [hassoc]
      refine ih ?_ hrest hfits
      cases move with
      | act side input => exact h.act hmove
      | deliver side size =>
          have hnone : (fun side' id => calls side' id ++
              (Move.deliver side size).accepted sessionId x side' id) = calls := by
            funext side' id
            exact List.append_nil _
          rw [hnone]
          refine h.deliver ?_ size
          intro side' c hc
          exact hfits side' c ((queued_run x _ side').subset hc)

end Steps

end Exchange

/-! ## From the opening on -/

/-- A client and a server, and how the client opens a session: `flush` is what nghttp2 fires in the
`flush_output` of `connect` and `accept_session`. -/
structure Handshake where
  config : Bool → H2SessionConfig
  session : Bool → H2Session
  created : ∀ side, H2Session.create side (config side) = .ok (session side)
  sessionId : Int
  id_valid : 0 < sessionId ∧ sessionId % 2 ≠ 0
  url : Bytes
  authority : Bytes
  path : Bytes
  target : parseAuthorityPath url = some (authority, path)
  origin : Bytes
  allowed : H2Session.verifyOrigin (config true)
    (H2Session.connectHeaders (config false) authority path origin) = true
  flush : Bool → List H2Session.WriteCallback
  resetFlush : List H2Session.WriteCallback
  flush_open : ∀ side, H2Session.closesOf sessionId (flush side) = []

namespace Handshake

/-- What each end does and reads. -/
def inputs (o : Handshake) : Bool → List H2Session.Input
  | true =>
      H2Session.serverOpening (o.config false) o.sessionId o.authority o.path o.origin
        (o.flush true) o.resetFlush
  | false => H2Session.clientOpening (o.config true) o.sessionId o.url o.origin (o.flush false)

/-- Both ends behind it. -/
def exchange (o : Handshake) : Exchange where
  endpoint side := (o.session side).run (o.inputs side)
  handed _ := 0

theorem opened (o : Handshake) : o.exchange.Opened o.config o.sessionId := by
  have hchecked : ∀ side, (o.config side).check = .ok () :=
    fun side => H2Session.check_of_create (o.created side)
  have hcreated : ∀ side, (o.session side).isServer = side ∧
      (o.session side).config = o.config side :=
    fun side => (H2Session.create_view (o.created side) o.sessionId).2
  refine ⟨hchecked, ?_, ?_, ?_, fun _ => rfl⟩
  · intro side
    have hsees := H2Session.run_calls (o.session side) o.sessionId (o.inputs side)
    exact hsees.role.trans (hcreated side).1
  · intro side
    have hsees := H2Session.run_calls (o.session side) o.sessionId (o.inputs side)
    exact hsees.config.trans (hcreated side).2
  · intro side
    cases side with
    | true =>
        have hat : o.exchange.endpoint true = (o.session true).run (o.inputs true) := by
          simp only [exchange]
        have hinputs : o.inputs true = H2Session.serverOpening (o.config false) o.sessionId
            o.authority o.path o.origin (o.flush true) o.resetFlush := rfl
        rw [hat, hinputs, Bool.not_true]
        exact H2Session.serverOpening_view (o.created true) (hchecked false) o.allowed o.id_valid
          (o.flush_open true)
    | false =>
        have hat : o.exchange.endpoint false = (o.session false).run (o.inputs false) := by
          simp only [exchange]
        have hinputs : o.inputs false = H2Session.clientOpening (o.config true) o.sessionId o.url
            o.origin (o.flush false) := rfl
        have hurl : parseAuthorityPath o.url ≠ none := by
          rw [o.target]
          exact Option.some_ne_none _
        rw [hat, hinputs, Bool.not_false]
        exact H2Session.clientOpening_view (o.created false) (hchecked true) hurl o.id_valid.1.le
          (o.flush_open false)

/-- Two endpoints that run this code never report an error to each other: as long as both are used
as they may be and their payloads stay within each other's limit, in every run, whatever is sent
when and however the bytes are cut up, both have the session open, and neither has pushed an error
or a close, queued a WT_CLOSE_SESSION, or shut the stream down. -/
theorem no_spurious_errors (o : Handshake) {moves : List Exchange.Move}
    (hhonest : Exchange.HonestRun o.sessionId o.exchange moves)
    (hfits : (o.exchange.run o.sessionId moves).Fits o.config o.sessionId) (side : Bool) :
    (∃ w, ((o.exchange.run o.sessionId moves).endpoint side).wtSessions.find? o.sessionId = some w ∧
      w.isTerminated = false ∧ w.isEstablished = true) ∧
    ∀ e ∈ effectsOf o.sessionId ((o.exchange.run o.sessionId moves).endpoint side).trace,
        e.Calm := by
  rcases (o.opened.sound.run hhonest hfits) side with ⟨w, taken, hend⟩
  exact ⟨⟨w, hend.entry, hend.standing.live, hend.standing.established⟩, hend.delivers.calm⟩

/-- Both ends with the default configuration, and the session 1. -/
def plain : Handshake where
  config _ := {}
  session side := { isServer := side, config := {} }
  created side := by cases side <;> rfl
  sessionId := 1
  id_valid := by decide
  url := ascii "https://a/"
  authority := ascii "a"
  path := ascii "/"
  target := by decide
  origin := []
  allowed := by decide
  flush _ := []
  resetFlush := []
  flush_open _ := rfl

/-- The client opens a stream and sends three bytes and the end on it. -/
def threeBytes : List Exchange.Move :=
  [.act false (.openStream 1 false), .act false (.sendStreamData 1 0 [1, 2, 3] true),
    .deliver false 7, .deliver true 20, .deliver true 20]

theorem threeBytes_honest : Exchange.HonestRun 1 plain.exchange threeBytes := by
  have hsize : [1, 2, (3 : UInt8)].length ≤ kMaxPythonInputBytes := by decide
  exact ⟨Or.inr ⟨.openStream false, rfl, trivial, trivial⟩,
    Or.inr ⟨.sendStreamData 0 [1, 2, 3] true, rfl, trivial, hsize⟩, trivial, trivial, trivial,
    trivial⟩

theorem threeBytes_fits : (plain.exchange.run 1 threeBytes).Fits plain.config 1 := by
  unfold Exchange.Fits
  decide +kernel

theorem no_spurious_errors_three_bytes :
    (∃ w, ((plain.exchange.run 1 threeBytes).endpoint true).wtSessions.find? 1 = some w ∧
      w.isTerminated = false ∧ w.isEstablished = true) ∧
    ∀ e ∈ effectsOf 1 ((plain.exchange.run 1 threeBytes).endpoint true).trace, e.Calm :=
  no_spurious_errors plain threeBytes_honest threeBytes_fits true

end Handshake

end H2
end WebTransport
