import WebTransport.H2.Exchange
import WebTransport.H2.Parked
import WebTransport.H2.RecvWindow

/-!
# H2.Progress — the flow control of two endpoints does not lock up

Data that `send_stream_data` took in waits in a queue only for credit, and the credit comes from
the other end, which gives more of it while it takes data in.  When nothing is on its way any more,
both ends have counted the same bytes and know the same limits, half of every window is open, and
so nothing waits.

* `Holds`      : a property of both entries, along an honest run;
* `Quiet`      : everything queued was taken in, and what follows for the two ends;
* `no_deadlock` : then no send queue holds anything back.
-/

namespace WebTransport
namespace H2

open Bindings
open Received
open WtSessionInfo (Parked Windowed parked_keeping windowed_lasting)

namespace Exchange

/-- Both entries of the session have the property. -/
def Holds (sessionId : Int) (P : Bool → WtSessionInfo → Prop) (x : Exchange) : Prop :=
  ∀ side w, (x.endpoint side).wtSessions.find? sessionId = some w → P side w

/-- A move that makes only calls that the application is permitted. -/
def Move.Permitted (sessionId : Int) (permitted : WtSessionInfo → Op → Prop) (x : Exchange) :
    Move → Prop
  | .act side input => ∀ op w, Call.api op ∈ (x.endpoint side).callsOf sessionId input →
      (x.endpoint side).wtSessions.find? sessionId = some w → permitted w op
  | .deliver _ _ => True

/-- A move that sends no empty data. -/
def Move.Filled : Move → Prop
  | .act _ (.sendStreamData _ _ data _) => data ≠ []
  | _ => True

section Steps

variable {config : Bool → H2SessionConfig} {sessionId : Int} {x : Exchange} {side : Bool}
  {w : WtSessionInfo} {taken : List Capsule} {called : Nat → List PendingSend}
  {calls : Bool → Nat → List PendingSend} {permitted : WtSessionInfo → Op → Prop}
  {P : Bool → WtSessionInfo → Prop}

/-- Only `send_stream_data` sends data. -/
theorem Move.Filled.sends {move : Move} (h : move.Filled) (sessionId : Int) (x : Exchange) :
    move.Permitted sessionId (fun _ op => op.Filled) x := by
  cases move with
  | deliver side size => trivial
  | act side input =>
      intro op w hmem _
      have hruns := H2Session.runs_of_mem _ hmem
      cases input with
      | sendStreamData streamId id data fin =>
          have hcall := (H2Session.mem_onSession hmem).2
          cases hcall
          exact h
      | openStream streamId isUni =>
          cases (H2Session.mem_onSession hmem).2
          trivial
      | resetStream streamId id errorCode =>
          cases (H2Session.mem_onSession hmem).2
          trivial
      | stopSending streamId id errorCode =>
          cases (H2Session.mem_onSession hmem).2
          trivial
      | sendDatagram streamId data =>
          cases (H2Session.mem_onSession hmem).2
          trivial
      | closeSession streamId errorCode message =>
          cases (H2Session.mem_onSession hmem).2
          trivial
      | drainSession streamId =>
          cases (H2Session.mem_onSession hmem).2
          trivial
      | _ => cases hruns

theorem Move.permitted_all (move : Move) (sessionId : Int) (x : Exchange) :
    move.Permitted sessionId (fun _ _ => True) x := by
  cases move with
  | act side input => exact fun _ _ _ _ => trivial
  | deliver side size => trivial

/-- A session method that the application is permitted keeps the property of its entry. -/
theorem End.keeps (h : x.End config sessionId side called w taken)
    (hP : Keeping (config side) side permitted (P side)) (hw : P side w) {input : H2Session.Input}
    {c : Call} (hcalls : (x.endpoint side).callsOf sessionId input = [c])
    (hpermitted : c.Permitted permitted (some w))
    (hrequest : ∀ w events, c ≠ .request w events) :
    ∀ w', ((x.endpoint side).step input).wtSessions.find? sessionId = some w' → P side w' := by
  let sc : SessionScope :=
    { isServer := side, config := config side, sessionId := sessionId,
      entry := ((x.endpoint side).view sessionId).entry }
  have hentry : sc.entry = some w := h.entry
  have hholding : Keeping.Holding (config side) side (P side) sc := by
    refine ⟨⟨rfl, ?_⟩, rfl, ?_⟩
    · intro w' hw'
      cases hentry.symm.trans hw'
      exact h.standing.wf
    · intro w' hw'
      cases hentry.symm.trans hw'
      exact hw
  have hpath := (H2Session.step_calls (x.endpoint side) sessionId input).path
  rw [hcalls, h.role, h.config_eq] at hpath
  rcases hpath with ⟨mid, ⟨hallowed, rfl⟩, hend⟩
  have hview : ((x.endpoint side).step input).view sessionId =
      ((x.endpoint side).view sessionId).call side (config side) sessionId c := hend.symm
  intro w' hw'
  have hcall := hP.call hholding c hallowed (hentry ▸ hpermitted)
    fun w events heq => absurd heq (hrequest w events)
  refine hcall.entry w' ?_
  have hat : (((x.endpoint side).step input).view sessionId).entry = some w' := hw'
  rw [hview] at hat
  exact hat

/-- An honest move keeps a property that both ends keep. -/
theorem Holds.step (h : x.Holds sessionId P) (hsound : x.Sound config sessionId calls)
    (hP : ∀ side, Keeping (config side) side permitted (P side)) {move : Move}
    (hhonest : move.Honest sessionId x) (hpermitted : move.Permitted sessionId permitted x) :
    (x.step sessionId move).Holds sessionId P := by
  -- Only the end at which something happens moves.
  have hmove : ∀ (acting : Bool) (input : H2Session.Input),
      (∀ w', ((x.endpoint acting).step input).wtSessions.find? sessionId = some w' → P acting w') →
      ∀ side w', (Function.update x.endpoint acting ((x.endpoint acting).step input) side
        ).wtSessions.find? sessionId = some w' → P side w' := by
    intro acting input hacting side w' hw'
    by_cases hside : side = acting
    · rw [hside, Function.update_self] at hw'
      rw [hside]
      exact hacting w' hw'
    · rw [Function.update_of_ne hside] at hw'
      exact h side w' hw'
  have hidle : ∀ (acting : Bool) (input : H2Session.Input),
      (x.endpoint acting).callsOf sessionId input = [] →
      ∀ w', ((x.endpoint acting).step input).wtSessions.find? sessionId = some w' →
        P acting w' := by
    intro acting input hnone w' hw'
    have hpath := (H2Session.step_calls (x.endpoint acting) sessionId input).path
    rw [hnone] at hpath
    have hsame : (x.endpoint acting).view sessionId =
        ((x.endpoint acting).step input).view sessionId := hpath
    exact h acting w' ((congrArg View.entry hsame).trans hw')
  cases move with
  | act acting input =>
      rcases hsound acting with ⟨w, taken, hend⟩
      refine hmove acting input ?_
      rcases hhonest with hnone | ⟨op, hcalls, -, -⟩
      · exact hidle acting input hnone
      · have hmem : Call.api op ∈ (x.endpoint acting).callsOf sessionId input := by
          rw [hcalls]
          exact List.mem_singleton_self _
        refine hend.keeps (hP acting) (h acting w hend.entry) hcalls ?_ fun _ _ heq => by cases heq
        intro op' w' hop hw'
        cases hop
        cases hw'
        exact hpermitted op w hmem hend.entry
  | deliver acting size =>
      rcases hsound acting with ⟨w, taken, hend⟩
      refine hmove acting (.recvData sessionId ((x.underway sessionId acting).take size) none) ?_
      have hcalls := hend.dataCalls ((x.underway sessionId acting).take size)
      split_ifs at hcalls
      · exact hidle acting _ hcalls
      · refine hend.keeps (hP acting) (h acting w hend.entry) hcalls ?_ fun _ _ heq => by cases heq
        intro op w' hop
        cases hop

/-- A property that both ends keep holds of both entries along an honest run. -/
theorem Holds.run (h : x.Holds sessionId P) (hsound : x.Sound config sessionId calls)
    (hP : ∀ side, Keeping (config side) side permitted (P side)) {moves : List Move}
    (hhonest : HonestRun sessionId x moves)
    (hpermitted : ∀ move ∈ moves, ∀ x, Move.Permitted sessionId permitted x move)
    (hfits : (x.run sessionId moves).Fits config sessionId) :
    (x.run sessionId moves).Holds sessionId P := by
  induction moves generalizing x calls with
  | nil => exact h
  | cons move moves ih =>
      rcases hhonest with ⟨hmove, hrest⟩
      have hone : HonestRun sessionId x [move] := ⟨hmove, trivial⟩
      have hfits' : (x.run sessionId [move]).Fits config sessionId := by
        intro side' c hc
        exact hfits side' c ((queued_run (x.step sessionId move) moves side').subset hc)
      refine ih ?_ (hsound.run hone hfits') hrest ?_ hfits
      · exact h.step hsound hP hmove (hpermitted move List.mem_cons_self x)
      · exact fun move' hmem => hpermitted move' (List.mem_cons_of_mem _ hmem)

/-! ## Nothing on its way -/

/-- Everything that either end has queued was handed to the other one. -/
def Quiet (sessionId : Int) (x : Exchange) : Prop :=
  ∀ side, x.underway sessionId side = []

/-- Then either end has taken in all that the other one queued. -/
theorem Sound.quiet (h : x.Sound config sessionId calls) (hfits : x.Fits config sessionId)
    (hquiet : x.Quiet sessionId) (side : Bool) :
    ∃ w, x.End config sessionId side (calls side) w (x.queued sessionId !side) := by
  rcases h side with ⟨w, taken, hend⟩
  rcases h (!side) with ⟨w', taken', hpeer⟩
  rcases hend.arriving with ⟨rest, hrest, hbytes⟩
  rw [hquiet side, List.append_nil] at hbytes
  have hstanding' := hpeer.standing
  have hpayload := hfits (!side)
  rw [Bool.not_not] at hstanding' hpayload
  have hsizes := hstanding'.fits hpayload
  have hall : ∀ c ∈ rest, SessionScope.Fits (config side) (c.type.toNat, c.payload) := by
    intro c hc
    refine hsizes c ?_
    rw [hrest]
    exact List.mem_append_right _ hc
  have hnone : rest = [] := wire_read hall hbytes hend.waits
  have htaken : x.queued sessionId (!side) = taken := by
    rw [hrest, hnone, List.append_nil]
  refine ⟨w, ?_⟩
  rw [htaken]
  exact hend

end Steps

end Exchange

/-! ## Two ends that have heard each other -/

section Level

variable {isServer : Bool} {own other : H2SessionConfig} {w w' : WtSessionInfo}
  {cs cs' : List Capsule} {calls calls' : Nat → List PendingSend} {id : Nat} {info : WtStreamInfo}

/-- A window that is half open, and whose limit was not reached, leaves something to send. -/
theorem HalfOpen.room {initial count limit : Nat} (h : HalfOpen initial count limit)
    (hpos : 0 < initial) (hcount : count < kMaxQuicVarint) : count < limit := by
  rcases h hpos with hend | hopen
  · rw [hend]
    exact hcount
  · have hhalf : 0 < (initial + 1) / 2 := Nat.div_pos (by omega) (by decide)
    omega

/-- The session has credit. -/
theorem Standing.session_credit
    (h : Standing isServer own other w calls cs (cs'.map Capsule.received))
    (h' : Standing (!isServer) other own w' calls' cs' (cs.map Capsule.received))
    (hwindow : Windowed other w') (hpos : 0 < other.wtInitialMaxData)
    (hcount : w.bytesSent < kMaxQuicVarint) : w.bytesSent < w.maxDataLocal := by
  have hbytes : w'.bytesReceived = w.bytesSent := h'.account.received.trans h.account.sent.symm
  have hlimit : w.maxDataLocal = w'.maxDataRemote :=
    h.account.data_limit.trans (top_of_ascends h'.account.data_granted)
  have hopen := hwindow.halfOpen
  rw [hbytes] at hopen
  rw [hlimit]
  exact hopen.room hpos hcount

/-- A stream on which this side may still send, and that the other side did not stop, has
credit. -/
theorem Standing.stream_credit
    (h : Standing isServer own other w calls cs (cs'.map Capsule.received))
    (h' : Standing (!isServer) other own w' calls' cs' (cs.map Capsule.received))
    (hwindow : Windowed other w') (hpos : 0 < other.wtInitialMaxStreamData)
    (hfind : w.streams.find? id = some info) (hready : info.sendState.sendDone = false)
    (hsends : isReceivableFlowCapsule id isServer = true)
    (hstop : id ∉ w'.sentStopSendingStreamIds)
    (hcount : info.bytesSent < kMaxQuicVarint) : info.bytesSent < info.maxStreamDataLocal := by
  have hbooks := (h.account.stream id).found info hfind
  have hpeer := h'.account.stream id
  cases hfind' : w'.streams.find? id with
  | some info' =>
      -- both ends have an entry, and it counts the same
      have hbooks' := hpeer.found info' hfind'
      have hbytes : info'.bytesReceived = info.bytesSent := hbooks'.received.trans hbooks.sent.symm
      have hlimit : info.maxStreamDataLocal = info'.maxStreamDataRemote :=
        hbooks.limit.trans (top_of_ascends hbooks'.granted)
      have hopen := (hwindow.stream hfind').halfOpen hstop
      rw [hbytes] at hopen
      rw [hlimit]
      exact hopen.room hpos hcount
  | none =>
      rcases hpeer.absent hfind' with hconcluded | hunborn
      · -- the other end has released the stream, so it has seen its end
        have hreceives : isReceivableDataCapsule id (!isServer) = true := by
          rw [isReceivableDataCapsule_not]
          exact hsends
        have hended := hconcluded.recv hreceives
        rw [hbooks.send_done, hended] at hready
        cases hready
      · -- the other end has not heard of the stream
        rw [hbooks.sent, dataBytes_of_not_begun hunborn.not_begun, hbooks.limit, hunborn.silent]
        exact hpos

/-- Where both ends have heard each other, nothing waits. -/
theorem Standing.nothing_waits
    (h : Standing isServer own other w calls cs (cs'.map Capsule.received))
    (h' : Standing (!isServer) other own w' calls' cs' (cs.map Capsule.received))
    (hparked : w.Parked) (hwindow : Windowed other w') (hdata : 0 < other.wtInitialMaxData)
    (hstream : 0 < other.wtInitialMaxStreamData) (hcount : w.bytesSent < kMaxQuicVarint)
    (hfind : w.streams.find? id = some info) (hstop : id ∉ w'.sentStopSendingStreamIds) :
    info.pendingSends = [] := by
  by_contra hne
  have hinfo := h.wf.stream hfind
  have hopen : info.sendState.sendDone = false := by
    rw [Bool.eq_false_iff]
    exact fun hdone => hne ((hparked.tidy hfind).ended hdone)
  have hready : info.sendState = .ready := by
    refine hinfo.send_state.resolve_right fun hdone => ?_
    exact absurd (hopen.symm.trans hdone) Bool.false_ne_true
  have hsends : isReceivableFlowCapsule id isServer = true :=
    sends_of_sendable hinfo (hinfo.pending_sendable hne)
  have hpart : info.bytesSent ≤ w.bytesSent := by
    rw [((h.account.stream id).found info hfind).sent, h.account.sent]
    exact dataBytes_about_le id _
  rcases (hparked.drained id info hfind hready hne).2 with hsession | hexhausted
  · exact absurd hsession (not_le.2 (h.session_credit h' hwindow hdata hcount))
  · refine absurd hexhausted (not_le.2 ?_)
    exact h.stream_credit h' hwindow hstream hfind hopen hsends hstop (hpart.trans_lt hcount)

end Level

/-- When nothing is on its way any more, no stream holds data back that the peer did not stop. -/
theorem Exchange.Sound.nothing_waits {config : Bool → H2SessionConfig} {sessionId : Int}
    {x : Exchange} {calls : Bool → Nat → List PendingSend} (h : x.Sound config sessionId calls)
    (hfits : x.Fits config sessionId) (hquiet : x.Quiet sessionId)
    (hwindow : x.Holds sessionId fun side => Windowed (config side))
    (hparked : x.Holds sessionId fun _ => Parked)
    (hdata : ∀ side, 0 < (config side).wtInitialMaxData)
    (hstream : ∀ side, 0 < (config side).wtInitialMaxStreamData) {side : Bool}
    {w w' : WtSessionInfo} (hentry : (x.endpoint side).wtSessions.find? sessionId = some w)
    (hentry' : (x.endpoint !side).wtSessions.find? sessionId = some w')
    (hcount : w.bytesSent < kMaxQuicVarint) {id : Nat} {info : WtStreamInfo}
    (hfind : w.streams.find? id = some info) (hstop : id ∉ w'.sentStopSendingStreamIds) :
    info.pendingSends = [] := by
  rcases h.quiet hfits hquiet side with ⟨v, hend⟩
  rcases h.quiet hfits hquiet (!side) with ⟨v', hend'⟩
  cases hentry.symm.trans hend.entry
  cases hentry'.symm.trans hend'.entry
  have hstanding' := hend'.standing
  rw [Bool.not_not] at hstanding'
  exact hend.standing.nothing_waits hstanding' (hparked side w hentry) (hwindow (!side) w' hentry')
    (hdata _) (hstream _) hcount hfind hstop

namespace Handshake

/-- The entries of a session that was just opened. -/
theorem entry_opened (o : Handshake) {side : Bool} {w : WtSessionInfo}
    (h : (o.exchange.endpoint side).wtSessions.find? o.sessionId = some w) :
    w = H2Session.opened (o.config side) (o.config !side) o.sessionId := by
  rcases o.opened.view side with ⟨es, hview, -, -⟩
  have hentry := congrArg View.entry hview
  exact Option.some.inj (h.symm.trans hentry)

/-- Along an honest run the windows of both ends stay open. -/
theorem windowed_run (o : Handshake) {moves : List Exchange.Move}
    (hhonest : Exchange.HonestRun o.sessionId o.exchange moves)
    (hfits : (o.exchange.run o.sessionId moves).Fits o.config o.sessionId) :
    (o.exchange.run o.sessionId moves).Holds o.sessionId fun side => Windowed (o.config side) := by
  have hsettings : kMaxSettingsValue ≤ kMaxQuicVarint := by decide
  have hinitial : ∀ side, (o.config side).wtInitialMaxData ≤ kMaxQuicVarint ∧
      (o.config side).wtInitialMaxStreamData ≤ kMaxQuicVarint := by
    intro side
    rcases H2SessionConfig.check_ok (o.opened.checked side) with ⟨hdata, hstream, -, -⟩
    exact ⟨hdata.trans hsettings, hstream.trans hsettings⟩
  have hstart : o.exchange.Holds o.sessionId fun side => Windowed (o.config side) := by
    intro side w hentry
    rw [o.entry_opened hentry]
    refine ⟨within_fresh (hinitial side).1, halfOpen_fresh _, ?_⟩
    intro id info hfind
    cases hfind
  have hlasting : ∀ side, Keeping (o.config side) side (fun _ _ => True)
      (Windowed (o.config side)) :=
    fun side => (windowed_lasting (hinitial side).1 (hinitial side).2).toKeeping
  exact hstart.run o.opened.sound hlasting hhonest (fun move _ x => move.permitted_all _ x) hfits

/-- Along an honest run without empty data what is queued waits for credit. -/
theorem parked_run (o : Handshake) {moves : List Exchange.Move}
    (hhonest : Exchange.HonestRun o.sessionId o.exchange moves)
    (hfilled : ∀ move ∈ moves, move.Filled)
    (hfits : (o.exchange.run o.sessionId moves).Fits o.config o.sessionId) :
    (o.exchange.run o.sessionId moves).Holds o.sessionId fun _ => Parked := by
  have hstart : o.exchange.Holds o.sessionId fun _ => Parked := by
    intro side w hentry
    rw [o.entry_opened hentry]
    refine ⟨?_, ?_⟩
    · intro id info hfind
      cases hfind
    · intro id info hfind
      cases hfind
  exact hstart.run o.opened.sound (fun side => parked_keeping (o.config side) side) hhonest
    (fun move hmem x => (hfilled move hmem).sends _ x) hfits

/-- The flow control of two endpoints that run this code does not lock up: as long as both send no
empty data, however it is sent and however the bytes are cut up, when nothing is on its way any more
no stream holds data back, unless the other end has stopped it. -/
theorem no_deadlock (o : Handshake) {moves : List Exchange.Move}
    (hhonest : Exchange.HonestRun o.sessionId o.exchange moves)
    (hfilled : ∀ move ∈ moves, move.Filled)
    (hfits : (o.exchange.run o.sessionId moves).Fits o.config o.sessionId)
    (hdata : ∀ side, 0 < (o.config side).wtInitialMaxData)
    (hstream : ∀ side, 0 < (o.config side).wtInitialMaxStreamData)
    (hquiet : (o.exchange.run o.sessionId moves).Quiet o.sessionId) {side : Bool}
    {w w' : WtSessionInfo}
    (hentry : ((o.exchange.run o.sessionId moves).endpoint side).wtSessions.find? o.sessionId =
      some w)
    (hentry' : ((o.exchange.run o.sessionId moves).endpoint !side).wtSessions.find? o.sessionId =
      some w')
    (hcount : w.bytesSent < kMaxQuicVarint) :
    ∀ id info, w.streams.find? id = some info → id ∉ w'.sentStopSendingStreamIds →
      info.pendingSends = [] := by
  have hwindowed := o.windowed_run hhonest hfits
  have hparked := o.parked_run hhonest hfilled hfits
  have hsound := o.opened.sound.run hhonest hfits
  intro id info hfind hstop
  exact hsound.nothing_waits hfits hquiet hwindowed hparked hdata hstream hentry hentry' hcount
    hfind hstop

/-- Both ends give each other windows of two bytes only. -/
def narrow : Handshake :=
  { plain with
    config := fun _ => { wtInitialMaxData := 2, wtInitialMaxStreamData := 2 }
    session := fun side =>
      { isServer := side, config := { wtInitialMaxData := 2, wtInitialMaxStreamData := 2 } }
    created := fun side => by cases side <;> rfl
    allowed := by decide }

/-- The client sends three bytes through them, and both ends take in whatever comes. -/
def throughNarrow : List Exchange.Move :=
  [.act false (.openStream 1 false), .act false (.sendStreamData 1 0 [1, 2, 3] false),
    .deliver false 20, .deliver true 40, .deliver false 40, .deliver true 40, .deliver false 40]

theorem throughNarrow_honest : Exchange.HonestRun 1 narrow.exchange throughNarrow := by
  have hsize : [1, 2, (3 : UInt8)].length ≤ kMaxPythonInputBytes := by decide
  exact ⟨Or.inr ⟨.openStream false, rfl, trivial, trivial⟩,
    Or.inr ⟨.sendStreamData 0 [1, 2, 3] false, rfl, trivial, hsize⟩, trivial, trivial, trivial,
    trivial, trivial, trivial⟩

theorem throughNarrow_filled : ∀ move ∈ throughNarrow, move.Filled := by
  simp [throughNarrow, Exchange.Move.Filled]

theorem throughNarrow_fits : (narrow.exchange.run 1 throughNarrow).Fits narrow.config 1 := by
  unfold Exchange.Fits
  decide +kernel

theorem throughNarrow_quiet : (narrow.exchange.run 1 throughNarrow).Quiet 1 := by
  unfold Exchange.Quiet
  decide +kernel

/-- Behind the three bytes, with the stream not stopped. -/
theorem throughNarrow_entries :
    ∃ w w' info,
      ((narrow.exchange.run 1 throughNarrow).endpoint false).wtSessions.find? 1 = some w ∧
      ((narrow.exchange.run 1 throughNarrow).endpoint true).wtSessions.find? 1 = some w' ∧
      w.bytesSent < kMaxQuicVarint ∧ 0 ∉ w'.sentStopSendingStreamIds ∧
      w.streams.find? 0 = some info ∧ info.bytesSent = 3 := by
  have hstate : (((narrow.exchange.run 1 throughNarrow).endpoint false).wtSessions.find? 1).any
      (fun w => decide (w.bytesSent < kMaxQuicVarint) && (w.streams.find? 0).any fun info =>
        decide (info.bytesSent = 3)) = true := by
    decide +kernel
  have hpeer : (((narrow.exchange.run 1 throughNarrow).endpoint true).wtSessions.find? 1).any
      (fun w => decide (0 ∉ w.sentStopSendingStreamIds)) = true := by
    decide +kernel
  rcases (Option.any_eq_true _ _).1 hstate with ⟨w, hentry, hw⟩
  rcases (Option.any_eq_true _ _).1 hpeer with ⟨w', hentry', hw'⟩
  rw [Bool.and_eq_true, decide_eq_true_eq] at hw
  rcases (Option.any_eq_true _ _).1 hw.2 with ⟨info, hfind, hinfo⟩
  exact ⟨w, w', info, hentry, hentry', hw.1, of_decide_eq_true hw', hfind,
    of_decide_eq_true hinfo⟩

theorem no_deadlock_narrow :
    ∃ w info, ((narrow.exchange.run 1 throughNarrow).endpoint false).wtSessions.find? 1 = some w ∧
      w.streams.find? 0 = some info ∧ info.bytesSent = 3 ∧ info.pendingSends = [] := by
  rcases throughNarrow_entries with
    ⟨w, w', info, hentry, hentry', hcount, hstop, hfind, hinfo⟩
  have hpos : ∀ side, 0 < (narrow.config side).wtInitialMaxData := fun _ => Nat.zero_lt_two
  have hpos' : ∀ side, 0 < (narrow.config side).wtInitialMaxStreamData :=
    fun _ => Nat.zero_lt_two
  have hnone := no_deadlock narrow throughNarrow_honest throughNarrow_filled throughNarrow_fits hpos
    hpos' throughNarrow_quiet hentry hentry' hcount 0 info hfind hstop
  exact ⟨w, info, hentry, hfind, hinfo, hnone⟩

end Handshake

end H2
end WebTransport
