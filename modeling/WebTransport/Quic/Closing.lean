import WebTransport.Quic.Connection

/-!
# Quic.Closing — the closing period

A local `close` that could build a CONNECTION_CLOSE keeps the packet until the closing period is over.
The first `send` delivers it whatever the time is; afterwards it answers a received datagram, once for
each, and only before the expiry.  `ClosePhase` is that protocol with everything else taken away.
The connection follows it (`Fits.step`), so what holds of the phases holds of every run.
-/

namespace WebTransport
namespace Quic

open QuicConnection

variable {N : Ngtcp2}

/-! ## What the calls leave alone -/

/-- The ConnectionClosed events among `events`. -/
def closures (events : List QuicEvent) : List QuicEvent :=
  events.filter fun event => event.type = .connectionClosed

/-- The part of the state the closing period is about. -/
structure CloseView (N : Ngtcp2) where
  closed : Bool
  pendingClosePacket : Option (QuicPacket N.Addr)
  closePacketArmed : Bool
  closingExpiryNs : Option Nat
  closePacketDeliveredOnce : Bool
  closures : List QuicEvent

namespace QuicConnection

def closeView (s : QuicConnection N) : CloseView N where
  closed := s.closed
  pendingClosePacket := s.pendingClosePacket
  closePacketArmed := s.closePacketArmed
  closingExpiryNs := s.closingExpiryNs
  closePacketDeliveredOnce := s.closePacketDeliveredOnce
  closures := Quic.closures s.pushed

theorem closures_pushEvent {s : QuicConnection N} {event : QuicEvent}
    (h : event.type ≠ .connectionClosed) :
    Quic.closures (s.pushEvent event).pushed = Quic.closures s.pushed := by
  simp [pushEvent, Quic.closures, h]

theorem closeView_pushEvent {s : QuicConnection N} {event : QuicEvent}
    (h : event.type ≠ .connectionClosed) : (s.pushEvent event).closeView = s.closeView := by
  have hclosures := @closures_pushEvent N s event h
  simp only [closeView, hclosures]
  rfl

@[simp] theorem closeView_record (s : QuicConnection N) (happening : Happening) :
    (s.record happening).closeView = s.closeView := rfl

@[simp] theorem closeView_ackedStreamDataOffsetCb (s : QuicConnection N) (streamId : Int)
    (offset datalen : Nat) :
    (s.ackedStreamDataOffsetCb streamId offset datalen).closeView = s.closeView := by
  unfold ackedStreamDataOffsetCb
  split <;> rfl

theorem closeView_onCallback (s : QuicConnection N) (callback : Callback N.Addr) :
    (s.onCallback callback).closeView = s.closeView := by
  cases callback with
  | recvStreamData | streamReset | recvStopSending | recvDatagram | newSession =>
      apply closeView_pushEvent
      simp
  | ackedStreamDataOffset => exact closeView_ackedStreamDataOffsetCb s _ _ _
  | streamOpen streamId =>
      exact @closeView_pushEvent N s { type := .streamOpened, streamId := streamId } (by simp)
  | streamClose streamId code =>
      exact @closeView_pushEvent N s
        { type := .streamClosed, streamId := streamId, errorCode := code } (by simp)
  | handshakeCompleted =>
      exact @closeView_pushEvent N { s with handshakeCompleted := true, verifyError := none }
        { type := .handshakeCompleted } (by simp)
  | pathValidation path success reason =>
      simp only [onCallback]
      split
      · exact @closeView_pushEvent N { s with path := path } _ (by simp)
      · exact closeView_pushEvent (by simp)
  | tlsEarlyDataRejected =>
      simp only [onCallback]
      split
      · rfl
      · exact @closeView_pushEvent N { s with earlyDataRejectedEventPushed := true } _ (by simp)
  | verifyFailed => rfl

theorem closeView_onCallbacks (s : QuicConnection N) (callbacks : List (Callback N.Addr)) :
    (callbacks.foldl onCallback s).closeView = s.closeView := by
  induction callbacks generalizing s with
  | nil => rfl
  | cons callback callbacks ih =>
      calc (callbacks.foldl onCallback (s.onCallback callback)).closeView
          = (s.onCallback callback).closeView := ih _
        _ = s.closeView := closeView_onCallback s callback

theorem conn_onCallback (s : QuicConnection N) (callback : Callback N.Addr) :
    (s.onCallback callback).conn = s.conn := by
  cases callback with
  | ackedStreamDataOffset =>
      simp only [onCallback, record, ackedStreamDataOffsetCb]
      split <;> rfl
  | pathValidation | tlsEarlyDataRejected =>
      simp only [onCallback]
      split <;> rfl
  | _ => rfl

theorem conn_onCallbacks (s : QuicConnection N) (callbacks : List (Callback N.Addr)) :
    (callbacks.foldl onCallback s).conn = s.conn := by
  induction callbacks generalizing s with
  | nil => rfl
  | cons callback callbacks ih => exact (ih _).trans (conn_onCallback s callback)

theorem closeView_writeStream (streamId : Int) (now fuel : Nat) (s : QuicConnection N)
    (moreUsed : Bool) : (writeStream streamId now fuel s moreUsed).1.closeView = s.closeView := by
  induction fuel generalizing s moreUsed with
  | zero => rfl
  | succ fuel ih =>
      simp only [writeStream]
      split
      · rfl
      · split_ifs
        · exact ih _ _
        · rfl
        · rfl

theorem closeView_writeStreams (now : Nat) (streamIds : List Int) (s : QuicConnection N)
    (moreUsed : Bool) : (writeStreams now streamIds s moreUsed).1.closeView = s.closeView := by
  induction streamIds generalizing s moreUsed with
  | nil => rfl
  | cons streamId streamIds ih =>
      have hone := closeView_writeStream streamId now (outstanding (s.buffers streamId)) s moreUsed
      simp only [writeStreams]
      split <;> rename_i heq <;> rw [heq] at hone
      · exact hone
      · exact (ih _ _).trans hone

theorem closeView_writeDatagrams (now : Nat) (datagrams : List Bytes) (s : QuicConnection N)
    (moreUsed : Bool) : (writeDatagrams now datagrams s moreUsed).1.closeView = s.closeView := by
  induction datagrams generalizing s moreUsed with
  | nil => rfl
  | cons datagram datagrams ih =>
      simp only [writeDatagrams]
      split_ifs <;> first | rfl | exact ih _ _

theorem closeView_finishSend (s : QuicConnection N) (moreUsed : Bool) (now : Nat) :
    (s.finishSend moreUsed now).1.closeView = s.closeView := by
  simp only [finishSend]
  split_ifs <;> rfl

theorem closeView_sendData (s : QuicConnection N) (now : Nat) :
    (s.sendData now).1.closeView = s.closeView := by
  have hstreams :=
    closeView_writeStreams now s.streamBuffers.keys { s with timestampNs := now } false
  simp only [sendData]
  split <;> rename_i heq <;> rw [heq] at hstreams
  · exact hstreams
  · rename_i s₁ moreUsed
    have hdatagrams := closeView_writeDatagrams now s₁.datagramQueue s₁ moreUsed
    split <;> rename_i hdg <;> rw [hdg] at hdatagrams
    · exact hdatagrams.trans hstreams
    · exact (closeView_finishSend _ _ _).trans (hdatagrams.trans hstreams)

/-- The call returns a packet. -/
def Turn.delivers {Addr : Type} (turn : Turn Addr) : Bool :=
  match turn.output with
  | .packet (some _) => true
  | _ => false

def Turn.isReceive {Addr : Type} (turn : Turn Addr) : Bool :=
  match turn.input with
  | .receive _ => true
  | _ => false

/-- The call is none of those that look at the kept packet. -/
def Input.isOther : Input → Bool
  | .receive _ => false
  | .send => false
  | .getTimeoutNs => false
  | .handleTimeout => false
  | _ => true

end QuicConnection

/-! ## The phases of a closing period -/

/-- How far a closing period is. -/
inductive ClosePhase
  /-- no `send` yet -/
  | undelivered
  /-- delivered, and nothing to answer -/
  | resting
  /-- a datagram is to be answered -/
  | armed
  /-- the packet is gone -/
  | discarded
  deriving DecidableEq

/-- The calls and their results in a closing period for `packet` that ends at `expiry`. -/
inductive Moves {Addr : Type} (packet : QuicPacket Addr) (expiry : Nat) :
    ClosePhase → Turn Addr → ClosePhase → Prop
  | deliver {now : Nat} :
      Moves packet expiry .undelivered ⟨now, .send, .packet (some packet)⟩ .resting
  | answer {now : Nat} (hbefore : now < expiry) :
      Moves packet expiry .armed ⟨now, .send, .packet (some packet)⟩ .resting
  | silent {now : Nat} {phase : ClosePhase} (hphase : phase ≠ .undelivered)
      (harmed : phase = .armed → expiry ≤ now) :
      Moves packet expiry phase ⟨now, .send, .packet none⟩ phase
  | arm {now : Nat} {datagram : Datagram} (hbefore : now < expiry) :
      Moves packet expiry .resting ⟨now, .receive datagram, .received .discarded⟩ .armed
  | ignore {now : Nat} {datagram : Datagram} {phase : ClosePhase} {result : ReceiveResult}
      (hphase : phase = .discarded → result = .closed) :
      Moves packet expiry phase ⟨now, .receive datagram, .received result⟩ phase
  | discard {now : Nat} {phase : ClosePhase} (hphase : phase = .resting ∨ phase = .armed)
      (hexpired : expiry ≤ now) :
      Moves packet expiry phase ⟨now, .handleTimeout, .nothing⟩ .discarded
  | keep {now : Nat} {phase : ClosePhase}
      (hkeep : phase = .undelivered ∨ phase = .discarded ∨ now < expiry) :
      Moves packet expiry phase ⟨now, .handleTimeout, .nothing⟩ phase
  | remaining {now : Nat} {phase : ClosePhase} (hphase : phase ≠ .discarded) :
      Moves packet expiry phase ⟨now, .getTimeoutNs, .timeout (some (expiry - now))⟩ phase
  | noTimeout {now : Nat} :
      Moves packet expiry .discarded ⟨now, .getTimeoutNs, .timeout none⟩ .discarded
  | other {phase : ClosePhase} {turn : Turn Addr} (hother : turn.input.isOther = true)
      (houtput : turn.delivers = false) : Moves packet expiry phase turn phase

/-- ngtcp2 after a CONNECTION_CLOSE was written: every packet is answered with
`NGTCP2_ERR_CLOSING`, and the draining period is not entered. -/
structure Ngtcp2.StaysClosing (N : Ngtcp2) (closing : N.Conn → Prop) : Prop where
  enters : ∀ {conn conn' path errorCode reason now nwrite packet},
    N.writeConnectionClose conn path errorCode reason now = (conn', nwrite, packet) →
      0 < nwrite → closing conn'
  reads : ∀ {conn conn' path data now callbacks rv},
    N.readPkt conn path data now = (conn', callbacks, rv) → closing conn →
      rv = errClosing ∧ closing conn' ∧ N.inDrainingPeriod conn' = false

namespace ClosePhase

/-- What the state looks like in a phase. -/
def view (packet : QuicPacket N.Addr) (expiry : Nat) : ClosePhase → CloseView N
  | .undelivered => ⟨true, some packet, true, some expiry, false, []⟩
  | .resting => ⟨true, some packet, false, some expiry, true, []⟩
  | .armed => ⟨true, some packet, true, some expiry, true, []⟩
  | .discarded => ⟨true, none, false, none, true, []⟩

end ClosePhase

/-! ## Runs of the phases -/

section Phases

variable {Addr : Type} {packet : QuicPacket Addr} {expiry : Nat} {phase phase' : ClosePhase}
  {turn : Turn Addr} {turns : List (Turn Addr)}

/-- After a `send` there was a `handle_timeout` at or behind the expiry. -/
def Discards (expiry : Nat) (turns : List (Turn Addr)) : Prop :=
  ∃ before turn after, turns = before ++ turn :: after ∧ turn.input = .handleTimeout ∧
    expiry ≤ turn.now ∧ ∃ sent ∈ before, sent.input = .send

theorem discards_concat :
    Discards expiry (turns ++ [turn]) ↔
      Discards expiry turns ∨
        (turn.input = .handleTimeout ∧ expiry ≤ turn.now ∧ ∃ sent ∈ turns, sent.input = .send) := by
  constructor
  · rintro ⟨before, timer, after, heq, htimer, hnow, hsent⟩
    rcases List.eq_nil_or_concat after with rfl | ⟨after, last, rfl⟩
    · rcases List.append_inj' heq rfl with ⟨rfl, hlast⟩
      cases hlast
      exact Or.inr ⟨htimer, hnow, hsent⟩
    · have hfront : turns = before ++ timer :: after := by
        rw [List.concat_eq_append, ← List.cons_append, ← List.append_assoc] at heq
        exact (List.append_inj' heq rfl).1
      exact Or.inl ⟨before, timer, after, hfront, htimer, hnow, hsent⟩
  · rintro (⟨before, timer, after, rfl, htimer, hnow, hsent⟩ | ⟨htimer, hnow, hsent⟩)
    · exact ⟨before, timer, after ++ [turn], by simp, htimer, hnow, hsent⟩
    · exact ⟨turns, turn, [], rfl, htimer, hnow, hsent⟩

/-- The phase tells what was called so far. -/
structure Recalls (expiry : Nat) (turns : List (Turn Addr)) (phase : ClosePhase) : Prop where
  undelivered : phase = .undelivered ↔ ∀ turn ∈ turns, turn.input ≠ .send
  discarded : phase = .discarded ↔ Discards expiry turns

theorem Recalls.initial : Recalls expiry ([] : List (Turn Addr)) .undelivered := by
  constructor
  · simp
  · simp [Discards]

theorem Recalls.sent (h : Recalls expiry turns phase) (hphase : phase ≠ .undelivered) :
    ∃ turn ∈ turns, turn.input = .send := by
  by_contra hnone
  push Not at hnone
  exact hphase (h.undelivered.2 hnone)

theorem Recalls.step (h : Recalls expiry turns phase) (hmove : Moves packet expiry phase turn phase') :
    Recalls expiry (turns ++ [turn]) phase' := by
  have hsent := h.undelivered
  have hgone := h.discarded
  -- a call that is neither a `send` nor a timer leaves both facts as they are
  have hkept : turn.input ≠ .send → turn.input ≠ .handleTimeout → phase' = phase ∨
      (phase = .resting ∧ phase' = .armed) → Recalls expiry (turns ++ [turn]) phase' := by
    intro hsend htimer hphases
    constructor
    · rcases hphases with rfl | ⟨rfl, rfl⟩
      · simp [hsent, hsend, or_imp, forall_and]
      · have hnot : ¬ ∀ turn ∈ turns, turn.input ≠ .send := fun hall => by
          simpa using hsent.2 hall
        simpa [hsend, or_imp, forall_and] using hnot
    · rw [discards_concat, ← hgone]
      rcases hphases with rfl | ⟨rfl, rfl⟩ <;> simp [htimer]
  cases hmove with
  | deliver =>
      constructor
      · simp [or_imp, forall_and]
      · simp [discards_concat, ← hgone]
  | answer hbefore =>
      constructor
      · simp [or_imp, forall_and]
      · simp [discards_concat, ← hgone]
  | silent hphase harmed =>
      constructor
      · simp [hphase, or_imp, forall_and]
      · simp [discards_concat, ← hgone]
  | arm hbefore => exact hkept (by simp) (by simp) (Or.inr ⟨rfl, rfl⟩)
  | ignore hphase => exact hkept (by simp) (by simp) (Or.inl rfl)
  | discard hphase hexpired =>
      have hnot : phase ≠ .undelivered := by
        rcases hphase with rfl | rfl <;> simp
      have hearlier := h.sent hnot
      constructor
      · rcases hearlier with ⟨sent, hmem, hinput⟩
        simp only [reduceCtorEq, false_iff]
        intro hall
        exact hall sent (List.mem_append_left _ hmem) hinput
      · simp [discards_concat, hexpired, hearlier]
  | keep hkeep =>
      constructor
      · simp [hsent, or_imp, forall_and]
      · rw [discards_concat, ← hgone]
        refine ⟨Or.inl, ?_⟩
        rintro (hphase | ⟨-, hexpired, sent, hmem, hinput⟩)
        · exact hphase
        · rcases hkeep with hfirst | hphase | hbefore
          · exact absurd hinput (hsent.1 hfirst sent hmem)
          · exact hphase
          · exact absurd hexpired (Nat.not_le_of_lt hbefore)
  | remaining hphase => exact hkept (by simp) (by simp) (Or.inl rfl)
  | noTimeout => exact hkept (by simp) (by simp) (Or.inl rfl)
  | other hother houtput =>
      refine hkept ?_ ?_ (Or.inl rfl) <;> intro hinput <;> rw [hinput] at hother <;>
        exact absurd hother (by decide)

theorem Recalls.run (h : Path (Moves packet expiry) .undelivered turns phase) :
    Recalls expiry turns phase :=
  Path.history (Recalls expiry) Recalls.step h [] Recalls.initial

/-- What a call that returns a packet tells. -/
theorem Moves.of_delivers (hmove : Moves packet expiry phase turn phase')
    (hturn : turn.delivers = true) :
    turn.input = .send ∧ turn.output = .packet (some packet) ∧ phase' = .resting ∧
      (phase = .undelivered ∨ phase = .armed ∧ turn.now < expiry) := by
  cases hmove with
  | deliver => exact ⟨rfl, rfl, rfl, Or.inl rfl⟩
  | answer hbefore => exact ⟨rfl, rfl, rfl, Or.inr ⟨rfl, hbefore⟩⟩
  | other hother houtput => simp [houtput] at hturn
  | _ => cases hturn

/-- Without a received datagram the packet is not armed again. -/
theorem Moves.unarmed (hturns : Path (Moves packet expiry) .resting turns phase)
    (hnone : ∀ turn ∈ turns, turn.isReceive = false) : phase = .resting ∨ phase = .discarded := by
  let Inv : List (Turn Addr) → ClosePhase → Prop := fun past phase =>
    (∀ turn ∈ past, turn.isReceive = false) → phase = .resting ∨ phase = .discarded
  have hinv : Inv ([] ++ turns) phase := by
    refine Path.history Inv ?_ hturns [] (fun _ => Or.inl rfl)
    intro past a b turn hpast hmove hall
    have hbefore := hpast fun turn hmem => hall turn (List.mem_append_left _ hmem)
    have hlast := hall turn (by simp)
    cases hmove with
    | arm => cases hlast
    | deliver => simp at hbefore
    | answer => simp at hbefore
    | discard => exact Or.inr rfl
    | _ => exact hbefore
  exact hinv hnone

/-- Every packet but the first answers a datagram of its own. -/
theorem Moves.bounded (hturns : Path (Moves packet expiry) .undelivered turns phase) :
    turns.countP Turn.delivers ≤ 1 + turns.countP Turn.isReceive := by
  let Inv : List (Turn Addr) → ClosePhase → Prop := fun past phase =>
    past.countP Turn.delivers + (if phase = .armed then 1 else 0) ≤
      (if phase = .undelivered then 0 else 1) + past.countP Turn.isReceive
  have hinv : Inv ([] ++ turns) phase := by
    refine Path.history Inv ?_ hturns [] (by simp [Inv])
    intro past a b turn hpast hmove
    simp only [Inv, List.countP_append, List.countP_singleton] at hpast ⊢
    cases hmove with
    | deliver | arm | ignore =>
        simp only [Turn.delivers, Turn.isReceive] at hpast ⊢
        simp at hpast ⊢
        omega
    | answer => simpa [Turn.delivers, Turn.isReceive] using hpast
    | discard hphase =>
        simp only [Turn.delivers, Turn.isReceive] at hpast ⊢
        rcases hphase with rfl | rfl <;> simp at hpast ⊢ <;> omega
    | silent | keep | remaining | noTimeout => simpa [Turn.delivers, Turn.isReceive] using hpast
    | other hother houtput =>
        simp only [houtput]
        simp at hpast ⊢
        omega
  simp only [Inv, List.nil_append] at hinv
  split_ifs at hinv <;> omega

end Phases

/-- The connection is in `phase`. -/
structure Fits (closing : N.Conn → Prop) (packet : QuicPacket N.Addr) (expiry : Nat)
    (phase : ClosePhase) (s : QuicConnection N) : Prop where
  closing : closing s.conn
  view : s.closeView = phase.view packet expiry

namespace Fits

variable {closing : N.Conn → Prop} {packet : QuicPacket N.Addr} {expiry : Nat}
  {phase : ClosePhase} {s s' : QuicConnection N}

theorem closed (h : Fits closing packet expiry phase s) : s.closed = true := by
  have hclosed : s.closed = (phase.view packet expiry).closed := congrArg CloseView.closed h.view
  cases phase <;> exact hclosed

theorem pending (h : Fits closing packet expiry phase s) :
    s.pendingClosePacket = if phase = .discarded then none else some packet := by
  have hpending : s.pendingClosePacket = (phase.view packet expiry).pendingClosePacket :=
    congrArg CloseView.pendingClosePacket h.view
  cases phase <;> exact hpending

theorem expiryNs (h : Fits closing packet expiry phase s) :
    s.closingExpiryNs = if phase = .discarded then none else some expiry := by
  have hexpiry : s.closingExpiryNs = (phase.view packet expiry).closingExpiryNs :=
    congrArg CloseView.closingExpiryNs h.view
  cases phase <;> exact hexpiry

theorem armed (h : Fits closing packet expiry phase s) :
    s.closePacketArmed = (phase.view packet expiry).closePacketArmed :=
  congrArg CloseView.closePacketArmed h.view

theorem deliveredOnce (h : Fits closing packet expiry phase s) :
    s.closePacketDeliveredOnce = decide (phase ≠ .undelivered) := by
  have hdelivered :
      s.closePacketDeliveredOnce = (phase.view packet expiry).closePacketDeliveredOnce :=
    congrArg CloseView.closePacketDeliveredOnce h.view
  cases phase <;> exact hdelivered

theorem closures (h : Fits closing packet expiry phase s) : Quic.closures s.pushed = [] := by
  have hclosures : Quic.closures s.pushed = (phase.view packet expiry).closures :=
    congrArg CloseView.closures h.view
  cases phase <;> exact hclosures

theorem closingPeriodExpired (h : Fits closing packet expiry phase s) (now : Nat) :
    s.closingPeriodExpired now = decide (phase ≠ .discarded ∧ expiry ≤ now) := by
  unfold QuicConnection.closingPeriodExpired
  rw [h.pending, h.expiryNs]
  split_ifs with hphase
  · simp [hphase]
  · simp [hphase]

/-- A view that a call keeps. -/
theorem of_view (h : Fits closing packet expiry phase s) (hconn : closing s'.conn)
    (hview : s'.closeView = s.closeView) : Fits closing packet expiry phase s' :=
  ⟨hconn, hview.trans h.view⟩

theorem send (h : Fits closing packet expiry phase s) (now : Nat) :
    ∃ phase', Moves packet expiry phase ⟨now, .send, .packet (s.send now).2⟩ phase' ∧
      Fits closing packet expiry phase' (s.send now).1 := by
  have hpending := h.pending
  have hdelivered := h.deliveredOnce
  have hexpired := h.closingPeriodExpired now
  have harmed := h.armed
  cases phase with
  | undelivered =>
      have hsend : s.send now =
          ({ s with closePacketDeliveredOnce := true, closePacketArmed := false },
            some packet) := by
        simp [QuicConnection.send, sendClose, hpending, hdelivered]
      rw [hsend]
      refine ⟨.resting, .deliver, h.closing, ?_⟩
      simp [closeView, ClosePhase.view, h.closed, hpending, h.expiryNs, h.closures]
  | resting =>
      have hsend : s.send now = (s, none) := by
        simp [QuicConnection.send, sendClose, hpending, hdelivered, harmed, ClosePhase.view]
      rw [hsend]
      exact ⟨.resting, .silent (by simp) (by simp), h⟩
  | armed =>
      by_cases hnow : expiry ≤ now
      · have hsend : s.send now = (s, none) := by
          simp [QuicConnection.send, sendClose, hpending, hdelivered, hexpired, hnow]
        rw [hsend]
        exact ⟨.armed, .silent (by simp) fun _ => hnow, h⟩
      · have hsend : s.send now = ({ s with closePacketArmed := false }, some packet) := by
          simp [QuicConnection.send, sendClose, hpending, hdelivered, hexpired, hnow, harmed,
            ClosePhase.view]
        rw [hsend]
        refine ⟨.resting, .answer (Nat.lt_of_not_le hnow), h.closing, ?_⟩
        simp [closeView, ClosePhase.view, h.closed, hpending, h.expiryNs, h.closures, hdelivered]
  | discarded =>
      have hsend : s.send now = (s, none) := by
        simp [QuicConnection.send, hpending, h.closed]
      rw [hsend]
      exact ⟨.discarded, .silent (by simp) (by simp), h⟩

/-- A datagram that reaches ngtcp2 in the closing period arms the packet. -/
theorem read (hN : N.StaysClosing closing) (h : Fits closing packet expiry phase s)
    (hphase : phase ≠ .discarded) (data : Bytes) (now : Nat) (saved : Ngtcp2Path N.Addr)
    (pktRecv : Nat) :
    ∃ s', (s.readPkt data now).1.afterRead saved pktRecv (s.readPkt data now).2 =
        (s', .discarded) ∧
      Fits closing packet expiry (if phase = .resting then .armed else phase) s' := by
  rcases hread : N.readPkt s.conn s.path data now with ⟨conn, callbacks, rv⟩
  rcases hN.reads hread h.closing with ⟨rfl, hclosing, hdraining⟩
  let before : QuicConnection N := { s with conn := conn, timestampNs := now }
  have hcalled : s.readPkt data now = (callbacks.foldl onCallback before, errClosing) := by
    simp only [readPkt, hread]
    rfl
  have hview : (callbacks.foldl onCallback before).closeView = s.closeView :=
    closeView_onCallbacks before callbacks
  have hconn : (callbacks.foldl onCallback before).conn = conn := conn_onCallbacks before callbacks
  rw [hcalled]
  generalize callbacks.foldl onCallback before = after at hview hconn
  have hafter : Fits closing packet expiry phase after := h.of_view (hconn ▸ hclosing) hview
  refine ⟨{ after with closePacketArmed := true, path := saved }, ?_, ?_⟩
  · have hpending : after.pendingClosePacket = some packet := by
      simpa [hphase] using hafter.pending
    simp [afterRead, errClosing, errDraining, hpending, hconn, hdraining]
  · refine ⟨hafter.closing, ?_⟩
    have hdelivered := hafter.deliveredOnce
    have hpending := hafter.pending
    have hexpiry := hafter.expiryNs
    cases phase with
    | discarded => exact absurd rfl hphase
    | undelivered | resting | armed =>
        simp [closeView, ClosePhase.view, hafter.closed, hpending, hexpiry, hafter.closures,
          hdelivered]

theorem receive (hN : N.StaysClosing closing) (h : Fits closing packet expiry phase s)
    (datagram : Datagram) (now : Nat) :
    ∃ phase', Moves packet expiry phase
        ⟨now, .receive datagram, .received (s.receive datagram now).2⟩ phase' ∧
      Fits closing packet expiry phase' (s.receive datagram now).1 := by
  have hpending := h.pending
  have hexpired := h.closingPeriodExpired now
  by_cases hphase : phase = .discarded
  · have hreceive : s.receive datagram now = (s, .closed) := by
      simp [QuicConnection.receive, h.closed, hpending, hphase]
    rw [hreceive]
    exact ⟨phase, .ignore fun _ => rfl, h⟩
  have hopen : (s.closed && s.pendingClosePacket.isNone) = false := by
    simp [hpending, hphase]
  by_cases hnow : expiry ≤ now
  · have hreceive : s.receive datagram now = (s, .closed) := by
      simp [QuicConnection.receive, hopen, hexpired, hphase, hnow]
    rw [hreceive]
    exact ⟨phase, .ignore fun _ => rfl, h⟩
  have hperiod : s.closingPeriodExpired now = false := by
    simp [hexpired, hnow]
  cases hpath : s.updatePathAddresses datagram with
  | none =>
      have hreceive : s.receive datagram now = (s, .discarded) := by
        simp [QuicConnection.receive, hopen, hperiod, hpath]
      rw [hreceive]
      exact ⟨phase, .ignore fun hgone => absurd hgone hphase, h⟩
  | some moved =>
      -- the addresses are not part of the view
      have hmoved : Fits closing packet expiry phase moved := by
        simp only [updatePathAddresses, Option.bind_eq_bind, Option.bind_eq_some_iff] at hpath
        rcases hpath with ⟨near, -, remote, -, hsome⟩
        cases hsome
        exact ⟨h.closing, h.view⟩
      rcases hmoved.read hN hphase datagram.data now moved.path (N.pktRecv moved.conn) with
        ⟨s', hread, hfits⟩
      have hreceive : s.receive datagram now = (s', .discarded) := by
        simp only [QuicConnection.receive, hopen, hperiod, hpath]
        exact hread
      rw [hreceive]
      refine ⟨_, ?_, hfits⟩
      split_ifs with hrest
      · subst hrest
        exact .arm (Nat.lt_of_not_le hnow)
      · exact .ignore fun hgone => absurd hgone hphase

theorem handleTimeout (h : Fits closing packet expiry phase s) (now : Nat) :
    ∃ phase', Moves packet expiry phase ⟨now, .handleTimeout, .nothing⟩ phase' ∧
      Fits closing packet expiry phase' (s.handleTimeout now) := by
  have hpending := h.pending
  have hdelivered := h.deliveredOnce
  have hexpired := h.closingPeriodExpired now
  by_cases hdiscard : (phase = .resting ∨ phase = .armed) ∧ expiry ≤ now
  · have hphase : phase ≠ .discarded ∧ phase ≠ .undelivered := by
      rcases hdiscard.1 with rfl | rfl <;> simp
    refine ⟨.discarded, .discard hdiscard.1 hdiscard.2, ?_⟩
    have htimeout : s.handleTimeout now =
        { s with pendingClosePacket := none, closingExpiryNs := none, closePacketArmed := false } := by
      simp [QuicConnection.handleTimeout, hpending, hexpired, hdelivered, hphase, hdiscard.2]
    rw [htimeout]
    refine ⟨h.closing, ?_⟩
    simp [closeView, ClosePhase.view, h.closed, h.closures, hdelivered, hphase]
  · have hkeep : phase = .undelivered ∨ phase = .discarded ∨ now < expiry := by
      cases phase <;> simp at hdiscard ⊢ <;> exact hdiscard
    refine ⟨phase, .keep hkeep, ?_⟩
    have htimeout : s.handleTimeout now = s := by
      rcases hkeep with rfl | rfl | hnow
      · simp [QuicConnection.handleTimeout, hpending, hdelivered]
      · simp [QuicConnection.handleTimeout, hpending, h.closed]
      · have hperiod : s.closingPeriodExpired now = false := by
          simp [hexpired, hnow]
        simp [QuicConnection.handleTimeout, hperiod, h.closed]
    rw [htimeout]
    exact h

theorem getTimeoutNs (h : Fits closing packet expiry phase s) (now : Nat) :
    Moves packet expiry phase ⟨now, .getTimeoutNs, .timeout (s.getTimeoutNs now)⟩ phase := by
  have hpending := h.pending
  have hexpiry := h.expiryNs
  by_cases hphase : phase = .discarded
  · subst hphase
    have htimeout : s.getTimeoutNs now = none := by
      simp [QuicConnection.getTimeoutNs, hpending, h.closed]
    rw [htimeout]
    exact .noTimeout
  · have htimeout : s.getTimeoutNs now = some (expiry - now) := by
      simp only [QuicConnection.getTimeoutNs, hpending, hexpiry, if_neg hphase]
      split_ifs with hnow
      · rw [Nat.sub_eq_zero_of_le hnow]
      · rfl
    rw [htimeout]
    exact .remaining hphase

/-- The connection follows the phases, call by call. -/
theorem step (hN : N.StaysClosing closing) {turn : Turn N.Addr}
    (h : Fits closing packet expiry phase s) (hturn : s.Takes turn s') :
    ∃ phase', Moves packet expiry phase turn phase' ∧
      Fits closing packet expiry phase' s' := by
  rcases turn with ⟨now, input, output⟩
  have hclosed := h.closed
  replace hturn : s.step now input = (s', output) := hturn
  cases input with
  | receive datagram =>
      cases hturn
      exact h.receive hN datagram now
  | send =>
      cases hturn
      exact h.send now
  | getTimeoutNs =>
      cases hturn
      exact ⟨phase, h.getTimeoutNs now, h⟩
  | handleTimeout =>
      cases hturn
      exact h.handleTimeout now
  | nextEvent =>
      refine ⟨phase, ?_⟩
      cases hevents : s.events with
      | nil =>
          simp only [QuicConnection.step, nextEvent, hevents] at hturn
          cases hturn
          exact ⟨.other rfl rfl, h⟩
      | cons event events =>
          simp only [QuicConnection.step, nextEvent, hevents] at hturn
          cases hturn
          exact ⟨.other rfl rfl, h.closing, h.view⟩
  | openStream | sendStreamData | closeStream | stopSending | resetStream | sendDatagram
  | close =>
      -- a closed connection refuses the call
      have hsame : s' = s ∧ ∀ input, (Turn.mk now input output).delivers = false := by
        simp only [QuicConnection.step, openStream, sendStreamData, closeStream, stopSending,
          resetStream, sendDatagram, close, hclosed] at hturn
        cases hturn
        exact ⟨rfl, fun _ => rfl⟩
      rw [hsame.1]
      exact ⟨phase, .other rfl (hsame.2 _), h⟩

theorem run (hN : N.StaysClosing closing) {turns : List (Turn N.Addr)}
    (h : Fits closing packet expiry phase s) (hturns : Path Takes s turns s') :
    ∃ phase', Path (Moves packet expiry) phase turns phase' ∧
      Fits closing packet expiry phase' s' := by
  apply Path.simulates (fun s phase => Fits closing packet expiry phase s) _ hturns h
  intro a a' phase turn hfits hturn
  exact hfits.step hN hturn

end Fits

/-! ## Whole runs -/

/-- Before a close, between a close and the end of its closing period, or over. -/
inductive Orderly (closing : N.Conn → Prop) (s : QuicConnection N) : Prop
  | living (hclosed : s.closed = false) (hpending : s.pendingClosePacket = none)
      (hclosures : closures s.pushed = [])
  | ended (hclosed : s.closed = true) (hpending : s.pendingClosePacket = none)
      (hclosures : (closures s.pushed).length ≤ 1)
  | closing {packet : QuicPacket N.Addr} {expiry : Nat} {phase : ClosePhase}
      (hfits : Fits closing packet expiry phase s)

namespace Orderly

variable {closing : N.Conn → Prop} {s s' : QuicConnection N}

theorem closures_le (h : Orderly closing s) : (closures s.pushed).length ≤ 1 := by
  cases h with
  | living _ _ hclosures => simp [hclosures]
  | ended _ _ hclosures => exact hclosures
  | closing hfits => simp [hfits.closures]

/-- The connection is neither closed nor has it reported to be. -/
def Living (s : QuicConnection N) : Prop :=
  s.closed = false ∧ s.pendingClosePacket = none ∧ closures s.pushed = []

theorem Living.of_view (h : Living s) (hview : s'.closeView = s.closeView) : Living s' := by
  rcases h with ⟨hclosed, hpending, hclosures⟩
  refine ⟨?_, ?_, ?_⟩
  · exact (congrArg CloseView.closed hview).trans hclosed
  · exact (congrArg CloseView.pendingClosePacket hview).trans hpending
  · exact (congrArg CloseView.closures hview).trans hclosures

theorem of_living (h : Living s) : Orderly closing s := .living h.1 h.2.1 h.2.2

theorem of_shut (h : Living s) (reason : String) : Orderly closing (s.shut reason) := by
  rcases h with ⟨-, hpending, hclosures⟩
  refine .ended rfl hpending ?_
  have hone : closures (s.shut reason).pushed = closures s.pushed ++
      [{ type := .connectionClosed, reason := reason }] := by
    simp [shut, pushEvent, closures]
  simp [hone, hclosures]

theorem afterRead (h : Living s) (saved : Ngtcp2Path N.Addr) (pktRecv : Nat) (rv : Int) :
    Orderly closing (s.afterRead saved pktRecv rv).1 := by
  have hmoved : Living { s with path := saved } := h
  unfold QuicConnection.afterRead
  split_ifs
  all_goals first
    | exact of_living h
    | exact of_living hmoved
    | exact of_shut h _
    | skip
  -- the crypto error: its text is taken out of the state first
  unfold consumeVerifyError
  cases hverify : s.verifyError with
  | none => exact of_shut h _
  | some message =>
      have hcleared : Living { s with verifyError := none } := h
      exact of_shut hcleared _

theorem receive (h : Living s) (datagram : Datagram) (now : Nat) :
    Orderly closing (s.receive datagram now).1 := by
  rcases h with ⟨hclosed, hpending, hclosures⟩
  have hopen : (s.closed && s.pendingClosePacket.isNone) = false := by
    simp [hclosed]
  have hperiod : s.closingPeriodExpired now = false := by
    simp [closingPeriodExpired, hpending]
  cases hpath : s.updatePathAddresses datagram with
  | none =>
      have hreceive : s.receive datagram now = (s, .discarded) := by
        simp [QuicConnection.receive, hopen, hperiod, hpath]
      rw [hreceive]
      exact of_living ⟨hclosed, hpending, hclosures⟩
  | some moved =>
      have hmoved : Living moved := by
        simp only [updatePathAddresses, Option.bind_eq_bind, Option.bind_eq_some_iff] at hpath
        rcases hpath with ⟨near, -, remote, -, hsome⟩
        cases hsome
        exact ⟨hclosed, hpending, hclosures⟩
      have hread : Living (moved.readPkt datagram.data now).1 :=
        hmoved.of_view (closeView_onCallbacks _ _)
      have hreceive : s.receive datagram now =
          (moved.readPkt datagram.data now).1.afterRead moved.path (N.pktRecv moved.conn)
            (moved.readPkt datagram.data now).2 := by
        simp [QuicConnection.receive, hopen, hperiod, hpath]
      rw [hreceive]
      exact Orderly.afterRead hread _ _ _

theorem handleTimeout (h : Living s) (now : Nat) : Orderly closing (s.handleTimeout now) := by
  rcases hexpiry : N.handleExpiry s.conn now with ⟨conn, callbacks, rv⟩
  let before : QuicConnection N := { s with conn := conn, timestampNs := now }
  have htimeout : s.handleTimeout now = (callbacks.foldl onCallback before).afterExpiry rv := by
    simp [QuicConnection.handleTimeout, h.1, h.2.1, hexpiry, before]
  have hafter : Living (callbacks.foldl onCallback before) :=
    h.of_view (closeView_onCallbacks before callbacks)
  rw [htimeout]
  unfold afterExpiry
  split_ifs
  all_goals first
    | exact of_living hafter
    | exact of_shut hafter _

theorem afterShutdown (h : Living s) (rv : Int) (text : String) :
    Orderly closing (s.afterShutdown rv text) := by
  unfold QuicConnection.afterShutdown
  split_ifs
  · exact of_shut h _
  · exact of_living h

/-- Fields outside the view do not matter, apart from the connection of a closing period. -/
theorem of_view (h : Orderly closing s) (hconn : s'.conn = s.conn)
    (hview : s'.closeView = s.closeView) : Orderly closing s' := by
  have hclosed' : s'.closed = s.closed := congrArg CloseView.closed hview
  have hpending' : s'.pendingClosePacket = s.pendingClosePacket :=
    congrArg CloseView.pendingClosePacket hview
  have hclosures' : closures s'.pushed = closures s.pushed := congrArg CloseView.closures hview
  cases h with
  | living hclosed hpending hclosures =>
      exact .living (hclosed'.trans hclosed) (hpending'.trans hpending) (hclosures'.trans hclosures)
  | ended hclosed hpending hclosures =>
      exact .ended (hclosed'.trans hclosed) (hpending'.trans hpending) (hclosures' ▸ hclosures)
  | closing hfits => exact .closing (hfits.of_view (hconn ▸ hfits.closing) hview)

/-- A `close` that builds a packet opens the closing period. -/
theorem fits_close (hN : N.StaysClosing closing) (h : Living s) {errorCode now : Nat}
    {reason : Bytes} {conn : N.Conn} {nwrite : Int} {packet : QuicPacket N.Addr}
    (hwrite : N.writeConnectionClose s.conn s.path errorCode reason now = (conn, nwrite, packet))
    (hnwrite : 0 < nwrite) :
    Fits closing packet ((now + 3 * N.getPto conn) % 2 ^ 64) .undelivered
      (s.close errorCode reason now) := by
  have hclose : s.close errorCode reason now =
      { s with
          conn := conn, timestampNs := now, closed := true, pendingClosePacket := some packet
          closePacketArmed := true
          closingExpiryNs := some ((now + 3 * N.getPto conn) % 2 ^ 64)
          closePacketDeliveredOnce := false } := by
    simp [close, h.1, hwrite, hnwrite]
  rw [hclose]
  refine ⟨hN.enters hwrite hnwrite, ?_⟩
  simp [closeView, ClosePhase.view, h.2.2]

theorem close (hN : N.StaysClosing closing) (h : Living s) (errorCode : Nat) (reason : Bytes)
    (now : Nat) : Orderly closing (s.close errorCode reason now) := by
  rcases hwrite : N.writeConnectionClose s.conn s.path errorCode reason now with
    ⟨conn, nwrite, packet⟩
  by_cases hnwrite : 0 < nwrite
  · exact .closing (fits_close hN h hwrite hnwrite)
  · have hclose : s.close errorCode reason now =
        { s with conn := conn, timestampNs := now, closed := true } := by
      simp [QuicConnection.close, h.1, hwrite, hnwrite]
    rw [hclose]
    exact .ended rfl h.2.1 (by simp [h.2.2])

/-- A call on a living connection. -/
theorem step_living (hN : N.StaysClosing closing) (h : Living s) (now : Nat) (input : Input) :
    Orderly closing (s.step now input).1 := by
  rcases h with ⟨hclosed, hpending, hclosures⟩
  have h : Living s := ⟨hclosed, hpending, hclosures⟩
  have hopen : ¬ s.closed = true := by
    simp [hclosed]
  cases input with
  | receive datagram => exact Orderly.receive h datagram now
  | send =>
      have hsend : s.send now = s.sendData now := by
        simp [QuicConnection.send, hpending, hclosed]
      simp only [QuicConnection.step, hsend]
      exact of_living (h.of_view (closeView_sendData s now))
  | getTimeoutNs => exact of_living h
  | handleTimeout => exact Orderly.handleTimeout h now
  | openStream bidirectional =>
      refine of_living (h.of_view ?_)
      simp only [QuicConnection.step, openStream]
      split_ifs <;> rfl
  | sendStreamData streamId data fin =>
      refine of_living (h.of_view ?_)
      simp only [QuicConnection.step, sendStreamData]
      split_ifs <;> rfl
  | closeStream streamId errorCode =>
      have hview : Living { s with conn := (N.shutdownStream s.conn streamId errorCode).1 } := h
      have hshut := @Orderly.afterShutdown N closing _ hview
        (N.shutdownStream s.conn streamId errorCode).2 "stream shutdown error: "
      simp only [QuicConnection.step, closeStream, if_neg hopen]
      exact hshut.of_view rfl rfl
  | stopSending streamId errorCode =>
      have hview : Living { s with conn := (N.shutdownStreamRead s.conn streamId errorCode).1 } := h
      simp only [QuicConnection.step, stopSending, if_neg hopen]
      exact Orderly.afterShutdown hview _ _
  | resetStream streamId errorCode =>
      have hview : Living { s with conn := (N.shutdownStreamWrite s.conn streamId errorCode).1 } := h
      have hshut := @Orderly.afterShutdown N closing _ hview
        (N.shutdownStreamWrite s.conn streamId errorCode).2 "reset stream error: "
      simp only [QuicConnection.step, resetStream, if_neg hopen]
      exact hshut.of_view rfl rfl
  | sendDatagram data =>
      refine of_living (h.of_view ?_)
      simp only [QuicConnection.step, sendDatagram]
      split_ifs
      · rfl
      · split
        · rfl
        · split_ifs <;> rfl
  | close errorCode reason => exact Orderly.close hN h errorCode reason now
  | nextEvent =>
      refine of_living (h.of_view ?_)
      simp only [QuicConnection.step, nextEvent]
      split <;> rfl

/-- Nothing happens to a connection that is over. -/
theorem step_ended (hclosed : s.closed = true) (hpending : s.pendingClosePacket = none) (now : Nat)
    (input : Input) : (s.step now input).1.closeView = s.closeView := by
  cases input with
  | receive datagram => simp [QuicConnection.step, QuicConnection.receive, hclosed, hpending]
  | send => simp [QuicConnection.step, QuicConnection.send, hclosed, hpending]
  | getTimeoutNs => rfl
  | handleTimeout => simp [QuicConnection.step, QuicConnection.handleTimeout, hclosed, hpending]
  | openStream => simp [QuicConnection.step, openStream, hclosed]
  | sendStreamData => simp [QuicConnection.step, sendStreamData, hclosed]
  | closeStream => simp [QuicConnection.step, closeStream, hclosed]
  | stopSending => simp [QuicConnection.step, stopSending, hclosed]
  | resetStream => simp [QuicConnection.step, resetStream, hclosed]
  | sendDatagram => simp [QuicConnection.step, sendDatagram, hclosed]
  | close => simp [QuicConnection.step, QuicConnection.close, hclosed]
  | nextEvent =>
      simp only [QuicConnection.step, nextEvent]
      split <;> rfl

theorem step (hN : N.StaysClosing closing) {turn : Turn N.Addr} (h : Orderly closing s)
    (hturn : s.Takes turn s') : Orderly closing s' := by
  have hs' : s' = (s.step turn.now turn.input).1 := (congrArg Prod.fst hturn).symm
  cases h with
  | living hclosed hpending hclosures =>
      rw [hs']
      exact step_living hN ⟨hclosed, hpending, hclosures⟩ turn.now turn.input
  | ended hclosed hpending hclosures =>
      have hview : s'.closeView = s.closeView := by
        rw [hs']
        exact step_ended hclosed hpending turn.now turn.input
      refine .ended ?_ ?_ ?_
      · exact (congrArg CloseView.closed hview).trans hclosed
      · exact (congrArg CloseView.pendingClosePacket hview).trans hpending
      · have hsame : Quic.closures s'.pushed = Quic.closures s.pushed :=
          congrArg CloseView.closures hview
        rw [hsame]
        exact hclosures
  | closing hfits =>
      rcases hfits.step hN hturn with ⟨phase', -, hfits'⟩
      exact .closing hfits'

theorem run (hN : N.StaysClosing closing) {turns : List (Turn N.Addr)} (h : Orderly closing s)
    (hturns : Path Takes s turns s') : Orderly closing s' :=
  Path.invariant (Orderly closing) (fun ha hturn => ha.step hN hturn) hturns h

theorem created (conn : N.Conn) (path : Ngtcp2Path N.Addr) (enableDatagram early : Bool) :
    Orderly closing (create conn path enableDatagram early) :=
  .living rfl rfl rfl

theorem living_of_open (h : Orderly closing s) (hclosed : s.closed = false) : Living s := by
  cases h with
  | living hclosed hpending hclosures => exact ⟨hclosed, hpending, hclosures⟩
  | ended hended => simp [hended] at hclosed
  | closing hfits => simp [hfits.closed] at hclosed

end Orderly

/-! ## The contract of the closing period -/

/-- What the calls behind a `close` that built `packet` return; `s` is the state in front of the
`close` and `s'` the last one. -/
structure ClosingContract (packet : QuicPacket N.Addr) (expiry : Nat) (turns : List (Turn N.Addr))
    (s s' : QuicConnection N) : Prop where
  /-- no ConnectionClosed event is pushed any more -/
  events : closures s'.pushed = closures s.pushed
  /-- every packet is the CONNECTION_CLOSE -/
  packets : ∀ turn ∈ turns, ∀ {sent}, turn.output = .packet (some sent) → sent = packet
  /-- the first `send` returns it -/
  first : ∀ {before turn after}, turns = before ++ turn :: after → turn.input = .send →
    (∀ earlier ∈ before, earlier.input ≠ .send) → turn.output = .packet (some packet)
  /-- between two packets a datagram was received -/
  alternates : ∀ {before turn between later after},
    turns = before ++ turn :: (between ++ later :: after) → turn.delivers = true →
      later.delivers = true → ∃ received ∈ between, received.isReceive = true
  /-- there are at most one more packets than received datagrams -/
  count : turns.countP Turn.delivers ≤ 1 + turns.countP Turn.isReceive
  /-- a packet at or behind the expiry is the first delivery -/
  expired : ∀ {before turn after}, turns = before ++ turn :: after → turn.delivers = true →
    expiry ≤ turn.now → ∀ earlier ∈ before, earlier.input ≠ .send
  /-- the timeout is 0 from the expiry until the packet is discarded -/
  timeout : ∀ {before turn after}, turns = before ++ turn :: after → turn.input = .getTimeoutNs →
    (turn.output = .timeout (some 0) ↔ expiry ≤ turn.now ∧ ¬ Discards expiry before)
  /-- afterwards the connection is over -/
  discarded : ∀ {before turn after}, turns = before ++ turn :: after → Discards expiry before →
    (turn.input = .send → turn.output = .packet none) ∧
    (∀ {datagram}, turn.input = .receive datagram → turn.output = .received .closed) ∧
    (turn.input = .getTimeoutNs → turn.output = .timeout none)

namespace ClosingContract

variable {packet : QuicPacket N.Addr} {expiry : Nat} {phase : ClosePhase}
  {turns : List (Turn N.Addr)} {s s' : QuicConnection N}

/-- The phase in which a call of the run is made. -/
theorem at_turn {before after : List (Turn N.Addr)} {turn : Turn N.Addr}
    (h : Path (Moves packet expiry) .undelivered turns phase)
    (hsplit : turns = before ++ turn :: after) :
    ∃ here next, Recalls expiry before here ∧ Moves packet expiry here turn next ∧
      Path (Moves packet expiry) next after phase := by
  subst hsplit
  rcases h.split with ⟨here, hbefore, next, hmove, hafter⟩
  exact ⟨here, next, Recalls.run hbefore, hmove, hafter⟩

theorem of_phases (h : Path (Moves packet expiry) .undelivered turns phase)
    (hevents : closures s'.pushed = closures s.pushed) :
    ClosingContract packet expiry turns s s' where
  events := hevents
  packets := by
    intro turn hmem sent hsent
    rcases List.append_of_mem hmem with ⟨before, after, hsplit⟩
    rcases at_turn h hsplit with ⟨here, next, -, hmove, -⟩
    have hdelivers : turn.delivers = true := by
      simp [Turn.delivers, hsent]
    have houtput := (hmove.of_delivers hdelivers).2.1
    rw [hsent] at houtput
    simpa using houtput
  first := by
    intro before turn after hsplit hinput hnone
    rcases at_turn h hsplit with ⟨here, next, hrecalls, hmove, -⟩
    have hhere : here = .undelivered := hrecalls.undelivered.2 hnone
    cases hmove with
    | deliver => rfl
    | answer => cases hhere
    | silent hphase => exact absurd hhere hphase
    | other hother => simp [hinput, Input.isOther] at hother
    | _ => cases hinput
  alternates := by
    intro before turn between later after hsplit hturn hlater
    rcases at_turn h hsplit with ⟨here, next, -, hmove, hrest⟩
    rcases hmove.of_delivers hturn with ⟨-, -, rfl, -⟩
    rcases hrest.split with ⟨mid, hbetween, last, hlast, -⟩
    by_contra hnone
    push Not at hnone
    -- with nothing received the packet is not armed, so the later call cannot return it
    have hmid := Moves.unarmed hbetween fun turn hmem => by simpa using hnone turn hmem
    rcases (hlast.of_delivers hlater).2.2.2 with rfl | ⟨rfl, -⟩ <;> simp at hmid
  count := Moves.bounded h
  expired := by
    intro before turn after hsplit hturn hnow
    rcases at_turn h hsplit with ⟨here, next, hrecalls, hmove, -⟩
    rcases (hmove.of_delivers hturn).2.2.2 with hhere | ⟨-, hbefore⟩
    · exact hrecalls.undelivered.1 hhere
    · exact absurd hnow (Nat.not_le_of_lt hbefore)
  timeout := by
    intro before turn after hsplit hinput
    rcases at_turn h hsplit with ⟨here, next, hrecalls, hmove, -⟩
    rw [← hrecalls.discarded]
    cases hmove with
    | remaining hphase => simp [hphase, Nat.sub_eq_zero_iff_le]
    | noTimeout => simp
    | other hother => simp [hinput, Input.isOther] at hother
    | _ => cases hinput
  discarded := by
    intro before turn after hsplit hdiscards
    rcases at_turn h hsplit with ⟨here, next, hrecalls, hmove, -⟩
    have hhere : here = .discarded := hrecalls.discarded.2 hdiscards
    subst hhere
    cases hmove with
    | other hother =>
        refine ⟨fun hinput => ?_, fun hinput => ?_, fun hinput => ?_⟩ <;>
          simp [hinput, Input.isOther] at hother
    | silent => simp
    | ignore hphase => simp [hphase rfl]
    | noTimeout => simp
    | keep => simp
    | discard hphase => simp at hphase
    | remaining hphase => simp at hphase

end ClosingContract

/-- A connection reports its end at most once; and behind a local close that built a packet it
reports nothing, and answers as the closing period asks for. -/
theorem closing_contract {closing : N.Conn → Prop} (hN : N.StaysClosing closing) (conn : N.Conn)
    (path : Ngtcp2Path N.Addr) (enableDatagram early : Bool) {turns : List (Turn N.Addr)}
    {s : QuicConnection N} (hturns : Path Takes (create conn path enableDatagram early) turns s) :
    (closures s.pushed).length ≤ 1 ∧
    ∀ {errorCode now : Nat} {reason : Bytes} {conn' : N.Conn} {nwrite : Int}
      {packet : QuicPacket N.Addr} {behind : List (Turn N.Addr)} {s' : QuicConnection N},
      s.closed = false →
      N.writeConnectionClose s.conn s.path errorCode reason now = (conn', nwrite, packet) →
      0 < nwrite → Path Takes (s.close errorCode reason now) behind s' →
      (s.close errorCode reason now).closingExpiryNs =
          some ((now + 3 * N.getPto conn') % 2 ^ 64) ∧
        ClosingContract packet ((now + 3 * N.getPto conn') % 2 ^ 64) behind s s' := by
  have horderly : Orderly closing s :=
    Orderly.run hN (Orderly.created conn path enableDatagram early) hturns
  refine ⟨horderly.closures_le, ?_⟩
  intro errorCode now reason conn' nwrite packet behind s' hclosed hwrite hnwrite hbehind
  have hliving : Orderly.Living s := horderly.living_of_open hclosed
  have hfits := Orderly.fits_close hN hliving hwrite hnwrite
  rcases hfits.run hN hbehind with ⟨phase, hphases, hlast⟩
  refine ⟨hfits.expiryNs, ?_⟩
  apply ClosingContract.of_phases hphases
  rw [hlast.closures, hliving.2.2]

/-- An ngtcp2 without streams, which has nothing to write but a CONNECTION_CLOSE; it knows whether it
has written that. -/
@[reducible] def idle : Ngtcp2 where
  Conn := Bool
  Addr := Nat
  fillSockaddr := fun _ port => some port
  readPkt := fun closing _ _ _ => (closing, [], if closing then errClosing else errDiscardPkt)
  pktRecv := fun _ => 0
  handleExpiry := fun closing _ => (closing, [], 0)
  getExpiry := fun _ => none
  inDrainingPeriod := fun _ => false
  writevStream := fun closing path _ _ _ _ _ => (closing, ⟨errStreamNotFound, -1, ⟨[], path⟩⟩)
  finishPacket := fun closing path _ => (closing, 0, ⟨[], path⟩)
  writevDatagram := fun closing path _ _ => (closing, errInvalidState, false, ⟨[], path⟩)
  writePkt := fun closing path _ => (closing, 0, ⟨[], path⟩)
  updatePktTxTime := fun closing _ => closing
  writeConnectionClose := fun _ path _ reason _ => (true, 1 + reason.length, ⟨0x1d :: reason, path⟩)
  getPto := fun _ => 10
  openStream := fun closing _ => (closing, -206, -1)
  shutdownStream := fun closing _ _ => (closing, errStreamNotFound)
  shutdownStreamRead := fun closing _ _ => (closing, errStreamNotFound)
  shutdownStreamWrite := fun closing _ _ => (closing, errStreamNotFound)
  remoteMaxDatagramFrameSize := fun _ => none
  strerror := fun _ => ""

theorem idle_staysClosing : idle.StaysClosing (fun closing => closing = true) where
  enters := by
    intro conn conn' path errorCode reason now nwrite packet hwrite hnwrite
    cases hwrite
    rfl
  reads := by
    intro conn conn' path data now callbacks rv hread hclosing
    cases hread
    exact ⟨if_pos hclosing, hclosing, rfl⟩

def idleConnection : QuicConnection idle := create false ⟨1, 2⟩ true false

/-- A run over the closing period behind a close at time 100. -/
def idleCalls : List (Nat × Input) :=
  let datagram : Datagram := ⟨[0], [], 1, [], 2⟩
  [(110, .send), (111, .send), (120, .receive datagram), (121, .send), (129, .getTimeoutNs),
    (130, .getTimeoutNs), (131, .handleTimeout), (132, .send), (133, .receive datagram),
    (134, .getTimeoutNs)]

/-- Two packets are returned, the second one for the datagram; then the period is over. -/
theorem closing_contract_idle :
    let closed := idleConnection.close 0 [7] 100
    (closed.run idleCalls).2.map Turn.output =
        [.packet (some ⟨[0x1d, 7], ⟨1, 2⟩⟩), .packet none, .received .discarded,
          .packet (some ⟨[0x1d, 7], ⟨1, 2⟩⟩), .timeout (some 1), .timeout (some 0), .nothing,
          .packet none, .received .closed, .timeout none] ∧
      @ClosingContract idle ⟨[0x1d, 7], ⟨1, 2⟩⟩ 130 (closed.run idleCalls).2 idleConnection
        (closed.run idleCalls).1 := by
  have hnone : Path Takes idleConnection [] idleConnection := rfl
  have hwrite : idle.writeConnectionClose false ⟨1, 2⟩ 0 [7] 100 =
      (true, 2, ⟨[0x1d, 7], ⟨1, 2⟩⟩) := rfl
  have hcontract := closing_contract idle_staysClosing false ⟨1, 2⟩ true false hnone
  have hrun := run_path (idleConnection.close 0 [7] 100) idleCalls
  exact ⟨rfl, (hcontract.2 rfl hwrite (by decide) hrun).2⟩

end Quic
end WebTransport
