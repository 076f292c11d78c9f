import WebTransport.H2.Runs

/-!
# H2.SendSide — the sending half of a stream

`send_stream_data` sends what the credit admits and queues the rest, `flush_pending_sends` sends from
the queues when the credit grows, and a FIN travels with the last piece of data.  For one stream id
this is a machine with a queue, `SendHalf`:

* `SendHalf.Step` : taking data in, sending a piece, announcing that it is blocked, ending;
* `SendHalf.Kept` : what was sent followed by what is queued is what was taken in, nothing is queued
  behind the end, and a reset names the number of bytes sent;
* `Trans.send_step` : every change of a session entry is such a step for every stream id;
* `sent_is_accepted` : the invariant along every run of a session.
-/

namespace WebTransport
namespace H2

open Bindings

/-! ## Capsules of a sending half -/

namespace Capsule

/-- The stream whose sending half queues the capsule. -/
def sendStream : Capsule → Option Nat
  | .wtStream _ streamId _ => some streamId
  | .wtResetStream streamId _ _ => some streamId
  | .wtStreamDataBlocked streamId _ => some streamId
  | _ => none

/-- The Stream Data of the capsules. -/
def streamBytes (cs : List Capsule) : Bytes :=
  cs.flatMap fun
    | .wtStream _ _ data => data
    | _ => []

/-- A WT_STREAM_FIN is among the capsules. -/
def hasFin (cs : List Capsule) : Bool :=
  cs.any fun
    | .wtStream fin _ _ => fin
    | _ => false

/-- A WT_RESET_STREAM is among the capsules. -/
def hasReset (cs : List Capsule) : Bool :=
  cs.any fun
    | .wtResetStream _ _ _ => true
    | _ => false

/-- Nothing stands behind a WT_STREAM_FIN or WT_RESET_STREAM, and a Reliable Size is the number of
bytes in front of it (`sent` of them before the list). -/
def sendGrammar (sent : Nat) : List Capsule → Bool
  | [] => true
  | .wtStream fin _ data :: rest =>
      if fin then rest.isEmpty else sendGrammar (sent + data.length) rest
  | .wtResetStream _ _ reliableSize :: rest => reliableSize = sent && rest.isEmpty
  | _ :: rest => sendGrammar sent rest

@[simp] theorem streamBytes_append (cs cs' : List Capsule) :
    streamBytes (cs ++ cs') = streamBytes cs ++ streamBytes cs' := List.flatMap_append

@[simp] theorem hasFin_append (cs cs' : List Capsule) :
    hasFin (cs ++ cs') = (hasFin cs || hasFin cs') := List.any_append

@[simp] theorem hasReset_append (cs cs' : List Capsule) :
    hasReset (cs ++ cs') = (hasReset cs || hasReset cs') := List.any_append

/-- A list without an end may go on. -/
theorem sendGrammar_append (sent : Nat) {cs : List Capsule} (hfin : hasFin cs = false)
    (hreset : hasReset cs = false) (cs' : List Capsule) :
    sendGrammar sent (cs ++ cs') = sendGrammar (sent + (streamBytes cs).length) cs' := by
  induction cs generalizing sent with
  | nil => rfl
  | cons c cs ih =>
      have hfin' : hasFin cs = false := (Bool.or_eq_false_iff.1 hfin).2
      have hreset' : hasReset cs = false := (Bool.or_eq_false_iff.1 hreset).2
      have hrest := ih sent hfin' hreset'
      cases c with
      | wtStream fin streamId data =>
          have hnot : fin = false := (Bool.or_eq_false_iff.1 hfin).1
          subst hnot
          have hlen : (streamBytes (.wtStream false streamId data :: cs)).length =
              data.length + (streamBytes cs).length := by
            simp [streamBytes]
          rw [List.cons_append, sendGrammar, if_neg Bool.false_ne_true,
            ih (sent + data.length) hfin' hreset', hlen, Nat.add_assoc]
      | wtResetStream streamId errorCode reliableSize => simp [hasReset] at hreset
      | _ => exact hrest

end Capsule

/-! ## The machine -/

/-- The data of a queue or of a list of calls. -/
def PendingSend.bytes (ps : List PendingSend) : Bytes := ps.flatMap fun p => p.data

/-- The sending half of a stream entry. -/
structure SendHalf where
  state : StreamState
  pending : List PendingSend
  sent : Nat
  deriving DecidableEq

namespace SendHalf

/-- One step of the half of `streamId`, with the calls it takes in and the capsules it queues. -/
inductive Step (streamId : Nat) :
    Option SendHalf → List PendingSend × List Capsule → Option SendHalf → Prop
  | stay (half : Option SendHalf) : Step streamId half ([], []) half
  | take {pending : List PendingSend} {sent : Nat} (data : Bytes) (fin : Bool)
      (hfin : ∀ last, pending.getLast? = some last → last.fin = false) :
      Step streamId (some ⟨.ready, pending, sent⟩) ([⟨data, fin⟩], [])
        (some ⟨.ready, pending ++ [⟨data, fin⟩], sent⟩)
  | part {front : PendingSend} {rest : List PendingSend} {sent size : Nat}
      (hsize : size < front.data.length) :
      Step streamId (some ⟨.ready, front :: rest, sent⟩)
        ([], [.wtStream false streamId (front.data.take size)])
        (some ⟨.ready, { front with data := front.data.drop size } :: rest, sent + size⟩)
  | front {front : PendingSend} {rest : List PendingSend} {sent : Nat}
      (hlast : front.fin = true → rest = []) :
      Step streamId (some ⟨.ready, front :: rest, sent⟩)
        ([], [.wtStream front.fin streamId front.data])
        (some ⟨if front.fin then .dataSent else .ready, rest, sent + front.data.length⟩)
  | blocked {pending : List PendingSend} {sent : Nat} (limit : Nat) :
      Step streamId (some ⟨.ready, pending, sent⟩) ([], [.wtStreamDataBlocked streamId limit])
        (some ⟨.ready, pending, sent⟩)
  | reset {pending : List PendingSend} {sent : Nat} (errorCode : Nat) :
      Step streamId (some ⟨.ready, pending, sent⟩)
        ([], [.wtResetStream streamId errorCode sent]) (some ⟨.resetSent, [], sent⟩)
  | clear {state : StreamState} {pending : List PendingSend} {sent : Nat}
      (hdone : state.sendDone = true) :
      Step streamId (some ⟨state, pending, sent⟩) ([], []) (some ⟨state, [], sent⟩)
  | release {state : StreamState} {pending : List PendingSend} {sent : Nat}
      (hempty : state.sendDone = false → pending = []) :
      Step streamId (some ⟨state, pending, sent⟩) ([], []) none

/-- The queue of a half; without an entry there is none. -/
def queue : Option SendHalf → List PendingSend
  | none => []
  | some half => half.pending

/-- What the accepted calls and the queued capsules of a stream say about its half. -/
structure Kept (calls : List PendingSend) (cs : List Capsule) (half : Option SendHalf) : Prop where
  grammar : Capsule.sendGrammar 0 cs = true
  intact : Capsule.hasReset cs = false →
    Capsule.streamBytes cs ++ PendingSend.bytes (queue half) = PendingSend.bytes calls
  fin_iff : Capsule.hasReset cs = false →
    (Capsule.hasFin cs = true ↔ (calls.any fun p => p.fin) = true ∧ queue half = [])
  sent_eq : ∀ h, half = some h → h.sent = (Capsule.streamBytes cs).length
  ended_iff : ∀ h, half = some h →
    (h.state.sendDone = true ↔ Capsule.hasFin cs = true ∨ Capsule.hasReset cs = true)
  fin_queued : ∀ h, half = some h → h.state.sendDone = false →
    ((calls.any fun p => p.fin) = true ↔ ∃ last, h.pending.getLast? = some last ∧ last.fin = true)

section Kept

variable {streamId : Nat} {calls : List PendingSend} {cs : List Capsule}

/-- The half has not ended as long as its entry is ready. -/
theorem Kept.not_ended {pending : List PendingSend} {sent : Nat}
    (h : Kept calls cs (some ⟨.ready, pending, sent⟩)) :
    Capsule.hasFin cs = false ∧ Capsule.hasReset cs = false := by
  have hiff := h.ended_iff _ rfl
  rw [← Bool.not_eq_true, ← Bool.not_eq_true, ← not_or, ← hiff]
  exact Bool.false_ne_true

theorem Kept.take {pending : List PendingSend} {sent : Nat}
    (h : Kept calls cs (some ⟨.ready, pending, sent⟩)) (p : PendingSend)
    (hfin : ∀ last, pending.getLast? = some last → last.fin = false) :
    Kept (calls ++ [p]) cs (some ⟨.ready, pending ++ [p], sent⟩) := by
  rcases h.not_ended with ⟨hnoFin, hnoReset⟩
  have hcalls : (calls.any fun p => p.fin) = false := by
    rw [← Bool.not_eq_true, h.fin_queued _ rfl rfl]
    rintro ⟨last, hlast, htrue⟩
    rw [hfin last hlast] at htrue
    cases htrue
  refine ⟨h.grammar, ?_, ?_, ?_, ?_, ?_⟩
  · intro _
    have hintact := h.intact hnoReset
    simp only [queue, PendingSend.bytes, List.flatMap_append, ← List.append_assoc] at hintact ⊢
    rw [hintact]
  · intro _
    simp [hnoFin, queue]
  · rintro _ ⟨⟩
    exact h.sent_eq ⟨.ready, pending, sent⟩ rfl
  · rintro _ ⟨⟩
    exact h.ended_iff ⟨.ready, pending, sent⟩ rfl
  · rintro _ ⟨⟩ _
    rw [List.any_append, hcalls, List.getLast?_concat]
    simp

/-- A piece of data leaves the queue and is queued as a capsule. -/
theorem Kept.send {pending pending' : List PendingSend} {sent : Nat} {data : Bytes}
    (h : Kept calls cs (some ⟨.ready, pending, sent⟩))
    (hbytes : PendingSend.bytes pending = data ++ PendingSend.bytes pending')
    (hne : (calls.any fun p => p.fin) = true → pending' ≠ [])
    (hlast : (∃ last, pending.getLast? = some last ∧ last.fin = true) ↔
      ∃ last, pending'.getLast? = some last ∧ last.fin = true) :
    Kept calls (cs ++ [.wtStream false streamId data])
      (some ⟨.ready, pending', sent + data.length⟩) := by
  rcases h.not_ended with ⟨hnoFin, hnoReset⟩
  refine ⟨?_, ?_, ?_, ?_, ?_, ?_⟩
  · rw [Capsule.sendGrammar_append 0 hnoFin hnoReset]
    rfl
  · intro _
    have hintact := h.intact hnoReset
    simp only [queue, hbytes] at hintact
    simp [Capsule.streamBytes, queue, ← hintact]
  · intro _
    simp only [Capsule.hasFin_append, hnoFin, queue]
    refine iff_of_false (by simp [Capsule.hasFin]) ?_
    rintro ⟨htrue, hempty⟩
    exact hne htrue hempty
  · rintro _ ⟨⟩
    have hsent := h.sent_eq _ rfl
    simp only at hsent
    simp [Capsule.streamBytes, hsent]
  · rintro _ ⟨⟩
    refine iff_of_false Bool.false_ne_true ?_
    rw [Capsule.hasFin_append, Capsule.hasReset_append, hnoFin, hnoReset]
    rintro (h | h) <;> cases h
  · rintro _ ⟨⟩ _
    rw [← hlast]
    exact h.fin_queued _ rfl rfl

theorem Kept.sendFin {front : PendingSend} {sent : Nat}
    (h : Kept calls cs (some ⟨.ready, [front], sent⟩)) (hfin : front.fin = true) :
    Kept calls (cs ++ [.wtStream true streamId front.data])
      (some ⟨.dataSent, [], sent + front.data.length⟩) := by
  rcases h.not_ended with ⟨hnoFin, hnoReset⟩
  have hcalls : (calls.any fun p => p.fin) = true := (h.fin_queued _ rfl rfl).2 ⟨front, rfl, hfin⟩
  refine ⟨?_, ?_, ?_, ?_, ?_, ?_⟩
  · rw [Capsule.sendGrammar_append 0 hnoFin hnoReset]
    rfl
  · intro _
    have hintact := h.intact hnoReset
    simp only [queue, PendingSend.bytes, List.flatMap_cons, List.flatMap_nil, List.append_nil] at hintact
    simp [Capsule.streamBytes, queue, PendingSend.bytes, ← hintact]
  · intro _
    simp [Capsule.hasFin, queue, hcalls]
  · rintro _ ⟨⟩
    have hsent := h.sent_eq _ rfl
    simp only at hsent
    simp [Capsule.streamBytes, hsent]
  · rintro _ ⟨⟩
    simp [Capsule.hasFin, StreamState.sendDone]
  · rintro _ ⟨⟩ hnot
    cases hnot

theorem Kept.blocked {pending : List PendingSend} {sent : Nat}
    (h : Kept calls cs (some ⟨.ready, pending, sent⟩)) (limit : Nat) :
    Kept calls (cs ++ [.wtStreamDataBlocked streamId limit]) (some ⟨.ready, pending, sent⟩) := by
  rcases h.not_ended with ⟨hnoFin, hnoReset⟩
  have hbytes : Capsule.streamBytes (cs ++ [.wtStreamDataBlocked streamId limit]) =
      Capsule.streamBytes cs := by simp [Capsule.streamBytes]
  have hfin : Capsule.hasFin (cs ++ [.wtStreamDataBlocked streamId limit]) = Capsule.hasFin cs := by
    simp [Capsule.hasFin]
  have hreset : Capsule.hasReset (cs ++ [.wtStreamDataBlocked streamId limit]) =
      Capsule.hasReset cs := by simp [Capsule.hasReset]
  refine ⟨?_, ?_, ?_, ?_, ?_, h.fin_queued⟩
  · rw [Capsule.sendGrammar_append 0 hnoFin hnoReset]
    rfl
  · rw [hbytes, hreset]
    exact h.intact
  · rw [hfin, hreset]
    exact h.fin_iff
  · rw [hbytes]
    exact h.sent_eq
  · rw [hfin, hreset]
    exact h.ended_iff

theorem Kept.reset {pending : List PendingSend} {sent : Nat}
    (h : Kept calls cs (some ⟨.ready, pending, sent⟩)) (errorCode : Nat) :
    Kept calls (cs ++ [.wtResetStream streamId errorCode sent]) (some ⟨.resetSent, [], sent⟩) := by
  rcases h.not_ended with ⟨hnoFin, hnoReset⟩
  have hreset : Capsule.hasReset (cs ++ [.wtResetStream streamId errorCode sent]) = true := by
    simp [Capsule.hasReset]
  refine ⟨?_, ?_, ?_, ?_, ?_, ?_⟩
  · rw [Capsule.sendGrammar_append 0 hnoFin hnoReset, ← h.sent_eq _ rfl]
    simp [Capsule.sendGrammar]
  · intro hnot
    rw [hreset] at hnot
    cases hnot
  · intro hnot
    rw [hreset] at hnot
    cases hnot
  · rintro _ ⟨⟩
    have hsent := h.sent_eq _ rfl
    simp only at hsent
    simp [Capsule.streamBytes, hsent]
  · rintro _ ⟨⟩
    simp [hreset, StreamState.sendDone]
  · rintro _ ⟨⟩ hnot
    cases hnot

/-- Without its entry, or with its queue emptied behind the end, a half keeps what it said. -/
theorem Kept.drop {state : StreamState} {pending : List PendingSend} {sent : Nat}
    (h : Kept calls cs (some ⟨state, pending, sent⟩))
    (hempty : state.sendDone = false → pending = []) {half : Option SendHalf}
    (hhalf : half = none ∨ state.sendDone = true ∧ half = some ⟨state, [], sent⟩) :
    Kept calls cs half := by
  have hqueue : queue half = [] := by
    rcases hhalf with rfl | ⟨-, rfl⟩ <;> rfl
  -- A FIN leaves nothing in the queue, so the queue was empty unless the stream was reset.
  have hpending : Capsule.hasReset cs = false → pending = [] := by
    intro hnoReset
    cases hdone : state.sendDone with
    | false => exact hempty hdone
    | true =>
        rcases (h.ended_iff _ rfl).1 hdone with hfin | hreset
        · exact ((h.fin_iff hnoReset).1 hfin).2
        · rw [hnoReset] at hreset
          cases hreset
  refine ⟨h.grammar, ?_, ?_, ?_, ?_, ?_⟩
  · intro hnoReset
    have hintact := h.intact hnoReset
    rw [show queue (some ⟨state, pending, sent⟩) = [] from hpending hnoReset] at hintact
    rw [hqueue]
    exact hintact
  · intro hnoReset
    have hfin := h.fin_iff hnoReset
    rw [show queue (some ⟨state, pending, sent⟩) = [] from hpending hnoReset] at hfin
    rw [hqueue]
    exact hfin
  · rcases hhalf with rfl | ⟨-, rfl⟩
    · rintro _ ⟨⟩
    · rintro _ ⟨⟩
      exact h.sent_eq ⟨state, pending, sent⟩ rfl
  · rcases hhalf with rfl | ⟨-, rfl⟩
    · rintro _ ⟨⟩
    · rintro _ ⟨⟩
      exact h.ended_iff ⟨state, pending, sent⟩ rfl
  · rcases hhalf with rfl | ⟨hdone, rfl⟩
    · rintro _ ⟨⟩
    · rintro _ ⟨⟩ hnot
      simp [hdone] at hnot

/-- A step keeps what the calls and the capsules say. -/
theorem Step.kept {half half' : Option SendHalf} {l : List PendingSend × List Capsule}
    (h : Step streamId half l half') (hkept : Kept calls cs half) :
    Kept (calls ++ l.1) (cs ++ l.2) half' := by
  cases h with
  | stay =>
      rw [List.append_nil, List.append_nil]
      exact hkept
  | take data fin hfin =>
      rw [List.append_nil]
      exact hkept.take ⟨data, fin⟩ hfin
  | @part front rest sent size hsize =>
      rw [List.append_nil]
      have hlen : (front.data.take size).length = size := by
        rw [List.length_take, Nat.min_eq_left (Nat.le_of_lt hsize)]
      have hsend := @Kept.send streamId calls cs (front :: rest)
        ({ front with data := front.data.drop size } :: rest) sent (front.data.take size) hkept
        (by simp [PendingSend.bytes, ← List.append_assoc])
        (fun _ => List.cons_ne_nil _ _)
        (by cases rest <;> simp [List.getLast?_cons])
      rwa [hlen] at hsend
  | @front front rest sent hlast =>
      rw [List.append_nil]
      cases hfin : front.fin with
      | true =>
          rw [hlast hfin] at hkept ⊢
          exact hkept.sendFin hfin
      | false =>
          have hqueued := hkept.fin_queued _ rfl rfl
          have hrest : (∃ last, (front :: rest).getLast? = some last ∧ last.fin = true) ↔
              ∃ last, rest.getLast? = some last ∧ last.fin = true := by
            cases rest with
            | nil => simp [hfin]
            | cons next rest => simp [List.getLast?_cons_cons]
          refine hkept.send (by simp [PendingSend.bytes]) ?_ hrest
          rintro hcalls rfl
          rcases hrest.1 (hqueued.1 hcalls) with ⟨last, hlast', -⟩
          cases hlast'
  | blocked limit =>
      rw [List.append_nil]
      exact hkept.blocked limit
  | reset errorCode =>
      rw [List.append_nil]
      exact hkept.reset errorCode
  | @clear state pending sent hdone =>
      rw [List.append_nil, List.append_nil]
      exact hkept.drop (fun hnot => by simp [hdone] at hnot) (Or.inr ⟨hdone, rfl⟩)
  | release hempty =>
      rw [List.append_nil, List.append_nil]
      exact hkept.drop hempty (Or.inl rfl)

end Kept

end SendHalf

/-! ## Changes of the entry are steps of the half -/

/-- What a label brings to the sending half of a stream id. -/
def Label.sendShare (id : Nat) : Label → List PendingSend × List Capsule
  | .accepted streamId data fin => (if streamId = id then [⟨data, fin⟩] else [], [])
  | .sent c => ([], if c.sendStream = some id then [c] else [])
  | _ => ([], [])

/-- The entry of the stream id is not created a second time. -/
def Permits.once (id : Nat) : Permits where
  reset _ := True
  stop _ := True
  create _ streamId := streamId ≠ id
  lateFin _ := True

namespace WtSessionInfo

/-- The sending half of a stream id. -/
def sendHalf (w : WtSessionInfo) (id : Nat) : Option SendHalf :=
  (w.streams.find? id).map fun info => ⟨info.sendState, info.pendingSends, info.bytesSent⟩

theorem sendHalf_of_find? {w : WtSessionInfo} {id : Nat} {info : WtStreamInfo}
    (h : w.streams.find? id = some info) :
    w.sendHalf id = some ⟨info.sendState, info.pendingSends, info.bytesSent⟩ := by
  unfold sendHalf
  rw [h]
  rfl

theorem sendHalf_setStream (w : WtSessionInfo) (streamId : Nat) (info : WtStreamInfo) (id : Nat) :
    (w.setStream streamId info).sendHalf id =
      if id = streamId then some ⟨info.sendState, info.pendingSends, info.bytesSent⟩
      else w.sendHalf id := by
  unfold sendHalf
  rw [find?_setStream]
  split_ifs <;> rfl

section SendStep

variable {config : H2SessionConfig} {isServer : Bool} {w w' w₁ : WtSessionInfo} {l : Label} {id : Nat}

theorem send_stay {l : List PendingSend × List Capsule} (hshare : l = ([], []))
    (hhalf : w'.sendHalf id = w.sendHalf id) :
    SendHalf.Step id (w.sendHalf id) l (w'.sendHalf id) := by
  rw [hshare, hhalf]
  exact .stay _

/-- Rewriting a stream entry without touching its sending half keeps every half. -/
theorem sendHalf_rewrite {streamId : Nat} {info info' : WtStreamInfo}
    (hfind : w.streams.find? streamId = some info) (id : Nat)
    (hstate : info'.sendState = info.sendState := by rfl)
    (hpending : info'.pendingSends = info.pendingSends := by rfl)
    (hsent : info'.bytesSent = info.bytesSent := by rfl)
    (hstreams : w₁.streams = w.streams := by rfl) :
    (w₁.setStream streamId info').sendHalf id = w.sendHalf id := by
  rw [sendHalf_setStream]
  split_ifs with hid
  · rw [hid, sendHalf_of_find? hfind, hstate, hpending, hsent]
  · unfold sendHalf
    rw [hstreams]

/-- A change of the sending half of one stream is a step of it and of no other. -/
theorem send_step_of {streamId : Nat} {info info' : WtStreamInfo} {calls : List PendingSend}
    {cs : List Capsule} (hfind : w.streams.find? streamId = some info)
    (hstreams : w₁.streams = w.streams)
    (h : SendHalf.Step streamId (some ⟨info.sendState, info.pendingSends, info.bytesSent⟩) (calls, cs)
      (some ⟨info'.sendState, info'.pendingSends, info'.bytesSent⟩)) (id : Nat) :
    SendHalf.Step id (w.sendHalf id)
      (if streamId = id then calls else [], if streamId = id then cs else [])
      ((w₁.setStream streamId info').sendHalf id) := by
  rw [sendHalf_setStream]
  by_cases hid : id = streamId
  · subst hid
    rw [if_pos rfl, if_pos rfl, if_pos rfl, sendHalf_of_find? hfind]
    exact h
  · rw [if_neg hid, if_neg (Ne.symm hid), if_neg (Ne.symm hid)]
    unfold sendHalf
    rw [hstreams]
    exact .stay _

theorem ready_of_wf (hwf : Wf isServer w) {streamId : Nat} {info : WtStreamInfo}
    (hfind : w.streams.find? streamId = some info) (hready : info.sendState.sendDone = false) :
    info.sendState = .ready := by
  rcases (hwf.stream hfind).send_state with h | h
  · exact h
  · rw [hready] at h
    cases h

theorem share_sent {c : Capsule} {streamId : Nat} (h : c.sendStream = some streamId) (id : Nat) :
    Label.sendShare id (.sent c) =
      (if streamId = id then [] else [], if streamId = id then [c] else []) := by
  simp only [Label.sendShare, h, Option.some.injEq, ite_self]

theorem share_accepted (streamId : Nat) (data : Bytes) (fin : Bool) (id : Nat) :
    Label.sendShare id (.accepted streamId data fin) =
      (if streamId = id then [⟨data, fin⟩] else [], if streamId = id then [] else []) := by
  simp only [Label.sendShare, ite_self]

/-- An arriving data capsule leaves the sending half of every stream as it is. -/
theorem send_step_reached {streamId : Nat} {info info' : WtStreamInfo}
    (hreaches : Reaches (.once id) config isServer w streamId info)
    (hstate : info'.sendState = info.sendState) (hpending : info'.pendingSends = info.pendingSends)
    (hsent : info'.bytesSent = info.bytesSent) (hstreams : w₁.streams = w.streams) :
    (w₁.setStream streamId info').sendHalf id = w.sendHalf id := by
  cases hreaches with
  | existing hfind => exact sendHalf_rewrite hfind id hstate hpending hsent hstreams
  | created hcreate hnone hreleased hlimit =>
      have hid : id ≠ streamId := Ne.symm hcreate
      rw [sendHalf_setStream, if_neg hid]
      unfold sendHalf
      rw [hstreams]

/-- A new entry is one of another stream. -/
theorem send_step_open {streamId : Nat} {info : WtStreamInfo} (hcreate : streamId ≠ id)
    (hstreams : w₁.streams = w.streams) :
    (w₁.setStream streamId info).sendHalf id = w.sendHalf id := by
  rw [sendHalf_setStream, if_neg (Ne.symm hcreate)]
  unfold sendHalf
  rw [hstreams]

/-- A released entry has nothing queued, unless its sending half has ended. -/
theorem send_step_release (hwf : Wf isServer w) {streamId : Nat} {info : WtStreamInfo}
    (hfind : w.streams.find? streamId = some info) (hreleasable : releasable info = true) :
    SendHalf.Step id (w.sendHalf id) ([], []) ((w.dropStream streamId info).sendHalf id) := by
  have hstreams : (w.dropStream streamId info).streams = w.streams.erase streamId := rfl
  by_cases hid : id = streamId
  · subst hid
    have hgone : (w.dropStream id info).sendHalf id = none := by
      unfold sendHalf
      rw [hstreams, OrdMap.find?_erase_self]
      rfl
    rw [hgone, sendHalf_of_find? hfind]
    refine .release fun hnot => ?_
    by_contra hne
    -- Data is queued on sendable streams only, and these are released behind their end.
    have hsendable := (hwf.stream hfind).pending_sendable hne
    simp only [releasable, hnot] at hreleasable
    simp only [isSendableStream] at hsendable
    cases hlocal : info.isLocal <;> cases huni : info.isUnidirectional <;>
      simp [hlocal, huni] at hreleasable hsendable
  · refine send_stay rfl ?_
    unfold sendHalf
    rw [hstreams, OrdMap.find?_erase_ne _ hid]

/-- Every change of the entry is a step of the sending half of a stream id whose entry is not
created a second time. -/
theorem Trans.send_step (h : Trans (.once id) config isServer w l w') (hwf : Wf isServer w) :
    SendHalf.Step id (w.sendHalf id) (l.sendShare id) (w'.sendHalf id) := by
  cases h with
  | @enqueue streamId info data fin hfind hsendable hready hfin =>
      rw [share_accepted]
      have hstate := ready_of_wf hwf hfind hready
      refine send_step_of hfind rfl ?_ id
      dsimp only
      rw [hstate]
      exact .take data fin hfin
  | @sendPart streamId info front rest size hfind hready hpending hsize hsession hstream =>
      rw [share_sent rfl]
      have hstate := ready_of_wf hwf hfind hready
      refine send_step_of hfind (by rfl) ?_ id
      dsimp only
      rw [hstate, hpending]
      exact .part hsize
  | @sendFront streamId info front rest hfind hready hpending hsession hstream =>
      rw [share_sent rfl]
      have hstate := ready_of_wf hwf hfind hready
      refine send_step_of hfind (by rfl) ?_ id
      dsimp only
      rw [hstate, hpending]
      refine .front fun hfin => ?_
      by_contra hne
      have hlast := (hwf.stream hfind).fin_last front (by
        rw [hpending]
        cases rest with
        | nil => exact absurd rfl hne
        | cons next rest => exact List.mem_cons_self)
      rw [hlast] at hfin
      cases hfin
  | @clearPending streamId info hfind hdone =>
      have hshare : Label.sendShare id .internal =
          (if streamId = id then [] else [], if streamId = id then [] else []) := by
        rw [ite_self, ite_self]
        rfl
      rw [hshare]
      exact send_step_of hfind rfl (.clear hdone) id
  | dataBlocked => exact send_stay rfl rfl
  | @streamDataBlocked streamId info hfind hready hpending hexhausted =>
      rw [share_sent rfl]
      have hstate := ready_of_wf hwf hfind hready
      refine send_step_of hfind rfl ?_ id
      dsimp only
      rw [hstate]
      exact .blocked _
  | @reset streamId info errorCode hpermit hfind hready =>
      rw [share_sent rfl]
      have hstate := ready_of_wf hwf hfind hready
      refine send_step_of hfind rfl ?_ id
      dsimp only
      rw [hstate]
      exact .reset errorCode
  | stop errorCode hpermit hfind hfirst => exact send_stay rfl rfl
  | release hfind hreleasable => exact send_step_release hwf hfind hreleasable
  | grantData hrise hle => exact send_stay rfl rfl
  | grantStreamData hfind => exact send_stay rfl (sendHalf_rewrite hfind id)
  | grantStreamsBidi hlt => exact send_stay rfl rfl
  | grantStreamsUni hlt => exact send_stay rfl rfl
  | openBidi hcreate hopened hnone => exact send_stay rfl (send_step_open hcreate rfl)
  | openUni hcreate hopened hnone => exact send_stay rfl (send_step_open hcreate rfl)
  | streamsBlockedBidi => exact send_stay rfl rfl
  | streamsBlockedUni => exact send_stay rfl rfl
  | sendDatagram data => exact send_stay rfl rfl
  | sendDrain => exact send_stay rfl rfl
  | recvStream hreceivable hreaches hstate hlate hsession hstream =>
      exact send_stay rfl (send_step_reached hreaches (by rfl) (by rfl) (by rfl) (by rfl))
  | recvReset hreceivable hreaches hstate =>
      exact send_stay rfl (send_step_reached hreaches (by rfl) (by rfl) (by rfl) (by rfl))
  | recvStop hreceivable hfirst hfind => exact send_stay rfl (sendHalf_rewrite hfind id)
  | recvStopUnknown hreceivable hfirst hfind => exact send_stay rfl rfl
  | recvMaxData hrise => exact send_stay rfl (by split_ifs <;> rfl)
  | recvMaxStreamData hreceivable hstop hrise hfind =>
      refine send_stay rfl ?_
      split_ifs
      · exact sendHalf_rewrite hfind id
      · rfl
  | recvMaxStreamDataUnknown hreceivable hstop hrise hfind => exact send_stay rfl rfl
  | recvMaxStreamsBidi hle hrise => exact send_stay rfl (by split_ifs <;> rfl)
  | recvMaxStreamsUni hle hrise => exact send_stay rfl (by split_ifs <;> rfl)
  | recvNothing hnothing => exact send_stay rfl rfl

/-- The accepted calls of a stream id along the labels. -/
def callsOf (id : Nat) (ls : List Label) : List PendingSend := ls.flatMap fun l => (l.sendShare id).1

/-- The capsules of the sending half of a stream id along the labels. -/
def sendCapsulesOf (id : Nat) (ls : List Label) : List Capsule :=
  ls.flatMap fun l => (l.sendShare id).2

theorem callsOf_eq (id : Nat) (ls : List Label) :
    callsOf id ls = (Label.acceptedOf ls).filterMap fun call =>
      if call.1 = id then some ⟨call.2.1, call.2.2⟩ else none := by
  induction ls with
  | nil => rfl
  | cons l ls ih =>
      have hcons : callsOf id (l :: ls) = (l.sendShare id).1 ++ callsOf id ls := rfl
      rw [hcons, ih]
      cases l with
      | accepted streamId data fin =>
          by_cases hid : streamId = id <;> simp [Label.acceptedOf, Label.sendShare, hid]
      | _ => rfl

theorem sendCapsulesOf_eq (id : Nat) (ls : List Label) :
    sendCapsulesOf id ls = (Label.sentOf ls).filter fun c => c.sendStream = some id := by
  induction ls with
  | nil => rfl
  | cons l ls ih =>
      have hcons : sendCapsulesOf id (l :: ls) = (l.sendShare id).2 ++ sendCapsulesOf id ls := rfl
      rw [hcons, ih]
      cases l with
      | sent c => by_cases hid : c.sendStream = some id <;> simp [Label.sentOf, Label.sendShare, hid]
      | _ => rfl

/-- Along every path the half of a stream id keeps what its calls and capsules say. -/
theorem kept_of_path {past ls : List Label} (h : Path (Trans (.once id) config isServer) w ls w')
    (hwf : Wf isServer w)
    (hkept : SendHalf.Kept (callsOf id past) (sendCapsulesOf id past) (w.sendHalf id)) :
    SendHalf.Kept (callsOf id (past ++ ls)) (sendCapsulesOf id (past ++ ls)) (w'.sendHalf id) := by
  have hinv := h.history
    (fun past v => Wf isServer v ∧
      SendHalf.Kept (callsOf id past) (sendCapsulesOf id past) (v.sendHalf id))
    (by
      rintro past a b l ⟨hwf, hkept⟩ hab
      refine ⟨hab.wf hwf, ?_⟩
      have hstep := (hab.send_step hwf).kept hkept
      simpa only [callsOf, sendCapsulesOf, List.flatMap_append, List.flatMap_cons, List.flatMap_nil,
        List.append_nil] using hstep)
    past ⟨hwf, hkept⟩
  exact hinv.2

end SendStep

/-- The queue of a stream id; without an entry there is none. -/
def pendingOf (w : WtSessionInfo) (id : Nat) : List PendingSend :=
  match w.streams.find? id with
  | none => []
  | some info => info.pendingSends

theorem pendingOf_eq (w : WtSessionInfo) (id : Nat) :
    w.pendingOf id = SendHalf.queue (w.sendHalf id) := by
  unfold pendingOf sendHalf
  cases w.streams.find? id <;> rfl

end WtSessionInfo

/-! ## Runs of a session -/

namespace SessionScope

open WtSessionInfo (Wf Stands callsOf sendCapsulesOf)

/-- The capsules the sending half of a stream id queued. -/
def sendCapsules (id : Nat) (sc : SessionScope) : List Capsule :=
  sc.effects.filterMap fun
    | .capsule c => if c.sendStream = some id then some c else none
    | _ => none

/-- A `send_stream_data` call on the stream is accepted: its entry is there, can be sent on and is
ready, and no call accepted before had a FIN.  `counts` says which sessions count. -/
def accepts (counts : WtSessionInfo → Bool) (id : Nat) (past : List PendingSend)
    (sc : SessionScope) : Bool :=
  !(past.any fun p => p.fin) && sc.entry.any fun w =>
    counts w && (w.streams.find? id).any fun info =>
      isSendableStream info.isLocal info.isUnidirectional && info.sendState = .ready

/-- The accepted call of an operation. -/
def acceptedBy (counts : WtSessionInfo → Bool) (id : Nat) (past : List PendingSend)
    (sc : SessionScope) : Op → List PendingSend
  | .sendStreamData streamId data fin =>
      if streamId = id ∧ sc.accepts counts id past then [⟨data, fin⟩] else []
  | _ => []

/-- The accepted calls of a run behind those of `past`. -/
def acceptedData (counts : WtSessionInfo → Bool) (id : Nat) :
    List PendingSend → SessionScope → List Op → List PendingSend
  | past, _, [] => past
  | past, sc, op :: ops =>
      acceptedData counts id (past ++ sc.acceptedBy counts id past op) (sc.step op) ops

/-- A session that has not been terminated. -/
def goesOn (w : WtSessionInfo) : Bool := !w.isTerminated

/-- The operation creates the entry of the stream id. -/
def Creates (id : Nat) (sc : SessionScope) (op : Op) : Prop :=
  ∃ w, sc.entry = some w ∧ w.streams.find? id = none ∧
    ((∃ c r, op = .receive c ∧ readPayload c.type c.payload = .received r ∧
        r.dataStream = some id ∧ id ∉ w.releasedStreamIds) ∨
      ∃ isUnidirectional, op = .openStream isUnidirectional ∧
        w.nextStreamId sc.isServer isUnidirectional = id)

/-- A step of a run that does not create the entry of the stream id again. -/
def OnceStep (id : Nat) (sc : SessionScope) (op : Op) (sc' : SessionScope) : Prop :=
  ¬ sc.Creates id op ∧ sc' = sc.step op

section SendRun

variable {sc sc' : SessionScope} {w₀ w : WtSessionInfo} {ls : List Label} {id : Nat}

theorem stepUnder_of_once {op : Op} (h : OnceStep id sc op sc') :
    sc.StepUnder (.once id) op sc' := by
  rcases h with ⟨hcreates, hstep⟩
  refine ⟨?_, hstep⟩
  intro w hw
  cases op with
  | openStream isUnidirectional =>
      rintro hnone rfl
      exact hcreates ⟨w, hw, hnone, Or.inr ⟨isUnidirectional, rfl, rfl⟩⟩
  | receive c =>
      intro r hr
      refine ⟨fun _ _ _ _ => trivial, ?_, fun _ _ _ _ _ => trivial⟩
      rintro streamId hdata hnone hnew rfl
      exact hcreates ⟨w, hw, hnone, Or.inl ⟨c, r, rfl, hr, hdata, hnew⟩⟩
  | resetStream streamId errorCode => trivial
  | stopSending streamId errorCode => trivial
  | sendStreamData streamId data fin => trivial
  | sendDatagram data => trivial
  | drainSession => trivial
  | closeSession errorCode message => trivial

/-- The code takes the data of exactly the accepted calls. -/
theorem takesData_eq {past : List PendingSend} {cs : List Capsule} (hwf : Wf sc.isServer w)
    (hkept : SendHalf.Kept past cs (w.sendHalf id)) :
    w.takesData id = (!(past.any fun p => p.fin) && (goesOn w &&
      (w.streams.find? id).any fun info =>
        isSendableStream info.isLocal info.isUnidirectional && info.sendState = .ready)) := by
  unfold WtSessionInfo.takesData goesOn
  cases hfind : w.streams.find? id with
  | none => simp
  | some info =>
      have hhalf := WtSessionInfo.sendHalf_of_find? hfind
      cases hdone : info.sendState.sendDone with
      | true =>
          have hnot : info.sendState ≠ .ready := by
            intro h
            rw [h] at hdone
            cases hdone
          simp [hnot, hdone]
      | false =>
          have hready := WtSessionInfo.ready_of_wf hwf hfind hdone
          have hfin := hkept.fin_queued _ hhalf hdone
          -- A FIN taken in earlier is the last entry of the queue.
          cases hget : info.pendingSends.getLast? with
          | none =>
              have hnot : (past.any fun p => p.fin) = false := by
                rw [← Bool.not_eq_true, hfin]
                rintro ⟨last, hlast, -⟩
                rw [hget] at hlast
                cases hlast
              simp only [hget, hready, hnot, Option.any_some]
              simp [StreamState.sendDone]
          | some last =>
              have heq : (past.any fun p => p.fin) = last.fin := by
                rw [Bool.eq_iff_iff, hfin, hget]
                simp
              simp only [hget, hready, heq, Option.any_some]
              cases last.fin <;> simp [StreamState.sendDone]

/-- The accepted call of an operation is the one whose label it adds. -/
theorem acceptedBy_eq {past : List PendingSend} {cs : List Capsule} (hwf : Wf sc.isServer w)
    (hstands : Stands (.once id) sc.config sc.isServer w sc.entry)
    (hkept : SendHalf.Kept past cs (w.sendHalf id)) (op : Op) :
    sc.acceptedBy goesOn id past op = (sc.acceptedCall op).filterMap fun call =>
      if call.1 = id then some ⟨call.2.1, call.2.2⟩ else none := by
  cases op with
  | sendStreamData streamId data fin =>
      dsimp only [acceptedBy, acceptedCall]
      by_cases hid : streamId = id
      · subst hid
        have htakes : sc.accepts goesOn streamId past =
            (sc.entry.any fun w => w.takesData streamId) := by
          unfold accepts
          cases hentry : sc.entry with
          | none => simp
          | some w' =>
              rw [hentry] at hstands
              cases hstands with
              | live => exact (takesData_eq hwf hkept).symm
              | ended => simp [goesOn, WtSessionInfo.takesData, WtSessionInfo.ended]
              | refused hcreated => simp [goesOn, WtSessionInfo.takesData, WtSessionInfo.ended]
        simp only [true_and, htakes]
        cases hentry : sc.entry with
        | none => simp
        | some w' =>
            simp only [Option.any_some]
            split_ifs <;> simp
      · rw [if_neg (fun h => hid h.1)]
        cases sc.entry with
        | none => rfl
        | some w' =>
            dsimp only
            split_ifs <;> simp [hid]
  | _ => rfl

/-- Along a run the half of the stream keeps what its calls and capsules say. -/
theorem kept_run (hwf : Wf sc.isServer w₀) (hlive : w₀.isTerminated = false)
    (hbuf : w₀.capsuleBuffer = []) (h : Follows (.once id) w₀ ls w sc)
    (hkept : SendHalf.Kept (callsOf id ls) (sendCapsulesOf id ls) (w.sendHalf id)) {ops : List Op}
    (hrun : Path (OnceStep id) sc ops sc') :
    ∃ ls' w', Follows (.once id) w₀ ls' w' sc' ∧
      SendHalf.Kept (callsOf id ls') (sendCapsulesOf id ls') (w'.sendHalf id) ∧
      callsOf id ls' = acceptedData goesOn id (callsOf id ls) sc ops := by
  induction ops generalizing sc ls w with
  | nil =>
      cases hrun
      exact ⟨ls, w, h, hkept, rfl⟩
  | cons op ops ih =>
      rcases hrun with ⟨mid, hstep, hrest⟩
      have hwf' := (path_keeps h.path hwf).1
      rcases step_follows hwf hlive hbuf h (stepUnder_of_once hstep) with
        ⟨ls₁, w₁, hfollows, hpath, hrole, -, -, hacc, -⟩
      have hkept' := WtSessionInfo.kept_of_path hpath hwf' hkept
      have hcalls : callsOf id (ls ++ ls₁) =
          callsOf id ls ++ sc.acceptedBy goesOn id (callsOf id ls) op := by
        rw [acceptedBy_eq hwf' h.stands hkept, ← hacc, ← WtSessionInfo.callsOf_eq]
        exact List.flatMap_append
      rcases ih (hrole ▸ hwf) hfollows hkept' hrest with ⟨ls₂, w₂, hend, hkept₂, hcalls₂⟩
      refine ⟨ls₂, w₂, hend, hkept₂, ?_⟩
      rw [hcalls₂, hcalls, hstep.2]
      rfl

theorem sendCapsules_eq {permits : Permits} (h : Follows permits w₀ ls w sc) (id : Nat) :
    sc.sendCapsules id = sendCapsulesOf id ls := by
  have hqueued : sc.sendCapsules id =
      (Effect.queued sc.effects).filter fun c => c.sendStream = some id := by
    unfold sendCapsules Effect.queued
    rw [List.filter_filterMap]
    congr 1
    funext e
    cases e with
    | capsule c => cases c <;> simp [Capsule.sendStream, Option.filter]
    | _ => rfl
  rw [hqueued, h.queued, WtSessionInfo.sendCapsulesOf_eq]

theorem pendingOf_stands {config : H2SessionConfig} {isServer : Bool} {w' : WtSessionInfo}
    (h : Stands (.once id) config isServer w (some w')) :
    w'.pendingOf id = SendHalf.queue (w.sendHalf id) := by
  rw [WtSessionInfo.pendingOf_eq]
  cases h with
  | live => rfl
  | ended => rfl
  | refused hcreated =>
      rcases hcreated.exists_stream with ⟨streamId, hother, -, -, rfl⟩
      exact congrArg SendHalf.queue (WtSessionInfo.send_step_open hother rfl)

/-- The bytes queued on a stream followed by the bytes in its queue are the bytes accepted, in every
state before a reset, and the FIN goes out with the last of them; nothing of the sending half
follows the end, and a reset names the number of bytes queued. -/
theorem sent_is_accepted (hreached : Reached sc.isServer sc.config w₀) (hentry : sc.entry = some w₀)
    (hlive : w₀.isTerminated = false) (heffects : sc.effects = [])
    (hnew : w₀.sendHalf id = some ⟨.ready, [], 0⟩) {ops : List Op}
    (hrun : Path (OnceStep id) sc ops sc') :
    let cs := sc'.sendCapsules id
    let accepted := acceptedData goesOn id [] sc ops
    (∀ w, sc'.entry = some w → Capsule.hasReset cs = false →
      Capsule.streamBytes cs ++ PendingSend.bytes (w.pendingOf id) = PendingSend.bytes accepted ∧
        (Capsule.hasFin cs = true ↔
          (accepted.any fun p => p.fin) = true ∧ w.pendingOf id = [])) ∧
      Capsule.sendGrammar 0 cs = true := by
  rcases hreached.wf hlive with ⟨hwf, hbuf⟩
  have hstart : Follows (.once id) w₀ [] w₀ sc := by
    refine ⟨Path.none w₀, hentry ▸ .live, ?_, ?_⟩
    · rw [heffects]
      rfl
    · rw [heffects]
      rfl
  have hkept : SendHalf.Kept [] [] (w₀.sendHalf id) := by
    rw [hnew]
    refine ⟨rfl, fun _ => rfl, fun _ => by decide, ?_, ?_, ?_⟩
    · rintro _ ⟨⟩
      rfl
    · rintro _ ⟨⟩
      decide
    · rintro _ ⟨⟩ _
      simp
  rcases kept_run hwf hlive hbuf hstart hkept hrun with ⟨ls, w, hfollows, hkept', hcalls⟩
  have hcs := sendCapsules_eq hfollows id
  dsimp only
  rw [hcs]
  refine ⟨?_, hkept'.grammar⟩
  intro w' hw' hnoReset
  have hstands := hfollows.stands
  rw [hw'] at hstands
  have hcalls' : callsOf id ls = acceptedData goesOn id [] sc ops := hcalls
  rw [pendingOf_stands hstands, ← hcalls']
  exact ⟨hkept'.intact hnoReset, hkept'.fin_iff hnoReset⟩

end SendRun

/-- The entry of a client's session with no session credit and one open stream. -/
def openedEntry : WtSessionInfo :=
  { http2StreamId := 1, isEstablished := true, maxStreamsBidiLocal := 1, nextBidiStreamId := 1,
    streamsBidiOpened := 1, peerMaxStreamDataBidiLocal := 100,
    streams := (∅ : OrdMap Nat WtStreamInfo).insert 0
      { streamId := 0, isLocal := true, isUnidirectional := false, maxStreamDataLocal := 100,
        maxStreamDataRemote := 262144 } }

def openedSession : SessionScope where
  isServer := false
  config := {}
  sessionId := 1
  entry := some openedEntry

/-- The entry is what `open_stream` makes of a fresh session. -/
theorem reached_openedEntry : Reached false {} openedEntry := by
  let w : WtSessionInfo := { http2StreamId := 1, isEstablished := true, maxStreamsBidiLocal := 1,
                             peerMaxStreamDataBidiLocal := 100 }
  let sc : SessionScope := { isServer := false, config := {}, sessionId := 1, entry := some w }
  refine ⟨sc, w, [.openStream false], sc.step (.openStream false), ?_, rfl, rfl,
    Path.one (stepUnder_all _ _), by decide⟩
  exact ⟨rfl, rfl, rfl, rfl, rfl, rfl, rfl, rfl⟩

/-- WT_MAX_DATA with a one-byte value. -/
def maxDataCapsule (value : UInt8) : RawCapsule where
  type := CapsuleType.wtMaxData.toNat
  payload := [value]
  type_le := by decide
  length_le := by simp [kMaxQuicVarint]

theorem not_creates {sc : SessionScope} {id : Nat}
    (h : (sc.entry.bind fun w => w.streams.find? id).isSome = true) (op : Op) :
    ¬ sc.Creates id op := by
  rintro ⟨w, hentry, hnone, -⟩
  rw [hentry, Option.bind_some, hnone] at h
  cases h

/-- Two bytes with a FIN, and credit for the first of them. -/
theorem sent_is_accepted_first_byte :
    let ops : List Op := [.sendStreamData 0 [7, 8] true, .receive (maxDataCapsule 1)]
    let sc' := ops.foldl step openedSession
    sc'.sendCapsules 0 = [.wtStream false 0 [7]] ∧
      acceptedData goesOn 0 [] openedSession ops = [⟨[7, 8], true⟩] ∧
      Capsule.sendGrammar 0 (sc'.sendCapsules 0) = true := by
  intro ops sc'
  refine ⟨by decide, by decide, ?_⟩
  have hrun : Path (OnceStep 0) openedSession ops sc' :=
    ⟨_, ⟨not_creates (by decide) _, rfl⟩, _, ⟨not_creates (by decide) _, rfl⟩, rfl⟩
  exact (sent_is_accepted reached_openedEntry rfl rfl rfl (by decide) hrun).2

/-- Data sent on a session that a smaller WT_MAX_DATA has terminated is dropped, although the entry
of the stream is there, can be sent on and is ready. -/
theorem terminated_session_drops_data :
    Reached openedSession.isServer openedSession.config openedEntry ∧
      let ops : List Op := [.receive (maxDataCapsule 10), .receive (maxDataCapsule 5),
        .sendStreamData 0 [9] false]
      let sc' := ops.foldl step openedSession
      Capsule.hasReset (sc'.sendCapsules 0) = false ∧
        PendingSend.bytes (acceptedData (fun _ => true) 0 [] openedSession ops) = [9] ∧
        (sc'.entry.map fun w => Capsule.streamBytes (sc'.sendCapsules 0) ++
          PendingSend.bytes (w.pendingOf 0)) = some [] :=
  ⟨reached_openedEntry, by decide, by decide, by decide⟩

end SessionScope

end H2
end WebTransport
