import WebTransport.H2.Progress

/-!
# H2.Transfer — the data of a stream, from one application to the other

One application hands data to `send_stream_data`, the other is told of it by the StreamData events
of the other endpoint.  Between them are the queue of the stream, the capsules, the bytes on their
way and the buffer of the other end.

* `Exchange.told`, `Exchange.endTold` : what the events of an endpoint bring on a stream;
* `delivered_in_order` : at any time, a first part of what was handed over, and the end behind all;
* `delivered_whole`    : when nothing is on its way any more, all of it.
-/

namespace WebTransport
namespace H2

open Bindings
open Received
open H2Session (effectsOf)

/-- Nothing stands behind a WT_STREAM_FIN, and no WT_RESET_STREAM in front of it. -/
theorem Capsule.sendGrammar_fin {sent : Nat} {cs rest : List Capsule}
    (h : Capsule.sendGrammar sent (cs ++ rest) = true) (hfin : Capsule.hasFin cs = true) :
    rest = [] ∧ Capsule.hasReset cs = false := by
  induction cs generalizing sent with
  | nil => cases hfin
  | cons c cs ih =>
      cases c with
      | wtStream fin streamId data =>
          cases fin with
          | true =>
              have hempty : (cs ++ rest).isEmpty = true := h
              rcases List.append_eq_nil_iff.1 (List.isEmpty_iff.1 hempty) with ⟨hcs, hrest⟩
              rw [hcs]
              exact ⟨hrest, rfl⟩
          | false =>
              have hbehind : Capsule.sendGrammar (sent + data.length) (cs ++ rest) = true := h
              exact ih hbehind hfin
      | wtResetStream streamId errorCode reliableSize =>
          -- a reset is the last capsule, so the FIN is not behind it
          have hempty : (cs ++ rest).isEmpty = true := (Bool.and_eq_true_iff.1 h).2
          rcases List.append_eq_nil_iff.1 (List.isEmpty_iff.1 hempty) with ⟨hcs, -⟩
          rw [hcs] at hfin
          cases hfin
      | _ => exact ih h hfin

namespace Exchange

/-- The data that the events of an endpoint bring on a stream. -/
def told (sessionId : Int) (x : Exchange) (side : Bool) (id : Nat) : Bytes :=
  Effect.dataTold id (effectsOf sessionId (x.endpoint side).trace)

/-- An event brings the end of the data. -/
def endTold (sessionId : Int) (x : Exchange) (side : Bool) (id : Nat) : Bool :=
  Effect.finTold id (effectsOf sessionId (x.endpoint side).trace)

section Sound

variable {config : Bool → H2SessionConfig} {sessionId : Int} {x : Exchange} {side : Bool}
  {w : WtSessionInfo} {taken : List Capsule} {called : Nat → List PendingSend}
  {calls : Bool → Nat → List PendingSend} {id : Nat}

/-- An application is told of a stream what its end has taken in. -/
theorem End.told_eq (h : x.End config sessionId side called w taken) (id : Nat) :
    x.told sessionId side id = Capsule.streamBytes (Capsule.sentOn id taken) ∧
      x.endTold sessionId side id = Capsule.hasFin (Capsule.sentOn id taken) := by
  rcases h.delivers.relays id with ⟨hdata, hend⟩
  rcases Capsule.sentOn_heard id taken with ⟨hbytes, hfin⟩
  exact ⟨hdata.trans hbytes, hend.trans hfin⟩

/-- What was sent on a stream, against what the other application was told. -/
theorem Sound.in_order (h : x.Sound config sessionId calls) (side : Bool) (id : Nat) :
    x.told sessionId (!side) id <+: PendingSend.bytes (calls side id) ∧
      (x.endTold sessionId (!side) id = true →
        x.told sessionId (!side) id = PendingSend.bytes (calls side id) ∧
          ((calls side id).any fun p => p.fin) = true) := by
  rcases h side with ⟨w, taken, hend⟩
  rcases h (!side) with ⟨w', taken', hpeer⟩
  have hledger := hend.standing.tally.ledger
  have hkept := hledger.kept id
  have hfront := hledger.front id
  rcases hpeer.told_eq id with ⟨hdata, hfin⟩
  rcases hpeer.arriving with ⟨rest, hqueued, -⟩
  rw [Bool.not_not] at hqueued
  rw [hqueued, Capsule.sentOn_append] at hkept hfront
  rw [Capsule.streamBytes_append] at hfront
  rw [hdata, hfin]
  refine ⟨(List.prefix_append _ _).trans hfront, ?_⟩
  intro htold
  -- Behind the FIN nothing was queued, and no reset before it.
  rcases Capsule.sendGrammar_fin hkept.grammar htold with ⟨hnothing, hreset⟩
  rw [hnothing, List.append_nil] at hkept
  rcases (hkept.fin_iff hreset).1 htold with ⟨hany, hqueue⟩
  have hintact := hkept.intact hreset
  rw [hqueue] at hintact
  exact ⟨(List.append_nil _).symm.trans hintact, hany⟩

/-- Where everything was taken in, nothing waits for credit and nothing was reset. -/
theorem Sound.whole (h : x.Sound config sessionId calls) (hfits : x.Fits config sessionId)
    (hquiet : x.Quiet sessionId)
    (hreset : Capsule.hasReset (Capsule.sentOn id (x.queued sessionId side)) = false)
    (hempty : ∀ w, (x.endpoint side).wtSessions.find? sessionId = some w →
      ∀ info, w.streams.find? id = some info → info.pendingSends = []) :
    x.told sessionId (!side) id = PendingSend.bytes (calls side id) ∧
      x.endTold sessionId (!side) id = (calls side id).any fun p => p.fin := by
  rcases h side with ⟨w, taken, hend⟩
  rcases h.quiet hfits hquiet (!side) with ⟨w', hpeer⟩
  rw [Bool.not_not] at hpeer
  have hkept := hend.standing.tally.ledger.kept id
  have hqueue : SendHalf.queue (w.sendHalf id) = [] := by
    rw [← WtSessionInfo.pendingOf_eq]
    unfold WtSessionInfo.pendingOf
    cases hfind : w.streams.find? id with
    | none => rfl
    | some info => exact hempty w hend.entry info hfind
  have hintact := hkept.intact hreset
  rw [hqueue] at hintact
  rcases hpeer.told_eq id with ⟨hdata, hfin⟩
  refine ⟨hdata.trans ((List.append_nil _).symm.trans hintact), ?_⟩
  rw [hfin, Bool.eq_iff_iff, hkept.fin_iff hreset]
  exact and_iff_left hqueue

end Sound

end Exchange

namespace Handshake

/-- Both ends are sound along an honest run, and were sent what it hands over. -/
theorem sound_run (o : Handshake) {moves : List Exchange.Move}
    (hhonest : Exchange.HonestRun o.sessionId o.exchange moves)
    (hfits : (o.exchange.run o.sessionId moves).Fits o.config o.sessionId) :
    (o.exchange.run o.sessionId moves).Sound o.config o.sessionId fun side id =>
      Exchange.accepted o.sessionId o.exchange side id moves :=
  o.opened.sound.run hhonest hfits

/-- Two endpoints that run this code neither lose, nor repeat, nor reorder data: whatever is sent
when on however many streams, and however the bytes are cut up, what an application is told of a
stream is a first part of what `send_stream_data` took in on it at the other side, also when the
stream is reset; and it is told of the end only behind all of it, and if that was asked for. -/
theorem delivered_in_order (o : Handshake) {moves : List Exchange.Move}
    (hhonest : Exchange.HonestRun o.sessionId o.exchange moves)
    (hfits : (o.exchange.run o.sessionId moves).Fits o.config o.sessionId) (side : Bool)
    (id : Nat) :
    (o.exchange.run o.sessionId moves).told o.sessionId (!side) id <+:
        PendingSend.bytes (Exchange.accepted o.sessionId o.exchange side id moves) ∧
      ((o.exchange.run o.sessionId moves).endTold o.sessionId (!side) id = true →
        (o.exchange.run o.sessionId moves).told o.sessionId (!side) id =
            PendingSend.bytes (Exchange.accepted o.sessionId o.exchange side id moves) ∧
          ((Exchange.accepted o.sessionId o.exchange side id moves).any fun p => p.fin) = true) :=
  (o.sound_run hhonest hfits).in_order side id

/-- Three bytes and the end, that have come. -/
theorem delivered_in_order_three_bytes :
    (plain.exchange.run 1 threeBytes).told 1 true 0 = [1, 2, 3] ∧
      PendingSend.bytes (Exchange.accepted 1 plain.exchange false 0 threeBytes) = [1, 2, 3] := by
  have hend : (plain.exchange.run 1 threeBytes).endTold 1 true 0 = true := by decide +kernel
  have htold : (plain.exchange.run 1 threeBytes).told 1 true 0 = [1, 2, 3] := by decide +kernel
  have hwhole := ((delivered_in_order plain threeBytes_honest threeBytes_fits false 0).2 hend).1
  exact ⟨htold, hwhole.symm.trans htold⟩

/-- The data of a stream arrives: when nothing is on its way any more, and neither side has given
the stream up, the other application was told all that `send_stream_data` took in, and of the end
if that was asked for. -/
theorem delivered_whole (o : Handshake) {moves : List Exchange.Move}
    (hhonest : Exchange.HonestRun o.sessionId o.exchange moves)
    (hfilled : ∀ move ∈ moves, move.Filled)
    (hfits : (o.exchange.run o.sessionId moves).Fits o.config o.sessionId)
    (hdata : ∀ side, 0 < (o.config side).wtInitialMaxData)
    (hstream : ∀ side, 0 < (o.config side).wtInitialMaxStreamData)
    (hquiet : (o.exchange.run o.sessionId moves).Quiet o.sessionId) {side : Bool}
    {w w' : WtSessionInfo}
    (hentry : ((o.exchange.run o.sessionId moves).endpoint side).wtSessions.find? o.sessionId =
      some w)
    (hentry' : ((o.exchange.run o.sessionId moves).endpoint !side).wtSessions.find? o.sessionId =
      some w')
    (hcount : w.bytesSent < kMaxQuicVarint) {id : Nat} (hstop : id ∉ w'.sentStopSendingStreamIds)
    (hreset : Capsule.hasReset (Capsule.sentOn id
      ((o.exchange.run o.sessionId moves).queued o.sessionId side)) = false) :
    (o.exchange.run o.sessionId moves).told o.sessionId (!side) id =
        PendingSend.bytes (Exchange.accepted o.sessionId o.exchange side id moves) ∧
      (o.exchange.run o.sessionId moves).endTold o.sessionId (!side) id =
        (Exchange.accepted o.sessionId o.exchange side id moves).any fun p => p.fin := by
  have hsound := o.sound_run hhonest hfits
  refine hsound.whole hfits hquiet hreset ?_
  intro v hv info hfind
  cases hentry.symm.trans hv
  have hwindowed := o.windowed_run hhonest hfits
  have hparked := o.parked_run hhonest hfilled hfits
  exact hsound.nothing_waits hfits hquiet hwindowed hparked hdata hstream hentry hentry' hcount
    hfind hstop

/-- The three bytes that went through windows of two. -/
theorem delivered_whole_narrow :
    (narrow.exchange.run 1 throughNarrow).told 1 true 0 =
      PendingSend.bytes (Exchange.accepted 1 narrow.exchange false 0 throughNarrow) := by
  rcases throughNarrow_entries with ⟨w, w', info, hentry, hentry', hcount, hstop, -, -⟩
  have hpos : ∀ side, 0 < (narrow.config side).wtInitialMaxData := fun _ => Nat.zero_lt_two
  have hpos' : ∀ side, 0 < (narrow.config side).wtInitialMaxStreamData :=
    fun _ => Nat.zero_lt_two
  have hreset : Capsule.hasReset (Capsule.sentOn 0
      ((narrow.exchange.run 1 throughNarrow).queued 1 false)) = false := by
    decide +kernel
  exact (delivered_whole narrow throughNarrow_honest throughNarrow_filled throughNarrow_fits hpos
    hpos' throughNarrow_quiet hentry hentry' hcount hstop hreset).1

end Handshake

end H2
end WebTransport
