import Mathlib.Data.List.Chain
import WebTransport.H3.Session

/-!
# H3.SendBuffers — the body of a stream on its way to nghttp3 (`webtransport_h3.cpp`, `http3.cpp`)

`H3Session` and `Http3Connection` keep what the application sends on a stream in `stream_buffers_`.
nghttp3 asks for it with the read callback and gives it back with `acked_stream_data`.  The code is
written twice; both copies are senders here.

* `Sender`, `Wire`     : a copy, and what nghttp3 has seen of one stream of it;
* `Sender.Simulates`   : a copy does to the entry of a stream what the other does;
* `WellEnded`          : the calls whose body goes out as it should;
* `body_sent_iff`      : they are exactly these.
-/

namespace WebTransport
namespace H3

open Bindings

/-! ## Senders -/

/-- The entry of a stream in `stream_buffers_`. -/
abbrev Entry := Option (List StreamBuffer)

/-- The calls of `send_data` or `send_stream_data`. -/
abbrev SendCalls := List (Bytes × Bool)

/-- The send side of one stream; `read` gets the room that nghttp3 has for vectors. -/
structure Sender (S : Type*) where
  send : S → Bytes → Bool → S
  read : S → Nat → S × Option (Bytes × Bool)
  ack : S → Nat → S
  entry : S → Entry

/-- A step: a call of the application, nghttp3 asking with room for `more + 1` vectors, and the
acknowledgement of all that is offered. -/
inductive SendOp
  | send (data : Bytes) (fin : Bool)
  | read (more : Nat)
  | ack
  deriving DecidableEq

/-- A sender beside what nghttp3 was offered of the stream, how much of that is not acknowledged, and
how often EOF was raised. -/
structure Wire (S : Type*) where
  state : S
  offered : Bytes := []
  unacked : Nat := 0
  eofs : Nat := 0
  deriving DecidableEq

namespace Wire

variable {S : Type*}

/-- The wire behind a read: `none` is `NGHTTP3_ERR_WOULDBLOCK`. -/
def afterRead (w : Wire S) (r : S × Option (Bytes × Bool)) : Wire S :=
  match r.2 with
  | none => { w with state := r.1 }
  | some (data, eof) =>
      { state := r.1
        offered := w.offered ++ data
        unacked := w.unacked + data.length
        eofs := w.eofs + eof.toNat }

def step (M : Sender S) (w : Wire S) : SendOp → Wire S
  | .send data fin => { w with state := M.send w.state data fin }
  -- behind an EOF nghttp3 does not ask again
  | .read more => if w.eofs = 0 then w.afterRead (M.read w.state (more + 1)) else w
  -- nothing is acknowledged without bytes
  | .ack => if w.unacked = 0 then w else { w with state := M.ack w.state w.unacked, unacked := 0 }

def run (M : Sender S) (w : Wire S) (ops : List SendOp) : Wire S := ops.foldl (step M) w

end Wire

/-- The calls among the steps. -/
def sendsOf (ops : List SendOp) : SendCalls :=
  ops.filterMap fun
    | .send data fin => some (data, fin)
    | _ => none

/-! ## One entry -/

/-- `stream_buffers_[stream_id].push_back` -/
def Entry.send (entry : Entry) (data : Bytes) (fin : Bool) : Entry :=
  some (entry.getD [] ++ [{ data := data, fin := fin }])

/-- The read callback, as far as the entry is concerned. -/
def Entry.read (entry : Entry) : Entry × Option (Bytes × Bool) :=
  match entry with
  | none => (none, none)
  | some buffers =>
      let (buffers', offered) := H3Session.readBuffers buffers
      (if buffers' = [] ∧ buffers ≠ [] then none else some buffers', offered)

/-- `acked_stream_data_cb`, as far as the entry is concerned. -/
def Entry.ack (entry : Entry) (datalen : Nat) : Entry :=
  match entry with
  | none => none
  | some buffers =>
      if H3Session.ackBuffers datalen buffers = [] then none
      else some (H3Session.ackBuffers datalen buffers)

/-- The sender that has nothing but the entry. -/
def entrySender : Sender Entry where
  send := Entry.send
  read := fun entry _ => entry.read
  ack := Entry.ack
  entry := id

/-- While the stream is open, the sender does to the entry what `entrySender` does. -/
structure Sender.Simulates {S : Type*} (M : Sender S) (Open : S → Prop) : Prop where
  send : ∀ {s}, Open s → ∀ data fin,
    Open (M.send s data fin) ∧ M.entry (M.send s data fin) = (M.entry s).send data fin
  read : ∀ {s}, Open s → ∀ more,
    Open (M.read s (more + 1)).1 ∧ M.entry (M.read s (more + 1)).1 = (M.entry s).read.1 ∧
      (M.read s (more + 1)).2 = (M.entry s).read.2
  ack : ∀ {s}, Open s → ∀ datalen,
    Open (M.ack s datalen) ∧ M.entry (M.ack s datalen) = (M.entry s).ack datalen

/-- The wire with nothing but the entry. -/
def Wire.view {S : Type*} (M : Sender S) (w : Wire S) : Wire Entry :=
  { state := M.entry w.state, offered := w.offered, unacked := w.unacked, eofs := w.eofs }

theorem Wire.state_afterRead {S : Type*} (w : Wire S) (r : S × Option (Bytes × Bool)) :
    (w.afterRead r).state = r.1 := by
  rcases r with ⟨s, _ | ⟨data, eof⟩⟩ <;> rfl

theorem Wire.view_afterRead {S : Type*} (M : Sender S) (w : Wire S)
    (r : S × Option (Bytes × Bool)) :
    (w.afterRead r).view M = (w.view M).afterRead (M.entry r.1, r.2) := by
  rcases r with ⟨s, _ | ⟨data, eof⟩⟩ <;> rfl

namespace Sender.Simulates

variable {S : Type*} {M : Sender S} {Open : S → Prop}

theorem step (h : M.Simulates Open) {w : Wire S} (hopen : Open w.state) (op : SendOp) :
    Open (w.step M op).state ∧ (w.step M op).view M = (w.view M).step entrySender op := by
  cases op with
  | send data fin =>
      rcases h.send hopen data fin with ⟨hopen', hentry⟩
      refine ⟨hopen', ?_⟩
      simp only [Wire.step, Wire.view, entrySender, hentry]
  | read more =>
      rcases h.read hopen more with ⟨hopen', hentry, hoffer⟩
      by_cases heof : w.eofs = 0
      · have hsame : (M.entry (M.read w.state (more + 1)).1, (M.read w.state (more + 1)).2) =
            (M.entry w.state).read := Prod.ext hentry hoffer
        simp only [Wire.step, heof, if_true]
        rw [Wire.state_afterRead, Wire.view_afterRead, hsame]
        exact ⟨hopen', (if_pos heof).symm⟩
      · have hsame : w.step M (.read more) = w := if_neg heof
        rw [hsame]
        exact ⟨hopen, (if_neg heof).symm⟩
  | ack =>
      rcases h.ack hopen w.unacked with ⟨hopen', hentry⟩
      by_cases hzero : w.unacked = 0
      · have hsame : w.step M .ack = w := if_pos hzero
        rw [hsame]
        exact ⟨hopen, (if_pos hzero).symm⟩
      · have hacked : w.step M .ack = { w with state := M.ack w.state w.unacked, unacked := 0 } :=
          if_neg hzero
        rw [hacked]
        refine ⟨hopen', ?_⟩
        rw [show (w.view M).step entrySender .ack =
          { w.view M with state := (M.entry w.state).ack w.unacked, unacked := 0 } from if_neg hzero]
        simp only [Wire.view, hentry]

theorem run (h : M.Simulates Open) {w : Wire S} (hopen : Open w.state) (ops : List SendOp) :
    (w.run M ops).view M = (w.view M).run entrySender ops := by
  induction ops generalizing w with
  | nil => rfl
  | cons op ops ih =>
      rcases h.step hopen op with ⟨hopen', hview⟩
      exact (ih hopen').trans (congrArg (Wire.run entrySender · ops) hview)

end Sender.Simulates

/-! ## The calls -/

/-- The calls up to the first with FIN. -/
def untilFin : SendCalls → SendCalls
  | [] => []
  | (data, fin) :: calls => (data, fin) :: if fin then [] else untilFin calls

/-- The data of some calls. -/
def bodyOf (calls : SendCalls) : Bytes := calls.flatMap Prod.fst

/-- What may follow a call: nothing if it had FIN, and no FIN without data if it brought nothing. -/
def Follows (call next : Bytes × Bool) : Prop := call.2 = false ∧ ¬(call.1 = [] ∧ next = ([], true))

instance : DecidableRel Follows := fun _ _ => inferInstanceAs (Decidable (_ ∧ _))

/-- The calls whose body goes out as it should. -/
def WellEnded (calls : SendCalls) : Prop := calls.IsChain Follows

namespace WellEnded

theorem untilFin {calls : SendCalls} (h : WellEnded calls) : untilFin calls = calls := by
  induction calls with
  | nil => rfl
  | cons call calls ih =>
      rcases call with ⟨data, fin⟩
      cases calls with
      | nil => cases fin <;> rfl
      | cons next calls =>
          have hfin : fin = false := (List.isChain_cons_cons.1 h).1.1
          have hrest := ih (List.isChain_cons_cons.1 h).2
          rw [hfin]
          exact congrArg ((data, false) :: ·) hrest

/-- Nothing follows a FIN. -/
theorem nil_of_fin {front rest : SendCalls} {call : Bytes × Bool}
    (h : WellEnded (front ++ call :: rest)) (hfin : call.2 = true) : rest = [] := by
  cases rest with
  | nil => rfl
  | cons next rest =>
      have hnone := (List.isChain_append_cons_cons.1 h).2.1.1
      exact absurd (hnone.symm.trans hfin) Bool.false_ne_true

/-- In front of the last call there is no FIN. -/
theorem no_fin {front : SendCalls} {call : Bytes × Bool} (h : WellEnded (front ++ [call])) :
    front.any Prod.snd = false := by
  rw [List.any_eq_false]
  intro x hx hfin
  rcases List.append_of_mem hx with ⟨xs, ys, rfl⟩
  rw [List.append_assoc, List.cons_append] at h
  exact absurd (h.nil_of_fin hfin) (List.append_ne_nil_of_right_ne_nil _ (List.cons_ne_nil _ _))

/-- In front of a FIN without data there is data. -/
theorem data_ne_nil {front : SendCalls} {call : Bytes × Bool}
    (h : WellEnded (front ++ [call, ([], true)])) : call.1 ≠ [] := by
  intro hnil
  exact (List.isChain_append_cons_cons.1 h).2.1.2 ⟨hnil, rfl⟩

end WellEnded

/-! ## Buffers -/

/-- The call that queued a buffer. -/
def StreamBuffer.call (b : StreamBuffer) : Bytes × Bool := (b.data, b.fin)

/-- The bytes in some buffers. -/
def bytesIn (buffers : List StreamBuffer) : Bytes := buffers.flatMap (·.data)

theorem bytesIn_append (xs ys : List StreamBuffer) :
    bytesIn (xs ++ ys) = bytesIn xs ++ bytesIn ys := List.flatMap_append

theorem bytesIn_eq_nil {buffers : List StreamBuffer} (h : ∀ b ∈ buffers, b.data = []) :
    bytesIn buffers = [] := List.flatMap_eq_nil_iff.2 h

namespace H3Session

/-- Buffers that are offered, and none of which ends the body, are passed over. -/
theorem readBuffers_spent {spent : List StreamBuffer}
    (h : ∀ b ∈ spent, b.offset = b.data.length ∧ b.fin = false) (waiting : List StreamBuffer) :
    readBuffers (spent ++ waiting) =
      (spent ++ (readBuffers waiting).1, (readBuffers waiting).2) := by
  induction spent with
  | nil => rfl
  | cons b spent ih =>
      rcases h b List.mem_cons_self with ⟨hoffset, hfin⟩
      have hrest := ih fun b hb => h b (List.mem_cons_of_mem _ hb)
      have hdone : b.data.length - b.offset = 0 := by
        rw [hoffset]
        exact Nat.sub_self _
      rw [List.cons_append, readBuffers, if_pos hdone, hfin, if_neg Bool.false_ne_true, hrest]
      rfl

/-- A read finds nothing among the waiting buffers, or a FIN without data, or data. -/
theorem readBuffers_waiting {waiting : List StreamBuffer} (h : ∀ b ∈ waiting, b.offset = 0) :
    ((∀ b ∈ waiting, b.data = [] ∧ b.fin = false) ∧ readBuffers waiting = (waiting, none)) ∨
      ∃ front b rest, waiting = front ++ b :: rest ∧
        (∀ b ∈ front, b.data = [] ∧ b.fin = false) ∧
        ((b.data = [] ∧ b.fin = true ∧ readBuffers waiting = (front ++ rest, some ([], true))) ∨
          (b.data ≠ [] ∧ readBuffers waiting =
            (front ++ { b with offset := b.data.length } :: rest,
              some (b.data, b.fin && rest.isEmpty)))) := by
  induction waiting with
  | nil => exact .inl ⟨fun b hb => absurd hb List.not_mem_nil, rfl⟩
  | cons b waiting ih =>
      have hoffset : b.offset = 0 := h b List.mem_cons_self
      by_cases hdata : b.data = []
      · have hdone : b.data.length - b.offset = 0 := by
          rw [hdata]
          exact Nat.zero_sub _
        cases hfin : b.fin with
        | true =>
            refine .inr ⟨[], b, waiting, rfl, fun b hb => absurd hb List.not_mem_nil, ?_⟩
            refine .inl ⟨hdata, hfin, ?_⟩
            rw [readBuffers, if_pos hdone, hfin, if_pos rfl]
            rfl
        | false =>
            have hread : readBuffers (b :: waiting) =
                (b :: (readBuffers waiting).1, (readBuffers waiting).2) := by
              rw [readBuffers, if_pos hdone, hfin, if_neg Bool.false_ne_true]
            have hempty : ∀ {front : List StreamBuffer},
                (∀ b ∈ front, b.data = [] ∧ b.fin = false) →
                ∀ x ∈ b :: front, x.data = [] ∧ x.fin = false := by
              intro front hfront x hx
              rcases List.mem_cons.1 hx with rfl | hx
              · exact ⟨hdata, hfin⟩
              · exact hfront x hx
            rw [hread]
            rcases ih fun b hb => h b (List.mem_cons_of_mem _ hb) with
              ⟨hall, hnone⟩ | ⟨front, c, rest, hsplit, hfront, hcase⟩
            · exact .inl ⟨hempty hall, by rw [hnone]⟩
            · refine .inr ⟨b :: front, c, rest, by rw [hsplit]; rfl, hempty hfront, ?_⟩
              rcases hcase with ⟨hc, hcfin, hoffer⟩ | ⟨hc, hoffer⟩
              · exact .inl ⟨hc, hcfin, by rw [hoffer]; rfl⟩
              · exact .inr ⟨hc, by rw [hoffer]; rfl⟩
      · have hleft : ¬b.data.length - b.offset = 0 := by
          rw [hoffset]
          exact fun hzero => hdata (List.length_eq_zero_iff.1 hzero)
        refine .inr ⟨[], b, waiting, rfl, fun b hb => absurd hb List.not_mem_nil, .inr ⟨hdata, ?_⟩⟩
        rw [readBuffers, if_neg hleft, hoffset]
        rfl

/-- The acknowledgement of the buffers in front leaves of them the last ones without data. -/
theorem ackBuffers_front (front waiting : List StreamBuffer) :
    ∃ left, left <:+ front ∧ (∀ b ∈ left, b.data = []) ∧
      ackBuffers (bytesIn front).length (front ++ waiting) = left ++ waiting := by
  induction front with
  | nil =>
      refine ⟨[], List.suffix_rfl, fun b hb => absurd hb List.not_mem_nil, ?_⟩
      cases waiting <;> rfl
  | cons b front ih =>
      have hlength : (bytesIn (b :: front)).length = b.data.length + (bytesIn front).length :=
        List.length_append
      by_cases hzero : (bytesIn (b :: front)).length = 0
      · refine ⟨b :: front, List.suffix_rfl, ?_, ?_⟩
        · exact List.flatMap_eq_nil_iff.1 (List.length_eq_zero_iff.1 hzero)
        · rw [hzero]
          rfl
      · rcases ih with ⟨left, hsuffix, hleft, hack⟩
        have hle : b.data.length ≤ (bytesIn (b :: front)).length := by
          rw [hlength]
          exact Nat.le_add_right _ _
        refine ⟨left, hsuffix.trans (List.suffix_cons _ _), hleft, ?_⟩
        rw [List.cons_append, ackBuffers, if_neg hzero, if_pos hle, hlength, Nat.add_sub_cancel_left]
        exact hack

/-- With data at the end, the acknowledgement of all leaves nothing. -/
theorem ackBuffers_all {front : List StreamBuffer} {b : StreamBuffer} (hdata : b.data ≠ []) :
    ackBuffers (bytesIn (front ++ [b])).length (front ++ [b]) = [] := by
  rcases ackBuffers_front (front ++ [b]) [] with ⟨left, hsuffix, hleft, hack⟩
  rw [List.append_nil, List.append_nil] at hack
  rw [hack]
  by_contra hne
  have hlast : left.getLast hne = b := by
    rw [hsuffix.getLast hne]
    exact List.getLast_append_singleton _
  exact hdata (hleft b (hlast ▸ List.getLast_mem hne))

end H3Session

theorem Entry.read_snd (entry : Entry) :
    entry.read.2 = (H3Session.readBuffers (entry.getD [])).2 := by
  cases entry <;> rfl

theorem Entry.getD_read (entry : Entry) :
    entry.read.1.getD [] = (H3Session.readBuffers (entry.getD [])).1 := by
  cases entry with
  | none => rfl
  | some buffers =>
      simp only [Entry.read, Option.getD_some]
      split_ifs with hnil
      · exact hnil.1.symm
      · rfl

/-- An entry that a read empties is removed. -/
theorem Entry.read_fst {entry : Entry} (h : entry.getD [] ≠ []) :
    entry.read.1 = if (H3Session.readBuffers (entry.getD [])).1 = [] then none
      else some (H3Session.readBuffers (entry.getD [])).1 := by
  cases entry with
  | none => exact absurd rfl h
  | some buffers =>
      have hne : buffers ≠ [] := h
      simp only [Entry.read, Option.getD_some, ne_eq, hne, not_false_eq_true, and_true]

/-! ## The body goes out -/

open H3Session (readBuffers ackBuffers readBuffers_spent readBuffers_waiting ackBuffers_front
  ackBuffers_all)

/-- The body is not finished: the buffers are the last calls, in front those that are offered. -/
structure Flows (calls : SendCalls) (w : Wire Entry) (spent waiting : List StreamBuffer) : Prop where
  entry : w.state.getD [] = spent ++ waiting
  passed : ∀ b ∈ spent, b.offset = b.data.length ∧ b.fin = false
  fresh : ∀ b ∈ waiting, b.offset = 0
  suffix : (spent ++ waiting).map StreamBuffer.call <:+ calls
  unacked : w.unacked = (bytesIn spent).length
  bytes : w.offered ++ bytesIn waiting = bodyOf calls
  fins : waiting.any (·.fin) = calls.any Prod.snd
  eofs : w.eofs = 0

/-- The body is finished, and what is kept goes with the next acknowledgement. -/
structure Ended (calls : SendCalls) (w : Wire Entry) : Prop where
  fin : calls.any Prod.snd = true
  offered : w.offered = bodyOf calls
  eofs : w.eofs = 1
  kept : (w.state = none ∧ w.unacked = 0) ∨ w.unacked ≠ 0 ∧ w.state.ack w.unacked = none

/-- Nothing is offered twice, the body is what is asked for, and nothing is kept behind it. -/
structure Good (calls : SendCalls) (w : Wire Entry) : Prop where
  /-- the bytes of the calls up to the first FIN, in order -/
  offered : w.offered <+: bodyOf (untilFin calls)
  /-- EOF comes with the last of these bytes, or behind it -/
  ended : w.eofs ≠ 0 →
    w.eofs = 1 ∧ calls.any Prod.snd = true ∧ w.offered = bodyOf (untilFin calls)
  /-- a read that does not find anything has nothing left to find -/
  blocked : w.eofs = 0 → w.state.read.2 = none →
    calls.any Prod.snd = false ∧ w.offered = bodyOf (untilFin calls)
  /-- with FIN the reads come to EOF -/
  finishes : calls.any Prod.snd = true →
    ∃ n, (w.run entrySender (List.replicate n (.read 0))).eofs = 1
  /-- behind EOF an entry waits for an acknowledgement -/
  released : w.eofs ≠ 0 → w.unacked = 0 → w.state = none

namespace Flows

variable {calls : SendCalls} {w : Wire Entry} {spent waiting : List StreamBuffer}

theorem start (entry : Entry) (h : entry.getD [] = []) : Flows [] { state := entry } [] [] where
  entry := h
  passed := fun _ hb => absurd hb List.not_mem_nil
  fresh := fun _ hb => absurd hb List.not_mem_nil
  suffix := List.suffix_rfl
  unacked := rfl
  bytes := rfl
  fins := rfl
  eofs := rfl

theorem send (h : Flows calls w spent waiting) (data : Bytes) (fin : Bool) :
    Flows (calls ++ [(data, fin)]) (w.step entrySender (.send data fin)) spent
      (waiting ++ [{ data := data, fin := fin }]) where
  entry := by
    show (w.state.send data fin).getD [] = _
    rw [Entry.send, h.entry, Option.getD_some, List.append_assoc]
  passed := h.passed
  fresh := by
    intro b hb
    rcases List.mem_append.1 hb with hb | hb
    · exact h.fresh b hb
    · rw [List.mem_singleton.1 hb]
  suffix := by
    rcases h.suffix with ⟨front, hfront⟩
    refine ⟨front, ?_⟩
    rw [← List.append_assoc, List.map_append, ← List.append_assoc, hfront]
    rfl
  unacked := h.unacked
  bytes := by
    have hbody : bodyOf (calls ++ [(data, fin)]) = bodyOf calls ++ data := by
      rw [bodyOf, List.flatMap_append, List.flatMap_singleton]
      rfl
    have hone : bytesIn [({ data := data, fin := fin } : StreamBuffer)] = data :=
      List.flatMap_singleton _ _
    rw [bytesIn_append, hone, ← List.append_assoc, hbody]
    exact congrArg (· ++ data) h.bytes
  fins := by
    rw [List.any_append, List.any_append, h.fins]
    rfl
  eofs := h.eofs

theorem ack (h : Flows calls w spent waiting) :
    ∃ left, Flows calls (w.step entrySender .ack) left waiting ∧ ∀ b ∈ left, b.data = [] := by
  by_cases hzero : w.unacked = 0
  · refine ⟨spent, ?_, ?_⟩
    · rw [show w.step entrySender .ack = w from if_pos hzero]
      exact h
    · rw [h.unacked] at hzero
      exact List.flatMap_eq_nil_iff.1 (List.length_eq_zero_iff.1 hzero)
  · rcases ackBuffers_front spent waiting with ⟨left, hsuffix, hleft, hack⟩
    have hstep : w.step entrySender .ack = { w with state := w.state.ack w.unacked, unacked := 0 } :=
      if_neg hzero
    have hentry : (w.state.ack w.unacked).getD [] = left ++ waiting := by
      rw [h.unacked]
      cases hstate : w.state with
      | none =>
          have hnil : spent ++ waiting = [] := by rw [← h.entry, hstate]; rfl
          rw [hnil] at hack
          exact hack
      | some buffers =>
          have hbuffers : buffers = spent ++ waiting := by rw [← h.entry, hstate]; rfl
          rw [Entry.ack, hbuffers, hack]
          split_ifs with hnil
          · exact hnil.symm
          · rfl
    refine ⟨left, ?_, hleft⟩
    rw [hstep]
    exact
      { entry := hentry
        passed := fun b hb => h.passed b (hsuffix.subset hb)
        fresh := h.fresh
        suffix := by
          rcases hsuffix with ⟨front, hfront⟩
          have hmap : (left ++ waiting).map StreamBuffer.call <:+
              (spent ++ waiting).map StreamBuffer.call := by
            rw [← hfront, List.append_assoc]
            exact ⟨front.map StreamBuffer.call, List.map_append.symm⟩
          exact hmap.trans h.suffix
        unacked := by rw [bytesIn_eq_nil hleft]; rfl
        bytes := h.bytes
        fins := h.fins
        eofs := h.eofs }

/-- The waiting buffers are the last calls. -/
theorem wellEnded (h : Flows calls w spent waiting) (hcalls : WellEnded calls) :
    WellEnded ((spent ++ waiting).map StreamBuffer.call) := List.IsChain.suffix hcalls h.suffix

variable {front rest : List StreamBuffer} {b : StreamBuffer}

/-- Behind a waiting buffer with FIN there is none. -/
theorem nil_of_fin (h : Flows calls w spent waiting) (hcalls : WellEnded calls)
    (hsplit : waiting = front ++ b :: rest) (hfin : b.fin = true) : rest = [] := by
  have hwell := h.wellEnded hcalls
  rw [hsplit, ← List.append_assoc, List.map_append, List.map_cons] at hwell
  exact List.map_eq_nil_iff.1 (hwell.nil_of_fin hfin)

/-- The body, when a buffer behind empty ones is taken. -/
theorem bytes_split (h : Flows calls w spent waiting) (hsplit : waiting = front ++ b :: rest)
    (hfront : ∀ x ∈ front, x.data = []) : w.offered ++ b.data ++ bytesIn rest = bodyOf calls := by
  rw [← h.bytes, hsplit, bytesIn_append, bytesIn_eq_nil hfront, List.nil_append, List.append_assoc]
  rfl

/-- A waiting FIN is one of the calls. -/
theorem fin_of_waiting (h : Flows calls w spent waiting) (hsplit : waiting = front ++ b :: rest)
    (hfin : b.fin = true) : calls.any Prod.snd = true := by
  rw [← h.fins, hsplit, List.any_append, List.any_cons, hfin, Bool.true_or, Bool.or_true]

/-- A read that comes to a FIN without data. -/
theorem read_fin (h : Flows calls w spent waiting) (hcalls : WellEnded calls)
    (hsplit : waiting = front ++ b :: rest) (hfront : ∀ x ∈ front, x.data = [])
    (hdata : b.data = []) (hfin : b.fin = true)
    (hread : readBuffers (w.state.getD []) = (spent ++ (front ++ rest), some ([], true))) :
    Ended calls (w.afterRead w.state.read) := by
  have hlast : rest = [] := h.nil_of_fin hcalls hsplit hfin
  subst hlast
  rw [List.append_nil] at hread
  have hafter : w.afterRead w.state.read =
      { state := w.state.read.1, offered := w.offered, unacked := w.unacked, eofs := 1 } := by
    rw [Wire.afterRead, Entry.read_snd, hread, h.eofs]
    simp only [List.append_nil, List.length_nil, Nat.add_zero, Bool.toNat_true, Nat.zero_add]
  have hkept : (bytesIn (spent ++ front)).length = w.unacked := by
    rw [bytesIn_append, bytesIn_eq_nil hfront, List.append_nil, h.unacked]
  have hstate : w.state.read.1 = if spent ++ front = [] then none else some (spent ++ front) := by
    have hne : w.state.getD [] ≠ [] := by
      rw [h.entry, hsplit]
      exact List.append_ne_nil_of_right_ne_nil _
        (List.append_ne_nil_of_right_ne_nil _ (List.cons_ne_nil _ _))
    rw [Entry.read_fst hne, hread]
  have hoffered : w.offered = bodyOf calls := by
    have hbody := h.bytes_split hsplit hfront
    rw [hdata, List.append_nil] at hbody
    exact (List.append_nil _).symm.trans hbody
  rw [hafter]
  refine { fin := h.fin_of_waiting hsplit hfin, offered := hoffered, eofs := rfl, kept := ?_ }
  show (w.state.read.1 = none ∧ w.unacked = 0) ∨
    w.unacked ≠ 0 ∧ w.state.read.1.ack w.unacked = none
  rw [hstate]
  rcases List.eq_nil_or_concat' (spent ++ front) with hnil | ⟨init, c, hconcat⟩
  · left
    rw [if_pos hnil, ← hkept, hnil]
    exact ⟨rfl, rfl⟩
  · right
    -- the call in front of the FIN brought data, so an acknowledgement is due
    have hc : c.data ≠ [] := by
      have hwell := h.wellEnded hcalls
      have hcall : b.call = ([], true) := Prod.ext hdata hfin
      rw [hsplit, ← List.append_assoc, hconcat, List.append_assoc, List.map_append,
        List.singleton_append, List.map_cons, List.map_cons, List.map_nil, hcall] at hwell
      exact hwell.data_ne_nil
    have hne : init ++ [c] ≠ [] := List.append_ne_nil_of_right_ne_nil _ (List.cons_ne_nil _ _)
    rw [hconcat] at hkept
    rw [hconcat, if_neg hne, ← hkept]
    refine ⟨?_, by rw [Entry.ack, ackBuffers_all hc, if_pos rfl]⟩
    intro hzero
    have hnil := List.flatMap_eq_nil_iff.1 (List.length_eq_zero_iff.1 hzero)
    exact hc (hnil c (List.mem_append_right _ (List.mem_singleton_self c)))

/-- What is kept with a buffer that is taken. -/
theorem kept_take (h : Flows calls w spent waiting) (hfront : ∀ x ∈ front, x.data = []) :
    (bytesIn (spent ++ front ++ [{ b with offset := b.data.length }])).length =
      w.unacked + b.data.length := by
  rw [bytesIn_append, bytesIn_append, bytesIn_eq_nil hfront, List.append_nil, List.length_append,
    h.unacked]
  exact congrArg ((bytesIn spent).length + ·) (congrArg List.length (List.flatMap_singleton _ _))

/-- A read that takes data without FIN. -/
theorem read_data (h : Flows calls w spent waiting) (hsplit : waiting = front ++ b :: rest)
    (hfront : ∀ x ∈ front, x.data = [] ∧ x.fin = false) (hfin : b.fin = false)
    (hread : readBuffers (w.state.getD []) =
      (spent ++ (front ++ { b with offset := b.data.length } :: rest), some (b.data, false))) :
    Flows calls (w.afterRead w.state.read)
      (spent ++ front ++ [{ b with offset := b.data.length }]) rest := by
  have hafter : w.afterRead w.state.read =
      { state := w.state.read.1, offered := w.offered ++ b.data,
        unacked := w.unacked + b.data.length, eofs := 0 } := by
    rw [Wire.afterRead, Entry.read_snd, hread, h.eofs]
    rfl
  have hnone : front.any (·.fin) = false := List.any_eq_false.2 fun x hx => by
    rw [(hfront x hx).2]
    exact Bool.false_ne_true
  rw [hafter]
  refine
    { entry := ?_
      passed := ?_
      fresh := fun x hx =>
        h.fresh x (hsplit ▸ List.mem_append_right _ (List.mem_cons_of_mem _ hx))
      suffix := ?_
      unacked := (h.kept_take fun x hx => (hfront x hx).1).symm
      bytes := h.bytes_split hsplit fun x hx => (hfront x hx).1
      fins := ?_
      eofs := rfl }
  · show w.state.read.1.getD [] = _
    rw [Entry.getD_read, hread]
    simp only [List.append_assoc, List.cons_append, List.nil_append]
  · intro x hx
    rcases List.mem_append.1 hx with hx | hx
    · rcases List.mem_append.1 hx with hx | hx
      · exact h.passed x hx
      · refine ⟨?_, (hfront x hx).2⟩
        rw [(hfront x hx).1]
        exact h.fresh x (hsplit ▸ List.mem_append_left _ hx)
    · rw [List.mem_singleton.1 hx]
      exact ⟨rfl, hfin⟩
  · have hcall : (spent ++ front ++ [{ b with offset := b.data.length }] ++ rest).map
        StreamBuffer.call = (spent ++ waiting).map StreamBuffer.call := by
      simp only [hsplit, List.map_append, List.map_cons, List.append_assoc, List.cons_append,
        List.nil_append]
      rfl
    rw [hcall]
    exact h.suffix
  · rw [← h.fins, hsplit, List.any_append, List.any_cons, hnone, hfin, Bool.false_or,
      Bool.false_or]

/-- A read that takes data with FIN. -/
theorem read_last (h : Flows calls w spent waiting) (hsplit : waiting = front ++ [b])
    (hfront : ∀ x ∈ front, x.data = []) (hdata : b.data ≠ []) (hfin : b.fin = true)
    (hread : readBuffers (w.state.getD []) =
      (spent ++ (front ++ [{ b with offset := b.data.length }]), some (b.data, true))) :
    Ended calls (w.afterRead w.state.read) := by
  have hafter : w.afterRead w.state.read =
      { state := w.state.read.1, offered := w.offered ++ b.data,
        unacked := w.unacked + b.data.length, eofs := 1 } := by
    rw [Wire.afterRead, Entry.read_snd, hread, h.eofs]
    rfl
  have hstate : w.state.read.1 = some (spent ++ front ++ [{ b with offset := b.data.length }]) := by
    have hne : w.state.getD [] ≠ [] := by
      rw [h.entry, hsplit]
      exact List.append_ne_nil_of_right_ne_nil _
        (List.append_ne_nil_of_right_ne_nil _ (List.cons_ne_nil _ _))
    rw [Entry.read_fst hne, hread, ← List.append_assoc]
    exact if_neg (List.append_ne_nil_of_right_ne_nil _ (List.cons_ne_nil _ _))
  rw [hafter]
  refine
    { fin := h.fin_of_waiting hsplit hfin
      offered := (List.append_nil _).symm.trans (h.bytes_split hsplit hfront)
      eofs := rfl
      kept := .inr ⟨?_, ?_⟩ }
  · intro hzero
    exact hdata (List.length_eq_zero_iff.1 (Nat.eq_zero_of_add_eq_zero_left hzero))
  · show w.state.read.1.ack (w.unacked + b.data.length) = none
    have hall : ackBuffers (w.unacked + b.data.length)
        (spent ++ front ++ [{ b with offset := b.data.length }]) = [] := by
      rw [← h.kept_take hfront]
      exact ackBuffers_all hdata
    rw [hstate, Entry.ack, hall, if_pos rfl]

/-- What a read does: nothing, since nothing is left; or it takes a buffer; or it ends the body. -/
theorem read (h : Flows calls w spent waiting) (hcalls : WellEnded calls) (more : Nat) :
    (w.state.read.2 = none ∧ (∀ b ∈ waiting, b.data = [] ∧ b.fin = false) ∧
        Flows calls (w.step entrySender (.read more)) spent waiting) ∨
      (w.state.read.2 ≠ none ∧ ∃ spent' waiting', waiting'.length < waiting.length ∧
        Flows calls (w.step entrySender (.read more)) spent' waiting') ∨
      (w.state.read.2 ≠ none ∧ Ended calls (w.step entrySender (.read more))) := by
  have hread := readBuffers_spent h.passed waiting
  rw [← h.entry] at hread
  rw [show w.step entrySender (.read more) = w.afterRead w.state.read from if_pos h.eofs,
    Entry.read_snd]
  rcases readBuffers_waiting h.fresh with
    ⟨hall, hnone⟩ | ⟨front, b, rest, hsplit, hfront, ⟨hdata, hfin, hend⟩ | ⟨hdata, htake⟩⟩
  · rw [hnone] at hread
    have hafter : w.afterRead w.state.read = { w with state := w.state.read.1 } := by
      rw [Wire.afterRead, Entry.read_snd, hread]
    have hentry : w.state.read.1.getD [] = spent ++ waiting := by rw [Entry.getD_read, hread]
    refine .inl ⟨by rw [hread], hall, ?_⟩
    rw [hafter]
    exact { h with entry := hentry }
  · rw [hend] at hread
    refine .inr (.inr ⟨by rw [hread]; exact Option.some_ne_none _, ?_⟩)
    exact h.read_fin hcalls hsplit (fun x hx => (hfront x hx).1) hdata hfin hread
  · rw [htake] at hread
    have hsome : (readBuffers (w.state.getD [])).2 ≠ none := by
      rw [hread]
      exact Option.some_ne_none _
    cases hfin : b.fin with
    | false =>
        have hflag : (b.fin && rest.isEmpty) = false := by
          rw [hfin]
          rfl
        rw [hflag] at hread
        refine .inr (.inl ⟨hsome, _, rest, ?_, h.read_data hsplit hfront hfin hread⟩)
        rw [hsplit, List.length_append, List.length_cons]
        omega
    | true =>
        have hlast : rest = [] := h.nil_of_fin hcalls hsplit hfin
        subst hlast
        have hflag : (b.fin && ([] : List StreamBuffer).isEmpty) = true := by
          rw [hfin]
          rfl
        rw [hflag] at hread
        exact .inr (.inr ⟨hsome,
          h.read_last hsplit (fun x hx => (hfront x hx).1) hdata hfin hread⟩)

end Flows

namespace Ended

variable {calls : SendCalls} {w : Wire Entry}

theorem read (h : Ended calls w) (more : Nat) : Ended calls (w.step entrySender (.read more)) := by
  have heof : w.eofs ≠ 0 := by
    rw [h.eofs]
    exact Nat.one_ne_zero
  rw [show w.step entrySender (.read more) = w from if_neg heof]
  exact h

/-- What is kept goes with the acknowledgement. -/
theorem ack (h : Ended calls w) : Ended calls (w.step entrySender .ack) ∧
    (w.step entrySender .ack).state = none ∧ (w.step entrySender .ack).unacked = 0 := by
  rcases h.kept with ⟨hnone, hzero⟩ | ⟨hunacked, hack⟩
  · rw [show w.step entrySender .ack = w from if_pos hzero]
    exact ⟨h, hnone, hzero⟩
  · rw [show w.step entrySender .ack = { w with state := w.state.ack w.unacked, unacked := 0 }
      from if_neg hunacked]
    exact ⟨{ fin := h.fin, offered := h.offered, eofs := h.eofs, kept := .inl ⟨hack, rfl⟩ }, hack, rfl⟩

theorem good (h : Ended calls w) (hcalls : WellEnded calls) : Good calls w where
  offered := by
    rw [hcalls.untilFin, h.offered]
  ended := fun _ => ⟨h.eofs, h.fin, by rw [hcalls.untilFin, h.offered]⟩
  blocked := fun heof => absurd (h.eofs.symm.trans heof) Nat.one_ne_zero
  finishes := fun _ => ⟨0, h.eofs⟩
  released := fun _ hzero => (h.kept.resolve_right fun hkept => hkept.1 hzero).1

end Ended

namespace Flows

variable {calls : SendCalls} {w : Wire Entry} {spent waiting : List StreamBuffer}

/-- Reads go on until nothing is left, or the body has ended. -/
theorem settles (h : Flows calls w spent waiting) (hcalls : WellEnded calls) :
    ∃ n, (∃ spent waiting,
        Flows calls (w.run entrySender (List.replicate n (.read 0))) spent waiting ∧
          ∀ b ∈ waiting, b.data = [] ∧ b.fin = false) ∨
      Ended calls (w.run entrySender (List.replicate n (.read 0))) := by
  -- each read that goes on takes a buffer
  induction hn : waiting.length using Nat.strongRecOn generalizing w spent waiting with
  | ind n ih =>
      rcases h.read hcalls 0 with ⟨-, hall, -⟩ | ⟨-, spent', waiting', hless, hflows⟩ | ⟨-, hended⟩
      · exact ⟨0, .inl ⟨spent, waiting, h, hall⟩⟩
      · rcases ih _ (hn ▸ hless) hflows rfl with ⟨m, hm⟩
        exact ⟨m + 1, hm⟩
      · exact ⟨1, .inr hended⟩

theorem good (h : Flows calls w spent waiting) (hcalls : WellEnded calls) : Good calls w where
  offered := by
    rw [hcalls.untilFin, ← h.bytes]
    exact List.prefix_append _ _
  ended := fun heof => absurd h.eofs heof
  blocked := by
    intro _ hnone
    rcases h.read hcalls 0 with ⟨-, hall, -⟩ | ⟨hsome, -⟩ | ⟨hsome, -⟩
    · have hfin : waiting.any (·.fin) = false := List.any_eq_false.2 fun b hb => by
        rw [(hall b hb).2]
        exact Bool.false_ne_true
      refine ⟨h.fins ▸ hfin, ?_⟩
      rw [hcalls.untilFin, ← h.bytes, bytesIn_eq_nil fun b hb => (hall b hb).1, List.append_nil]
    · exact absurd hnone hsome
    · exact absurd hnone hsome
  finishes := by
    intro hfin
    rcases h.settles hcalls with ⟨n, ⟨spent', waiting', hflows, hall⟩ | hended⟩
    · have hnone : waiting'.any (·.fin) = false := List.any_eq_false.2 fun b hb => by
        rw [(hall b hb).2]
        exact Bool.false_ne_true
      exact absurd (hnone.symm.trans (hflows.fins.trans hfin)) Bool.false_ne_true
    · exact ⟨n, hended.eofs⟩
  released := fun heof => absurd h.eofs heof

/-- All calls at once. -/
theorem sends (h : Flows calls w spent waiting) (more : SendCalls) :
    ∃ waiting', Flows (calls ++ more)
      (w.run entrySender (more.map fun call => .send call.1 call.2)) spent waiting' := by
  induction more generalizing calls w waiting with
  | nil => exact ⟨waiting, by rw [List.append_nil]; exact h⟩
  | cons call more ih =>
      rcases ih (h.send call.1 call.2) with ⟨waiting', hflows⟩
      refine ⟨waiting', ?_⟩
      rw [List.append_assoc] at hflows
      exact hflows

end Flows

theorem sendsOf_append (ops ops' : List SendOp) : sendsOf (ops ++ ops') = sendsOf ops ++ sendsOf ops' :=
  List.filterMap_append

theorem sendsOf_sends (calls : SendCalls) :
    sendsOf (calls.map fun call => .send call.1 call.2) = calls := by
  induction calls with
  | nil => rfl
  | cons call calls ih => exact congrArg (call :: ·) ih

theorem sendsOf_reads (n : Nat) : sendsOf (List.replicate n (.read 0)) = [] := by
  induction n with
  | zero => rfl
  | succ n ih => exact ih

theorem Wire.run_append {S : Type*} (M : Sender S) (w : Wire S) (ops ops' : List SendOp) :
    w.run M (ops ++ ops') = (w.run M ops).run M ops' := List.foldl_append

/-- With calls that end well, every run does. -/
theorem flows_run {entry : Entry} (hentry : entry.getD [] = []) (ops : List SendOp)
    (hcalls : WellEnded (sendsOf ops)) :
    (∃ spent waiting, Flows (sendsOf ops)
        (Wire.run entrySender { state := entry } ops) spent waiting) ∨
      Ended (sendsOf ops) (Wire.run entrySender { state := entry } ops) := by
  induction ops using List.reverseRecOn with
  | nil => exact .inl ⟨[], [], Flows.start entry hentry⟩
  | append_singleton ops op ih =>
      rw [sendsOf_append] at hcalls ⊢
      have hbefore := ih hcalls.left_of_append
      rw [Wire.run_append]
      cases op with
      | send data fin =>
          rcases hbefore with ⟨spent, waiting, hflows⟩ | hended
          · exact .inl ⟨_, _, hflows.send data fin⟩
          · exact absurd (hended.fin.symm.trans hcalls.no_fin) Bool.noConfusion
      | read more =>
          have hsame : sendsOf ops ++ sendsOf [.read more] = sendsOf ops := List.append_nil _
          rw [hsame] at hcalls ⊢
          rcases hbefore with ⟨spent, waiting, hflows⟩ | hended
          · rcases hflows.read hcalls more with ⟨-, -, hflows⟩ | ⟨-, _, _, -, hflows⟩ | ⟨-, hended⟩
            · exact .inl ⟨_, _, hflows⟩
            · exact .inl ⟨_, _, hflows⟩
            · exact .inr hended
          · exact .inr (hended.read more)
      | ack =>
          have hsame : sendsOf ops ++ sendsOf [.ack] = sendsOf ops := List.append_nil _
          rw [hsame] at hcalls ⊢
          rcases hbefore with ⟨spent, waiting, hflows⟩ | hended
          · rcases hflows.ack with ⟨left, hflows, -⟩
            exact .inl ⟨_, _, hflows⟩
          · exact .inr hended.ack.1

/-- A call behind a FIN stays in the entry. -/
theorem kept_behind_fin {entry : Entry} (hentry : entry.getD [] = []) {calls : SendCalls}
    (hcalls : WellEnded calls) (hfin : calls.any Prod.snd = true) (call : Bytes × Bool) :
    ∃ ops, sendsOf ops = calls ++ [call] ∧
      ¬Good (sendsOf ops) (Wire.run entrySender { state := entry } ops) := by
  rcases (Flows.start entry hentry).sends calls with ⟨waiting, hflows⟩
  rw [List.nil_append] at hflows
  rcases hflows.settles hcalls with ⟨n, hsettled⟩
  rw [← Wire.run_append] at hsettled
  have hended := hsettled.resolve_left (by
    rintro ⟨spent', waiting', hflows', hall⟩
    have hnone : waiting'.any (·.fin) = false := List.any_eq_false.2 fun b hb => by
      rw [(hall b hb).2]
      exact Bool.false_ne_true
    exact absurd (hnone.symm.trans (hflows'.fins.trans hfin)) Bool.false_ne_true)
  rcases hended.ack with ⟨hended', -, hzero⟩
  refine ⟨(calls.map fun call => .send call.1 call.2) ++ List.replicate n (.read 0) ++
    [.ack, .send call.1 call.2], ?_, ?_⟩
  · rw [sendsOf_append, sendsOf_append, sendsOf_sends, sendsOf_reads, List.append_nil]
    rfl
  · rw [Wire.run_append]
    intro hgood
    have heof : ((Wire.run entrySender { state := entry }
        ((calls.map fun call => .send call.1 call.2) ++ List.replicate n (.read 0))).step
          entrySender .ack).eofs ≠ 0 := by
      rw [hended'.eofs]
      exact Nat.one_ne_zero
    have hreleased := hgood.released heof hzero
    exact absurd hreleased (Option.some_ne_none _)

/-- A call without data stays in the entry, if a FIN without data follows it. -/
theorem kept_before_fin {entry : Entry} (hentry : entry.getD [] = []) {calls : SendCalls}
    (hcalls : WellEnded calls) (hfin : calls.any Prod.snd = false) :
    ∃ ops, sendsOf ops = calls ++ [([], false), ([], true)] ∧
      ¬Good (sendsOf ops) (Wire.run entrySender { state := entry } ops) := by
  rcases (Flows.start entry hentry).sends calls with ⟨waiting, hflows⟩
  rw [List.nil_append] at hflows
  rcases hflows.settles hcalls with ⟨n, hsettled⟩
  rw [← Wire.run_append] at hsettled
  rcases hsettled.resolve_right (fun hended =>
    Bool.false_ne_true (hfin.symm.trans hended.fin)) with ⟨spent', waiting', hflows', hall⟩
  rcases hflows'.ack with ⟨left, hacked, hleft⟩
  have hlast := (hacked.send [] false).send [] true
  refine ⟨(calls.map fun call => .send call.1 call.2) ++ List.replicate n (.read 0) ++
    [.ack, .send [] false, .send [] true, .read 0], ?_, ?_⟩
  · rw [sendsOf_append, sendsOf_append, sendsOf_sends, sendsOf_reads, List.append_nil]
    rfl
  · rw [Wire.run_append]
    generalize Wire.run entrySender { state := entry }
      ((calls.map fun call => .send call.1 call.2) ++ List.replicate n (.read 0)) = w at *
    let v : Wire Entry :=
      ((w.step entrySender .ack).step entrySender (.send [] false)).step entrySender (.send [] true)
    let empty : StreamBuffer := { data := [], fin := false }
    let last : StreamBuffer := { data := [], fin := true }
    -- all buffers but the last are passed over
    have hpassed : ∀ b ∈ left ++ (waiting' ++ [empty]), b.offset = b.data.length ∧ b.fin = false := by
      intro b hb
      rcases List.mem_append.1 hb with hb | hb
      · exact hacked.passed b hb
      · rcases List.mem_append.1 hb with hb | hb
        · refine ⟨?_, (hall b hb).2⟩
          rw [(hall b hb).1]
          exact hacked.fresh b hb
        · rw [List.mem_singleton.1 hb]
          exact ⟨rfl, rfl⟩
    have hbuffers : v.state.getD [] = left ++ (waiting' ++ [empty]) ++ [last] := by
      rw [List.append_assoc]
      exact hlast.entry
    have hread : readBuffers (v.state.getD []) =
        (left ++ (waiting' ++ [empty]), some ([], true)) := by
      rw [hbuffers, readBuffers_spent hpassed [last]]
      exact congrArg (fun front => (front, some ([], true))) (List.append_nil _)
    have hne : v.state.getD [] ≠ [] := by
      rw [hbuffers]
      exact List.append_ne_nil_of_right_ne_nil _ (List.cons_ne_nil _ _)
    have hstate : v.state.read.1 = some (left ++ (waiting' ++ [empty])) := by
      rw [Entry.read_fst hne, hread]
      exact if_neg (List.append_ne_nil_of_right_ne_nil _
        (List.append_ne_nil_of_right_ne_nil _ (List.cons_ne_nil _ _)))
    have hoffer : v.state.read.2 = some ([], true) := by
      rw [Entry.read_snd, hread]
    have hzero : v.unacked = 0 := by
      rw [show v.unacked = _ from hlast.unacked, bytesIn_eq_nil hleft]
      rfl
    have hafter : v.step entrySender (.read 0) =
        { state := v.state.read.1, offered := v.offered ++ [], unacked := v.unacked,
          eofs := v.eofs + 1 } := by
      rw [show v.step entrySender (.read 0) = v.afterRead v.state.read from if_pos hlast.eofs,
        Wire.afterRead, hoffer]
      rfl
    intro hgood
    have hreleased : (v.step entrySender (.read 0)).state = none := by
      apply hgood.released
      · show (v.step entrySender (.read 0)).eofs ≠ 0
        rw [hafter]
        exact Nat.succ_ne_zero _
      · show (v.step entrySender (.read 0)).unacked = 0
        rw [hafter]
        exact hzero
    rw [hafter] at hreleased
    rw [show v.state.read.1 = none from hreleased] at hstate
    exact absurd hstate.symm (Option.some_ne_none _)

/-- For these calls, and no others, every run with them goes well. -/
theorem good_iff {entry : Entry} (hentry : entry.getD [] = []) (calls : SendCalls) :
    (∀ ops, sendsOf ops <+: calls →
      Good (sendsOf ops) (Wire.run entrySender { state := entry } ops)) ↔ WellEnded calls := by
  constructor
  · intro hgood
    -- a shortest beginning of the calls that does not end well
    induction calls using List.reverseRecOn with
    | nil => exact List.isChain_nil
    | append_singleton calls call ih =>
        have hcalls := ih fun ops hops => hgood ops (hops.trans (List.prefix_append _ _))
        by_contra hbad
        have hfail : ∃ ops, sendsOf ops = calls ++ [call] ∧
            ¬Good (sendsOf ops) (Wire.run entrySender { state := entry } ops) := by
          rcases List.eq_nil_or_concat' calls with rfl | ⟨front, previous, rfl⟩
          · exact absurd (List.isChain_singleton call) hbad
          · by_cases hfin : previous.2 = true
            · refine kept_behind_fin hentry hcalls ?_ call
              rw [List.any_append, List.any_cons, hfin, Bool.true_or, Bool.or_true]
            · have hshape : previous = ([], false) ∧ call = ([], true) := by
                by_contra hother
                apply hbad
                rw [List.append_assoc]
                refine List.isChain_append_cons_cons.2 ⟨hcalls, ⟨Bool.eq_false_iff.2 hfin, ?_⟩,
                  List.isChain_singleton _⟩
                rintro ⟨hdata, hnext⟩
                exact hother ⟨Prod.ext hdata (Bool.eq_false_iff.2 hfin), hnext⟩
              rw [hshape.1, hshape.2, List.append_assoc]
              rw [hshape.1] at hcalls
              exact kept_before_fin hentry hcalls.left_of_append hcalls.no_fin
        rcases hfail with ⟨ops, hsends, hnot⟩
        exact hnot (hgood ops (hsends ▸ List.prefix_rfl))
  · intro hcalls ops hops
    have hsends : WellEnded (sendsOf ops) := List.IsChain.prefix hcalls hops
    rcases flows_run hentry ops hsends with ⟨spent, waiting, hflows⟩ | hended
    · exact hflows.good hsends
    · exact hended.good hsends

/-! ## The copy of the session -/

namespace H3Session

variable {N : Nghttp3}

/-- `read_data_callback`, with the room that nghttp3 has for vectors. -/
def readDataInto (s : H3Session N) (streamId : Int) (veccnt : Nat) :
    H3Session N × Option (Bytes × Bool) :=
  if veccnt = 0 then (s, some ([], false)) else s.readDataCallback streamId

/-- The send side of one stream. -/
def sender (N : Nghttp3) (streamId : Int) : Sender (H3Session N) where
  send := fun s data fin => s.sendStreamData streamId data fin
  read := fun s veccnt => s.readDataInto streamId veccnt
  ack := fun s datalen => s.onAckedStreamData streamId datalen
  entry := fun s => s.streamBuffers.find? streamId

/-- `send_stream_data` takes what is sent on the stream: it is registered for writing, or nghttp3 is
going to register it. -/
def Writable (streamId : Int) (s : H3Session N) : Prop :=
  streamId ∉ s.shutdownStreamIds ∧ ∃ info, s.streamInfo.find? streamId = some info ∧
    (info.isWriteRegistered = true ∨
      info.isUnidirectional = false ∧ (N.openWtDataStream s.conn info.sessionId streamId).2 = 0)

theorem sender_simulates (streamId : Int) : (sender N streamId).Simulates (Writable streamId) where
  send := by
    rintro s ⟨hopen, info, hinfo, hregistered⟩ data fin
    simp only [sender, sendStreamData, if_neg hopen, hinfo]
    cases hwrite : info.isWriteRegistered with
    | true => exact ⟨⟨hopen, info, hinfo, .inl hwrite⟩, OrdMap.find?_insert_self _ _ _⟩
    | false =>
        rcases hregistered with hregistered | ⟨huni, hopened⟩
        · exact absurd (hwrite.symm.trans hregistered) Bool.false_ne_true
        · rw [if_neg Bool.false_ne_true, huni, if_neg Bool.false_ne_true]
          have hdone : ¬(N.openWtDataStream s.conn info.sessionId streamId).2 ≠ 0 := fun h => h hopened
          rw [if_neg hdone]
          refine ⟨⟨hopen, _, OrdMap.find?_insert_self _ _ _, .inl rfl⟩, ?_⟩
          exact OrdMap.find?_insert_self _ _ _
  read := by
    intro s hopen more
    simp only [sender, readDataInto, if_neg (Nat.succ_ne_zero more), readDataCallback]
    split
    · rename_i hentry
      rw [hentry]
      exact ⟨hopen, rfl, rfl⟩
    · rename_i buffers hentry
      rw [hentry]
      refine ⟨hopen, ?_, rfl⟩
      simp only [Entry.read]
      split_ifs
      · exact OrdMap.find?_erase_self _ _
      · exact OrdMap.find?_insert_self _ _ _
  ack := by
    intro s hopen datalen
    simp only [sender, onAckedStreamData]
    split
    · rename_i hentry
      rw [hentry]
      exact ⟨hopen, rfl⟩
    · rename_i buffers hentry
      rw [hentry]
      refine ⟨hopen, ?_⟩
      simp only [Entry.ack]
      split_ifs
      · exact OrdMap.find?_erase_self _ _
      · exact OrdMap.find?_insert_self _ _ _

end H3Session

end H3
end WebTransport
