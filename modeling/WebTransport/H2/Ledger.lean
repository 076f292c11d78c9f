import WebTransport.H2.Account
import WebTransport.H2.Endings
import WebTransport.H2.RecvSide
import WebTransport.H2.SendSide

/-!
# H2.Ledger — the data of each stream, from the calls to the wire

`SendHalf.Kept` says that what was queued as capsules and what waits in the queue of a stream is
what `send_stream_data` took in.  It holds of a stream id as long as its entry is not created a
second time, and the account of an endpoint that hears nothing unlawful excludes that: an entry is
created only for a stream on which nothing was said.

* `Trans.once_or_born` : a change is one of a stream that has its entry, or it creates the entry;
* `Ledger`             : what was taken in and what was queued, for every stream id;
* `Tally.change`, `Tally.path`, `Tally.answer` : it is kept, along with the account;
* `Relays`             : what the application is told is what was heard.
-/

namespace WebTransport
namespace H2

open Bindings
open Received

/-- The data that `send_stream_data` takes in. -/
def Op.taken (w : WtSessionInfo) (id : Nat) : Op → List PendingSend
  | .sendStreamData streamId data fin =>
      if streamId = id ∧ w.takesData id = true then [⟨data, fin⟩] else []
  | _ => []

/-- The capsules of the sending half of a stream. -/
def Capsule.sentOn (id : Nat) (cs : List Capsule) : List Capsule :=
  cs.filter fun c => c.sendStream = some id

@[simp] theorem Capsule.sentOn_append (id : Nat) (cs more : List Capsule) :
    Capsule.sentOn id (cs ++ more) = Capsule.sentOn id cs ++ Capsule.sentOn id more :=
  List.filter_append _ _

theorem Capsule.sentOn_one (id : Nat) (c : Capsule) :
    dataBytes (about id [c.received]) = (Capsule.streamBytes (Capsule.sentOn id [c])).length ∧
      ended (about id [c.received]) =
        (Capsule.hasFin (Capsule.sentOn id [c]) || Capsule.hasReset (Capsule.sentOn id [c])) := by
  cases c with
  | wtStream fin streamId data =>
      by_cases hid : streamId = id <;>
        simp [Capsule.received, Capsule.sentOn, Capsule.sendStream, Capsule.streamBytes,
          Capsule.hasFin, Capsule.hasReset, about_one, stream?, Received.size, isEnd, hid]
  | wtResetStream streamId errorCode reliableSize =>
      by_cases hid : streamId = id <;>
        simp [Capsule.received, Capsule.sentOn, Capsule.sendStream, Capsule.streamBytes,
          Capsule.hasFin, Capsule.hasReset, about_one, stream?, Received.size, isEnd, hid]
  | _ =>
      -- the others carry no data and end nothing
      simp only [about_one, Capsule.sentOn, List.filter_cons, List.filter_nil]
      split_ifs <;> exact ⟨rfl, rfl⟩

/-- What was sent on a stream, as the peer hears it. -/
theorem Capsule.sentOn_received (id : Nat) (cs : List Capsule) :
    dataBytes (about id (cs.map Capsule.received)) =
        (Capsule.streamBytes (Capsule.sentOn id cs)).length ∧
      ended (about id (cs.map Capsule.received)) =
        (Capsule.hasFin (Capsule.sentOn id cs) || Capsule.hasReset (Capsule.sentOn id cs)) := by
  induction cs with
  | nil => exact ⟨rfl, rfl⟩
  | cons c cs ih =>
      have hone := Capsule.sentOn_one id c
      have hsplit : c :: cs = [c] ++ cs := rfl
      rw [hsplit, List.map_append, about_append, dataBytes_append, ended_append,
        Capsule.sentOn_append, Capsule.streamBytes_append, Capsule.hasFin_append,
        Capsule.hasReset_append, List.length_append]
      refine ⟨congrArg₂ _ hone.1 ih.1, ?_⟩
      have hends : ended (about id ([c].map Capsule.received)) = _ := hone.2
      rw [hends, ih.2]
      ac_rfl

namespace WtSessionInfo

variable {permits : Permits} {config : H2SessionConfig} {isServer : Bool} {w w' : WtSessionInfo}
  {l : Label} {id : Nat}

/-- The entry of the stream is created by this change. -/
structure Born (id : Nat) (w : WtSessionInfo) (l : Label) (w' : WtSessionInfo) : Prop where
  before : w.streams.find? id = none
  after : w'.sendHalf id = some ⟨.ready, [], 0⟩
  share : l.sendShare id = ([], [])

theorem newStream_sendHalf (w : WtSessionInfo) (config : H2SessionConfig) (streamId : Nat)
    (isLocal isUni : Bool) :
    (w.newStream config streamId isLocal isUni).sendState = .ready ∧
      (w.newStream config streamId isLocal isUni).pendingSends = [] ∧
      (w.newStream config streamId isLocal isUni).bytesSent = 0 := by
  unfold newStream initializeStreamSendCredit
  cases w.receivedMaxStreamDataById.find? streamId <;> exact ⟨rfl, rfl, rfl⟩

/-- An entry with the sending half of a new one. -/
theorem born_setStream {w₁ : WtSessionInfo} {info : WtStreamInfo}
    (hnone : w.streams.find? id = none) (hshare : l.sendShare id = ([], []))
    (hnew : info.sendState = .ready ∧ info.pendingSends = [] ∧ info.bytesSent = 0) :
    Born id w l (w₁.setStream id info) := by
  rcases hnew with ⟨hstate, hpending, hsent⟩
  refine ⟨hnone, ?_, hshare⟩
  rw [sendHalf_setStream, if_pos rfl, hstate, hpending, hsent]

/-- A change of a stream that has its entry, or one that creates the entry. -/
theorem Trans.once_or_born (h : Trans permits config isServer w l w') (id : Nat) :
    Trans (.once id) config isServer w l w' ∨ Born id w l w' := by
  have hreached : ∀ {streamId : Nat} {info : WtStreamInfo},
      Reaches permits config isServer w streamId info →
      Reaches (.once id) config isServer w streamId info ∨
        streamId = id ∧ w.streams.find? id = none ∧
          info = w.newPeerStream config isServer streamId := by
    intro streamId info hreaches
    cases hreaches with
    | existing hfind => exact Or.inl (.existing hfind)
    | created hcreate hnone hreleased hlimit =>
        by_cases hid : streamId = id
        · exact Or.inr ⟨hid, hid ▸ hnone, rfl⟩
        · exact Or.inl (.created hid hnone hreleased hlimit)
  cases h with
  | openBidi hcreate hopened hnone =>
      by_cases hid : buildStreamId isServer false w.nextBidiStreamId = id
      · rw [hid] at hnone ⊢
        exact Or.inr (born_setStream hnone rfl (newStream_sendHalf w config _ _ _))
      · exact Or.inl (.openBidi hid hopened hnone)
  | openUni hcreate hopened hnone =>
      by_cases hid : buildStreamId isServer true w.nextUniStreamId = id
      · rw [hid] at hnone ⊢
        exact Or.inr (born_setStream hnone rfl (newStream_sendHalf w config _ _ _))
      · exact Or.inl (.openUni hid hopened hnone)
  | recvStream hreceivable hreaches hstate hlate hsession hstream =>
      rcases hreached hreaches with honce | ⟨rfl, hnone, rfl⟩
      · exact Or.inl (.recvStream hreceivable honce hstate (fun _ _ => trivial) hsession hstream)
      · exact Or.inr (born_setStream hnone rfl (newStream_sendHalf w config _ _ _))
  | recvReset hreceivable hreaches hstate =>
      rcases hreached hreaches with honce | ⟨rfl, hnone, rfl⟩
      · exact Or.inl (.recvReset hreceivable honce hstate)
      · exact Or.inr (born_setStream hnone rfl (newStream_sendHalf w config _ _ _))
  | reset errorCode hpermit hfind hready => exact Or.inl (.reset errorCode trivial hfind hready)
  | stop errorCode hpermit hfind hfirst => exact Or.inl (.stop errorCode trivial hfind hfirst)
  | _ => exact Or.inl (by constructor <;> assumption)

end WtSessionInfo

/-! ## The ledger -/

/-- For every stream id, what was taken in and what was queued. -/
structure Ledger (w : WtSessionInfo) (calls : Nat → List PendingSend) (cs : List Capsule) :
    Prop where
  kept : ∀ id, SendHalf.Kept (calls id) (Capsule.sentOn id cs) (w.sendHalf id)
  front : ∀ id, Capsule.streamBytes (Capsule.sentOn id cs) <+: PendingSend.bytes (calls id)

/-- A session entry against its two ledgers: the account with the peer, and the one with the
application. -/
structure Tally (isServer : Bool) (own other : H2SessionConfig) (w : WtSessionInfo)
    (calls : Nat → List PendingSend) (cs : List Capsule) (heard : List Received) : Prop where
  account : Account isServer own other w (cs.map Capsule.received) heard
  ledger : Ledger w calls cs

section Tally

open WtSessionInfo (Trans Wf Born)

variable {permits : Permits} {isServer : Bool} {own other : H2SessionConfig}
  {w w' : WtSessionInfo} {l : Label} {ls : List Label} {calls : Nat → List PendingSend}
  {cs : List Capsule} {heard : List Received}

/-- An entry that is created finds nothing taken in and nothing queued. -/
theorem SendHalf.Kept.born {taken : List PendingSend} {sent : List Capsule}
    (h : SendHalf.Kept taken sent none) (hbytes : (Capsule.streamBytes sent).length = 0)
    (hfin : Capsule.hasFin sent = false) (hreset : Capsule.hasReset sent = false) :
    SendHalf.Kept taken sent (some ⟨.ready, [], 0⟩) := by
  have hnone : (taken.any fun p => p.fin) = false := by
    rw [Bool.eq_false_iff]
    intro hany
    have hend := (h.fin_iff hreset).2 ⟨hany, rfl⟩
    exact absurd (hfin.symm.trans hend) Bool.false_ne_true
  refine ⟨h.grammar, h.intact, h.fin_iff, ?_, ?_, ?_⟩
  · intro half hhalf
    cases hhalf
    exact hbytes.symm
  · intro half hhalf
    cases hhalf
    rw [hfin, hreset]
    decide
  · intro half hhalf _
    cases hhalf
    rw [hnone]
    simp

/-- What is queued is a first part of what was taken in, also on a stream that is reset. -/
theorem SendHalf.Step.queues_front {streamId : Nat} {half half' : Option SendHalf}
    {taken : List PendingSend} {sent : List Capsule} {share : List PendingSend × List Capsule}
    (h : SendHalf.Step streamId half share half') (hkept : SendHalf.Kept taken sent half)
    (hfront : Capsule.streamBytes sent <+: PendingSend.bytes taken) :
    Capsule.streamBytes (sent ++ share.2) <+: PendingSend.bytes (taken ++ share.1) := by
  have hafter := h.kept hkept
  -- Unless there is a reset, the rest waits in the queue.
  have hintact : Capsule.hasReset (sent ++ share.2) = false →
      Capsule.streamBytes (sent ++ share.2) <+: PendingSend.bytes (taken ++ share.1) :=
    fun hreset => ⟨_, hafter.intact hreset⟩
  have hsame : Capsule.streamBytes share.2 = [] →
      Capsule.streamBytes (sent ++ share.2) <+: PendingSend.bytes (taken ++ share.1) := by
    intro hnone
    rw [Capsule.streamBytes_append, hnone, List.append_nil]
    refine hfront.trans ?_
    unfold PendingSend.bytes
    rw [List.flatMap_append]
    exact List.prefix_append _ _
  cases h with
  | part hsize =>
      refine hintact ?_
      rw [Capsule.hasReset_append, hkept.not_ended.2]
      rfl
  | front hlast =>
      refine hintact ?_
      rw [Capsule.hasReset_append, hkept.not_ended.2]
      rfl
  | _ => exact hsame rfl

theorem sentOn_sentOf (id : Nat) (l : Label) :
    Capsule.sentOn id (Label.sentOf [l]) = (l.sendShare id).2 := by
  cases l with
  | sent c =>
      simp only [Label.sentOf, Label.sendShare, Capsule.sentOn, List.filterMap_cons,
        List.filterMap_nil, List.filter_cons, List.filter_nil, decide_eq_true_eq]
  | _ => rfl

/-- Every change keeps the ledger, as the account behind it shows. -/
theorem Ledger.change (h : Ledger w calls cs)
    (haccount : Account isServer own other w' ((cs ++ Label.sentOf [l]).map Capsule.received) heard)
    (htrans : Trans permits own isServer w l w') (hwf : Wf isServer w) :
    Ledger w' (fun id => calls id ++ (l.sendShare id).1) (cs ++ Label.sentOf [l]) := by
  have hboth : ∀ id,
      SendHalf.Kept (calls id ++ (l.sendShare id).1)
          (Capsule.sentOn id (cs ++ Label.sentOf [l])) (w'.sendHalf id) ∧
        Capsule.streamBytes (Capsule.sentOn id (cs ++ Label.sentOf [l])) <+:
          PendingSend.bytes (calls id ++ (l.sendShare id).1) := ?_
  · exact ⟨fun id => (hboth id).1, fun id => (hboth id).2⟩
  intro id
  rw [Capsule.sentOn_append, sentOn_sentOf]
  rcases htrans.once_or_born id with honce | hborn
  · have hstep := honce.send_step hwf
    exact ⟨hstep.kept (h.kept id), hstep.queues_front (h.kept id) (h.front id)⟩
  · -- the new entry counts nothing, so there was nothing
    rcases Option.map_eq_some_iff.1 hborn.after with ⟨info, hfind, hhalf⟩
    have hsent : info.bytesSent = 0 := congrArg SendHalf.sent hhalf
    have hstate : info.sendState = .ready := congrArg SendHalf.state hhalf
    have hbooks := (haccount.stream id).found info hfind
    rcases Capsule.sentOn_received id (cs ++ Label.sentOf [l]) with ⟨hbytes, hended⟩
    rw [Capsule.sentOn_append, sentOn_sentOf, hborn.share, List.append_nil] at hbytes hended
    have hempty : (Capsule.streamBytes (Capsule.sentOn id cs)).length = 0 := by
      rw [← hbytes, ← hbooks.sent]
      exact hsent
    have hopen : (Capsule.hasFin (Capsule.sentOn id cs) ||
        Capsule.hasReset (Capsule.sentOn id cs)) = false := by
      rw [← hended, ← hbooks.send_done, hstate]
      rfl
    have hgone : w.sendHalf id = none := by
      unfold WtSessionInfo.sendHalf
      rw [hborn.before]
      rfl
    have hbefore := h.kept id
    rw [hgone] at hbefore
    rw [hborn.after, hborn.share, List.append_nil, List.append_nil]
    rcases Bool.or_eq_false_iff.1 hopen with ⟨hfin, hreset⟩
    exact ⟨hbefore.born hempty hfin hreset, h.front id⟩

/-- Every change keeps both, as long as the peer says what may follow. -/
theorem Tally.change (h : Tally isServer own other w calls cs heard)
    (htrans : Trans permits own isServer w l w') (hwf : Wf isServer w)
    (hdir : permits.Directed isServer) (hnext : ∀ r ∈ l.hears, Next (!isServer) other heard r)
    (hexpected : ∀ r ∈ l.hears, Expected isServer (cs.map Capsule.received) r) :
    Tally isServer own other w' (fun id => calls id ++ (l.sendShare id).1)
      (cs ++ Label.sentOf [l]) (heard ++ l.hears) := by
  have haccount := h.account.change htrans hwf hdir hnext hexpected
  have htells : l.tells = (Label.sentOf [l]).map Capsule.received := by
    rw [← Label.flatMap_tells, List.flatMap_singleton]
  rw [htells, ← List.map_append] at haccount
  exact ⟨haccount, h.ledger.change haccount htrans hwf⟩

/-- Changes that hear nothing. -/
theorem Tally.path (h : Tally isServer own other w calls cs heard)
    (hpath : Path (Trans permits own isServer) w ls w') (hwf : Wf isServer w)
    (hdir : permits.Directed isServer) (hsilent : Label.receivedOf ls = []) :
    Tally isServer own other w' (fun id => calls id ++ WtSessionInfo.callsOf id ls)
      (cs ++ Label.sentOf ls) heard := by
  induction ls generalizing w calls cs with
  | nil =>
      cases hpath
      have hcalls : (fun id => calls id ++ WtSessionInfo.callsOf id []) = calls := by
        funext id
        exact List.append_nil _
      rw [hcalls, show Label.sentOf [] = [] from rfl, List.append_nil]
      exact h
  | cons l ls ih =>
      rcases hpath with ⟨mid, hstep, hrest⟩
      have hsplit : l.hears ++ Label.receivedOf ls = [] := by
        rw [← Label.flatMap_hears] at hsilent ⊢
        exact hsilent
      rcases List.append_eq_nil_iff.1 hsplit with ⟨hl, hls⟩
      have hnothing : ∀ r ∈ l.hears, False := by
        rw [hl]
        exact fun r hr => List.not_mem_nil hr
      have hmid := h.change hstep hwf hdir (fun r hr => (hnothing r hr).elim)
        (fun r hr => (hnothing r hr).elim)
      rw [hl, List.append_nil] at hmid
      have hend := ih hmid hrest (hstep.wf hwf) hls
      have hsent : Label.sentOf (l :: ls) = Label.sentOf [l] ++ Label.sentOf ls :=
        Label.sentOf_append [l] ls
      have hcalls : (fun id => calls id ++ WtSessionInfo.callsOf id (l :: ls)) =
          fun id => calls id ++ (l.sendShare id).1 ++ WtSessionInfo.callsOf id ls := by
        funext id
        rw [List.append_assoc]
        rfl
      rw [hsent, ← List.append_assoc, hcalls]
      exact hend

/-- A capsule that is heard, and what is answered. -/
theorem Tally.answer (h : Tally isServer own other w calls cs heard) {r : Received}
    {events : List H2Event} {q : Queued}
    (hanswers : WtSessionInfo.Answers permits own isServer w r events q) (hwf : Wf isServer w)
    (hdir : permits.Directed isServer) (hnext : Next (!isServer) other heard r)
    (hexpected : Expected isServer (cs.map Capsule.received) r) :
    Tally isServer own other q.1 calls (cs ++ q.2) (heard ++ [r]) := by
  rcases hanswers with ⟨ls, ⟨mid, hstep, hrest⟩, hsent, hsilent, haccepted⟩
  have hmid := h.change hstep hwf hdir
    (fun r' hr' => by rw [List.mem_singleton.1 hr']; exact hnext)
    (fun r' hr' => by rw [List.mem_singleton.1 hr']; exact hexpected)
  have hend := hmid.path hrest (hstep.wf hwf) hdir hsilent
  have hcalls : (fun id => calls id ++ ((Label.received r events).sendShare id).1 ++
      WtSessionInfo.callsOf id ls) = calls := by
    funext id
    rw [WtSessionInfo.callsOf_eq, haccepted]
    simp [Label.sendShare]
  have hsilent' : Label.sentOf [Label.received r events] = [] := rfl
  rw [hcalls, hsilent', List.append_nil, hsent] at hend
  exact hend

end Tally

/-! ## What the application is told -/

/-- The Stream Data that an event brings on a stream. -/
def H2Event.dataOn (id : Nat) (e : H2Event) : Bytes :=
  if e.type = .streamData ∧ e.streamId = id then e.data else []

/-- The event brings the end of the data on a stream. -/
def H2Event.finOn (id : Nat) (e : H2Event) : Bool :=
  e.type = .streamData && e.streamId = id && e.fin

/-- A received capsule brings the end of the data on a stream. -/
def Received.finFor (id : Nat) : Received → Bool
  | .stream fin streamId _ => fin && streamId = id
  | _ => false

namespace Effect

/-- The Stream Data that the events bring on a stream. -/
def dataTold (id : Nat) (es : List Effect) : Bytes := (events es).flatMap (H2Event.dataOn id)

/-- An event brings the end of the data on a stream. -/
def finTold (id : Nat) (es : List Effect) : Bool := (events es).any (H2Event.finOn id)

/-- The events tell of every stream what the received capsules say. -/
def Relays (es : List Effect) (rs : List Received) : Prop :=
  ∀ id, dataTold id es = rs.flatMap (Received.dataFor id) ∧ finTold id es = rs.any (finFor id)

theorem Relays.silent {es : List Effect} (h : events es = []) : Relays es [] := by
  intro id
  unfold dataTold finTold
  rw [h]
  exact ⟨rfl, rfl⟩

theorem Relays.append {es es' : List Effect} {rs rs' : List Received} (h : Relays es rs)
    (h' : Relays es' rs') : Relays (es ++ es') (rs ++ rs') := by
  intro id
  unfold dataTold finTold
  rw [events_append, List.flatMap_append, List.any_append, List.flatMap_append, List.any_append]
  exact ⟨congrArg₂ _ (h id).1 (h' id).1, congrArg₂ _ (h id).2 (h' id).2⟩

end Effect

section Told

variable {permits : Permits} {config : H2SessionConfig} {isServer : Bool}
  {w w' : WtSessionInfo} {r : Received} {events : List H2Event}

/-- A capsule that is taken in is told as it is, but a FIN on a released stream. -/
theorem WtSessionInfo.Trans.told
    (h : WtSessionInfo.Trans permits config isServer w (.received r events) w')
    (hlive : ∀ fin streamId data, r = .stream fin streamId data →
      streamId ∉ w.releasedStreamIds) (id : Nat) :
    events.flatMap (H2Event.dataOn id) = r.dataFor id ∧
      events.any (H2Event.finOn id) = r.finFor id := by
  cases h with
  | @recvStream streamId info fin data hreceivable hreaches hstate hlate hsession hstream =>
      unfold streamEvents
      split_ifs with hshown
      · by_cases hid : streamId = id <;>
          simp [H2Event.dataOn, H2Event.finOn, Received.dataFor, Received.finFor, hid]
      · -- neither data nor a FIN
        have hempty : data = [] ∧ fin = false := by
          rw [not_or, not_lt, Nat.le_zero, List.length_eq_zero_iff, Bool.not_eq_true] at hshown
          exact hshown
        rw [hempty.1, hempty.2]
        simp [Received.dataFor, Received.finFor]
  | recvReset hreceivable hreaches hstate => exact ⟨rfl, rfl⟩
  | recvStop hreceivable hfirst hfind => exact ⟨rfl, rfl⟩
  | recvStopUnknown hreceivable hfirst hfind => split_ifs <;> exact ⟨rfl, rfl⟩
  | recvNothing hnothing =>
      cases r with
      | stream fin streamId data => exact absurd hnothing.2.2 (hlive fin streamId data rfl)
      | _ => exact ⟨rfl, rfl⟩
  | _ => exact ⟨rfl, rfl⟩

end Told

/-- What was sent on a stream is what the peer hears on it. -/
theorem Capsule.sentOn_heard (id : Nat) (cs : List Capsule) :
    (cs.map Capsule.received).flatMap (Received.dataFor id) =
        Capsule.streamBytes (Capsule.sentOn id cs) ∧
      (cs.map Capsule.received).any (finFor id) = Capsule.hasFin (Capsule.sentOn id cs) := by
  induction cs with
  | nil => exact ⟨rfl, rfl⟩
  | cons c cs ih =>
      have hone : c.received.dataFor id = Capsule.streamBytes (Capsule.sentOn id [c]) ∧
          c.received.finFor id = Capsule.hasFin (Capsule.sentOn id [c]) := by
        cases c with
        | wtStream fin streamId data =>
            by_cases hid : streamId = id <;>
              simp [Capsule.received, Capsule.sentOn, Capsule.sendStream, Capsule.streamBytes,
                Capsule.hasFin, Received.dataFor, Received.finFor, hid]
        | _ =>
            simp only [Capsule.sentOn, List.filter_cons, List.filter_nil]
            split_ifs <;> exact ⟨rfl, rfl⟩
      have hsplit : c :: cs = [c] ++ cs := rfl
      rw [hsplit, Capsule.sentOn_append, Capsule.streamBytes_append, Capsule.hasFin_append,
        ← hone.1, ← hone.2, ← ih.1, ← ih.2]
      exact ⟨rfl, rfl⟩

end H2
end WebTransport
