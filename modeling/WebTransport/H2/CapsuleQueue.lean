import WebTransport.Data.Outflow
import WebTransport.H2.Session
import WebTransport.Http2.SendQueue

/-!
# H2.CapsuleQueue — the capsules of a session on their way to nghttp2

* `QueueStep`             : what happens to the queue of a session between and in the callbacks;
* `Draining`              : the session object beside what nghttp2 has taken of one CONNECT stream;
* `Draining.Sound`        : the queue holds what is wanted and not confirmed;
* `Draining.capsules_sent`: `end_stream_pending_` ends the stream with or behind the last byte;
* `Draining.Does.run`     : a run of the session object is made of steps of the queue;
* `send_queues`           : this and the bodies of an `Http2Connection` together.
-/

namespace WebTransport
namespace H2

/-- What is not sent of an entry. -/
def H2StreamData.left (entry : H2StreamData) : Bytes := entry.data.drop entry.offset

namespace H2Session

/-- What is not sent of a queue. -/
def unsent (queue : List H2StreamData) : Bytes := queue.flatMap H2StreamData.left

theorem unsent_dropWritten (queue : List H2StreamData) : unsent (dropWritten queue) = unsent queue := by
  induction queue with
  | nil => rfl
  | cons front rest ih =>
      unfold dropWritten
      split_ifs with hempty
      · have hleft : front.left = [] := by
          unfold H2StreamData.left
          rw [List.drop_eq_nil_iff]
          omega
        simpa [unsent, hleft] using ih
      · rfl

/-- Something is left of the front entry behind `dropWritten`. -/
theorem dropWritten_front {queue rest : List H2StreamData} {front : H2StreamData}
    (h : dropWritten queue = front :: rest) : front.left ≠ [] := by
  induction queue with
  | nil => cases h
  | cons first others ih =>
      unfold dropWritten at h
      split_ifs at h with hempty
      · exact ih h
      · cases h
        intro hnil
        unfold H2StreamData.left at hnil
        rw [List.drop_eq_nil_iff] at hnil
        omega

/-- Confirming part of the front entry takes that part away. -/
theorem unsent_advanceQueue {front : H2StreamData} (rest : List H2StreamData) {n : Nat}
    (hn : n ≤ front.left.length) :
    unsent (advanceQueue n (front :: rest)) = (unsent (front :: rest)).drop n ∧
      (front.left.drop n = [] ∨ ∃ front', advanceQueue n (front :: rest) = front' :: rest ∧
        front'.left = front.left.drop n) := by
  have hlength : front.left.length = front.data.length - front.offset := by
    simp [H2StreamData.left]
  have htake : min n (front.data.length - front.offset) = n := min_eq_left (by omega)
  have hcons : unsent (front :: rest) = front.left ++ unsent rest := by simp [unsent]
  have hdrop : (unsent (front :: rest)).drop n = front.left.drop n ++ unsent rest := by
    rw [hcons, List.drop_append_of_le_length hn]
  rw [hdrop]
  unfold advanceQueue
  dsimp only
  rw [htake]
  split_ifs with hzero hall
  · subst hzero
    rw [List.drop_zero]
    exact ⟨hcons, Or.inr ⟨front, rfl, rfl⟩⟩
  · -- the whole rest of the entry
    have hdone : ∀ queue, advanceQueue 0 queue = queue := by
      intro queue
      cases queue <;> simp [advanceQueue]
    have hnil : front.left.drop n = [] := by
      rw [List.drop_eq_nil_iff]
      omega
    rw [Nat.sub_self, hdone, hnil]
    exact ⟨rfl, Or.inl rfl⟩
  · have hfront : ({ front with offset := front.offset + n } : H2StreamData).left =
        front.left.drop n := by
      simp [H2StreamData.left, List.drop_drop]
    refine ⟨?_, Or.inr ⟨_, rfl, hfront⟩⟩
    simp only [unsent, List.flatMap_cons]
    rw [hfront]

/-! ## The session beside nghttp2 -/

/-- What happens to the queue of a session. -/
inductive QueueStep
  /-- an effect of a session method -/
  | perform (sessionId : Int) (effect : Effect)
  /-- a callback nghttp2 makes while it writes -/
  | write (callback : WriteCallback)
  /-- what a method does to the other fields -/
  | keep (s : H2Session)

/-- The session object and what nghttp2 has taken of one CONNECT stream. -/
structure Draining where
  session : H2Session
  flow : Outflow UInt8 := {}

namespace Draining

/-- What a step does to the CONNECT stream `id`. -/
def next (id : Int) (o : Draining) : QueueStep → Draining
  | .perform sessionId effect =>
      { session := o.session.perform sessionId effect
        flow :=
          match effect with
          | .capsule c =>
              if sessionId = id then o.flow.want (encodeCapsule c.type.toNat c.payload) else o.flow
          | _ => o.flow }
  | .write (.readData streamId) =>
      { session := (o.session.onReadData streamId).1
        flow :=
          if streamId = id then
            match (o.session.onReadData id).2 with
            | some (bytes, eof) => o.flow.offer bytes eof
            | none => o.flow
          else o.flow }
  | .write (.writeStreamDataOffset streamId offset len) =>
      { session := o.session.onWriteStreamDataOffset streamId offset len
        flow := if streamId = id then o.flow.confirm len else o.flow }
  | .write (.streamClose streamId errorCode) =>
      { o with session := o.session.onStreamClose streamId errorCode }
  | .keep s => { o with session := s }

/-- The queue of a CONNECT stream and how far it is sent. -/
def Same (s s' : H2Session) (id : Int) : Prop :=
  s'.http2StreamBuffers.find? id = s.http2StreamBuffers.find? id ∧
    s'.http2StreamDataSent.find? id = s.http2StreamDataSent.find? id

/-- An offer is confirmed in order, and the next one is asked for when it is confirmed and was not the
last; the queue is neither dropped nor the stream closed. -/
def Allowed (id : Int) (base : Nat) (o : Draining) : QueueStep → Prop
  | .perform sessionId effect => effect = .eraseStreamBuffers → sessionId ≠ id
  | .write (.readData streamId) =>
      streamId = id → o.flow.outstanding = [] ∧ o.flow.finished = false
  | .write (.writeStreamDataOffset streamId offset len) =>
      streamId = id → offset = base + o.flow.confirmed.length ∧ len ≤ o.flow.outstanding.length
  | .write (.streamClose streamId _) => streamId ≠ id
  | .keep s => Same o.session s id

/-- Any session object, with what its queue holds. -/
def start (s : H2Session) (id : Int) : Draining :=
  { session := s, flow := { wanted := unsent ((s.http2StreamBuffers.find? id).getD []) } }

/-- The bytes of the stream that were confirmed before. -/
def base (s : H2Session) (id : Int) : Nat := (s.http2StreamDataSent.find? id).getD 0

/-- The queue holds what is wanted and not confirmed. -/
structure Sound (id : Int) (base : Nat) (o : Draining) : Prop where
  sent : (o.session.http2StreamDataSent.find? id).getD 0 = base + o.flow.confirmed.length
  valid : o.flow.Valid
  queue : o.flow.finished = false →
    o.flow.confirmed ++ unsent ((o.session.http2StreamBuffers.find? id).getD []) = o.flow.wanted ∧
    (o.flow.outstanding = [] ∨ ∃ front rest,
      o.session.http2StreamBuffers.find? id = some (front :: rest) ∧
      o.flow.outstanding = front.left)

theorem Sound.same {id : Int} {base : Nat} {o : Draining} (h : Sound id base o) {s' : H2Session}
    (hs : Same o.session s' id) : Sound id base { o with session := s' } := by
  rcases hs with ⟨hbuffers, hsent⟩
  refine ⟨?_, h.valid, ?_⟩
  · show (s'.http2StreamDataSent.find? id).getD 0 = _
    rw [hsent]
    exact h.sent
  · show o.flow.finished = false → _
    intro hmore
    dsimp only
    rw [hbuffers]
    exact h.queue hmore

theorem same_callNg (s : H2Session) (call : NgCall) (id : Int) : Same s (s.callNg call) id :=
  ⟨rfl, rfl⟩

theorem same_consumeConnectionRecvBytes (s : H2Session) (size : Nat) (id : Int) :
    Same s (s.consumeConnectionRecvBytes size) id := by
  simp only [consumeConnectionRecvBytes]
  split_ifs <;> exact ⟨rfl, rfl⟩

/-- An effect other than a capsule or an erased queue leaves the queue alone. -/
theorem same_perform (s : H2Session) (sessionId id : Int) (effect : Effect)
    (hcapsule : ∀ c, effect = .capsule c → sessionId ≠ id)
    (herase : effect = .eraseStreamBuffers → sessionId ≠ id) :
    Same s (s.perform sessionId effect) id := by
  cases effect with
  | event | endStreamPending | shutdownStream | dispatch => exact ⟨rfl, rfl⟩
  | capsule c =>
      have hne : id ≠ sessionId := Ne.symm (hcapsule c rfl)
      exact ⟨OrdMap.find?_insert_ne _ _ hne, rfl⟩
  | eraseStreamBuffers =>
      have hne : id ≠ sessionId := Ne.symm (herase rfl)
      exact ⟨OrdMap.find?_erase_ne _ hne, rfl⟩
  | consumeRecvBytes size =>
      simp only [perform, consumeRecvBytes]
      split_ifs
      · exact ⟨rfl, rfl⟩
      · split
        · exact ⟨rfl, rfl⟩
        · split_ifs
          · exact ⟨rfl, rfl⟩
          · exact same_consumeConnectionRecvBytes (s.callNg _) _ id
          · exact same_consumeConnectionRecvBytes (s.callNg _) _ id
  | discardStreamRecvBytes =>
      simp only [perform, discardStreamRecvBytes]
      split
      · exact ⟨rfl, rfl⟩
      · exact same_consumeConnectionRecvBytes _ _ id

theorem same_inScope {s : H2Session} {sessionId id : Int} (hne : sessionId ≠ id)
    (f : SessionScope → SessionScope) (hscope : ∀ sc, (f sc).sessionId = sc.sessionId) :
    Same s (s.inScope sessionId f) id := by
  have hfold : ∀ (effects : List Effect) (t : H2Session),
      Same t (effects.foldl (perform sessionId) t) id := by
    intro effects
    induction effects with
    | nil => exact fun t => ⟨rfl, rfl⟩
    | cons effect effects ih =>
        intro t
        rcases same_perform t sessionId id effect (fun _ _ => hne) fun _ => hne with ⟨h1, h2⟩
        rcases ih (t.perform sessionId effect) with ⟨h3, h4⟩
        exact ⟨h3.trans h1, h4.trans h2⟩
  unfold inScope commit
  rw [hscope]
  exact hfold _ _

theorem same_onStreamClose {s : H2Session} {sessionId id : Int} (hne : sessionId ≠ id)
    (errorCode : Option Nat) : Same s (s.onStreamClose sessionId errorCode) id := by
  have hother : id ≠ sessionId := Ne.symm hne
  unfold onStreamClose
  have hscope := fun f hf => same_inScope (s := s) hne f hf
  refine ⟨(hscope _ ?_).1, (OrdMap.find?_erase_ne _ hother).trans (hscope _ ?_).2⟩
  all_goals
    intro sc
    cases hentry : sc.entry <;> simp [SessionScope.perform, SessionScope.pushEvent, hentry]

theorem same_onReadData {s : H2Session} {streamId id : Int} (hne : streamId ≠ id) :
    Same s (s.onReadData streamId).1 id := by
  have hother : id ≠ streamId := Ne.symm hne
  unfold onReadData
  dsimp only
  split <;> split
  all_goals
    split_ifs <;> first
      | exact ⟨rfl, rfl⟩
      | exact ⟨OrdMap.find?_insert_ne _ _ hother, rfl⟩

theorem same_onWriteStreamDataOffset {s : H2Session} {streamId id : Int} (hne : streamId ≠ id)
    (offset len : Nat) : Same s (s.onWriteStreamDataOffset streamId offset len) id := by
  have hother : id ≠ streamId := Ne.symm hne
  simp only [onWriteStreamDataOffset]
  split_ifs
  · exact ⟨rfl, OrdMap.find?_insert_ne _ _ hother⟩
  · split
    · exact ⟨rfl, OrdMap.find?_insert_ne _ _ hother⟩
    · exact ⟨OrdMap.find?_insert_ne _ _ hother, OrdMap.find?_insert_ne _ _ hother⟩

namespace Sound

variable {id : Int} {base : Nat} {o : Draining}

theorem capsule (h : Sound id base o) (c : Capsule) :
    Sound id base (o.next id (.perform id (.capsule c))) := by
  have hnext : o.next id (.perform id (.capsule c)) =
      { session := o.session.perform id (.capsule c)
        flow := o.flow.want (encodeCapsule c.type.toNat c.payload) } := by
    simp [next]
  rw [hnext]
  have hkeep : (o.flow.want (encodeCapsule c.type.toNat c.payload)).confirmed = o.flow.confirmed ∧
      (o.flow.want (encodeCapsule c.type.toNat c.payload)).outstanding = o.flow.outstanding ∧
      (o.flow.want (encodeCapsule c.type.toNat c.payload)).finished = o.flow.finished := by
    unfold Outflow.want
    split_ifs <;> exact ⟨rfl, rfl, rfl⟩
  rcases hkeep with ⟨hconfirmed, hout, hfinished⟩
  refine ⟨?_, h.valid.want _, ?_⟩
  · dsimp only
    rw [hconfirmed]
    exact h.sent
  · dsimp only
    rw [hfinished, hconfirmed, hout]
    intro hmore
    rcases h.queue hmore with ⟨hunsent, hfront⟩
    have hwanted : (o.flow.want (encodeCapsule c.type.toNat c.payload)).wanted =
        o.flow.wanted ++ encodeCapsule c.type.toNat c.payload := by
      unfold Outflow.want
      rw [hmore]
      rfl
    constructor
    · rw [hwanted, ← hunsent]
      simp [H2Session.perform, unsent, H2StreamData.left]
    · rcases hfront with hnone | ⟨front, rest, hfind, hleft⟩
      · exact Or.inl hnone
      · refine Or.inr ⟨front, rest ++ [{ data := encodeCapsule c.type.toNat c.payload }], ?_, hleft⟩
        simp [H2Session.perform, hfind]

/-- What a read of a sound queue gives. -/
theorem onReadData_cases (h : Sound id base o) (hmore : o.flow.finished = false) :
    ((o.session.onReadData id).2 = none ∧ o.flow.confirmed = o.flow.wanted ∧
      id ∉ o.session.endStreamPending ∧
      unsent (((o.session.onReadData id).1.http2StreamBuffers.find? id).getD []) = []) ∨
    ((o.session.onReadData id).2 = some ([], true) ∧ o.flow.confirmed = o.flow.wanted ∧
      id ∈ o.session.endStreamPending) ∨
    ∃ front rest eof,
      (o.session.onReadData id).2 = some (front.left, eof) ∧ front.left ≠ [] ∧
      o.flow.confirmed ++ unsent (front :: rest) = o.flow.wanted ∧
      (o.session.onReadData id).1.http2StreamBuffers.find? id = some (front :: rest) ∧
      (eof = true ↔ id ∈ o.session.endStreamPending ∧ rest = []) ∧
      (eof = false → (o.session.onReadData id).1.endStreamPending = o.session.endStreamPending) := by
  rcases h.queue hmore with ⟨hunsent, _⟩
  rw [← unsent_dropWritten] at hunsent
  cases hdrop : dropWritten ((o.session.http2StreamBuffers.find? id).getD []) with
  | nil =>
      rw [hdrop] at hunsent
      have hsent : o.flow.confirmed = o.flow.wanted := by simpa [unsent] using hunsent
      cases hfind : o.session.http2StreamBuffers.find? id with
      | none =>
          rw [hfind] at hdrop
          by_cases hpending : id ∈ o.session.endStreamPending
          · refine Or.inr (Or.inl ⟨?_, hsent, hpending⟩)
            simp [onReadData, hfind, dropWritten, hpending]
          · refine Or.inl ⟨?_, hsent, hpending, ?_⟩
            · simp [onReadData, hfind, dropWritten, hpending]
            · simp [onReadData, hfind, dropWritten, hpending, unsent]
      | some queue =>
          have hqueue : dropWritten queue = [] := by simpa [hfind] using hdrop
          by_cases hpending : id ∈ o.session.endStreamPending
          · refine Or.inr (Or.inl ⟨?_, hsent, hpending⟩)
            simp [onReadData, hfind, hqueue, hpending]
          · refine Or.inl ⟨?_, hsent, hpending, ?_⟩
            · simp [onReadData, hfind, hqueue, hpending]
            · simp [onReadData, hfind, hqueue, hpending, unsent]
  | cons front rest =>
      rw [hdrop] at hunsent
      cases hfind : o.session.http2StreamBuffers.find? id with
      | none => simp [hfind, dropWritten] at hdrop
      | some queue =>
          have hqueue : dropWritten queue = front :: rest := by simpa [hfind] using hdrop
          refine Or.inr (Or.inr ⟨front, rest,
            decide (id ∈ o.session.endStreamPending ∧ rest = []), ?_, dropWritten_front hdrop,
            hunsent, ?_, decide_eq_true_iff, ?_⟩)
          · simp [onReadData, hfind, hqueue, H2StreamData.left]
          · simp only [onReadData, hfind, Option.getD_some, hqueue]
            split_ifs <;> simp
          · intro heof
            have hno : ¬ (id ∈ o.session.endStreamPending ∧ rest = []) := by simpa using heof
            simp [onReadData, hfind, hqueue, hno]

theorem readData (h : Sound id base o) (hidle : o.flow.outstanding = [])
    (hmore : o.flow.finished = false) : Sound id base (o.next id (.write (.readData id))) := by
  have hsent : (o.session.onReadData id).1.http2StreamDataSent = o.session.http2StreamDataSent := by
    unfold onReadData
    dsimp only
    split <;> split <;> split_ifs <;> rfl
  have hdata : ((o.session.onReadData id).1.http2StreamDataSent.find? id).getD 0 =
      base + o.flow.confirmed.length := by
    rw [hsent]
    exact h.sent
  rcases h.onReadData_cases hmore with
    ⟨hoffer, hall, _, hnil⟩ | ⟨hoffer, hall, _⟩ |
    ⟨front, rest, eof, hoffer, hleft, hunsent, hfind, heof, _⟩
  · have hnext : o.next id (.write (.readData id)) =
        { o with session := (o.session.onReadData id).1 } := by
      simp [next, hoffer]
    rw [hnext]
    refine ⟨hdata, h.valid, ?_⟩
    intro _
    refine ⟨?_, Or.inl hidle⟩
    dsimp only
    rw [hnil, List.append_nil]
    exact hall
  · have hnext : o.next id (.write (.readData id)) =
        { session := (o.session.onReadData id).1, flow := o.flow.offer [] true } := by
      simp [next, hoffer]
    rw [hnext]
    refine ⟨hdata, ?_, ?_⟩
    · refine Outflow.Valid.offer [] ?_ fun _ => rfl
      rw [List.append_nil, List.append_nil]
      exact hall
    · intro hfalse
      cases hfalse
  · have hnext : o.next id (.write (.readData id)) =
        { session := (o.session.onReadData id).1, flow := o.flow.offer front.left eof } := by
      simp [next, hoffer]
    rw [hnext]
    refine ⟨hdata, ?_, ?_⟩
    · refine Outflow.Valid.offer (unsent rest) ?_ ?_
      · rw [← hunsent]
        simp [unsent]
      · intro hlast
        rw [(heof.mp hlast).2]
        rfl
    · intro _
      refine ⟨?_, Or.inr ⟨front, rest, hfind, rfl⟩⟩
      dsimp only
      rw [hfind]
      exact hunsent

theorem writeStreamDataOffset (h : Sound id base o) {offset len : Nat}
    (hoffset : offset = base + o.flow.confirmed.length) (hlen : len ≤ o.flow.outstanding.length) :
    Sound id base (o.next id (.write (.writeStreamDataOffset id offset len))) := by
  have hnext : o.next id (.write (.writeStreamDataOffset id offset len)) =
      { session := o.session.onWriteStreamDataOffset id offset len
        flow := o.flow.confirm len } := by
    simp [next]
  rw [hnext]
  have htake : (o.flow.outstanding.take len).length = len := by
    rw [List.length_take, min_eq_left hlen]
  have hsent : (o.session.http2StreamDataSent.find? id).getD 0 = offset := by
    rw [h.sent, hoffset]
  have hzero : ∀ queue, advanceQueue 0 queue = queue := by
    intro queue
    cases queue <;> simp [advanceQueue]
  have hstate : (o.session.onWriteStreamDataOffset id offset len).http2StreamBuffers.find? id =
        (o.session.http2StreamBuffers.find? id).map (advanceQueue len) ∧
      (o.session.onWriteStreamDataOffset id offset len).http2StreamDataSent.find? id =
        some (offset + len) := by
    simp only [onWriteStreamDataOffset, hsent]
    split_ifs with hle
    · have hnothing : len = 0 := by omega
      subst hnothing
      cases hfind : o.session.http2StreamBuffers.find? id <;> simp [hzero]
    · cases hfind : o.session.http2StreamBuffers.find? id <;> simp [hfind]
  rcases hstate with ⟨hfind', hsent'⟩
  refine ⟨?_, h.valid.confirm len, ?_⟩
  · show (Option.getD _ 0) = _
    rw [hsent']
    simp only [Outflow.confirm, List.length_append, htake, Option.getD_some, hoffset]
    omega
  · intro hmore
    rcases h.queue hmore with ⟨hunsent, hfront⟩
    dsimp only
    rw [hfind']
    rcases hfront with hnone | ⟨front, rest, hfind, hleft⟩
    · have hnothing : len = 0 := by
        rw [hnone] at hlen
        simpa using hlen
      subst hnothing
      have hsame : ((o.session.http2StreamBuffers.find? id).map (advanceQueue 0)).getD [] =
          (o.session.http2StreamBuffers.find? id).getD [] := by
        cases o.session.http2StreamBuffers.find? id <;> simp [hzero]
      refine ⟨?_, Or.inl ?_⟩
      · rw [hsame]
        simp only [Outflow.confirm, hnone, List.take_nil, List.append_nil]
        exact hunsent
      · simp [Outflow.confirm, hnone]
    · have hn : len ≤ front.left.length := by
        rw [← hleft]
        exact hlen
      rcases unsent_advanceQueue rest hn with ⟨hdrop, hrest⟩
      rw [hfind] at hunsent ⊢
      simp only [Option.getD_some, Option.map_some] at hunsent ⊢
      constructor
      · rw [hdrop]
        simp only [Outflow.confirm, hleft, List.append_assoc]
        rw [← hunsent]
        congr 1
        have hhead : unsent (front :: rest) = front.left ++ unsent rest := by simp [unsent]
        rw [hhead, List.drop_append_of_le_length hn, ← List.append_assoc, List.take_append_drop]
      · rcases hrest with hdone | ⟨front', hadvance, hleft'⟩
        · exact Or.inl (by simp [Outflow.confirm, hleft, hdone])
        · refine Or.inr ⟨front', rest, ?_, ?_⟩
          · rw [hadvance]
          · simp [Outflow.confirm, hleft, hleft']

end Sound

/-- Every allowed step keeps the queue sound. -/
theorem Sound.next {id : Int} {base : Nat} {o : Draining} (h : Sound id base o) {step : QueueStep}
    (hstep : Allowed id base o step) : Sound id base (o.next id step) := by
  cases step with
  | keep s => exact h.same hstep
  | perform sessionId effect =>
      by_cases hcapsule : ∃ c, effect = .capsule c ∧ sessionId = id
      · rcases hcapsule with ⟨c, rfl, rfl⟩
        exact h.capsule c
      · have hsame : Same o.session (o.session.perform sessionId effect) id :=
          same_perform o.session sessionId id effect
            (fun c hc hid => hcapsule ⟨c, hc, hid⟩) hstep
        have hnext : o.next id (.perform sessionId effect) =
            { o with session := o.session.perform sessionId effect } := by
          cases effect with
          | capsule c =>
              have hne : ¬ sessionId = id := fun hid => hcapsule ⟨c, rfl, hid⟩
              simp [Draining.next, hne]
          | _ => rfl
        rw [hnext]
        exact h.same hsame
  | write callback =>
      cases callback with
      | readData streamId =>
          by_cases hid : streamId = id
          · rcases hstep hid with ⟨hidle, hmore⟩
            rw [hid]
            exact h.readData hidle hmore
          · have hnext : o.next id (.write (.readData streamId)) =
                { o with session := (o.session.onReadData streamId).1 } := by
              simp [Draining.next, hid]
            rw [hnext]
            exact h.same (same_onReadData hid)
      | writeStreamDataOffset streamId offset len =>
          by_cases hid : streamId = id
          · rcases hstep hid with ⟨hoffset, hlen⟩
            rw [hid]
            exact h.writeStreamDataOffset hoffset hlen
          · have hnext : o.next id (.write (.writeStreamDataOffset streamId offset len)) =
                { o with session := o.session.onWriteStreamDataOffset streamId offset len } := by
              simp [Draining.next, hid]
            rw [hnext]
            exact h.same (same_onWriteStreamDataOffset hid offset len)
      | streamClose streamId errorCode => exact h.same (same_onStreamClose hstep errorCode)

theorem Sound.start (s : H2Session) (id : Int) : Sound id (base s id) (start s id) := by
  refine ⟨rfl, ⟨List.nil_prefix, ?_⟩, ?_⟩
  · intro hfalse
    cases hfalse
  · intro _
    exact ⟨rfl, Or.inl rfl⟩

/-- The reads and confirmations of a stream. -/
def Served (id : Int) (base : Nat) (o : Draining) (step : QueueStep) : Prop :=
  Allowed id base o step ∧
    (step = .write (.readData id) ∨
      ∃ offset len, step = .write (.writeStreamDataOffset id offset len))

/-- Once the end is pending, reads and confirmations send everything and end the stream. -/
theorem Sound.drains {id : Int} {base : Nat} {o : Draining} (h : Sound id base o)
    (hpending : o.flow.finished = false → id ∈ o.session.endStreamPending) :
    ∃ steps o', Path (Guarded (Draining.next id) (Served id base)) o steps o' ∧ o'.flow.Done := by
  let Ready : Draining → Prop := fun o =>
    Sound id base o ∧ (o.flow.finished = false → id ∈ o.session.endStreamPending)
  suffices hdrains : ∃ steps o', Path (Guarded (Draining.next id) (Served id base)) o steps o' ∧
      Ready o' ∧ o'.flow.Done by
    rcases hdrains with ⟨steps, o', hpath, _, hdone⟩
    exact ⟨steps, o', hpath, hdone⟩
  refine Outflow.drains Draining.flow Ready (fun o ho => ho.1.valid) ?_ ?_ o ⟨h, hpending⟩
  · intro o ⟨ho, hend⟩ hidle hmore
    have hallowed : Allowed id base o (.write (.readData id)) := fun _ => ⟨hidle, hmore⟩
    have hstep : Guarded (Draining.next id) (Served id base) o (.write (.readData id))
        (o.next id (.write (.readData id))) := ⟨⟨hallowed, Or.inl rfl⟩, rfl⟩
    have hsound := ho.readData hidle hmore
    rcases ho.onReadData_cases hmore with
      ⟨_, _, hno, _⟩ | ⟨hoffer, _, _⟩ | ⟨front, rest, eof, hoffer, hleft, _, _, _, hkeep⟩
    · exact absurd (hend hmore) hno
    · have hflow : (o.next id (.write (.readData id))).flow = o.flow.offer [] true := by
        simp [Draining.next, hoffer]
      refine ⟨_, _, [], true, hstep, ⟨hsound, ?_⟩, hflow, Or.inr rfl⟩
      intro hfalse
      rw [hflow] at hfalse
      cases hfalse
    · have hflow : (o.next id (.write (.readData id))).flow = o.flow.offer front.left eof := by
        simp [Draining.next, hoffer]
      refine ⟨_, _, front.left, eof, hstep, ⟨hsound, ?_⟩, hflow, Or.inl hleft⟩
      intro hfalse
      rw [hflow] at hfalse
      show id ∈ (o.session.onReadData id).1.endStreamPending
      rw [hkeep hfalse]
      exact hend hmore
  · intro o ⟨ho, hend⟩ _
    let step : QueueStep := .write (.writeStreamDataOffset id (base + o.flow.confirmed.length)
      o.flow.outstanding.length)
    have hallowed : Allowed id base o step := fun _ => ⟨rfl, le_refl _⟩
    have hflow : (o.next id step).flow = o.flow.confirm o.flow.outstanding.length := by
      simp [step, Draining.next]
    refine ⟨step, o.next id step, ⟨⟨hallowed, Or.inr ⟨_, _, rfl⟩⟩, rfl⟩, ⟨ho.next hallowed, ?_⟩,
      hflow⟩
    intro hmore
    rw [hflow] at hmore
    have hpending : (o.session.onWriteStreamDataOffset id (base + o.flow.confirmed.length)
        o.flow.outstanding.length).endStreamPending = o.session.endStreamPending := by
      simp only [onWriteStreamDataOffset]
      split_ifs
      · rfl
      · split <;> rfl
    show id ∈ (o.session.onWriteStreamDataOffset id _ _).endStreamPending
    rw [hpending]
    exact hend hmore

/-- What nghttp2 takes of a CONNECT stream are its capsules, in order.  It gets the EOF with or behind
the last queued byte and only while `end_stream_pending_` holds the session, waits only while it does
not and nothing is queued, and can always go on to the end once it does. -/
structure CapsulesSent (id : Int) (base : Nat) (o : Draining) : Prop where
  in_order : o.flow.confirmed <+: o.flow.wanted
  eof : o.flow.finished = true → o.flow.confirmed ++ o.flow.outstanding = o.flow.wanted
  waits : o.flow.finished = false → ((o.session.onReadData id).2 = none ↔
    o.flow.confirmed = o.flow.wanted ∧ id ∉ o.session.endStreamPending)
  ends : o.flow.finished = false → ∀ bytes, (o.session.onReadData id).2 = some (bytes, true) →
    id ∈ o.session.endStreamPending ∧ o.flow.confirmed ++ bytes = o.flow.wanted
  offers : o.flow.finished = false → ∀ bytes,
    (o.session.onReadData id).2 = some (bytes, false) → bytes ≠ []
  completes : (o.flow.finished = false → id ∈ o.session.endStreamPending) →
    ∃ more o', Path (Guarded (Draining.next id) (Served id base)) o more o' ∧ o'.flow.Done

theorem capsules_sent (s : H2Session) (id : Int) {o : Draining} {steps : List QueueStep}
    (hrun : Path (Guarded (Draining.next id) (Allowed id (base s id))) (start s id) steps o) :
    CapsulesSent id (base s id) o := by
  have hsound : Sound id (base s id) o := by
    refine Path.invariant (Sound id (base s id)) ?_ hrun (Sound.start s id)
    intro o o' step ho hstep
    rw [← hstep.2]
    exact ho.next hstep.1
  refine ⟨hsound.valid.confirmed_prefix, hsound.valid.all, ?_, ?_, ?_, hsound.drains⟩
  · intro hmore
    rcases hsound.onReadData_cases hmore with
      ⟨hoffer, hall, hno, _⟩ | ⟨hoffer, hall, hpending⟩ |
      ⟨front, rest, eof, hoffer, hleft, hunsent, _, heof, _⟩
    · rw [hoffer]
      exact ⟨fun _ => ⟨hall, hno⟩, fun _ => rfl⟩
    · rw [hoffer]
      exact ⟨fun hnone => (by cases hnone), fun hboth => absurd hpending hboth.2⟩
    · rw [hoffer]
      refine ⟨fun hnone => (by cases hnone), ?_⟩
      intro ⟨hall, _⟩
      rw [← hall] at hunsent
      have hnil : unsent (front :: rest) = [] := List.append_right_eq_self.mp hunsent
      rw [unsent, List.flatMap_cons] at hnil
      exact absurd (List.append_eq_nil_iff.mp hnil).1 hleft
  · intro hmore bytes hbytes
    rcases hsound.onReadData_cases hmore with
      ⟨hoffer, _⟩ | ⟨hoffer, hall, hpending⟩ | ⟨front, rest, eof, hoffer, _, hunsent, _, heof, _⟩
    · rw [hoffer] at hbytes
      cases hbytes
    · rw [hoffer] at hbytes
      cases hbytes
      exact ⟨hpending, by rw [List.append_nil, hall]⟩
    · rw [hoffer] at hbytes
      have hpair := Prod.mk.inj (Option.some.inj hbytes)
      -- the EOF comes with the only entry that is left
      rcases heof.mp hpair.2 with ⟨hpending, hrest⟩
      refine ⟨hpending, ?_⟩
      rw [← hpair.1, ← hunsent, hrest]
      simp [unsent]
  · intro hmore bytes hbytes
    rcases hsound.onReadData_cases hmore with
      ⟨hoffer, _⟩ | ⟨hoffer, _⟩ | ⟨front, rest, eof, hoffer, hleft, _⟩
    · rw [hoffer] at hbytes
      cases hbytes
    · rw [hoffer] at hbytes
      cases hbytes
    · rw [hoffer] at hbytes
      rw [← (Prod.mk.inj (Option.some.inj hbytes)).1]
      exact hleft

/-! ### The inputs of the session object -/

/-- The other fields change only where the queue of `id` stays. -/
def Keeps (id : Int) (o : Draining) : QueueStep → Prop
  | .keep s => Same o.session s id
  | _ => True

/-- Steps of the queue of `id` lead from `s` to `s'`. -/
def Does (id : Int) (s s' : H2Session) : Prop :=
  ∀ flow, ∃ steps flow', Path (Guarded (Draining.next id) (Keeps id)) ⟨s, flow⟩ steps ⟨s', flow'⟩

namespace Does

variable {id : Int} {s s' s'' : H2Session}

theorem refl (s : H2Session) : Does id s s := fun flow => ⟨[], flow, rfl⟩

theorem trans (h : Does id s s') (h' : Does id s' s'') : Does id s s'' := by
  intro flow
  obtain ⟨steps, flow', hpath⟩ := h flow
  obtain ⟨steps', flow'', hpath'⟩ := h' flow'
  exact ⟨steps ++ steps', flow'', hpath.join hpath'⟩

theorem keep (h : Same s s' id) : Does id s s' :=
  fun flow => ⟨[.keep s'], flow, Path.one ⟨h, rfl⟩⟩

/-- A step that does not only keep the queue. -/
theorem one (step : QueueStep) (hstep : ∀ o, Keeps id o step)
    (hsession : ∀ flow, (Draining.next id ⟨s, flow⟩ step).session = s') : Does id s s' := by
  intro flow
  refine ⟨[step], (Draining.next id ⟨s, flow⟩ step).flow, Path.one ⟨hstep _, ?_⟩⟩
  rw [← hsession flow]

theorem foldl {α : Type} {f : H2Session → α → H2Session} (hf : ∀ s a, Does id s (f s a))
    (l : List α) (s : H2Session) : Does id s (l.foldl f s) := by
  induction l generalizing s with
  | nil => exact refl s
  | cons a l ih => exact (hf s a).trans (ih (f s a))

theorem callNg (s : H2Session) (call : NgCall) : Does id s (s.callNg call) :=
  keep (same_callNg s call id)

theorem dropHeaders (s : H2Session) (streamId : Int) : Does id s (s.dropHeaders streamId) :=
  keep ⟨rfl, rfl⟩

theorem onWrite (s : H2Session) (callback : WriteCallback) : Does id s (s.onWrite callback) := by
  refine one (.write callback) (fun _ => trivial) fun flow => ?_
  cases callback <;> rfl

theorem flushOutput (s : H2Session) (callbacks : List WriteCallback) :
    Does id s (s.flushOutput callbacks) := by
  unfold H2Session.flushOutput
  split_ifs
  · exact refl s
  · exact foldl onWrite callbacks s

/-- A session method writes back its entry and then carries out its effects. -/
theorem inScope (s : H2Session) (sessionId : Int) (f : SessionScope → SessionScope) :
    Does id s (s.inScope sessionId f) := by
  let sc := f (s.scope sessionId)
  have hperform : ∀ s effect, Does id s (H2Session.perform sc.sessionId s effect) := by
    intro s effect
    exact one (.perform sc.sessionId effect) (fun _ => trivial) fun _ => rfl
  refine trans (keep ?_) (foldl hperform sc.effects _)
  exact ⟨rfl, rfl⟩

theorem rejectSession (s : H2Session) (sessionId status : Int) (rv : Option NgError) :
    Does id s (s.orElse (s.rejectSession sessionId status rv)) := by
  unfold H2Session.rejectSession
  split_ifs
  · exact refl s
  · exact refl s
  · exact refl s
  · exact refl s
  · exact (callNg s _).trans (inScope _ _ _)

theorem rejectInCallback (s : H2Session) (sessionId status : Int) (rv : Option NgError) :
    Does id s (s.rejectInCallback sessionId status rv) := by
  have heq : s.rejectInCallback sessionId status rv =
      s.orElse (s.rejectSession sessionId status rv) := by
    unfold H2Session.rejectInCallback orElse
    cases s.rejectSession sessionId status rv <;> rfl
  rw [heq]
  exact rejectSession s sessionId status rv

theorem onRequestHeaders (s : H2Session) (streamId : Int) (headers : HeaderList)
    (rv : Option NgError) : Does id s (s.onRequestHeaders streamId headers rv) := by
  unfold H2Session.onRequestHeaders
  dsimp only
  split_ifs
  · exact (dropHeaders s streamId).trans (rejectInCallback _ _ _ _)
  · split
    · exact (dropHeaders s streamId).trans (rejectInCallback _ _ _ _)
    · exact (inScope s _ _).trans (dropHeaders _ _)
  · exact (rejectInCallback s _ _ _).trans (dropHeaders _ _)

theorem onResponseHeaders (s : H2Session) (streamId : Int) (headers : HeaderList) :
    Does id s (s.onResponseHeaders streamId headers) := by
  unfold H2Session.onResponseHeaders
  dsimp only
  split_ifs
  · exact (inScope s _ _).trans (dropHeaders _ _)
  · exact (inScope s _ _).trans (dropHeaders _ _)
  · exact dropHeaders s streamId

theorem onEndHeaders (s : H2Session) (streamId : Int) (rv : Option NgError) :
    Does id s (s.onEndHeaders streamId rv) := by
  unfold H2Session.onEndHeaders
  cases s.pendingHeaders.find? streamId with
  | none => exact refl s
  | some headers =>
      dsimp only
      split_ifs
      · exact onRequestHeaders s streamId headers rv
      · exact onResponseHeaders s streamId headers

theorem onRecvData (s : H2Session) (streamId : Int) (data : Bytes) (rv : Option NgError) :
    Does id s (s.onRecvData streamId data rv) := by
  have hdropped : Does id s
      ({ s with connRecvWindowSize := s.connRecvWindowSize + data.length
          }.consumeConnectionRecvBytes data.length) :=
    trans (keep ⟨rfl, rfl⟩) (keep (same_consumeConnectionRecvBytes _ _ id))
  unfold H2Session.onRecvData
  dsimp only
  cases s.wtSessions.find? streamId with
  | none => exact hdropped
  | some w =>
      have hrecorded : Does id s
          { s with
            connRecvWindowSize := s.connRecvWindowSize + data.length
            unconsumedRecvBytes := s.unconsumedRecvBytes.insert streamId
              ((s.unconsumedRecvBytes.find? streamId).getD 0 + data.length) } := keep ⟨rfl, rfl⟩
      dsimp only
      split_ifs
      · exact hdropped
      · exact keep ⟨rfl, rfl⟩
      · exact hrecorded.trans (inScope _ _ _)
      · exact hrecorded
      · exact hrecorded.trans (rejectInCallback _ _ _ _)
      · exact hrecorded.trans (inScope _ _ _)

theorem acceptSession (s : H2Session) (sessionId : Int) (rv : Option NgError)
    (flush resetFlush : List WriteCallback) :
    Does id s (s.acceptSession sessionId rv flush resetFlush).1 := by
  have hfinish : ∀ s, Does id s (finishAccept s sessionId resetFlush) := by
    intro s
    unfold finishAccept
    cases s.wtSessions.find? sessionId with
    | none => exact refl s
    | some w =>
        dsimp only
        split_ifs
        · exact refl s
        · exact (inScope s _ _).trans (flushOutput _ _)
        · exact inScope s _ _
        · exact inScope s _ _
  unfold H2Session.acceptSession drainAccepted
  split_ifs
  · exact refl s
  · refine (callNg s (.submitResponse sessionId (acceptHeaders s.config))).trans ?_
    cases rv with
    | some err => exact inScope _ _ _
    | none =>
        exact (((inScope _ _ _).trans (flushOutput _ _)).trans (inScope _ _ _)).trans (hfinish _)

theorem connect (s : H2Session) (url origin : Bytes) (streamId : Int)
    (flush : List WriteCallback) : Does id s (s.connect url origin streamId flush).1 := by
  unfold H2Session.connect
  cases Bindings.parseAuthorityPath url with
  | none =>
      dsimp only
      split_ifs <;> exact refl s
  | some target =>
      dsimp only
      split_ifs
      · exact refl s
      · exact refl s
      · exact refl s
      · exact callNg s _
      · exact ((callNg s _).trans (inScope _ _ _)).trans (flushOutput _ _)

theorem openStream (s : H2Session) (sessionId : Int) (isUnidirectional : Bool) :
    Does id s (s.openStream sessionId isUnidirectional).1 := by
  unfold H2Session.openStream
  cases s.wtSessions.find? sessionId with
  | none => exact refl s
  | some w =>
      dsimp only
      exact inScope s _ _

theorem resetStream (s : H2Session) (sessionId : Int) (streamId : Nat) (errorCode : UInt32) :
    Does id s (s.orElse (s.resetStream sessionId streamId errorCode)) := by
  unfold H2Session.resetStream
  split_ifs
  · exact refl s
  · exact inScope s sessionId (·.onEntry (WtSessionInfo.resetStream streamId errorCode.toNat))

theorem stopSending (s : H2Session) (sessionId : Int) (streamId : Nat) (errorCode : UInt32) :
    Does id s (s.orElse (s.stopSending sessionId streamId errorCode)) := by
  unfold H2Session.stopSending
  split_ifs
  · exact refl s
  · exact inScope s sessionId (·.onEntry (WtSessionInfo.stopSending streamId errorCode.toNat))

theorem nextEvent (s : H2Session) : Does id s s.nextEvent.1 := by
  unfold H2Session.nextEvent
  cases s.events <;> exact keep ⟨rfl, rfl⟩

theorem onRecvSettingsEntry (s : H2Session) (settingId value : Nat) :
    Does id s (s.onRecvSettingsEntry settingId value) := by
  unfold H2Session.onRecvSettingsEntry
  split_ifs <;> exact keep ⟨rfl, rfl⟩

/-- Every input of the session object is done by steps of the queue. -/
theorem step (s : H2Session) (input : Input) : Does id s (s.step input) := by
  cases input with
  | recvSettingsEntry settingId value => exact onRecvSettingsEntry s settingId value
  -- The callbacks of nghttp2, and the calls that ask for a session and answer for one.
  | endHeaders streamId rv => exact onEndHeaders s streamId rv
  | recvData streamId data rv => exact onRecvData s streamId data rv
  | write callback => exact onWrite s callback
  | connect url origin streamId flush => exact connect s url origin streamId flush
  | acceptSession sessionId rv flush resetFlush =>
      exact acceptSession s sessionId rv flush resetFlush
  | rejectSession sessionId status rv => exact rejectSession s sessionId status rv
  -- These run one method of the entry, which queues capsules or ends the session.
  | openStream sessionId isUnidirectional => exact openStream s sessionId isUnidirectional
  | resetStream sessionId streamId errorCode => exact resetStream s sessionId streamId errorCode
  | stopSending sessionId streamId errorCode => exact stopSending s sessionId streamId errorCode
  | remoteEndStream streamId => exact inScope s streamId _
  | sendStreamData sessionId streamId data fin =>
      exact inScope s sessionId (·.onEntry (WtSessionInfo.sendStreamData streamId data fin))
  | sendDatagram sessionId data =>
      exact inScope s sessionId (·.onEntry (WtSessionInfo.sendDatagram data))
  | closeSession sessionId errorCode message =>
      exact inScope s sessionId (·.closeSession errorCode.toNat message)
  | drainSession sessionId => exact inScope s sessionId (·.onEntry WtSessionInfo.drainSession)
  -- The others touch neither the entries nor the queues.
  | nextEvent => exact nextEvent s
  | beginHeaders streamId => exact keep ⟨rfl, rfl⟩
  | recvHeader streamId name value => exact keep ⟨rfl, rfl⟩
  | endTrailers streamId => exact keep ⟨rfl, rfl⟩
  | shutdown lastStreamId errorCode => exact keep ⟨rfl, rfl⟩
  | readError err => exact keep ⟨rfl, rfl⟩

/-- So is a whole run. -/
theorem run (s : H2Session) (inputs : List Input) : Does id s (s.run inputs) := foldl step inputs s

end Does

instance (s s' : H2Session) (id : Int) : Decidable (Same s s' id) := by
  unfold Same
  infer_instance

instance (id : Int) (base : Nat) (o : Draining) (step : QueueStep) :
    Decidable (Allowed id base o step) := by
  unfold Allowed
  split <;> infer_instance

end Draining

end H2Session

/-! ## Both queues -/

open Http2.Http2Connection H2Session

/-- The bodies of an HTTP/2 connection and the capsules of a WebTransport session are sent in order
and completely, and the EOF comes with or behind the last byte. -/
theorem send_queues :
    (∀ (s : Http2.Http2Connection) (id : Int) (a : Act) (o : Sending) (acts : List Act),
        Sending.Submits s id a →
        Path (Guarded (Sending.next id) (Sending.Allowed id (Sending.base s id)))
          (Sending.start s id a) acts o →
        Sending.BodySent id (Sending.base s id) o) ∧
      ∀ (s : H2Session) (id : Int) (o : Draining) (steps : List QueueStep),
        Path (Guarded (Draining.next id) (Draining.Allowed id (Draining.base s id)))
          (Draining.start s id) steps o →
        Draining.CapsulesSent id (Draining.base s id) o := by
  constructor
  · intro s id a o acts hsubmit hrun
    exact Sending.body_sent hsubmit hrun
  · intro s id o steps hrun
    exact Draining.capsules_sent s id hrun

/-- A response of three bytes in two calls, and a capsule with the end of its session. -/
theorem send_queues_short :
    Sending.BodySent 1 0 (([.sendData 1 [1, 2] false, .callback (.readData 1),
      .callback (.writeStreamDataOffset 1 0 1), .sendData 1 [3] true,
      .callback (.writeStreamDataOffset 1 1 1), .callback (.readData 1)] : List Act).foldl
        (Sending.next 1)
        (Sending.start { isServer := true, initialWindowSize := 10 } 1 (.submitResponse 1))) ∧
      Draining.CapsulesSent 1 0 (([.perform 1 (.capsule (.wtMaxData 1)),
        .perform 1 .endStreamPending, .write (.readData 1)] : List QueueStep).foldl
          (Draining.next 1) (Draining.start { isServer := true, config := {} } 1)) := by
  have hsubmit : Sending.Submits { isServer := true, initialWindowSize := 10 } 1
      (.submitResponse 1) := Or.inr ⟨rfl, by decide +kernel⟩
  constructor
  · exact send_queues.1 _ 1 _ _ _ hsubmit (Guarded.path (by decide +kernel))
  · exact send_queues.2 { isServer := true, config := {} } 1 _ _ (Guarded.path (by decide +kernel))

end H2
end WebTransport
