import WebTransport.Data.Outflow
import WebTransport.Http2.Release

/-!
# Http2.SendQueue — the body of a stream on its way to nghttp2

* `pending`            : what is sent of a queue, up to its first EOF;
* `readBuffers_cases`  : what a read offers of it;
* `Sending`            : the connection object beside what nghttp2 has taken of one stream;
* `Sending.Sound`      : the queue holds what is wanted and not confirmed;
* `Sending.body_sent`  : runs send the body, and the EOF with or behind its last byte.
-/

namespace WebTransport
namespace Http2

open Bindings

/-! ## The queue -/

/-- What is not sent of an entry. -/
def StreamData.left (entry : StreamData) : Bytes := entry.data.drop entry.offset

namespace Http2Connection

/-- What is sent of a queue: nothing behind the first EOF. -/
def pending : List StreamData → Bytes
  | [] => []
  | front :: rest => front.left ++ if front.eof then [] else pending rest

theorem left_eq_nil {entry : StreamData} (h : entry.data.length - entry.offset = 0) :
    entry.left = [] := by
  unfold StreamData.left
  rw [List.drop_eq_nil_iff]
  omega

theorem left_ne_nil {entry : StreamData} (h : ¬ entry.data.length - entry.offset = 0) :
    entry.left ≠ [] := by
  intro hnil
  unfold StreamData.left at hnil
  rw [List.drop_eq_nil_iff] at hnil
  omega

/-- A read finds the queue used up, or an EOF without bytes, or bytes. -/
theorem readBuffers_cases (queue : List StreamData) :
    (readBuffers queue = ([], none) ∧ pending queue = [] ∧ queue.any StreamData.eof = false) ∨
      ((readBuffers queue).2 = some ([], true) ∧ pending queue = [] ∧
        queue.any StreamData.eof = true) ∨
      ∃ front rest, readBuffers queue = (front :: rest, some (front.left, front.eof)) ∧
        front.left ≠ [] ∧ pending queue = pending (front :: rest) ∧
        queue.any StreamData.eof = (front :: rest).any StreamData.eof := by
  induction queue with
  | nil => exact Or.inl ⟨rfl, rfl, rfl⟩
  | cons front rest ih =>
      unfold readBuffers
      split_ifs with hempty heof
      · -- an EOF without bytes
        refine Or.inr (Or.inl ⟨rfl, ?_, ?_⟩)
        · simp [pending, left_eq_nil hempty, heof]
        · simp [heof]
      · have hskip : pending (front :: rest) = pending rest := by
          simp [pending, left_eq_nil hempty, heof]
        have hany : (front :: rest).any StreamData.eof = rest.any StreamData.eof := by
          simp [heof]
        rw [hskip, hany]
        exact ih
      · exact Or.inr (Or.inr ⟨front, rest, rfl, left_ne_nil hempty, rfl, rfl⟩)

theorem pending_concat (queue : List StreamData) (entry : StreamData) :
    pending (queue ++ [entry]) =
      pending queue ++ if queue.any StreamData.eof then [] else entry.left := by
  induction queue with
  | nil => by_cases heof : entry.eof = true <;> simp [pending, heof]
  | cons front rest ih =>
      simp only [List.cons_append, pending, List.any_cons]
      by_cases heof : front.eof = true
      · simp [heof]
      · simp [heof, ih]

/-- Confirming part of the front entry takes that part away. -/
theorem pending_advance {front : StreamData} (rest : List StreamData) {n : Nat}
    (hn : n ≤ front.left.length) (heof : front.eof = false) :
    pending (advance n (front :: rest)) = (pending (front :: rest)).drop n ∧
      (advance n (front :: rest)).any StreamData.eof = (front :: rest).any StreamData.eof := by
  have hlength : front.left.length = front.data.length - front.offset := by
    simp [StreamData.left]
  rw [hlength] at hn
  unfold advance
  dsimp only
  split_ifs with hzero hall
  · subst hzero
    exact ⟨rfl, rfl⟩
  · -- the whole rest of the entry
    have htake : min n (front.data.length - front.offset) = n := min_eq_left hn
    have hleft : n = front.left.length := by
      rw [htake] at hall
      omega
    have hdone : ∀ queue, advance 0 queue = queue := by
      intro queue
      cases queue <;> simp [advance]
    rw [htake, Nat.sub_self, hdone]
    simp [pending, heof, hleft]
  · have htake : min n (front.data.length - front.offset) = n := min_eq_left hn
    rw [htake]
    constructor
    · simp only [pending, heof, Bool.false_eq_true, if_false]
      rw [List.drop_append_of_le_length (by rw [hlength]; exact hn)]
      simp [StreamData.left, List.drop_drop]
    · simp

/-- What is left of the front entry is still in front. -/
theorem front_advance {front : StreamData} (rest : List StreamData) {n : Nat}
    (hn : n ≤ front.left.length) :
    front.left.drop n = [] ∨ ∃ front', advance n (front :: rest) = front' :: rest ∧
      front'.left = front.left.drop n ∧ front'.eof = front.eof := by
  have hlength : front.left.length = front.data.length - front.offset := by
    simp [StreamData.left]
  by_cases hall : n = front.left.length
  · exact Or.inl (by rw [hall, List.drop_length])
  have htake : min n (front.data.length - front.offset) = n := min_eq_left (by omega)
  refine Or.inr ?_
  unfold advance
  dsimp only
  rw [htake]
  split_ifs with hzero hover
  · refine ⟨front, rfl, ?_, rfl⟩
    rw [hzero, List.drop_zero]
  · omega
  · refine ⟨_, rfl, ?_, rfl⟩
    simp [StreamData.left, List.drop_drop]

/-! ## The connection beside nghttp2 -/

/-- The connection object, what nghttp2 has taken of one stream, whether `send_data` was called with
`eof` before any trailer, and whether a trailer was accepted. -/
structure Sending where
  connection : Http2Connection
  flow : Outflow UInt8 := {}
  ended : Bool := false
  trailer : Bool := false

namespace Sending

/-- What a step does to the stream `id`. -/
def next (id : Int) (o : Sending) (a : Act) : Sending :=
  let o' := { o with connection := o.connection.act a }
  match a with
  | .sendData streamId data eof =>
      if streamId = id ∧ o.connection.closed = false then
        { o' with
            flow := if o.ended then o.flow else o.flow.want data
            ended := o.ended || (eof && !o.trailer) }
      else o'
  | .submitTrailer streamId rv =>
      if streamId = id ∧ (o.connection.submitTrailer streamId rv).2 = true then
        { o' with trailer := true }
      else o'
  | .callback (.readData streamId) =>
      if streamId = id then
        match (o.connection.onReadData streamId).2 with
        | some (bytes, eof) => { o' with flow := o.flow.offer bytes eof }
        | none => o'
      else o'
  | .callback (.writeStreamDataOffset streamId _ len) =>
      if streamId = id then { o' with flow := o.flow.confirm len } else o'
  | _ => o'

/-- What nghttp2 does with the stream `id`, and the calls that would start or drop its body: an offer
is confirmed in order, and the next one is asked for when it is confirmed and was not the last. -/
def Allowed (id : Int) (base : Nat) (o : Sending) (a : Act) : Prop :=
  a.Possible o.connection ∧
    match a with
    | .callback (.readData streamId) =>
        streamId = id → o.flow.outstanding = [] ∧ o.flow.finished = false
    | .callback (.writeStreamDataOffset streamId offset len) =>
        streamId = id →
          offset = base + o.flow.confirmed.length ∧ len ≤ o.flow.outstanding.length
    | .callback (.streamClose streamId _) => streamId ≠ id
    | .submitRequest streamId | .submitResponse streamId | .resetStream streamId => streamId ≠ id
    | _ => True

/-- `submit_request` opens the stream, or `submit_response` answers it. -/
def Submits (s : Http2Connection) (id : Int) (a : Act) : Prop :=
  (a = .submitRequest id ∧ 0 ≤ (s.submitRequest id).2) ∨ (a = .submitResponse id ∧ a.Effective s)

/-- The state behind `submit_request` or `submit_response`. -/
def start (s : Http2Connection) (id : Int) (a : Act) : Sending :=
  { connection := s.act a, trailer := decide (id ∈ (s.act a).trailersSubmitted) }

/-- The bytes of the stream that were confirmed before. -/
def base (s : Http2Connection) (id : Int) : Nat := (s.streamDataSent.find? id).getD 0

/-- The queue holds what is wanted and not confirmed. -/
structure Sound (id : Int) (base : Nat) (o : Sending) : Prop where
  sent : (o.connection.streamDataSent.find? id).getD 0 = base + o.flow.confirmed.length
  trailer : o.trailer = true ↔ id ∈ o.connection.trailersSubmitted
  valid : o.flow.Valid
  reason : o.flow.finished = true → o.ended = true ∨ o.trailer = true
  queue : ∃ queue, o.connection.streamBuffers.find? id = some queue ∧
    (o.flow.finished = false →
      o.flow.confirmed ++ pending queue = o.flow.wanted ∧
      queue.any StreamData.eof = o.ended ∧
      (o.flow.outstanding = [] ∨ ∃ front rest, queue = front :: rest ∧
        o.flow.outstanding = front.left ∧ front.eof = false))

/-- The three entries a body has. -/
def Same (s s' : Http2Connection) (id : Int) : Prop :=
  s'.streamBuffers.find? id = s.streamBuffers.find? id ∧
    s'.streamDataSent.find? id = s.streamDataSent.find? id ∧
    (id ∈ s'.trailersSubmitted ↔ id ∈ s.trailersSubmitted)

theorem same_of_alike {s s' : Http2Connection} {id : Int} (h : Alike s s' id) : Same s s' id := by
  refine ⟨congrArg Entries.buffers h.1, congrArg Entries.dataSent h.1, ?_⟩
  exact iff_of_eq (congrArg Entries.trailers h.1)

/-- The steps that write a body, or what it is waiting in. -/
def Writes (id : Int) : Act → Prop
  | .sendData streamId _ _ | .submitTrailer streamId _ | .submitRequest streamId
  | .submitResponse streamId | .resetStream streamId | .callback (.readData streamId)
  | .callback (.writeStreamDataOffset streamId _ _) | .callback (.streamClose streamId _) =>
      streamId = id
  | _ => False

/-- Other steps leave the body alone. -/
theorem same_act (s : Http2Connection) (a : Act) {id : Int} (h : ¬ Writes id a) :
    Same s (s.act a) id := by
  by_cases hstream : a.stream? = some id
  · have hrefl : Same s s id := ⟨rfl, rfl, Iff.rfl⟩
    have hwindow : ∀ t : Http2Connection, Same t (t.initStreamWindow id) id := by
      intro t
      unfold initStreamWindow
      split <;> exact ⟨rfl, rfl, Iff.rfl⟩
    cases a with
    | settle | terminateSession | goaway | nextEvent => simp [Act.stream?] at hstream
    | sendData streamId | submitTrailer streamId | submitRequest streamId
    | submitResponse streamId | resetStream streamId =>
        exact absurd (Option.some.inj hstream) h
    | setLocalWindowSize streamId windowSize =>
        simp only [act, setLocalWindowSize]
        split_ifs
        · exact hrefl
        · exact hrefl
        · rw [extendMaxOffset_eq]
          exact ⟨rfl, rfl, Iff.rfl⟩
        · split
          · exact hrefl
          · rw [extendMaxStreamOffset_eq]
            exact ⟨rfl, rfl, Iff.rfl⟩
    | callback callback =>
        cases callback with
        | recvSettings | recvPingAck | shutdown => simp [Act.stream?, Callback.stream?] at hstream
        | streamClose streamId | readData streamId | writeStreamDataOffset streamId =>
            exact absurd (Option.some.inj hstream) h
        | beginHeaders | recvHeader | beginTrailers | recvTrailer => exact ⟨rfl, rfl, Iff.rfl⟩
        | endHeaders streamId | endTrailers streamId =>
            simp only [act, onCallback]
            split <;> exact ⟨rfl, rfl, Iff.rfl⟩
        | remoteEndStream streamId | localEndStream streamId =>
            simp only [act, onCallback, updateStream]
            split <;> exact ⟨rfl, rfl, Iff.rfl⟩
        | streamOpen streamId =>
            simp only [act, onCallback, registerStream, initStream, initStreamWindow]
            split <;> split <;> exact ⟨rfl, rfl, Iff.rfl⟩
        | recvData streamId data =>
            have hid : streamId = id := Option.some.inj hstream
            rcases hwindow (s.record (.received id data.length)) with ⟨h1, h2, h3⟩
            simp only [act, onCallback, onRecvData, extendRecvStreamWindow,
              extendRecvConnectionWindow]
            rw [extendMaxStreamOffset_eq, extendMaxOffset_eq, hid]
            exact ⟨h1, h2, h3⟩
  · exact same_of_alike (entries_act s a hstream)

/-- For other steps only the connection object moves. -/
theorem next_of_not_writes {id : Int} {a : Act} (h : ¬ Writes id a) (o : Sending) :
    o.next id a = { o with connection := o.connection.act a } := by
  cases a with
  | sendData streamId data eof =>
      have hne : ¬ (streamId = id ∧ o.connection.closed = false) := fun hboth => h hboth.1
      simp only [next, if_neg hne]
  | submitTrailer streamId rv =>
      have hne : ¬ (streamId = id ∧ (o.connection.submitTrailer streamId rv).2 = true) :=
        fun hboth => h hboth.1
      simp only [next, if_neg hne]
  | callback callback =>
      cases callback with
      | readData streamId =>
          have hne : ¬ streamId = id := h
          simp only [next, if_neg hne]
      | writeStreamDataOffset streamId offset len =>
          have hne : ¬ streamId = id := h
          simp only [next, if_neg hne]
      | _ => rfl
  | _ => rfl

theorem Sound.same {id : Int} {base : Nat} {o : Sending} (h : Sound id base o)
    {s' : Http2Connection} (hs : Same o.connection s' id) :
    Sound id base { o with connection := s' } := by
  rcases hs with ⟨hbuffers, hsent, htrailers⟩
  refine ⟨?_, ?_, h.valid, h.reason, ?_⟩
  · show (s'.streamDataSent.find? id).getD 0 = _
    rw [hsent]
    exact h.sent
  · show o.trailer = true ↔ id ∈ s'.trailersSubmitted
    rw [htrailers]
    exact h.trailer
  · show ∃ queue, s'.streamBuffers.find? id = some queue ∧ _
    rw [hbuffers]
    exact h.queue

namespace Sound

variable {id : Int} {base : Nat} {o : Sending}

theorem sendData (h : Sound id base o) (data : Bytes) (eof : Bool) :
    Sound id base (o.next id (.sendData id data eof)) := by
  rcases h.queue with ⟨queue, hfind, hqueue⟩
  by_cases hclosed : o.connection.closed = true
  · have hsame : o.next id (.sendData id data eof) = o := by
      simp [next, hclosed, act, Http2Connection.sendData]
    rw [hsame]
    exact h
  have hopen : o.connection.closed = false := by simpa using hclosed
  have hbuffers : o.connection.buffers id = queue := by
    unfold buffers
    rw [hfind]
    rfl
  -- behind a trailer no EOF is queued
  have hmem : decide (id ∈ o.connection.trailersSubmitted) = o.trailer := by
    rw [Bool.eq_iff_iff, decide_eq_true_eq]
    exact h.trailer.symm
  have hconn : o.connection.act (.sendData id data eof) =
      o.connection.setBuffers id (queue ++ [{ data := data, eof := eof && !o.trailer }]) := by
    simp only [act, Http2Connection.sendData, if_neg hclosed, hbuffers, hmem]
  have hnext : o.next id (.sendData id data eof) =
      { connection :=
          o.connection.setBuffers id (queue ++ [{ data := data, eof := eof && !o.trailer }])
        flow := if o.ended then o.flow else o.flow.want data
        ended := o.ended || (eof && !o.trailer)
        trailer := o.trailer } := by
    simp only [next, hopen, hconn, and_self, if_true]
  rw [hnext]
  generalize hlast : (eof && !o.trailer) = last
  have hkeep : (if o.ended = true then o.flow else o.flow.want data).confirmed =
        o.flow.confirmed ∧
      (if o.ended = true then o.flow else o.flow.want data).outstanding = o.flow.outstanding ∧
      (if o.ended = true then o.flow else o.flow.want data).finished = o.flow.finished := by
    unfold Outflow.want
    split_ifs <;> exact ⟨rfl, rfl, rfl⟩
  rcases hkeep with ⟨hconfirmed, hout, hfinished⟩
  refine ⟨?_, h.trailer, ?_, ?_, ?_⟩
  · dsimp only
    rw [hconfirmed]
    exact h.sent
  · dsimp only
    split_ifs
    · exact h.valid
    · exact h.valid.want data
  · intro hdone
    dsimp only at hdone ⊢
    rw [hfinished] at hdone
    rcases h.reason hdone with hended | htrailer
    · exact Or.inl (by rw [hended, Bool.true_or])
    · exact Or.inr htrailer
  · refine ⟨queue ++ [{ data := data, eof := last }], by simp [setBuffers], ?_⟩
    dsimp only
    rw [hfinished, hconfirmed, hout]
    intro hmore
    rcases hqueue hmore with ⟨hpending, hany, hfront⟩
    refine ⟨?_, ?_, ?_⟩
    · rw [pending_concat, hany]
      cases hended : o.ended with
      | true => simpa using hpending
      | false =>
          have hwanted : (o.flow.want data).wanted = o.flow.wanted ++ data := by
            unfold Outflow.want
            rw [hmore]
            rfl
          simp only [Bool.false_eq_true, if_false, hwanted]
          rw [← hpending]
          simp [StreamData.left]
    · simp [List.any_append, hany]
    · rcases hfront with hnone | ⟨front, rest, hcons, hleft, heof⟩
      · exact Or.inl hnone
      · exact Or.inr ⟨front, rest ++ [{ data := data, eof := last }],
          by rw [hcons, List.cons_append], hleft, heof⟩

theorem submitTrailer (h : Sound id base o) (rv : Int) :
    Sound id base (o.next id (.submitTrailer id rv)) := by
  rcases submitTrailer_cases o.connection id rv with heq | ⟨_, _, _, _, _, _, _, heq⟩
  · have hsame : o.next id (.submitTrailer id rv) = o := by
      simp [next, heq, act]
    rw [hsame]
    exact h
  · have hnext : o.next id (.submitTrailer id rv) =
        { o with
            connection :=
              { o.connection with
                trailersSubmitted := o.connection.trailersSubmitted.insert id }
            trailer := true } := by
      simp [next, heq, act]
    rw [hnext]
    refine ⟨h.sent, ?_, h.valid, ?_, h.queue⟩
    · simp
    · intro _
      exact Or.inr rfl

/-- What a read of a sound queue gives. -/
theorem onReadData_cases (h : Sound id base o) (hmore : o.flow.finished = false) :
    (∃ queue, (o.connection.onReadData id).1 = o.connection.setBuffers id queue ∧
      (o.connection.onReadData id).2 = none ∧ pending queue = [] ∧
      queue.any StreamData.eof = false ∧ o.flow.confirmed = o.flow.wanted ∧ o.ended = false ∧
      o.trailer = false) ∨
    (∃ queue, (o.connection.onReadData id).1 = o.connection.setBuffers id queue ∧
      (o.connection.onReadData id).2 = some ([], true) ∧ o.flow.confirmed = o.flow.wanted ∧
      (o.ended = true ∨ o.trailer = true)) ∨
    ∃ front rest,
      (o.connection.onReadData id).1 = o.connection.setBuffers id (front :: rest) ∧
      (o.connection.onReadData id).2 = some (front.left, front.eof) ∧ front.left ≠ [] ∧
      o.flow.confirmed ++ pending (front :: rest) = o.flow.wanted ∧
      (front :: rest).any StreamData.eof = o.ended := by
  rcases h.queue with ⟨queue, hfind, hqueue⟩
  rcases hqueue hmore with ⟨hpending, hany, _⟩
  have hbuffers : o.connection.buffers id = queue := by
    unfold buffers
    rw [hfind]
    rfl
  have hoffers : ∀ offer, (readBuffers queue).2 = some offer →
      o.connection.onReadData id =
        (o.connection.setBuffers id (readBuffers queue).1, some offer) := by
    intro offer heq
    simp only [onReadData, hbuffers, hfind, heq]
  have hdrained : (readBuffers queue).2 = none → o.connection.onReadData id =
      (o.connection.setBuffers id (readBuffers queue).1,
        if id ∈ o.connection.trailersSubmitted then some ([], true) else none) := by
    intro heq
    simp only [onReadData, hbuffers, hfind, heq]
    rfl
  rcases readBuffers_cases queue with
    ⟨heq, hnil, hnone⟩ | ⟨heq, hnil, hsome⟩ | ⟨front, rest, heq, hleft, hsame, hflags⟩
  · have hread := hdrained (congrArg Prod.snd heq)
    rw [heq] at hread
    rw [hnil, List.append_nil] at hpending
    by_cases htrailer : id ∈ o.connection.trailersSubmitted
    · refine Or.inr (Or.inl ⟨[], ?_, ?_, hpending, Or.inr (h.trailer.mpr htrailer)⟩)
      · rw [hread]
      · rw [hread]
        simp only [if_pos htrailer]
    · refine Or.inl ⟨[], ?_, ?_, rfl, rfl, hpending, ?_, ?_⟩
      · rw [hread]
      · rw [hread]
        simp only [if_neg htrailer]
      · rw [← hany, hnone]
      · cases hflag : o.trailer
        · rfl
        · exact absurd (h.trailer.mp hflag) htrailer
  · have hread := hoffers _ heq
    rw [hnil, List.append_nil] at hpending
    refine Or.inr (Or.inl ⟨(readBuffers queue).1, ?_, ?_, hpending, Or.inl (hany.symm.trans hsome)⟩)
    · rw [hread]
    · rw [hread]
  · have hread := hoffers _ (congrArg Prod.snd heq)
    rw [heq] at hread
    refine Or.inr (Or.inr ⟨front, rest, ?_, ?_, hleft, ?_, ?_⟩)
    · rw [hread]
    · rw [hread]
    · rw [← hsame]
      exact hpending
    · rw [← hflags]
      exact hany

theorem readData (h : Sound id base o) (hidle : o.flow.outstanding = [])
    (hmore : o.flow.finished = false) : Sound id base (o.next id (.callback (.readData id))) := by
  have hset : ∀ queue, (o.connection.setBuffers id queue).streamBuffers.find? id = some queue := by
    intro queue
    simp [setBuffers]
  rcases h.onReadData_cases hmore with
    ⟨queue, hstate, hoffer, hnil, hany, hsent, hended, htrailer⟩ |
    ⟨queue, hstate, hoffer, hsent, hreason⟩ | ⟨front, rest, hstate, hoffer, hleft, hpending, hany⟩
  · have hnext : o.next id (.callback (.readData id)) =
        { o with connection := o.connection.setBuffers id queue } := by
      simp [next, hoffer, act, onCallback, hstate]
    rw [hnext]
    refine ⟨h.sent, h.trailer, h.valid, h.reason, queue, hset queue, ?_⟩
    intro _
    refine ⟨?_, ?_, Or.inl hidle⟩
    · rw [hnil, List.append_nil]
      exact hsent
    · rw [hany, hended]
  · have hnext : o.next id (.callback (.readData id)) =
        { o with
            connection := o.connection.setBuffers id queue
            flow := o.flow.offer [] true } := by
      simp [next, hoffer, act, onCallback, hstate]
    rw [hnext]
    refine ⟨h.sent, h.trailer, ?_, fun _ => hreason, queue, hset queue, ?_⟩
    · refine Outflow.Valid.offer [] ?_ fun _ => rfl
      rw [List.append_nil, List.append_nil]
      exact hsent
    · intro hfalse
      cases hfalse
  · have hnext : o.next id (.callback (.readData id)) =
        { o with
            connection := o.connection.setBuffers id (front :: rest)
            flow := o.flow.offer front.left front.eof } := by
      simp [next, hoffer, act, onCallback, hstate]
    rw [hnext]
    refine ⟨h.sent, h.trailer, ?_, ?_, front :: rest, hset _, ?_⟩
    · refine Outflow.Valid.offer (if front.eof then [] else pending rest) hpending ?_
      intro heof
      rw [if_pos heof]
    · intro heof
      refine Or.inl ?_
      rw [← hany, List.any_cons]
      have hflag : front.eof = true := heof
      rw [hflag, Bool.true_or]
    · intro heof
      exact ⟨hpending, hany, Or.inr ⟨front, rest, rfl, rfl, heof⟩⟩

theorem writeStreamDataOffset (h : Sound id base o) {offset len : Nat}
    (hoffset : offset = base + o.flow.confirmed.length) (hlen : len ≤ o.flow.outstanding.length) :
    Sound id base (o.next id (.callback (.writeStreamDataOffset id offset len))) := by
  rcases h.queue with ⟨queue, hfind, hqueue⟩
  have hnext : o.next id (.callback (.writeStreamDataOffset id offset len)) =
      { o with
          connection := o.connection.onWriteStreamDataOffset id offset len
          flow := o.flow.confirm len } := by
    simp [next, act, onCallback]
  rw [hnext]
  have htake : (o.flow.outstanding.take len).length = len := by
    rw [List.length_take, min_eq_left hlen]
  -- nghttp2 counts what it confirmed as the connection object does
  have hsent : (o.connection.streamDataSent.find? id).getD 0 = offset := by
    rw [h.sent, hoffset]
  have hconn : ∃ queue', (o.connection.onWriteStreamDataOffset id offset len).streamBuffers.find? id
        = some queue' ∧
      queue' = advance len queue ∧
      (o.connection.onWriteStreamDataOffset id offset len).streamDataSent.find? id =
        some (offset + len) ∧
      (o.connection.onWriteStreamDataOffset id offset len).trailersSubmitted =
        o.connection.trailersSubmitted := by
    simp only [onWriteStreamDataOffset, hsent, hfind]
    split_ifs with hle
    · have hzero : len = 0 := by omega
      refine ⟨queue, hfind, ?_, ?_, rfl⟩
      · rw [hzero]
        cases queue <;> simp [advance]
      · simp [hzero]
    · refine ⟨advance len queue, ?_, rfl, ?_, rfl⟩
      · simp [setBuffers]
      · simp [setBuffers]
  rcases hconn with ⟨queue', hfind', hqueue', hsent', htrailers⟩
  refine ⟨?_, ?_, h.valid.confirm len, h.reason, queue', hfind', ?_⟩
  · show (Option.getD _ 0) = _
    rw [hsent']
    simp only [Outflow.confirm, List.length_append, htake, Option.getD_some, hoffset]
    omega
  · show o.trailer = true ↔ id ∈ _
    rw [htrailers]
    exact h.trailer
  · intro hmore
    rcases hqueue hmore with ⟨hpending, hany, hfront⟩
    subst hqueue'
    rcases hfront with hnone | ⟨front, rest, hcons, hleft, heof⟩
    · have hzero : len = 0 := by
        rw [hnone] at hlen
        simpa using hlen
      have hadvance : advance len queue = queue := by
        rw [hzero]
        cases queue <;> simp [advance]
      rw [hadvance]
      refine ⟨?_, hany, Or.inl ?_⟩
      · simp only [Outflow.confirm, hnone, List.take_nil, List.append_nil]
        exact hpending
      · simp [Outflow.confirm, hnone]
    · subst hcons
      have hn : len ≤ front.left.length := by
        rw [← hleft]
        exact hlen
      rcases pending_advance rest hn heof with ⟨hdrop, hflags⟩
      refine ⟨?_, ?_, ?_⟩
      · rw [hdrop]
        simp only [Outflow.confirm, hleft, List.append_assoc]
        rw [← hpending]
        congr 1
        have hhead : pending (front :: rest) = front.left ++ pending rest := by
          simp [pending, heof]
        rw [hhead, List.drop_append_of_le_length hn, ← List.append_assoc, List.take_append_drop]
      · rw [hflags]
        exact hany
      · rcases front_advance rest hn with hdone | ⟨front', hadvance, hleft', heof'⟩
        · exact Or.inl (by simp [Outflow.confirm, hleft, hdone])
        · refine Or.inr ⟨front', rest, hadvance, ?_, by rw [heof', heof]⟩
          simp [Outflow.confirm, hleft, hleft']

end Sound

/-- Every allowed step keeps the queue sound. -/
theorem Sound.next {id : Int} {base : Nat} {o : Sending} (h : Sound id base o) {a : Act}
    (ha : Allowed id base o a) : Sound id base (o.next id a) := by
  by_cases hwrites : Writes id a
  · rcases ha with ⟨_, ha⟩
    cases a with
    | sendData streamId data eof =>
        have hid : streamId = id := hwrites
        rw [hid]
        exact h.sendData data eof
    | submitTrailer streamId rv =>
        have hid : streamId = id := hwrites
        rw [hid]
        exact h.submitTrailer rv
    | submitRequest streamId | submitResponse streamId | resetStream streamId =>
        exact absurd hwrites ha
    | settle | terminateSession | goaway | nextEvent | setLocalWindowSize => exact hwrites.elim
    | callback callback =>
        cases callback with
        | readData streamId =>
            have hid : streamId = id := hwrites
            rcases ha hid with ⟨hidle, hmore⟩
            rw [hid]
            exact h.readData hidle hmore
        | writeStreamDataOffset streamId offset len =>
            have hid : streamId = id := hwrites
            rcases ha hid with ⟨hoffset, hlen⟩
            rw [hid]
            exact h.writeStreamDataOffset hoffset hlen
        | streamClose streamId errorCode => exact absurd hwrites ha
        | _ => exact hwrites.elim
  · rw [next_of_not_writes hwrites]
    exact h.same (same_act o.connection a hwrites)

theorem Sound.start {s : Http2Connection} {id : Int} {a : Act} (h : Submits s id a) :
    Sound id (base s id) (start s id a) := by
  have hsent : ((s.act a).streamDataSent.find? id).getD 0 = base s id ∧
      (s.act a).streamBuffers.find? id = some [] := by
    rcases h with ⟨rfl, hanswer⟩ | ⟨rfl, heffective⟩
    · simp only [act, submitRequest] at hanswer ⊢
      split_ifs at hanswer ⊢
      · simp at hanswer
      · simp at hanswer
      · have hregister : (s.registerStream id).streamDataSent = s.streamDataSent := by
          unfold registerStream initStreamWindow initStream
          split <;> split <;> rfl
        simp [setBuffers, hregister, base]
    · rcases heffective with ⟨hclosed, hserver, hstream⟩
      simp [act, submitResponse, hclosed, hserver, hstream, setBuffers, base]
  refine ⟨?_, ?_, ⟨List.nil_prefix, ?_⟩, ?_, [], hsent.2, ?_⟩
  · exact hsent.1
  · simp [Sending.start]
  · intro hfalse
    cases hfalse
  · intro hfalse
    cases hfalse
  · intro _
    exact ⟨rfl, rfl, Or.inl rfl⟩

/-- The reads and confirmations of a stream. -/
def Served (id : Int) (base : Nat) (o : Sending) (a : Act) : Prop :=
  Allowed id base o a ∧
    (a = .callback (.readData id) ∨ ∃ offset len, a = .callback (.writeStreamDataOffset id offset len))

/-- Once an EOF is asked for, reads and confirmations send everything. -/
theorem Sound.drains {id : Int} {base : Nat} {o : Sending} (h : Sound id base o)
    (hclosed : o.connection.closed = false) (hasked : o.ended = true ∨ o.trailer = true) :
    ∃ acts o', Path (Guarded (Sending.next id) (Served id base)) o acts o' ∧ o'.flow.Done := by
  have hkeep : ∀ (o : Sending) callback, (o.next id (.callback callback)).connection.closed =
      o.connection.closed ∧ (o.next id (.callback callback)).ended = o.ended ∧
      (o.next id (.callback callback)).trailer = o.trailer := by
    intro o callback
    have hconn := closed_onCallback o.connection callback
    cases callback with
    | readData streamId =>
        simp only [Sending.next]
        split_ifs
        · split <;> exact ⟨hconn, rfl, rfl⟩
        · exact ⟨hconn, rfl, rfl⟩
    | writeStreamDataOffset streamId offset len =>
        simp only [Sending.next]
        split_ifs <;> exact ⟨hconn, rfl, rfl⟩
    | _ => exact ⟨hconn, rfl, rfl⟩
  let Ready : Sending → Prop := fun o =>
    Sound id base o ∧ o.connection.closed = false ∧ (o.ended = true ∨ o.trailer = true)
  suffices hdrains : ∃ acts o', Path (Guarded (Sending.next id) (Served id base)) o acts o' ∧
      Ready o' ∧ o'.flow.Done by
    rcases hdrains with ⟨acts, o', hpath, _, hdone⟩
    exact ⟨acts, o', hpath, hdone⟩
  refine Outflow.drains Sending.flow Ready (fun o ho => ho.1.valid) ?_ ?_ o ⟨h, hclosed, hasked⟩
  · intro o ⟨ho, hopen, hasked⟩ hidle hmore
    have hallowed : Allowed id base o (.callback (.readData id)) :=
      ⟨hopen, fun _ => ⟨hidle, hmore⟩⟩
    rcases hkeep o (.readData id) with ⟨hopen', hended', htrailer'⟩
    have hready : Sound id base (o.next id (.callback (.readData id))) ∧
        (o.next id (.callback (.readData id))).connection.closed = false ∧
        ((o.next id (.callback (.readData id))).ended = true ∨
          (o.next id (.callback (.readData id))).trailer = true) := by
      rw [hopen', hended', htrailer']
      exact ⟨ho.readData hidle hmore, hopen, hasked⟩
    have hstep : Guarded (Sending.next id) (Served id base) o (.callback (.readData id))
        (o.next id (.callback (.readData id))) := ⟨⟨hallowed, Or.inl rfl⟩, rfl⟩
    rcases ho.onReadData_cases hmore with
      ⟨_, _, _, _, _, _, hended, htrailer⟩ | ⟨_, _, hoffer, _⟩ | ⟨front, _, _, hoffer, hleft, _⟩
    · -- an EOF was asked for
      rcases hasked with hasked | hasked
      · rw [hended] at hasked
        cases hasked
      · rw [htrailer] at hasked
        cases hasked
    · refine ⟨_, _, [], true, hstep, hready, ?_, Or.inr rfl⟩
      simp [Sending.next, hoffer]
    · refine ⟨_, _, front.left, front.eof, hstep, hready, ?_, Or.inl hleft⟩
      simp [Sending.next, hoffer]
  · intro o ⟨ho, hopen, hasked⟩ _
    let a : Act := .callback (.writeStreamDataOffset id (base + o.flow.confirmed.length)
      o.flow.outstanding.length)
    have hallowed : Allowed id base o a := ⟨hopen, fun _ => ⟨rfl, le_refl _⟩⟩
    rcases hkeep o (.writeStreamDataOffset id (base + o.flow.confirmed.length)
      o.flow.outstanding.length) with ⟨hopen', hended', htrailer'⟩
    refine ⟨a, o.next id a, ⟨⟨hallowed, Or.inr ⟨_, _, rfl⟩⟩, rfl⟩, ⟨ho.next hallowed, ?_, ?_⟩, ?_⟩
    · exact hopen'.trans hopen
    · rw [hended', htrailer']
      exact hasked
    · simp [a, Sending.next]

/-- What nghttp2 takes of a body is what was asked to be sent, in order.  It gets the EOF with or behind
the last byte and only if one was asked for, waits only while there is nothing to send, and can
always go on to the end. -/
structure BodySent (id : Int) (base : Nat) (o : Sending) : Prop where
  in_order : o.flow.confirmed <+: o.flow.wanted
  eof : o.flow.finished = true → o.flow.confirmed ++ o.flow.outstanding = o.flow.wanted ∧
    (o.ended = true ∨ o.trailer = true)
  waits : o.flow.outstanding = [] → o.flow.finished = false →
    ((o.connection.onReadData id).2 = none ↔
      o.flow.confirmed = o.flow.wanted ∧ o.ended = false ∧ o.trailer = false)
  offers : o.flow.outstanding = [] → o.flow.finished = false → ∀ bytes,
    (o.connection.onReadData id).2 = some (bytes, false) → bytes ≠ []
  one_trailer : ∀ rv, (o.connection.submitTrailer id rv).2 = true →
    o.trailer = false ∧ (o.connection.buffers id).any StreamData.eof = false
  completes : o.connection.closed = false → o.ended = true ∨ o.trailer = true →
    ∃ more o', Path (Guarded (Sending.next id) (Served id base)) o more o' ∧ o'.flow.Done

theorem body_sent {s : Http2Connection} {id : Int} {a : Act} (hsubmit : Submits s id a) {o : Sending}
    {acts : List Act}
    (hrun : Path (Guarded (Sending.next id) (Allowed id (base s id))) (start s id a) acts o) :
    BodySent id (base s id) o := by
  have hsound : Sound id (base s id) o := by
    refine Path.invariant (Sound id (base s id)) ?_ hrun (Sound.start hsubmit)
    intro o o' a ho ha
    rw [← ha.2]
    exact ho.next ha.1
  refine ⟨hsound.valid.confirmed_prefix, ?_, ?_, ?_, ?_, hsound.drains⟩
  · intro hfinished
    exact ⟨hsound.valid.all hfinished, hsound.reason hfinished⟩
  · intro hidle hmore
    rcases hsound.onReadData_cases hmore with
      ⟨_, _, hoffer, _, _, hsent, hended, htrailer⟩ | ⟨_, _, hoffer, _, hreason⟩ |
      ⟨front, rest, _, hoffer, hleft, hpending, _⟩
    · rw [hoffer]
      exact ⟨fun _ => ⟨hsent, hended, htrailer⟩, fun _ => rfl⟩
    · rw [hoffer]
      refine ⟨fun hnone => (by cases hnone), ?_⟩
      intro ⟨_, hended, htrailer⟩
      rcases hreason with hreason | hreason
      · rw [hended] at hreason
        cases hreason
      · rw [htrailer] at hreason
        cases hreason
    · rw [hoffer]
      refine ⟨fun hnone => (by cases hnone), ?_⟩
      intro ⟨hsent, _, _⟩
      -- bytes that wait in the queue are not confirmed
      rw [← hsent] at hpending
      have hnil : pending (front :: rest) = [] := List.append_right_eq_self.mp hpending
      rw [pending] at hnil
      exact absurd (List.append_eq_nil_iff.mp hnil).1 hleft
  · intro hidle hmore bytes hbytes
    rcases hsound.onReadData_cases hmore with
      ⟨_, _, hoffer, _⟩ | ⟨_, _, hoffer, _⟩ | ⟨front, rest, _, hoffer, hleft, _⟩
    · rw [hoffer] at hbytes
      cases hbytes
    · rw [hoffer] at hbytes
      cases hbytes
    · rw [hoffer] at hbytes
      rw [← (Prod.mk.inj (Option.some.inj hbytes)).1]
      exact hleft
  · intro rv haccepted
    rcases submitTrailer_cases o.connection id rv with heq | ⟨_, queue, _, hfind, heof, hmem, _, _⟩
    · rw [heq] at haccepted
      cases haccepted
    · refine ⟨?_, ?_⟩
      · cases hflag : o.trailer
        · rfl
        · exact absurd (hsound.trailer.mp hflag) hmem
      · unfold buffers
        rw [hfind]
        exact heof

instance (id : Int) (base : Nat) (o : Sending) (a : Act) : Decidable (Allowed id base o a) :=
  @instDecidableAnd _ _ (inferInstanceAs (Decidable (a.Possible o.connection)))
    (match a with
    | .callback (.readData streamId) =>
        inferInstanceAs (Decidable
          (streamId = id → o.flow.outstanding = [] ∧ o.flow.finished = false))
    | .callback (.writeStreamDataOffset streamId offset len) =>
        inferInstanceAs (Decidable (streamId = id →
          offset = base + o.flow.confirmed.length ∧ len ≤ o.flow.outstanding.length))
    | .callback (.streamClose streamId _) => inferInstanceAs (Decidable (streamId ≠ id))
    | .submitRequest streamId | .submitResponse streamId | .resetStream streamId =>
        inferInstanceAs (Decidable (streamId ≠ id))
    | .callback (.streamOpen _) | .callback .recvSettings | .callback (.beginHeaders _)
    | .callback (.recvHeader _ _ _) | .callback (.endHeaders _) | .callback (.beginTrailers _)
    | .callback (.recvTrailer _ _ _) | .callback (.endTrailers _) | .callback (.recvData _ _)
    | .callback (.remoteEndStream _) | .callback (.localEndStream _)
    | .callback (.recvPingAck _ _) | .callback (.shutdown _ _) | .settle _ _ _ | .sendData _ _ _
    | .submitTrailer _ _ | .setLocalWindowSize _ _ | .terminateSession _ | .goaway _ | .nextEvent =>
        inferInstanceAs (Decidable True))

end Sending

end Http2Connection

end Http2
end WebTransport
