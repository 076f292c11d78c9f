import WebTransport.Quic.Retention

/-!
# Quic.EmptyWrites — entries of `stream_buffers_` without bytes

`send` takes an entry off `stream_buffers_` only when ngtcp2 reports bytes of it as taken.  An entry
with neither bytes nor a FIN has none to report: ngtcp2 accepts it, and it stays where it is.  As long
as no such entry is queued there is none to get stuck on.
-/

namespace WebTransport
namespace Quic

open QuicConnection

variable {N : Ngtcp2}

/-- Neither bytes nor a FIN. -/
def StreamData.isBlank (buf : StreamData) : Bool := buf.data.isEmpty && !buf.fin

/-- How many entries of a stream are blank. -/
def blanks (buffers : List StreamData) : Nat := buffers.countP StreamData.isBlank

namespace Happening

/-- ngtcp2 was offered a blank entry of the stream, and accepted it. -/
def acceptsBlank (streamId : Int) : Happening → Bool
  | .wrote id offered fin nwrite ndatalen =>
      id = streamId ∧ offered = [] ∧ fin = false ∧ ndatalen = 0 ∧ (0 ≤ nwrite ∨ nwrite = errWriteMore)
  | _ => false

end Happening

/-- In the calls between `s` and `s'` ngtcp2 accepted a blank entry of the stream. -/
def AcceptsBlank (streamId : Int) (s s' : QuicConnection N) : Prop :=
  ∃ more, s'.log = s.log ++ more ∧ ∃ happening ∈ more, happening.acceptsBlank streamId = true

/-- Of every stream of which a blank entry was accepted a blank entry was removed. -/
def BlanksLeave (s s' : QuicConnection N) : Prop :=
  ∀ streamId, AcceptsBlank streamId s s' → blanks (s'.buffers streamId) < blanks (s.buffers streamId)

/-! ## A blank entry that was accepted -/

/-- Nothing of the stream is offered. -/
def Untouched (streamId : Int) (s s' : QuicConnection N) : Prop :=
  s'.buffers streamId = s.buffers streamId ∧
    ∃ more, s'.log = s.log ++ more ∧ ∀ happening ∈ more, happening.acceptsBlank streamId = false

/-- No blank entry is accepted, or there are as many as before. -/
def Sticks (streamId : Int) (s s' : QuicConnection N) : Prop :=
  ∃ more, s'.log = s.log ++ more ∧
    ((∀ happening ∈ more, happening.acceptsBlank streamId = false) ∨
      blanks (s'.buffers streamId) = blanks (s.buffers streamId))

section Sticks

variable {streamId : Int} {s s' s'' : QuicConnection N}

theorem Untouched.same (hbuffers : s'.streamBuffers = s.streamBuffers) (hlog : s'.log = s.log) :
    Untouched streamId s s' := by
  refine ⟨?_, [], ?_, ?_⟩
  · simp only [buffers, hbuffers]
  · rw [hlog, List.append_nil]
  · simp

theorem Untouched.trans (h : Untouched streamId s s') (h' : Untouched streamId s' s'') :
    Untouched streamId s s'' := by
  rcases h with ⟨hbuffers, more, hlog, hmore⟩
  rcases h' with ⟨hbuffers', more', hlog', hmore'⟩
  refine ⟨hbuffers'.trans hbuffers, more ++ more', ?_, ?_⟩
  · rw [hlog', hlog, List.append_assoc]
  · intro happening hmem
    rcases List.mem_append.1 hmem with hmem | hmem
    · exact hmore happening hmem
    · exact hmore' happening hmem

theorem Untouched.sticks (h : Untouched streamId s s') (h' : Sticks streamId s' s'') :
    Sticks streamId s s'' := by
  rcases h with ⟨hbuffers, more, hlog, hmore⟩
  rcases h' with ⟨more', hlog', hcase⟩
  refine ⟨more ++ more', by rw [hlog', hlog, List.append_assoc], ?_⟩
  rcases hcase with hnone | hsame
  · left
    intro happening hmem
    rcases List.mem_append.1 hmem with hmem | hmem
    · exact hmore happening hmem
    · exact hnone happening hmem
  · right
    rw [hsame, hbuffers]

theorem Sticks.untouched (h : Sticks streamId s s') (h' : Untouched streamId s' s'') :
    Sticks streamId s s'' := by
  rcases h with ⟨more, hlog, hcase⟩
  rcases h' with ⟨hbuffers, more', hlog', hmore'⟩
  refine ⟨more ++ more', by rw [hlog', hlog, List.append_assoc], ?_⟩
  rcases hcase with hnone | hsame
  · left
    intro happening hmem
    rcases List.mem_append.1 hmem with hmem | hmem
    · exact hnone happening hmem
    · exact hmore' happening hmem
  · right
    rw [hbuffers, hsame]

theorem Sticks.of_untouched (h : Untouched streamId s s') : Sticks streamId s s' := by
  rcases h with ⟨-, more, hlog, hmore⟩
  exact ⟨more, hlog, Or.inl hmore⟩

/-- An accepted blank entry is still there. -/
theorem Sticks.blanks_eq (h : Sticks streamId s s') (haccepts : AcceptsBlank streamId s s') :
    blanks (s'.buffers streamId) = blanks (s.buffers streamId) := by
  rcases h with ⟨more, hlog, hcase⟩
  rcases haccepts with ⟨more', hlog', happening, hmem, haccept⟩
  have hmore : more' = more := List.append_cancel_left (hlog'.symm.trans hlog)
  rcases hcase with hnone | hsame
  · rw [hmore] at hmem
    have hfalse := hnone happening hmem
    rw [haccept] at hfalse
    cases hfalse
  · exact hsame

end Sticks

namespace QuicConnection

variable {streamId : Int}

theorem buffers_writeFront_self (s : QuicConnection N) (id : Int) (buf : StreamData)
    (rest : List StreamData) (more : Bool) (now : Nat) :
    let written := (s.writeFront id buf rest more now).2
    (s.writeFront id buf rest more now).1.buffers id =
      buffersAfter buf rest written.nwrite written.ndatalen := by
  simp [writeFront, record, buffers]

theorem log_writeFront (s : QuicConnection N) (id : Int) (buf : StreamData)
    (rest : List StreamData) (more : Bool) (now : Nat) :
    let written := (s.writeFront id buf rest more now).2
    (s.writeFront id buf rest more now).1.log =
      s.log ++ [.wrote id buf.data buf.fin written.nwrite written.ndatalen] := rfl

theorem writeFront_untouched (s : QuicConnection N) {id : Int} (hid : id ≠ streamId)
    (buf : StreamData) (rest : List StreamData) (more : Bool) (now : Nat) :
    Untouched streamId s (s.writeFront id buf rest more now).1 := by
  refine ⟨?_, _, log_writeFront s id buf rest more now, ?_⟩
  · simp only [writeFront, record, buffers]
    rw [OrdMap.find?_insert_ne _ _ (Ne.symm hid)]
  · simp [Happening.acceptsBlank, hid]

/-- Taking bytes of an entry does not change the number of blank ones. -/
theorem blanks_consumeFront {buf : StreamData} {rest : List StreamData} {ndatalen : Int}
    (hlen : ndatalen ≤ buf.data.length) :
    blanks (consumeFront buf rest ndatalen) = blanks (buf :: rest) := by
  simp only [consumeFront]
  split_ifs with hpos hleft
  · have hdata : buf.data ≠ [] := by
      intro hnone
      rw [hnone] at hlen
      simp only [List.length_nil] at hlen
      omega
    simp [blanks, StreamData.isBlank, hdata]
  · have hdata : buf.data ≠ [] := by
      intro hnone
      simp [hnone] at hleft
    simp only [blanks, StreamData.isBlank, List.countP_cons]
    simp [hdata, hleft]
  · rfl

theorem writeStream_sticks (hN : N.WritesWithin) (now fuel : Nat) (s : QuicConnection N)
    (moreUsed : Bool) : Sticks streamId s (writeStream streamId now fuel s moreUsed).1 := by
  induction fuel generalizing s moreUsed with
  | zero => exact Sticks.of_untouched (Untouched.same rfl rfl)
  | succ fuel ih =>
      simp only [writeStream]
      split
      · exact Sticks.of_untouched (Untouched.same rfl rfl)
      · rename_i buf rest hbuffers
        have hself := buffers_writeFront_self s streamId buf rest
          (!rest.isEmpty || !s.datagramQueue.isEmpty) now
        have hlog := log_writeFront s streamId buf rest
          (!rest.isEmpty || !s.datagramQueue.isEmpty) now
        have hlen : (s.writeFront streamId buf rest
            (!rest.isEmpty || !s.datagramQueue.isEmpty) now).2.ndatalen ≤ buf.data.length :=
          (hN rfl).1
        generalize s.writeFront streamId buf rest (!rest.isEmpty || !s.datagramQueue.isEmpty) now =
          result at hself hlog hlen
        rcases result with ⟨s₁, written⟩
        dsimp only at hself hlog hlen ⊢
        -- the loop ends with this write: either it was no blank entry, or that is left in front
        have hlast : Sticks streamId s s₁ := by
          refine ⟨_, hlog, ?_⟩
          by_cases haccept : (Happening.wrote streamId buf.data buf.fin written.nwrite
              written.ndatalen).acceptsBlank streamId = true
          · right
            simp only [Happening.acceptsBlank, decide_eq_true_eq] at haccept
            rcases haccept with ⟨-, hdata, hfin, hzero, hnwrite⟩
            have hkept : buffersAfter buf rest written.nwrite written.ndatalen = buf :: rest := by
              rcases hnwrite with hnonneg | hmore
              · simp [buffersAfter, Int.not_lt.2 hnonneg, consumeFront, hzero]
              · simp [buffersAfter, hmore, errWriteMore, consumeFront, hzero]
            rw [hself, hkept, hbuffers]
          · left
            simpa using haccept
        split_ifs with hcontinue
        · -- bytes were taken: not a blank entry, and the loop goes on
          have hcount : blanks (s₁.buffers streamId) = blanks (s.buffers streamId) := by
            have hafter : buffersAfter buf rest written.nwrite written.ndatalen =
                consumeFront buf rest written.ndatalen := by
              simp [buffersAfter, hcontinue.1, errWriteMore]
            rw [hself, hafter, blanks_consumeFront hlen, hbuffers]
          have hnot : (Happening.wrote streamId buf.data buf.fin written.nwrite
              written.ndatalen).acceptsBlank streamId = false := by
            have hne : written.ndatalen ≠ 0 := Int.ne_of_gt hcontinue.2
            simp [Happening.acceptsBlank, hne]
          rcases ih s₁ (moreUsed || (!rest.isEmpty || !s.datagramQueue.isEmpty)) with
            ⟨more, hmore, hcase⟩
          refine ⟨_, hmore.trans (by rw [hlog, List.append_assoc]), ?_⟩
          rcases hcase with hnone | hsame
          · left
            intro happening hmem
            rcases List.mem_append.1 hmem with hmem | hmem
            · rw [List.mem_singleton.1 hmem]
              exact hnot
            · exact hnone happening hmem
          · right
            exact hsame.trans hcount
        · exact hlast
        · exact hlast

theorem writeStream_untouched {id : Int} (hid : id ≠ streamId) (now fuel : Nat)
    (s : QuicConnection N) (moreUsed : Bool) :
    Untouched streamId s (writeStream id now fuel s moreUsed).1 := by
  induction fuel generalizing s moreUsed with
  | zero => exact Untouched.same rfl rfl
  | succ fuel ih =>
      simp only [writeStream]
      split
      · exact Untouched.same rfl rfl
      · rename_i buf rest hbuffers
        have hfront := writeFront_untouched s hid buf rest
          (!rest.isEmpty || !s.datagramQueue.isEmpty) now
        split_ifs
        · exact hfront.trans (ih _ _)
        · exact hfront.trans (Untouched.same rfl rfl)
        · exact hfront

theorem writeStreams_untouched {streamIds : List Int} (hids : streamId ∉ streamIds) (now : Nat)
    (s : QuicConnection N) (moreUsed : Bool) :
    Untouched streamId s (writeStreams now streamIds s moreUsed).1 := by
  induction streamIds generalizing s moreUsed with
  | nil => exact Untouched.same rfl rfl
  | cons id streamIds ih =>
      have hid : id ≠ streamId := fun heq => hids (by simp [heq])
      have hrest : streamId ∉ streamIds := fun hmem => hids (List.mem_cons_of_mem _ hmem)
      have hone := writeStream_untouched hid now (outstanding (s.buffers id)) s moreUsed
      simp only [writeStreams]
      split <;> rename_i heq <;> rw [heq] at hone
      · exact hone
      · exact hone.trans (ih hrest _ _)

/-- Each stream is visited once. -/
theorem writeStreams_sticks (hN : N.WritesWithin) {streamIds : List Int} (hnodup : streamIds.Nodup)
    (now : Nat) (s : QuicConnection N) (moreUsed : Bool) :
    Sticks streamId s (writeStreams now streamIds s moreUsed).1 := by
  induction streamIds generalizing s moreUsed with
  | nil => exact Sticks.of_untouched (Untouched.same rfl rfl)
  | cons id streamIds ih =>
      rcases List.nodup_cons.1 hnodup with ⟨hnot, hrest⟩
      by_cases hid : id = streamId
      · subst hid
        have hone := @writeStream_sticks N id hN now (outstanding (s.buffers id)) s moreUsed
        simp only [writeStreams]
        split <;> rename_i heq <;> rw [heq] at hone
        · exact hone
        · exact hone.untouched (writeStreams_untouched hnot now _ _)
      · have hone := writeStream_untouched hid now (outstanding (s.buffers id)) s moreUsed
        simp only [writeStreams]
        split <;> rename_i heq <;> rw [heq] at hone
        · exact Sticks.of_untouched hone
        · exact hone.sticks (ih hrest _ _)

theorem writeDatagrams_untouched (now : Nat) (datagrams : List Bytes) (s : QuicConnection N)
    (moreUsed : Bool) : Untouched streamId s (writeDatagrams now datagrams s moreUsed).1 := by
  induction datagrams generalizing s moreUsed with
  | nil => exact Untouched.same rfl rfl
  | cons datagram datagrams ih =>
      let popped : QuicConnection N :=
        { s with conn := (N.writevDatagram s.conn s.path datagram now).1,
                 datagramQueue := datagrams }
      have hpopped : Untouched streamId s popped := Untouched.same rfl rfl
      simp only [writeDatagrams]
      split_ifs <;> first | exact hpopped.trans (ih _ _) | exact Untouched.same rfl rfl

theorem sendData_sticks (hN : N.WritesWithin) (s : QuicConnection N) (now : Nat) :
    Sticks streamId s (s.sendData now).1 := by
  have hstart : Untouched streamId s { s with timestampNs := now } := Untouched.same rfl rfl
  have hstreams := hstart.sticks
    (writeStreams_sticks hN s.streamBuffers.keys_nodup now { s with timestampNs := now } false)
  simp only [sendData]
  split <;> rename_i heq <;> rw [heq] at hstreams
  · exact hstreams
  · rename_i s₁ moreUsed
    have hdatagrams :=
      hstreams.untouched (writeDatagrams_untouched now s₁.datagramQueue s₁ moreUsed)
    split <;> rename_i hdg <;> rw [hdg] at hdatagrams
    · exact hdatagrams
    · refine hdatagrams.untouched ?_
      simp only [finishSend]
      split_ifs <;> exact Untouched.same rfl rfl

theorem send_sticks (hN : N.WritesWithin) (s : QuicConnection N) (now : Nat) :
    Sticks streamId s (s.send now).1 := by
  simp only [send]
  split
  · apply Sticks.of_untouched
    simp only [sendClose]
    split_ifs <;> exact Untouched.same rfl rfl
  · split_ifs
    · exact Sticks.of_untouched (Untouched.same rfl rfl)
    · exact sendData_sticks hN s now

end QuicConnection

/-! ## Runs that queue no blank entry -/

/-- No entry is blank. -/
def Solid (s : QuicConnection N) : Prop :=
  ∀ streamId, ∀ buf ∈ s.buffers streamId, buf.isBlank = false

/-- Where there is no blank entry there comes none, and none is accepted. -/
def StaysSolid (s s' : QuicConnection N) : Prop :=
  Solid s → Solid s' ∧ ∃ more, s'.log = s.log ++ more ∧
    ∀ happening ∈ more, ∀ streamId, happening.acceptsBlank streamId = false

section StaysSolid

variable {s s' s'' : QuicConnection N}

theorem StaysSolid.trans (h : StaysSolid s s') (h' : StaysSolid s' s'') : StaysSolid s s'' := by
  intro hsolid
  rcases h hsolid with ⟨hmid, more, hlog, hmore⟩
  rcases h' hmid with ⟨hlast, more', hlog', hmore'⟩
  refine ⟨hlast, more ++ more', by rw [hlog', hlog, List.append_assoc], ?_⟩
  intro happening hmem
  rcases List.mem_append.1 hmem with hmem | hmem
  · exact hmore happening hmem
  · exact hmore' happening hmem

/-- One happening, and the entries of one stream replaced. -/
theorem StaysSolid.one {happening : Happening} (hlog : s'.log = s.log ++ [happening])
    (hsolid : Solid s → Solid s')
    (hblank : Solid s → ∀ streamId, happening.acceptsBlank streamId = false) : StaysSolid s s' := by
  intro hs
  refine ⟨hsolid hs, [happening], hlog, ?_⟩
  intro other hmem
  rw [List.mem_singleton.1 hmem]
  exact hblank hs

theorem Solid.insert (h : Solid s) {id : Int} {buffers : List StreamData}
    (hbuffers : ∀ buf ∈ buffers, buf.isBlank = false)
    (hs' : s'.streamBuffers = s.streamBuffers.insert id buffers) : Solid s' := by
  intro streamId buf hmem
  simp only [QuicConnection.buffers, hs', OrdMap.find?_insert] at hmem
  split_ifs at hmem with hid
  · exact hbuffers buf hmem
  · exact h streamId buf hmem

theorem Solid.erase (h : Solid s) {id : Int} (hs' : s'.streamBuffers = s.streamBuffers.erase id) :
    Solid s' := by
  intro streamId buf hmem
  simp only [QuicConnection.buffers, hs', OrdMap.find?_erase] at hmem
  split_ifs at hmem with hid
  · simp at hmem
  · exact h streamId buf hmem

theorem Solid.buffersAfter {buf : StreamData} {rest : List StreamData}
    (h : ∀ entry ∈ buf :: rest, entry.isBlank = false) (nwrite ndatalen : Int) :
    ∀ entry ∈ buffersAfter buf rest nwrite ndatalen, entry.isBlank = false := by
  have hconsume : ∀ entry ∈ consumeFront buf rest ndatalen, entry.isBlank = false := by
    simp only [consumeFront]
    split_ifs with hpos hleft
    · exact fun entry hmem => h entry (List.mem_cons_of_mem _ hmem)
    · intro entry hmem
      rcases List.mem_cons.1 hmem with rfl | hmem
      · simp only [StreamData.isBlank, Bool.and_eq_false_iff]
        exact Or.inl (by simpa using hleft)
      · exact h entry (List.mem_cons_of_mem _ hmem)
    · exact h
  simp only [QuicConnection.buffersAfter]
  split_ifs
  · exact hconsume
  · simp
  · exact h
  · exact hconsume

theorem evolves_staysSolid : Evolves (@StaysSolid N) where
  trans := StaysSolid.trans
  same := by
    intro s s' hbuffers _ _ hlog hsolid
    refine ⟨?_, [], by rw [hlog, List.append_nil], by simp⟩
    intro streamId
    simp only [QuicConnection.buffers, hbuffers]
    exact hsolid streamId
  resetBuffers := by
    intro s id
    have hlog : (s.resetBuffers id).log = s.log ++ [.opened id] := rfl
    refine StaysSolid.one hlog (fun hsolid => hsolid.insert (by simp) rfl) (fun _ _ => rfl)
  forgetStream := by
    intro s id
    have hlog : (s.forgetStream id).log = s.log ++ [.closed id] := rfl
    exact StaysSolid.one hlog (fun hsolid => hsolid.erase rfl) (fun _ _ => rfl)
  eraseBuffers := by
    intro s id
    have hlog : (s.eraseBuffers id).log = s.log ++ [.ended id] := rfl
    exact StaysSolid.one hlog (fun hsolid => hsolid.erase rfl) (fun _ _ => rfl)
  acked := by
    intro s id offset datalen
    have hsame : (s.ackedStreamDataOffsetCb id offset datalen).log = s.log ∧
        (s.ackedStreamDataOffsetCb id offset datalen).streamBuffers = s.streamBuffers := by
      unfold ackedStreamDataOffsetCb
      split <;> exact ⟨rfl, rfl⟩
    have hlog : ((s.ackedStreamDataOffsetCb id offset datalen).record
        (.acked id offset datalen)).log = s.log ++ [.acked id offset datalen] := by
      simp only [record, hsame.1]
    refine StaysSolid.one hlog ?_ (fun _ _ => rfl)
    intro hsolid streamId
    simp only [QuicConnection.buffers, record, hsame.2]
    exact hsolid streamId
  writeFront := by
    intro s id buf rest more now hbuffers
    refine StaysSolid.one (log_writeFront s id buf rest more now) ?_ ?_
    · intro hsolid
      have hentries := hsolid id
      rw [hbuffers] at hentries
      exact hsolid.insert (Solid.buffersAfter hentries _ _) rfl
    · -- what is offered is the first entry, which is not blank
      intro hsolid streamId
      have hfront : buf.isBlank = false := hsolid id buf (by rw [hbuffers]; simp)
      by_contra haccept
      simp only [Happening.acceptsBlank, Bool.not_eq_false, decide_eq_true_eq] at haccept
      rcases haccept with ⟨-, hdata, hfin, -, -⟩
      simp [StreamData.isBlank, hdata, hfin] at hfront

/-- The call queues bytes or a FIN, if it queues something. -/
def QuicConnection.Input.isSolid : Input → Bool
  | .sendStreamData _ data fin => !data.isEmpty || fin
  | _ => true

theorem sendStreamData_staysSolid (s : QuicConnection N) {id : Int} {data : Bytes} {fin : Bool}
    (h : (Input.sendStreamData id data fin).isSolid = true) :
    StaysSolid s (s.sendStreamData id data fin) := by
  by_cases hclosed : s.closed = true
  · simp only [sendStreamData, if_pos hclosed]
    exact evolves_staysSolid.refl s
  · have hlog : (s.sendStreamData id data fin).log = s.log ++ [.queued id ⟨data, fin⟩] := by
      simp only [sendStreamData, if_neg hclosed, record]
    refine StaysSolid.one hlog ?_ (fun _ _ => rfl)
    intro hsolid
    have hbuffers : (s.sendStreamData id data fin).streamBuffers =
        s.streamBuffers.insert id (s.buffers id ++ [⟨data, fin⟩]) := by
      simp only [sendStreamData, if_neg hclosed, record]
    refine hsolid.insert ?_ hbuffers
    intro buf hmem
    rcases List.mem_append.1 hmem with hmem | hmem
    · exact hsolid id buf hmem
    · rw [List.mem_singleton.1 hmem]
      cases hempty : data.isEmpty <;> cases hfin : fin <;>
        simp_all [StreamData.isBlank, Input.isSolid]

theorem run_solid {conn : N.Conn} {path : Ngtcp2Path N.Addr} {enableDatagram early : Bool}
    {turns : List (Turn N.Addr)}
    (hturns : Path Takes (create conn path enableDatagram early) turns s)
    (hsolid : ∀ turn ∈ turns, turn.input.isSolid = true) : Solid s := by
  let Inv : List (Turn N.Addr) → QuicConnection N → Prop := fun past s =>
    (∀ turn ∈ past, turn.input.isSolid = true) → Solid s
  have hinv : Inv ([] ++ turns) s := by
    refine Path.history Inv ?_ hturns [] (fun _ streamId buf hmem => ?_)
    · intro past a b turn hpast hturn hall
      have ha : Solid a := hpast fun turn hmem => hall turn (List.mem_append_left _ hmem)
      have hlast : turn.input.isSolid = true := hall turn (by simp)
      have hb : b = (a.step turn.now turn.input).1 := (congrArg Prod.fst hturn).symm
      rw [hb]
      refine (evolves_staysSolid.step a turn.now turn.input ?_ ha).1
      intro id data fin hinput
      rw [hinput] at hlast
      exact sendStreamData_staysSolid a hlast
    · simp [QuicConnection.buffers, create] at hmem
  exact hinv hsolid

end StaysSolid

/-- As long as no payload without bytes and without FIN is queued, no `send` of a run is stuck on an
accepted entry; and such an entry, once accepted, is in every case still there when `send` returns. -/
theorem blanks_leave_iff_none (hN : N.WritesWithin) (conn : N.Conn) (path : Ngtcp2Path N.Addr)
    (enableDatagram early : Bool) :
    (∀ (turns : List (Turn N.Addr)) (s : QuicConnection N),
      Path Takes (create conn path enableDatagram early) turns s →
      (∀ turn ∈ turns, turn.input.isSolid = true) → ∀ now, BlanksLeave s (s.send now).1) ∧
    ∀ (s : QuicConnection N) (now : Nat),
      BlanksLeave s (s.send now).1 ↔ ∀ streamId, ¬ AcceptsBlank streamId s (s.send now).1 := by
  constructor
  · intro turns s hturns hsolid now streamId haccepts
    rcases evolves_staysSolid.send s now (run_solid hturns hsolid) with ⟨-, more, hlog, hmore⟩
    rcases haccepts with ⟨more', hlog', happening, hmem, haccept⟩
    have hsame : more' = more := List.append_cancel_left (hlog'.symm.trans hlog)
    rw [hsame] at hmem
    rw [hmore happening hmem streamId] at haccept
    cases haccept
  · intro s now
    constructor
    · intro hleave streamId haccepts
      have hless := hleave streamId haccepts
      rw [(send_sticks hN s now).blanks_eq haccepts] at hless
      exact Nat.lt_irrefl _ hless
    · intro hnone streamId haccepts
      exact absurd haccepts (hnone streamId)

/-- Payloads with bytes, or with nothing but a FIN. -/
theorem blanks_leave_frugal :
    BlanksLeave frugalRun (frugalRun.send 6).1 := by
  have hturns := run_path (create 0 ⟨1, 2⟩ true true : QuicConnection frugal)
    [(1, .openStream true), (2, .sendStreamData 0 [1, 2, 3, 4, 5] true), (3, .send),
      (4, .receive ⟨[0, 0], [], 1, [], 2⟩), (5, .send)]
  exact (blanks_leave_iff_none frugal_writesWithin 0 ⟨1, 2⟩ true true).1 _ _ hturns (by decide) 6

/-- The first entry of stream 0 is blank, and two bytes are behind it. -/
def frugalStuck : QuicConnection frugal :=
  ((create 0 ⟨1, 2⟩ true true : QuicConnection frugal).run
    [(1, .openStream true), (2, .sendStreamData 0 [] false), (3, .sendStreamData 0 [1, 2] true)]).1

/-- The blank entry is accepted with a packet of its own, and it stays. -/
theorem blank_stays :
    ¬ ∀ (turns : List (Turn Nat)) (s : QuicConnection frugal),
      Path Takes (create 0 ⟨1, 2⟩ true true : QuicConnection frugal) turns s →
        ∀ now, BlanksLeave s (s.send now).1 := by
  intro hleave
  have hturns := run_path (create 0 ⟨1, 2⟩ true true : QuicConnection frugal)
    [(1, .openStream true), (2, .sendStreamData 0 [] false), (3, .sendStreamData 0 [1, 2] true)]
  have hless := hleave _ frugalStuck hturns 4 0
    ⟨[.wrote 0 [] false errWriteMore 0], rfl, .wrote 0 [] false errWriteMore 0, by simp, rfl⟩
  revert hless
  decide +kernel

end Quic
end WebTransport
