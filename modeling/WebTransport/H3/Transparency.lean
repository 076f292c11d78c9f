import WebTransport.H3.Lanes

/-!
# H3.Transparency — the HEADERS frame guard does not change the byte stream

For a client-initiated bidirectional stream that is not in `stream_info_`, `receive_stream_data`
passes the bytes on through the guard.  Whatever else the session object does in between:

* the bytes passed to nghttp3, then `parse_prefix`, then `held_data` are the bytes received;
* the FIN is passed at most once, with or behind the last byte;
* a stream whose header block is still being received gets nothing behind its HEADERS;
* once the header block is decoded nothing stays held.

The first three hold unless a FIN comes alone while the guard keeps bytes back: such a FIN passes
by the guard and overtakes them (`fin_overtakes`).
-/

namespace WebTransport
namespace H3

open Bindings

/-! ## A lane that lost nothing -/

namespace Lane

/-- The guard of the stream; a stream without one has a fresh guard. -/
def theGuard (l : Lane) : HeadersFrameGuard := l.guard.getD {}

/-- The lane with another guard. -/
def withGuard (l : Lane) (guard : HeadersFrameGuard) : Lane := { l with guard := some guard }

/-- The bytes of some reads. -/
def bytesOf (reads : List (Bytes × Bool × Bool)) : Bytes := reads.flatMap fun r => r.1

/-- The bytes passed to nghttp3. -/
def passed (l : Lane) : Bytes := bytesOf l.reads

@[simp] theorem bytesOf_append (reads reads' : List (Bytes × Bool × Bool)) :
    bytesOf (reads ++ reads') = bytesOf reads ++ bytesOf reads' := List.flatMap_append

@[simp] theorem bytesOf_singleton (r : Bytes × Bool × Bool) : bytesOf [r] = r.1 :=
  List.append_nil r.1

/-- No read brought a FIN. -/
def NoFin (reads : List (Bytes × Bool × Bool)) : Prop := ∀ r ∈ reads, r.2.1 = false

/-- The FIN is still to come or held with the last bytes, or it was passed with the last read and
nothing is kept back. -/
def FinKept (l : Lane) (fin : Bool) : Prop :=
  (NoFin l.reads ∧ l.theGuard.heldFin = fin ∧ (fin = true → l.theGuard.heldData ≠ [])) ∨
    (fin = true ∧ l.theGuard.heldFin = false ∧ l.theGuard.parked = [] ∧
      ∃ before last, l.reads = before ++ [last] ∧ last.2.1 = true ∧ NoFin before)

/-- A read that brought bytes while the header block was being received ended inside the leading
HEADERS. -/
def Bounded (reads : List (Bytes × Bool × Bool)) (received : Bytes) : Prop :=
  ∀ before data fin after, reads = before ++ (data, fin, true) :: after → data ≠ [] →
    ∀ total, leadingHeaders received = some total → (bytesOf before ++ data).length ≤ total

/-- Nothing of `received` was lost on the lane, nor its FIN. -/
structure Lossless (l : Lane) (received : Bytes) (fin : Bool) : Prop where
  follows : l.theGuard.Follows l.passed received fin
  fins : l.FinKept fin
  bounded : Bounded l.reads received
  refused : l.refused = false

/-- What the guard holds waits for the header block. -/
def HeldWaits (l : Lane) : Prop := l.theGuard.heldData ≠ [] → l.blocked = true

/-- The stream with what its guard held passed on. -/
structure Flushes (l l' : Lane) : Prop where
  held : l.theGuard.heldData ≠ []
  unblocked : l.blocked = false
  reads : l'.reads = l.reads ++ [(l.theGuard.heldData, l.theGuard.heldFin, false)]
  guard : l'.guard = some { l.theGuard with heldData := [], heldFin := false }
  refused : l'.refused = true → l.refused = true

variable {l l' l'' : Lane} {received : Bytes} {fin : Bool}

theorem theGuard_eq (h : l'.guard = l.guard) : l'.theGuard = l.theGuard := by
  unfold theGuard
  rw [h]

theorem Stays.blocked_eq (h : Stays False l l') : l'.blocked = l.blocked :=
  h.blocked.resolve_left id

theorem Stays.flushes {free : Prop} (h : Stays free l l') (hblocked : l'.blocked = l.blocked)
    (h' : Flushes l' l'') : Flushes l l'' := by
  have hguard := theGuard_eq h.guard
  refine ⟨?_, ?_, ?_, ?_, ?_⟩
  · rw [← hguard]
    exact h'.held
  · rw [← hblocked]
    exact h'.unblocked
  · rw [h'.reads, h.reads, hguard]
  · rw [h'.guard, hguard]
  · exact fun href => h.refused (h'.refused href)

theorem Flushes.stays {free : Prop} (h : Flushes l l') (h' : Stays free l' l'') : Flushes l l'' :=
  ⟨h.held, h.unblocked, h'.reads.trans h.reads, h'.guard.trans h.guard,
    fun href => h.refused (h'.refused href)⟩

theorem Flushes.heldData (h : Flushes l l') : l'.theGuard.heldData = [] := by
  unfold theGuard
  rw [h.guard]
  rfl

theorem eq_false_of_imp {a b : Bool} (h : b = true → a = true) (ha : a = false) : b = false := by
  cases b with
  | false => rfl
  | true => exact absurd (h rfl) (by simp [ha])

theorem Lossless.stays {free : Prop} (h : Lossless l received fin) (hstays : Stays free l l') :
    Lossless l' received fin := by
  have hguard := theGuard_eq hstays.guard
  refine ⟨?_, ?_, ?_, ?_⟩
  · unfold passed
    rw [hguard, hstays.reads]
    exact h.follows
  · unfold FinKept
    rw [hguard, hstays.reads]
    exact h.fins
  · rw [hstays.reads]
    exact h.bounded
  · exact eq_false_of_imp hstays.refused h.refused

/-! ### One more read -/

/-- One more read keeps the bound if it does. -/
theorem Bounded.append {reads : List (Bytes × Bool × Bool)} (h : Bounded reads received)
    {data : Bytes} {blocked : Bool} (hlast : blocked = true → data ≠ [] →
      ∀ total, leadingHeaders received = some total → (bytesOf reads ++ data).length ≤ total) :
    Bounded (reads ++ [(data, fin, blocked)]) received := by
  intro before data' fin' after heq hdata total htotal
  rcases List.eq_nil_or_concat after with hnil | ⟨after', last, hconcat⟩
  · -- the new read
    subst hnil
    have hparts := List.append_inj' heq rfl
    rcases hparts with ⟨hbefore, hread⟩
    simp only [List.cons.injEq, Prod.mk.injEq, and_true] at hread
    rcases hread with ⟨rfl, rfl, rfl⟩
    rw [← hbefore]
    exact hlast rfl hdata total htotal
  · -- an earlier one
    subst hconcat
    have hsplit : reads ++ [(data, fin, blocked)] =
        (before ++ (data', fin', true) :: after') ++ [last] := by
      rw [heq]
      simp
    have hparts := List.append_inj' hsplit rfl
    exact h before data' fin' after' hparts.1 hdata total htotal

/-- New bytes behind the received ones do not change where a HEADERS frame ends that was already
passed on. -/
theorem Bounded.extend {reads : List (Bytes × Bool × Bool)} (h : Bounded reads received)
    {guard : HeadersFrameGuard} (hfollows : guard.Follows (bytesOf reads) received false)
    (data : Bytes) : Bounded reads (received ++ data) := by
  intro before data' fin' after heq hdata total htotal
  by_cases hnone : tryParseH3FrameHeader received = none
  · -- Without a frame header nothing was passed on.
    exfalso
    have hempty : bytesOf reads = [] := by
      cases hfollows with
      | unread hparsed hheader hfront hheld hpassed => exact hpassed
      | cutOff hfin hparsed hheader hfront hheld hpassed => exact absurd hfin Bool.false_ne_true
      | other hparsed hheaders hheader hleading hfront hheld hpassed => exact absurd hnone hheader
      | headers hparsed hheaders hleading hfront hbytes hforwarded hheld =>
          simp only [leadingHeaders, hnone] at hleading
          cases hleading
    rw [heq] at hempty
    simp only [bytesOf, List.flatMap_append, List.flatMap_cons, List.append_eq_nil_iff] at hempty
    exact hdata hempty.2.1
  · rw [leadingHeaders_append data hnone] at htotal
    exact h before data' fin' after heq hdata total htotal

theorem NoFin.append {reads : List (Bytes × Bool × Bool)} (h : NoFin reads) {data : Bytes}
    {blocked : Bool} : NoFin (reads ++ [(data, false, blocked)]) := by
  intro r hr
  rcases List.mem_append.1 hr with hold | hnew
  · exact h r hold
  · rw [List.mem_singleton.1 hnew]

/-- Nothing held, as long as the FIN is to come. -/
theorem FinKept.open (h : l.FinKept false) : NoFin l.reads ∧ l.theGuard.heldFin = false := by
  rcases h with ⟨hreads, hheld, _⟩ | ⟨hfin, _⟩
  · exact ⟨hreads, hheld⟩
  · exact absurd hfin Bool.false_ne_true

theorem Lossless.flushes (h : Lossless l received fin) (hflush : Flushes l l') :
    Lossless l' received fin := by
  have hguard : l'.theGuard = { l.theGuard with heldData := [], heldFin := false } := by
    unfold theGuard
    rw [hflush.guard]
    rfl
  have hfollows := h.follows.flush hflush.held
  refine ⟨?_, ?_, ?_, ?_⟩
  · unfold passed
    rw [hguard, hflush.reads, bytesOf_append, bytesOf_singleton]
    exact hfollows
  · -- The FIN goes with the held bytes; it was not passed before them.
    have hparked : l'.theGuard.parked = [] := by
      unfold HeadersFrameGuard.parked
      rw [hguard]
      change l.theGuard.parsePrefix ++ [] = []
      cases h.follows with
      | unread hparsed hheader hfront hheld hpassed => exact absurd hheld hflush.held
      | cutOff hfin hparsed hheader hfront hheld hpassed => exact absurd hheld hflush.held
      | other hparsed hheaders hheader hleading hfront hheld hpassed =>
          exact absurd hheld hflush.held
      | headers hparsed hheaders hleading hfront hbytes hforwarded hheld => simp [hfront]
    rcases h.fins with ⟨hreads, hheldFin, _⟩ | ⟨_, _, hnothing, _⟩
    · cases fin with
      | false =>
          left
          rw [hflush.reads, hguard, hheldFin]
          exact ⟨hreads.append, rfl, fun hfin => absurd hfin Bool.false_ne_true⟩
      | true =>
          right
          refine ⟨rfl, ?_, hparked, l.reads, _, hflush.reads, hheldFin, hreads⟩
          rw [hguard]
    · exact absurd (List.append_eq_nil_iff.1 hnothing).2 hflush.held
  · rw [hflush.reads]
    refine h.bounded.append ?_
    intro hblocked
    exact absurd hblocked Bool.false_ne_true
  · exact eq_false_of_imp hflush.refused h.refused

/-- nghttp3 gets bytes of the stream. -/
structure Passes (data : Bytes) (fin : Bool) (l l' : Lane) : Prop where
  reads : l'.reads = l.reads ++ [(data, fin, l.blocked)]
  guard : l'.guard = l.guard
  refused : l'.refused = true → l.refused = true

theorem Passes.stays {free : Prop} {data : Bytes} (h : Passes data fin l l')
    (h' : Stays free l' l'') : Passes data fin l l'' :=
  ⟨h'.reads.trans h.reads, h'.guard.trans h.guard, fun href => h.refused (h'.refused href)⟩

/-- What the guard held goes to nghttp3. -/
theorem Passes.flushes (h : Passes l.theGuard.heldData l.theGuard.heldFin
      (l.withGuard { l.theGuard with heldData := [], heldFin := false }) l')
    (hheld : l.theGuard.heldData ≠ []) (hunblocked : l.blocked = false) : Flushes l l' := by
  refine ⟨hheld, hunblocked, ?_, h.guard, h.refused⟩
  have hreads : l'.reads = l.reads ++ [(l.theGuard.heldData, l.theGuard.heldFin, l.blocked)] :=
    h.reads
  rw [hreads, hunblocked]

/-- A call without bytes, with the FIN only when nothing is kept back. -/
theorem Lossless.passesEmpty (h : Lossless l received false) (hpasses : Passes [] fin l l')
    (hparked : fin = true → l.theGuard.parked = []) : Lossless l' received fin := by
  have hguard := theGuard_eq hpasses.guard
  rcases h.fins.open with ⟨hreads, hheldFin⟩
  refine ⟨?_, ?_, ?_, ?_⟩
  · unfold passed
    rw [hguard, hpasses.reads, bytesOf_append, bytesOf_singleton, List.append_nil]
    exact h.follows.finished fin
  · cases fin with
    | false =>
        left
        rw [hpasses.reads, hguard]
        exact ⟨hreads.append, hheldFin, fun hfin => absurd hfin Bool.false_ne_true⟩
    | true =>
        right
        rw [hguard]
        exact ⟨rfl, hheldFin, hparked rfl, l.reads, _, hpasses.reads, rfl, hreads⟩
  · rw [hpasses.reads]
    refine h.bounded.append ?_
    intro _ hne
    exact absurd rfl hne
  · exact eq_false_of_imp hpasses.refused h.refused

/-- The guard kept the new bytes back. -/
theorem Lossless.keeps (h : Lossless l received false) {guard : HeadersFrameGuard} {data : Bytes}
    (hfollows : guard.Follows l.passed (received ++ data) fin) (hheldFin : guard.heldFin = fin)
    (hheld : fin = true → guard.heldData ≠ []) :
    Lossless (l.withGuard guard) (received ++ data) fin :=
  ⟨hfollows, .inl ⟨h.fins.open.1, hheldFin, hheld⟩, h.bounded.extend h.follows data, h.refused⟩

/-- The guard passed bytes on. -/
theorem Lossless.forwards (h : Lossless l received false) {guard : HeadersFrameGuard}
    {data bytes : Bytes} {forwardFin : Bool}
    (hfollows : guard.Follows (l.passed ++ bytes) (received ++ data) fin)
    (hbound : l.blocked = true → ∀ total, leadingHeaders (received ++ data) = some total →
      (l.passed ++ bytes).length ≤ total)
    (hfin : (forwardFin = fin ∧ guard.heldFin = false ∧ (fin = true → guard.parked = [])) ∨
      (forwardFin = false ∧ guard.heldFin = fin ∧ guard.heldData ≠ []))
    (hpasses : Passes bytes forwardFin (l.withGuard guard) l') :
    Lossless l' (received ++ data) fin := by
  have hguard : l'.theGuard = guard := by
    unfold theGuard
    rw [hpasses.guard]
    rfl
  have hreads : l'.reads = l.reads ++ [(bytes, forwardFin, l.blocked)] := hpasses.reads
  have hnoFin := h.fins.open.1
  refine ⟨?_, ?_, ?_, ?_⟩
  · unfold passed
    rw [hguard, hreads, bytesOf_append, bytesOf_singleton]
    exact hfollows
  · rcases hfin with ⟨hsame, hheldFin, hparked⟩ | ⟨hsame, hheldFin, hheld⟩
    · subst hsame
      cases forwardFin with
      | false =>
          left
          rw [hreads, hguard]
          exact ⟨hnoFin.append, hheldFin, fun hfin => absurd hfin Bool.false_ne_true⟩
      | true =>
          right
          rw [hguard]
          exact ⟨rfl, hheldFin, hparked rfl, l.reads, _, hreads, rfl, hnoFin⟩
    · left
      rw [hreads, hguard, hsame]
      exact ⟨hnoFin.append, hheldFin, fun _ => hheld⟩
  · rw [hreads]
    refine (h.bounded.extend h.follows data).append ?_
    intro hblocked _
    exact hbound hblocked
  · exact eq_false_of_imp hpasses.refused h.refused

end Lane

/-! ## The calls -/

namespace H3Session

variable {N : Nghttp3} {streamId : Int} {s s' : H3Session N}

/-- A read of the stream itself. -/
theorem readFromNghttp3_passes (hN : N.HeadersInPlace) (s : H3Session N)
    (hrefused : (s.lane streamId).refused = false) (data : Bytes) (fin : Bool) :
    Grows streamId s (s.readFromNghttp3 streamId data fin).1 ∧
      ((s.readFromNghttp3 streamId data fin).1.isCut streamId = true ∨
        Lane.Passes data fin (s.lane streamId)
          ((s.readFromNghttp3 streamId data fin).1.lane streamId)) := by
  let s₁ : H3Session N :=
    { s.note (.readStream2 streamId data fin (N.readStream2 s.conn streamId data fin).2.1
        (N.readStream2 s.conn streamId data fin).2.2) with
      conn := (N.readStream2 s.conn streamId data fin).1 }
  have hgrows : Grows streamId s s₁ := by
    have hnote : Grows streamId s _ := Aside.grows_note s (.readStream2 streamId data fin
      (N.readStream2 s.conn streamId data fin).2.1 (N.readStream2 s.conn streamId data fin).2.2)
    exact ⟨hnote.cut, hnote.closed, fun htidy =>
      ⟨htidy.control, htidy.encoder, htidy.decoder, htidy.guards⟩⟩
  have hpasses : Lane.Passes data fin (s.lane streamId) (s₁.lane streamId) := by
    refine ⟨?_, rfl, fun h => h⟩
    simp [s₁, H3Session.lane, H3Session.note, readOf]
  have hfired : Aside streamId True s₁ (s.callReadStream2 streamId data fin).1 :=
    Aside.foldl_readCallbacks hN s.conn streamId data fin (fun _ => trivial) s₁
  have hafter : Aside streamId True s₁ (s.readFromNghttp3 streamId data fin).1 := by
    have hnotRejected : streamId ∉ s.rejectedPreAcceptStreamIds := of_decide_eq_false hrefused
    unfold H3Session.readFromNghttp3
    dsimp only
    rw [if_neg hnotRejected]
    exact hfired.trans (Aside.afterRead _ _ _ _ _)
  refine ⟨hgrows.trans hafter.toGrows, ?_⟩
  rcases hafter.lane with hcut | hstays
  · exact .inl hcut
  · exact .inr (hpasses.stays hstays)

theorem grows_readFromNghttp3 (hN : N.HeadersInPlace) (s : H3Session N) (id : Int) (data : Bytes)
    (fin : Bool) : Grows streamId s (s.readFromNghttp3 id data fin).1 := by
  by_cases hsame : id = streamId
  · subst hsame
    by_cases hrejected : id ∈ s.rejectedPreAcceptStreamIds
    · unfold H3Session.readFromNghttp3
      rw [if_pos hrejected]
      split_ifs
      · exact ⟨fun h => h, fun h => h, fun htidy =>
          ⟨htidy.control, htidy.encoder, htidy.decoder, htidy.guards⟩⟩
      · exact .refl s
    · exact (readFromNghttp3_passes hN s (decide_eq_false hrejected) data fin).1
  · have haside : Aside streamId True s (s.readFromNghttp3 id data fin).1 :=
      Aside.readFromNghttp3 hN s hsame data fin fun _ => trivial
    exact haside.toGrows

theorem grows_processAfterRead (s : H3Session N) (id : Int) (fin : Bool) :
    Grows streamId s (s.processAfterRead id fin) := by
  have haside : Aside streamId True s (s.processAfterRead id fin) :=
    Aside.processAfterRead s id fin
  exact haside.toGrows

theorem grows_insertGuard (s : H3Session N) {id : Int} (hbidi : id % 4 = 0)
    (guard : HeadersFrameGuard) :
    Grows streamId s { s with headersGuards := s.headersGuards.insert id guard } := by
  refine ⟨fun h => h, fun h => h, ?_⟩
  intro htidy
  refine ⟨htidy.control, htidy.encoder, htidy.decoder, ?_⟩
  intro id' hid'
  have hne : id' ≠ id := by
    rintro rfl
    exact hid' hbidi
  exact (OrdMap.find?_insert_ne _ _ hne).trans (htidy.guards id' hid')

theorem lane_insertGuard (s : H3Session N) (guard : HeadersFrameGuard) :
    ({ s with headersGuards := s.headersGuards.insert streamId guard } : H3Session N).lane streamId =
      (s.lane streamId).withGuard guard := by
  simp [H3Session.lane, Lane.withGuard]

/-- The guard is updated, nghttp3 gets bytes, and `process_after_read` runs. -/
theorem guarded_passes (hN : N.HeadersInPlace) (s : H3Session N) (hbidi : streamId % 4 = 0)
    (hrefused : (s.lane streamId).refused = false) (guard : HeadersFrameGuard) (data : Bytes)
    (fin : Bool) :
    let s₁ : H3Session N := { s with headersGuards := s.headersGuards.insert streamId guard }
    let s₂ := (s₁.readFromNghttp3 streamId data fin).1.processAfterRead streamId fin
    Grows streamId s s₂ ∧ (s₂.isCut streamId = true ∨
      Lane.Passes data fin ((s.lane streamId).withGuard guard) (s₂.lane streamId)) := by
  intro s₁ s₂
  have hlane : s₁.lane streamId = (s.lane streamId).withGuard guard := lane_insertGuard s guard
  have hread := readFromNghttp3_passes hN s₁ (by rw [hlane]; exact hrefused) data fin
  have hafter : Aside streamId False (s₁.readFromNghttp3 streamId data fin).1 s₂ :=
    Aside.processAfterRead _ streamId fin
  refine ⟨((grows_insertGuard s hbidi guard).trans hread.1).trans hafter.toGrows, ?_⟩
  rcases hafter.lane with hcut | hstays
  · exact .inl hcut
  · rcases hread.2 with hcut | hpasses
    · exact .inl (hafter.cut hcut)
    · rw [hlane] at hpasses
      exact .inr (hpasses.stays hstays)

/-- What the flush did to a stream. -/
inductive FlushOutcome (streamId : Int) (s s' : H3Session N) : Prop
  | cut (h : s'.isCut streamId = true)
  | kept (h : Lane.Stays False (s.lane streamId) (s'.lane streamId))
  | flushed (h : Lane.Flushes (s.lane streamId) (s'.lane streamId))

theorem FlushOutcome.after {s'' : H3Session N} (h : Aside streamId False s s')
    (h' : FlushOutcome streamId s' s'') (hcut : s'.isCut streamId = true → s''.isCut streamId = true) :
    FlushOutcome streamId s s'' := by
  rcases h.lane with hgone | hstays
  · exact .cut (hcut hgone)
  · cases h' with
    | cut hgone => exact .cut hgone
    | kept hstays' => exact .kept (hstays.trans hstays')
    | flushed hflushes => exact .flushed (hstays.flushes hstays.blocked_eq hflushes)

/-- The flush reaches the stream: what it holds goes to nghttp3, unless the header block is still
being received or the connection failed. -/
theorem flushHeld_outcome (hN : N.HeadersInPlace) (s : H3Session N) (hbidi : streamId % 4 = 0)
    (hrefused : (s.lane streamId).refused = false) :
    FlushOutcome streamId s (s.flushHeld streamId) ∧
      (s.closed = false → (s.lane streamId).theGuard.heldData ≠ [] →
        (s.lane streamId).blocked = false → (s.flushHeld streamId).isCut streamId = true ∨
          Lane.Flushes (s.lane streamId) ((s.flushHeld streamId).lane streamId)) := by
  have hkept : FlushOutcome streamId s s := .kept (.refl False _)
  unfold H3Session.flushHeld
  by_cases hclosed : s.closed = true
  · rw [if_pos hclosed]
    refine ⟨hkept, ?_⟩
    intro hopen
    rw [hclosed] at hopen
    cases hopen
  rw [if_neg hclosed]
  cases hguard : s.headersGuards.find? streamId with
  | none =>
      refine ⟨hkept, ?_⟩
      intro _ hheld
      exact absurd (by simp [Lane.theGuard, H3Session.lane, hguard]) hheld
  | some guard =>
      have htheGuard : (s.lane streamId).theGuard = guard := by
        simp [Lane.theGuard, H3Session.lane, hguard]
      dsimp only
      by_cases hempty : guard.heldData = []
      · rw [if_pos hempty]
        refine ⟨hkept, ?_⟩
        intro _ hheld
        rw [htheGuard] at hheld
        exact absurd hempty hheld
      rw [if_neg hempty]
      by_cases hpending : (s.pendingHeaders.find? streamId).isSome = true
      · rw [if_pos hpending]
        refine ⟨hkept, ?_⟩
        intro _ _ hunblocked
        have hblocked : (s.lane streamId).blocked = true := hpending
        rw [hblocked] at hunblocked
        cases hunblocked
      rw [if_neg hpending]
      -- The guard is emptied, then nghttp3 gets what it held.
      have hunblocked : (s.lane streamId).blocked = false := Bool.eq_false_iff.2 hpending
      rcases guarded_passes hN s hbidi hrefused { guard with heldData := [], heldFin := false }
        guard.heldData guard.heldFin with ⟨_, hcut | hpasses⟩
      · exact ⟨.cut hcut, fun _ _ _ => .inl hcut⟩
      · subst htheGuard
        have hflushes := hpasses.flushes hempty hunblocked
        exact ⟨.flushed hflushes, fun _ _ _ => .inr hflushes⟩

theorem grows_flushHeld (hN : N.HeadersInPlace) {s : H3Session N} (htidy : s.Tidy) (id : Int) :
    Grows streamId s (s.flushHeld id) := by
  unfold H3Session.flushHeld
  cases hguard : s.headersGuards.find? id with
  | none =>
      dsimp only
      split_ifs
      · exact .refl s
      · exact .refl s
  | some guard =>
      have hbidi : id % 4 = 0 := by
        by_contra hmod
        rw [htidy.guards id hmod] at hguard
        cases hguard
      dsimp only
      split_ifs
      · exact .refl s
      · exact .refl s
      · exact .refl s
      · refine Grows.trans ?_ (grows_processAfterRead _ id guard.heldFin)
        refine Grows.trans ?_ (grows_readFromNghttp3 hN _ id guard.heldData guard.heldFin)
        exact grows_insertGuard s hbidi _

theorem grows_foldl_flushHeld (hN : N.HeadersInPlace) (targets : List Int)
    {s : H3Session N} (htidy : s.Tidy) : Grows streamId s (targets.foldl flushHeld s) := by
  induction targets generalizing s with
  | nil => exact .refl s
  | cons id rest ih =>
      have hone : Grows streamId s (s.flushHeld id) := grows_flushHeld hN htidy id
      exact hone.trans (ih (hone.tidy htidy))

/-- The walk of `flush_unblocked_held_data` over some streams. -/
theorem foldl_flushHeld (hN : N.HeadersInPlace) (hbidi : streamId % 4 = 0) (targets : List Int)
    (s : H3Session N) (htidy : s.Tidy) (hrefused : (s.lane streamId).refused = false) :
    FlushOutcome streamId s (targets.foldl flushHeld s) ∧
      (streamId ∈ targets → (targets.foldl flushHeld s).closed = false →
        (s.lane streamId).theGuard.heldData ≠ [] → (s.lane streamId).blocked = false →
        (targets.foldl flushHeld s).isCut streamId = true ∨
          Lane.Flushes (s.lane streamId) ((targets.foldl flushHeld s).lane streamId)) := by
  induction targets generalizing s with
  | nil =>
      refine ⟨.kept (.refl False _), ?_⟩
      intro hmem
      exact absurd hmem List.not_mem_nil
  | cons id rest ih =>
      -- A stream may stand in the list more than once; what is held goes the first time.
      have hone : Grows streamId s (s.flushHeld id) := grows_flushHeld hN htidy id
      have hrest : Grows streamId (s.flushHeld id) (rest.foldl flushHeld (s.flushHeld id)) :=
        grows_foldl_flushHeld hN rest (hone.tidy htidy)
      rw [List.foldl_cons]
      by_cases hsame : id = streamId
      · subst hsame
        rcases flushHeld_outcome hN s hbidi hrefused with ⟨houtcome, hreached⟩
        cases houtcome with
        | cut hcut => exact ⟨.cut (hrest.cut hcut), fun _ _ _ _ => .inl (hrest.cut hcut)⟩
        | kept hstays =>
            have hrefused' := Lane.eq_false_of_imp hstays.refused hrefused
            rcases ih (s.flushHeld id) (hone.tidy htidy) hrefused' with ⟨houtcome, _⟩
            refine ⟨houtcome.after ⟨hone, .inr hstays⟩ hrest.cut, ?_⟩
            intro _ hopen hheld hunblocked
            have hopen' : s.closed = false :=
              Lane.eq_false_of_imp (fun h => hrest.closed (hone.closed h)) hopen
            rcases hreached hopen' hheld hunblocked with hcut | hflushes
            · exact .inl (hrest.cut hcut)
            · -- Held bytes do not both stay and go.
              exfalso
              have hgone := hflushes.heldData
              rw [Lane.theGuard_eq hstays.guard] at hgone
              exact hheld hgone
        | flushed hflushes =>
            have hrefused' := Lane.eq_false_of_imp hflushes.refused hrefused
            rcases ih (s.flushHeld id) (hone.tidy htidy) hrefused' with ⟨houtcome, _⟩
            cases houtcome with
            | cut hcut => exact ⟨.cut hcut, fun _ _ _ _ => .inl hcut⟩
            | kept hstays =>
                exact ⟨.flushed (hflushes.stays hstays), fun _ _ _ _ => .inr (hflushes.stays hstays)⟩
            | flushed hagain => exact absurd hflushes.heldData hagain.held
      · have haside : Aside streamId False s (s.flushHeld id) := Aside.flushHeld hN htidy hsame
        rcases haside.lane with hcut | hstays
        · exact ⟨.cut (hrest.cut hcut), fun _ _ _ _ => .inl (hrest.cut hcut)⟩
        · have hrefused' := Lane.eq_false_of_imp hstays.refused hrefused
          rcases ih (s.flushHeld id) (haside.tidy htidy) hrefused' with ⟨houtcome, hreached⟩
          refine ⟨houtcome.after haside hrest.cut, ?_⟩
          intro hmem hopen hheld hunblocked
          have hmem' : streamId ∈ rest := by
            rcases List.mem_cons.1 hmem with heq | hlater
            · exact absurd heq.symm hsame
            · exact hlater
          rw [← Lane.theGuard_eq hstays.guard] at hheld
          rw [← hstays.blocked_eq] at hunblocked
          rcases hreached hmem' hopen hheld hunblocked with hcut | hflushes
          · exact .inl hcut
          · exact .inr (hstays.flushes hstays.blocked_eq hflushes)

/-- Behind `flush_unblocked_held_data` nothing is lost, and what is still held waits. -/
theorem flushUnblockedHeldData_lossless (hN : N.HeadersInPlace) {s : H3Session N} (htidy : s.Tidy)
    (hbidi : streamId % 4 = 0) {received : Bytes} {fin : Bool}
    (h : s.isCut streamId = true ∨ (s.lane streamId).Lossless received fin) :
    let s' := s.flushUnblockedHeldData
    s'.isCut streamId = true ∨ ((s'.lane streamId).Lossless received fin ∧
      (s'.closed = true ∨ (s'.lane streamId).HeldWaits)) := by
  intro s'
  let targets := s.headersGuards.keys.filter fun id =>
    (s.headersGuards.find? id).any HeadersFrameGuard.mayFlush && (s.pendingHeaders.find? id).isNone
  have hgrows : Grows streamId s s' := grows_foldl_flushHeld hN targets htidy
  rcases h with hcut | hlossless
  · exact .inl (hgrows.cut hcut)
  rcases foldl_flushHeld hN hbidi targets s htidy hlossless.refused with ⟨houtcome, hreached⟩
  cases houtcome with
  | cut hcut => exact .inl hcut
  | flushed hflushes =>
      refine .inr ⟨hlossless.flushes hflushes, .inr ?_⟩
      intro hheld
      exact absurd hflushes.heldData hheld
  | kept hstays =>
      by_cases hcut : s'.isCut streamId = true
      · exact .inl hcut
      refine .inr ⟨hlossless.stays hstays, ?_⟩
      by_cases hclosed : s'.closed = true
      · exact .inl hclosed
      · -- A stream that could be flushed was a target.
        right
        intro hheld
        have hheld' : (s.lane streamId).theGuard.heldData ≠ [] := by
          rw [← Lane.theGuard_eq hstays.guard]
          exact hheld
        by_contra hunblocked
        have hunblocked' : (s.lane streamId).blocked = false := by
          rw [← hstays.blocked_eq]
          exact Bool.eq_false_iff.2 hunblocked
        have hmem : streamId ∈ targets := by
          have hflush := hlossless.follows.mayFlush hheld'
          have hnone : (s.pendingHeaders.find? streamId).isNone = true := by
            simpa [H3Session.lane] using hunblocked'
          cases hguard : s.headersGuards.find? streamId with
          | none =>
              simp only [Lane.theGuard, H3Session.lane, hguard] at hheld'
              exact absurd rfl hheld'
          | some guard =>
              simp only [Lane.theGuard, H3Session.lane, hguard, Option.getD_some] at hflush
              refine List.mem_filter.2 ⟨(OrdMap.mem_keys_iff _ _).2 ⟨guard, hguard⟩, ?_⟩
              simp [hguard, hflush, hnone]
        rcases hreached hmem (Bool.eq_false_iff.2 hclosed) hheld' hunblocked' with hgone | hflushes
        · exact hcut hgone
        · exact hheld hflushes.heldData

/-! ### `receive_stream_data` -/

theorem grows_receiveStreamData (hN : N.HeadersInPlace) {s : H3Session N} (htidy : s.Tidy) (id : Int)
    (data : Bytes) (fin : Bool) : Grows streamId s (s.step (.receiveStreamData id data fin)) := by
  have hflush {t : H3Session N} (h : Grows streamId s t) :
      Grows streamId s t.flushUnblockedHeldData :=
    h.trans (grows_foldl_flushHeld hN _ (h.tidy htidy))
  simp only [step, receiveStreamData]
  split_ifs with hrange hclosed hbound hrejected hfin hbypass
  · exact .refl s
  · exact .refl s
  · exact .refl s
  · exact ⟨fun h => h, fun h => h, fun htidy =>
      ⟨htidy.control, htidy.encoder, htidy.decoder, htidy.guards⟩⟩
  · exact .refl s
  · simp only [receiveUnguarded]
    exact hflush ((grows_readFromNghttp3 hN s id data fin).trans (grows_processAfterRead _ id fin))
  · have hbidi : id % 4 = 0 := by
      unfold bypassGuard at hbypass
      simp only [Bool.or_eq_true, decide_eq_true_eq, not_or, not_not] at hbypass
      exact hbypass.1.2
    simp only [receiveGuarded]
    generalize ((s.headersGuards.find? id).getD {}).takeData
      (s.pendingHeaders.find? id).isSome data fin = taken
    have hguard : Grows streamId s
        { s with headersGuards := s.headersGuards.insert id taken.1 } := grows_insertGuard s hbidi _
    cases taken.2 with
    | park =>
        dsimp only
        exact hguard.trans (grows_processAfterRead _ id false)
    | hold =>
        dsimp only
        exact hflush (hguard.trans (grows_processAfterRead _ id fin))
    | forward bytes forwardFin =>
        dsimp only
        refine hflush (Grows.trans ?_ (grows_processAfterRead _ id forwardFin))
        split_ifs
        · exact hguard.trans (grows_readFromNghttp3 hN _ id bytes forwardFin)
        · exact hguard

/-- Nothing of the stream was lost, and what is held waits, until the session object closes the
stream. -/
def Sound (s : H3Session N) (streamId : Int) (received : Bytes) (fin : Bool) : Prop :=
  s.isCut streamId = true ∨ ((s.lane streamId).Lossless received fin ∧
    (s.closed = true ∨ (s.lane streamId).HeldWaits))

variable {received : Bytes} {fin : Bool}

theorem Sound.lossless (h : s.Sound streamId received fin) :
    s.isCut streamId = true ∨ (s.lane streamId).Lossless received fin := h.imp_right And.left

/-- Operations aside keep it. -/
theorem Sound.aside (h : s.Sound streamId received fin) (haside : Aside streamId False s s') :
    s'.Sound streamId received fin := by
  rcases haside.lane with hcut | hstays
  · exact .inl hcut
  · rcases h with hcut | ⟨hlossless, hwaits⟩
    · exact .inl (haside.cut hcut)
    · refine .inr ⟨hlossless.stays hstays, ?_⟩
      rcases hwaits with hclosed | hwaits
      · exact .inl (haside.closed hclosed)
      · right
        intro hheld
        rw [hstays.blocked_eq]
        apply hwaits
        rw [← Lane.theGuard_eq hstays.guard]
        exact hheld

theorem lossless_aside {free : Prop}
    (h : s.isCut streamId = true ∨ (s.lane streamId).Lossless received fin)
    (haside : Aside streamId free s s') :
    s'.isCut streamId = true ∨ (s'.lane streamId).Lossless received fin := by
  rcases haside.lane with hcut | hstays
  · exact .inl hcut
  · rcases h with hcut | hlossless
    · exact .inl (haside.cut hcut)
    · exact .inr (hlossless.stays hstays)

/-- Bytes of another stream. -/
theorem Sound.receiveOther (hN : N.HeadersInPlace) (h : s.Sound streamId received fin)
    (htidy : s.Tidy) (hbidi : streamId % 4 = 0) {id : Int} (hother : id ≠ streamId) (data : Bytes)
    (otherFin : Bool) :
    (s.step (.receiveStreamData id data otherFin)).Sound streamId received fin := by
  simp only [step, receiveStreamData]
  split_ifs with hrange hclosed hbound hrejected hfin hbypass
  · exact h
  · exact h
  · exact h
  · refine h.aside ⟨⟨fun h => h, fun h => h, fun htidy =>
      ⟨htidy.control, htidy.encoder, htidy.decoder, htidy.guards⟩⟩,
      .inr ⟨rfl, rfl, .inr rfl, ?_⟩⟩
    intro hrefused
    have hmem : streamId ∈ s.rejectedPreAcceptStreamIds.erase id := of_decide_eq_true hrefused
    exact decide_eq_true ((OrdSet.mem_erase _ _ _).1 hmem).2
  · exact h
  · have hread : Aside streamId True s
        ((s.readFromNghttp3 id data otherFin).1.processAfterRead id otherFin) :=
      (Aside.readFromNghttp3 hN s hother data otherFin fun _ => trivial).trans
        (Aside.processAfterRead _ id otherFin)
    simp only [receiveUnguarded]
    exact flushUnblockedHeldData_lossless hN (hread.tidy htidy) hbidi
      (lossless_aside h.lossless hread)
  · have hmod : id % 4 = 0 := by
      unfold bypassGuard at hbypass
      simp only [Bool.or_eq_true, decide_eq_true_eq, not_or, not_not] at hbypass
      exact hbypass.1.2
    simp only [receiveGuarded]
    generalize ((s.headersGuards.find? id).getD {}).takeData
      (s.pendingHeaders.find? id).isSome data otherFin = taken
    have hguard : Aside streamId False s
        { s with headersGuards := s.headersGuards.insert id taken.1 } :=
      Aside.insertGuard s taken.1 hother hmod
    cases taken.2 with
    | park =>
        dsimp only
        exact h.aside (hguard.trans (Aside.processAfterRead _ id false))
    | hold =>
        dsimp only
        have hafter := hguard.trans (Aside.processAfterRead _ id otherFin)
        exact flushUnblockedHeldData_lossless hN (hafter.tidy htidy) hbidi
          (lossless_aside h.lossless hafter)
    | forward bytes forwardFin =>
        dsimp only
        have hread : Aside streamId False s
            (if bytes ≠ [] ∨ forwardFin = true then
              ({ s with headersGuards := s.headersGuards.insert id taken.1
                : H3Session N}).readFromNghttp3 id bytes forwardFin
            else ({ s with headersGuards := s.headersGuards.insert id taken.1 }, 0)).1 := by
          split_ifs
          · exact hguard.trans (Aside.readFromNghttp3 hN _ hother bytes forwardFin
              fun hne => absurd hmod hne)
          · exact hguard
        have hafter := hread.trans (Aside.processAfterRead _ id forwardFin)
        exact flushUnblockedHeldData_lossless hN (hafter.tidy htidy) hbidi
          (lossless_aside h.lossless hafter)

/-- Bytes of the stream itself, through the guard. -/
theorem receiveGuarded_sound (hN : N.HeadersInPlace) {s : H3Session N}
    (hlossless : (s.lane streamId).Lossless received false) (htidy : s.Tidy)
    (hbidi : streamId % 4 = 0) {data : Bytes}
    (htakes : HeadersFrameGuard.Takes (s.lane streamId).passed received data
      (s.lane streamId).blocked fin
      ((s.lane streamId).theGuard.takeData (s.lane streamId).blocked data fin)) :
    (s.receiveGuarded streamId data fin).1.Sound streamId (received ++ data) fin := by
  unfold H3Session.receiveGuarded
  dsimp only
  change HeadersFrameGuard.Takes _ _ _ _ _ (((s.headersGuards.find? streamId).getD {}).takeData
    (s.pendingHeaders.find? streamId).isSome data fin) at htakes
  generalize ((s.headersGuards.find? streamId).getD {}).takeData
    (s.pendingHeaders.find? streamId).isSome data fin = taken at htakes ⊢
  rcases taken with ⟨guard, verdict⟩
  let s₁ : H3Session N := { s with headersGuards := s.headersGuards.insert streamId guard }
  have hlane : s₁.lane streamId = (s.lane streamId).withGuard guard := lane_insertGuard s guard
  have hgrows : Grows streamId s s₁ := grows_insertGuard s hbidi guard
  cases verdict with
  | park =>
      rcases htakes.park rfl with ⟨rfl, hfollows, hheld, hheldFin⟩
      dsimp only
      -- The bytes stay in the parse prefix, which waits for nothing but more bytes.
      have hlossless' : (s₁.lane streamId).Lossless (received ++ data) false := by
        rw [hlane]
        exact hlossless.keeps hfollows hheldFin fun hfin => absurd hfin Bool.false_ne_true
      have hsound : s₁.Sound streamId (received ++ data) false := by
        refine .inr ⟨hlossless', .inr ?_⟩
        intro hne
        rw [hlane] at hne
        exact absurd hheld hne
      exact hsound.aside (Aside.processAfterRead s₁ streamId false)
  | hold =>
      rcases htakes.hold rfl with ⟨_, hfollows, hheld, hheldFin⟩
      dsimp only
      have hlossless' : (s₁.lane streamId).Lossless (received ++ data) fin := by
        rw [hlane]
        exact hlossless.keeps hfollows hheldFin fun _ => hheld
      have hafter : Aside streamId False s₁ (s₁.processAfterRead streamId fin) :=
        Aside.processAfterRead s₁ streamId fin
      exact flushUnblockedHeldData_lossless hN ((hgrows.trans hafter.toGrows).tidy htidy) hbidi
        (lossless_aside (.inr hlossless') hafter)
  | forward bytes forwardFin =>
      rcases htakes.forward bytes forwardFin rfl with ⟨hfollows, hlimit, hfin⟩
      dsimp only
      by_cases hsomething : bytes ≠ [] ∨ forwardFin = true
      · rw [if_pos hsomething]
        rcases guarded_passes hN s hbidi hlossless.refused guard bytes forwardFin with
          ⟨hgrows', hpassed⟩
        exact flushUnblockedHeldData_lossless hN (hgrows'.tidy htidy) hbidi
          (hpassed.imp_right fun hpasses => hlossless.forwards hfollows hlimit hfin hpasses)
      · -- Nothing to pass on, so nothing changed for nghttp3.
        rw [if_neg hsomething]
        rcases not_or.1 hsomething with ⟨hnil, hnoFin⟩
        have hnil' : bytes = [] := Classical.not_not.1 hnil
        subst hnil'
        rw [List.append_nil] at hfollows
        have hlossless' : (s₁.lane streamId).Lossless (received ++ data) fin := by
          rw [hlane]
          rcases hfin with ⟨hsame, hheldFin, _⟩ | ⟨_, hheldFin, hheld⟩
          · have hopen : fin = false := by
              rw [← hsame]
              exact Bool.eq_false_iff.2 hnoFin
            subst hopen
            exact hlossless.keeps hfollows hheldFin fun hfin => absurd hfin Bool.false_ne_true
          · exact hlossless.keeps hfollows hheldFin fun _ => hheld
        have hafter : Aside streamId False s₁ (s₁.processAfterRead streamId forwardFin) :=
          Aside.processAfterRead s₁ streamId forwardFin
        exact flushUnblockedHeldData_lossless hN ((hgrows.trans hafter.toGrows).tidy htidy) hbidi
          (lossless_aside (.inr hlossless') hafter)

/-- Bytes of the stream itself; a FIN without bytes comes when nothing is kept back. -/
theorem Sound.receive (hN : N.HeadersInPlace) (h : s.Sound streamId received false) (htidy : s.Tidy)
    (hbidi : streamId % 4 = 0) (hrange : 0 ≤ streamId ∧ streamId ≤ maxVarint)
    (hopen : s.closed = false) (data : Bytes)
    (hunregistered : data ≠ [] → s.streamInfo.find? streamId = none)
    (halone : data = [] → fin = true → (s.lane streamId).theGuard.parked = []) :
    (s.step (.receiveStreamData streamId data fin)).Sound streamId (received ++ data) fin := by
  rcases h with hcut | ⟨hlossless, hwaits⟩
  · exact .inl ((grows_receiveStreamData hN htidy streamId data fin).cut hcut)
  have hwaits' : (s.lane streamId).HeldWaits := by
    rcases hwaits with hclosed | hwaits
    · rw [hopen] at hclosed
      cases hclosed
    · exact hwaits
  have hbound : ¬ (streamId = s.controlStreamId ∨ streamId = s.qpackEncoderStreamId ∨
      streamId = s.qpackDecoderStreamId) := by
    rintro (heq | heq | heq)
    · exact htidy.control (heq ▸ hbidi)
    · exact htidy.encoder (heq ▸ hbidi)
    · exact htidy.decoder (heq ▸ hbidi)
  have hnotRange : ¬ (streamId < 0 ∨ streamId > maxVarint) := by omega
  have hnotClosed : ¬ s.closed = true := Bool.eq_false_iff.1 hopen
  have hnotRefused : streamId ∉ s.rejectedPreAcceptStreamIds := of_decide_eq_false hlossless.refused
  simp only [step, receiveStreamData]
  rw [if_neg hnotRange, if_neg hnotClosed, if_neg hbound, if_neg hnotRefused]
  by_cases hempty : data = []
  · -- A call without bytes passes by the guard.
    subst hempty
    rw [if_pos (show s.bypassGuard streamId [] = true by simp [bypassGuard]), List.append_nil]
    rcases readFromNghttp3_passes hN s hlossless.refused [] fin with ⟨hgrows, hread⟩
    have hlost : (s.readFromNghttp3 streamId [] fin).1.isCut streamId = true ∨
        ((s.readFromNghttp3 streamId [] fin).1.lane streamId).Lossless received fin :=
      hread.imp_right fun hpasses => hlossless.passesEmpty hpasses (halone rfl)
    have hafter : Aside streamId False (s.readFromNghttp3 streamId [] fin).1
        ((s.readFromNghttp3 streamId [] fin).1.processAfterRead streamId fin) :=
      Aside.processAfterRead _ streamId fin
    exact flushUnblockedHeldData_lossless hN ((hgrows.trans hafter.toGrows).tidy htidy) hbidi
      (lossless_aside hlost hafter)
  · have hguarded : ¬ s.bypassGuard streamId data = true := by
      simp [bypassGuard, hempty, hbidi, hunregistered hempty]
    rw [if_neg hguarded]
    have htakes := hlossless.follows.takeData hlossless.fins.open.2 hwaits' hempty fin
    exact receiveGuarded_sound hN hlossless htidy hbidi htakes

/-! ## Runs -/

/-- The bytes and the FIN that a call brings for the stream. -/
def Input.arrival (streamId : Int) : Input → Option (Bytes × Bool)
  | .receiveStreamData id data fin => if id = streamId then some (data, fin) else none
  | _ => none

/-- The bytes of the stream that a run receives; a failed connection receives nothing. -/
def bytesReceived (streamId : Int) : H3Session N → List Input → Bytes
  | _, [] => []
  | s, input :: rest =>
      (match input.arrival streamId with
        | some (data, _) => if s.closed then [] else data
        | none => []) ++ bytesReceived streamId (s.step input) rest

/-- The run receives the FIN of the stream. -/
def finReceived (streamId : Int) : H3Session N → List Input → Bool
  | _, [] => false
  | s, input :: rest =>
      (match input.arrival streamId with
        | some (_, fin) => !s.closed && fin
        | none => false) || finReceived streamId (s.step input) rest

/-- Nothing of the stream comes behind its FIN. -/
def finLast (streamId : Int) : List Input → Bool
  | [] => true
  | input :: rest =>
      (!((input.arrival streamId).any fun a => a.2) ||
        rest.all fun later => (later.arrival streamId).isNone) && finLast streamId rest

/-- A FIN of the stream that comes alone finds nothing kept back. -/
def finWaits (streamId : Int) : H3Session N → List Input → Bool
  | _, [] => true
  | s, input :: rest =>
      (decide (input.arrival streamId ≠ some ([], true)) || s.closed || s.isCut streamId ||
        decide ((s.lane streamId).theGuard.parked = [])) && finWaits streamId (s.step input) rest

/-- No bytes of the stream come while it is in `stream_info_`. -/
def unregistered (streamId : Int) : H3Session N → List Input → Bool
  | _, [] => true
  | s, input :: rest =>
      ((input.arrival streamId).all (fun a => a.1 = []) || s.closed || s.isCut streamId ||
        (s.streamInfo.find? streamId).isNone) && unregistered streamId (s.step input) rest

theorem arrival_eq_some {input : Input} {data : Bytes} {fin : Bool}
    (h : input.arrival streamId = some (data, fin)) :
    input = .receiveStreamData streamId data fin := by
  cases input with
  | receiveStreamData id data' fin' =>
      simp only [Input.arrival] at h
      split_ifs at h with hsame
      cases h
      rw [hsame]
  | _ => cases h

/-- One call. -/
theorem Sound.step (hN : N.HeadersInPlace) (h : s.Sound streamId received fin) (htidy : s.Tidy)
    (hbidi : streamId % 4 = 0) {input : Input} (hother : input.arrival streamId = none) :
    (s.step input).Sound streamId received fin ∧ (s.step input).Tidy := by
  by_cases hreceive : ∃ id data otherFin, input = .receiveStreamData id data otherFin
  · rcases hreceive with ⟨id, data, otherFin, rfl⟩
    have hne : id ≠ streamId := by
      rintro rfl
      simp [Input.arrival] at hother
    exact ⟨h.receiveOther hN htidy hbidi hne data otherFin,
      (@grows_receiveStreamData N streamId hN s htidy id data otherFin).tidy htidy⟩
  · have hreceives : input.receives = false := by
      cases input with
      | receiveStreamData id data otherFin => exact absurd ⟨id, data, otherFin, rfl⟩ hreceive
      | _ => rfl
    have haside : Aside streamId False s (s.step input) := Aside.step hN s input hreceives
    exact ⟨h.aside haside, haside.tidy htidy⟩

/-- A whole run. -/
theorem Sound.run (hN : N.HeadersInPlace) (hbidi : streamId % 4 = 0)
    (hrange : 0 ≤ streamId ∧ streamId ≤ maxVarint) (inputs : List Input)
    (hlast : finLast streamId inputs = true) (s : H3Session N) (htidy : s.Tidy)
    (hunregistered : unregistered streamId s inputs = true)
    (hwait : finWaits streamId s inputs = true) (received₀ : Bytes) (fin₀ : Bool)
    (hafter : fin₀ = true → inputs.all (fun later => (later.arrival streamId).isNone) = true)
    (h : s.Sound streamId received₀ fin₀) :
    (s.run inputs).Sound streamId (received₀ ++ bytesReceived streamId s inputs)
      (fin₀ || finReceived streamId s inputs) := by
  induction inputs generalizing s received₀ fin₀ with
  | nil => simpa [bytesReceived, finReceived, H3Session.run] using h
  | cons input rest ih =>
      simp only [finLast, Bool.and_eq_true] at hlast
      simp only [unregistered, Bool.and_eq_true] at hunregistered
      simp only [finWaits, Bool.and_eq_true] at hwait
      cases harrival : input.arrival streamId with
      | none =>
          -- Nothing comes for the stream, so nothing more has to be passed on.
          rcases h.step hN htidy hbidi harrival with ⟨hsound, htidy'⟩
          have hrest := ih hlast.2 (s.step input) htidy' hunregistered.2 hwait.2 received₀ fin₀
            (fun hfin => (List.all_eq_true.1 (hafter hfin)) |> fun hall =>
              List.all_eq_true.2 fun later hmem => hall later (List.mem_cons_of_mem _ hmem)) hsound
          simpa [bytesReceived, finReceived, harrival, H3Session.run] using hrest
      | some arrival =>
          rcases arrival with ⟨data, fin⟩
          -- The FIN comes last, so none has come yet.
          have hnotYet : fin₀ = false := by
            rw [← Bool.not_eq_true]
            intro hfin
            have hnone := List.all_eq_true.1 (hafter hfin) input List.mem_cons_self
            rw [harrival] at hnone
            cases hnone
          subst hnotYet
          have heq := arrival_eq_some harrival
          have hlater : fin = true →
              rest.all (fun later => (later.arrival streamId).isNone) = true := by
            intro hfin
            have hhead := hlast.1
            rw [harrival, hfin] at hhead
            simpa using hhead
          subst heq
          have htidy' : (s.step (.receiveStreamData streamId data fin)).Tidy :=
            (@grows_receiveStreamData N streamId hN s htidy streamId data fin).tidy htidy
          by_cases hclosed : s.closed = true
          · -- A failed connection takes nothing.
            have hstep : s.step (.receiveStreamData streamId data fin) = s := by
              have hnotRange : ¬ (streamId < 0 ∨ streamId > maxVarint) := by omega
              simp only [H3Session.step, receiveStreamData]
              rw [if_neg hnotRange, if_pos hclosed]
            have hrest := ih hlast.2 _ htidy' hunregistered.2 hwait.2 received₀ false
              (fun hfin => absurd hfin Bool.false_ne_true) (by rw [hstep]; exact h)
            simpa [bytesReceived, finReceived, harrival, hclosed, H3Session.run] using hrest
          · have hopenConn : s.closed = false := Bool.eq_false_iff.2 hclosed
            have halone : data = [] → fin = true → s.isCut streamId = true ∨
                (s.lane streamId).theGuard.parked = [] := by
              rintro rfl rfl
              have hhead := hwait.1
              rw [harrival, hopenConn] at hhead
              simpa using hhead
            have hguarded : s.isCut streamId = false → data ≠ [] →
                s.streamInfo.find? streamId = none := by
              intro hcut hbytes
              have hhead := hunregistered.1
              rw [harrival, hopenConn, hcut] at hhead
              simpa [hbytes] using hhead
            have hsound : (s.step (.receiveStreamData streamId data fin)).Sound streamId
                (received₀ ++ data) fin := by
              by_cases hcut : s.isCut streamId = true
              · exact .inl ((grows_receiveStreamData hN htidy streamId data fin).cut hcut)
              · exact h.receive hN htidy hbidi hrange hopenConn data
                  (hguarded (Bool.eq_false_iff.2 hcut))
                  fun hdata hfin => (halone hdata hfin).resolve_left hcut
            have hrest := ih hlast.2 _ htidy' hunregistered.2 hwait.2 (received₀ ++ data) fin hlater
              hsound
            simpa [bytesReceived, finReceived, harrival, hopenConn, H3Session.run] using hrest

end H3Session

end H3
end WebTransport
