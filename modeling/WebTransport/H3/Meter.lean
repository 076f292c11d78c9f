import WebTransport.H3.Session

/-!
# H3.Meter — the streams of sessions that are not accepted yet

nghttp3 keeps the bytes of a WebTransport stream back until its session is accepted.  The session
object counts these bytes behind each read, forgets the count in seven places, and rejects a stream
whose count exceeds the limit.

* `Meter.Step`        : everything that is done to the counts and to the rejected streams;
* `Meter.Sound`       : the counts are right, and only a stream that exceeds the limit is rejected;
* `Meter.Covered`     : a stream is done with, or counted to the last byte;
* `Meter.StoppedOnce` : a rejected stream is stopped once, and stays out until its FIN.
-/

namespace WebTransport
namespace H3

open Bindings

/-! ## What the record tells about a stream -/

namespace NgCall

/-- The bytes of the stream that nghttp3 kept back in a read. -/
def keptBack (streamId : Int) : NgCall → Nat
  | .readStream2 id data _ _ rv => if id = streamId ∧ 0 ≤ rv then data.length - rv.toNat else 0
  | _ => 0

/-- The call reads bytes of the stream. -/
def readsStream (streamId : Int) : NgCall → Bool
  | .readStream2 id _ _ _ _ => id = streamId
  | _ => false

/-- nghttp3 asks to stop the stream with the code of a rejection. -/
def asksStop (streamId : Int) : NgCall → Bool
  | .callback (.stream (.stopSending id code)) => id = streamId && code = wtBufferedStreamRejected
  | _ => false

/-- The session is accepted, rejected or closed. -/
def settles (isServer : Bool) (sessionId : Int) : NgCall → Bool
  | .callback (.endHeaders id) => !isServer && id = sessionId
  | .callback (.recvWtCloseSession id _ message) =>
      id = sessionId && !H3Session.badCloseMessage message
  | .closeStream id _ => id = sessionId
  | .submitResponse id status _ => id = sessionId && status / 100 ≠ 2
  | .serverConfirmWtSession id _ rv => id = sessionId && rv = 0
  | .closeWtSession id _ _ rv => id = sessionId && rv = 0
  | _ => false

/-- nghttp3 reports that the stream is closed. -/
def tellsClosed (streamId : Int) : NgCall → Bool
  | .callback (.stream (.streamClose id _)) => id = streamId
  | _ => false

/-- The lines that neither read a stream nor ask to stop one. -/
def plain : NgCall → Bool
  | .readStream2 .. => false
  | .callback (.stream (.stopSending ..)) => false
  | _ => true

theorem keptBack_plain {call : NgCall} (h : call.plain = true) (streamId : Int) :
    call.keptBack streamId = 0 := by
  cases call with
  | readStream2 id data fin callbacks rv => cases h
  | _ => rfl

theorem readsStream_plain {call : NgCall} (h : call.plain = true) (streamId : Int) :
    call.readsStream streamId = false := by
  cases call with
  | readStream2 id data fin callbacks rv => cases h
  | _ => rfl

theorem asksStop_plain {call : NgCall} (h : call.plain = true) (streamId : Int) :
    call.asksStop streamId = false := by
  cases call with
  | callback c =>
      cases c with
      | stream c =>
          cases c with
          | stopSending id code => cases h
          | _ => rfl
      | _ => rfl
  | _ => rfl

end NgCall

/-- The call is a read in which nghttp3 keeps bytes of the stream back, and behind which it says
that the stream belongs to the session. -/
def Nghttp3.HoldsBack (N : Nghttp3) (streamId sessionId : Int) (call : NgCall) : Prop :=
  ∃ conn data fin conn' callbacks rv,
    N.readStream2 conn streamId data fin = (conn', callbacks, rv) ∧
      call = .readStream2 streamId data fin callbacks rv ∧ 0 ≤ rv ∧ rv.toNat < data.length ∧
        N.getStreamWtSessionId conn' streamId = sessionId

/-! ## The meter -/

/-- The counts, the rejected streams and what they rest on.  `due` are the bytes that nghttp3 kept
back in a read that is not counted yet. -/
structure Meter where
  accepted : OrdSet Int
  buffered : OrdMap Int Nat
  owners : OrdMap Int Int
  rejected : OrdSet Int
  /-- the streams stopped with the code of a rejection -/
  stopped : List Int
  log : List NgCall
  due : Int → Nat

namespace Meter

/-- The count of a stream. -/
def count (m : Meter) (streamId : Int) : Nat := (m.buffered.find? streamId).getD 0

/-- All bytes of the stream that nghttp3 ever kept back. -/
def kept (m : Meter) (streamId : Int) : Nat := (m.log.map (NgCall.keptBack streamId)).sum

/-- The reads of the stream. -/
def reads (m : Meter) (streamId : Int) : Nat := m.log.countP (NgCall.readsStream streamId)

/-- How often nghttp3 itself asked to stop the stream. -/
def asks (m : Meter) (streamId : Int) : Nat := m.log.countP (NgCall.asksStop streamId)

/-- The counted streams of a session. -/
def streamsOf (m : Meter) (sessionId : Int) : List Int :=
  m.owners.keys.filter fun streamId => m.owners.find? streamId = some sessionId

/-- `forget_pre_accept_stream` -/
def forgetStream (m : Meter) (streamId : Int) : Meter :=
  { m with buffered := m.buffered.erase streamId, owners := m.owners.erase streamId }

/-- `forget_pre_accept_session` -/
def forgetSession (m : Meter) (sessionId : Int) : Meter :=
  { m with
    buffered := m.buffered.eraseAll (m.streamsOf sessionId)
    owners := m.owners.eraseAll (m.streamsOf sessionId) }

/-- One more line in the record. -/
def noted (m : Meter) (call : NgCall) : Meter := { m with log := m.log ++ [call] }

/-- Some of the due bytes are dealt with. -/
def paid (m : Meter) (streamId : Int) (amount : Nat) : Meter :=
  { m with due := Function.update m.due streamId (m.due streamId - amount) }

/-- The record has a line that settles the session. -/
def Settled (isServer : Bool) (sessionId : Int) (m : Meter) : Prop :=
  ∃ call ∈ m.log, call.settles isServer sessionId = true

/-- The record has a read in which bytes of the stream were kept back for the session. -/
def HeldBack (holds : Int → Int → NgCall → Prop) (streamId sessionId : Int) (m : Meter) : Prop :=
  ∃ call ∈ m.log, holds streamId sessionId call

/-- Everything that is done to a meter.  `holds` says in which reads nghttp3 keeps the bytes of a
stream back for a session, `fins` says which streams may get their FIN. -/
inductive Step (isServer : Bool) (limit : Nat) (holds : Int → Int → NgCall → Prop)
    (fins : Int → Prop) : Meter → Meter → Prop
  | note (m : Meter) (call : NgCall) (hplain : call.plain = true) :
      Step isServer limit holds fins m (m.noted call)
  | read (m : Meter) (streamId : Int) (data : Bytes) (fin : Bool) (callbacks : List Callback)
      (rv : Int) (hopen : streamId ∉ m.rejected) :
      Step isServer limit holds fins m
        { m.noted (.readStream2 streamId data fin callbacks rv) with
          due := Function.update m.due streamId (m.due streamId +
            (NgCall.readStream2 streamId data fin callbacks rv).keptBack streamId) }
  /-- `stop_sending_cb` -/
  | asked (m : Meter) (streamId : Int) (code : Nat) :
      Step isServer limit holds fins m
        { m.noted (.callback (.stream (.stopSending streamId code))) with
          stopped := m.stopped ++ if code = wtBufferedStreamRejected then [streamId] else [] }
  | counted (m : Meter) (streamId sessionId : Int) (amount : Nat)
      (hopen : streamId ∉ m.rejected) (hwaiting : sessionId ∉ m.accepted)
      (hholds : m.HeldBack holds streamId sessionId) (hpos : 0 < amount)
      (hdue : amount ≤ m.due streamId) (hlimit : m.count streamId + amount ≤ limit) :
      Step isServer limit holds fins m
        { m.paid streamId amount with
          buffered := m.buffered.insert streamId (m.count streamId + amount)
          owners := m.owners.insert streamId sessionId }
  | refused (m : Meter) (streamId : Int) (fin : Bool) (amount : Nat)
      (hopen : streamId ∉ m.rejected) (hdue : amount ≤ m.due streamId)
      (hlimit : limit < m.count streamId + amount) (hfin : fin = true → fins streamId) :
      Step isServer limit holds fins m
        { (m.paid streamId amount).forgetStream streamId with
          rejected := if fin then m.rejected else m.rejected.insert streamId
          stopped := m.stopped ++ [streamId] }
  /-- the stream belongs to no session, or to an accepted one -/
  | waived (m : Meter) (streamId sessionId : Int) (amount : Nat)
      (hholds : m.HeldBack holds streamId sessionId) (hdue : amount ≤ m.due streamId)
      (hsession : sessionId < 0 ∨ sessionId ∈ m.accepted) :
      Step isServer limit holds fins m (m.paid streamId amount)
  /-- `stream_close_cb` -/
  | closed (m : Meter) (streamId : Int) (code : Nat) :
      Step isServer limit holds fins m
        ((m.noted (.callback (.stream (.streamClose streamId code)))).forgetStream streamId)
  | accepted (m : Meter) (sessionId : Int) (hsettled : m.Settled isServer sessionId) :
      Step isServer limit holds fins m
        ({ m with accepted := m.accepted.insert sessionId }.forgetSession sessionId)
  | ended (m : Meter) (sessionId : Int) (hsettled : m.Settled isServer sessionId) :
      Step isServer limit holds fins m
        ({ m with accepted := m.accepted.erase sessionId }.forgetSession sessionId)
  /-- the end of `accept_session` for a session that is gone -/
  | forgotten (m : Meter) (sessionId : Int) (hsettled : m.Settled isServer sessionId) :
      Step isServer limit holds fins m (m.forgetSession sessionId)
  | finished (m : Meter) (streamId : Int) (hfin : fins streamId) :
      Step isServer limit holds fins m { m with rejected := m.rejected.erase streamId }

/-- A sequence of steps. -/
abbrev Reaches (isServer : Bool) (limit : Nat) (holds : Int → Int → NgCall → Prop)
    (fins : Int → Prop) : Meter → Meter → Prop :=
  Relation.ReflTransGen (Step isServer limit holds fins)

variable {isServer : Bool} {limit : Nat} {holds : Int → Int → NgCall → Prop} {fins : Int → Prop}
  {m m' : Meter}

/-- The record only grows. -/
theorem Step.log_grows (h : Step isServer limit holds fins m m') :
    ∃ more, m'.log = m.log ++ more := by
  cases h with
  | note call hplain => exact ⟨_, rfl⟩
  | read streamId data fin callbacks rv hopen => exact ⟨_, rfl⟩
  | asked streamId code => exact ⟨_, rfl⟩
  | closed streamId code => exact ⟨_, rfl⟩
  | _ => exact ⟨[], (List.append_nil _).symm⟩

theorem Reaches.log_grows (h : Reaches isServer limit holds fins m m') :
    ∃ more, m'.log = m.log ++ more := by
  induction h with
  | refl => exact ⟨[], (List.append_nil _).symm⟩
  | tail _ hlast ih =>
      rcases ih with ⟨more, hmore⟩
      rcases hlast.log_grows with ⟨last, hlast⟩
      refine ⟨more ++ last, ?_⟩
      rw [hlast, hmore, List.append_assoc]

/-- What is settled stays settled. -/
theorem Reaches.settled (h : Reaches isServer limit holds fins m m') {sessionId : Int}
    (hsettled : m.Settled isServer sessionId) : m'.Settled isServer sessionId := by
  rcases h.log_grows with ⟨more, hmore⟩
  rcases hsettled with ⟨call, hcall, hsettles⟩
  refine ⟨call, ?_, hsettles⟩
  rw [hmore]
  exact List.mem_append_left more hcall

/-! ### What a step leaves of a meter -/

theorem kept_noted (m : Meter) (call : NgCall) (streamId : Int) :
    (m.noted call).kept streamId = m.kept streamId + call.keptBack streamId := by
  simp [kept, noted]

theorem kept_quiet (m : Meter) {call : NgCall} {streamId : Int} (h : call.keptBack streamId = 0) :
    (m.noted call).kept streamId = m.kept streamId := by
  rw [kept_noted, h]
  rfl

theorem reads_noted (m : Meter) (call : NgCall) (streamId : Int) :
    (m.noted call).reads streamId =
      m.reads streamId + if call.readsStream streamId then 1 else 0 := by
  simp [reads, noted, List.countP_append, List.countP_singleton]

theorem asks_noted (m : Meter) (call : NgCall) (streamId : Int) :
    (m.noted call).asks streamId = m.asks streamId + if call.asksStop streamId then 1 else 0 := by
  simp [asks, noted, List.countP_append, List.countP_singleton]

theorem reads_quiet (m : Meter) {call : NgCall} {streamId : Int}
    (h : call.readsStream streamId = false) : (m.noted call).reads streamId = m.reads streamId := by
  rw [reads_noted, h]
  rfl

theorem asks_quiet (m : Meter) {call : NgCall} {streamId : Int}
    (h : call.asksStop streamId = false) : (m.noted call).asks streamId = m.asks streamId := by
  rw [asks_noted, h]
  rfl

/-- The count of a stream that is counted on. -/
theorem count_counted (m : Meter) (streamId sessionId : Int) (amount : Nat) :
    Meter.count
        { m.paid streamId amount with
          buffered := m.buffered.insert streamId (m.count streamId + amount)
          owners := m.owners.insert streamId sessionId } streamId =
      m.count streamId + amount := by
  unfold count
  rw [OrdMap.find?_insert_self]
  rfl

theorem mem_streamsOf (m : Meter) (sessionId streamId : Int) :
    streamId ∈ m.streamsOf sessionId ↔ m.owners.find? streamId = some sessionId := by
  unfold streamsOf
  rw [List.mem_filter, decide_eq_true_eq, OrdMap.mem_keys_iff]
  constructor
  · exact fun h => h.2
  · exact fun h => ⟨⟨sessionId, h⟩, h⟩

theorem forgetSession_buffered (m : Meter) (sessionId streamId : Int) :
    (m.forgetSession sessionId).buffered.find? streamId =
      if m.owners.find? streamId = some sessionId then none else m.buffered.find? streamId := by
  have hfind : (m.forgetSession sessionId).buffered.find? streamId =
      if streamId ∈ m.streamsOf sessionId then none else m.buffered.find? streamId :=
    OrdMap.find?_eraseAll _ _ _
  rw [hfind]
  simp only [mem_streamsOf]

theorem forgetSession_owners (m : Meter) (sessionId streamId : Int) :
    (m.forgetSession sessionId).owners.find? streamId =
      if m.owners.find? streamId = some sessionId then none else m.owners.find? streamId := by
  have hfind : (m.forgetSession sessionId).owners.find? streamId =
      if streamId ∈ m.streamsOf sessionId then none else m.owners.find? streamId :=
    OrdMap.find?_eraseAll _ _ _
  rw [hfind]
  simp only [mem_streamsOf]

/-! ### The counts are right -/

/-- What holds of a stream in every meter: it is counted when its session is known, never for an
accepted one; the count is within the limit and counts no byte twice; and only a stream that
exceeds the limit is rejected. -/
structure Sound (limit : Nat) (m : Meter) (streamId : Int) : Prop where
  owned : (m.buffered.find? streamId).isSome = (m.owners.find? streamId).isSome
  bounded : ∀ total, m.buffered.find? streamId = some total → 0 < total ∧ total ≤ limit
  waiting : ∀ sessionId, m.owners.find? streamId = some sessionId → sessionId ∉ m.accepted
  counted : m.count streamId + m.due streamId ≤ m.kept streamId
  uncounted : streamId ∈ m.rejected → m.buffered.find? streamId = none
  exceeded : streamId ∈ m.rejected → limit < m.kept streamId
  stopped : streamId ∈ m.stopped → limit < m.kept streamId ∨ 0 < m.asks streamId

/-- The stream is left alone or forgotten, and the record grows by what is due. -/
theorem Sound.weaken {streamId : Int} (h : Sound limit m streamId)
    (hcount : (m'.buffered.find? streamId = m.buffered.find? streamId ∧
        m'.owners.find? streamId = m.owners.find? streamId) ∨
      (m'.buffered.find? streamId = none ∧ m'.owners.find? streamId = none))
    (hwaiting : ∀ sessionId, m'.owners.find? streamId = some sessionId →
      m.owners.find? streamId = some sessionId → sessionId ∉ m'.accepted)
    (hrejected : streamId ∈ m'.rejected → streamId ∈ m.rejected)
    (hstopped : streamId ∈ m'.stopped → streamId ∈ m.stopped ∨ 0 < m'.asks streamId)
    (hkept : m.kept streamId ≤ m'.kept streamId) (hasks : m.asks streamId ≤ m'.asks streamId)
    (hdue : m'.due streamId + m.kept streamId ≤ m.due streamId + m'.kept streamId) :
    Sound limit m' streamId := by
  have hcounted := h.counted
  have hlast : streamId ∈ m'.stopped → limit < m'.kept streamId ∨ 0 < m'.asks streamId := by
    intro hmem
    rcases hstopped hmem with hold | hasked
    · rcases h.stopped hold with hover | hasked
      · exact Or.inl (Nat.lt_of_lt_of_le hover hkept)
      · exact Or.inr (Nat.lt_of_lt_of_le hasked hasks)
    · exact Or.inr hasked
  have hover : streamId ∈ m'.rejected → limit < m'.kept streamId :=
    fun hmem => Nat.lt_of_lt_of_le (h.exceeded (hrejected hmem)) hkept
  rcases hcount with ⟨hbuffered, howners⟩ | ⟨hbuffered, howners⟩
  · have hsame : m'.count streamId = m.count streamId := by
      unfold count
      rw [hbuffered]
    refine ⟨?_, ?_, ?_, by omega, ?_, hover, hlast⟩
    · rw [hbuffered, howners]
      exact h.owned
    · rw [hbuffered]
      exact h.bounded
    · intro sessionId howner
      exact hwaiting sessionId howner (howners ▸ howner)
    · rw [hbuffered]
      exact fun hmem => h.uncounted (hrejected hmem)
  · have hzero : m'.count streamId = 0 := by
      unfold count
      rw [hbuffered]
      rfl
    refine ⟨by rw [hbuffered, howners]; rfl, ?_, ?_, by omega, fun _ => hbuffered, hover, hlast⟩
    · rw [hbuffered]
      exact fun total h => by cases h
    · rw [howners]
      exact fun sessionId h => by cases h

/-- A session that is entered or removed among the accepted ones takes its counts along. -/
theorem Sound.forget {streamId : Int} (h : Sound limit m streamId) (accepted : OrdSet Int)
    (sessionId : Int) (haccepted : ∀ id, id ≠ sessionId → id ∉ m.accepted → id ∉ accepted) :
    Sound limit ({ m with accepted := accepted }.forgetSession sessionId) streamId := by
  have hbuffered := forgetSession_buffered { m with accepted := accepted } sessionId streamId
  have howners := forgetSession_owners { m with accepted := accepted } sessionId streamId
  refine h.weaken ?_ ?_ id Or.inl (Nat.le_refl _) (Nat.le_refl _) (Nat.le_refl _)
  · rw [hbuffered, howners]
    by_cases howner : m.owners.find? streamId = some sessionId
    · exact Or.inr ⟨if_pos howner, if_pos howner⟩
    · exact Or.inl ⟨if_neg howner, if_neg howner⟩
  · intro id hnew hold
    refine haccepted id ?_ (h.waiting id hold)
    rintro rfl
    rw [howners, if_pos hold] at hnew
    cases hnew

/-- Every step keeps the counts right. -/
theorem Step.sound (h : Step isServer limit holds fins m m') {streamId : Int}
    (hinv : Sound limit m streamId) : Sound limit m' streamId := by
  cases h with
  | note call hplain =>
      refine hinv.weaken (Or.inl ⟨rfl, rfl⟩) (fun _ _ => hinv.waiting _) id Or.inl ?_ ?_ ?_
      · rw [kept_noted]
        exact Nat.le_add_right _ _
      · rw [asks_noted]
        exact Nat.le_add_right _ _
      · rw [kept_noted]
        exact Nat.add_le_add_left (Nat.le_add_right _ _) _
  | read id data fin callbacks rv hopen =>
      have hkept : Meter.kept
          { m.noted (.readStream2 id data fin callbacks rv) with
            due := Function.update m.due id (m.due id +
              (NgCall.readStream2 id data fin callbacks rv).keptBack id) } streamId =
          m.kept streamId + (NgCall.readStream2 id data fin callbacks rv).keptBack streamId :=
        kept_noted m _ streamId
      refine hinv.weaken (Or.inl ⟨rfl, rfl⟩) (fun _ _ => hinv.waiting _) (fun h => h) Or.inl
        ?_ ?_ ?_
      · rw [hkept]
        exact Nat.le_add_right _ _
      · exact (asks_noted m _ streamId).symm ▸ Nat.le_add_right _ _
      · rw [hkept]
        dsimp only
        rw [Function.update_apply]
        split_ifs with hid
        · subst hid
          omega
        · omega
  | asked id code =>
      have hasks := asks_noted m (.callback (.stream (.stopSending id code))) streamId
      refine hinv.weaken (Or.inl ⟨rfl, rfl⟩) (fun _ _ => hinv.waiting _) (fun h => h) ?_ ?_ ?_ ?_
      · intro hmem
        rcases List.mem_append.1 hmem with hold | hnew
        · exact Or.inl hold
        · right
          split_ifs at hnew with hcode
          · have hid : streamId = id := List.mem_singleton.1 hnew
            have hask : NgCall.asksStop streamId (.callback (.stream (.stopSending id code)))
                = true := by simp [NgCall.asksStop, hid, hcode]
            rw [hask, if_pos rfl] at hasks
            exact hasks.symm ▸ Nat.succ_pos _
          · exact absurd hnew List.not_mem_nil
      · exact (kept_noted m _ streamId).symm ▸ Nat.le_add_right _ _
      · exact hasks.symm ▸ Nat.le_add_right _ _
      · exact Nat.add_le_add_left (Nat.le.intro (kept_noted m _ streamId).symm) _
  | counted id sessionId amount hopen hwaiting hholds hpos hdue hlimit =>
      by_cases hid : streamId = id
      · subst hid
        have hcounted := hinv.counted
        refine ⟨?_, ?_, ?_, ?_, fun h => absurd h hopen, fun h => absurd h hopen, hinv.stopped⟩
        · rw [OrdMap.find?_insert_self, OrdMap.find?_insert_self]
          rfl
        · intro total htotal
          rw [OrdMap.find?_insert_self] at htotal
          cases htotal
          exact ⟨by omega, hlimit⟩
        · intro owner howner
          rw [OrdMap.find?_insert_self] at howner
          cases howner
          exact hwaiting
        · -- The bytes move from what is due to the count.
          rw [count_counted]
          simp only [paid, Function.update_self]
          have hkept : m.count streamId + m.due streamId ≤ m.kept streamId := hcounted
          exact Nat.le_trans (by omega) hkept
      · refine hinv.weaken (Or.inl ⟨OrdMap.find?_insert_ne _ _ hid, OrdMap.find?_insert_ne _ _ hid⟩)
          (fun _ _ => hinv.waiting _) (fun h => h) Or.inl (Nat.le_refl _) (Nat.le_refl _) ?_
        simp only [paid, Function.update_apply, if_neg hid]
        exact Nat.le_refl _
  | refused id fin amount hopen hdue hlimit hfin =>
      by_cases hid : streamId = id
      · subst hid
        have hcounted := hinv.counted
        -- What exceeds the limit was kept back: the count and what is due are parts of it.
        have hover : limit < m.kept streamId := by omega
        refine ⟨?_, ?_, ?_, ?_, fun _ => OrdMap.find?_erase_self _ _, fun _ => hover,
          fun _ => Or.inl hover⟩
        · have hbuffered := OrdMap.find?_erase_self m.buffered streamId
          have howners := OrdMap.find?_erase_self m.owners streamId
          simp [forgetStream, paid, hbuffered, howners]
        · intro total htotal
          have hnone := OrdMap.find?_erase_self m.buffered streamId
          exact absurd (htotal.symm.trans hnone) (by simp)
        · intro owner howner
          have hnone := OrdMap.find?_erase_self m.owners streamId
          exact absurd (howner.symm.trans hnone) (by simp)
        · have hzero : Meter.count
              { (m.paid streamId amount).forgetStream streamId with
                rejected := if fin = true then m.rejected else m.rejected.insert streamId
                stopped := m.stopped ++ [streamId] } streamId = 0 := by
            simp [count, forgetStream, paid]
          rw [hzero]
          simp only [forgetStream, paid, Function.update_self]
          have hkept : m.count streamId + m.due streamId ≤ m.kept streamId := hcounted
          exact Nat.le_trans (by omega) hkept
      · refine hinv.weaken (Or.inl ⟨OrdMap.find?_erase_ne _ hid, OrdMap.find?_erase_ne _ hid⟩)
          (fun _ _ => hinv.waiting _) ?_ ?_ (Nat.le_refl _) (Nat.le_refl _) ?_
        · cases fin with
          | true => exact fun h => h
          | false =>
              intro hmem
              exact ((OrdSet.mem_insert _ _ _).1 hmem).resolve_left hid
        · intro hmem
          rcases List.mem_append.1 hmem with hold | hnew
          · exact Or.inl hold
          · exact absurd (List.mem_singleton.1 hnew) hid
        · simp only [forgetStream, paid, Function.update_apply, if_neg hid]
          exact Nat.le_refl _
  | waived id sessionId amount hholds hdue hsession =>
      refine hinv.weaken (Or.inl ⟨rfl, rfl⟩) (fun _ _ => hinv.waiting _) (fun h => h) Or.inl
        (Nat.le_refl _) (Nat.le_refl _) ?_
      simp only [paid, Function.update_apply]
      split_ifs with hid
      · subst hid
        exact Nat.add_le_add_right (Nat.sub_le _ _) _
      · exact Nat.le_refl _
  | closed id code =>
      refine hinv.weaken ?_ ?_ (fun h => h) Or.inl ?_ ?_ ?_
      · by_cases hid : streamId = id
        · subst hid
          exact Or.inr ⟨OrdMap.find?_erase_self _ _, OrdMap.find?_erase_self _ _⟩
        · exact Or.inl ⟨OrdMap.find?_erase_ne _ hid, OrdMap.find?_erase_ne _ hid⟩
      · exact fun sessionId _ hold => hinv.waiting sessionId hold
      · exact (kept_noted m _ streamId).symm ▸ Nat.le_add_right _ _
      · exact (asks_noted m _ streamId).symm ▸ Nat.le_add_right _ _
      · exact Nat.add_le_add_left (Nat.le.intro (kept_noted m _ streamId).symm) _
  | accepted sessionId hsettled =>
      refine hinv.forget _ sessionId ?_
      intro id hne hnot hmem
      exact ((OrdSet.mem_insert _ _ _).1 hmem).elim hne hnot
  | ended sessionId hsettled =>
      refine hinv.forget _ sessionId ?_
      intro id _ hnot hmem
      exact hnot ((OrdSet.mem_erase _ _ _).1 hmem).2
  | forgotten sessionId hsettled => exact hinv.forget m.accepted sessionId fun _ _ hnot => hnot
  | finished id hfin =>
      refine hinv.weaken (Or.inl ⟨rfl, rfl⟩) (fun _ _ => hinv.waiting _) ?_ Or.inl
        (Nat.le_refl _) (Nat.le_refl _) (Nat.le_refl _)
      exact fun hmem => ((OrdSet.mem_erase _ _ _).1 hmem).2

theorem Reaches.sound (h : Reaches isServer limit holds fins m m') {streamId : Int}
    (hinv : Sound limit m streamId) : Sound limit m' streamId := by
  induction h with
  | refl => exact hinv
  | tail _ hlast ih => exact hlast.sound ih

/-! ### No byte goes uncounted -/

/-- nghttp3 reported the stream closed. -/
def Closed (m : Meter) (streamId : Int) : Prop := ∃ call ∈ m.log, call.tellsClosed streamId = true

/-- Nothing was forgotten: the count is exact, and its session is one that nghttp3 told. -/
structure Exact (holds : Int → Int → NgCall → Prop) (m : Meter) (streamId : Int) : Prop where
  counted : m.count streamId + m.due streamId = m.kept streamId
  owner : ∀ sessionId, m.owners.find? streamId = some sessionId →
    m.HeldBack holds streamId sessionId

/-- nghttp3 kept the stream back for no session, or for one that is settled. -/
def Released (isServer : Bool) (holds : Int → Int → NgCall → Prop) (streamId : Int) (m : Meter) :
    Prop :=
  ∃ sessionId, m.HeldBack holds streamId sessionId ∧
    (sessionId < 0 ∨ m.Settled isServer sessionId)

/-- The stream is done with, or its count is exact. -/
def Covered (isServer : Bool) (holds : Int → Int → NgCall → Prop) (streamId : Int) (m : Meter) :
    Prop :=
  streamId ∈ m.stopped ∨ m.Closed streamId ∨ m.Released isServer holds streamId ∨
    m.Exact holds streamId

/-- A stopped stream stays stopped. -/
theorem Step.stopped_grows (h : Step isServer limit holds fins m m') {streamId : Int}
    (hstopped : streamId ∈ m.stopped) : streamId ∈ m'.stopped := by
  cases h with
  | asked id code => exact List.mem_append_left _ hstopped
  | refused id fin amount hopen hdue hlimit hfin => exact List.mem_append_left _ hstopped
  | _ => exact hstopped

theorem Step.mem_log (h : Step isServer limit holds fins m m') {call : NgCall}
    (hcall : call ∈ m.log) : call ∈ m'.log := by
  rcases h.log_grows with ⟨more, hmore⟩
  rw [hmore]
  exact List.mem_append_left more hcall

theorem Step.heldBack (h : Step isServer limit holds fins m m') {streamId sessionId : Int}
    (hholds : m.HeldBack holds streamId sessionId) : m'.HeldBack holds streamId sessionId := by
  rcases hholds with ⟨call, hcall, hback⟩
  exact ⟨call, h.mem_log hcall, hback⟩

theorem Step.settled (h : Step isServer limit holds fins m m') {sessionId : Int}
    (hsettled : m.Settled isServer sessionId) : m'.Settled isServer sessionId := by
  rcases hsettled with ⟨call, hcall, hsettles⟩
  exact ⟨call, h.mem_log hcall, hsettles⟩

/-- Accepted sessions are settled. -/
theorem Step.acceptedSettled (h : Step isServer limit holds fins m m')
    (hinv : ∀ sessionId ∈ m.accepted, m.Settled isServer sessionId) :
    ∀ sessionId ∈ m'.accepted, m'.Settled isServer sessionId := by
  have hold : ∀ sessionId ∈ m.accepted, m'.Settled isServer sessionId :=
    fun sessionId hmem => h.settled (hinv sessionId hmem)
  cases h with
  | accepted id hsettled =>
      intro sessionId hmem
      rcases (OrdSet.mem_insert _ _ _).1 hmem with hnew | hmem
      · exact hnew ▸ hsettled
      · exact hold sessionId hmem
  | ended id hsettled =>
      intro sessionId hmem
      exact hold sessionId ((OrdSet.mem_erase _ _ _).1 hmem).2
  | _ => exact hold

/-- A step that shows nothing of the stream keeps its count exact. -/
theorem Exact.frame {streamId : Int} (h : Exact holds m streamId)
    (hlog : ∀ call ∈ m.log, call ∈ m'.log)
    (hbuffered : m'.buffered.find? streamId = m.buffered.find? streamId)
    (howners : m'.owners.find? streamId = m.owners.find? streamId)
    (hdue : m'.due streamId + m.kept streamId = m.due streamId + m'.kept streamId) :
    Exact holds m' streamId := by
  have hcount : m'.count streamId = m.count streamId := by
    unfold count
    rw [hbuffered]
  have hcounted := h.counted
  refine ⟨by omega, ?_⟩
  intro sessionId howner
  rw [howners] at howner
  rcases h.owner sessionId howner with ⟨call, hcall, hback⟩
  exact ⟨call, hlog call hcall, hback⟩

/-- A settled session takes the counts of its own streams along, and no others. -/
theorem Exact.forget {streamId : Int} (h : Exact holds m streamId) (accepted : OrdSet Int)
    (sessionId : Int) (hsettled : m.Settled isServer sessionId) :
    Covered isServer holds streamId ({ m with accepted := accepted }.forgetSession sessionId) := by
  by_cases howner : m.owners.find? streamId = some sessionId
  · exact Or.inr (Or.inr (Or.inl ⟨sessionId, h.owner sessionId howner, Or.inr hsettled⟩))
  · refine Or.inr (Or.inr (Or.inr (h.frame (fun _ hcall => hcall) ?_ ?_ rfl)))
    · rw [forgetSession_buffered]
      exact if_neg howner
    · rw [forgetSession_owners]
      exact if_neg howner

/-- Every step keeps a stream covered. -/
theorem Step.covered (h : Step isServer limit holds fins m m') {streamId : Int}
    (haccepted : ∀ sessionId ∈ m.accepted, m.Settled isServer sessionId)
    (hinv : Covered isServer holds streamId m) : Covered isServer holds streamId m' := by
  rcases hinv with hstopped | ⟨call, hcall, hcloses⟩ | ⟨sessionId, hholds, hsession⟩ | hexact
  · exact Or.inl (h.stopped_grows hstopped)
  · exact Or.inr (Or.inl ⟨call, h.mem_log hcall, hcloses⟩)
  · exact Or.inr (Or.inr (Or.inl
      ⟨sessionId, h.heldBack hholds, hsession.imp (fun h => h) h.settled⟩))
  have hlog : ∀ call ∈ m.log, call ∈ m'.log := fun _ hcall => h.mem_log hcall
  have hkeep : Exact holds m' streamId → Covered isServer holds streamId m' :=
    fun h => Or.inr (Or.inr (Or.inr h))
  have hcounted := hexact.counted
  -- As long as the count is exact, what is kept back of a read is due until it is counted, refused
  -- or waived.
  cases h with
  | note call hplain =>
      refine hkeep (hexact.frame hlog rfl rfl ?_)
      rw [kept_quiet m (NgCall.keptBack_plain hplain streamId)]
      rfl
  | read id data fin callbacks rv hopen =>
      refine hkeep (hexact.frame hlog rfl rfl ?_)
      have hkept : Meter.kept
          { m.noted (.readStream2 id data fin callbacks rv) with
            due := Function.update m.due id (m.due id +
              (NgCall.readStream2 id data fin callbacks rv).keptBack id) } streamId =
          m.kept streamId + (NgCall.readStream2 id data fin callbacks rv).keptBack streamId :=
        kept_noted m _ streamId
      rw [hkept]
      dsimp only
      rw [Function.update_apply]
      split_ifs with hstream
      · subst hstream
        omega
      · have hother : (NgCall.readStream2 id data fin callbacks rv).keptBack streamId = 0 :=
          if_neg fun h => hstream h.1.symm
        rw [hother]
        rfl
  | asked id code =>
      have hkept : (m.noted (.callback (.stream (.stopSending id code)))).kept streamId =
          m.kept streamId := kept_quiet m rfl
      exact hkeep (hexact.frame hlog rfl rfl (congrArg (m.due streamId + ·) hkept.symm))
  | counted id owner amount hopen hwaiting hholds hpos hdue hlimit =>
      by_cases hstream : streamId = id
      · subst hstream
        refine hkeep ⟨?_, ?_⟩
        · rw [count_counted]
          simp only [paid, Function.update_self]
          exact Eq.trans (by omega) hcounted
        · intro other hother
          rw [OrdMap.find?_insert_self] at hother
          cases hother
          exact hholds
      · refine hkeep (hexact.frame hlog (OrdMap.find?_insert_ne _ _ hstream)
          (OrdMap.find?_insert_ne _ _ hstream) ?_)
        simp only [paid, Function.update_apply, if_neg hstream]
        rfl
  | refused id fin amount hopen hdue hlimit hfin =>
      by_cases hstream : streamId = id
      · subst hstream
        exact Or.inl (List.mem_append_right _ List.mem_cons_self)
      · refine hkeep (hexact.frame hlog (OrdMap.find?_erase_ne _ hstream)
          (OrdMap.find?_erase_ne _ hstream) ?_)
        simp only [forgetStream, paid, Function.update_apply, if_neg hstream]
        rfl
  | waived id owner amount hholds hdue hsession =>
      by_cases hstream : streamId = id
      · -- These bytes are never counted; the session they are for is none, or it is accepted.
        subst hstream
        exact Or.inr (Or.inr (Or.inl ⟨owner, hholds, hsession.imp (fun h => h) (haccepted owner)⟩))
      · refine hkeep (hexact.frame hlog rfl rfl ?_)
        simp only [paid, Function.update_apply, if_neg hstream]
        rfl
  | closed id code =>
      by_cases hstream : streamId = id
      · subst hstream
        exact Or.inr (Or.inl ⟨_, List.mem_append_right _ List.mem_cons_self, decide_eq_true rfl⟩)
      · have hkept : (m.noted (.callback (.stream (.streamClose id code)))).kept streamId =
            m.kept streamId := kept_quiet m rfl
        exact hkeep (hexact.frame hlog (OrdMap.find?_erase_ne _ hstream)
          (OrdMap.find?_erase_ne _ hstream) (congrArg (m.due streamId + ·) hkept.symm))
  | accepted id hsettled => exact hexact.forget _ id hsettled
  | ended id hsettled => exact hexact.forget _ id hsettled
  | forgotten id hsettled => exact hexact.forget m.accepted id hsettled
  | finished id hfin => exact hkeep (hexact.frame hlog rfl rfl rfl)

theorem Reaches.covered (h : Reaches isServer limit holds fins m m') {streamId : Int}
    (haccepted : ∀ sessionId ∈ m.accepted, m.Settled isServer sessionId)
    (hinv : Covered isServer holds streamId m) :
    Covered isServer holds streamId m' ∧
      ∀ sessionId ∈ m'.accepted, m'.Settled isServer sessionId := by
  induction h with
  | refl => exact ⟨hinv, haccepted⟩
  | tail _ hlast ih => exact ⟨hlast.covered ih.2 ih.1, hlast.acceptedSettled ih.2⟩

/-! ### A rejected stream stays out -/

/-- Without its FIN a rejected stream stays rejected, and nothing of it is read. -/
theorem Step.shut (h : Step isServer limit holds fins m m') {streamId : Int}
    (hfins : ¬fins streamId) (hrejected : streamId ∈ m.rejected) :
    streamId ∈ m'.rejected ∧ m'.reads streamId = m.reads streamId := by
  cases h with
  | note call hplain => exact ⟨hrejected, reads_quiet m (NgCall.readsStream_plain hplain streamId)⟩
  | read id data fin callbacks rv hopen =>
      refine ⟨hrejected, reads_quiet m (decide_eq_false ?_)⟩
      rintro rfl
      exact hopen hrejected
  | asked id code => exact ⟨hrejected, reads_quiet m rfl⟩
  | refused id fin amount hopen hdue hlimit hfin =>
      refine ⟨?_, rfl⟩
      cases fin with
      | true => exact hrejected
      | false => exact (OrdSet.mem_insert _ _ _).2 (Or.inr hrejected)
  | closed id code => exact ⟨hrejected, reads_quiet m rfl⟩
  | finished id hfin =>
      refine ⟨(OrdSet.mem_erase _ _ _).2 ⟨?_, hrejected⟩, rfl⟩
      rintro rfl
      exact hfins hfin
  | _ => exact ⟨hrejected, rfl⟩

theorem Reaches.shut (h : Reaches isServer limit holds fins m m') {streamId : Int}
    (hfins : ¬fins streamId) (hrejected : streamId ∈ m.rejected) :
    streamId ∈ m'.rejected ∧ m'.reads streamId = m.reads streamId := by
  induction h with
  | refl => exact ⟨hrejected, rfl⟩
  | tail _ hlast ih =>
      rcases hlast.shut hfins ih.1 with ⟨hmem, hreads⟩
      exact ⟨hmem, hreads.trans ih.2⟩

/-- Besides what nghttp3 asks for itself, a stream is stopped when it is rejected, and only once. -/
def StoppedOnce (m : Meter) (streamId : Int) : Prop :=
  m.stopped.count streamId = m.asks streamId + if streamId ∈ m.rejected then 1 else 0

theorem Step.stoppedOnce (h : Step isServer limit holds fins m m') {streamId : Int}
    (hfins : ¬fins streamId) (hinv : StoppedOnce m streamId) : StoppedOnce m' streamId := by
  unfold StoppedOnce at hinv ⊢
  cases h with
  | note call hplain =>
      rw [asks_quiet m (NgCall.asksStop_plain hplain streamId)]
      exact hinv
  | read id data fin callbacks rv hopen =>
      have hasks : (m.noted (.readStream2 id data fin callbacks rv)).asks streamId =
          m.asks streamId := asks_quiet m rfl
      exact hinv.trans (congrArg (· + _) hasks.symm)
  | asked id code =>
      have hasks := asks_noted m (.callback (.stream (.stopSending id code))) streamId
      refine Eq.trans ?_ (congrArg (· + _) hasks.symm)
      dsimp only
      rw [List.count_append, hinv]
      by_cases hcode : code = wtBufferedStreamRejected
      · by_cases hstream : id = streamId
        · simp [NgCall.asksStop, hcode, hstream, noted]
          omega
        · simp [NgCall.asksStop, hstream, noted, hcode]
      · simp [NgCall.asksStop, hcode, noted]
        rfl
  | refused id fin amount hopen hdue hlimit hfin =>
      dsimp only
      rw [List.count_append, hinv]
      by_cases hstream : streamId = id
      · subst hstream
        -- Without the FIN the stream enters the rejected ones, with the one event for it.
        cases fin with
        | true => exact absurd (hfin rfl) hfins
        | false => simp [hopen, asks, forgetStream, paid]
      · have hcount : [id].count streamId = 0 :=
          List.count_eq_zero.2 fun hmem => hstream (List.mem_singleton.1 hmem)
        rw [hcount]
        cases fin <;> simp [asks, forgetStream, paid, hstream]
  | closed id code =>
      have hasks : (m.noted (.callback (.stream (.streamClose id code)))).asks streamId =
          m.asks streamId := asks_quiet m rfl
      exact hinv.trans (congrArg (· + _) hasks.symm)
  | finished id hfin =>
      have hstream : streamId ≠ id := by
        rintro rfl
        exact hfins hfin
      simpa [OrdSet.mem_erase, hstream, asks] using hinv
  | _ => exact hinv

theorem Reaches.stoppedOnce (h : Reaches isServer limit holds fins m m') {streamId : Int}
    (hfins : ¬fins streamId) (hinv : StoppedOnce m streamId) : StoppedOnce m' streamId := by
  induction h with
  | refl => exact hinv
  | tail _ hlast ih => exact hlast.stoppedOnce hfins ih

end Meter

end H3
end WebTransport
