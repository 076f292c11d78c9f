import WebTransport.H3.Ledger

/-!
# H3.Endings — an HTTP/3 session is reported closed once

`SessionClosed` and `SessionRejected` go together with the removal of the session id.  `close_stream`
and `handle_wt_close_session_error` look the id up first; `close_session`, a WT_CLOSE_SESSION of the
peer and a response to the client do not, and tell of the end of a session that may be over.

* `TellsLive`       : the line of the record finds the session id that it is about to end;
* `Step.once`       : one entry, one end;
* `reported_once`   : over a run of such lines every session ends at most once.
-/

namespace WebTransport
namespace H3

open Bindings

/-- The line of the record enters a session id. -/
def NgCall.opens (isServer : Bool) (sessionId : Int) : NgCall → Bool
  | .callback (.endHeaders streamId) => isServer && streamId = sessionId
  | .submitWtRequest streamId _ rv => streamId = sessionId && rv = 0
  | _ => false

/-- How often a session id was entered. -/
def openings (isServer : Bool) (sessionId : Int) (log : List (NgCall × Books)) : Nat :=
  log.countP fun e => e.1.opens isServer sessionId

/-- The session whose end the line tells, without looking whether it is there. -/
def NgCall.tellsEnd (isServer : Bool) (b : Books) : NgCall → Option Int
  | .closeWtSession sessionId _ _ rv => if rv = 0 then some sessionId else none
  | .callback (.recvWtCloseSession sessionId _ message) =>
      if H3Session.badCloseMessage message then none else some sessionId
  | .callback (.endHeaders sessionId) =>
      if !isServer && b.refusedResponse sessionId then some sessionId else none
  | _ => none

/-- A line that tells of the end of a session finds its id. -/
def TellsLive (isServer : Bool) (e : NgCall × Books) : Prop :=
  (e.1.tellsEnd isServer e.2).all (fun sessionId => sessionId ∈ e.2.sessionIds) = true

instance (isServer : Bool) (e : NgCall × Books) : Decidable (TellsLive isServer e) :=
  inferInstanceAs (Decidable (_ = true))

theorem TellsLive.live {isServer : Bool} {call : NgCall} {b : Books} {sessionId : Int}
    (h : TellsLive isServer (call, b)) (htells : call.tellsEnd isServer b = some sessionId) :
    sessionId ∈ b.sessionIds := by
  unfold TellsLive at h
  rw [htells] at h
  exact of_decide_eq_true h

namespace Ledger

/-- A session id that is there has not ended, none ends twice, and none does anything before it is
entered. -/
structure Once (isServer : Bool) (sessionId : Int) (L : Ledger) : Prop where
  live : sessionId ∈ L.books.sessionIds → L.ends.count sessionId = 0
  once : L.ends.count sessionId ≤ 1
  unopened : openings isServer sessionId L.log = 0 →
    sessionId ∉ L.books.sessionIds ∧ L.ends.count sessionId = 0

variable {isServer : Bool} {sessionId : Int} {L L' : Ledger}

theorem openings_recorded (L : Ledger) (call : NgCall) :
    openings isServer sessionId (L.recorded call) =
      openings isServer sessionId L.log + if call.opens isServer sessionId then 1 else 0 := by
  unfold openings recorded
  rw [List.countP_append, List.countP_singleton]

/-- An entry that leaves this session id and the ends alone. -/
theorem Once.frame (h : Once isServer sessionId L)
    (hids : sessionId ∈ L'.books.sessionIds → sessionId ∈ L.books.sessionIds)
    (hends : L'.ends = L.ends)
    (hlog : openings isServer sessionId L.log ≤ openings isServer sessionId L'.log) :
    Once isServer sessionId L' := by
  refine ⟨?_, ?_, ?_⟩
  · rw [hends]
    exact fun hmem => h.live (hids hmem)
  · rw [hends]
    exact h.once
  · intro hzero
    have hnone := h.unopened (Nat.le_zero.1 (hzero ▸ hlog))
    rw [hends]
    exact ⟨fun hmem => hnone.1 (hids hmem), hnone.2⟩

/-- The end of a session whose id is there. -/
theorem Once.ended (h : Once isServer sessionId L) {endedId : Int}
    (hlive : endedId ∈ L.books.sessionIds)
    (hids : ∀ id, id ∈ L'.books.sessionIds ↔ id ≠ endedId ∧ id ∈ L.books.sessionIds)
    (hends : L'.ends = L.ends ++ [endedId])
    (hlog : openings isServer sessionId L.log ≤ openings isServer sessionId L'.log) :
    Once isServer sessionId L' := by
  have hcount : L'.ends.count sessionId =
      L.ends.count sessionId + if endedId = sessionId then 1 else 0 := by
    rw [hends, List.count_append, List.count_singleton]
    simp
  by_cases hid : endedId = sessionId
  · subst hid
    have hzero := h.live hlive
    rw [if_pos rfl, hzero] at hcount
    refine ⟨?_, le_of_eq hcount, ?_⟩
    · intro hmem
      exact absurd rfl ((hids endedId).1 hmem).1
    · intro hnone
      exact absurd hlive (h.unopened (Nat.le_zero.1 (hnone ▸ hlog))).1
  · rw [if_neg hid, Nat.add_zero] at hcount
    refine ⟨?_, ?_, ?_⟩
    · intro hmem
      rw [hcount]
      exact h.live ((hids sessionId).1 hmem).2
    · rw [hcount]
      exact h.once
    · intro hnone
      have hold := h.unopened (Nat.le_zero.1 (hnone ▸ hlog))
      rw [hcount]
      exact ⟨fun hmem => hold.1 ((hids sessionId).1 hmem).2, hold.2⟩

theorem mem_ended (b : Books) (endedId id : Int) :
    id ∈ ((b.eraseSessionStreams endedId).eraseSession endedId).sessionIds ↔
      id ≠ endedId ∧ id ∈ b.sessionIds := OrdSet.mem_erase _ _ _

/-- Every entry keeps to one end for each session id, when the lines find the ids they end and an
id is entered once at most. -/
theorem Step.once (h : Step isServer L L') (hok : ∀ e ∈ L'.log, TellsLive isServer e)
    (hinv : openings isServer sessionId L.log ≤ 1 → Once isServer sessionId L) :
    openings isServer sessionId L'.log ≤ 1 → Once isServer sessionId L' := by
  intro hopen
  have hgrow : openings isServer sessionId L.log ≤ openings isServer sessionId L'.log := by
    rcases h.log_prefix with ⟨more, hmore⟩
    unfold openings
    rw [hmore, List.countP_append]
    exact Nat.le_add_right _ _
  have hold := hinv (le_trans hgrow hopen)
  have hlast : ∀ call, L'.log = L.recorded call → TellsLive isServer (call, L.books) := by
    intro call hlog
    refine hok _ ?_
    rw [hlog]
    exact List.mem_append_right _ List.mem_cons_self
  cases h with
  | opened call openedId hcall =>
      by_cases hid : openedId = sessionId
      · subst hid
        -- The id was not entered before, so nothing was told of it.
        have hopens : call.opens isServer openedId = true := by
          rcases hcall with ⟨hrole, rfl⟩ | ⟨headers, rfl⟩
          · simp [NgCall.opens, hrole]
          · simp [NgCall.opens]
        have hfirst : openings isServer openedId L.log = 0 := by
          have hsum := @openings_recorded isServer openedId L call
          rw [hopens, if_pos rfl] at hsum
          have hopen' : openings isServer openedId (L.recorded call) ≤ 1 := hopen
          omega
        have hnone := hold.unopened hfirst
        refine ⟨fun _ => hnone.2, hold.once, ?_⟩
        intro hzero
        have hsum := @openings_recorded isServer openedId L call
        rw [hopens, if_pos rfl] at hsum
        have hzero' : openings isServer openedId (L.recorded call) = 0 := hzero
        omega
      · refine hold.frame ?_ rfl hgrow
        intro hmem
        rcases (OrdSet.mem_insert _ _ _).1 hmem with heq | hmem
        · exact absurd heq.symm hid
        · exact hmem
  | sessionClosed closedId hsession => exact hold.ended hsession (mem_ended _ _) rfl hgrow
  | sessionEnded call endedId hcall =>
      refine hold.ended ?_ (mem_ended _ _) rfl hgrow
      rcases hcall with ⟨code, message, rfl⟩ | ⟨code, message, rfl, hgood⟩
      · exact (hlast _ rfl).live rfl
      · refine (hlast _ rfl).live ?_
        simp only [NgCall.tellsEnd, hgood, Bool.false_eq_true, if_false]
  | refused refusedId status headers hstatus =>
      refine hold.frame ?_ rfl hgrow
      exact fun hmem => ((OrdSet.mem_erase _ _ _).1 hmem).2
  | rejected rejectedId hclient hresponse =>
      refine hold.ended ((hlast _ rfl).live ?_) (fun id => OrdSet.mem_erase _ _ _) rfl hgrow
      simp [NgCall.tellsEnd, hclient, hresponse]
  | _ => exact hold.frame id rfl hgrow

end Ledger

namespace H3Session

variable {N : Nghttp3}

/-- How often the end of a session was told. -/
def endCount (s : H3Session N) (sessionId : Int) : Nat :=
  s.pushed.countP fun e => e.ends && e.sessionId = sessionId

theorem count_endsOf (events : List H3Event) (sessionId : Int) :
    (endsOf events).count sessionId =
      events.countP fun e => e.ends && e.sessionId = sessionId := by
  induction events with
  | nil => rfl
  | cons e events ih =>
      have hcons : endsOf (e :: events) =
          (if e.ends then [e.sessionId] else []) ++ endsOf events := by
        unfold endsOf
        rw [List.filterMap_cons]
        cases e.ends <;> rfl
      rw [hcons, List.count_append, ih, List.countP_cons]
      cases hends : e.ends with
      | false => simp
      | true =>
          by_cases hid : e.sessionId = sessionId
          · simp [hid, Nat.add_comm]
          · simp [hid]

/-- In a run in which `close_session`, a WT_CLOSE_SESSION and a refusing response find the session
they end, and nghttp3 uses a stream id for one session at most, every session is reported closed or
rejected at most once. -/
theorem reported_once (isServer : Bool) (config : H3SessionConfig) (conn : N.Conn)
    (inputs : List Input) (sessionId : Int)
    (hlive : ∀ e ∈ ((create isServer config conn).run inputs).ngLog, TellsLive isServer e)
    (hopened : openings isServer sessionId ((create isServer config conn).run inputs).ngLog ≤ 1) :
    ((create isServer config conn).run inputs).endCount sessionId ≤ 1 := by
  have hstart : Ledger.Once isServer sessionId (create isServer config conn).ledger := by
    refine ⟨fun _ => rfl, Nat.zero_le 1, ?_⟩
    intro _
    exact ⟨OrdSet.not_mem_empty sessionId, rfl⟩
  have honce : Ledger.Once isServer sessionId ((create isServer config conn).run inputs).ledger :=
    @Ledger.Reaches.invariant isServer (TellsLive isServer)
      (fun L => openings isServer sessionId L.log ≤ 1 → Ledger.Once isServer sessionId L)
      (fun hstep hok hinv => hstep.once hok hinv) _ _
      (Moves.run (create isServer config conn) inputs).path (fun _ => hstart) hlive hopened
  have hcount := count_endsOf ((create isServer config conn).run inputs).pushed sessionId
  exact le_trans (le_of_eq hcount.symm) honce.once

/-- A client with one session. -/
def connected : List Input :=
  [.bindQpackEncoderStream 6, .bindQpackDecoderStream 10, .connect 0 (ascii "https://a/") []]

/-- `close_session` twice, or once before the WT_CLOSE_SESSION of the peer or a refusing response,
reports the end twice. -/
theorem reported_twice :
    let twice : H3Session (Nghttp3.reading []) :=
      (create false {} ()).run (connected ++ [.closeSession 0 0 [], .closeSession 0 0 []])
    let crossed : H3Session (Nghttp3.reading [.recvWtCloseSession 0 5 []]) :=
      (create false {} ()).run
        (connected ++ [.closeSession 0 0 [], .receiveStreamData 0 [1, 2, 0, 0] false])
    let refused : H3Session (Nghttp3.reading
        [.beginHeaders 0, .recvHeader 0 (ascii ":status") (ascii "404"), .endHeaders 0]) :=
      (create false {} ()).run
        (connected ++ [.closeSession 0 0 [], .receiveStreamData 0 [1, 2, 0, 0] false])
    ¬ twice.endCount 0 ≤ 1 ∧ ¬ crossed.endCount 0 ≤ 1 ∧ ¬ refused.endCount 0 ≤ 1 := by
  refine ⟨?_, ?_, ?_⟩ <;> decide +kernel

/-- nghttp3 as it hands over a WT_CLOSE_SESSION. -/
def closing : Nghttp3 := .reading [.recvWtCloseSession 0 5 []]

/-- The peer's WT_CLOSE_SESSION, and the reset of the CONNECT stream behind it. -/
def closedThenReset : H3Session closing :=
  (create false {} ()).run
    (connected ++ [.receiveStreamData 0 [1, 2, 0, 0] false, .closeStream 0 0])

/-- The end is told with the WT_CLOSE_SESSION and not again with the reset. -/
theorem reported_once_close_then_reset :
    (∀ e ∈ closedThenReset.ngLog, TellsLive false e) ∧ closedThenReset.endCount 0 = 1 ∧
      closedThenReset.endCount 0 ≤ 1 := by
  have hlive : ∀ e ∈ closedThenReset.ngLog, TellsLive false e := by decide +kernel
  have hopened : openings false 0 closedThenReset.ngLog ≤ 1 := by decide +kernel
  exact ⟨hlive, by decide +kernel, reported_once false {} _ _ 0 hlive hopened⟩

end H3Session

end H3
end WebTransport
