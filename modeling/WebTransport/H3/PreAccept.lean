import WebTransport.H3.Metering

/-!
# H3.PreAccept — buffering before acceptance is bounded

* `preaccept_metered`  : the counts are right, and no stream is rejected without need;
* `preaccept_exact`    : no byte goes uncounted;
* `rejected_until_fin` : a rejected stream stays out until its FIN.
-/

namespace WebTransport
namespace H3

open Bindings

namespace H3Session

variable {N : Nghttp3}

/-! ## Every run -/

/-- All bytes of the stream that nghttp3 ever kept back. -/
def bytesKeptBack (s : H3Session N) (streamId : Int) : Nat :=
  ((s.ngLog.map Prod.fst).map (NgCall.keptBack streamId)).sum

/-- The reads of the stream. -/
def readsOf (s : H3Session N) (streamId : Int) : Nat :=
  (s.ngLog.map Prod.fst).countP (NgCall.readsStream streamId)

/-- How often nghttp3 itself asked to stop the stream with the code of a rejection. -/
def stopsAsked (s : H3Session N) (streamId : Int) : Nat :=
  (s.ngLog.map Prod.fst).countP (NgCall.asksStop streamId)

/-- A run from the creation of the session object, with no bytes due. -/
theorem meter_run (fins : Int → Prop) (isServer : Bool) (config : H3SessionConfig) (conn : N.Conn)
    (inputs : List Input)
    (hfin : ∀ input ∈ inputs, ∀ streamId, input.givesFin streamId = true → fins streamId) :
    Metered fins (create isServer config conn) ((create isServer config conn).run inputs) := by
  apply Meters.run inputs (create isServer config conn) hfin
  intro streamId guard hguard
  cases hguard

/-- The counts of a fresh session are right, and so are those of every run. -/
theorem sound_run (isServer : Bool) (config : H3SessionConfig) (conn : N.Conn) (inputs : List Input)
    (streamId : Int) :
    Meter.Sound config.wtPreAcceptBufferLimit
      (((create isServer config conn).run inputs).meter 0) streamId := by
  have hmoved := meter_run (fun _ => True) isServer config conn inputs fun _ _ _ _ => trivial
  apply (hmoved.path 0).sound
  refine ⟨rfl, ?_, ?_, Nat.le_refl _, fun _ => rfl, ?_, ?_⟩
  · exact fun total h => by cases h
  · exact fun sessionId h => by cases h
  · exact fun h => absurd h (OrdSet.not_mem_empty _)
  · exact fun h => absurd h List.not_mem_nil

/-- The counts of the streams of sessions that are not accepted yet are right in every reachable
state: a stream is counted together with its session, never for an accepted session, never over the
limit and never for more than nghttp3 kept back; and a stream is rejected, and stopped with the code
of a rejection, only when nghttp3 kept more of it back than the limit allows. -/
theorem preaccept_metered (isServer : Bool) (config : H3SessionConfig) (conn : N.Conn)
    (inputs : List Input) (streamId : Int) :
    let s := (create isServer config conn).run inputs
    (s.preAcceptBufferedBytes.find? streamId).isSome =
        (s.preAcceptStreamSessionIds.find? streamId).isSome ∧
      (∀ total, s.preAcceptBufferedBytes.find? streamId = some total →
        0 < total ∧ total ≤ config.wtPreAcceptBufferLimit ∧ total ≤ s.bytesKeptBack streamId) ∧
      (∀ sessionId, s.preAcceptStreamSessionIds.find? streamId = some sessionId →
        sessionId ∉ s.acceptedSessionIds) ∧
      (streamId ∈ s.rejectedPreAcceptStreamIds →
        s.preAcceptBufferedBytes.find? streamId = none ∧
          config.wtPreAcceptBufferLimit < s.bytesKeptBack streamId) ∧
      (streamId ∈ stopsOf s.pushed →
        config.wtPreAcceptBufferLimit < s.bytesKeptBack streamId ∨ 0 < s.stopsAsked streamId) := by
  intro s
  have hsound : Meter.Sound config.wtPreAcceptBufferLimit (s.meter 0) streamId :=
    sound_run isServer config conn inputs streamId
  refine ⟨hsound.owned, ?_, hsound.waiting, ?_, hsound.stopped⟩
  · intro total htotal
    rcases hsound.bounded total htotal with ⟨hpos, hlimit⟩
    refine ⟨hpos, hlimit, ?_⟩
    have hcount : (s.meter 0).count streamId = total := congrArg (Option.getD · 0) htotal
    exact hcount ▸ hsound.counted
  · exact fun hmem => ⟨hsound.uncounted hmem, hsound.exceeded hmem⟩

/-- No byte goes uncounted: a stream is stopped, or is closed, or in one of the recorded reads
nghttp3 kept it back for no session or for one that is settled, or its count is all that nghttp3
ever kept back of it, and this is within the limit. -/
theorem preaccept_exact (isServer : Bool) (config : H3SessionConfig) (conn : N.Conn)
    (inputs : List Input) (streamId : Int) :
    let s := (create isServer config conn).run inputs
    streamId ∈ stopsOf s.pushed ∨
      (∃ e ∈ s.ngLog, e.1.tellsClosed streamId = true) ∨
      (∃ sessionId, (∃ e ∈ s.ngLog, N.HoldsBack streamId sessionId e.1) ∧
        (sessionId < 0 ∨ ∃ e ∈ s.ngLog, e.1.settles isServer sessionId = true)) ∨
      ((s.preAcceptBufferedBytes.find? streamId).getD 0 = s.bytesKeptBack streamId ∧
        s.bytesKeptBack streamId ≤ config.wtPreAcceptBufferLimit) := by
  intro s
  have hmoved := meter_run (fun _ => True) isServer config conn inputs fun _ _ _ _ => trivial
  have hstart : Meter.Covered isServer N.HoldsBack streamId
      ((create isServer config conn : H3Session N).meter 0) :=
    Or.inr (Or.inr (Or.inr ⟨rfl, fun sessionId h => by cases h⟩))
  have hnone : ∀ sessionId ∈ ((create isServer config conn : H3Session N).meter 0).accepted,
      ((create isServer config conn : H3Session N).meter 0).Settled isServer sessionId :=
    fun sessionId hmem => absurd hmem (OrdSet.not_mem_empty _)
  have hcovered : Meter.Covered isServer N.HoldsBack streamId (s.meter 0) :=
    ((hmoved.path 0).covered hnone hstart).1
  -- A line of the meter's record is a line of the session's.
  have hline : ∀ call ∈ (s.meter 0).log, ∃ e ∈ s.ngLog, e.1 = call :=
    fun call hcall => List.mem_map.1 hcall
  rcases hcovered with hstopped | ⟨call, hcall, hcloses⟩ | ⟨sessionId, hholds, hsession⟩ | hexact
  · exact Or.inl hstopped
  · rcases hline call hcall with ⟨e, he, rfl⟩
    exact Or.inr (Or.inl ⟨e, he, hcloses⟩)
  · rcases hholds with ⟨call, hcall, hback⟩
    rcases hline call hcall with ⟨e, he, rfl⟩
    refine Or.inr (Or.inr (Or.inl ⟨sessionId, ⟨e, he, hback⟩, hsession.imp (fun h => h) ?_⟩))
    rintro ⟨call, hcall, hsettles⟩
    rcases hline call hcall with ⟨e, he, rfl⟩
    exact ⟨e, he, hsettles⟩
  · have hcounted : (s.preAcceptBufferedBytes.find? streamId).getD 0 = s.bytesKeptBack streamId :=
      hexact.counted
    refine Or.inr (Or.inr (Or.inr ⟨hcounted, ?_⟩))
    rw [← hcounted]
    have hsound : Meter.Sound config.wtPreAcceptBufferLimit (s.meter 0) streamId :=
      sound_run isServer config conn inputs streamId
    cases hfind : s.preAcceptBufferedBytes.find? streamId with
    | none => exact Nat.zero_le _
    | some total => exact (hsound.bounded total hfind).2

/-- Until its FIN arrives a stream is stopped at most once besides what nghttp3 asks for, namely
when it is rejected; and from then on it stays rejected, none of its bytes reaches nghttp3, and
nothing of it is counted. -/
theorem rejected_until_fin (isServer : Bool) (config : H3SessionConfig) (conn : N.Conn)
    (front back : List Input) (streamId : Int)
    (hfin : ∀ input ∈ front ++ back, input.givesFin streamId = false) :
    let s := (create isServer config conn).run front
    let s' := s.run back
    (stopsOf s'.pushed).count streamId =
        s'.stopsAsked streamId + (if streamId ∈ s'.rejectedPreAcceptStreamIds then 1 else 0) ∧
      (streamId ∈ s.rejectedPreAcceptStreamIds →
        streamId ∈ s'.rejectedPreAcceptStreamIds ∧ s'.readsOf streamId = s.readsOf streamId) := by
  intro s s'
  -- Every stream but this one may get its FIN.
  have hothers : ∀ inputs : List Input, (∀ input ∈ inputs, input.givesFin streamId = false) →
      ∀ input ∈ inputs, ∀ id, input.givesFin id = true → id ≠ streamId := by
    rintro inputs hnone input hinput id hgives rfl
    rw [hnone input hinput] at hgives
    cases hgives
  have hfront := meter_run (N := N) (· ≠ streamId) isServer config conn front
    (hothers front fun input hinput => hfin input (List.mem_append_left back hinput))
  have hback : Metered (· ≠ streamId) s s' := by
    apply Meters.run back s
    · exact hothers back fun input hinput => hfin input (List.mem_append_right front hinput)
    · exact hfront.held
  have hself : ¬(streamId ≠ streamId) := fun hne => hne rfl
  have hstart : Meter.StoppedOnce ((create isServer config conn : H3Session N).meter 0) streamId :=
    rfl
  refine ⟨?_, (hback.path 0).shut hself⟩
  exact (hback.path 0).stoppedOnce hself ((hfront.path 0).stoppedOnce hself hstart)

/-! ### A stream that waits for its session -/

/-- An nghttp3 that keeps every byte back, as bytes of streams of session 0. -/
def keepingAll : Nghttp3 :=
  { Nghttp3.reading [] with
    readStream2 := fun conn _ _ _ => (conn, [], 0)
    getStreamWtSessionId := fun _ _ => 0 }

/-- Three bytes, with a limit of two. -/
def threeTooMany : List Input := [.receiveStreamData 2 [1, 2, 3] false]

theorem rejected_until_fin_three_bytes :
    let s := (create true { wtPreAcceptBufferLimit := 2 } () : H3Session keepingAll).run
      threeTooMany
    let s' := s.run threeTooMany
    (stopsOf s'.pushed).count 2 = 1 ∧ (2 : Int) ∈ s'.rejectedPreAcceptStreamIds ∧
      s'.readsOf 2 = 1 := by
  intro s s'
  have hshut := rejected_until_fin (N := keepingAll) true { wtPreAcceptBufferLimit := 2 } ()
    threeTooMany threeTooMany 2 (by decide)
  refine ⟨hshut.1.trans (by decide), (hshut.2 (by decide)).1, ?_⟩
  exact (hshut.2 (by decide)).2.trans (by decide)

end H3Session

end H3
end WebTransport
