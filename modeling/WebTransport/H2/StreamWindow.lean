import WebTransport.H2.Unfinished

/-!
# H2.StreamWindow — unfinished capsules and the window of one stream

The peer may send `initial_window_size` unconsumed bytes on the stream of a session.  Behind a DATA
frame for an established session the bytes of its unfinished capsule stay unconsumed up to
`max_unfinished_capsule_bytes`, a constant that knows nothing of the configured window.

* `onRecvData_recordOf`          : what DATA leaves unconsumed, in closed form;
* `Jams`                         : the DATA frames behind which the window is used up;
* `stream_window_stays_open_iff` : the window of the stream is open behind every other DATA frame;
* `large_window_stays_open`      : above `max_unfinished_capsule_bytes` no DATA frame closes it, as
  long as all that is unconsumed lies in the buffer.
-/

namespace WebTransport
namespace H2

open Bindings
open SessionScope (retained readHead retained_le retained_unfinished)

namespace SessionScope

/-- What a buffer leaves in the record is the whole buffer only where no capsule is finished. -/
theorem retained_lt {config : H2SessionConfig} {buffer : Bytes}
    (h : ¬ (readHead config buffer = .unfinished ∧ buffer.length ≤ maxUnfinishedCapsuleBytes))
    (hne : buffer ≠ []) : retained config buffer < buffer.length := by
  have hpos : 0 < buffer.length := List.length_pos_iff.2 hne
  cases hhead : readHead config buffer with
  | unfinished =>
      have hlong : ¬ buffer.length ≤ maxUnfinishedCapsuleBytes := fun hle => h ⟨hhead, hle⟩
      rw [retained_unfinished hhead]
      omega
  | oversized =>
      rw [retained_oversized hhead]
      exact hpos
  | capsule type payload rest =>
      have hlt := length_lt_of_readHead hhead
      by_cases hread : readPayload type payload = .malformed
      · rw [retained_malformed hhead hread]
        exact hlt
      · rw [retained_capsule hhead hread]
        exact lt_of_le_of_lt (retained_le config rest) hlt

end SessionScope

namespace H2Session

/-! ## The record of the session behind a DATA frame -/

/-- What a session method leaves in the record of its own session. -/
theorem inScope_recordOf (s : H2Session) (sessionId : Int) (f : SessionScope → SessionScope)
    (hid : (f (s.scope sessionId)).sessionId = sessionId) :
    (s.inScope sessionId f).recordOf sessionId =
      settleAll (s.recordOf sessionId) (f (s.scope sessionId)).effects := by
  unfold inScope commit
  rw [hid]
  exact (foldl_perform_record _ sessionId _).1

/-- DATA for an established session leaves at most what its buffer retains. -/
theorem onRecvData_recordOf {s : H2Session} {sessionId : Int} {w : WtSessionInfo}
    (hentry : s.wtSessions.find? sessionId = some w) (hwf : WtSessionInfo.Wf s.isServer w)
    (hest : w.isEstablished = true) (hlive : w.isTerminated = false) {data : Bytes}
    (hdata : data.length ≠ 0) (rv : Option NgError) :
    let record := s.recordOf sessionId + retained s.config (w.capsuleBuffer ++ data) -
      w.capsuleBuffer.length
    (s.onRecvData sessionId data rv).recordOf sessionId ≤ record ∧
      (¬ (((s.recordData sessionId data).scope sessionId).recvEstablished data).Over →
        (s.onRecvData sessionId data rv).recordOf sessionId = record) := by
  dsimp only
  have hsound : ((s.recordData sessionId data).scope sessionId).Sound s.isServer := by
    refine ⟨rfl, ?_⟩
    intro w' hw'
    have heq : some w = some w' := hentry.symm.trans hw'
    cases heq
    exact hwf
  have hid : (((s.recordData sessionId data).scope sessionId).recvEstablished data).sessionId =
      sessionId := congrArg (fun i => i.2.2) (SessionScope.recvEstablished_identity _ data)
  have hrecord := inScope_recordOf (s.recordData sessionId data) sessionId
    (·.recvEstablished data) hid
  rcases SessionScope.recvEstablished_settles hsound hentry hlive data with ⟨es, hes, hsettles⟩
  have heffects : (((s.recordData sessionId data).scope sessionId).recvEstablished data).effects =
      es := hes
  rw [heffects, (recordData_total s sessionId data).2] at hrecord
  have hbound := hsettles (s.recordOf sessionId + data.length)
  have hlen : (w.withBuffer (w.capsuleBuffer ++ data)).capsuleBuffer.length =
      w.capsuleBuffer.length + data.length := List.length_append
  have hretained : retained (((s.recordData sessionId data).scope sessionId).appendBuffer
      data).config (w.withBuffer (w.capsuleBuffer ++ data)).capsuleBuffer =
      retained s.config (w.capsuleBuffer ++ data) := rfl
  rw [hlen, hretained] at hbound
  rw [onRecvData_eq hentry, if_neg (by simp [hlive]), if_neg hdata, if_pos hest, hrecord]
  refine ⟨by omega, ?_⟩
  intro hgo
  have heq := hbound.2 hgo
  omega

/-! ## The window of the stream -/

/-- DATA that uses the window of the stream up without finishing a capsule, while the buffer stays
within `max_unfinished_capsule_bytes`, or an empty frame behind it. -/
def Jams (s : H2Session) (sessionId : Int) (w : WtSessionInfo) (data : Bytes) : Prop :=
  s.recordOf sessionId + data.length = s.config.initialWindowSize ∧
    (data = [] ∨ readHead s.config (w.capsuleBuffer ++ data) = .unfinished ∧
      (w.capsuleBuffer ++ data).length ≤ maxUnfinishedCapsuleBytes)

instance (s : H2Session) (sessionId : Int) (w : WtSessionInfo) (data : Bytes) :
    Decidable (s.Jams sessionId w data) := by
  unfold Jams
  infer_instance

variable {isServer : Bool} {config : H2SessionConfig} {s : H2Session}

/-- DATA that finishes no capsule and stays below the threshold is kept, and the session goes on. -/
theorem recvEstablished_goes_on {sessionId : Int} {w : WtSessionInfo} {data : Bytes}
    (hentry : s.wtSessions.find? sessionId = some w) (hlive : w.isTerminated = false)
    (hest : w.isEstablished = true) (hdata : data.length ≠ 0)
    (hhead : readHead s.config (w.capsuleBuffer ++ data) = .unfinished)
    (hshort : (w.capsuleBuffer ++ data).length ≤ maxUnfinishedCapsuleBytes) :
    ¬ (((s.recordData sessionId data).scope sessionId).recvEstablished data).Over := by
  have hstep := (onRecvData_unfinished hentry hlive hest hdata hhead hshort none).2.1
  rw [onRecvData_eq hentry, if_neg (by simp [hlive]), if_neg hdata, if_pos hest] at hstep
  have hseen := view_call_self (s.recordData sessionId data) sessionId (.recvEstablished data)
  have hfind : ((s.recordData sessionId data).inScope sessionId
      (·.recvEstablished data)).wtSessions.find? sessionId =
      some (w.withBuffer (w.capsuleBuffer ++ data)) := by
    rw [hstep]
    exact OrdMap.find?_insert_self _ _ _
  intro hover
  have hscoped : (((s.recordData sessionId data).scope sessionId).recvEstablished data).entry =
      some (w.withBuffer (w.capsuleBuffer ++ data)) := (congrArg View.entry hseen).symm.trans hfind
  have hend : w.isTerminated = true := 
    hover (w.withBuffer (w.capsuleBuffer ++ data)) hscoped
  rw [hlive] at hend
  cases hend

/-- In every run, behind every DATA frame for an established session of a peer that keeps to the
window of the stream, the window is open again if and only if the frame does not jam it. -/
theorem stream_window_stays_open_iff (h : create isServer config = .ok s) (past : List Input)
    {sessionId : Int} {w : WtSessionInfo} {data : Bytes} {rv : Option NgError}
    (hentry : (s.run past).wtSessions.find? sessionId = some w) (hest : w.isEstablished = true)
    (hlive : w.isTerminated = false)
    (hfits : (s.run past).recordOf sessionId + data.length ≤ config.initialWindowSize) :
    ((s.run past).step (.recvData sessionId data rv)).recordOf sessionId <
        config.initialWindowSize ↔
      ¬ (s.run past).Jams sessionId w data := by
  have hstep : (s.run past).step (.recvData sessionId data rv) =
      (s.run past).onRecvData sessionId data rv := rfl
  have hconfig : (s.run past).config = config :=
    (run_calls s sessionId past).config.trans (create_view h sessionId).2.2
  rw [hstep]
  unfold Jams
  rw [hconfig]
  by_cases hdata : data.length = 0
  · -- Nothing is recorded and nothing is consumed.
    have hnil : data = [] := List.length_eq_zero_iff.1 hdata
    have hsame : ((s.run past).onRecvData sessionId data rv).recordOf sessionId =
        (s.run past).recordOf sessionId := by
      rw [onRecvData_eq hentry, if_neg (by simp [hlive]), if_pos hdata]
      rfl
    rw [hsame, hdata]
    simp only [hnil, true_or, and_true]
    omega
  · rcases onRecvData_recordOf hentry (run_wf_role h past sessionId w hentry) hest hlive hdata rv
      with ⟨hle, heq⟩
    rw [hconfig] at hle heq
    have hlen : (w.capsuleBuffer ++ data).length = w.capsuleBuffer.length + data.length :=
      List.length_append
    have hnotNil : data ≠ [] := fun hnil => hdata (congrArg List.length hnil)
    constructor
    · rintro hopen ⟨hfull, hnil | ⟨hhead, hshort⟩⟩
      · exact hnotNil hnil
      · have hgo := recvEstablished_goes_on hentry hlive hest hdata (by rw [hconfig]; exact hhead)
          hshort
        rw [heq hgo, retained_unfinished hhead] at hopen
        omega
    · intro hfree
      have hbound := retained_le config (w.capsuleBuffer ++ data)
      by_cases hfull : (s.run past).recordOf sessionId + data.length = config.initialWindowSize
      · have hpart : retained config (w.capsuleBuffer ++ data) <
            (w.capsuleBuffer ++ data).length := by
          refine SessionScope.retained_lt (fun hkept => hfree ⟨hfull, Or.inr hkept⟩) ?_
          intro hnil
          exact hnotNil (List.append_eq_nil_iff.1 hnil).2
        omega
      · omega

/-- A server with a stream window of sixteen bytes. -/
def smallWindow : H2Session :=
  { isServer := true, config := { initialWindowSize := 16 } }

/-- The first sixteen bytes of a DATAGRAM capsule with a hundred bytes of payload. -/
def firstSixteen : Bytes := [0x00, 0x40, 0x64] ++ List.replicate 13 0

/-- A capsule of 103 bytes, far within the limit, on an established session: the peer sends the
sixteen bytes it may send, none of them is consumed, and it can never send the rest. -/
theorem small_window_jams :
    create true { initialWindowSize := 16 } = .ok smallWindow ∧
      ((smallWindow.run (openSession 1)).wtSessions.find? 1).any
        (fun w => w.isEstablished && !w.isTerminated) = true ∧
      (smallWindow.run (openSession 1)).recordOf 1 + firstSixteen.length ≤ 16 ∧
      ((smallWindow.run (openSession 1 ++ [.recvData 1 firstSixteen none])).wtSessions.find? 1).any
        (fun w => !w.isTerminated && w.capsuleBuffer == firstSixteen) = true ∧
      ¬ (smallWindow.run (openSession 1 ++ [.recvData 1 firstSixteen none])).recordOf 1 < 16 := by
  refine ⟨rfl, ?_, ?_, ?_, ?_⟩
  · decide +kernel
  · decide +kernel
  · decide +kernel
  · decide +kernel

/-- Fifteen bytes leave the window open. -/
theorem stream_window_stays_open_iff_fifteen :
    ∃ w, (smallWindow.run (openSession 1)).wtSessions.find? 1 = some w ∧
      w.isEstablished = true ∧ w.isTerminated = false ∧
      ((smallWindow.run (openSession 1)).step (.recvData 1 (firstSixteen.take 15) none)).recordOf 1
        < 16 := by
  have hcreate : create true { initialWindowSize := 16 } = .ok smallWindow := rfl
  have hsome : ((smallWindow.run (openSession 1)).wtSessions.find? 1).any
      (fun w => w.isEstablished && !w.isTerminated) = true := by decide +kernel
  rcases Option.any_eq_true_iff_get .. |>.1 hsome with ⟨hget, hboth⟩
  refine ⟨_, (Option.some_get hget).symm, ?_⟩
  rw [Bool.and_eq_true, Bool.not_eq_true'] at hboth
  refine ⟨hboth.1, hboth.2, ?_⟩
  have hfits : (smallWindow.run (openSession 1)).recordOf 1 + (firstSixteen.take 15).length ≤ 16 := by
    decide +kernel
  refine (stream_window_stays_open_iff hcreate (openSession 1) (Option.some_get hget).symm hboth.1
    hboth.2 hfits).2 ?_
  rintro ⟨hfull, -⟩
  have hless : (smallWindow.run (openSession 1)).recordOf 1 + (firstSixteen.take 15).length < 16 := by
    decide +kernel
  have hwindow : (smallWindow.run (openSession 1)).config.initialWindowSize = 16 := by
    decide +kernel
  rw [hwindow] at hfull
  omega

/-- A window above the threshold is never jammed while all that is unconsumed lies in the buffer. -/
theorem large_window_stays_open {sessionId : Int} {w : WtSessionInfo} {data : Bytes}
    (hlarge : maxUnfinishedCapsuleBytes < s.config.initialWindowSize) (hdata : data ≠ [])
    (hbuffered : s.recordOf sessionId ≤ w.capsuleBuffer.length) : ¬ s.Jams sessionId w data := by
  rintro ⟨hfull, hnil | ⟨-, hshort⟩⟩
  · exact hdata hnil
  · rw [List.length_append] at hshort
    omega

end H2Session

end H2
end WebTransport
