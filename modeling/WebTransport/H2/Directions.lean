import WebTransport.H2.Calls

/-!
# H2.Directions — the direction rule at the places that send

A peer refuses stream data for a stream it only sends on, and it refuses flow control for a stream
it only receives on; both close the whole session.  `send_stream_data` looks at the direction of a
stream before it sends, `reset_stream` and `stop_sending` do not.

* `Trans.direction` : every change queues capsules the peer accepts, as long as streams are reset and
  stopped in their direction; the answer to WT_STOP_SENDING and the replenishing need no care;
* `H2Session.direction_iff` : a call keeps the rule exactly when it does not reset a stream that only
  the peer sends on or stop one that only this side sends on.
-/

namespace WebTransport
namespace H2

open Bindings

/-! ## The rule -/

/-- The peer's direction check lets the capsule through; `isServer` is the role of the sender. -/
def Capsule.directionOk (isServer : Bool) : Capsule → Bool
  | .wtStream _ streamId _ => isReceivableDataCapsule streamId (!isServer)
  | .wtResetStream streamId _ _ => isReceivableDataCapsule streamId (!isServer)
  | .wtStreamDataBlocked streamId _ => isReceivableDataCapsule streamId (!isServer)
  | .wtStopSending streamId _ => isReceivableFlowCapsule streamId (!isServer)
  | .wtMaxStreamData streamId _ => isReceivableFlowCapsule streamId (!isServer)
  | _ => true

/-- What one side receives data on, the other receives flow control on. -/
theorem isReceivableFlowCapsule_not (streamId : Nat) (isServer : Bool) :
    isReceivableFlowCapsule streamId (!isServer) = isReceivableDataCapsule streamId isServer := by
  unfold isReceivableFlowCapsule isReceivableDataCapsule
  split_ifs
  · rfl
  · cases isServerId streamId <;> cases isServer <;> rfl

theorem isReceivableDataCapsule_not (streamId : Nat) (isServer : Bool) :
    isReceivableDataCapsule streamId (!isServer) = isReceivableFlowCapsule streamId isServer := by
  rw [← isReceivableFlowCapsule_not, Bool.not_not]

/-- Resets and stops are only made in the direction the peer accepts. -/
structure Permits.Directed (permits : Permits) (isServer : Bool) : Prop where
  reset : ∀ streamId, permits.reset streamId → isReceivableDataCapsule streamId (!isServer) = true
  stop : ∀ streamId, permits.stop streamId → isReceivableFlowCapsule streamId (!isServer) = true

namespace WtSessionInfo

/-- The flags of an entry say what the bits of its id say: a stream this side can send on is one
the peer receives data on. -/
theorem WfStream.sendable_eq {isServer : Bool} {streamId : Nat} {info : WtStreamInfo}
    (h : WfStream isServer streamId info) :
    isSendableStream info.isLocal info.isUnidirectional =
      isReceivableDataCapsule streamId (!isServer) := by
  rw [h.local_eq, h.uni_eq]
  unfold isSendableStream isReceivableDataCapsule
  cases isUniId streamId <;> cases isServerId streamId <;> cases isServer <;> rfl

/-- A stream that is not for sending only is one the peer receives flow control on. -/
theorem WfStream.receivable_eq {isServer : Bool} {streamId : Nat} {info : WtStreamInfo}
    (h : WfStream isServer streamId info) :
    (!(info.isLocal && info.isUnidirectional)) = isReceivableFlowCapsule streamId (!isServer) := by
  rw [h.local_eq, h.uni_eq]
  unfold isReceivableFlowCapsule
  cases isUniId streamId <;> cases isServerId streamId <;> cases isServer <;> rfl

section Rule

variable {permits : Permits} {config : H2SessionConfig} {isServer : Bool} {w w' : WtSessionInfo}

/-- Every capsule that a change queues goes in a direction the peer accepts. -/
theorem Trans.direction {c : Capsule} (h : Trans permits config isServer w (.sent c) w')
    (hwf : Wf isServer w) (hdir : permits.Directed isServer) : c.directionOk isServer = true := by
  cases h with
  | sendPart hfind hready hpending hsize hsession hstream =>
      have hinfo := hwf.stream hfind
      have hsendable := hinfo.pending_sendable (by rw [hpending]; exact List.cons_ne_nil _ _)
      exact hinfo.sendable_eq.symm.trans hsendable
  | sendFront hfind hready hpending hsession hstream =>
      have hinfo := hwf.stream hfind
      have hsendable := hinfo.pending_sendable (by rw [hpending]; exact List.cons_ne_nil _ _)
      exact hinfo.sendable_eq.symm.trans hsendable
  | streamDataBlocked hfind hready hpending hexhausted =>
      have hinfo := hwf.stream hfind
      exact hinfo.sendable_eq.symm.trans (hinfo.pending_sendable hpending)
  | reset errorCode hpermit hfind hready => exact hdir.reset _ hpermit
  | stop errorCode hpermit hfind hfirst => exact hdir.stop _ hpermit
  | grantStreamData hfind hreceivable hstop hrise hle =>
      exact (isReceivableFlowCapsule_not _ _).trans hreceivable
  | _ => rfl

/-- The same along a path. -/
theorem path_direction {ls : List Label} (h : Path (Trans permits config isServer) w ls w')
    (hwf : Wf isServer w) (hdir : permits.Directed isServer) :
    ∀ c ∈ Label.sentOf ls, c.directionOk isServer = true := by
  induction ls generalizing w with
  | nil =>
      intro c hc
      exact absurd hc List.not_mem_nil
  | cons l ls ih =>
      rcases h with ⟨mid, hstep, hrest⟩
      have hih := ih hrest (hstep.wf hwf)
      cases l with
      | sent c =>
          intro c' hc'
          rcases List.mem_cons.1 hc' with rfl | hc'
          · exact hstep.direction hwf hdir
          · exact hih c' hc'
      | accepted streamId data fin => exact hih
      | received r events => exact hih
      | internal => exact hih

theorem Emits.direction {q : Queued} (h : Emits permits config isServer w q)
    (hwf : Wf isServer w) (hdir : permits.Directed isServer) :
    ∀ c ∈ q.2, c.directionOk isServer = true := by
  rcases h with ⟨ls, hpath, hsent, -, -⟩
  rw [← hsent]
  exact path_direction hpath hwf hdir

end Rule

/-! ## What the calls queue -/

section Calls

variable {isServer : Bool} {w : WtSessionInfo} {streamId : Nat}

/-- Restrictions that permit a stream to be reset under `reset` and stopped under `stop`. -/
def only (streamId : Nat) (reset stop : Prop) : Permits where
  reset id := id = streamId ∧ reset
  stop id := id = streamId ∧ stop
  create _ _ := True
  lateFin _ := True

theorem only_directed {reset stop : Prop}
    (hreset : reset → isReceivableDataCapsule streamId (!isServer) = true)
    (hstop : stop → isReceivableFlowCapsule streamId (!isServer) = true) :
    (only streamId reset stop).Directed isServer := by
  refine ⟨?_, ?_⟩
  · rintro id ⟨rfl, h⟩
    exact hreset h
  · rintro id ⟨rfl, h⟩
    exact hstop h

theorem sendStreamData_direction (hwf : Wf isServer w) (data : Bytes) (fin : Bool) :
    ∀ c ∈ (w.sendStreamData streamId data fin).2, c.directionOk isServer = true := by
  have htaken : ∃ ls, Path (Trans (only streamId False False) {} isServer) w ls
      (w.sendStreamData streamId data fin).1 ∧
        Label.sentOf ls = (w.sendStreamData streamId data fin).2 ∧ _ ∧ _ :=
    sendStreamData_path hwf streamId data fin
  rcases htaken with ⟨ls, hpath, hsent, -, -⟩
  rw [← hsent]
  exact path_direction hpath hwf (only_directed False.elim False.elim)

/-- A reset keeps the rule exactly when it does nothing or finds a stream to send on. -/
theorem resetStream_direction_iff (hwf : Wf isServer w) (streamId errorCode : Nat) :
    (∀ c ∈ (w.resetStream streamId errorCode).2, c.directionOk isServer = true) ↔
      (w.isTerminated = false → ∀ info, w.streams.find? streamId = some info →
        info.sendState.sendDone = false →
        isSendableStream info.isLocal info.isUnidirectional = true) := by
  constructor
  · intro hrule hlive info hfind hready
    have hdone : ¬ (info.sendState = .resetSent ∨ info.sendState = .dataSent) := by
      intro h
      rw [sendDone_iff.2 h] at hready
      cases hready
    have hqueued : Capsule.wtResetStream streamId errorCode info.bytesSent ∈
        (w.resetStream streamId errorCode).2 := by
      simp [resetStream, hlive, hfind, hdone]
    exact (hwf.stream hfind).sendable_eq.trans (hrule _ hqueued)
  · intro hcond c hc
    by_cases hdir : isReceivableDataCapsule streamId (!isServer) = true
    · have hpermit : (only streamId True False).reset streamId := ⟨rfl, trivial⟩
      have hemits : Emits (only streamId True False) {} isServer w
          (w.resetStream streamId errorCode) := resetStream_emits w hpermit errorCode
      exact hemits.direction hwf (only_directed (fun _ => hdir) False.elim) c hc
    · -- In the wrong direction the call returns before it queues anything.
      exfalso
      unfold resetStream at hc
      cases hfind : w.streams.find? streamId with
      | none =>
          rw [hfind] at hc
          split_ifs at hc <;> exact absurd hc List.not_mem_nil
      | some info =>
          rw [hfind] at hc
          dsimp only at hc
          split_ifs at hc with hterm hdone
          · exact absurd hc List.not_mem_nil
          · exact absurd hc List.not_mem_nil
          · have hready : info.sendState.sendDone = false :=
              Bool.eq_false_iff.2 fun h => hdone (sendDone_iff.1 h)
            have hsendable := hcond (Bool.eq_false_iff.2 hterm) info hfind hready
            exact hdir ((hwf.stream hfind).sendable_eq.symm.trans hsendable)

/-- A stop keeps the rule exactly when it does nothing or finds a stream to receive on. -/
theorem stopSending_direction_iff (hwf : Wf isServer w) (streamId errorCode : Nat) :
    (∀ c ∈ (w.stopSending streamId errorCode).2, c.directionOk isServer = true) ↔
      (w.isTerminated = false → ∀ info, w.streams.find? streamId = some info →
        streamId ∉ w.sentStopSendingStreamIds →
        (info.isLocal && info.isUnidirectional) = false) := by
  constructor
  · intro hrule hlive info hfind hfirst
    have hqueued : Capsule.wtStopSending streamId errorCode ∈
        (w.stopSending streamId errorCode).2 := by
      simp [stopSending, hlive, hfind, hfirst]
    have hflow := (hwf.stream hfind).receivable_eq.trans (hrule _ hqueued)
    rwa [Bool.not_eq_true'] at hflow
  · intro hcond c hc
    by_cases hdir : isReceivableFlowCapsule streamId (!isServer) = true
    · have hpermit : (only streamId False True).stop streamId := ⟨rfl, trivial⟩
      have hemits : Emits (only streamId False True) {} isServer w
          (w.stopSending streamId errorCode) := stopSending_emits w hpermit errorCode
      exact hemits.direction hwf (only_directed False.elim fun _ => hdir) c hc
    · exfalso
      unfold stopSending at hc
      cases hfind : w.streams.find? streamId with
      | none =>
          rw [hfind] at hc
          simp only [Option.isNone_none, if_true, ite_self] at hc
          exact absurd hc List.not_mem_nil
      | some info =>
          rw [hfind] at hc
          simp only [Option.isNone_some, Bool.false_eq_true, if_false] at hc
          split_ifs at hc with hterm hfirst
          · exact absurd hc List.not_mem_nil
          · exact absurd hc List.not_mem_nil
          · have hboth := hcond (Bool.eq_false_iff.2 hterm) info hfind hfirst
            refine hdir ((hwf.stream hfind).receivable_eq.symm.trans ?_)
            rw [hboth]
            rfl

end Calls

end WtSessionInfo

/-! ## The calls on a connection -/

/-- The calls that send on a stream. -/
inductive StreamCall
  | sendStreamData (data : Bytes) (fin : Bool)
  | resetStream (errorCode : UInt32)
  | stopSending (errorCode : UInt32)
  deriving DecidableEq

namespace H2Session

/-- The call as an input of the connection. -/
def streamCall (sessionId : Int) (streamId : Nat) : StreamCall → Input
  | .sendStreamData data fin => .sendStreamData sessionId streamId data fin
  | .resetStream errorCode => .resetStream sessionId streamId errorCode
  | .stopSending errorCode => .stopSending sessionId streamId errorCode

/-- The capsules that were queued on the way from `s` to `s'`. -/
def newCapsules (s s' : H2Session) : List Capsule :=
  Effect.capsules ((s'.trace.drop s.trace.length).map Prod.snd)

/-- The call does not reset a stream that only the peer sends on, and does not stop a stream that
only this side sends on.  A call that returns before it queues anything is not looked at. -/
def InDirection (s : H2Session) (sessionId : Int) (streamId : Nat) : StreamCall → Prop
  | .sendStreamData _ _ => True
  | .resetStream _ => streamId ≤ kMaxQuicVarint → ∀ w, s.wtSessions.find? sessionId = some w →
      w.isTerminated = false → ∀ info, w.streams.find? streamId = some info →
      info.sendState.sendDone = false → isSendableStream info.isLocal info.isUnidirectional = true
  | .stopSending _ => streamId ≤ kMaxQuicVarint → ∀ w, s.wtSessions.find? sessionId = some w →
      w.isTerminated = false → ∀ info, w.streams.find? streamId = some info →
      streamId ∉ w.sentStopSendingStreamIds → (info.isLocal && info.isUnidirectional) = false

theorem newCapsules_self (s : H2Session) : s.newCapsules s = [] := by
  unfold newCapsules
  rw [List.drop_length]
  rfl

/-- An operation on an entry queues what it returns. -/
theorem newCapsules_onEntry (s : H2Session) (sessionId : Int) (f : WtSessionInfo → Queued) :
    s.newCapsules (s.inScope sessionId (·.onEntry f)) =
      match s.wtSessions.find? sessionId with
      | none => []
      | some w => (f w).2 := by
  have htrace : (s.inScope sessionId (·.onEntry f)).trace =
      s.trace ++ ((s.scope sessionId).onEntry f).effects.map fun e =>
        (((s.scope sessionId).onEntry f).sessionId, e) := by
    unfold inScope commit
    exact congrArg (fun k => k.2.1) (foldl_perform_kept _ _ _)
  unfold newCapsules
  rw [htrace, List.drop_left, List.map_map]
  unfold SessionScope.onEntry scope
  cases s.wtSessions.find? sessionId with
  | none => rfl
  | some w =>
      have heffects : ∀ es : List Effect,
          es.map (Prod.snd ∘ fun e => (sessionId, e)) = es := fun es => by simp
      dsimp only [SessionScope.store]
      rw [heffects, List.nil_append, SessionScope.capsules_map_capsule]

/-- In every state a connection reaches, a call queues only capsules the peer accepts for their
direction if and only if it is made in the direction of the stream. -/
theorem direction_iff {isServer : Bool} {config : H2SessionConfig} {s₀ s : H2Session}
    {inputs : List Input} (hcreate : create isServer config = .ok s₀) (hrun : s = s₀.run inputs)
    (sessionId : Int) (streamId : Nat) (call : StreamCall) :
    (∀ c ∈ s.newCapsules (s.step (streamCall sessionId streamId call)),
        c.directionOk isServer = true) ↔
      s.InDirection sessionId streamId call := by
  have hwf : ∀ w, s.wtSessions.find? sessionId = some w → WtSessionInfo.Wf isServer w := by
    intro w hw
    rw [hrun] at hw
    exact run_wf hcreate inputs hw
  have hnone : (∀ c ∈ s.newCapsules s, c.directionOk isServer = true) ↔ True := by
    rw [newCapsules_self]
    simp
  cases call with
  | sendStreamData data fin =>
      simp only [streamCall, step, sendStreamData, newCapsules_onEntry, InDirection, iff_true]
      cases hentry : s.wtSessions.find? sessionId with
      | none => exact fun c hc => absurd hc List.not_mem_nil
      | some w => exact WtSessionInfo.sendStreamData_direction (hwf w hentry) data fin
  | resetStream errorCode =>
      simp only [streamCall, step, resetStream, InDirection]
      split_ifs with hid
      · rw [orElse, hnone, true_iff]
        exact fun h => absurd h (not_le.2 hid)
      · rw [orElse, newCapsules_onEntry]
        cases hentry : s.wtSessions.find? sessionId with
        | none => simp
        | some w =>
            have hcall := WtSessionInfo.resetStream_direction_iff (hwf w hentry) streamId
              errorCode.toNat
            simp only [hcall, not_lt.1 hid, true_imp_iff, Option.some.injEq, forall_eq']
  | stopSending errorCode =>
      simp only [streamCall, step, stopSending, InDirection]
      split_ifs with hid
      · rw [orElse, hnone, true_iff]
        exact fun h => absurd h (not_le.2 hid)
      · rw [orElse, newCapsules_onEntry]
        cases hentry : s.wtSessions.find? sessionId with
        | none => simp
        | some w =>
            have hcall := WtSessionInfo.stopSending_direction_iff (hwf w hentry) streamId
              errorCode.toNat
            simp only [hcall, not_lt.1 hid, true_imp_iff, Option.some.injEq, forall_eq']

/-- Resetting a stream that only the client sends on queues a WT_RESET_STREAM the client refuses,
stopping a stream that only the server sends on queues a WT_STOP_SENDING it refuses. -/
theorem reset_of_receive_only_stream :
    let s₀ : H2Session := { isServer := true, config := {} }
    let s := s₀.run (openSession 1 ++
      [.recvData 1 (encodeCapsule CapsuleType.wtStream.toNat (varintBytes 2 ++ [7])) none])
    let t := s₀.run ([.recvSettingsEntry 0x2b64 1] ++ openSession 1 ++ [.openStream 1 true])
    create true {} = .ok s₀ ∧
      ¬ (∀ c ∈ s.newCapsules (s.step (streamCall 1 2 (.resetStream 0))),
          c.directionOk true = true) ∧
      ¬ (∀ c ∈ t.newCapsules (t.step (streamCall 1 3 (.stopSending 0))),
          c.directionOk true = true) := by
  refine ⟨rfl, ?_, ?_⟩ <;> decide +kernel

/-- Sending on a stream both sides send on keeps the rule. -/
theorem direction_iff_bidirectional :
    let s := run { isServer := true, config := {} } (openSession 1 ++
      [.recvData 1 (encodeCapsule CapsuleType.wtStream.toNat (varintBytes 0 ++ [7])) none])
    s.newCapsules (s.step (streamCall 1 0 (.sendStreamData [9] false))) ≠ [] ∧
      ∀ c ∈ s.newCapsules (s.step (streamCall 1 0 (.sendStreamData [9] false))),
        c.directionOk true = true := by
  refine ⟨by decide +kernel, ?_⟩
  have hcreate : create true {} = .ok { isServer := true, config := {} } := rfl
  exact (direction_iff hcreate rfl 1 0 (.sendStreamData [9] false)).2 trivial

end H2Session

end H2
end WebTransport
