import WebTransport.Http2.Windows

/-!
# Http2.Release — per-stream state goes with the stream

* `Contained`      : the nine maps and sets have keys of `streams_` only;
* `Observed`       : the connection object beside the streams nghttp2 has opened and not closed;
* `entries_act`    : a step leaves the entries of other streams alone;
* `state_released` : runs whose calls name open streams keep `Contained`, and report exactly the
  streams that were closed with an error code and not reset.
-/

namespace WebTransport
namespace Http2

namespace Http2Connection

/-! ## Entries of a stream -/

/-- What the nine maps and sets hold for a stream. -/
structure Entries where
  buffers : Option (List StreamData)
  dataSent : Option Nat
  trailers : Prop
  localReset : Prop
  localWindow : Option Int
  recvWindow : Option Int
  reduction : Option Int
  headers : Option Headers
  pendingTrailers : Option Headers

def Entries.none : Entries :=
  ⟨.none, .none, False, False, .none, .none, .none, .none, .none⟩

/-- The entries of a stream. -/
def entries (s : Http2Connection) (streamId : Int) : Entries where
  buffers := s.streamBuffers.find? streamId
  dataSent := s.streamDataSent.find? streamId
  trailers := streamId ∈ s.trailersSubmitted
  localReset := streamId ∈ s.localResets
  localWindow := s.streamLocalWindowSize.find? streamId
  recvWindow := s.streamRecvWindowSize.find? streamId
  reduction := s.streamRecvReduction.find? streamId
  headers := s.pendingHeaders.find? streamId
  pendingTrailers := s.pendingTrailers.find? streamId

/-- `streams_` has an entry. -/
def hasStream (s : Http2Connection) (streamId : Int) : Bool := (s.streams.find? streamId).isSome

/-- The keys of the nine maps and sets are keys of `streams_`. -/
def Contained (s : Http2Connection) : Prop :=
  ∀ streamId, s.hasStream streamId = false → s.entries streamId = .none

/-- The stream a callback is about. -/
def Callback.stream? : Callback → Option Int
  | .streamOpen streamId | .streamClose streamId _ | .beginHeaders streamId
  | .recvHeader streamId _ _ | .endHeaders streamId | .beginTrailers streamId
  | .recvTrailer streamId _ _ | .endTrailers streamId | .recvData streamId _
  | .remoteEndStream streamId | .localEndStream streamId | .readData streamId
  | .writeStreamDataOffset streamId _ _ => some streamId
  | .recvSettings | .recvPingAck _ _ | .shutdown _ _ => none

/-- The stream a step is about. -/
def Act.stream? : Act → Option Int
  | .callback fired => Callback.stream? fired
  | .submitRequest answer => some answer
  | .submitResponse streamId | .sendData streamId _ _ | .resetStream streamId
  | .submitTrailer streamId _ | .setLocalWindowSize streamId _ => some streamId
  | .settle _ _ _ | .terminateSession _ | .goaway _ | .nextEvent => none

/-- Both states hold the same of a stream. -/
def Alike (s s' : Http2Connection) (streamId : Int) : Prop :=
  s'.entries streamId = s.entries streamId ∧ s'.hasStream streamId = s.hasStream streamId

namespace Alike

variable {s s' s'' : Http2Connection} {id streamId : Int}

theorem refl (s : Http2Connection) (streamId : Int) : Alike s s streamId := ⟨rfl, rfl⟩

theorem trans (h : Alike s s' streamId) (h' : Alike s' s'' streamId) : Alike s s'' streamId :=
  ⟨h'.1.trans h.1, h'.2.trans h.2⟩

theorem initStreamWindow (hid : id ≠ streamId) (s : Http2Connection) :
    Alike s (s.initStreamWindow streamId) id := by
  unfold Http2Connection.initStreamWindow
  split
  · exact refl s id
  · simp [Alike, entries, hasStream, OrdMap.find?_insert, hid]

theorem registerStream (hid : id ≠ streamId) (s : Http2Connection) :
    Alike s (s.registerStream streamId) id := by
  refine trans ?_ (initStreamWindow hid _)
  unfold initStream
  split
  · exact refl s id
  · simp [Alike, entries, hasStream, OrdMap.find?_insert, hid]

theorem setBuffers (hid : id ≠ streamId) (s : Http2Connection) (buffers : List StreamData) :
    Alike s (s.setBuffers streamId buffers) id := by
  simp [Alike, entries, hasStream, Http2Connection.setBuffers, OrdMap.find?_insert, hid]

theorem unregisterStream (hid : id ≠ streamId) (s : Http2Connection) :
    Alike s (s.unregisterStream streamId) id := by
  simp [Alike, entries, hasStream, Http2Connection.unregisterStream, record, OrdMap.find?_erase,
    hid]

theorem onStreamClose (hid : id ≠ streamId) (s : Http2Connection) (errorCode : Option Nat) :
    Alike s (s.onStreamClose streamId errorCode) id := by
  refine trans ?_ (unregisterStream hid _)
  cases errorCode with
  | none => simp [Alike, entries, hasStream, hid]
  | some code =>
      dsimp only
      split_ifs <;> simp [Alike, entries, hasStream, pushEvent, hid]

theorem onRecvData (hid : id ≠ streamId) (s : Http2Connection) (data : Bytes) :
    Alike s (s.onRecvData streamId data) id := by
  have hrecord : Alike s (s.record (.received streamId data.length)) id := ⟨rfl, rfl⟩
  refine trans (trans hrecord (initStreamWindow hid _)) ?_
  unfold Http2Connection.onRecvData extendRecvStreamWindow extendRecvConnectionWindow
  dsimp only
  rw [extendMaxStreamOffset_eq, extendMaxOffset_eq]
  simp [Alike, entries, hasStream, pushEvent, setConnWindow, OrdMap.find?_insert, hid]

theorem updateStream (hid : id ≠ streamId) (s : Http2Connection)
    (f : StreamRuntime → StreamRuntime) : Alike s (s.updateStream streamId f) id := by
  unfold Http2Connection.updateStream
  split
  · exact refl s id
  · simp [Alike, entries, hasStream, OrdMap.find?_insert, hid]

theorem onReadData (hid : id ≠ streamId) (s : Http2Connection) :
    Alike s (s.onReadData streamId).1 id := by
  have hset := setBuffers hid s (readBuffers (s.buffers streamId)).1
  unfold Http2Connection.onReadData
  dsimp only
  cases s.streamBuffers.find? streamId with
  | none => split <;> exact refl s id
  | some _ => split <;> exact hset

theorem onWriteStreamDataOffset (hid : id ≠ streamId) (s : Http2Connection) (offset len : Nat) :
    Alike s (s.onWriteStreamDataOffset streamId offset len) id := by
  have hsent : ∀ n, Alike s { s with streamDataSent := s.streamDataSent.insert streamId n } id := by
    intro n
    simp [Alike, entries, hasStream, OrdMap.find?_insert, hid]
  simp only [Http2Connection.onWriteStreamDataOffset]
  split_ifs
  · exact hsent _
  · split
    · exact hsent _
    · exact trans (hsent _) (setBuffers hid _ _)

theorem setLocalWindowSize (hid : id ≠ streamId) (s : Http2Connection) (windowSize : Int) :
    Alike s (s.setLocalWindowSize streamId windowSize).1 id := by
  simp only [Http2Connection.setLocalWindowSize]
  split_ifs
  · exact refl s id
  · exact refl s id
  · rw [extendMaxOffset_eq]
    exact refl s id
  · split
    · exact refl s id
    · rw [extendMaxStreamOffset_eq]
      simp [Alike, entries, hasStream, setStreamWindow, OrdMap.find?_insert, hid]

end Alike

/-- A step leaves the entries of other streams alone. -/
theorem entries_act (s : Http2Connection) (a : Act) {id : Int} (hid : a.stream? ≠ some id) :
    Alike s (s.act a) id := by
  cases a with
  | callback callback =>
      cases callback with
      | recvSettings | recvPingAck | shutdown => exact Alike.refl s id
      | streamOpen streamId =>
          exact Alike.registerStream (fun h => hid (congrArg some h.symm)) s
      | streamClose streamId errorCode =>
          exact Alike.onStreamClose (fun h => hid (congrArg some h.symm)) s errorCode
      | recvData streamId data =>
          exact Alike.onRecvData (fun h => hid (congrArg some h.symm)) s data
      | remoteEndStream streamId =>
          exact Alike.updateStream (fun h => hid (congrArg some h.symm)) s _
      | localEndStream streamId =>
          exact Alike.updateStream (fun h => hid (congrArg some h.symm)) s _
      | readData streamId => exact Alike.onReadData (fun h => hid (congrArg some h.symm)) s
      | writeStreamDataOffset streamId offset len =>
          exact Alike.onWriteStreamDataOffset (fun h => hid (congrArg some h.symm)) s offset len
      | beginHeaders streamId | recvHeader streamId | beginTrailers streamId
      | recvTrailer streamId =>
          have hne : id ≠ streamId := fun h => hid (congrArg some h.symm)
          simp [act, onCallback, Alike, entries, hasStream, OrdMap.find?_insert, hne]
      | endHeaders streamId | endTrailers streamId =>
          have hne : id ≠ streamId := fun h => hid (congrArg some h.symm)
          simp only [act, onCallback]
          split
          · exact Alike.refl s id
          · simp [Alike, entries, hasStream, pushEvent, OrdMap.find?_erase, hne]
  | settle | nextEvent => exact Alike.refl s id
  | submitRequest answer =>
      have hne : id ≠ answer := fun h => hid (congrArg some h.symm)
      simp only [act, submitRequest]
      split_ifs
      · exact Alike.refl s id
      · exact Alike.refl s id
      · exact (Alike.registerStream hne s).trans (Alike.setBuffers hne _ _)
  | submitResponse streamId =>
      simp only [act, submitResponse]
      split_ifs
      · exact Alike.refl s id
      · exact Alike.setBuffers (fun h => hid (congrArg some h.symm)) s _
  | sendData streamId data eof =>
      simp only [act, sendData]
      split_ifs
      · exact Alike.refl s id
      · exact Alike.setBuffers (fun h => hid (congrArg some h.symm)) s _
  | resetStream streamId =>
      have hne : id ≠ streamId := fun h => hid (congrArg some h.symm)
      simp only [act, resetStream]
      split_ifs
      · exact Alike.refl s id
      · simp [Alike, entries, hasStream, OrdMap.find?_erase, hne]
  | submitTrailer streamId rv =>
      have hne : id ≠ streamId := fun h => hid (congrArg some h.symm)
      rcases submitTrailer_cases s streamId rv with heq | ⟨_, _, _, _, _, _, _, heq⟩
      · simp only [act, heq]
        exact Alike.refl s id
      · simp [act, heq, Alike, entries, hasStream, hne]
  | setLocalWindowSize streamId windowSize =>
      exact Alike.setLocalWindowSize (fun h => hid (congrArg some h.symm)) s windowSize
  | terminateSession lastStreamId =>
      simp only [act, terminateSession]
      split_ifs <;> exact Alike.refl s id
  | goaway errorCode =>
      simp only [act, goaway, terminateSession]
      split_ifs <;> exact Alike.refl s id

/-- The steps that open a stream. -/
def Act.opens (s : Http2Connection) : Act → Option Int
  | .callback (.streamOpen streamId) => some streamId
  | .submitRequest answer => if 0 ≤ (s.submitRequest answer).2 then some answer else none
  | _ => none

/-- The step that closes a stream. -/
def Act.closes : Act → Option Int
  | .callback (.streamClose streamId _) => some streamId
  | _ => none

theorem Act.stream?_of_opens {s : Http2Connection} {a : Act} {id : Int} (h : a.opens s = some id) :
    a.stream? = some id := by
  cases a with
  | callback callback =>
      cases callback with
      | streamOpen streamId => exact h
      | _ => simp [Act.opens] at h
  | submitRequest answer =>
      simp only [Act.opens] at h
      split_ifs at h
      exact h
  | _ => simp [Act.opens] at h

theorem Act.stream?_of_closes {a : Act} {id : Int} (h : a.closes = some id) :
    a.stream? = some id := by
  cases a with
  | callback callback =>
      cases callback with
      | streamClose streamId errorCode => exact h
      | _ => simp [Act.closes] at h
  | _ => simp [Act.closes] at h

theorem hasStream_registerStream (s : Http2Connection) (streamId : Int) :
    (s.registerStream streamId).hasStream streamId = true := by
  have hwindow : ∀ t : Http2Connection, (t.initStreamWindow streamId).streams = t.streams := by
    intro t
    unfold initStreamWindow
    split <;> rfl
  unfold hasStream registerStream
  rw [hwindow]
  unfold initStream
  split
  · rename_i stream hstream
    simp [hstream]
  · simp

theorem streams_onRecvData (s : Http2Connection) (streamId : Int) (data : Bytes) :
    (s.onRecvData streamId data).streams = s.streams := by
  have hwindow : ∀ t : Http2Connection, (t.initStreamWindow streamId).streams = t.streams := by
    intro t
    unfold initStreamWindow
    split <;> rfl
  unfold onRecvData extendRecvStreamWindow extendRecvConnectionWindow
  dsimp only
  rw [extendMaxStreamOffset_eq, extendMaxOffset_eq]
  exact hwindow _

theorem hasStream_updateStream (s : Http2Connection) (streamId id : Int)
    (f : StreamRuntime → StreamRuntime) : (s.updateStream streamId f).hasStream id =
      s.hasStream id := by
  unfold hasStream
  exact (sameWindows_updateStream s streamId f).streams id

/-- Steps that neither open nor close a stream keep the set of streams. -/
theorem hasStream_kept (s : Http2Connection) (a : Act) (hopens : a.opens s = none)
    (hcloses : a.closes = none) (id : Int) : (s.act a).hasStream id = s.hasStream id := by
  cases a with
  | callback callback =>
      cases callback with
      | recvSettings | recvPingAck | shutdown | beginHeaders | recvHeader | beginTrailers
      | recvTrailer => rfl
      | streamOpen streamId => simp [Act.opens] at hopens
      | streamClose streamId errorCode => simp [Act.closes] at hcloses
      | recvData streamId data =>
          unfold hasStream
          simp only [act, onCallback]
          rw [streams_onRecvData]
      | remoteEndStream streamId => exact hasStream_updateStream s streamId id _
      | localEndStream streamId => exact hasStream_updateStream s streamId id _
      | readData streamId =>
          unfold hasStream
          exact (sameWindows_onReadData s streamId).streams id
      | writeStreamDataOffset streamId offset len =>
          unfold hasStream
          exact (sameWindows_onWriteStreamDataOffset s streamId offset len).streams id
      | endHeaders streamId | endTrailers streamId =>
          simp only [act, onCallback]
          split <;> rfl
  | settle | nextEvent => rfl
  | submitRequest answer =>
      simp only [Act.opens] at hopens
      simp only [act, submitRequest] at hopens ⊢
      split_ifs at hopens ⊢ with hclosed hneg
      · rfl
      · rfl
      · -- an answer that is not negative opens a stream
        exact absurd hopens (by simp; omega)
  | submitResponse streamId =>
      simp only [act, submitResponse]
      split_ifs <;> rfl
  | sendData streamId data eof =>
      simp only [act, sendData]
      split_ifs <;> rfl
  | resetStream streamId =>
      simp only [act, resetStream]
      split_ifs <;> rfl
  | submitTrailer streamId rv =>
      unfold hasStream
      exact (sameWindows_submitTrailer s streamId rv).streams id
  | setLocalWindowSize streamId windowSize =>
      simp only [act, setLocalWindowSize]
      split_ifs
      · rfl
      · rfl
      · rw [extendMaxOffset_eq]
        rfl
      · split
        · rfl
        · rw [extendMaxStreamOffset_eq]
          rfl
  | terminateSession lastStreamId =>
      simp only [act, terminateSession]
      split_ifs <;> rfl
  | goaway errorCode =>
      simp only [act, goaway, terminateSession]
      split_ifs <;> rfl

/-- Opening a stream makes it one of `streams_`. -/
theorem hasStream_opens (s : Http2Connection) (a : Act) {id : Int} (h : a.opens s = some id) :
    (s.act a).hasStream id = true := by
  cases a with
  | callback callback =>
      cases callback with
      | streamOpen streamId =>
          have hid : streamId = id := Option.some.inj h
          rw [← hid]
          exact hasStream_registerStream s streamId
      | _ => simp [Act.opens] at h
  | submitRequest answer =>
      simp only [Act.opens] at h
      split_ifs at h with hanswer
      have hid : answer = id := Option.some.inj h
      simp only [act, submitRequest] at hanswer ⊢
      -- a refused request answers -1
      split_ifs at hanswer ⊢
      · simp at hanswer
      · simp at hanswer
      · rw [← hid]
        exact hasStream_registerStream s answer
  | _ => simp [Act.opens] at h

/-- Closing a stream takes it and everything kept for it away. -/
theorem closes_blank (s : Http2Connection) (a : Act) {id : Int} (h : a.closes = some id) :
    (s.act a).hasStream id = false ∧ (s.act a).entries id = .none := by
  cases a with
  | callback callback =>
      cases callback with
      | streamClose streamId errorCode =>
          cases h
          simp only [act, onCallback, onStreamClose, unregisterStream, record]
          simp [hasStream, entries, Entries.none]
      | _ => simp [Act.closes] at h
  | _ => simp [Act.closes] at h

/-- The call does what it is called for. -/
def Act.Effective (s : Http2Connection) : Act → Prop
  | .submitResponse streamId => s.closed = false ∧ s.isServer = true ∧ isClientStreamId streamId
  | .sendData _ _ _ => s.closed = false
  | .resetStream streamId => s.closed = false ∧ 0 < streamId ∧ streamId ≤ int32Max
  | _ => False

instance (s : Http2Connection) (a : Act) : Decidable (a.Effective s) := by
  unfold Act.Effective
  split <;> infer_instance

/-- A call that does nothing for a stream that is not there keeps its entries. -/
theorem entries_idle (s : Http2Connection) (a : Act) {id : Int} (hid : a.stream? = some id)
    (hgone : s.hasStream id = false) (hcall : ∀ fired, a ≠ .callback fired)
    (hopens : a.opens s = none) (hidle : ¬ a.Effective s) :
    (s.act a).entries id = s.entries id := by
  have hnone : s.streams.find? id = none := by
    unfold hasStream at hgone
    simpa using hgone
  cases a with
  | callback callback => exact absurd rfl (hcall callback)
  | settle | terminateSession | goaway | nextEvent => simp [Act.stream?] at hid
  | submitRequest answer =>
      simp only [Act.opens] at hopens
      split_ifs at hopens with hanswer
      simp only [act, submitRequest] at hanswer ⊢
      split_ifs at hanswer ⊢
      · rfl
      · rfl
      · exact absurd hanswer (by dsimp only; omega)
  | submitResponse streamId =>
      simp only [act, submitResponse]
      split_ifs with hguard
      · rfl
      · exact absurd (by simpa [Act.Effective, not_or, and_assoc] using hguard) hidle
  | sendData streamId data eof =>
      simp only [act, sendData]
      split_ifs with hclosed
      · rfl
      · exact absurd (by simpa [Act.Effective] using hclosed) hidle
  | resetStream streamId =>
      simp only [act, resetStream]
      split_ifs with hguard
      · rfl
      · exact absurd (by simpa [Act.Effective, not_or] using hguard) hidle
  | submitTrailer streamId rv =>
      have hstream : streamId = id := Option.some.inj hid
      rcases submitTrailer_cases s streamId rv with heq | ⟨stream, _, hfound, _⟩
      · simp [act, heq]
      · rw [hstream, hnone] at hfound
        cases hfound
  | setLocalWindowSize streamId windowSize =>
      have hstream : streamId = id := Option.some.inj hid
      rw [hstream]
      simp only [act, setLocalWindowSize]
      split_ifs
      · rfl
      · rfl
      · rw [extendMaxOffset_eq]
        rfl
      · rw [hnone]

/-- A call that does something for a stream that is not there leaves an entry behind. -/
theorem entries_effective (s : Http2Connection) (a : Act) {id : Int} (hid : a.stream? = some id)
    (heffective : a.Effective s) : (s.act a).entries id ≠ .none := by
  intro hnone
  cases a with
  | submitResponse streamId =>
      rcases heffective with ⟨hclosed, hserver, hstream⟩
      have hbuffers := congrArg Entries.buffers hnone
      cases hid
      simp [act, submitResponse, hclosed, hserver, hstream, entries, setBuffers, Entries.none]
        at hbuffers
  | sendData streamId data eof =>
      have hclosed : s.closed = false := heffective
      have hbuffers := congrArg Entries.buffers hnone
      cases hid
      simp [act, sendData, hclosed, entries, setBuffers, Entries.none] at hbuffers
  | resetStream streamId =>
      rcases heffective with ⟨hclosed, hpos, hmax⟩
      have hreset := congrArg Entries.localReset hnone
      cases hid
      simp [act, resetStream, hclosed, entries, Entries.none, not_le.mpr hpos,
        not_lt.mpr hmax] at hreset
  | _ => exact heffective

/-! ## Reported resets -/

theorem classifyFrom_ne_streamReset (hasStatus informational : Bool) (headers : Headers) :
    classifyFrom hasStatus informational headers ≠ .streamReset := by
  induction headers generalizing hasStatus informational with
  | nil =>
      simp only [classifyFrom]
      split_ifs <;> simp
  | cons field rest ih =>
      rcases field with ⟨name, value⟩
      simp only [classifyFrom]
      split_ifs
      · simp
      · exact ih _ _
      · exact ih _ _

/-- The reported resets. -/
def streamResets (s : Http2Connection) : List Http2Event :=
  s.pushed.filter fun event => event.type = .streamReset

/-- Neither a reset is reported nor one noted. -/
def Quiet (s s' : Http2Connection) : Prop :=
  s'.localResets = s.localResets ∧ s'.streamResets = s.streamResets

theorem Quiet.trans {s s' s'' : Http2Connection} (h : Quiet s s') (h' : Quiet s' s'') :
    Quiet s s'' := ⟨h'.1.trans h.1, h'.2.trans h.2⟩

theorem quiet_pushEvent (s : Http2Connection) {event : Http2Event}
    (h : event.type ≠ .streamReset) : Quiet s (s.pushEvent event) :=
  ⟨rfl, by simp [streamResets, pushEvent, h]⟩

theorem quiet_initStreamWindow (s : Http2Connection) (streamId : Int) :
    Quiet s (s.initStreamWindow streamId) := by
  unfold initStreamWindow
  split <;> exact ⟨rfl, rfl⟩

theorem quiet_extendRecv (s : Http2Connection) (streamId : Int) (size : Nat) :
    Quiet s ((s.extendRecvStreamWindow streamId size).extendRecvConnectionWindow size) := by
  refine (quiet_initStreamWindow s streamId).trans ?_
  unfold extendRecvStreamWindow extendRecvConnectionWindow
  dsimp only
  rw [extendMaxStreamOffset_eq, extendMaxOffset_eq]
  exact ⟨rfl, rfl⟩

theorem quiet_registerStream (s : Http2Connection) (streamId : Int) :
    Quiet s (s.registerStream streamId) := by
  unfold registerStream initStreamWindow initStream
  split <;> split <;> exact ⟨rfl, rfl⟩

/-- Only a close reports a reset, and only `reset_stream` notes one. -/
theorem quiet_act (s : Http2Connection) (a : Act) (hcloses : a.closes = none)
    (hreset : ∀ streamId, a ≠ .resetStream streamId) : Quiet s (s.act a) := by
  cases a with
  | callback callback =>
      cases callback with
      | streamOpen streamId => exact quiet_registerStream s streamId
      | streamClose streamId errorCode => simp [Act.closes] at hcloses
      | recvSettings => exact quiet_pushEvent s (by simp)
      | recvPingAck data rtt => exact quiet_pushEvent s (by simp)
      | shutdown lastStreamId errorCode =>
          exact quiet_pushEvent { s with goawayReceived := true } (by simp)
      | beginHeaders | recvHeader | beginTrailers | recvTrailer => exact ⟨rfl, rfl⟩
      | endHeaders streamId =>
          simp only [act, onCallback]
          split
          · exact ⟨rfl, rfl⟩
          · exact quiet_pushEvent s (classifyFrom_ne_streamReset _ _ _)
      | endTrailers streamId =>
          simp only [act, onCallback]
          split
          · exact ⟨rfl, rfl⟩
          · exact quiet_pushEvent s (by simp)
      | recvData streamId data =>
          have hrecord : Quiet s (s.record (.received streamId data.length)) := ⟨rfl, rfl⟩
          have hwindows := hrecord.trans (quiet_extendRecv _ streamId data.length)
          exact hwindows.trans (quiet_pushEvent _ (by simp))
      | remoteEndStream streamId =>
          have hupdate : Quiet s (s.updateStream streamId fun stream =>
              { stream with remoteClosed := true }) := by
            unfold updateStream
            split <;> exact ⟨rfl, rfl⟩
          exact hupdate.trans (quiet_pushEvent _ (by simp))
      | localEndStream streamId =>
          simp only [act, onCallback, updateStream]
          split <;> exact ⟨rfl, rfl⟩
      | readData streamId =>
          simp only [act, onCallback, onReadData]
          split <;> split <;> exact ⟨rfl, rfl⟩
      | writeStreamDataOffset streamId offset len =>
          simp only [act, onCallback, onWriteStreamDataOffset]
          split_ifs
          · exact ⟨rfl, rfl⟩
          · split <;> exact ⟨rfl, rfl⟩
  | settle | nextEvent => exact ⟨rfl, rfl⟩
  | submitRequest answer =>
      simp only [act, submitRequest]
      split_ifs
      · exact ⟨rfl, rfl⟩
      · exact ⟨rfl, rfl⟩
      · exact quiet_registerStream s answer
  | submitResponse streamId =>
      simp only [act, submitResponse]
      split_ifs <;> exact ⟨rfl, rfl⟩
  | sendData streamId data eof =>
      simp only [act, sendData]
      split_ifs <;> exact ⟨rfl, rfl⟩
  | resetStream streamId => exact absurd rfl (hreset streamId)
  | submitTrailer streamId rv =>
      rcases submitTrailer_cases s streamId rv with heq | ⟨_, _, _, _, _, _, _, heq⟩ <;>
        simp only [act, heq] <;> exact ⟨rfl, rfl⟩
  | setLocalWindowSize streamId windowSize =>
      simp only [act, setLocalWindowSize]
      split_ifs
      · exact ⟨rfl, rfl⟩
      · exact ⟨rfl, rfl⟩
      · rw [extendMaxOffset_eq]
        exact ⟨rfl, rfl⟩
      · split
        · exact ⟨rfl, rfl⟩
        · rw [extendMaxStreamOffset_eq]
          exact ⟨rfl, rfl⟩
  | terminateSession lastStreamId =>
      simp only [act, terminateSession]
      split_ifs <;> exact ⟨rfl, rfl⟩
  | goaway errorCode =>
      simp only [act, goaway, terminateSession]
      split_ifs <;> exact ⟨rfl, rfl⟩

/-! ## The connection beside nghttp2 -/

/-- The connection object, the streams nghttp2 has opened and not closed, those of them that the
application has reset, and the closings with an error code of streams it had not reset. -/
structure Observed where
  connection : Http2Connection
  opened : OrdSet Int := ∅
  reset : OrdSet Int := ∅
  failed : List Http2Event := []

namespace Observed

/-- The streams nghttp2 has opened and not closed. -/
def nextOpened (o : Observed) (a : Act) : OrdSet Int :=
  match a.closes with
  | some streamId => o.opened.erase streamId
  | none =>
      match a.opens o.connection with
      | some streamId => o.opened.insert streamId
      | none => o.opened

/-- The open streams the application has reset. -/
def nextReset (o : Observed) : Act → OrdSet Int
  | .callback (.streamClose streamId _) => o.reset.erase streamId
  | .resetStream streamId =>
      if (Act.resetStream streamId).Effective o.connection ∧ streamId ∈ o.opened then
        o.reset.insert streamId
      else o.reset
  | _ => o.reset

/-- The closings with an error code of streams that were not reset. -/
def nextFailed (o : Observed) : Act → List Http2Event
  | .callback (.streamClose streamId (some code)) =>
      if streamId ∈ o.reset then o.failed
      else o.failed ++ [{ type := .streamReset, streamId := streamId, errorCode := code }]
  | _ => o.failed

def next (o : Observed) (a : Act) : Observed where
  connection := o.connection.act a
  opened := o.nextOpened a
  reset := o.nextReset a
  failed := o.nextFailed a

/-- nghttp2 opens a stream before any other callback for it, and makes none after it closed it. -/
def Orderly (o : Observed) : Act → Prop
  | .callback (.streamOpen _) => True
  | .callback fired => ∀ streamId, Callback.stream? fired = some streamId → streamId ∈ o.opened
  | _ => True

/-- A call of `submit_response`, `send_data` or `reset_stream` names an open stream. -/
def NamesOpen (o : Observed) (a : Act) : Prop :=
  a.Effective o.connection → ∀ streamId, a.stream? = some streamId → streamId ∈ o.opened

/-- What runs with calls for open streams keep. -/
structure Faithful (o : Observed) : Prop where
  contained : o.connection.Contained
  opened : ∀ streamId, o.connection.hasStream streamId = true ↔ streamId ∈ o.opened
  reset : ∀ streamId, streamId ∈ o.connection.localResets ↔ streamId ∈ o.reset
  failed : o.connection.streamResets = o.failed

theorem opened_next {o : Observed}
    (h : ∀ streamId, o.connection.hasStream streamId = true ↔ streamId ∈ o.opened) (a : Act)
    (streamId : Int) :
    (o.next a).connection.hasStream streamId = true ↔ streamId ∈ (o.next a).opened := by
  simp only [next, nextOpened]
  cases hcloses : a.closes with
  | some id =>
      by_cases hid : streamId = id
      · subst hid
        simp [(closes_blank o.connection a hcloses).1]
      · have hstream : a.stream? ≠ some streamId := by
          rw [Act.stream?_of_closes hcloses]
          intro heq
          exact hid (Option.some.inj heq).symm
        rw [(entries_act o.connection a hstream).2]
        simpa [hid] using h streamId
  | none =>
      cases hopens : a.opens o.connection with
      | none =>
          rw [hasStream_kept o.connection a hopens hcloses]
          exact h streamId
      | some id =>
          by_cases hid : streamId = id
          · subst hid
            simp [hasStream_opens o.connection a hopens]
          · have hstream : a.stream? ≠ some streamId := by
              rw [Act.stream?_of_opens hopens]
              intro heq
              exact hid (Option.some.inj heq).symm
            rw [(entries_act o.connection a hstream).2]
            simpa [hid] using h streamId

theorem not_hasStream {o : Observed} (h : o.Faithful) {streamId : Int} (hout : streamId ∉ o.opened) :
    o.connection.hasStream streamId = false := by
  cases hhas : o.connection.hasStream streamId with
  | false => rfl
  | true => exact absurd ((h.opened streamId).mp hhas) hout

/-- What is behind an orderly step is contained exactly if the step names an open stream. -/
theorem contained_next_iff {o : Observed} (h : o.Faithful) {a : Act} (ha : o.Orderly a) :
    (o.next a).connection.Contained ↔ o.NamesOpen a := by
  constructor
  · intro hafter heffective streamId hstream
    by_contra hout
    have hcloses : a.closes = none := by
      cases a with
      | callback callback => exact absurd heffective (by simp [Act.Effective])
      | _ => rfl
    have hopens : a.opens o.connection = none := by
      cases a with
      | callback callback => exact absurd heffective (by simp [Act.Effective])
      | submitRequest answer => exact absurd heffective (by simp [Act.Effective])
      | _ => rfl
    have hgone : (o.connection.act a).hasStream streamId = false := by
      rw [hasStream_kept o.connection a hopens hcloses]
      exact not_hasStream h hout
    exact entries_effective o.connection a hstream heffective (hafter streamId hgone)
  · intro hnames streamId hgone
    have hgone' : (o.connection.act a).hasStream streamId = false := hgone
    show (o.connection.act a).entries streamId = .none
    by_cases hstream : a.stream? = some streamId
    · by_cases hcloses : a.closes = some streamId
      · exact (closes_blank o.connection a hcloses).2
      · have hnocloses : a.closes = none := by
          cases hc : a.closes with
          | none => rfl
          | some id =>
              rw [Act.stream?_of_closes hc] at hstream
              exact absurd (hc.trans hstream) hcloses
        have hnoopens : a.opens o.connection = none := by
          cases hc : a.opens o.connection with
          | none => rfl
          | some id =>
              have hsame := hstream
              rw [Act.stream?_of_opens hc] at hsame
              rw [hasStream_opens o.connection a (hc.trans hsame)] at hgone'
              cases hgone'
        rw [hasStream_kept o.connection a hnoopens hnocloses] at hgone'
        have hout : streamId ∉ o.opened := by
          intro hmem
          rw [(h.opened streamId).mpr hmem] at hgone'
          cases hgone'
        rw [← h.contained streamId hgone']
        apply entries_idle o.connection a hstream hgone' _ hnoopens
        · intro heffective
          exact hout (hnames heffective streamId hstream)
        · intro fired hfired
          subst hfired
          cases fired with
          | streamOpen id => simp [Act.opens] at hnoopens
          | _ => exact hout (ha streamId hstream)
    · have halike := entries_act o.connection a hstream
      rw [halike.2] at hgone'
      rw [halike.1]
      exact h.contained streamId hgone'

/-- `reset_stream` is noted on both sides where it names an open stream. -/
theorem reset_next {o : Observed} (h : o.Faithful) {a : Act} (hnames : o.NamesOpen a)
    (streamId : Int) :
    streamId ∈ (o.next a).connection.localResets ↔ streamId ∈ (o.next a).reset := by
  by_cases hreset : ∃ id, a = .resetStream id
  · rcases hreset with ⟨id, rfl⟩
    by_cases heffective : (Act.resetStream id).Effective o.connection
    · have hopen : id ∈ o.opened := hnames heffective id rfl
      rcases heffective with ⟨hclosed, hpos, hmax⟩
      have hguard : ¬ (o.connection.closed = true ∨ id ≤ 0 ∨ id > int32Max) := by
        simp [hclosed, hpos, hmax]
      simp only [next, act, resetStream, nextReset, if_neg hguard]
      rw [if_pos ⟨⟨hclosed, hpos, hmax⟩, hopen⟩, OrdSet.mem_insert, OrdSet.mem_insert, h.reset]
    · have hguard : o.connection.closed = true ∨ id ≤ 0 ∨ id > int32Max := by
        by_contra hnot
        exact heffective (by simpa [Act.Effective, not_or] using hnot)
      simp only [next, act, resetStream, nextReset, if_pos hguard]
      rw [if_neg fun hboth => heffective hboth.1]
      exact h.reset streamId
  · cases hcloses : a.closes with
    | none =>
        have hquiet := quiet_act o.connection a hcloses fun id heq => hreset ⟨id, heq⟩
        have hsame : o.nextReset a = o.reset := by
          cases a with
          | callback callback =>
              cases callback with
              | streamClose id errorCode => simp [Act.closes] at hcloses
              | _ => rfl
          | resetStream id => exact absurd ⟨id, rfl⟩ hreset
          | _ => rfl
        simp only [next, hsame]
        rw [hquiet.1]
        exact h.reset streamId
    | some id =>
        cases a with
        | callback callback =>
            cases callback with
            | streamClose closed errorCode =>
                have herased : (o.connection.onStreamClose closed errorCode).localResets =
                    o.connection.localResets.erase closed := by
                  unfold onStreamClose
                  cases errorCode with
                  | none => rfl
                  | some code =>
                      dsimp only
                      split_ifs <;> rfl
                simp only [next, act, onCallback, nextReset, herased, OrdSet.mem_erase, h.reset]
            | _ => simp [Act.closes] at hcloses
        | _ => simp [Act.closes] at hcloses

theorem failed_next {o : Observed} (h : o.Faithful) (a : Act) :
    (o.next a).connection.streamResets = (o.next a).failed := by
  cases hcloses : a.closes with
  | none =>
      have hsame : o.nextFailed a = o.failed := by
        cases a with
        | callback callback =>
            cases callback with
            | streamClose id errorCode => simp [Act.closes] at hcloses
            | _ => rfl
        | _ => rfl
      have hresets : (o.connection.act a).streamResets = o.connection.streamResets := by
        by_cases hreset : ∃ id, a = .resetStream id
        · rcases hreset with ⟨id, rfl⟩
          simp only [act, resetStream]
          split_ifs <;> rfl
        · exact (quiet_act o.connection a hcloses fun id heq => hreset ⟨id, heq⟩).2
      simp only [next, hsame, hresets]
      exact h.failed
  | some id =>
      cases a with
      | callback callback =>
          cases callback with
          | streamClose closed errorCode =>
              simp only [next, act, onCallback, onStreamClose]
              cases errorCode with
              | none => exact h.failed
              | some code =>
                  simp only [nextFailed]
                  by_cases hreset : closed ∈ o.reset
                  · rw [if_pos ((h.reset closed).mpr hreset), if_pos hreset]
                    exact h.failed
                  · rw [if_neg fun hmem => hreset ((h.reset closed).mp hmem), if_neg hreset,
                      ← h.failed]
                    simp [streamResets, pushEvent, unregisterStream, record]
          | _ => simp [Act.closes] at hcloses
      | _ => simp [Act.closes] at hcloses

theorem Faithful.next {o : Observed} (h : o.Faithful) {a : Act} (ha : o.Orderly a)
    (hnames : o.NamesOpen a) : (o.next a).Faithful :=
  ⟨(contained_next_iff h ha).mpr hnames, opened_next h.opened a, reset_next h hnames,
    failed_next h a⟩

theorem Faithful.create {isServer : Bool} {initialWindowSize : Nat} {s : Http2Connection}
    (h : create isServer initialWindowSize = some s) :
    ({ connection := s } : Observed).Faithful := by
  unfold Http2Connection.create at h
  split_ifs at h
  cases h
  refine ⟨?_, ?_, ?_, rfl⟩
  · intro streamId _
    simp [entries, Entries.none]
  · intro streamId
    simp [hasStream]
  · intro streamId
    simp

instance (o : Observed) (a : Act) : Decidable (o.NamesOpen a) :=
  decidable_of_iff (a.Effective o.connection → ∀ streamId ∈ a.stream?, streamId ∈ o.opened)
    Iff.rfl

instance (o : Observed) (a : Act) : Decidable (o.Orderly a) :=
  match a with
  | .callback (.streamOpen _) => inferInstanceAs (Decidable True)
  | .callback (.streamClose streamId _) | .callback (.beginHeaders streamId)
  | .callback (.recvHeader streamId _ _) | .callback (.endHeaders streamId)
  | .callback (.beginTrailers streamId) | .callback (.recvTrailer streamId _ _)
  | .callback (.endTrailers streamId) | .callback (.recvData streamId _)
  | .callback (.remoteEndStream streamId) | .callback (.localEndStream streamId)
  | .callback (.readData streamId) | .callback (.writeStreamDataOffset streamId _ _) =>
      inferInstanceAs (Decidable (∀ id ∈ some streamId, id ∈ o.opened))
  | .callback .recvSettings | .callback (.recvPingAck _ _) | .callback (.shutdown _ _) =>
      inferInstanceAs (Decidable (∀ id ∈ (none : Option Int), id ∈ o.opened))
  | .settle _ _ _ | .submitRequest _ | .submitResponse _ | .sendData _ _ _ | .resetStream _
  | .submitTrailer _ _ | .setLocalWindowSize _ _ | .terminateSession _ | .goaway _ | .nextEvent =>
      inferInstanceAs (Decidable True)

/-- Where every `submit_response`, `send_data` and `reset_stream` that does anything names an open
stream, nothing outlives its stream, and exactly the streams closed with an error code and not reset
are reported; a step that names another stream leaves something behind. -/
theorem state_released {isServer : Bool} {initialWindowSize : Nat} {start : Http2Connection}
    {o : Observed} {acts : List Act} (hcreate : create isServer initialWindowSize = some start)
    (hrun : Path (Guarded next fun o a => a.Possible o.connection ∧ o.Orderly a ∧ o.NamesOpen a)
      { connection := start } acts o) :
    o.connection.Contained ∧ o.connection.streamResets = o.failed ∧
      ∀ a, o.Orderly a → ((o.next a).connection.Contained ↔ o.NamesOpen a) := by
  have hfaithful : o.Faithful := by
    refine Path.invariant Faithful ?_ hrun (Faithful.create hcreate)
    intro o o' a ho ha
    rw [← ha.2]
    exact ho.next ha.1.2.1 ha.1.2.2
  exact ⟨hfaithful.contained, hfaithful.failed, fun a ha => contained_next_iff hfaithful ha⟩

/-- A stream gets a response, is reset by the peer, and is gone. -/
theorem state_released_closed :
    (([.callback (.streamOpen 1), .submitResponse 1, .sendData 1 [7] true,
      .callback (.streamClose 1 (some 8))] : List Act).foldl next
        { connection := { isServer := true, initialWindowSize := 10 } }).connection.Contained := by
  have hcreate : create true 10 = some { isServer := true, initialWindowSize := 10 } := rfl
  exact (state_released hcreate (Guarded.path (by decide +kernel))).1

/-- Data for a stream that was never opened stays, and a reset before the stream is there hides the
peer's reset. -/
theorem early_calls_stay :
    (¬ ∀ (isServer : Bool) (initialWindowSize : Nat) (start : Http2Connection) (o : Observed)
        (acts : List Act), create isServer initialWindowSize = some start →
        Path (Guarded next fun o a => a.Possible o.connection ∧ o.Orderly a)
          { connection := start } acts o → o.connection.Contained) ∧
      ¬ ∀ (isServer : Bool) (initialWindowSize : Nat) (start : Http2Connection) (o : Observed)
        (acts : List Act), create isServer initialWindowSize = some start →
        Path (Guarded next fun o a => a.Possible o.connection ∧ o.Orderly a)
          { connection := start } acts o → o.connection.streamResets = o.failed := by
  have hcreate : create true 10 = some { isServer := true, initialWindowSize := 10 } := rfl
  constructor
  · intro hclaim
    have hcontained := hclaim true 10 _ _ [.sendData 1 [7] false] hcreate
      (Guarded.path (by decide +kernel))
    have hbuffers := congrArg Entries.buffers (hcontained 1 (by decide +kernel))
    revert hbuffers
    decide +kernel
  · intro hclaim
    have hreported := hclaim true 10 _ _
      [.resetStream 1, .callback (.streamOpen 1), .callback (.streamClose 1 (some 8))] hcreate
      (Guarded.path (by decide +kernel))
    revert hreported
    decide +kernel

end Observed

end Http2Connection

end Http2
end WebTransport
