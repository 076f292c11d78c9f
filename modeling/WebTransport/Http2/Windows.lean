import WebTransport.Data.History
import WebTransport.Http2.Connection

/-!
# Http2.Windows — the receive windows of an HTTP/2 connection

* `Window.Books`     : what a window holds is what was granted less what arrived;
* `WindowMove`       : what one step can do to the windows;
* `windows_exact`    : the books balance along every run, and nothing overflows;
* `Window.Open`      : a window that is configured positive leaves the peer something to send into;
* `windows_stay_open`: the steps that keep it so.
-/

namespace WebTransport
namespace Http2

/-! ## The record -/

namespace Happening

/-- What an entry adds to the window of the connection. -/
def connExtended : Happening → Int
  | extendMaxOffset size => size
  | _ => 0

/-- What an entry takes from the window of the connection. -/
def connReceived : Happening → Int
  | received _ size => size
  | _ => 0

/-- What an entry adds to the window of a stream. -/
def streamExtended (streamId : Int) : Happening → Int
  | extendMaxStreamOffset id size => if id = streamId then size else 0
  | _ => 0

/-- What an entry takes from the window of a stream. -/
def streamReceived (streamId : Int) : Happening → Int
  | received id size => if id = streamId then size else 0
  | _ => 0

/-- An extension is by a positive amount. -/
def Positive : Happening → Prop
  | extendMaxOffset size => 0 < size
  | extendMaxStreamOffset _ size => 0 < size
  | _ => True

def total (f : Happening → Int) (log : List Happening) : Int := (log.map f).sum

@[simp] theorem total_nil (f : Happening → Int) : total f [] = 0 := rfl

@[simp] theorem total_append (f : Happening → Int) (log more : List Happening) :
    total f (log ++ more) = total f log + total f more := by
  simp [total]

@[simp] theorem total_cons (f : Happening → Int) (happening : Happening) (log : List Happening) :
    total f (happening :: log) = f happening + total f log := by
  simp [total]

/-- What was recorded since a stream id was last given up. -/
def sinceUnregistered (streamId : Int) (log : List Happening) : List Happening :=
  since (fun happening => decide (happening = .unregistered streamId)) log

theorem sinceUnregistered_append {streamId : Int} (log : List Happening) {more : List Happening}
    (h : ∀ happening ∈ more, happening ≠ .unregistered streamId) :
    sinceUnregistered streamId (log ++ more) = sinceUnregistered streamId log ++ more := by
  apply since_append
  intro happening hmem
  simpa using h happening hmem

theorem sinceUnregistered_unregistered (streamId id : Int) (log : List Happening) :
    sinceUnregistered streamId (log ++ [.unregistered id]) =
      if id = streamId then [] else sinceUnregistered streamId log ++ [.unregistered id] := by
  unfold sinceUnregistered
  rw [since_concat]
  simp

/-- The bytes announced for a stream since its id was last given up. -/
def extendedSince (streamId : Int) (log : List Happening) : Int :=
  total (streamExtended streamId) (sinceUnregistered streamId log)

/-- The bytes received on a stream since its id was last given up. -/
def receivedSince (streamId : Int) (log : List Happening) : Int :=
  total (streamReceived streamId) (sinceUnregistered streamId log)

end Happening

namespace Http2Connection

/-! ## One window -/

namespace Window

/-- A window that started at `initial`, was extended by `extended` and took in `received` bytes. -/
structure Books (w : Window) (initial extended received : Int) : Prop where
  available : w.size - w.recv = initial + extended - received
  reduction_nonneg : 0 ≤ w.reduction
  recv_ge : -w.reduction ≤ w.recv
  bound : w.size + w.reduction ≤ int32Max
  size_nonneg : 0 ≤ w.size
  available_nonneg : 0 ≤ w.size - w.recv

/-- What an extension adds. -/
def announcedAmount (announced : Option Int) : Int := announced.getD 0

/-- A configured window of positive size is not used up. -/
def Open (w : Window) : Prop := 0 < w.size → 0 < w.size - w.recv

/-- A raise to `windowSize` takes more than what was reduced before, or finds something left. -/
def Raises (w : Window) (windowSize : Int) : Prop :=
  w.size < windowSize → w.size - w.recv = 0 → w.reduction < windowSize - w.size

instance (w : Window) : Decidable w.Open := by
  unfold Open
  infer_instance

instance (w : Window) (windowSize : Int) : Decidable (w.Raises windowSize) := by
  unfold Raises
  infer_instance

variable {w : Window} {initial extended received : Int}

theorem Books.start (h : 0 ≤ initial) (hbound : initial ≤ int32Max) :
    Books ⟨initial, 0, 0⟩ initial 0 0 := by
  refine ⟨?_, le_refl _, le_refl _, ?_, h, ?_⟩
  · ring
  · simpa using hbound
  · simpa using h

/-- The window given to the peer stays within an `int32_t`. -/
theorem Books.granted_le (h : w.Books initial extended received) :
    initial + extended - received ≤ int32Max := by
  have havail : w.size - w.recv = initial + extended - received := h.available
  have hrecv : -w.reduction ≤ w.recv := h.recv_ge
  have hbound : w.size + w.reduction ≤ int32Max := h.bound
  omega

theorem Books.granted_nonneg (h : w.Books initial extended received) :
    0 ≤ initial + extended - received := by
  rw [← h.available]
  exact h.available_nonneg

theorem receive_cases (w : Window) (size : Nat) :
    (0 < w.recv + size ∧ w.receive size = (⟨w.size, 0, w.reduction⟩, some (w.recv + size))) ∨
      (¬ (0 < w.recv + size ∧ w.size.tdiv 2 ≤ w.recv + size) ∧
        w.receive size = (⟨w.size, w.recv + size, w.reduction⟩, none)) := by
  unfold receive
  dsimp only
  split_ifs with h
  · exact Or.inl ⟨h.1, rfl⟩
  · exact Or.inr ⟨h, rfl⟩

/-- Received bytes are either held back or announced. -/
theorem Books.receive (h : w.Books initial extended received) (size : Nat) :
    (w.receive size).1.Books initial (extended + announcedAmount (w.receive size).2)
      (received + size) := by
  rcases h with ⟨havail, hnonneg, hrecv, hbound, hsize, hleft⟩
  have hhalf : w.size.tdiv 2 = w.size / 2 := Int.tdiv_eq_ediv_of_nonneg hsize
  rcases receive_cases w size with ⟨hpos, heq⟩ | ⟨hheld, heq⟩
  · rw [heq]
    refine ⟨?_, hnonneg, ?_, hbound, hsize, ?_⟩
    · simp only [announcedAmount, Option.getD_some]
      linarith
    · simpa using hnonneg
    · simpa using hsize
  · rw [heq]
    rw [hhalf] at hheld
    refine ⟨?_, hnonneg, ?_, hbound, hsize, ?_⟩
    · simp only [announcedAmount, Option.getD_none]
      linarith
    · dsimp only
      omega
    · -- below the half of a window something is left of it
      dsimp only
      omega

theorem receive_announced_pos (w : Window) (size : Nat) :
    ∀ amount ∈ (w.receive size).2, 0 < amount := by
  intro amount hamount
  rcases receive_cases w size with ⟨hpos, heq⟩ | ⟨_, heq⟩
  · rw [heq] at hamount
    cases hamount
    exact hpos
  · rw [heq] at hamount
    cases hamount

/-- Nothing was taken from a fresh window. -/
theorem Open.start (initial : Int) : (⟨initial, 0, 0⟩ : Window).Open := by
  intro hpos
  simpa using hpos

/-- After a receive there is always something left of a positive window. -/
theorem Open.receive (hsize : 0 ≤ w.size) (size : Nat) : (w.receive size).1.Open := by
  have hhalf : w.size.tdiv 2 = w.size / 2 := Int.tdiv_eq_ediv_of_nonneg hsize
  intro hpos
  rcases receive_cases w size with ⟨_, heq⟩ | ⟨hheld, heq⟩
  · rw [heq] at hpos ⊢
    simpa using hpos
  · rw [heq] at hpos ⊢
    rw [hhalf] at hheld
    dsimp only at hpos ⊢
    omega

theorem resize_cases (w : Window) (windowSize : Int) :
    (windowSize = w.size ∧ w.resize windowSize = (w, none)) ∨
      (windowSize < w.size ∧ w.resize windowSize =
        (⟨windowSize, w.recv + (windowSize - w.size), w.reduction - (windowSize - w.size)⟩,
          none)) ∨
      (w.size < windowSize ∧ windowSize - w.size ≤ w.reduction ∧ w.resize windowSize =
        (⟨windowSize, w.recv + (windowSize - w.size), w.reduction - (windowSize - w.size)⟩,
          none)) ∨
      (w.size < windowSize ∧ w.reduction < windowSize - w.size ∧ w.resize windowSize =
        (⟨windowSize, w.recv + w.reduction, 0⟩, some (windowSize - w.size - w.reduction))) := by
  have hsum : w.size + (windowSize - w.size) = windowSize := by ring
  unfold resize
  dsimp only
  rw [hsum]
  split_ifs with hzero hneg hpos
  · exact Or.inl ⟨by omega, rfl⟩
  · exact Or.inr (Or.inl ⟨by omega, rfl⟩)
  · -- the reductions do not cover the raise
    have htake : w.reduction < windowSize - w.size := by
      by_contra hle
      rw [min_eq_right (by omega)] at hpos
      omega
    rw [min_eq_left (by omega), sub_self]
    exact Or.inr (Or.inr (Or.inr ⟨by omega, htake, rfl⟩))
  · have htake : windowSize - w.size ≤ w.reduction := by
      by_contra hlt
      rw [min_eq_left (by omega)] at hpos
      omega
    rw [min_eq_right htake]
    exact Or.inr (Or.inr (Or.inl ⟨by omega, htake, rfl⟩))

/-- A resize moves bytes between the counters; what it announces is new. -/
theorem Books.resize (h : w.Books initial extended received) {windowSize : Int}
    (hnonneg : 0 ≤ windowSize) (hmax : windowSize ≤ int32Max) :
    (w.resize windowSize).1.Books initial (extended + announcedAmount (w.resize windowSize).2)
      received := by
  rcases h with ⟨havail, hred, hrecv, hbound, hsize, hleft⟩
  rcases resize_cases w windowSize with
    ⟨_, heq⟩ | ⟨hlt, heq⟩ | ⟨hlt, hcover, heq⟩ | ⟨hlt, hcover, heq⟩
  · rw [heq]
    refine ⟨?_, hred, hrecv, hbound, hsize, hleft⟩
    simpa [announcedAmount] using havail
  · rw [heq]
    refine ⟨?_, ?_, ?_, ?_, hnonneg, ?_⟩ <;>
      simp only [announcedAmount, Option.getD_none] <;> omega
  · rw [heq]
    refine ⟨?_, ?_, ?_, ?_, hnonneg, ?_⟩ <;>
      simp only [announcedAmount, Option.getD_none] <;> omega
  · rw [heq]
    refine ⟨?_, ?_, ?_, ?_, hnonneg, ?_⟩ <;>
      simp only [announcedAmount, Option.getD_some] <;> omega

theorem resize_announced_pos (w : Window) (windowSize : Int) :
    ∀ amount ∈ (w.resize windowSize).2, 0 < amount := by
  intro amount hamount
  rcases resize_cases w windowSize with
    ⟨_, heq⟩ | ⟨_, heq⟩ | ⟨_, _, heq⟩ | ⟨_, hcover, heq⟩
  · rw [heq] at hamount
    cases hamount
  · rw [heq] at hamount
    cases hamount
  · rw [heq] at hamount
    cases hamount
  · rw [heq] at hamount
    cases hamount
    omega

/-- A resize leaves a window open exactly if a raise does not vanish in earlier reductions. -/
theorem Open.resize_iff (h : w.Books initial extended received) (hopen : w.Open) (windowSize : Int) :
    (w.resize windowSize).1.Open ↔ w.Raises windowSize := by
  rcases h with ⟨_, hred, _, _, hsize, hleft⟩
  unfold Open Raises at *
  rcases resize_cases w windowSize with
    ⟨hsame, heq⟩ | ⟨hlt, heq⟩ | ⟨hlt, hcover, heq⟩ | ⟨hlt, hcover, heq⟩
  · rw [heq]
    constructor
    · intro _ hraise
      omega
    · intro _
      exact hopen
  · rw [heq]
    constructor
    · intro _ hraise
      omega
    · intro _ hpos
      dsimp only at hpos ⊢
      have hbefore : 0 < w.size - w.recv := hopen (by omega)
      omega
  · rw [heq]
    constructor
    · intro hafter hraise hused
      have hsome : 0 < windowSize := by omega
      have hpos : 0 < windowSize - (w.recv + (windowSize - w.size)) := hafter hsome
      omega
    · intro hraises hpos
      have hnot : w.size - w.recv ≠ 0 := by
        intro hused
        have hmore : w.reduction < windowSize - w.size := hraises hlt hused
        omega
      dsimp only
      omega
  · rw [heq]
    constructor
    · intro _ _ _
      exact hcover
    · intro _ hpos
      dsimp only
      omega

end Window

/-! ## All windows -/

/-- The windows of a connection and of its streams, and what happened to them. -/
structure Windows where
  connection : Window
  stream : Int → Option Window
  log : List Happening

/-- What can happen to the windows. -/
inductive WindowAct
  | stay
  | opened (streamId : Int)
  | dropped (streamId : Int)
  | received (streamId : Int) (size : Nat)
  | connectionResized (windowSize : Int)
  | streamResized (streamId : Int) (windowSize : Int)

namespace Windows

/-- The window of a stream, or the one it starts with. -/
def of (v : Windows) (initial : Int) (streamId : Int) : Window :=
  (v.stream streamId).getD ⟨initial, 0, 0⟩

def announceConnection (announced : Option Int) : List Happening :=
  (announced.map Happening.extendMaxOffset).toList

def announceStream (streamId : Int) (announced : Option Int) : List Happening :=
  (announced.map (Happening.extendMaxStreamOffset streamId)).toList

/-- The windows behind a step; `initial` is what a stream starts with. -/
def step (initial : Int) (v : Windows) : WindowAct → Windows
  | .stay => v
  | .opened streamId =>
      { v with stream := Function.update v.stream streamId (some (v.of initial streamId)) }
  | .dropped streamId =>
      { v with
          stream := Function.update v.stream streamId none
          log := v.log ++ [.unregistered streamId] }
  | .received streamId size =>
      { connection := (v.connection.receive size).1
        stream :=
          Function.update v.stream streamId (some ((v.of initial streamId).receive size).1)
        log := v.log ++ ([.received streamId size] ++
          announceStream streamId ((v.of initial streamId).receive size).2 ++
          announceConnection (v.connection.receive size).2) }
  | .connectionResized windowSize =>
      { v with
          connection := (v.connection.resize windowSize).1
          log := v.log ++ announceConnection (v.connection.resize windowSize).2 }
  | .streamResized streamId windowSize =>
      { v with
          stream :=
            Function.update v.stream streamId
              (some ((v.of initial streamId).resize windowSize).1)
          log := v.log ++ announceStream streamId ((v.of initial streamId).resize windowSize).2 }

/-- The books of all windows balance. -/
structure Accounted (v : Windows) (initial : Int) : Prop where
  connection : v.connection.Books 65535 (Happening.total Happening.connExtended v.log)
    (Happening.total Happening.connReceived v.log)
  stream : ∀ streamId, (v.of initial streamId).Books initial
    (Happening.extendedSince streamId v.log) (Happening.receivedSince streamId v.log)
  announced : ∀ happening ∈ v.log, happening.Positive

/-- A window is resized to a size that an `int32_t` holds. -/
def Fits : WindowAct → Prop
  | .connectionResized windowSize => 0 ≤ windowSize ∧ windowSize ≤ int32Max
  | .streamResized _ windowSize => 0 ≤ windowSize ∧ windowSize ≤ int32Max
  | _ => True

theorem step_stream_of (v : Windows) (initial streamId id : Int) (connection w : Window)
    (more : List Happening) :
    (⟨connection, Function.update v.stream streamId (some w), more⟩ : Windows).of initial id =
      if id = streamId then w else v.of initial id := by
  unfold of
  by_cases hid : id = streamId
  · subst hid
    simp
  · simp [hid]

/-- Announcements of the kind `f` counts. -/
theorem total_counted {f : Happening → Int} {g : Int → Happening} (h : ∀ amount, f (g amount) = amount)
    (announced : Option Int) :
    Happening.total f (announced.map g).toList = Window.announcedAmount announced := by
  cases announced with
  | none => rfl
  | some amount => simp [Window.announcedAmount, h]

/-- Announcements of a kind `f` does not count. -/
theorem total_uncounted {f : Happening → Int} {g : Int → Happening} (h : ∀ amount, f (g amount) = 0)
    (announced : Option Int) : Happening.total f (announced.map g).toList = 0 := by
  cases announced with
  | none => rfl
  | some amount => simp [h]

@[simp] theorem announceConnection_conn (announced : Option Int) :
    Happening.total Happening.connExtended (announceConnection announced) =
        Window.announcedAmount announced ∧
      Happening.total Happening.connReceived (announceConnection announced) = 0 :=
  ⟨total_counted (fun _ => rfl) announced, total_uncounted (fun _ => rfl) announced⟩

@[simp] theorem announceConnection_stream (announced : Option Int) (id : Int) :
    Happening.total (Happening.streamExtended id) (announceConnection announced) = 0 ∧
      Happening.total (Happening.streamReceived id) (announceConnection announced) = 0 :=
  ⟨total_uncounted (fun _ => rfl) announced, total_uncounted (fun _ => rfl) announced⟩

@[simp] theorem announceStream_conn (streamId : Int) (announced : Option Int) :
    Happening.total Happening.connExtended (announceStream streamId announced) = 0 ∧
      Happening.total Happening.connReceived (announceStream streamId announced) = 0 :=
  ⟨total_uncounted (fun _ => rfl) announced, total_uncounted (fun _ => rfl) announced⟩

@[simp] theorem announceStream_stream (streamId : Int) (announced : Option Int) (id : Int) :
    Happening.total (Happening.streamExtended id) (announceStream streamId announced) =
        (if streamId = id then Window.announcedAmount announced else 0) ∧
      Happening.total (Happening.streamReceived id) (announceStream streamId announced) = 0 := by
  refine ⟨?_, total_uncounted (fun _ => rfl) announced⟩
  by_cases hid : streamId = id
  · rw [if_pos hid]
    exact total_counted (fun amount => by simp [Happening.streamExtended, hid]) announced
  · rw [if_neg hid]
    exact total_uncounted (fun amount => by simp [Happening.streamExtended, hid]) announced

theorem mem_announced {g : Int → Happening} {announced : Option Int} {happening : Happening}
    (h : happening ∈ (announced.map g).toList) : ∃ amount ∈ announced, happening = g amount := by
  cases announced with
  | none => simp at h
  | some amount => exact ⟨amount, rfl, by simpa using h⟩

/-- Entries that give up no id only add to what was recorded of a stream. -/
theorem since_totals {streamId : Int} (log : List Happening) {more : List Happening}
    (h : ∀ happening ∈ more, happening ≠ .unregistered streamId) :
    Happening.extendedSince streamId (log ++ more) = Happening.extendedSince streamId log +
        Happening.total (Happening.streamExtended streamId) more ∧
      Happening.receivedSince streamId (log ++ more) = Happening.receivedSince streamId log +
        Happening.total (Happening.streamReceived streamId) more := by
  unfold Happening.extendedSince Happening.receivedSince
  rw [Happening.sinceUnregistered_append log h]
  exact ⟨Happening.total_append _ _ _, Happening.total_append _ _ _⟩

namespace Accounted

variable {v : Windows} {initial : Int}

theorem opened (h : v.Accounted initial) (streamId : Int) :
    (v.step initial (.opened streamId)).Accounted initial := by
  refine ⟨h.connection, ?_, h.announced⟩
  intro id
  simp only [step]
  rw [step_stream_of]
  by_cases hid : id = streamId
  · subst hid
    rw [if_pos rfl]
    exact h.stream id
  · rw [if_neg hid]
    exact h.stream id

theorem dropped (h : v.Accounted initial) (hnonneg : 0 ≤ initial) (hmax : initial ≤ int32Max)
    (streamId : Int) : (v.step initial (.dropped streamId)).Accounted initial := by
  refine ⟨?_, ?_, ?_⟩
  · simpa [step, Happening.connExtended, Happening.connReceived] using h.connection
  · intro id
    unfold step Happening.extendedSince Happening.receivedSince
    dsimp only
    rw [Happening.sinceUnregistered_unregistered]
    by_cases hid : id = streamId
    · subst hid
      -- the id starts over
      have hof : ({ v with stream := Function.update v.stream id none,
                           log := v.log ++ [.unregistered id] } : Windows).of initial id =
          ⟨initial, 0, 0⟩ := by simp [of]
      rw [hof, if_pos rfl]
      exact Window.Books.start hnonneg hmax
    · have hof : ({ v with stream := Function.update v.stream streamId none,
                           log := v.log ++ [.unregistered streamId] } : Windows).of initial id =
          v.of initial id := by simp [of, hid]
      rw [hof, if_neg fun heq => hid heq.symm]
      simpa [Happening.streamExtended, Happening.streamReceived, Happening.extendedSince,
        Happening.receivedSince] using h.stream id
  · intro happening hmem
    rcases List.mem_append.mp hmem with hold | hnew
    · exact h.announced happening hold
    · rw [List.mem_singleton.mp hnew]
      trivial

theorem received (h : v.Accounted initial) (streamId : Int) (size : Nat) :
    (v.step initial (.received streamId size)).Accounted initial := by
  have hconn := h.connection.receive size
  have hstream := (h.stream streamId).receive size
  have hpositive := h.announced
  generalize hc : v.connection.receive size = connection at hconn
  generalize hs : (v.of initial streamId).receive size = stream at hstream
  have hconnpos : ∀ amount ∈ connection.2, 0 < amount := by
    rw [← hc]
    exact Window.receive_announced_pos _ _
  have hstreampos : ∀ amount ∈ stream.2, 0 < amount := by
    rw [← hs]
    exact Window.receive_announced_pos _ _
  simp only [step, hc, hs]
  refine ⟨?_, ?_, ?_⟩
  · simpa [Happening.connExtended, Happening.connReceived] using hconn
  · intro id
    have hmore : ∀ happening ∈ [.received streamId size] ++ announceStream streamId stream.2 ++
        announceConnection connection.2, happening ≠ .unregistered id := by
      intro happening hmem
      simp only [List.append_assoc, List.mem_append, List.mem_singleton] at hmem
      rcases hmem with rfl | hmem | hmem
      · simp
      · rcases mem_announced hmem with ⟨amount, _, rfl⟩
        simp
      · rcases mem_announced hmem with ⟨amount, _, rfl⟩
        simp
    rcases since_totals v.log hmore with ⟨hextended, hreceived⟩
    rw [step_stream_of, hextended, hreceived]
    by_cases hid : id = streamId
    · subst hid
      rw [if_pos rfl]
      simpa [Happening.streamExtended, Happening.streamReceived] using hstream
    · rw [if_neg hid]
      simpa [Happening.streamExtended, Happening.streamReceived, Ne.symm hid] using h.stream id
  · intro happening hmem
    simp only [List.append_assoc, List.mem_append, List.mem_singleton] at hmem
    rcases hmem with hold | rfl | hmem | hmem
    · exact hpositive happening hold
    · trivial
    · rcases mem_announced hmem with ⟨amount, hamount, rfl⟩
      exact hstreampos amount hamount
    · rcases mem_announced hmem with ⟨amount, hamount, rfl⟩
      exact hconnpos amount hamount

theorem connectionResized (h : v.Accounted initial) {windowSize : Int} (hnonneg : 0 ≤ windowSize)
    (hmax : windowSize ≤ int32Max) :
    (v.step initial (.connectionResized windowSize)).Accounted initial := by
  have hconn := h.connection.resize hnonneg hmax
  have hconnpos := Window.resize_announced_pos v.connection windowSize
  have hstream := h.stream
  have hpositive := h.announced
  generalize hc : v.connection.resize windowSize = connection at hconn hconnpos
  simp only [step, hc]
  refine ⟨?_, ?_, ?_⟩
  · simpa using hconn
  · intro id
    have hmore : ∀ happening ∈ announceConnection connection.2, happening ≠ .unregistered id := by
      intro happening hmem
      rcases mem_announced hmem with ⟨amount, _, rfl⟩
      simp
    rcases since_totals v.log hmore with ⟨hextended, hreceived⟩
    have hof : (v.of initial id).Books initial _ _ := hstream id
    rw [hextended, hreceived]
    simpa [of] using hof
  · intro happening hmem
    rcases List.mem_append.mp hmem with hold | hnew
    · exact hpositive happening hold
    · rcases mem_announced hnew with ⟨amount, hamount, rfl⟩
      exact hconnpos amount hamount

theorem streamResized (h : v.Accounted initial) (streamId : Int) {windowSize : Int}
    (hnonneg : 0 ≤ windowSize) (hmax : windowSize ≤ int32Max) :
    (v.step initial (.streamResized streamId windowSize)).Accounted initial := by
  have hstream := (h.stream streamId).resize hnonneg hmax
  have hstreampos := Window.resize_announced_pos (v.of initial streamId) windowSize
  have hconn := h.connection
  have hpositive := h.announced
  generalize hs : (v.of initial streamId).resize windowSize = stream at hstream hstreampos
  simp only [step, hs]
  refine ⟨?_, ?_, ?_⟩
  · simpa using hconn
  · intro id
    have hmore : ∀ happening ∈ announceStream streamId stream.2, happening ≠ .unregistered id := by
      intro happening hmem
      rcases mem_announced hmem with ⟨amount, _, rfl⟩
      simp
    rcases since_totals v.log hmore with ⟨hextended, hreceived⟩
    rw [step_stream_of, hextended, hreceived]
    by_cases hid : id = streamId
    · subst hid
      rw [if_pos rfl]
      simpa using hstream
    · rw [if_neg hid]
      simpa [Ne.symm hid] using h.stream id
  · intro happening hmem
    rcases List.mem_append.mp hmem with hold | hnew
    · exact hpositive happening hold
    · rcases mem_announced hnew with ⟨amount, hamount, rfl⟩
      exact hstreampos amount hamount

/-- Every step keeps the books. -/
theorem step (h : v.Accounted initial) (hnonneg : 0 ≤ initial) (hmax : initial ≤ int32Max)
    {a : WindowAct} (ha : Fits a) : (v.step initial a).Accounted initial := by
  cases a with
  | stay => exact h
  | opened streamId => exact h.opened streamId
  | dropped streamId => exact h.dropped hnonneg hmax streamId
  | received streamId size => exact h.received streamId size
  | connectionResized windowSize => exact h.connectionResized ha.1 ha.2
  | streamResized streamId windowSize => exact h.streamResized streamId ha.1 ha.2

end Accounted

/-- Every window that is configured positive leaves something to send into. -/
def Open (v : Windows) (initial : Int) : Prop :=
  v.connection.Open ∧ ∀ streamId, (v.of initial streamId).Open

/-- No raise vanishes in earlier reductions while the peer has nothing left. -/
def Raises (v : Windows) (initial : Int) : WindowAct → Prop
  | .connectionResized windowSize => v.connection.Raises windowSize
  | .streamResized streamId windowSize => (v.of initial streamId).Raises windowSize
  | _ => True

/-- Every window is left open by a step exactly if the step is no such raise. -/
theorem Open.step_iff {v : Windows} {initial : Int} (h : v.Accounted initial)
    (hopen : v.Open initial) (a : WindowAct) :
    (v.step initial a).Open initial ↔ v.Raises initial a := by
  cases a with
  | stay => exact ⟨fun _ => trivial, fun _ => hopen⟩
  | opened streamId =>
      refine ⟨fun _ => trivial, fun _ => ⟨hopen.1, ?_⟩⟩
      intro id
      simp only [step]
      rw [step_stream_of]
      split_ifs with hid
      · exact hopen.2 streamId
      · exact hopen.2 id
  | dropped streamId =>
      refine ⟨fun _ => trivial, fun _ => ⟨hopen.1, ?_⟩⟩
      intro id
      by_cases hid : id = streamId
      · subst hid
        simpa [step, of] using Window.Open.start initial
      · simpa [step, of, hid] using hopen.2 id
  | received streamId size =>
      refine ⟨fun _ => trivial, fun _ => ⟨?_, ?_⟩⟩
      · exact Window.Open.receive h.connection.size_nonneg size
      · intro id
        simp only [step]
        rw [step_stream_of]
        split_ifs with hid
        · exact Window.Open.receive (h.stream streamId).size_nonneg size
        · exact hopen.2 id
  | connectionResized windowSize =>
      have hone := Window.Open.resize_iff h.connection hopen.1 windowSize
      constructor
      · intro hafter
        exact hone.mp hafter.1
      · intro hraises
        exact ⟨hone.mpr hraises, hopen.2⟩
  | streamResized streamId windowSize =>
      have hone := Window.Open.resize_iff (h.stream streamId) (hopen.2 streamId) windowSize
      constructor
      · intro hafter
        have hwindow := hafter.2 streamId
        simp only [step] at hwindow
        rw [step_stream_of, if_pos rfl] at hwindow
        exact hone.mp hwindow
      · intro hraises
        refine ⟨hopen.1, ?_⟩
        intro id
        simp only [step]
        rw [step_stream_of]
        split_ifs with hid
        · exact hone.mpr hraises
        · exact hopen.2 id

end Windows

/-! ## The windows of the connection object -/

/-- The windows of a connection object; a stream has one if it has an entry in
`stream_local_window_size_`. -/
def windows (s : Http2Connection) : Windows where
  connection := s.connWindow
  stream streamId := (s.streamLocalWindowSize.find? streamId).map fun _ => s.streamWindow streamId
  log := s.log

/-- The window maps have entries together. -/
structure Tidy (s : Http2Connection) : Prop where
  absent : ∀ streamId, s.streamLocalWindowSize.find? streamId = none →
    s.streamRecvWindowSize.find? streamId = none ∧ s.streamRecvReduction.find? streamId = none
  registered : ∀ streamId, (s.streams.find? streamId).isSome →
    (s.streamLocalWindowSize.find? streamId).isSome

/-- What a step does to the windows. -/
def windowAct (s : Http2Connection) : Act → WindowAct
  | .callback (.streamOpen streamId) => .opened streamId
  | .callback (.streamClose streamId _) => .dropped streamId
  | .callback (.recvData streamId data) => .received streamId data.length
  | .submitRequest answer =>
      if s.closed || s.isServer || s.goawayReceived then .stay
      else if answer < 0 then .stay
      else .opened answer
  | .setLocalWindowSize streamId windowSize =>
      if s.closed then .stay
      else if windowSize < 0 then .stay
      else if streamId = 0 then .connectionResized windowSize
      else if (s.streams.find? streamId).isSome then .streamResized streamId windowSize
      else .stay
  | _ => .stay

/-- A step that leaves the windows alone. -/
structure SameWindows (s s' : Http2Connection) : Prop where
  initial : s'.initialWindowSize = s.initialWindowSize
  connection : s'.connWindow = s.connWindow
  localSize : s'.streamLocalWindowSize = s.streamLocalWindowSize
  recv : s'.streamRecvWindowSize = s.streamRecvWindowSize
  reduction : s'.streamRecvReduction = s.streamRecvReduction
  log : s'.log = s.log
  streams : ∀ streamId, (s'.streams.find? streamId).isSome = (s.streams.find? streamId).isSome

namespace SameWindows

variable {s s' : Http2Connection}

theorem refl (s : Http2Connection) : SameWindows s s :=
  ⟨rfl, rfl, rfl, rfl, rfl, rfl, fun _ => rfl⟩

theorem windows_eq (h : SameWindows s s') : s'.windows = s.windows := by
  unfold windows streamWindow
  rw [h.connection, h.localSize, h.recv, h.reduction, h.log]

theorem tidy (h : SameWindows s s') (hs : s.Tidy) : s'.Tidy := by
  constructor
  · intro streamId hnone
    rw [h.recv, h.reduction]
    rw [h.localSize] at hnone
    exact hs.absent streamId hnone
  · intro streamId hsome
    rw [h.localSize]
    rw [h.streams] at hsome
    exact hs.registered streamId hsome

end SameWindows

/-- What follows from `s` by a step of its windows. -/
structure Follows (s : Http2Connection) (a : WindowAct) (s' : Http2Connection) : Prop where
  tidy : s'.Tidy
  windows : s'.windows = s.windows.step s.initialWindowSize a
  initial : s'.initialWindowSize = s.initialWindowSize

theorem SameWindows.follows {s s' : Http2Connection} (h : SameWindows s s') (hs : s.Tidy) :
    Follows s .stay s' := ⟨h.tidy hs, h.windows_eq, h.initial⟩

/-- What leaves the windows alone may come behind a step. -/
theorem Follows.same {s s' s'' : Http2Connection} {a : WindowAct} (h : Follows s a s')
    (hsame : SameWindows s' s'') : Follows s a s'' :=
  ⟨hsame.tidy h.tidy, hsame.windows_eq.trans h.windows, hsame.initial.trans h.initial⟩

/-! ### Steps that leave them alone -/

theorem sameWindows_updateStream (s : Http2Connection) (streamId : Int)
    (f : StreamRuntime → StreamRuntime) : SameWindows s (s.updateStream streamId f) := by
  unfold updateStream
  cases hfind : s.streams.find? streamId with
  | none => exact SameWindows.refl s
  | some stream =>
      refine ⟨rfl, rfl, rfl, rfl, rfl, rfl, ?_⟩
      intro id
      simp only [OrdMap.find?_insert]
      by_cases hid : id = streamId
      · rw [if_pos hid, hid, hfind]
        rfl
      · rw [if_neg hid]

theorem sameWindows_onReadData (s : Http2Connection) (streamId : Int) :
    SameWindows s (s.onReadData streamId).1 := by
  simp only [onReadData]
  split <;> split <;> exact ⟨rfl, rfl, rfl, rfl, rfl, rfl, fun _ => rfl⟩

theorem sameWindows_onWriteStreamDataOffset (s : Http2Connection) (streamId : Int)
    (offset len : Nat) : SameWindows s (s.onWriteStreamDataOffset streamId offset len) := by
  simp only [onWriteStreamDataOffset]
  split_ifs
  · exact ⟨rfl, rfl, rfl, rfl, rfl, rfl, fun _ => rfl⟩
  · split <;> exact ⟨rfl, rfl, rfl, rfl, rfl, rfl, fun _ => rfl⟩

theorem sameWindows_submitTrailer (s : Http2Connection) (streamId rv : Int) :
    SameWindows s (s.submitTrailer streamId rv).1 := by
  rcases submitTrailer_cases s streamId rv with heq | ⟨_, _, _, _, _, _, _, heq⟩
  · rw [heq]
    exact SameWindows.refl s
  · rw [heq]
    exact ⟨rfl, rfl, rfl, rfl, rfl, rfl, fun _ => rfl⟩

/-! ### Steps that move them -/

theorem follows_initStreamWindow {s : Http2Connection} (hs : s.Tidy) (streamId : Int) :
    Follows s (.opened streamId) (s.initStreamWindow streamId) := by
  unfold initStreamWindow
  cases hfind : s.streamLocalWindowSize.find? streamId with
  | some size =>
      refine ⟨hs, ?_, rfl⟩
      -- the window is there already
      have hof : some (s.windows.of s.initialWindowSize streamId) = s.windows.stream streamId := by
        simp [Windows.of, windows, hfind]
      simp only [Windows.step, hof, Function.update_eq_self]
  | none =>
      rcases hs.absent streamId hfind with ⟨hrecv, hreduction⟩
      refine ⟨?_, ?_, rfl⟩
      · constructor
        · intro id hnone
          simp only [OrdMap.find?_insert] at hnone
          split_ifs at hnone
          exact hs.absent id hnone
        · intro id hsome
          simp only [OrdMap.find?_insert]
          split_ifs
          · rfl
          · exact hs.registered id hsome
      · have hof : s.windows.of s.initialWindowSize streamId = ⟨s.initialWindowSize, 0, 0⟩ := by
          simp [Windows.of, windows, hfind]
        simp only [Windows.step, hof]
        unfold windows
        congr 1
        funext id
        by_cases hid : id = streamId
        · subst hid
          simp [streamWindow, hrecv, hreduction]
        · simp [streamWindow, OrdMap.find?_insert, hid]

theorem follows_registerStream {s : Http2Connection} (hs : s.Tidy) (streamId : Int) :
    Follows s (.opened streamId) (s.registerStream streamId) := by
  have hwindow := follows_initStreamWindow hs streamId
  unfold registerStream initStream
  cases hfind : s.streams.find? streamId with
  | some stream => exact hwindow
  | none =>
      -- the entry of `streams_` does not touch what was done to the windows
      have hentry : ∀ id, (((s.initStreamWindow streamId).streamLocalWindowSize).find? id).isSome =
          (decide (id = streamId) || ((s.streamLocalWindowSize).find? id).isSome) := by
        intro id
        unfold initStreamWindow
        cases hlocal : s.streamLocalWindowSize.find? streamId with
        | some size =>
            by_cases hid : id = streamId
            · subst hid
              simp [hlocal]
            · simp [hid]
        | none =>
            by_cases hid : id = streamId
            · simp [hid]
            · simp [OrdMap.find?_insert, hid]
      have hcommute : ({ s with streams := s.streams.insert streamId {} }).initStreamWindow streamId =
          { s.initStreamWindow streamId with streams := s.streams.insert streamId {} } := by
        unfold initStreamWindow
        dsimp only
        cases s.streamLocalWindowSize.find? streamId <;> rfl
      dsimp only
      rw [hcommute]
      refine ⟨⟨hwindow.tidy.absent, ?_⟩, hwindow.windows, hwindow.initial⟩
      intro id hsome
      dsimp only at hsome ⊢
      rw [hentry]
      rw [OrdMap.find?_insert] at hsome
      by_cases hid : id = streamId
      · simp [hid]
      · rw [if_neg hid] at hsome
        simpa [hid] using hs.registered id hsome

theorem follows_unregisterStream {s : Http2Connection} (hs : s.Tidy) (streamId : Int) :
    Follows s (.dropped streamId) (s.unregisterStream streamId) := by
  refine ⟨⟨?_, ?_⟩, ?_, rfl⟩
  · intro id hnone
    simp only [unregisterStream, record, OrdMap.find?_erase] at hnone ⊢
    by_cases hid : id = streamId
    · simp [hid]
    · rw [if_neg hid] at hnone ⊢
      rw [if_neg hid]
      exact hs.absent id hnone
  · intro id hsome
    simp only [unregisterStream, record, OrdMap.find?_erase] at hsome ⊢
    by_cases hid : id = streamId
    · simp [hid] at hsome
    · rw [if_neg hid] at hsome ⊢
      exact hs.registered id hsome
  · unfold windows Windows.step
    simp only [unregisterStream, record]
    congr 1
    funext id
    by_cases hid : id = streamId
    · simp [hid]
    · simp [streamWindow, OrdMap.find?_erase, hid]

theorem extendMaxOffset_eq (s : Http2Connection) (announced : Option Int) :
    s.extendMaxOffset announced =
      { s with log := s.log ++ Windows.announceConnection announced } := by
  cases announced with
  | none => simp [extendMaxOffset, Windows.announceConnection]
  | some amount => rfl

theorem extendMaxStreamOffset_eq (s : Http2Connection) (streamId : Int) (announced : Option Int) :
    s.extendMaxStreamOffset streamId announced =
      { s with log := s.log ++ Windows.announceStream streamId announced } := by
  cases announced with
  | none => simp [extendMaxStreamOffset, Windows.announceStream]
  | some amount => rfl

theorem receive_window (w : Window) (size : Nat) :
    (w.receive size).1 = ⟨w.size, (w.receive size).1.recv, w.reduction⟩ := by
  rcases Window.receive_cases w size with ⟨_, heq⟩ | ⟨_, heq⟩ <;> rw [heq]

/-- The entry made for DATA of a stream comes before the counting. -/
theorem follows_onRecvData {s : Http2Connection} (hs : s.Tidy) (streamId : Int) (data : Bytes) :
    Follows s (.received streamId data.length) (s.onRecvData streamId data) := by
  have hopened := follows_initStreamWindow hs streamId
  have hcommute : (s.record (.received streamId data.length)).initStreamWindow streamId =
      (s.initStreamWindow streamId).record (.received streamId data.length) := by
    unfold initStreamWindow record
    dsimp only
    cases s.streamLocalWindowSize.find? streamId <;> rfl
  have hlocal : ((s.initStreamWindow streamId).streamLocalWindowSize.find? streamId).isSome := by
    unfold initStreamWindow
    cases hfind : s.streamLocalWindowSize.find? streamId with
    | some size => simp [hfind]
    | none => simp
  have hconn : (s.initStreamWindow streamId).connWindow = s.connWindow :=
    congrArg Windows.connection hopened.windows
  have hlog : (s.initStreamWindow streamId).log = s.log := congrArg Windows.log hopened.windows
  have hstream : (s.initStreamWindow streamId).windows.stream =
      Function.update s.windows.stream streamId
        (some (s.windows.of s.initialWindowSize streamId)) :=
    congrArg Windows.stream hopened.windows
  unfold onRecvData extendRecvStreamWindow extendRecvConnectionWindow
  dsimp only
  rw [hcommute]
  generalize s.initStreamWindow streamId = t at hopened hlocal hconn hlog hstream
  rcases Option.isSome_iff_exists.mp hlocal with ⟨size, hsize⟩
  have hof : t.streamWindow streamId = s.windows.of s.initialWindowSize streamId := by
    have hat := congrFun hstream streamId
    simpa [windows, hsize] using hat
  have hofrecord : (t.record (.received streamId data.length)).streamWindow streamId =
      s.windows.of s.initialWindowSize streamId := hof
  have hconnrecv : ∀ recv log, ({ t with streamRecvWindowSize := recv, log := log }).connWindow =
      s.windows.connection := fun _ _ => hconn
  rw [hofrecord, extendMaxStreamOffset_eq, extendMaxOffset_eq]
  simp only [record]
  rw [hconnrecv]
  have hwindow := receive_window (s.windows.of s.initialWindowSize streamId) data.length
  have hsizes : size = (s.windows.of s.initialWindowSize streamId).size := by
    rw [← hof]
    simp [streamWindow, hsize]
  have hreduction : (t.streamRecvReduction.find? streamId).getD 0 =
      (s.windows.of s.initialWindowSize streamId).reduction := congrArg Window.reduction hof
  generalize hw : s.windows.of s.initialWindowSize streamId = w at hwindow hsizes hreduction hstream ⊢
  refine ⟨⟨?_, ?_⟩, ?_, hopened.initial⟩
  · intro id hnone
    simp only [pushEvent, setConnWindow, OrdMap.find?_insert] at hnone ⊢
    by_cases hid : id = streamId
    · rw [hid, hsize] at hnone
      cases hnone
    · rw [if_neg hid]
      exact hopened.tidy.absent id hnone
  · intro id hsome
    exact hopened.tidy.registered id hsome
  · simp only [Windows.step, hw]
    show (⟨_, _, _⟩ : Windows) = _
    congr 1
    · funext id
      have hat := congrFun hstream id
      by_cases hid : id = streamId
      · subst hid
        rw [Function.update_self, hwindow]
        simp [pushEvent, setConnWindow, streamWindow, hsize, hsizes, hreduction]
      · rw [Function.update_of_ne hid] at hat ⊢
        rw [← hat]
        simp [pushEvent, setConnWindow, streamWindow, windows, OrdMap.find?_insert, hid]
    · show t.log ++ [_] ++ _ ++ _ = s.log ++ _
      rw [hlog]
      simp

theorem follows_setLocalWindowSize {s : Http2Connection} (hs : s.Tidy) (streamId windowSize : Int) :
    Follows s (s.windowAct (.setLocalWindowSize streamId windowSize))
      (s.setLocalWindowSize streamId windowSize).1 := by
  have hstay : Follows s .stay s := (SameWindows.refl s).follows hs
  simp only [windowAct, setLocalWindowSize]
  split_ifs with hclosed hneg hconn hopen
  · exact hstay
  · exact hstay
  · dsimp only
    rw [extendMaxOffset_eq]
    exact ⟨⟨hs.absent, hs.registered⟩, rfl, rfl⟩
  · rcases Option.isSome_iff_exists.mp hopen with ⟨stream, hstream⟩
    have hlocal : (s.streamLocalWindowSize.find? streamId).isSome := hs.registered streamId hopen
    rcases Option.isSome_iff_exists.mp hlocal with ⟨size, hsize⟩
    have hof : s.windows.of s.initialWindowSize streamId = s.streamWindow streamId := by
      simp [Windows.of, windows, hsize]
    rw [hstream]
    dsimp only
    rw [extendMaxStreamOffset_eq]
    refine ⟨⟨?_, ?_⟩, ?_, rfl⟩
    · intro id hnone
      simp only [setStreamWindow, OrdMap.find?_insert] at hnone ⊢
      split_ifs at hnone ⊢ with hid
      exact hs.absent id hnone
    · intro id hsome
      simp only [setStreamWindow, OrdMap.find?_insert] at hsome ⊢
      split_ifs
      · rfl
      · exact hs.registered id hsome
    · simp only [Windows.step, hof]
      unfold windows
      congr 1
      funext id
      by_cases hid : id = streamId
      · subst hid
        simp [setStreamWindow, streamWindow]
      · simp [setStreamWindow, streamWindow, OrdMap.find?_insert, hid]
  · have hnone : s.streams.find? streamId = none := by simpa using hopen
    rw [hnone]
    exact hstay

/-- Every step does to the windows what `windowAct` says. -/
theorem follows_act {s : Http2Connection} (hs : s.Tidy) (a : Act) :
    Follows s (s.windowAct a) (s.act a) := by
  have hstay : Follows s .stay s := (SameWindows.refl s).follows hs
  have hsame : ∀ {s'}, SameWindows s s' → Follows s .stay s' := fun h => h.follows hs
  cases a with
  | callback callback =>
      cases callback with
      | streamOpen streamId => exact follows_registerStream hs streamId
      | streamClose streamId errorCode =>
          have hreset : ∀ t : Http2Connection, SameWindows s t →
              Follows s (.dropped streamId)
                ({ t with localResets := t.localResets.erase streamId }.unregisterStream
                  streamId) := by
            intro t ht
            have hdropped := follows_unregisterStream (ht.tidy hs) streamId
            refine ⟨⟨hdropped.tidy.absent, hdropped.tidy.registered⟩, ?_,
              hdropped.initial.trans ht.initial⟩
            rw [← ht.windows_eq]
            exact hdropped.windows.trans (by rw [ht.initial])
          simp only [windowAct, act, onCallback, onStreamClose]
          cases errorCode with
          | none => exact hreset s (SameWindows.refl s)
          | some code =>
              dsimp only
              split_ifs
              · exact hreset s (SameWindows.refl s)
              · exact hreset _ ⟨rfl, rfl, rfl, rfl, rfl, rfl, fun _ => rfl⟩
      | recvData streamId data => exact follows_onRecvData hs streamId data
      | endHeaders streamId =>
          apply hsame
          simp only [act, onCallback]
          split <;> exact ⟨rfl, rfl, rfl, rfl, rfl, rfl, fun _ => rfl⟩
      | endTrailers streamId =>
          apply hsame
          simp only [act, onCallback]
          split <;> exact ⟨rfl, rfl, rfl, rfl, rfl, rfl, fun _ => rfl⟩
      | remoteEndStream streamId =>
          apply hsame
          rcases sameWindows_updateStream s streamId fun stream =>
            { stream with remoteClosed := true } with ⟨h1, h2, h3, h4, h5, h6, h7⟩
          exact ⟨h1, h2, h3, h4, h5, h6, h7⟩
      | localEndStream streamId => exact hsame (sameWindows_updateStream s streamId _)
      | readData streamId => exact hsame (sameWindows_onReadData s streamId)
      | writeStreamDataOffset streamId offset len =>
          exact hsame (sameWindows_onWriteStreamDataOffset s streamId offset len)
      | recvSettings => exact hsame ⟨rfl, rfl, rfl, rfl, rfl, rfl, fun _ => rfl⟩
      | beginHeaders streamId => exact hsame ⟨rfl, rfl, rfl, rfl, rfl, rfl, fun _ => rfl⟩
      | recvHeader streamId name value => exact hsame ⟨rfl, rfl, rfl, rfl, rfl, rfl, fun _ => rfl⟩
      | beginTrailers streamId => exact hsame ⟨rfl, rfl, rfl, rfl, rfl, rfl, fun _ => rfl⟩
      | recvTrailer streamId name value => exact hsame ⟨rfl, rfl, rfl, rfl, rfl, rfl, fun _ => rfl⟩
      | recvPingAck data rtt => exact hsame ⟨rfl, rfl, rfl, rfl, rfl, rfl, fun _ => rfl⟩
      | shutdown lastStreamId errorCode =>
          exact hsame ⟨rfl, rfl, rfl, rfl, rfl, rfl, fun _ => rfl⟩
  | settle closed closing pendingOut => exact hsame ⟨rfl, rfl, rfl, rfl, rfl, rfl, fun _ => rfl⟩
  | submitRequest answer =>
      simp only [windowAct, act, submitRequest]
      split_ifs
      · exact hstay
      · exact hstay
      · exact (follows_registerStream hs answer).same
          ⟨rfl, rfl, rfl, rfl, rfl, rfl, fun _ => rfl⟩
  | submitResponse streamId =>
      apply hsame
      simp only [act, submitResponse]
      split_ifs <;> exact ⟨rfl, rfl, rfl, rfl, rfl, rfl, fun _ => rfl⟩
  | sendData streamId data eof =>
      apply hsame
      simp only [act, sendData]
      split_ifs <;> exact ⟨rfl, rfl, rfl, rfl, rfl, rfl, fun _ => rfl⟩
  | resetStream streamId =>
      apply hsame
      simp only [act, resetStream]
      split_ifs <;> exact ⟨rfl, rfl, rfl, rfl, rfl, rfl, fun _ => rfl⟩
  | submitTrailer streamId rv => exact hsame (sameWindows_submitTrailer s streamId rv)
  | setLocalWindowSize streamId windowSize => exact follows_setLocalWindowSize hs streamId windowSize
  | terminateSession lastStreamId =>
      apply hsame
      simp only [act, terminateSession]
      split_ifs <;> exact ⟨rfl, rfl, rfl, rfl, rfl, rfl, fun _ => rfl⟩
  | goaway errorCode =>
      apply hsame
      simp only [act, goaway, terminateSession]
      split_ifs <;> exact ⟨rfl, rfl, rfl, rfl, rfl, rfl, fun _ => rfl⟩
  | nextEvent => exact hsame ⟨rfl, rfl, rfl, rfl, rfl, rfl, fun _ => rfl⟩

theorem windowAct_fits {s : Http2Connection} {a : Act} (h : a.Possible s) :
    Windows.Fits (s.windowAct a) := by
  cases a with
  | setLocalWindowSize streamId windowSize =>
      have hmax : windowSize ≤ int32Max := h
      simp only [windowAct]
      split_ifs with hclosed hneg
      · trivial
      · trivial
      · exact ⟨by omega, hmax⟩
      · exact ⟨by omega, hmax⟩
      · trivial
  | callback callback => cases callback <;> trivial
  | submitRequest answer =>
      simp only [windowAct]
      split_ifs <;> trivial
  | _ => trivial

/-- What the windows are like in every reachable state. -/
structure Exact (s : Http2Connection) : Prop where
  tidy : s.Tidy
  accounted : s.windows.Accounted s.initialWindowSize
  bound : (s.initialWindowSize : Int) ≤ int32Max

theorem Exact.create {isServer : Bool} {initialWindowSize : Nat} {s : Http2Connection}
    (h : create isServer initialWindowSize = some s) : s.Exact := by
  unfold Http2Connection.create at h
  split_ifs at h with hmax
  cases h
  refine ⟨⟨fun _ _ => ⟨rfl, rfl⟩, fun _ hsome => absurd hsome Bool.false_ne_true⟩, ?_, ?_⟩
  · have hconn : Window.Books ⟨65535, 0, 0⟩ 65535 0 0 :=
      Window.Books.start (by decide) (by decide)
    refine ⟨hconn, ?_, ?_⟩
    · intro streamId
      exact Window.Books.start (by simp) (by simpa using hmax)
    · intro happening hmem
      cases hmem
  · simpa using hmax

theorem Exact.takes {s s' : Http2Connection} {a : Act} (h : s.Exact) (ha : Takes s a s') :
    s'.Exact := by
  rcases ha with ⟨hpossible, rfl⟩
  have hfollows := follows_act h.tidy a
  refine ⟨hfollows.tidy, ?_, ?_⟩
  · rw [hfollows.windows, hfollows.initial]
    exact h.accounted.step (by simp) h.bound (windowAct_fits hpossible)
  · rw [hfollows.initial]
    exact h.bound

/-- The bytes the peer may still send on the connection. -/
def connGranted (s : Http2Connection) : Int :=
  65535 + Happening.total Happening.connExtended s.log -
    Happening.total Happening.connReceived s.log

/-- The bytes the peer may still send on a stream. -/
def streamGranted (s : Http2Connection) (streamId : Int) : Int :=
  s.initialWindowSize + Happening.extendedSince streamId s.log -
    Happening.receivedSince streamId s.log

/-- A value an `int32_t` holds is not changed by the conversion. -/
theorem toInt32_of_fits {value : Int} (hnonneg : 0 ≤ value) (hmax : value ≤ int32Max) :
    toInt32 value = value := by
  unfold int32Max at hmax
  unfold toInt32
  exact Int.bmod_eq_of_le (by omega) (by omega)

theorem Exact.streamWindow {s : Http2Connection} (h : s.Exact) {streamId : Int}
    {stream : StreamRuntime} (hopen : s.streams.find? streamId = some stream) :
    (s.streamWindow streamId).Books s.initialWindowSize (Happening.extendedSince streamId s.log)
      (Happening.receivedSince streamId s.log) := by
  have hlocal : (s.streamLocalWindowSize.find? streamId).isSome :=
    h.tidy.registered streamId (by simp [hopen])
  rcases Option.isSome_iff_exists.mp hlocal with ⟨size, hsize⟩
  have hof : s.windows.of s.initialWindowSize streamId = s.streamWindow streamId := by
    simp [Windows.of, windows, hsize]
  rw [← hof]
  exact h.accounted.stream streamId

/-- In every reachable state what a window holds is what was granted less what arrived, its counters
are in bounds, only positive amounts were announced, the peer was never granted more than an
`int32_t`, and the getters give the exact values. -/
theorem windows_exact {isServer : Bool} {initialWindowSize : Nat} {start s : Http2Connection}
    {acts : List Act} (hcreate : create isServer initialWindowSize = some start)
    (hrun : Path Takes start acts s) :
    s.connWindow.Books 65535 (Happening.total Happening.connExtended s.log)
        (Happening.total Happening.connReceived s.log) ∧
      (∀ streamId stream, s.streams.find? streamId = some stream →
        (s.streamWindow streamId).Books initialWindowSize
            (Happening.extendedSince streamId s.log) (Happening.receivedSince streamId s.log) ∧
          s.streamGranted streamId ≤ int32Max ∧
          (s.closed = false → s.streamLocalWindowSizeOf streamId =
            some (s.streamGranted streamId))) ∧
      (∀ happening ∈ s.log, happening.Positive) ∧
      s.connGranted ≤ int32Max ∧
      (s.closed = false → s.localWindowSize = some s.connGranted) := by
  have hexact : s.Exact ∧ s.initialWindowSize = initialWindowSize := by
    have hstart : start.Exact ∧ start.initialWindowSize = initialWindowSize := by
      refine ⟨Exact.create hcreate, ?_⟩
      unfold create at hcreate
      split_ifs at hcreate
      cases hcreate
      rfl
    refine Path.invariant (fun t => t.Exact ∧ t.initialWindowSize = initialWindowSize) ?_ hrun hstart
    intro t t' a ht ha
    refine ⟨ht.1.takes ha, ?_⟩
    rw [← ha.2, (follows_act ht.1.tidy a).initial, ht.2]
  rcases hexact with ⟨hexact, hinitial⟩
  have hconn := hexact.accounted.connection
  refine ⟨hconn, ?_, hexact.accounted.announced, hconn.granted_le, ?_⟩
  · intro streamId stream hopen
    have hbooks := hexact.streamWindow hopen
    rw [← hinitial]
    refine ⟨hbooks, hbooks.granted_le, ?_⟩
    intro hclosed
    have havail := hbooks.available
    have hnonneg := hbooks.granted_nonneg
    have hmax := hbooks.granted_le
    unfold streamLocalWindowSizeOf streamGranted
    rw [hclosed, if_neg Bool.false_ne_true, hopen, havail, max_eq_right hnonneg,
      toInt32_of_fits hnonneg hmax]
    rfl
  · intro hclosed
    have havail : s.connLocalWindowSize - s.connRecvWindowSize = s.connGranted := hconn.available
    have hnonneg : 0 ≤ s.connGranted := hconn.granted_nonneg
    have hmax : s.connGranted ≤ int32Max := hconn.granted_le
    unfold localWindowSize
    rw [hclosed, if_neg Bool.false_ne_true, havail, toInt32_of_fits hnonneg hmax]

/-- A stream is opened and its window is shrunk and grown again around DATA. -/
def shrunkActs : List Act :=
  [.callback (.streamOpen 1), .setLocalWindowSize 1 4, .callback (.recvData 1 [1, 2, 3, 4, 5, 6]),
    .setLocalWindowSize 1 12]

def shrunk : Http2Connection := shrunkActs.foldl act { isServer := true, initialWindowSize := 10 }

theorem windows_exact_shrunk :
    shrunk.localWindowSize = some shrunk.connGranted ∧
      shrunk.streamLocalWindowSizeOf 1 = some (shrunk.streamGranted 1) := by
  have hcreate : create true 10 = some { isServer := true, initialWindowSize := 10 } := rfl
  have hexact := windows_exact (s := shrunk) hcreate (Guarded.path (by decide +kernel))
  rcases hexact with ⟨_, hstream, _, _, hconn⟩
  have hopen : shrunk.streams.find? 1 = some {} := by decide +kernel
  exact ⟨hconn (by decide +kernel), (hstream 1 {} hopen).2.2 (by decide +kernel)⟩

/-! ## Raising a window -/

/-- A call raises no window that the peer has used up by as little as was reduced before. -/
def Act.Raises (s : Http2Connection) : Act → Prop
  | .setLocalWindowSize streamId windowSize =>
      s.closed = false →
        if streamId = 0 then s.connWindow.Raises windowSize
        else (s.streams.find? streamId).isSome = true → (s.streamWindow streamId).Raises windowSize
  | _ => True

/-- The peer sends only what it was granted. -/
def Act.Respects (s : Http2Connection) : Act → Prop
  | .callback (.recvData streamId data) =>
      data.length ≤ s.connGranted ∧ data.length ≤ s.streamGranted streamId
  | _ => True

/-- The connection and every open stream leave the peer something to send into, if they are
configured to. -/
def WindowsOpen (s : Http2Connection) : Prop :=
  s.connWindow.Open ∧
    ∀ streamId stream, s.streams.find? streamId = some stream → (s.streamWindow streamId).Open

instance (s : Http2Connection) (a : Act) : Decidable (a.Raises s) :=
  match a with
  | .setLocalWindowSize streamId windowSize =>
      inferInstanceAs (Decidable (s.closed = false →
        if streamId = 0 then s.connWindow.Raises windowSize
        else (s.streams.find? streamId).isSome = true →
          (s.streamWindow streamId).Raises windowSize))
  | .callback _ | .settle _ _ _ | .submitRequest _ | .submitResponse _ | .sendData _ _ _
  | .resetStream _ | .submitTrailer _ _ | .terminateSession _ | .goaway _ | .nextEvent =>
      inferInstanceAs (Decidable True)

instance (s : Http2Connection) (a : Act) : Decidable (a.Respects s) := by
  unfold Act.Respects
  split <;> infer_instance

theorem Exact.of_eq {s : Http2Connection} (h : s.Exact) {streamId : Int}
    (hopen : (s.streams.find? streamId).isSome = true) :
    s.windows.of s.initialWindowSize streamId = s.streamWindow streamId := by
  rcases Option.isSome_iff_exists.mp (h.tidy.registered streamId hopen) with ⟨size, hsize⟩
  simp [Windows.of, windows, hsize]

theorem Exact.windowsOpen {s : Http2Connection} (h : s.Exact)
    (hopen : s.windows.Open s.initialWindowSize) : s.WindowsOpen := by
  refine ⟨hopen.1, ?_⟩
  intro streamId stream hstream
  rw [← h.of_eq (by simp [hstream])]
  exact hopen.2 streamId

/-- A negative size raises nothing. -/
theorem Window.Raises.of_neg {w : Window} {windowSize : Int} (hw : 0 ≤ w.size)
    (hneg : windowSize < 0) : w.Raises windowSize := by
  intro hlt
  omega

/-- What `set_local_window_size` is for the windows, if it does anything. -/
theorem windowAct_resize {s : Http2Connection} (streamId : Int) {windowSize : Int}
    (hclosed : s.closed = false) (hneg : ¬ windowSize < 0) :
    (streamId = 0 → s.windowAct (.setLocalWindowSize streamId windowSize) =
        .connectionResized windowSize) ∧
      (streamId ≠ 0 → (s.streams.find? streamId).isSome = true →
        s.windowAct (.setLocalWindowSize streamId windowSize) =
          .streamResized streamId windowSize) := by
  constructor
  · intro hzero
    simp [windowAct, hclosed, hneg, hzero]
  · intro hzero hopen
    simp [windowAct, hclosed, hneg, hzero, hopen]

/-- What a raise of the connection object is for its windows. -/
theorem Exact.raises {s : Http2Connection} (h : s.Exact) {a : Act} (ha : a.Raises s) :
    s.windows.Raises s.initialWindowSize (s.windowAct a) := by
  cases a with
  | setLocalWindowSize streamId windowSize =>
      simp only [windowAct]
      split_ifs with hclosed hneg hzero hopen
      · trivial
      · trivial
      · have hraises := ha (by simpa using hclosed)
        rw [if_pos hzero] at hraises
        exact hraises
      · have hraises := ha (by simpa using hclosed)
        rw [if_neg hzero] at hraises
        rw [← h.of_eq hopen] at hraises
        exact hraises hopen
      · trivial
  | callback callback => cases callback <;> trivial
  | submitRequest answer =>
      simp only [windowAct]
      split_ifs <;> trivial
  | _ => trivial

theorem Open.create {isServer : Bool} {initialWindowSize : Nat} {s : Http2Connection}
    (h : create isServer initialWindowSize = some s) : s.windows.Open s.initialWindowSize := by
  unfold Http2Connection.create at h
  split_ifs at h
  cases h
  exact ⟨Window.Open.start 65535, fun _ => Window.Open.start initialWindowSize⟩

theorem Open.takes {s s' : Http2Connection} {a : Act} (h : s.Exact)
    (hopen : s.windows.Open s.initialWindowSize) (ha : Takes s a s') (hraises : a.Raises s) :
    s'.windows.Open s'.initialWindowSize := by
  rcases ha with ⟨_, rfl⟩
  have hfollows := follows_act h.tidy a
  rw [hfollows.windows, hfollows.initial]
  exact (Windows.Open.step_iff h.accounted hopen _).mpr (h.raises hraises)

/-- A raise that vanishes in earlier reductions leaves the window used up, and the window is one of
those that are asked about. -/
theorem raises_of_windowsOpen {s s' : Http2Connection} {a : Act} (h : s.Exact)
    (hopen : s.windows.Open s.initialWindowSize) (ha : Takes s a s') (hafter : s'.WindowsOpen) :
    a.Raises s := by
  have hexact : s'.Exact := h.takes ha
  rcases ha with ⟨_, rfl⟩
  cases a with
  | setLocalWindowSize streamId windowSize =>
      intro hclosed
      by_cases hneg : windowSize < 0
      · split_ifs
        · exact Window.Raises.of_neg h.accounted.connection.size_nonneg hneg
        · intro hsome
          rcases Option.isSome_iff_exists.mp hsome with ⟨stream, hstream⟩
          exact Window.Raises.of_neg (h.streamWindow hstream).size_nonneg hneg
      have hfollows := (follows_act h.tidy (.setLocalWindowSize streamId windowSize)).windows
      rcases windowAct_resize streamId hclosed hneg with ⟨hconn, hstream⟩
      split_ifs with hzero
      · rw [hconn hzero] at hfollows
        have hwindow : ((s.windows.connection).resize windowSize).1.Open := by
          have hone : (s.act (.setLocalWindowSize streamId windowSize)).windows.connection.Open :=
            hafter.1
          rw [hfollows] at hone
          exact hone
        exact (Window.Open.resize_iff h.accounted.connection hopen.1 windowSize).mp hwindow
      · intro hsome
        rw [hstream hzero hsome] at hfollows
        have hstreams : (s.act (.setLocalWindowSize streamId windowSize)).streams = s.streams := by
          simp only [act, setLocalWindowSize]
          split_ifs
          · rfl
          · split
            · rfl
            · rw [extendMaxStreamOffset_eq]
              rfl
        have hsome' := hsome
        rw [← hstreams] at hsome'
        rcases Option.isSome_iff_exists.mp hsome' with ⟨stream, hfound⟩
        have hone := hafter.2 streamId stream hfound
        rw [← hexact.of_eq hsome', hfollows,
          (follows_act h.tidy (.setLocalWindowSize streamId windowSize)).initial] at hone
        simp only [Windows.step] at hone
        rw [Windows.step_stream_of, if_pos rfl] at hone
        have hbooks := h.accounted.stream streamId
        have hraises := (Window.Open.resize_iff hbooks (hopen.2 streamId) windowSize).mp hone
        rw [h.of_eq hsome] at hraises
        exact hraises
  | _ => trivial

/-- Where no call raises a used-up window by as little as was reduced before, every positive window
leaves the peer something to send into; and no other step ends that. -/
theorem windows_stay_open {isServer : Bool} {initialWindowSize : Nat} {start s : Http2Connection}
    {acts : List Act} (hcreate : create isServer initialWindowSize = some start)
    (hrun : Path (Guarded act fun s a => a.Possible s ∧ a.Raises s) start acts s) :
    s.WindowsOpen ∧ ∀ a s', Takes s a s' → (s'.WindowsOpen ↔ a.Raises s) := by
  have hreach : s.Exact ∧ s.windows.Open s.initialWindowSize := by
    refine Path.invariant (fun t => t.Exact ∧ t.windows.Open t.initialWindowSize) ?_ hrun
      ⟨Exact.create hcreate, Open.create hcreate⟩
    intro t t' a ht ha
    have htakes : Takes t a t' := ⟨ha.1.1, ha.2⟩
    exact ⟨ht.1.takes htakes, Open.takes ht.1 ht.2 htakes ha.1.2⟩
  rcases hreach with ⟨hexact, hopen⟩
  refine ⟨hexact.windowsOpen hopen, ?_⟩
  intro a s' ha
  constructor
  · exact raises_of_windowsOpen hexact hopen ha
  · intro hraises
    exact (hexact.takes ha).windowsOpen (Open.takes hexact hopen ha hraises)

/-- A stream is opened with ten bytes, shrunk to none, and then raised past its reduction. -/
theorem windows_stay_open_grown :
    (([.callback (.streamOpen 1), .setLocalWindowSize 1 0, .callback (.recvData 1 [1, 2, 3, 4]),
      .setLocalWindowSize 1 20] : List Act).foldl act
        { isServer := true, initialWindowSize := 10 }).WindowsOpen := by
  have hcreate : create true 10 = some { isServer := true, initialWindowSize := 10 } := rfl
  exact (windows_stay_open hcreate
    (Guarded.path (by decide +kernel))).1

/-- The window of stream 1 is shrunk to nothing, used up and raised again: nothing is announced, and
the peer has nothing left to send into. -/
theorem shrunk_window_sticks :
    ¬ ∀ (isServer : Bool) (initialWindowSize : Nat) (start s : Http2Connection) (acts : List Act),
      create isServer initialWindowSize = some start →
      Path (Guarded act fun s a => a.Possible s ∧ a.Respects s) start acts s → s.WindowsOpen := by
  intro hclaim
  have hcreate : create true 4 = some { isServer := true, initialWindowSize := 4 } := rfl
  have hopen := hclaim true 4 _ _ [.callback (.streamOpen 1), .setLocalWindowSize 1 0,
    .callback (.recvData 1 [1, 2, 3, 4]), .setLocalWindowSize 1 2] hcreate
    (Guarded.path (by decide +kernel))
  have hstuck := hopen.2 1 {} (by decide +kernel)
  revert hstuck
  decide +kernel

end Http2Connection

end Http2
end WebTransport
