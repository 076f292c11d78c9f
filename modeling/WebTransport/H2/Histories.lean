import WebTransport.H2.Received

/-!
# H2.Histories — what one endpoint said so far

The capsules of one direction of a session, in the order in which they were queued.  A history is
read stream by stream (`about`) and limit by limit, and `Next` says which capsule an endpoint that
keeps the protocol may put behind it.

* `about`        : the capsules that speak about one stream;
* `dataBytes`, `ended`, `begun`, `stopped` : what they come to;
* `top`          : the limit reached by a list of grants;
* `Next`         : the capsules that may follow a history, `Lawful` when all of it was put so.
-/

namespace WebTransport
namespace H2

open Bindings

/-- The limit that grants on top of an initial one reach. -/
def top (initial : Nat) (grants : List Nat) : Nat := grants.foldl max initial

@[simp] theorem top_nil (initial : Nat) : top initial [] = initial := rfl

@[simp] theorem top_append (initial : Nat) (grants more : List Nat) :
    top initial (grants ++ more) = top (top initial grants) more := List.foldl_append

@[simp] theorem top_one (initial grant : Nat) : top initial [grant] = max initial grant := rfl

theorem le_top (initial : Nat) (grants : List Nat) : initial ≤ top initial grants := by
  induction grants generalizing initial with
  | nil => exact le_rfl
  | cons grant rest ih => exact (le_max_left initial grant).trans (ih (max initial grant))

theorem le_top_of_mem {initial grant : Nat} {grants : List Nat} (h : grant ∈ grants) :
    grant ≤ top initial grants := by
  rcases List.mem_iff_append.1 h with ⟨before, after, rfl⟩
  rw [top_append]
  exact (le_max_right _ grant).trans (le_top _ after)

/-- More grants reach no less. -/
theorem top_le_append (initial : Nat) (grants more : List Nat) :
    top initial grants ≤ top initial (grants ++ more) := by
  rw [top_append]
  exact le_top _ more

/-- The number of streams of one direction that the peer may open at first. -/
def H2SessionConfig.wtInitialMaxStreams (config : H2SessionConfig) (isUni : Bool) : Nat :=
  if isUni then config.wtInitialMaxStreamsUni else config.wtInitialMaxStreamsBidi

namespace Received

/-! ## Single capsules -/

/-- The stream a capsule speaks about. -/
def stream? : Received → Option Nat
  | .stream _ streamId _ => some streamId
  | .resetStream streamId _ _ => some streamId
  | .stopSending streamId _ => some streamId
  | .maxStreamData streamId _ => some streamId
  | .streamDataBlocked streamId => some streamId
  | _ => none

/-- The number of bytes of Stream Data. -/
def size : Received → Nat
  | .stream _ _ data => data.length
  | _ => 0

/-- WT_STREAM, WT_STREAM_FIN or WT_RESET_STREAM -/
def isData : Received → Bool
  | .stream _ _ _ => true
  | .resetStream _ _ _ => true
  | _ => false

/-- WT_STREAM_FIN or WT_RESET_STREAM -/
def isEnd : Received → Bool
  | .stream fin _ _ => fin
  | .resetStream _ _ _ => true
  | _ => false

/-- WT_STOP_SENDING -/
def isStop : Received → Bool
  | .stopSending _ _ => true
  | _ => false

/-- The value of WT_MAX_DATA. -/
def dataGrant : Received → Option Nat
  | .maxData limit => some limit
  | _ => none

/-- The value of WT_MAX_STREAM_DATA. -/
def streamGrant : Received → Option Nat
  | .maxStreamData _ limit => some limit
  | _ => none

/-- The value of WT_MAX_STREAMS for one direction. -/
def countGrant (isUni : Bool) : Received → Option Nat
  | .maxStreams isBidi limit => if isBidi = !isUni then some limit else none
  | _ => none

/-! ## Histories -/

/-- The capsules about one stream. -/
def about (id : Nat) (h : List Received) : List Received := h.filter fun r => r.stream? = some id

/-- The bytes of Stream Data. -/
def dataBytes (h : List Received) : Nat := (h.map size).sum

/-- The stream has begun. -/
def begun (h : List Received) : Bool := h.any isData

/-- The stream has ended. -/
def ended (h : List Received) : Bool := h.any isEnd

/-- A WT_STOP_SENDING is among the capsules. -/
def stopped (h : List Received) : Bool := h.any isStop

/-- The limits on the session's data. -/
def dataGrants (h : List Received) : List Nat := h.filterMap dataGrant

/-- The limits on a stream's data. -/
def streamGrants (h : List Received) : List Nat := h.filterMap streamGrant

/-- The limits on the number of streams. -/
def countGrants (isUni : Bool) (h : List Received) : List Nat := h.filterMap (countGrant isUni)

section Append

variable (id : Nat) (isUni : Bool) (h more : List Received)

@[simp] theorem about_append : about id (h ++ more) = about id h ++ about id more :=
  List.filter_append _ _

@[simp] theorem dataBytes_append : dataBytes (h ++ more) = dataBytes h + dataBytes more := by
  simp only [dataBytes, List.map_append, List.sum_append]

@[simp] theorem begun_append : begun (h ++ more) = (begun h || begun more) := List.any_append

@[simp] theorem ended_append : ended (h ++ more) = (ended h || ended more) := List.any_append

@[simp] theorem stopped_append : stopped (h ++ more) = (stopped h || stopped more) :=
  List.any_append

@[simp] theorem dataGrants_append : dataGrants (h ++ more) = dataGrants h ++ dataGrants more :=
  List.filterMap_append

@[simp] theorem streamGrants_append :
    streamGrants (h ++ more) = streamGrants h ++ streamGrants more := List.filterMap_append

@[simp] theorem countGrants_append :
    countGrants isUni (h ++ more) = countGrants isUni h ++ countGrants isUni more :=
  List.filterMap_append

end Append

@[simp] theorem about_nil (id : Nat) : about id [] = [] := rfl

@[simp] theorem dataBytes_nil : dataBytes [] = 0 := rfl

@[simp] theorem begun_nil : begun [] = false := rfl

@[simp] theorem ended_nil : ended [] = false := rfl

@[simp] theorem stopped_nil : stopped [] = false := rfl

@[simp] theorem streamGrants_nil : streamGrants [] = [] := rfl

@[simp] theorem dataBytes_one (r : Received) : dataBytes [r] = r.size := Nat.add_zero _

@[simp] theorem begun_one (r : Received) : begun [r] = r.isData := Bool.or_false _

@[simp] theorem ended_one (r : Received) : ended [r] = r.isEnd := Bool.or_false _

@[simp] theorem stopped_one (r : Received) : stopped [r] = r.isStop := Bool.or_false _

theorem about_one (id : Nat) (r : Received) :
    about id [r] = if r.stream? = some id then [r] else [] := by
  unfold about
  rw [List.filter_cons]
  split_ifs <;> simp_all

theorem about_self {id : Nat} {r : Received} (h : r.stream? = some id) : about id [r] = [r] := by
  rw [about_one, if_pos h]

/-- What is said of one stream is part of what is said. -/
theorem dataBytes_about_le (id : Nat) (h : List Received) :
    dataBytes (about id h) ≤ dataBytes h := by
  unfold dataBytes about
  exact ((List.filter_sublist).map size).sum_le_sum fun _ _ => Nat.zero_le _

/-- A stream that has not begun carries no data. -/
theorem dataBytes_of_not_begun {h : List Received} (hbegun : begun h = false) :
    dataBytes h = 0 := by
  induction h with
  | nil => rfl
  | cons r rest ih =>
      have hsplit : r.isData = false ∧ begun rest = false := Bool.or_eq_false_iff.1 hbegun
      have hrest := ih hsplit.2
      have hr : r.size = 0 := by
        cases r with
        | stream fin streamId data => exact Bool.noConfusion hsplit.1
        | _ => rfl
      calc
        dataBytes (r :: rest) = r.size + dataBytes rest := rfl
        _ = 0 := by rw [hr, hrest]

/-- A stream that has not begun has not ended. -/
theorem ended_of_not_begun {h : List Received} (hbegun : begun h = false) : ended h = false := by
  induction h with
  | nil => rfl
  | cons r rest ih =>
      have hsplit : r.isData = false ∧ begun rest = false := Bool.or_eq_false_iff.1 hbegun
      have hr : r.isEnd = false := by
        cases r with
        | stream fin streamId data => exact Bool.noConfusion hsplit.1
        | resetStream streamId errorCode reliableSize => exact Bool.noConfusion hsplit.1
        | _ => rfl
      exact Bool.or_eq_false_iff.2 ⟨hr, ih hsplit.2⟩

/-! ## The protocol -/

/-- What an endpoint may say after `h`: it sends in the direction of the stream and not behind its
end, it stops a stream once and grants nothing on it afterwards, and no limit of its own ever
falls.  `config` is the one its first limits come from. -/
def Next (isServer : Bool) (config : H2SessionConfig) (h : List Received) : Received → Prop
  | .stream _ streamId _ =>
      isReceivableFlowCapsule streamId isServer = true ∧ ended (about streamId h) = false
  | .resetStream streamId _ reliableSize =>
      isReceivableFlowCapsule streamId isServer = true ∧ ended (about streamId h) = false ∧
        reliableSize = dataBytes (about streamId h)
  | .streamDataBlocked streamId =>
      isReceivableFlowCapsule streamId isServer = true ∧ ended (about streamId h) = false
  | .stopSending streamId _ =>
      isReceivableDataCapsule streamId isServer = true ∧ stopped (about streamId h) = false
  | .maxStreamData streamId limit =>
      isReceivableDataCapsule streamId isServer = true ∧ stopped (about streamId h) = false ∧
        top config.wtInitialMaxStreamData (streamGrants (about streamId h)) ≤ limit
  | .maxData limit => top config.wtInitialMaxData (dataGrants h) ≤ limit
  | .maxStreams isBidi limit =>
      limit ≤ kMaxStreamsLimit ∧
        top (config.wtInitialMaxStreams (!isBidi)) (countGrants (!isBidi) h) ≤ limit
  | .streamsBlocked limit => limit ≤ kMaxStreamsLimit
  | .closeSession _ _ => False
  | .datagram _ => True
  | .drainSession => True
  | .ignored => True

/-- Every capsule of the history may follow the ones in front of it. -/
def Lawful (isServer : Bool) (config : H2SessionConfig) (h : List Received) : Prop :=
  ∀ before r after, h = before ++ r :: after → Next isServer config before r

theorem lawful_nil (isServer : Bool) (config : H2SessionConfig) : Lawful isServer config [] := by
  intro before r after h
  exact absurd h.symm (List.append_ne_nil_of_right_ne_nil before (List.cons_ne_nil r after))

theorem Lawful.concat {isServer : Bool} {config : H2SessionConfig} {h : List Received}
    {r : Received}
    (hlawful : Lawful isServer config h) (hnext : Next isServer config h r) :
    Lawful isServer config (h ++ [r]) := by
  intro before r' after heq
  rcases List.eq_nil_or_concat after with rfl | ⟨after', last, rfl⟩
  · have hlast := List.append_inj' heq rfl
    have hr : r = r' := List.singleton_inj.1 hlast.2
    rw [← hlast.1, ← hr]
    exact hnext
  · have hmiddle : h ++ [r] = (before ++ r' :: after') ++ [last] := by
      rw [heq, List.concat_eq_append, List.append_assoc]
      rfl
    exact hlawful before r' after' (List.append_inj' hmiddle rfl).1

/-- The part of a lawful history that has arrived is followed by a capsule that may follow it. -/
theorem Lawful.next {isServer : Bool} {config : H2SessionConfig} {h rest : List Received}
    {r : Received} (hlawful : Lawful isServer config (h ++ r :: rest)) :
    Next isServer config h r := hlawful h r rest rfl

end Received

end H2
end WebTransport
