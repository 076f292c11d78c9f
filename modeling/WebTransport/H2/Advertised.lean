import WebTransport.Data.Ascent
import WebTransport.H2.Bounds
import WebTransport.H2.Tracking

/-!
# H2.Advertised — the limits given to the peer do not fall

A session gives its peer a limit for its stream data (WT_MAX_DATA), for each stream
(WT_MAX_STREAM_DATA) and for the number of streams (WT_MAX_STREAMS).  The replenishments raise these
limits one after the other; `sendInitialLimits` queues the values of the SETTINGS whatever was queued
before.

* `Trans.given`, `Trans.givenOn` : what a change does to the limits, and what it advertises;
* `tracks_limit`, `tracks_stream`: the advertised values next to the entry;
* `limits_behind_drain`          : `accept_session` queues the initial limits when it has processed
  what was buffered;
* `limits_never_fall`            : along a run in which no limit is raised before, no advertised
  value falls;
* `accept_lowers_a_limit`        : a stream that ends while `accept_session` drains the buffer.
-/

namespace WebTransport
namespace H2

open Bindings

/-! ## Advertised values -/

/-- The limits of a session that are advertised for the session as a whole. -/
inductive SessionLimit
  | data
  | streamsBidi
  | streamsUni
  deriving DecidableEq

namespace SessionLimit

/-- The value of the SETTINGS. -/
def initial (config : H2SessionConfig) : SessionLimit → Nat
  | data => config.wtInitialMaxData
  | streamsBidi => config.wtInitialMaxStreamsBidi
  | streamsUni => config.wtInitialMaxStreamsUni

/-- `max_data_remote`, `max_streams_bidi_remote` and `max_streams_uni_remote` -/
def given (w : WtSessionInfo) : SessionLimit → Nat
  | data => w.maxDataRemote
  | streamsBidi => w.maxStreamsBidiRemote
  | streamsUni => w.maxStreamsUniRemote

/-- The value that a capsule advertises. -/
def value : SessionLimit → Capsule → Option Nat
  | data, .wtMaxData maxData => some maxData
  | streamsBidi, .wtMaxStreamsBidi maxStreams => some maxStreams
  | streamsUni, .wtMaxStreamsUni maxStreams => some maxStreams
  | _, _ => none

/-- The values that capsules advertise, in order. -/
def advertised (limit : SessionLimit) (cs : List Capsule) : List Nat := cs.filterMap limit.value

@[simp] theorem advertised_append (limit : SessionLimit) (cs cs' : List Capsule) :
    limit.advertised (cs ++ cs') = limit.advertised cs ++ limit.advertised cs' :=
  List.filterMap_append

theorem advertised_close (limit : SessionLimit) {c : Capsule} (h : c.isClose = true) :
    limit.advertised [c] = [] := by
  cases c with
  | wtCloseSession errorCode message => cases limit <;> rfl
  | _ => cases h

end SessionLimit

/-- The limit that a capsule advertises for a stream. -/
def Capsule.streamLimit (streamId : Nat) : Capsule → Option Nat
  | .wtMaxStreamData id maxData => if id = streamId then some maxData else none
  | _ => none

/-- The limits that capsules advertise for a stream, in order. -/
def streamLimits (streamId : Nat) (cs : List Capsule) : List Nat :=
  cs.filterMap (Capsule.streamLimit streamId)

@[simp] theorem streamLimits_append (streamId : Nat) (cs cs' : List Capsule) :
    streamLimits streamId (cs ++ cs') = streamLimits streamId cs ++ streamLimits streamId cs' :=
  List.filterMap_append

theorem streamLimits_close (streamId : Nat) {c : Capsule} (h : c.isClose = true) :
    streamLimits streamId [c] = [] := by
  cases c with
  | wtCloseSession errorCode message => rfl
  | _ => cases h

namespace WtSessionInfo

variable {permits : Permits} {config : H2SessionConfig} {isServer : Bool} {w w' : WtSessionInfo}
  {l : Label}

/-! ## What a change advertises -/

/-- A change leaves a limit of the session alone, or raises it to the value that it advertises. -/
theorem Trans.given (h : Trans permits config isServer w l w') (limit : SessionLimit) :
    (limit.advertised (Label.sentOf [l]) = [] ∧ limit.given w' = limit.given w) ∨
      (limit.given w ≤ limit.given w' ∧
        limit.advertised (Label.sentOf [l]) = [limit.given w']) := by
  cases h with
  | grantData hrise hle =>
      cases limit with
      | data => exact Or.inr ⟨hrise.le, rfl⟩
      | _ => exact Or.inl ⟨rfl, rfl⟩
  | grantStreamsBidi hlt =>
      cases limit with
      | streamsBidi => exact Or.inr ⟨Nat.le_succ _, rfl⟩
      | _ => exact Or.inl ⟨rfl, rfl⟩
  | grantStreamsUni hlt =>
      cases limit with
      | streamsUni => exact Or.inr ⟨Nat.le_succ _, rfl⟩
      | _ => exact Or.inl ⟨rfl, rfl⟩
  | recvMaxData hrise => split_ifs <;> cases limit <;> exact Or.inl ⟨rfl, rfl⟩
  | recvMaxStreamData hreceivable hstop hrise hfind =>
      refine Or.inl ⟨by cases limit <;> rfl, ?_⟩
      unfold recordMaxStreamData raiseMaxStreamData
      split_ifs <;> cases limit <;> rfl
  | recvMaxStreamDataUnknown hreceivable hstop hrise hfind =>
      refine Or.inl ⟨by cases limit <;> rfl, ?_⟩
      unfold recordMaxStreamData
      split_ifs <;> cases limit <;> rfl
  | recvMaxStreamsBidi hle hrise => split_ifs <;> cases limit <;> exact Or.inl ⟨rfl, rfl⟩
  | recvMaxStreamsUni hle hrise => split_ifs <;> cases limit <;> exact Or.inl ⟨rfl, rfl⟩
  | _ => cases limit <;> exact Or.inl ⟨rfl, rfl⟩

/-- The limit of a stream, if there is one under the id. -/
def streamGiven (id : Nat) (w : WtSessionInfo) : Option Nat :=
  (w.streams.find? id).map WtStreamInfo.maxStreamDataRemote

theorem streamGiven_some {id value : Nat} (h : w.streamGiven id = some value) :
    ∃ info, w.streams.find? id = some info :=
  (Option.map_eq_some_iff.1 h).imp fun _ hinfo => hinfo.1

theorem streamGiven_none {id : Nat} : w.streamGiven id = none ↔ w.streams.find? id = none :=
  Option.map_eq_none_iff

theorem streamGiven_congr {id : Nat} (h : w'.streams = w.streams) :
    w'.streamGiven id = w.streamGiven id := by
  unfold streamGiven
  rw [h]

/-- What a change does to the limit of a stream: nothing, it creates the stream with the value of the
SETTINGS, releases it, or raises the limit to the value that it advertises. -/
inductive GivenOn (config : H2SessionConfig) (id : Nat) (w : WtSessionInfo) (l : Label)
    (w' : WtSessionInfo) : Prop
  | same (hquiet : streamLimits id (Label.sentOf [l]) = [])
      (hsame : w'.streamGiven id = w.streamGiven id)
  | created (hquiet : streamLimits id (Label.sentOf [l]) = []) (hnone : w.streamGiven id = none)
      (hnew : w'.streamGiven id = some config.wtInitialMaxStreamData)
  | released (hquiet : streamLimits id (Label.sentOf [l]) = []) (hnone : w'.streamGiven id = none)
  | raised {value value' : Nat} (hvalue : w.streamGiven id = some value)
      (hvalue' : w'.streamGiven id = some value') (hle : value ≤ value')
      (hsent : streamLimits id (Label.sentOf [l]) = [value'])

section Streams

variable {id streamId : Nat} {info info' : WtStreamInfo}

/-- An entry is rewritten. -/
theorem GivenOn.rewrite (hfind : w.streams.find? streamId = some info)
    (hstreams : w'.streams = w.streams.insert streamId info')
    (hlimit : info'.maxStreamDataRemote = info.maxStreamDataRemote)
    (hquiet : streamLimits id (Label.sentOf [l]) = []) : GivenOn config id w l w' := by
  refine .same hquiet ?_
  unfold streamGiven
  rw [hstreams, OrdMap.find?_insert]
  split_ifs with heq
  · rw [heq, hfind, Option.map_some, Option.map_some, hlimit]
  · rfl

/-- A stream is created. -/
theorem GivenOn.create (hnone : w.streams.find? streamId = none)
    (hstreams : w'.streams = w.streams.insert streamId info)
    (hlimit : info.maxStreamDataRemote = config.wtInitialMaxStreamData)
    (hquiet : streamLimits id (Label.sentOf [l]) = []) : GivenOn config id w l w' := by
  rcases eq_or_ne id streamId with rfl | hne
  · refine .created hquiet (streamGiven_none.2 hnone) ?_
    unfold streamGiven
    rw [hstreams, OrdMap.find?_insert_self, Option.map_some, hlimit]
  · refine .same hquiet ?_
    unfold streamGiven
    rw [hstreams, OrdMap.find?_insert, if_neg hne]

/-- The stream that received data reaches is rewritten, or created first. -/
theorem Reaches.givenOn (h : Reaches permits config isServer w streamId info)
    (hstreams : w'.streams = w.streams.insert streamId info')
    (hlimit : info'.maxStreamDataRemote = info.maxStreamDataRemote)
    (hquiet : streamLimits id (Label.sentOf [l]) = []) : GivenOn config id w l w' := by
  cases h with
  | existing hfind => exact .rewrite hfind hstreams hlimit hquiet
  | created hcreate hnone hnew hbelow =>
      exact .create hnone hstreams hlimit hquiet

/-- The stream that `open_stream` creates. -/
theorem givenOn_open (isUni : Bool) (hnone : w.streams.find? streamId = none) :
    GivenOn config id w .internal ((w.allocateStreamId isUni).setStream streamId
      (w.newStream config streamId true isUni)) := by
  refine @GivenOn.create config w _ .internal id streamId
    (w.newStream config streamId true isUni) hnone ?_ rfl rfl
  cases isUni <;> rfl

theorem Trans.givenOn (h : Trans permits config isServer w l w') (id : Nat) :
    GivenOn config id w l w' := by
  cases h with
  | enqueue data fin hfind hsendable hready hfin => exact .rewrite hfind rfl rfl rfl
  | sendPart hfind hready hpending hsize hsession hstream => exact .rewrite hfind rfl rfl rfl
  | sendFront hfind hready hpending hsession hstream => exact .rewrite hfind rfl rfl rfl
  | clearPending hfind hdone => exact .rewrite hfind rfl rfl rfl
  | streamDataBlocked hfind hready hpending hexhausted => exact .rewrite hfind rfl rfl rfl
  | reset errorCode hpermit hfind hready => exact .rewrite hfind rfl rfl rfl
  | @release streamId info hfind hreleasable =>
      rcases eq_or_ne id streamId with rfl | hne
      · exact .released rfl (streamGiven_none.2 (OrdMap.find?_erase_self _ _))
      · exact .same rfl (congrArg (Option.map _) (OrdMap.find?_erase_ne _ hne))
  | @grantStreamData streamId info maxData hfind hreceivable hstop hrise hle =>
      rcases eq_or_ne id streamId with rfl | hne
      · refine @GivenOn.raised _ _ _ _ _ info.maxStreamDataRemote maxData ?_ ?_ hrise.le ?_
        · unfold streamGiven
          rw [hfind, Option.map_some]
        · unfold streamGiven setStream
          rw [OrdMap.find?_insert_self, Option.map_some]
        · simp [Label.sentOf, streamLimits, Capsule.streamLimit]
      · refine .same ?_ (congrArg (Option.map _) (OrdMap.find?_insert_ne w.streams _ hne))
        simp [Label.sentOf, streamLimits, Capsule.streamLimit, hne.symm]
  | openBidi hcreate hopened hnone => exact givenOn_open false hnone
  | openUni hcreate hopened hnone => exact givenOn_open true hnone
  | recvStream hreceivable hreaches hstate hlate hsession hstream =>
      exact hreaches.givenOn rfl rfl rfl
  | recvReset hreceivable hreaches hstate => exact hreaches.givenOn rfl rfl rfl
  | recvStop hreceivable hfirst hfind => exact .rewrite hfind rfl rfl rfl
  | recvMaxData hrise => split_ifs <;> exact .same rfl rfl
  | recvMaxStreamData hreceivable hstop hrise hfind =>
      split_ifs with hmore
      · exact .rewrite hfind rfl rfl rfl
      · exact .same rfl rfl
  | recvMaxStreamsBidi hle hrise => split_ifs <;> exact .same rfl rfl
  | recvMaxStreamsUni hle hrise => split_ifs <;> exact .same rfl rfl
  | _ => exact .same rfl rfl

end Streams

/-! ## Advertised limits next to the entry -/

section Tracked

variable {create : WtSessionInfo → Nat → Prop} {id : Nat}

/-- From the value of the SETTINGS on, the advertised values of a limit do not fall, and the last one
is the limit of the entry. -/
def Advertised (config : H2SessionConfig) (limit : SessionLimit) (entry : Option WtSessionInfo)
    (cs : List Capsule) : Prop :=
  ∃ top, Ascends (limit.initial config) (limit.advertised cs) top ∧
    ∀ w, entry = some w → limit.given w = top

theorem tracks_limit (limit : SessionLimit) :
    Tracks create config isServer (Advertised config limit) := by
  -- The entry changes, and nothing is advertised.
  have hquiet : ∀ {w w' : WtSessionInfo} {cs cs' : List Capsule},
      Advertised config limit (some w) cs → limit.given w' = limit.given w →
      limit.advertised cs' = limit.advertised cs → Advertised config limit (some w') cs' := by
    rintro w w' cs cs' ⟨top, hascends, htop⟩ hgiven hadvertised
    refine ⟨top, hadvertised ▸ hascends, ?_⟩
    intro w'' hw''
    cases hw''
    exact hgiven.trans (htop w rfl)
  refine ⟨?_, ?_, ?_, ?_, ?_, ?_, ?_⟩
  · rintro entry cs ⟨top, hascends, -⟩
    refine ⟨top, hascends, ?_⟩
    intro w hw
    cases hw
  · intro w w' cs hinv hcore
    have hcored : ∀ w : WtSessionInfo, limit.given w.core = limit.given w := by
      intro w
      cases limit <;> rfl
    refine hquiet hinv ?_ rfl
    rw [← hcored w', hcore, hcored]
  · intro w w' l cs hinv htrans
    rcases htrans.given limit with ⟨hnone, hgiven⟩ | ⟨hle, hone⟩
    · refine hquiet hinv hgiven ?_
      rw [SessionLimit.advertised_append, hnone, List.append_nil]
    · obtain ⟨top, hascends, htop⟩ := hinv
      rw [htop w rfl] at hle
      refine ⟨limit.given w', ?_, ?_⟩
      · rw [SessionLimit.advertised_append, hone]
        exact hascends.concat hle
      · intro w'' hw''
        cases hw''
        rfl
  · intro w streamId cs hinv hcreate hreceivable hnone
    refine hquiet hinv ?_ rfl
    cases limit <;> rfl
  · rintro w cs ⟨u, bl, br⟩ hinv
    refine hquiet hinv ?_ rfl
    cases limit <;> cases u <;> cases bl <;> cases br <;> rfl
  · rintro entry cs c ⟨top, hascends, htop⟩ hclose
    refine ⟨top, ?_, htop⟩
    rw [SessionLimit.advertised_append, SessionLimit.advertised_close limit hclose, List.append_nil]
    exact hascends
  · rintro w cs ⟨top, hascends, htop⟩ ⟨hdata, hbidi, huni⟩
    -- The values of the SETTINGS are advertised while the entry still has them.
    have hinitial : limit.given w = limit.initial config := by
      cases limit with
      | data => exact hdata
      | streamsBidi => exact hbidi
      | streamsUni => exact huni
    have hvalues : limit.advertised config.initialLimits = [limit.initial config] := by
      cases limit <;> rfl
    have hle : top ≤ limit.initial config := by rw [← hinitial, htop w rfl]
    refine ⟨limit.initial config, ?_, ?_⟩
    · rw [SessionLimit.advertised_append, hvalues]
      exact hascends.concat hle
    · intro w' hw'
      cases hw'
      exact hinitial

/-- The values advertised for a stream do not fall, the last one is the limit of the stream, and a
stream that is gone after a value was advertised has been released. -/
structure StreamAdvertised (config : H2SessionConfig) (isServer : Bool) (id : Nat)
    (entry : Option WtSessionInfo) (cs : List Capsule) : Prop where
  sound : ∀ w, entry = some w → Wf isServer w ∧ Table isServer w
  ascends : ∃ top, Ascends config.wtInitialMaxStreamData (streamLimits id cs) top ∧
    ∀ w value, entry = some w → w.streamGiven id = some value → value = top
  gone : ∀ w, entry = some w → w.streamGiven id = none →
    w.releasedStreamIds.card < kMaxReceivedMapEntries → streamLimits id cs ≠ [] →
    Released isServer w id

namespace StreamAdvertised

variable {entry : Option WtSessionInfo} {cs cs' : List Capsule}

/-- Nothing is advertised for the stream. -/
theorem quietly (h : StreamAdvertised config isServer id entry cs)
    (hquiet : streamLimits id cs' = []) : StreamAdvertised config isServer id entry (cs ++ cs') := by
  have hsame : streamLimits id (cs ++ cs') = streamLimits id cs := by
    rw [streamLimits_append, hquiet, List.append_nil]
  refine ⟨h.sound, ?_, ?_⟩
  · rw [hsame]
    exact h.ascends
  · rw [hsame]
    exact h.gone

/-- The entry takes a step that creates no stream again. -/
theorem step (h : StreamAdvertised config isServer id (some w) cs)
    (hmove : Move (Fresh isServer) isServer w l w') (hgiven : GivenOn config id w l w')
    (hwf : Wf isServer w') :
    StreamAdvertised config isServer id (some w') (cs ++ Label.sentOf [l]) := by
  obtain ⟨hwf₀, htable₀⟩ := h.sound w rfl
  obtain ⟨top, hascends, htop⟩ := h.ascends
  obtain ⟨htable, hsubset, hstill⟩ := hmove.table hwf₀ htable₀
  have hsound : ∀ w'', some w' = some w'' → Wf isServer w'' ∧ Table isServer w'' := by
    intro w'' hw''
    cases hw''
    exact ⟨hwf, htable⟩
  have hroom : w'.releasedStreamIds.card < kMaxReceivedMapEntries →
      w.releasedStreamIds.card < kMaxReceivedMapEntries := fun hfew =>
    (Finset.card_le_card hsubset).trans_lt hfew
  cases hgiven with
  | same hquiet hsame =>
      refine quietly ⟨hsound, ⟨top, hascends, ?_⟩, ?_⟩ hquiet
      · intro w'' value hw'' hvalue
        cases hw''
        exact htop w value rfl (hsame ▸ hvalue)
      · intro w'' hw'' hnone hfew hsome
        cases hw''
        exact hstill id (h.gone w rfl (hsame ▸ hnone) (hroom hfew) hsome)
  | created hquiet hnone hnew =>
      -- A stream that was advertised is released, and is not created again.
      have hfirst : streamLimits id cs = [] := by
        by_contra hsome
        obtain ⟨info', hfind'⟩ := streamGiven_some hnew
        obtain ⟨hfew, hnot⟩ := hmove.created htable₀ (streamGiven_none.1 hnone) hfind'
        exact hnot (h.gone w rfl hnone hfew hsome)
      have hstart : Ascends config.wtInitialMaxStreamData (streamLimits id cs)
          config.wtInitialMaxStreamData := by
        rw [hfirst]
        exact .nil _
      refine quietly ⟨hsound, ⟨_, hstart, ?_⟩, ?_⟩ hquiet
      · intro w'' value hw'' hvalue
        cases hw''
        rw [hnew] at hvalue
        exact (Option.some.inj hvalue).symm
      · intro w'' hw'' hnone' hfew hsome
        exact absurd hfirst hsome
  | released hquiet hnone =>
      refine quietly ⟨hsound, ⟨top, hascends, ?_⟩, ?_⟩ hquiet
      · intro w'' value hw'' hvalue
        cases hw''
        rw [hnone] at hvalue
        cases hvalue
      · intro w'' hw'' _ hfew hsome
        cases hw''
        cases hbefore : w.streamGiven id with
        | none => exact hstill id (h.gone w rfl hbefore (hroom hfew) hsome)
        | some value =>
            obtain ⟨info, hfind⟩ := streamGiven_some hbefore
            exact hmove.gone hwf₀ htable₀ hfind (streamGiven_none.1 hnone) (hroom hfew)
  | @raised value value' hvalue hvalue' hle hsent =>
      rw [htop w value rfl hvalue] at hle
      refine ⟨hsound, ⟨value', ?_, ?_⟩, ?_⟩
      · rw [streamLimits_append, hsent]
        exact hascends.concat hle
      · intro w'' last hw'' hlast
        cases hw''
        rw [hvalue'] at hlast
        exact (Option.some.inj hlast).symm
      · intro w'' hw'' hnone
        cases hw''
        rw [hvalue'] at hnone
        cases hnone

end StreamAdvertised

theorem tracks_stream (id : Nat) :
    Tracks (Fresh isServer) config isServer (StreamAdvertised config isServer id) := by
  -- The entry changes, and nothing is queued.
  have hinternal : ∀ {w w' : WtSessionInfo} {cs : List Capsule},
      StreamAdvertised config isServer id (some w) cs →
      Move (Fresh isServer) isServer w .internal w' → GivenOn config id w .internal w' →
      Wf isServer w' → StreamAdvertised config isServer id (some w') cs := by
    intro w w' cs hinv hmove hgiven hwf
    have hnext := hinv.step hmove hgiven hwf
    rw [show Label.sentOf [.internal] = [] from rfl, List.append_nil] at hnext
    exact hnext
  have hchange : ∀ {w w' : WtSessionInfo} {m : Moment} {cs : List Capsule},
      StreamAdvertised config isServer id (some w) cs →
      Change (Fresh isServer) (fun _ _ => True) config isServer w m w' → m.label = .internal →
      GivenOn config id w .internal w' → StreamAdvertised config isServer id (some w') cs := by
    intro w w' m cs hinv hchange hlabel hgiven
    have hmove := hchange.moved.1
    rw [hlabel] at hmove
    exact hinternal hinv hmove hgiven (hchange.wf (hinv.sound w rfl).1)
  refine ⟨?_, ?_, ?_, ?_, ?_, ?_, ?_⟩
  · intro entry cs hinv
    obtain ⟨top, hascends, -⟩ := hinv.ascends
    refine ⟨?_, ⟨top, hascends, ?_⟩, ?_⟩
    · intro w hw
      cases hw
    · intro w value hw
      cases hw
    · intro w hw
      cases hw
  · intro w w' cs hinv hcore
    refine hchange hinv (.keeps hcore) rfl (.same rfl ?_)
    exact streamGiven_congr (congrArg WtSessionInfo.streams hcore :)
  · intro w w' l cs hinv htrans
    exact hinv.step htrans.move (htrans.givenOn id) (htrans.wf (hinv.sound w rfl).1)
  · intro w streamId cs hinv hcreate hreceivable hnone
    exact hchange hinv (.refused hcreate hreceivable hnone) rfl (.create hnone rfl rfl rfl)
  · intro w cs l hinv
    refine hchange hinv (.limits l) rfl (.same rfl ?_)
    rcases l with ⟨u, bl, br⟩
    cases u <;> cases bl <;> cases br <;> rfl
  · intro entry cs c hinv hclose
    exact hinv.quietly (streamLimits_close id hclose)
  · intro w cs hinv _
    exact hinv.quietly rfl

end Tracked

end WtSessionInfo

/-! ## Along a run -/

namespace H2Session

/-! ## Where the initial limits are queued -/

variable {s : H2Session} {sessionId : Int} {mid : List Call}

/-- The end of `accept_session` queues the limits at once or not at all. -/
theorem limits_of_finish {streamId : Int} {resetFlush : List WriteCallback}
    (h : mid ++ [Call.sendInitialLimits] <+: s.finishCalls sessionId streamId resetFlush) :
    streamId = sessionId ∧ mid = [] := by
  have hmem : Call.sendInitialLimits ∈ s.finishCalls sessionId streamId resetFlush :=
    h.subset (List.mem_append_right mid List.mem_cons_self)
  -- Of the ends of `accept_session` only the last, with the session still open, queues the limits.
  unfold finishCalls at h hmem
  cases hentry : s.wtSessions.find? streamId with
  | none =>
      rw [hentry] at hmem
      cases hmem
  | some w =>
      rw [hentry] at h hmem
      dsimp only at h hmem
      split_ifs at h hmem
      · cases hmem
      · rcases List.mem_append.1 hmem with hmem | hmem
        · cases (mem_onSession hmem).2
        · have hclose := flushCalls_all (P := fun c => c ≠ .sendInitialLimits)
            (fun _ h => by cases h) s sessionId resetFlush _ hmem
          exact absurd rfl hclose
      · rcases List.mem_append.1 hmem with hmem | hmem
        · cases (mem_onSession hmem).2
        · cases hmem
      · obtain ⟨hid, -⟩ := mem_onSession hmem
        unfold onSession at h
        rw [if_pos hid] at h
        have hlength := h.length_le
        rw [List.length_append] at hlength
        have hnone : mid.length = 0 := Nat.le_zero.1 (Nat.le_of_add_le_add_right hlength)
        exact ⟨hid, List.eq_nil_of_length_eq_zero hnone⟩

/-- Within an input the limits are queued behind the drain of `accept_session`. -/
theorem limits_of_input {input : Input}
    (h : mid ++ [Call.sendInitialLimits] <+: s.callsOf sessionId input) :
    ∃ closes, mid = [Call.markEstablished] ++ closes ++ [Call.drain] ∧
      ∀ c ∈ closes, ∃ errorCode, c = .streamClose errorCode := by
  have hmem : Call.sendInitialLimits ∈ s.callsOf sessionId input :=
    h.subset (List.mem_append_right mid List.mem_cons_self)
  have hruns := runs_of_mem _ hmem
  cases input with
  | acceptSession streamId rv flush resetFlush =>
      have haccept : s.callsOf sessionId (.acceptSession streamId rv flush resetFlush) =
          s.acceptCalls sessionId streamId rv flush resetFlush := rfl
      rw [haccept] at h hmem
      unfold acceptCalls at h hmem
      split_ifs at h hmem
      · cases hmem
      · cases rv with
        | some err => cases (mem_onSession hmem).2
        | none =>
            dsimp only at h hmem
            have hcloses := flushCalls_all (P := fun c => ∃ errorCode, c = .streamClose errorCode)
              (fun errorCode => ⟨errorCode, rfl⟩)
              (s.callNg (.submitResponse streamId (acceptHeaders s.config))) sessionId flush
            rcases Path.upTo_append h with hfront | ⟨later, hmid, hlater⟩
            · -- Nothing before the end of `accept_session` queues them.
              have hin := hfront.subset (List.mem_append_right mid List.mem_cons_self)
              rcases List.mem_append.1 hin with hin | hin
              · rcases List.mem_append.1 hin with hin | hin
                · cases (mem_onSession hin).2
                · obtain ⟨errorCode, hclose⟩ := hcloses _ hin
                  cases hclose
              · cases (mem_onSession hin).2
            · obtain ⟨rfl, rfl⟩ := limits_of_finish hlater
              refine ⟨_, ?_, hcloses⟩
              rw [hmid, List.append_nil]
              unfold onSession
              rw [if_pos rfl, if_pos rfl]
  | _ => exact absurd hruns Bool.false_ne_true

/-- In a run they are queued behind it. -/
theorem limits_of_run {inputs : List Input}
    (h : mid ++ [Call.sendInitialLimits] <+: s.runCalls sessionId inputs) :
    ∃ before closes, mid = before ++ ([Call.markEstablished] ++ closes ++ [Call.drain]) ∧
      ∀ c ∈ closes, ∃ errorCode, c = .streamClose errorCode := by
  induction inputs generalizing s mid with
  | nil =>
      have hmem := h.subset (List.mem_append_right mid List.mem_cons_self)
      cases hmem
  | cons input inputs ih =>
      -- They are queued by this input or by a later one.
      rcases Path.upTo_append h with hinput | ⟨later, hmid, hlater⟩
      · obtain ⟨closes, hmid, hcloses⟩ := limits_of_input hinput
        exact ⟨[], closes, hmid, hcloses⟩
      · obtain ⟨before, closes, hbefore, hcloses⟩ := ih hlater
        refine ⟨s.callsOf sessionId input ++ before, closes, ?_, hcloses⟩
        rw [hmid, hbefore]
        exact (List.append_assoc _ _ _).symm

/-- The entry is gone behind a callback that closes it, and the drain makes no new one. -/
theorem gone_behind_close {closes : List Call} (hcloses : closes ≠ [])
    (hall : ∀ c ∈ closes, ∃ errorCode, c = .streamClose errorCode) (calls : List Call) :
    (s.viewAfter sessionId (calls ++ closes ++ [Call.drain])).entry = none := by
  have hgone : (s.viewAfter sessionId (calls ++ closes)).entry = none := by
    obtain ⟨front, c, rfl⟩ := (List.eq_nil_or_concat closes).resolve_left hcloses
    obtain ⟨errorCode, rfl⟩ := hall c (by simp)
    rw [List.concat_eq_append, ← List.append_assoc, (viewAfter_append s sessionId _ _).1]
    simp only [SessionScope.call, SessionScope.closeStream]
    cases hentry : (s.scopeAfter sessionId (calls ++ front)).entry with
    | none => exact hentry
    | some w => rfl
  rw [(viewAfter_append s sessionId _ _).1]
  simp only [SessionScope.call, SessionScope.processCapsules, scopeAfter, hgone]

/-- In a run the initial limits are queued right behind the mark and the drain: a callback that closed
the session in between would leave nothing to queue them for. -/
theorem limits_behind_drain {isServer : Bool} {config : H2SessionConfig}
    (h : create isServer config = .ok s) {inputs : List Input}
    (hcalls : mid ++ [Call.sendInitialLimits] <+: s.runCalls sessionId inputs) :
    ∃ before, mid = before ++ [Call.markEstablished, .drain] := by
  obtain ⟨before, closes, rfl, hcloses⟩ := limits_of_run hcalls
  by_cases hnone : closes = []
  · exact ⟨before, by rw [hnone]; rfl⟩
  · -- The method is called on an entry, and there is none behind such a callback.
    obtain ⟨w, hentry, -, -⟩ := called_next h hcalls
    have hgone : (s.viewAfter sessionId
        (before ++ [Call.markEstablished] ++ closes ++ [Call.drain])).entry = none :=
      gone_behind_close hnone hcloses (before ++ [Call.markEstablished])
    have hsame : before ++ ([Call.markEstablished] ++ closes ++ [Call.drain]) =
        before ++ [Call.markEstablished] ++ closes ++ [Call.drain] := by
      simp only [List.append_assoc]
    rw [hsame, hgone] at hentry
    cases hentry

end H2Session

/-- The method establishes a session, or starts to accept it. -/
def Call.establishes : Call → Bool
  | .establish _ | .markEstablished => true
  | _ => false

/-- Processing the capsules an entry has buffered, as `accept_session` does, raises no limit. -/
def WtSessionInfo.RaisesNoLimit (isServer : Bool) (config : H2SessionConfig) (sessionId : Int)
    (w : WtSessionInfo) : Prop :=
  let sc : SessionScope :=
    { isServer := isServer, config := config, sessionId := sessionId, entry := some w }
  ∀ w' ∈ (sc.markEstablished.processCapsules []).entry, w'.AtInitial config

instance (isServer : Bool) (config : H2SessionConfig) (sessionId : Int) (w : WtSessionInfo) :
    Decidable (w.RaisesNoLimit isServer config sessionId) := by
  unfold WtSessionInfo.RaisesNoLimit
  infer_instance

namespace H2Session

variable {isServer : Bool} {config : H2SessionConfig} {s : H2Session} {sessionId : Int}

/-- No limit is raised before the initial ones are queued: on the client none has been when the
response comes, on the server none is by what was buffered when `accept_session` is called. -/
structure LimitsFirst (s : H2Session) (sessionId : Int) (front back : List Call) : Prop where
  client : ∀ mid headers w, mid ++ [Call.establish headers] <+: back →
    (s.viewAfter sessionId (front ++ mid)).entry = some w → w.AtInitial s.config
  server : ∀ mid w, mid ++ [Call.markEstablished, .drain, .sendInitialLimits] <+: back →
    (s.viewAfter sessionId (front ++ mid)).entry = some w →
      w.RaisesNoLimit s.isServer s.config sessionId

/-- The entry that `accept_session` leaves when it has drained what was buffered. -/
theorem entry_behind_drain (calls : List Call) :
    (s.viewAfter sessionId (calls ++ [Call.markEstablished, .drain])).entry =
      ((s.scopeAfter sessionId calls).markEstablished.processCapsules []).entry := by
  have hmarked : s.scopeAfter sessionId (calls ++ [Call.markEstablished]) =
      (s.scopeAfter sessionId calls).markEstablished := by
    unfold scopeAfter
    rw [(viewAfter_append s sessionId calls .markEstablished).1]
    rfl
  have happend : calls ++ [Call.markEstablished, .drain] =
      calls ++ [Call.markEstablished] ++ [Call.drain] := by
    rw [List.append_assoc]
    rfl
  rw [happend, (viewAfter_append s sessionId _ .drain).1, hmarked]
  rfl

theorem LimitsFirst.initial {front back : List Call} {w₀ : WtSessionInfo} {events : List H2Event}
    (hlimits : s.LimitsFirst sessionId (front ++ [Call.request w₀ events]) back)
    (h : create isServer config = .ok s) {inputs : List Input}
    (hcalls : front ++ [Call.request w₀ events] ++ back <+: s.runCalls sessionId inputs)
    {mid : List Call} {c : Call} {w : WtSessionInfo} (hmid : mid ++ [c] <+: back)
    (hsends : c.sendsInitialLimits = true)
    (hentry : (s.viewAfter sessionId (front ++ [Call.request w₀ events] ++ mid)).entry = some w) :
    w.AtInitial s.config := by
  -- The client queues the limits as it establishes the session, the server at the end of
  -- `accept_session`.
  cases c with
  | establish headers => exact hlimits.client mid headers w hmid hentry
  | sendInitialLimits =>
      have hupto : front ++ [Call.request w₀ events] ++ mid ++ [Call.sendInitialLimits] <+:
          s.runCalls sessionId inputs := by
        rw [List.append_assoc]
        exact ((List.prefix_append_right_inj _).2 hmid).trans hcalls
      obtain ⟨before, hbefore⟩ := limits_behind_drain h hupto
      -- The request is neither the mark nor the drain, so both are in `mid`.
      obtain ⟨between, -, rfl⟩ := Path.behind_label hbefore (by simp)
      rw [← List.append_assoc, entry_behind_drain] at hentry
      unfold scopeAfter at hentry
      cases hwaiting : (s.viewAfter sessionId (front ++ [Call.request w₀ events] ++ between)).entry with
      | none =>
          rw [hwaiting] at hentry
          cases hentry
      | some w₁ =>
          have hprefix : between ++ [Call.markEstablished, .drain, .sendInitialLimits] <+: back := by
            rw [List.append_assoc] at hmid
            exact hmid
          rw [hwaiting] at hentry
          exact hlimits.server between w₁ hprefix hwaiting w hentry
  | _ => cases hsends

open WtSessionInfo (Table Fresh)

section Runs

variable {isServer : Bool} {config : H2SessionConfig} {s : H2Session} {sessionId : Int}
  {inputs : List Input} {front back : List Call} {w₀ : WtSessionInfo} {events : List H2Event}

/-- What is advertised behind a request, as long as the initial limits come first. -/
theorem limit_advertised (h : create isServer config = .ok s)
    (hcalls : front ++ [Call.request w₀ events] ++ back <+: s.runCalls sessionId inputs)
    (hrequest : ∀ w events, .request w events ∉ back)
    (hlimits : s.LimitsFirst sessionId (front ++ [Call.request w₀ events]) back)
    (limit : SessionLimit) :
    WtSessionInfo.Advertised config limit
      (s.viewAfter sessionId (front ++ [Call.request w₀ events] ++ back)).entry
      (s.queuedBy sessionId (front ++ [Call.request w₀ events]) back) := by
  have hw₀ : w₀.Requested config :=
    (called_next h ((List.prefix_append _ back).trans hcalls)).1
  have hstart : WtSessionInfo.Advertised config limit
      (s.viewAfter sessionId (front ++ [Call.request w₀ events])).entry [] := by
    refine ⟨limit.initial config, .nil _, ?_⟩
    intro w hw
    rw [entry_of_request] at hw
    cases hw
    cases limit with
    | data => exact hw₀.maxData
    | streamsBidi => exact hw₀.maxStreamsBidi
    | streamsUni => exact hw₀.maxStreamsUni
  have hInv : Tracks (fun _ _ => True) config isServer (WtSessionInfo.Advertised config limit) :=
    WtSessionInfo.tracks_limit limit
  obtain ⟨es, heffects, hadvertised⟩ := tracked_of_run hInv h hcalls (fun _ _ _ _ _ => trivial)
    hrequest (fun _ _ _ _ _ _ _ _ => trivial)
    (fun _ _ _ hmid hsends hentry => hlimits.initial h hcalls hmid hsends hentry) hstart
  unfold queuedBy
  rw [heffects, List.drop_left]
  exact hadvertised

/-- What is advertised for a stream, if no stream is created again. -/
theorem stream_advertised (h : create isServer config = .ok s)
    (hcalls : front ++ [Call.request w₀ events] ++ back <+: s.runCalls sessionId inputs)
    (hrequest : ∀ w events, .request w events ∉ back)
    (hlimits : s.LimitsFirst sessionId (front ++ [Call.request w₀ events]) back)
    (honce : s.CreatesOnce sessionId (front ++ [Call.request w₀ events]) back) (id : Nat) :
    WtSessionInfo.StreamAdvertised config isServer id
      (s.viewAfter sessionId (front ++ [Call.request w₀ events] ++ back)).entry
      (s.queuedBy sessionId (front ++ [Call.request w₀ events]) back) := by
  have hfront : front ++ [Call.request w₀ events] <+: s.runCalls sessionId inputs :=
    (List.prefix_append _ back).trans hcalls
  have hw₀ : w₀.Requested config := (called_next h hfront).1
  have hgiven : w₀.streamGiven id = none := by
    unfold WtSessionInfo.streamGiven
    rw [hw₀.streams]
    rfl
  have hstart : WtSessionInfo.StreamAdvertised config isServer id
      (s.viewAfter sessionId (front ++ [Call.request w₀ events])).entry [] := by
    refine ⟨?_, ⟨_, .nil _, ?_⟩, ?_⟩
    · intro w hw
      refine ⟨(scope_sound h hfront).2 w hw, ?_⟩
      rw [entry_of_request] at hw
      cases hw
      exact WtSessionInfo.table_requested hw₀
    · intro w value hw hvalue
      rw [entry_of_request] at hw
      cases hw
      rw [hgiven] at hvalue
      cases hvalue
    · intro w hw hnone hfew hsome
      exact absurd rfl hsome
  have hown := honce.fresh_own
  rw [(create_view h sessionId).2.1] at hown
  obtain ⟨es, heffects, hadvertised⟩ := tracked_of_run (WtSessionInfo.tracks_stream id) h hcalls
    (fun _ _ _ hcomes hcreates => honce.fresh_peer hcomes hcreates) hrequest hown
    (fun _ _ _ hmid hsends hentry => hlimits.initial h hcalls hmid hsends hentry) hstart
  unfold queuedBy
  rw [heffects, List.drop_left]
  exact hadvertised

end Runs

/-- From the request of a session on, as long as no limit is raised before the initial ones are
queued: the values advertised for a limit of the session do not fall, they are at least that of the
SETTINGS, and the limit of the entry is the largest of them.  The same goes for the limit of a stream,
if no stream is created again under a released id. -/
theorem limits_never_fall {isServer : Bool} {config : H2SessionConfig} {s : H2Session}
    (h : create isServer config = .ok s) (sessionId : Int) (inputs : List Input)
    {front back : List Call} {w₀ : WtSessionInfo} {events : List H2Event}
    (hcalls : front ++ [Call.request w₀ events] ++ back <+: s.runCalls sessionId inputs)
    (hrequest : ∀ w events, .request w events ∉ back)
    (hlimits : s.LimitsFirst sessionId (front ++ [Call.request w₀ events]) back) :
    (∀ limit : SessionLimit,
      (limit.initial config ::
        limit.advertised (s.queuedBy sessionId (front ++ [Call.request w₀ events]) back)).Pairwise
          (· ≤ ·) ∧
      ∀ w, (s.viewAfter sessionId (front ++ [Call.request w₀ events] ++ back)).entry = some w →
        limit.given w =
          (limit.advertised (s.queuedBy sessionId (front ++ [Call.request w₀ events]) back)).foldl max
            (limit.initial config)) ∧
    (s.CreatesOnce sessionId (front ++ [Call.request w₀ events]) back → ∀ id,
      (config.wtInitialMaxStreamData ::
        streamLimits id (s.queuedBy sessionId (front ++ [Call.request w₀ events]) back)).Pairwise
          (· ≤ ·)) := by
  refine ⟨?_, ?_⟩
  · intro limit
    obtain ⟨top, hascends, htop⟩ := limit_advertised h hcalls hrequest hlimits limit
    refine ⟨hascends.pairwise, ?_⟩
    intro w hw
    rw [hascends.foldl_max]
    exact htop w hw
  · intro honce id
    obtain ⟨top, hascends, -⟩ := (stream_advertised h hcalls hrequest hlimits honce id).ascends
    exact hascends.pairwise

/-! ## Limits that fall, and limits that do not -/

/-- A capsule of the peer that ends a unidirectional stream of its own. -/
def endsStream : Input :=
  .recvData 1 (encodeCapsule CapsuleType.wtStreamFin.toNat (varintBytes 2)) none

/-- The peer ends a stream before the server answers its request. -/
def endsEarly : List Input :=
  (openSession 1).take 4 ++ [endsStream, .acceptSession 1 none [] []]

/-- The peer ends a stream in an open session. -/
def endsLater : List Input := openSession 1 ++ [endsStream]

/-- The stream that ended early raises a limit, and the initial limit comes behind it. -/
theorem accept_lowers_a_limit :
    let s : H2Session := { isServer := true, config := {} }
    create true {} = .ok s ∧
    ∃ back w₀ events, s.runCalls 1 endsEarly = .request w₀ events :: back ∧
      SessionLimit.streamsUni.advertised (s.queuedBy 1 [Call.request w₀ events] back) = [101, 100] ∧
      ¬ (SessionLimit.streamsUni.initial {} :: SessionLimit.streamsUni.advertised
          (s.queuedBy 1 [Call.request w₀ events] back)).Pairwise (· ≤ ·) := by
  intro s
  refine ⟨rfl, ?_⟩
  have hfirst : requestThenOrdinary (s.runCalls 1 endsEarly) = true := by decide +kernel
  obtain ⟨back, w₀, events, hrun, -⟩ := exists_of_requestThenOrdinary hfirst
  have hvalues : SessionLimit.streamsUni.advertised (s.queuedBy 1 ((s.runCalls 1 endsEarly).take 1)
      ((s.runCalls 1 endsEarly).drop 1)) = [101, 100] := by decide +kernel
  rw [hrun] at hvalues
  have hqueued : SessionLimit.streamsUni.advertised (s.queuedBy 1 [Call.request w₀ events] back) =
      [101, 100] := hvalues
  refine ⟨back, w₀, events, hrun, hqueued, ?_⟩
  rw [hqueued]
  decide

/-- Whenever a method of `back` establishes the session, no limit has been raised, and none is by what
is buffered. -/
def limitsFirst (s : H2Session) (sessionId : Int) (front back : List Call) : Bool :=
  (List.range back.length).all fun i =>
    (back[i]?.all fun c => !c.establishes) ||
      (s.viewAfter sessionId (front ++ back.take i)).entry.all fun w =>
        decide (w.AtInitial s.config ∧ w.RaisesNoLimit s.isServer s.config sessionId)

theorem limitsFirst_sound {s : H2Session} {sessionId : Int} {front back : List Call}
    (h : limitsFirst s sessionId front back = true) : s.LimitsFirst sessionId front back := by
  have hchecked : ∀ mid c more w, back = mid ++ c :: more → c.establishes = true →
      (s.viewAfter sessionId (front ++ mid)).entry = some w →
        w.AtInitial s.config ∧ w.RaisesNoLimit s.isServer s.config sessionId := by
    rintro mid c more w rfl hestablishes hentry
    have hmem : mid.length ∈ List.range (mid ++ c :: more).length := by simp
    have hcheck := List.all_eq_true.1 h mid.length hmem
    have hcall : (mid ++ c :: more)[mid.length]? = some c := by simp
    have htake : (mid ++ c :: more).take mid.length = mid := by simp
    rw [hcall, htake, hentry, Option.all_some, Option.all_some, hestablishes] at hcheck
    exact of_decide_eq_true hcheck
  constructor
  · rintro mid headers w ⟨more, hback⟩ hentry
    refine (hchecked mid (.establish headers) more w ?_ rfl hentry).1
    rw [← hback, List.append_assoc]
    rfl
  · rintro mid w ⟨more, hback⟩ hentry
    refine (hchecked mid .markEstablished (.drain :: .sendInitialLimits :: more) w ?_ rfl hentry).2
    rw [← hback, List.append_assoc]
    rfl

/-- The stream that ends later raises the limit above the initial one. -/
theorem limits_never_fall_later :
    let s : H2Session := { isServer := true, config := {} }
    ∃ back w₀ events, s.runCalls 1 endsLater = [Call.request w₀ events] ++ back ∧
      SessionLimit.streamsUni.advertised (s.queuedBy 1 [Call.request w₀ events] back) = [100, 101] ∧
      ∀ w, (s.viewAfter 1 ([Call.request w₀ events] ++ back)).entry = some w →
        w.maxStreamsUniRemote = 101 := by
  intro s
  have hfirst : requestThenOrdinary (s.runCalls 1 endsLater) = true := by decide +kernel
  obtain ⟨back, w₀, events, hrun, hall⟩ := exists_of_requestThenOrdinary hfirst
  have hrequest : ∀ w events, Call.request w events ∉ back := by
    intro w events hmem
    cases List.all_eq_true.1 hall _ hmem
  have hcalls : [] ++ [Call.request w₀ events] ++ back <+: s.runCalls 1 endsLater := by
    rw [hrun]
    exact List.prefix_rfl
  have hinitial : limitsFirst s 1 ((s.runCalls 1 endsLater).take 1)
      ((s.runCalls 1 endsLater).drop 1) = true := by decide +kernel
  have hvalues : SessionLimit.streamsUni.advertised (s.queuedBy 1 ((s.runCalls 1 endsLater).take 1)
      ((s.runCalls 1 endsLater).drop 1)) = [100, 101] := by decide +kernel
  rw [hrun] at hinitial hvalues
  have hqueued : SessionLimit.streamsUni.advertised (s.queuedBy 1 [Call.request w₀ events] back) =
      [100, 101] := hvalues
  have hcreate : create true {} = .ok s := rfl
  have hnever := limits_never_fall hcreate 1 endsLater hcalls hrequest (limitsFirst_sound hinitial)
  refine ⟨back, w₀, events, hrun, hqueued, ?_⟩
  intro w hw
  have hlast := (hnever.1 .streamsUni).2 w hw
  rw [List.nil_append, hqueued] at hlast
  exact hlast

end H2Session

end H2
end WebTransport
