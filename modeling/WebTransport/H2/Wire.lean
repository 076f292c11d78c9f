import WebTransport.H2.Endpoint

/-!
# H2.Wire — capsules on their way

What an endpoint queues reaches the other one as one stream of bytes, cut at any place.  The
receiver buffers the part of a capsule that has come and dispatches a capsule once it is whole.

* `wire`               : the bytes of the capsules;
* `readHead_wire`      : the head of a buffer that holds the first of these bytes;
* `Receiving.loop`     : the capsule loop takes in a first part of the capsules of an honest peer.
-/

namespace WebTransport
namespace H2

open Bindings
open Received
open SessionScope (Fits readHead)

/-- The bytes of capsules, in the order in which they were queued. -/
def wire (cs : List Capsule) : Bytes := cs.flatMap fun c => encodeCapsule c.type.toNat c.payload

@[simp] theorem wire_nil : wire [] = [] := rfl

theorem wire_cons (c : Capsule) (cs : List Capsule) :
    wire (c :: cs) = encodeCapsule c.type.toNat c.payload ++ wire cs := rfl

@[simp] theorem wire_append (cs cs' : List Capsule) : wire (cs ++ cs') = wire cs ++ wire cs' :=
  List.flatMap_append

/-! ## The head of a buffer -/

section Head

variable {config : H2SessionConfig} {type : Nat} {payload : Bytes}

theorem readHead_nil (config : H2SessionConfig) : readHead config [] = .unfinished := rfl

/-- The lengths that the header of an encoded capsule announces. -/
theorem encodeCapsule_length (type : Nat) (payload : Bytes) :
    (encodeCapsule type payload).length =
      quicVarintLength type + quicVarintLength payload.length + payload.length := by
  unfold encodeCapsule
  rw [List.length_append, List.length_append, varintBytes_length, varintBytes_length]

/-- A whole capsule at the head is read, whatever follows. -/
theorem readHead_encoded (hfits : Fits config (type, payload)) (rest : Bytes) :
    readHead config (encodeCapsule type payload ++ rest) = .capsule type payload rest := by
  have hlength := encodeCapsule_length type payload
  rcases SessionScope.decode_encodeCapsule hfits.type_le hfits.length_le with ⟨htype, hsize⟩
  have htypeLe : quicVarintLength type ≤ (encodeCapsule type payload).length := by omega
  have htype' := decodeQuicVarint_append rest htype
  have hsize' : decodeQuicVarint
      ((encodeCapsule type payload ++ rest).drop (quicVarintLength type)) =
      some (payload.length, quicVarintLength payload.length) := by
    rw [List.drop_append_of_le_length htypeLe]
    exact decodeQuicVarint_append rest hsize
  have hbytes : encodeCapsule type payload ++ rest =
      varintBytes type ++ (varintBytes payload.length ++ (payload ++ rest)) := by
    unfold encodeCapsule
    rw [List.append_assoc, List.append_assoc]
  have hpayload : ((encodeCapsule type payload ++ rest).drop
      (quicVarintLength type + quicVarintLength payload.length)).take payload.length = payload := by
    rw [hbytes, ← List.drop_drop, Capsule.drop_varintBytes, Capsule.drop_varintBytes,
      List.take_left]
  have hrest : (encodeCapsule type payload ++ rest).drop
      (quicVarintLength type + quicVarintLength payload.length + payload.length) = rest := by
    rw [← hlength, List.drop_left]
  have hlong : ¬ (encodeCapsule type payload ++ rest).length <
      quicVarintLength type + quicVarintLength payload.length + payload.length := by
    rw [List.length_append, hlength]
    omega
  unfold readHead
  rw [htype']
  dsimp only
  rw [hsize']
  dsimp only
  rw [if_neg (not_lt.2 hfits.payload_le), if_neg hlong, hpayload, hrest]

/-- A part of a capsule at the head is not read. -/
theorem readHead_part (hfits : Fits config (type, payload)) {part missing : Bytes}
    (h : part ++ missing = encodeCapsule type payload) (hmissing : missing ≠ []) :
    readHead config part = .unfinished := by
  have hlength := encodeCapsule_length type payload
  rcases SessionScope.decode_encodeCapsule hfits.type_le hfits.length_le with ⟨htype, hsize⟩
  rw [← h] at htype hsize hlength
  have hshort : part.length <
      quicVarintLength type + quicVarintLength payload.length + payload.length := by
    have hpos : 0 < missing.length := List.length_pos_iff.2 hmissing
    rw [List.length_append] at hlength
    omega
  unfold readHead
  cases hpart : decodeQuicVarint part with
  | none => rfl
  | some r =>
      rcases r with ⟨type', typeLen⟩
      rcases decodeQuicVarint_spec hpart with ⟨-, htypeLe, -⟩
      cases (decodeQuicVarint_append missing hpart).symm.trans htype
      dsimp only
      cases hpart' : decodeQuicVarint (part.drop (quicVarintLength type)) with
      | none => rfl
      | some r =>
          rcases r with ⟨size, sizeLen⟩
          rw [List.drop_append_of_le_length htypeLe] at hsize
          cases (decodeQuicVarint_append missing hpart').symm.trans hsize
          dsimp only
          rw [if_neg (not_lt.2 hfits.payload_le), if_pos hshort]

end Head

/-- The head of a buffer that holds the first bytes of capsules: nothing whole, or the first. -/
theorem readHead_wire {config : H2SessionConfig} {cs : List Capsule} {buffer more : Bytes}
    (hfits : ∀ c ∈ cs, Fits config (c.type.toNat, c.payload)) (h : buffer ++ more = wire cs) :
    readHead config buffer = .unfinished ∨
      ∃ c rest cs', cs = c :: cs' ∧
        readHead config buffer = .capsule c.type.toNat c.payload rest ∧
          rest ++ more = wire cs' := by
  cases cs with
  | nil =>
      have hnil : buffer = [] := (List.append_eq_nil_iff.1 h).1
      rw [hnil]
      exact Or.inl (readHead_nil config)
  | cons c cs' =>
      have hc := hfits c List.mem_cons_self
      rw [wire_cons] at h
      rcases List.append_eq_append_iff.1 h with ⟨missing, hpart, hrest⟩ | ⟨rest, hwhole, hrest⟩
      · by_cases hmissing : missing = []
        · rw [hmissing, List.append_nil] at hpart
          rw [hmissing, List.nil_append] at hrest
          refine Or.inr ⟨c, [], cs', rfl, ?_, hrest⟩
          have hread := readHead_encoded hc []
          rw [List.append_nil, hpart] at hread
          exact hread
        · exact Or.inl (readHead_part hc hpart.symm hmissing)
      · refine Or.inr ⟨c, rest, cs', rfl, ?_, hrest.symm⟩
        rw [hwhole]
        exact readHead_encoded hc rest

/-- A buffer whose head is unfinished, with nothing missing, is empty. -/
theorem wire_read {config : H2SessionConfig} {cs : List Capsule} {buffer : Bytes}
    (hfits : ∀ c ∈ cs, Fits config (c.type.toNat, c.payload)) (h : buffer = wire cs)
    (hhead : readHead config buffer = .unfinished) : cs = [] := by
  cases cs with
  | nil => rfl
  | cons c cs' =>
      have hread := readHead_encoded (hfits c List.mem_cons_self) (wire cs')
      rw [← wire_cons, ← h, hhead] at hread
      cases hread

/-! ## Taking capsules in -/

/-- `sc` has been sent `calls` by the application, has queued `cs` and taken in `taken` from the
peer; what comes next are the bytes of `rest`, the first of them in the buffer and `more` behind
it. -/
structure Receiving (isServer : Bool) (own other : H2SessionConfig) (sc : SessionScope)
    (calls : Nat → List PendingSend) (cs taken rest : List Capsule) (more : Bytes) : Prop where
  role : sc.isServer = isServer
  config_eq : sc.config = own
  standing : ∃ w, sc.entry = some w ∧
    Standing isServer own other w calls cs (taken.map Capsule.received) ∧
    w.capsuleBuffer ++ more = wire rest

/-- No whole capsule is in the buffer. -/
def SessionScope.Waits (sc : SessionScope) : Prop :=
  ∀ w, sc.entry = some w → readHead sc.config w.capsuleBuffer = .unfinished

section Loop

variable {isServer : Bool} {own other : H2SessionConfig} {w' : WtSessionInfo}
  {calls calls' : Nat → List PendingSend} {cs cs' taken rest : List Capsule}
  {heard' : List Received} {sc : SessionScope} {more : Bytes}

/-- A peer whose payloads stay within the limit here. -/
theorem Standing.fits {isServer : Bool} {w : WtSessionInfo} {heard : List Received}
    (h : Standing isServer other own w calls cs heard)
    (hpayload : ∀ c ∈ cs, c.payload.length ≤ own.wtMaxCapsulePayloadSize) :
    ∀ c ∈ cs, Fits own (c.type.toNat, c.payload) := by
  intro c hc
  have hlength : c.payload.length ≤ kMaxQuicVarint := by
    refine h.inRange c hc _ (List.mem_append_right _ ?_)
    exact List.mem_cons_of_mem _ (List.mem_singleton_self _)
  exact ⟨CapsuleType.toNat_le c.type, hlength, hpayload c hc⟩

/-- A whole capsule of an honest peer is dispatched and taken in. -/
theorem Receiving.dispatch {w : WtSessionInfo} {c : Capsule} {buffer : Bytes}
    (h : Standing isServer own other w calls cs (taken.map Capsule.received))
    (hrole : sc.isServer = isServer) (hconfig : sc.config = own)
    (hpeer : Standing (!isServer) other own w' calls' cs' heard')
    (hheard : heard' <+: cs.map Capsule.received) (hqueued : cs' = taken ++ c :: rest)
    (hbytes : buffer ++ more = wire rest) (size : Nat) :
    ∃ es, ((sc.setEntry (w.withBuffer buffer)).processCapsule c.type.toNat c.payload size).effects =
        sc.effects ++ es ∧ Effect.Delivers es [c.received] ∧
      Receiving isServer own other
        ((sc.setEntry (w.withBuffer buffer)).processCapsule c.type.toNat c.payload size)
        calls (cs ++ Effect.capsules es) (taken ++ [c]) rest more := by
  let front := ((sc.setEntry (w.withBuffer buffer)).perform (.dispatch c.type.toNat c.payload)
    ).perform (.consumeRecvBytes size)
  have hfront : front.entry = some (w.withBuffer buffer) := rfl
  have hmem : c ∈ cs' := by
    rw [hqueued]
    exact List.mem_append_right _ List.mem_cons_self
  have hread := Capsule.readPayload_payload (hpeer.encodable c hmem)
  have hfits : c.received.Fits := by
    have hpayload := readPayload_fits c.type.toNat c.payload
    rw [hread] at hpayload
    exact hpayload
  have hsaid : cs'.map Capsule.received =
      taken.map Capsule.received ++ c.received :: rest.map Capsule.received := by
    rw [hqueued, List.map_append, List.map_cons]
  have hhere := h.withBuffer buffer
  rcases hhere.expects hpeer hheard hsaid with ⟨hnext, hexpected, hcovered⟩
  rcases hhere.react hfront hrole hconfig hfits hnext hexpected hcovered with
    ⟨v, es, hentry', heffects, hdelivers, hbuffer, hstanding⟩
  have hprocess : (sc.setEntry (w.withBuffer buffer)).processCapsule c.type.toNat c.payload size =
      front.react (w.withBuffer buffer) (.received c.received) := by
    rw [← hread]
    exact SessionScope.handleCapsule_eq hfront _ _
  have hstored : (sc.setEntry (w.withBuffer buffer)).entry = some (w.withBuffer buffer) := rfl
  have hidentity := SessionScope.processCapsule_identity hstored c.type.toNat c.payload size
  refine ⟨[.dispatch c.type.toNat c.payload, .consumeRecvBytes size] ++ es, ?_, ?_, ?_⟩
  · rw [hprocess, heffects]
    change sc.effects ++ [_] ++ [_] ++ es = _
    simp only [List.append_assoc, List.cons_append, List.nil_append]
  · have hfirst : Effect.Delivers
        [.dispatch c.type.toNat c.payload, .consumeRecvBytes size] [] := by
      refine ⟨?_, .silent rfl⟩
      intro e he
      rcases List.mem_cons.1 he with rfl | hsecond
      · trivial
      · rw [List.mem_singleton.1 hsecond]
        trivial
    exact hfirst.append hdelivers
  · have hcapsules : Effect.capsules ([.dispatch c.type.toNat c.payload, .consumeRecvBytes size] ++
        es) = Effect.capsules es := rfl
    refine ⟨(congrArg Prod.fst hidentity).trans hrole,
      (congrArg (fun v => v.2.1) hidentity).trans hconfig, v, ?_, ?_, ?_⟩
    · rw [hprocess]
      exact hentry'
    · rw [hcapsules, List.map_append]
      exact hstanding
    · rw [hbuffer]
      exact hbytes

/-- The capsule loop takes in the capsules that are whole, in order, and reports no error. -/
theorem Receiving.loop (hpeer : Standing (!isServer) other own w' calls' cs' heard')
    (hpayload : ∀ c ∈ cs', c.payload.length ≤ own.wtMaxCapsulePayloadSize)
    (h : Receiving isServer own other sc calls cs taken rest more)
    (hheard : heard' <+: cs.map Capsule.received) (hqueued : cs' = taken ++ rest) :
    ∃ es new rest', sc.loop.effects = sc.effects ++ es ∧
      Effect.Delivers es (new.map Capsule.received) ∧ rest = new ++ rest' ∧
      Receiving isServer own other sc.loop calls (cs ++ Effect.capsules es) (taken ++ new) rest'
        more ∧
      sc.loop.Waits := by
  have hfits := hpeer.fits hpayload
  have hrest : ∀ {taken rest : List Capsule}, cs' = taken ++ rest →
      ∀ c ∈ rest, Fits own (c.type.toNat, c.payload) := by
    intro taken rest heq c hc
    refine hfits c ?_
    rw [heq]
    exact List.mem_append_right _ hc
  revert h hheard hqueued
  revert cs taken rest
  -- The induction is on the turns of the loop; every turn takes one capsule off `rest`.
  refine SessionScope.loop_induction (P := fun sc last => ∀ {cs taken rest : List Capsule},
    Receiving isServer own other sc calls cs taken rest more →
    heard' <+: cs.map Capsule.received → cs' = taken ++ rest →
    ∃ es new rest', last.effects = sc.effects ++ es ∧
      Effect.Delivers es (new.map Capsule.received) ∧ rest = new ++ rest' ∧
      Receiving isServer own other last calls (cs ++ Effect.capsules es) (taken ++ new) rest' more ∧
      last.Waits) ?_ ?_ ?_ ?_ ?_ sc
  · intro sc hnone cs taken rest h hheard hqueued
    rcases h.standing with ⟨w, hentry, -⟩
    cases hnone.symm.trans hentry
  · intro sc w hentry hterm cs taken rest h hheard hqueued
    rcases h.standing with ⟨w₀, hentry₀, hstanding, -⟩
    cases hentry.symm.trans hentry₀
    rw [hstanding.live] at hterm
    cases hterm
  · intro sc w hentry hlive hhead cs taken rest h hheard hqueued
    refine ⟨[], [], rest, (List.append_nil _).symm,
      ⟨fun e he => absurd he List.not_mem_nil, .silent rfl⟩, rfl, ?_, ?_⟩
    · rw [List.append_nil, show Effect.capsules [] = [] from rfl, List.append_nil]
      exact h
    · intro w₀ hentry₀
      cases hentry.symm.trans hentry₀
      exact hhead
  · intro sc w hentry hlive hhead cs taken rest h hheard hqueued
    rcases h.standing with ⟨w₀, hentry₀, -, hbytes⟩
    cases hentry.symm.trans hentry₀
    rw [h.config_eq] at hhead
    rcases readHead_wire (hrest hqueued) hbytes with hread | ⟨c, left, cs₀, -, hread, -⟩
    · cases hhead.symm.trans hread
    · cases hhead.symm.trans hread
  · intro sc w type payload left sc' hentry hlive hhead hsc' ih cs taken rest h hheard hqueued
    rcases h.standing with ⟨w₀, hentry₀, hstanding, hbytes⟩
    cases hentry.symm.trans hentry₀
    rw [h.config_eq] at hhead
    rcases readHead_wire (hrest hqueued) hbytes with hread | ⟨c, left', cs₀, rfl, hread, hleft⟩
    · cases hhead.symm.trans hread
    cases hhead.symm.trans hread
    rcases Receiving.dispatch hstanding h.role h.config_eq hpeer hheard hqueued hleft
      (w.capsuleBuffer.length - left.length) with ⟨es, heffects, hdelivers, hnext⟩
    rw [← hsc'] at heffects hnext
    have hheard' : heard' <+: (cs ++ Effect.capsules es).map Capsule.received := by
      rw [List.map_append]
      exact hheard.trans (List.prefix_append _ _)
    have hqueued' : cs' = (taken ++ [c]) ++ cs₀ := by
      rw [hqueued, List.append_assoc]
      rfl
    rcases ih hnext hheard' hqueued' with
      ⟨es', new, rest', heffects', hdelivers', rfl, hlast, hwaits⟩
    refine ⟨es ++ es', c :: new, rest', ?_, ?_, rfl, ?_, hwaits⟩
    · rw [heffects', heffects, List.append_assoc]
    · exact hdelivers.append hdelivers'
    · have hassoc : taken ++ c :: new = taken ++ [c] ++ new := by
        rw [List.append_assoc]
        rfl
      rw [Effect.capsules_append, ← List.append_assoc, hassoc]
      exact hlast

/-- A DATA frame with the next bytes of an honest peer. -/
theorem Receiving.recvEstablished {data : Bytes}
    (hpeer : Standing (!isServer) other own w' calls' cs' heard')
    (hpayload : ∀ c ∈ cs', c.payload.length ≤ own.wtMaxCapsulePayloadSize)
    (h : Receiving isServer own other sc calls cs taken rest (data ++ more))
    (hheard : heard' <+: cs.map Capsule.received) (hqueued : cs' = taken ++ rest) :
    ∃ es new rest', (sc.recvEstablished data).effects = sc.effects ++ es ∧
      Effect.Delivers es (new.map Capsule.received) ∧ rest = new ++ rest' ∧
      Receiving isServer own other (sc.recvEstablished data) calls (cs ++ Effect.capsules es)
        (taken ++ new) rest' more ∧
      (sc.recvEstablished data).Waits := by
  have happended :
      Receiving isServer own other (sc.appendBuffer data) calls cs taken rest more := by
    rcases h.standing with ⟨w, hentry, hstanding, hbytes⟩
    refine ⟨h.role, h.config_eq, w.withBuffer (w.capsuleBuffer ++ data), ?_,
      hstanding.withBuffer _, ?_⟩
    · simp only [SessionScope.appendBuffer, hentry, Option.map_some]
    · rw [← hbytes, ← List.append_assoc]
      rfl
  rcases happended.loop hpeer hpayload hheard hqueued with
    ⟨es, new, rest', heffects, hdelivers, hrest, hlast, hwaits⟩
  have hprocess := SessionScope.processCapsules_eq_loop sc data
  rw [← hprocess] at heffects hlast hwaits
  have hfront : (sc.appendBuffer data).effects = sc.effects := rfl
  rw [hfront] at heffects
  rcases hlast.standing with ⟨v, hentry, hstanding, hbytes⟩
  simp only [SessionScope.recvEstablished, hentry]
  split_ifs with hlong
  · -- Only the credit of an unfinished capsule is given back.
    refine ⟨es ++ [.consumeRecvBytes (v.capsuleBuffer.length - maxUnfinishedCapsuleBytes)], new,
      rest', ?_, ?_, hrest, ?_, hwaits⟩
    · rw [← List.append_assoc, ← heffects]
      rfl
    · have hback : Effect.Delivers
          [.consumeRecvBytes (v.capsuleBuffer.length - maxUnfinishedCapsuleBytes)] [] := by
        refine ⟨?_, .silent rfl⟩
        intro e he
        rw [List.mem_singleton.1 he]
        trivial
      have hall := hdelivers.append hback
      rw [List.append_nil] at hall
      exact hall
    · have hcapsules : Effect.capsules (es ++ [.consumeRecvBytes
          (v.capsuleBuffer.length - maxUnfinishedCapsuleBytes)]) = Effect.capsules es := by
        rw [Effect.capsules_append]
        exact List.append_nil _
      rw [hcapsules]
      exact ⟨hlast.role, hlast.config_eq, v, hentry, hstanding, hbytes⟩
  · exact ⟨es, new, rest', heffects, hdelivers, hrest, hlast, hwaits⟩

end Loop

end H2
end WebTransport
