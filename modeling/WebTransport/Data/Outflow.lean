import WebTransport.Data.Path

/-!
# Outflow — bytes handed to a transport that confirms them

A writer wants bytes to be sent.  A transport takes them in offers, confirms an offer piece by piece,
and is told with an offer that it is the last one.

* `Outflow`        : what is wanted, what is confirmed, and what is offered and not confirmed;
* `Outflow.Valid`  : offers follow what is wanted, and the last one reaches its end;
* `Outflow.drains` : a machine that never has to wait sends everything.
-/

namespace WebTransport

/-- The state of an outgoing stream of bytes. -/
structure Outflow (β : Type*) where
  wanted : List β := []
  confirmed : List β := []
  outstanding : List β := []
  finished : Bool := false

namespace Outflow

variable {β : Type*}

/-- More bytes are wanted; behind the last offer they are not. -/
def want (f : Outflow β) (bytes : List β) : Outflow β :=
  if f.finished then f else { f with wanted := f.wanted ++ bytes }

/-- An offer, which may be the last. -/
def offer (f : Outflow β) (bytes : List β) (last : Bool) : Outflow β :=
  { f with outstanding := bytes, finished := last }

/-- The confirmation of the first `n` bytes of what is offered. -/
def confirm (f : Outflow β) (n : Nat) : Outflow β :=
  { f with
      confirmed := f.confirmed ++ f.outstanding.take n
      outstanding := f.outstanding.drop n }

/-- What was taken is the beginning of what is wanted, and all of it behind the last offer. -/
structure Valid (f : Outflow β) : Prop where
  front : f.confirmed ++ f.outstanding <+: f.wanted
  all : f.finished = true → f.confirmed ++ f.outstanding = f.wanted

/-- Everything is sent. -/
def Done (f : Outflow β) : Prop := f.finished = true ∧ f.confirmed = f.wanted

namespace Valid

variable {f : Outflow β}

theorem want (h : f.Valid) (bytes : List β) : (f.want bytes).Valid := by
  unfold Outflow.want
  cases hfinished : f.finished with
  | true => exact h
  | false =>
      refine ⟨h.front.trans (List.prefix_append _ _), ?_⟩
      intro hlast
      rw [if_neg Bool.false_ne_true] at hlast
      cases hlast

theorem confirm (h : f.Valid) (n : Nat) : (f.confirm n).Valid := by
  have hsame : (f.confirmed ++ f.outstanding.take n) ++ f.outstanding.drop n =
      f.confirmed ++ f.outstanding := by
    rw [List.append_assoc, List.take_append_drop]
  constructor
  · show (f.confirmed ++ f.outstanding.take n) ++ f.outstanding.drop n <+: f.wanted
    rw [hsame]
    exact h.front
  · intro hlast
    show (f.confirmed ++ f.outstanding.take n) ++ f.outstanding.drop n = f.wanted
    rw [hsame]
    exact h.all hlast

/-- An offer is the next part of what is wanted, the last one its whole rest. -/
theorem offer {bytes : List β} (rest : List β) {last : Bool}
    (hnext : f.confirmed ++ (bytes ++ rest) = f.wanted) (hlast : last = true → rest = []) :
    (f.offer bytes last).Valid := by
  constructor
  · show f.confirmed ++ bytes <+: f.wanted
    rw [← hnext, ← List.append_assoc]
    exact List.prefix_append _ _
  · intro hfinished
    show f.confirmed ++ bytes = f.wanted
    rw [← hnext, hlast hfinished, List.append_nil]

theorem confirmed_prefix (h : f.Valid) : f.confirmed <+: f.wanted :=
  (List.prefix_append _ _).trans h.front

end Valid

/-- A machine that can always confirm what is offered, and always offers some more or the last,
sends everything. -/
theorem drains {S L : Type*} {step : S → L → S → Prop} (flow : S → Outflow β) (Ready : S → Prop)
    (hvalid : ∀ s, Ready s → (flow s).Valid)
    (hread : ∀ s, Ready s → (flow s).outstanding = [] → (flow s).finished = false →
      ∃ l s' bytes last, step s l s' ∧ Ready s' ∧ flow s' = (flow s).offer bytes last ∧
        (bytes ≠ [] ∨ last = true))
    (hconfirm : ∀ s, Ready s → (flow s).outstanding ≠ [] →
      ∃ l s', step s l s' ∧ Ready s' ∧ flow s' = (flow s).confirm (flow s).outstanding.length)
    (s : S) (hs : Ready s) : ∃ ls s', Path step s ls s' ∧ Ready s' ∧ (flow s').Done := by
  -- what is not confirmed gets shorter with every confirmation
  induction hn : (flow s).wanted.length - (flow s).confirmed.length using Nat.strongRecOn generalizing s
    with
  | ind n ih =>
      have hsend : ∀ s, Ready s → (flow s).wanted.length - (flow s).confirmed.length = n →
          (flow s).outstanding ≠ [] → ∃ ls s', Path step s ls s' ∧ Ready s' ∧ (flow s').Done := by
        intro s hs hn hout
        rcases hconfirm s hs hout with ⟨l, s', hstep, hs', hflow⟩
        have hlength := (hvalid s hs).front.length_le
        have hpos : 0 < (flow s).outstanding.length := List.length_pos_iff.mpr hout
        rw [List.length_append] at hlength
        have hless : (flow s').wanted.length - (flow s').confirmed.length < n := by
          rw [hflow]
          simp only [Outflow.confirm, List.length_append, List.take_length]
          omega
        rcases ih _ hless s' hs' rfl with ⟨ls, s'', hpath, hs'', hdone⟩
        exact ⟨l :: ls, s'', ⟨s', hstep, hpath⟩, hs'', hdone⟩
      by_cases hout : (flow s).outstanding = []
      · cases hfinished : (flow s).finished with
        | true =>
            refine ⟨[], s, rfl, hs, hfinished, ?_⟩
            have hall := (hvalid s hs).all hfinished
            rw [hout, List.append_nil] at hall
            exact hall
        | false =>
            rcases hread s hs hout hfinished with ⟨l, s', bytes, last, hstep, hs', hflow, hmore⟩
            by_cases hbytes : bytes = []
            · have hlast : last = true := hmore.resolve_left fun hne => hne hbytes
              have hall := (hvalid s' hs').all
              rw [hflow] at hall
              refine ⟨[l], s', Path.one hstep, hs', ?_, ?_⟩
              · rw [hflow]
                exact hlast
              · rw [hflow]
                have hsent := hall hlast
                simp only [Outflow.offer, hbytes, List.append_nil] at hsent ⊢
                exact hsent
            · have hsame : (flow s').wanted.length - (flow s').confirmed.length = n := by
                rw [hflow]
                exact hn
              have hout' : (flow s').outstanding ≠ [] := by
                rw [hflow]
                exact hbytes
              rcases hsend s' hs' hsame hout' with ⟨ls, s'', hpath, hs'', hdone⟩
              exact ⟨l :: ls, s'', ⟨s', hstep, hpath⟩, hs'', hdone⟩
      · exact hsend s hs hn hout

end Outflow

end WebTransport
