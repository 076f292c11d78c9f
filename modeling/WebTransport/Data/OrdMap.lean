import Mathlib

/-!
# OrdMap — finite maps that iterate in key order

The containers of the bindings are `std::map`s: finite, with one value for each key, walked in
ascending key order.  `OrdMap κ α` is a list of entries together with the proof that its keys
strictly increase, so a map with a repeated key or a shuffled walk cannot be built.

* `find?`, `insert`, `erase` — the three operations, with their lookup equations;
* `eraseAll` — the removal loops of the bindings;
* `total` — the sum of a numeric map, with the equations for an update and a removal.
-/

namespace WebTransport

/-- A finite map whose entries are stored in strictly ascending key order. -/
structure OrdMap (κ α : Type) [LinearOrder κ] where
  entries : List (κ × α)
  sorted : entries.Pairwise (fun a b => a.1 < b.1)
  deriving DecidableEq

namespace OrdMap

variable {κ α : Type} [LinearOrder κ]

/-! ## Operations on the entry list -/

def lookupEntries (k : κ) : List (κ × α) → Option α
  | [] => none
  | (k', v) :: rest => if k' = k then some v else lookupEntries k rest

def insertEntries (k : κ) (v : α) : List (κ × α) → List (κ × α)
  | [] => [(k, v)]
  | (k', v') :: rest =>
      if k < k' then (k, v) :: (k', v') :: rest
      else if k' = k then (k, v) :: rest
      else (k', v') :: insertEntries k v rest

def eraseEntries (k : κ) : List (κ × α) → List (κ × α)
  | [] => []
  | (k', v') :: rest => if k' = k then rest else (k', v') :: eraseEntries k rest

theorem mem_insertEntries {k : κ} {v : α} {e : κ × α} {l : List (κ × α)} :
    e ∈ insertEntries k v l → e = (k, v) ∨ e ∈ l := by
  induction l with
  | nil => simp [insertEntries]
  | cons head rest ih =>
      rcases head with ⟨k', v'⟩
      unfold insertEntries
      split_ifs
      · intro h
        simpa using h
      · intro h
        rcases List.mem_cons.1 h with h | h
        · exact Or.inl h
        · exact Or.inr (List.mem_cons_of_mem _ h)
      · intro h
        rcases List.mem_cons.1 h with h | h
        · exact Or.inr (h ▸ List.mem_cons_self)
        · exact (ih h).imp id (List.mem_cons_of_mem _)

theorem insertEntries_sorted (k : κ) (v : α) {l : List (κ × α)}
    (h : l.Pairwise (fun a b => a.1 < b.1)) :
    (insertEntries k v l).Pairwise (fun a b => a.1 < b.1) := by
  induction l with
  | nil => simp [insertEntries]
  | cons head rest ih =>
      rcases head with ⟨k', v'⟩
      have hhead := (List.pairwise_cons.1 h).1
      have htail := (List.pairwise_cons.1 h).2
      unfold insertEntries
      split_ifs with hlt heq
      · refine List.pairwise_cons.2 ⟨?_, h⟩
        intro e he
        rcases List.mem_cons.1 he with rfl | he
        · exact hlt
        · exact lt_trans hlt (hhead e he)
      · subst heq
        exact List.pairwise_cons.2 ⟨hhead, htail⟩
      · refine List.pairwise_cons.2 ⟨?_, ih htail⟩
        intro e he
        rcases mem_insertEntries he with rfl | he
        · exact lt_of_le_of_ne (not_lt.1 hlt) heq
        · exact hhead e he

theorem eraseEntries_sublist (k : κ) (l : List (κ × α)) : (eraseEntries k l).Sublist l := by
  induction l with
  | nil => exact List.Sublist.refl _
  | cons head rest ih =>
      unfold eraseEntries
      split_ifs
      · exact List.sublist_cons_self _ _
      · exact ih.cons_cons _

theorem lookupEntries_insert_self (k : κ) (v : α) (l : List (κ × α)) :
    lookupEntries k (insertEntries k v l) = some v := by
  induction l with
  | nil => simp [insertEntries, lookupEntries]
  | cons head rest ih =>
      unfold insertEntries
      split_ifs with hlt heq
      · simp [lookupEntries]
      · simp [lookupEntries]
      · simp [lookupEntries, heq, ih]

theorem lookupEntries_insert_ne {k k' : κ} (v : α) (hne : k' ≠ k) (l : List (κ × α)) :
    lookupEntries k' (insertEntries k v l) = lookupEntries k' l := by
  induction l with
  | nil => simp [insertEntries, lookupEntries, hne.symm]
  | cons head rest ih =>
      unfold insertEntries
      split_ifs with hlt heq
      · simp [lookupEntries, hne.symm]
      · simp [lookupEntries, heq, hne.symm]
      · simp [lookupEntries, ih]

theorem lookupEntries_eq_none_of_lt {k : κ} {l : List (κ × α)} (h : ∀ e ∈ l, k < e.1) :
    lookupEntries k l = none := by
  induction l with
  | nil => rfl
  | cons head rest ih =>
      have hne : head.1 ≠ k := ne_of_gt (h head List.mem_cons_self)
      simp only [lookupEntries, if_neg hne]
      exact ih fun e he => h e (List.mem_cons_of_mem _ he)

/-- A new key makes the list longer by one, a known one keeps its length. -/
theorem length_insertEntries (k : κ) (v : α) {l : List (κ × α)}
    (h : l.Pairwise (fun a b => a.1 < b.1)) : (insertEntries k v l).length =
      if (lookupEntries k l).isSome then l.length else l.length + 1 := by
  induction l with
  | nil => rfl
  | cons head rest ih =>
      rcases head with ⟨k', v'⟩
      have hhead := (List.pairwise_cons.1 h).1
      have hrest := ih (List.pairwise_cons.1 h).2
      by_cases heq : k' = k
      · subst heq
        simp [insertEntries, lookupEntries]
      · by_cases hlt : k < k'
        · have hnone : lookupEntries k rest = none :=
            lookupEntries_eq_none_of_lt fun e he => lt_trans hlt (hhead e he)
          simp [insertEntries, lookupEntries, heq, hlt, hnone]
        · simp only [insertEntries, lookupEntries, if_neg heq, if_neg hlt, List.length_cons, hrest]
          split_ifs <;> rfl

theorem lookupEntries_erase_self (k : κ) {l : List (κ × α)}
    (h : l.Pairwise (fun a b => a.1 < b.1)) : lookupEntries k (eraseEntries k l) = none := by
  induction l with
  | nil => rfl
  | cons head rest ih =>
      have hhead := (List.pairwise_cons.1 h).1
      unfold eraseEntries
      split_ifs with heq
      · exact lookupEntries_eq_none_of_lt fun e he => heq ▸ hhead e he
      · simpa [lookupEntries, heq] using ih (List.pairwise_cons.1 h).2

theorem lookupEntries_erase_ne {k k' : κ} (hne : k' ≠ k) (l : List (κ × α)) :
    lookupEntries k' (eraseEntries k l) = lookupEntries k' l := by
  induction l with
  | nil => rfl
  | cons head rest ih =>
      unfold eraseEntries
      split_ifs with heq
      · simp [lookupEntries, heq, hne.symm]
      · simp [lookupEntries, ih]

/-- Two sorted entry lists with the same lookups are the same list. -/
theorem entries_ext {l l' : List (κ × α)} (h : l.Pairwise (fun a b => a.1 < b.1))
    (h' : l'.Pairwise (fun a b => a.1 < b.1))
    (hlookup : ∀ k, lookupEntries k l = lookupEntries k l') : l = l' := by
  induction l generalizing l' with
  | nil =>
      cases l' with
      | nil => rfl
      | cons head' rest' =>
          have hhead := hlookup head'.1
          simp [lookupEntries] at hhead
  | cons head rest ih =>
      cases l' with
      | nil =>
          have hhead := hlookup head.1
          simp [lookupEntries] at hhead
      | cons head' rest' =>
          rcases head with ⟨k, v⟩
          rcases head' with ⟨k', v'⟩
          rcases List.pairwise_cons.1 h with ⟨hhead, hrest⟩
          rcases List.pairwise_cons.1 h' with ⟨hhead', hrest'⟩
          have hk := hlookup k
          have hk' := hlookup k'
          -- The smaller of the two first keys would be missing from the other list.
          have hkeys : k = k' := by
            rcases lt_trichotomy k k' with hlt | heq | hgt
            · have hnone : lookupEntries k ((k', v') :: rest') = none :=
                lookupEntries_eq_none_of_lt fun e he => by
                  rcases List.mem_cons.1 he with rfl | he
                  · exact hlt
                  · exact lt_trans hlt (hhead' e he)
              rw [hnone] at hk
              simp [lookupEntries] at hk
            · exact heq
            · have hnone : lookupEntries k' ((k, v) :: rest) = none :=
                lookupEntries_eq_none_of_lt fun e he => by
                  rcases List.mem_cons.1 he with rfl | he
                  · exact hgt
                  · exact lt_trans hgt (hhead e he)
              rw [hnone] at hk'
              simp [lookupEntries] at hk'
          subst hkeys
          have hvalue : v = v' := by simpa [lookupEntries] using hk
          subst hvalue
          have htail : rest = rest' := by
            refine ih hrest hrest' fun j => ?_
            by_cases hj : k = j
            · subst hj
              rw [lookupEntries_eq_none_of_lt hhead, lookupEntries_eq_none_of_lt hhead']
            · have hlook := hlookup j
              simpa [lookupEntries, hj] using hlook
          rw [htail]

/-! ## The map -/

/-- The empty map. -/
def empty : OrdMap κ α := ⟨[], List.Pairwise.nil⟩

instance : EmptyCollection (OrdMap κ α) := ⟨empty⟩

instance : Inhabited (OrdMap κ α) := ⟨empty⟩

/-- `std::map::find`. -/
def find? (m : OrdMap κ α) (k : κ) : Option α := lookupEntries k m.entries

/-- `map[k] = v`. -/
def insert (m : OrdMap κ α) (k : κ) (v : α) : OrdMap κ α :=
  ⟨insertEntries k v m.entries, insertEntries_sorted k v m.sorted⟩

/-- `std::map::erase`. -/
def erase (m : OrdMap κ α) (k : κ) : OrdMap κ α :=
  ⟨eraseEntries k m.entries, m.sorted.sublist (eraseEntries_sublist k m.entries)⟩

/-- `std::map::size`. -/
def size (m : OrdMap κ α) : Nat := m.entries.length

/-- The keys in the order of a walk over the map. -/
def keys (m : OrdMap κ α) : List κ := m.entries.map Prod.fst

@[simp] theorem find?_empty (k : κ) : (∅ : OrdMap κ α).find? k = none := rfl

@[simp] theorem find?_insert_self (m : OrdMap κ α) (k : κ) (v : α) :
    (m.insert k v).find? k = some v :=
  lookupEntries_insert_self k v m.entries

theorem find?_insert_ne (m : OrdMap κ α) {k k' : κ} (v : α) (h : k' ≠ k) :
    (m.insert k v).find? k' = m.find? k' :=
  lookupEntries_insert_ne v h m.entries

theorem find?_insert (m : OrdMap κ α) (k k' : κ) (v : α) :
    (m.insert k v).find? k' = if k' = k then some v else m.find? k' := by
  by_cases h : k' = k
  · subst h
    simp
  · simp [find?_insert_ne m v h, h]

theorem size_insert (m : OrdMap κ α) (k : κ) (v : α) :
    (m.insert k v).size = if (m.find? k).isSome then m.size else m.size + 1 :=
  length_insertEntries k v m.sorted

@[simp] theorem find?_erase_self (m : OrdMap κ α) (k : κ) : (m.erase k).find? k = none :=
  lookupEntries_erase_self k m.sorted

theorem find?_erase_ne (m : OrdMap κ α) {k k' : κ} (h : k' ≠ k) :
    (m.erase k).find? k' = m.find? k' :=
  lookupEntries_erase_ne h m.entries

theorem find?_erase (m : OrdMap κ α) (k k' : κ) :
    (m.erase k).find? k' = if k' = k then none else m.find? k' := by
  by_cases h : k' = k
  · subst h
    simp
  · simp [find?_erase_ne m h, h]

theorem mem_keys_iff (m : OrdMap κ α) (k : κ) : k ∈ m.keys ↔ ∃ v, m.find? k = some v := by
  unfold keys find?
  induction m.entries with
  | nil => simp [lookupEntries]
  | cons head rest ih =>
      by_cases h : head.1 = k
      · simp [lookupEntries, h]
      · simp only [List.map_cons, List.mem_cons, lookupEntries, if_neg h, ← ih]
        exact or_iff_right fun hk => h hk.symm

theorem mem_of_find? {m : OrdMap κ α} {k : κ} {v : α} (h : m.find? k = some v) :
    (k, v) ∈ m.entries := by
  unfold find? at h
  generalize m.entries = l at h ⊢
  induction l with
  | nil => cases h
  | cons head rest ih =>
      rcases head with ⟨k', v'⟩
      rw [lookupEntries] at h
      split_ifs at h with heq
      · cases h
        subst heq
        exact List.mem_cons_self
      · exact List.mem_cons_of_mem _ (ih h)

theorem keys_nodup (m : OrdMap κ α) : m.keys.Nodup := by
  have hsorted : m.keys.Pairwise (· < ·) := List.pairwise_map.2 m.sorted
  exact hsorted.imp ne_of_lt

theorem ext_find? {m m' : OrdMap κ α} (h : ∀ k, m.find? k = m'.find? k) : m = m' := by
  rcases m with ⟨l, hl⟩
  rcases m' with ⟨l', hl'⟩
  have hentries : l = l' := entries_ext hl hl' h
  subst hentries
  rfl

/-- Only the last write of a key counts. -/
@[simp] theorem insert_insert (m : OrdMap κ α) (k : κ) (v v' : α) :
    (m.insert k v).insert k v' = m.insert k v' := by
  refine ext_find? fun j => ?_
  simp only [find?_insert]
  split_ifs <;> rfl

/-- Writing back what is there changes nothing. -/
theorem insert_of_find? {m : OrdMap κ α} {k : κ} {v : α} (h : m.find? k = some v) :
    m.insert k v = m := by
  refine ext_find? fun j => ?_
  rw [find?_insert]
  split_ifs with hj
  · rw [hj, h]
  · rfl

/-! ## Removing many keys -/

/-- Remove the keys of a list one after the other. -/
def eraseAll (m : OrdMap κ α) (ks : List κ) : OrdMap κ α := ks.foldl erase m

theorem find?_eraseAll (m : OrdMap κ α) (ks : List κ) (k : κ) :
    (m.eraseAll ks).find? k = if k ∈ ks then none else m.find? k := by
  induction ks generalizing m with
  | nil => simp [eraseAll]
  | cons k' ks ih =>
      have hstep : m.eraseAll (k' :: ks) = (m.erase k').eraseAll ks := rfl
      rw [hstep, ih, find?_erase]
      by_cases hk : k = k'
      · simp [hk]
      · simp [hk]

/-! ## Numeric maps -/

/-- The sum of all values. -/
def total (m : OrdMap κ Nat) : Nat := (m.entries.map Prod.snd).sum

@[simp] theorem total_empty : (∅ : OrdMap κ Nat).total = 0 := rfl

theorem sum_insertEntries (k : κ) (v : Nat) {l : List (κ × Nat)}
    (h : l.Pairwise (fun a b => a.1 < b.1)) :
    ((insertEntries k v l).map Prod.snd).sum + (lookupEntries k l).getD 0 =
      (l.map Prod.snd).sum + v := by
  induction l with
  | nil => simp [insertEntries, lookupEntries]
  | cons head rest ih =>
      have hhead := (List.pairwise_cons.1 h).1
      unfold insertEntries
      split_ifs with hlt heq
      · have hnone : lookupEntries k (head :: rest) = none :=
          lookupEntries_eq_none_of_lt fun e he => by
            rcases List.mem_cons.1 he with rfl | he
            · exact hlt
            · exact lt_trans hlt (hhead e he)
        simp [hnone, Nat.add_comm]
      · simp [lookupEntries, heq]
        omega
      · have hrest := ih (List.pairwise_cons.1 h).2
        simp only [List.map_cons, List.sum_cons, lookupEntries, if_neg heq]
        omega

theorem sum_eraseEntries (k : κ) (l : List (κ × Nat)) :
    ((eraseEntries k l).map Prod.snd).sum + (lookupEntries k l).getD 0 =
      (l.map Prod.snd).sum := by
  induction l with
  | nil => rfl
  | cons head rest ih =>
      unfold eraseEntries
      split_ifs with heq
      · simp [lookupEntries, heq, Nat.add_comm]
      · simp only [List.map_cons, List.sum_cons, lookupEntries, if_neg heq]
        omega

/-- Overwriting one entry moves the total by the difference of the two values. -/
theorem total_insert (m : OrdMap κ Nat) (k : κ) (v : Nat) :
    (m.insert k v).total + (m.find? k).getD 0 = m.total + v :=
  sum_insertEntries k v m.sorted

/-- Removing one entry takes its value out of the total. -/
theorem total_erase (m : OrdMap κ Nat) (k : κ) :
    (m.erase k).total + (m.find? k).getD 0 = m.total :=
  sum_eraseEntries k m.entries

theorem find?_le_total (m : OrdMap κ Nat) (k : κ) : (m.find? k).getD 0 ≤ m.total := by
  have h := m.total_erase k
  omega

end OrdMap

end WebTransport
