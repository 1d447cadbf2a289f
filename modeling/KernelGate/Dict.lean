/-!
# Dictionaries with text keys

A `Dict β` holds entries by key, each key once, in ascending key order. The order is part of the
type, so two dictionaries with the same lookups are equal (`Dict.ext_get?`), and what an answer
shows of one does not depend on how it was filled.

Main statements: `get?_insert`, `get?_erase` say what the two updates do to lookups;
`mem_toList` ties the list of entries to lookups.
-/

namespace KernelGate

variable {β γ : Type}

namespace Entries

/-- Put `v` at `k` in a list of entries in ascending key order. -/
def insert (k : String) (v : β) : List (String × β) → List (String × β)
  | [] => [(k, v)]
  | e :: rest =>
    if k < e.1 then (k, v) :: e :: rest
    else if k = e.1 then (k, v) :: rest
    else e :: insert k v rest

/-- The value of the first entry for `k`. -/
def find? (k : String) : List (String × β) → Option β
  | [] => none
  | e :: rest => if k = e.1 then some e.2 else find? k rest

/-- Keys strictly ascend. -/
def Sorted (l : List (String × β)) : Prop := l.Pairwise (fun a b => a.1 < b.1)

theorem mem_insert {k : String} {v : β} {a : String × β} {l : List (String × β)} :
    a ∈ insert k v l → a = (k, v) ∨ a ∈ l := by
  induction l with
  | nil => simp [insert]
  | cons e rest ih =>
    rw [insert]
    split
    · simp
    · split
      · intro h
        rcases List.mem_cons.1 h with h | h
        · exact .inl h
        · exact .inr (List.mem_cons_of_mem _ h)
      · intro h
        rcases List.mem_cons.1 h with h | h
        · exact .inr (h ▸ List.mem_cons_self)
        · exact (ih h).imp id (List.mem_cons_of_mem _)

/-- A new entry keeps the keys in order. -/
theorem sorted_insert (k : String) (v : β) {l : List (String × β)} (h : Sorted l) :
    Sorted (insert k v l) := by
  induction l with
  | nil => simp [insert, Sorted]
  | cons e rest ih =>
    have hr : Sorted rest := (List.pairwise_cons.1 h).2
    have he : ∀ a ∈ rest, e.1 < a.1 := (List.pairwise_cons.1 h).1
    rw [insert]
    split
    · next hk =>
      refine List.pairwise_cons.2 ⟨fun a ha => ?_, h⟩
      rcases List.mem_cons.1 ha with rfl | ha
      · exact hk
      · exact String.lt_trans hk (he a ha)
    · next hk =>
      split
      · next hk' => exact List.pairwise_cons.2 ⟨fun a ha => hk' ▸ he a ha, hr⟩
      · next hk' =>
        refine List.pairwise_cons.2 ⟨fun a ha => ?_, ih hr⟩
        rcases mem_insert ha with rfl | ha
        · have hle := String.not_lt.1 hk
          exact Classical.byContradiction fun hn =>
            hk' (String.le_antisymm (String.not_lt.1 hn) hle)
        · exact he a ha

theorem find?_insert (k k' : String) (v : β) (l : List (String × β)) :
    find? k' (insert k v l) = if k' = k then some v else find? k' l := by
  induction l with
  | nil => simp [insert, find?]
  | cons e rest ih =>
    rw [insert]
    split
    · simp only [find?]
    · split
      · next hk' => simp only [find?]; split <;> simp_all
      · next hk' =>
        simp only [find?, ih]
        by_cases h1 : k' = e.1
        · simp only [h1, ↓reduceIte]
          split
          · next h2 => exact absurd h2.symm hk'
          · rfl
        · simp [h1]

/-- A key above which all keys lie has no entry. -/
theorem find?_eq_none_of_lt {k : String} {l : List (String × β)} (h : ∀ a ∈ l, k < a.1) :
    find? k l = none := by
  induction l with
  | nil => rfl
  | cons e rest ih =>
    have h1 : k ≠ e.1 := fun he => String.lt_irrefl k (he ▸ h e List.mem_cons_self)
    simp [find?, h1, ih fun a ha => h a (List.mem_cons_of_mem _ ha)]

/-- Under a key that stands once, looking it up finds its entry. -/
theorem find?_eq_some_iff {k : String} {v : β} {l : List (String × β)} (h : Sorted l) :
    find? k l = some v ↔ (k, v) ∈ l := by
  induction l with
  | nil => simp [find?]
  | cons e rest ih =>
    have hr : Sorted rest := (List.pairwise_cons.1 h).2
    have he : ∀ a ∈ rest, e.1 < a.1 := (List.pairwise_cons.1 h).1
    simp only [find?, List.mem_cons]
    by_cases hk : k = e.1
    · subst hk
      simp only [↓reduceIte, Option.some.injEq]
      constructor
      · rintro rfl; exact .inl rfl
      · rintro (h1 | h1)
        · exact (congrArg Prod.snd h1).symm
        · exact absurd (he _ h1) (String.lt_irrefl _)
    · simp only [hk, ↓reduceIte, ih hr]
      constructor
      · exact .inr
      · rintro (h1 | h1)
        · exact absurd (congrArg Prod.fst h1) hk
        · exact h1

theorem sorted_filter (p : String × β → Bool) {l : List (String × β)} (h : Sorted l) :
    Sorted (l.filter p) := List.Pairwise.filter p h

theorem sorted_map (f : β → γ) {l : List (String × β)} (h : Sorted l) :
    Sorted (l.map fun e => (e.1, f e.2)) := by
  simpa [Sorted, List.pairwise_map] using h

/-- Entries in ascending key order are settled by their lookups. -/
theorem ext {l m : List (String × β)} (hl : Sorted l) (hm : Sorted m)
    (h : ∀ k, find? k l = find? k m) : l = m := by
  induction l generalizing m with
  | nil =>
    cases m with
    | nil => rfl
    | cons e rest => simpa [find?] using h e.1
  | cons e rest ih =>
    cases m with
    | nil => simpa [find?] using h e.1
    | cons e' rest' =>
      have hr := (List.pairwise_cons.1 hl).2
      have hr' := (List.pairwise_cons.1 hm).2
      have he := (List.pairwise_cons.1 hl).1
      have he' := (List.pairwise_cons.1 hm).1
      have hmem : (e.1, e.2) ∈ e' :: rest' :=
        (find?_eq_some_iff hm).1 ((h e.1) ▸ (find?_eq_some_iff hl).2 List.mem_cons_self)
      have hmem' : (e'.1, e'.2) ∈ e :: rest :=
        (find?_eq_some_iff hl).1 ((h e'.1) ▸ (find?_eq_some_iff hm).2 List.mem_cons_self)
      have hee : e = e' := by
        rcases List.mem_cons.1 hmem with h1 | h1
        · exact h1
        · rcases List.mem_cons.1 hmem' with h2 | h2
          · exact h2.symm
          · exact absurd (String.lt_trans (he _ h2) (he' _ h1)) (String.lt_irrefl _)
      subst hee
      refine congrArg (e :: ·) (ih hr hr' fun k => ?_)
      by_cases hk : k = e.1
      · subst hk
        rw [find?_eq_none_of_lt he, find?_eq_none_of_lt he']
      · simpa [find?, hk] using h k

end Entries

/-- Entries by key, each key once, in ascending key order. -/
structure Dict (β : Type) where
  /-- The entries, in ascending key order. -/
  toList : List (String × β)
  sorted : Entries.Sorted toList
  deriving DecidableEq

namespace Dict

/-- No entries. -/
def empty : Dict β := ⟨[], List.Pairwise.nil⟩

instance : EmptyCollection (Dict β) := ⟨empty⟩
instance : Inhabited (Dict β) := ⟨empty⟩

/-- The value at a key. -/
def get? (d : Dict β) (k : String) : Option β := Entries.find? k d.toList

/-- Whether a key has an entry. -/
def contains (d : Dict β) (k : String) : Bool := (d.get? k).isSome

/-- Put a value at a key, in place of the one that is there. -/
def insert (d : Dict β) (k : String) (v : β) : Dict β :=
  ⟨Entries.insert k v d.toList, Entries.sorted_insert k v d.sorted⟩

/-- Keep the entries that a test admits. -/
def filter (p : String → β → Bool) (d : Dict β) : Dict β :=
  ⟨d.toList.filter fun e => p e.1 e.2, Entries.sorted_filter _ d.sorted⟩

/-- Take away the entry of a key. -/
def erase (d : Dict β) (k : String) : Dict β := d.filter fun k' _ => k' != k

/-- The same keys with other values. -/
def map (f : β → γ) (d : Dict β) : Dict γ :=
  ⟨d.toList.map fun e => (e.1, f e.2), Entries.sorted_map f d.sorted⟩

/-- The number of entries. -/
def size (d : Dict β) : Nat := d.toList.length

/-- Whether there are no entries. -/
def isEmpty (d : Dict β) : Bool := d.toList.isEmpty

/-- The keys in ascending order. -/
def keys (d : Dict β) : List String := d.toList.map (·.1)

/-- The values in the order of their keys. -/
def values (d : Dict β) : List β := d.toList.map (·.2)

/-- Insert the entries of a list one after another: the last one for a key stays. -/
def insertMany (d : Dict β) (l : List (String × β)) : Dict β :=
  l.foldl (fun d e => d.insert e.1 e.2) d

/-- The dictionary of a list of entries; the last one for a key stays. -/
def ofList (l : List (String × β)) : Dict β := insertMany ∅ l

/-- Lay the entries of `other` over those of `d`. -/
def overlay (d other : Dict β) : Dict β := d.insertMany other.toList

/-! ## Lookups

What each operation does to lookups. A dictionary is known by its lookups, so that nothing else
about an operation is ever needed. -/

@[simp] theorem get?_empty (k : String) : (∅ : Dict β).get? k = none := rfl

theorem get?_insert (d : Dict β) (k k' : String) (v : β) :
    (d.insert k v).get? k' = if k' = k then some v else d.get? k' :=
  Entries.find?_insert k k' v d.toList

@[simp] theorem get?_insert_self (d : Dict β) (k : String) (v : β) :
    (d.insert k v).get? k = some v := by simp [get?_insert]

theorem get?_insert_of_ne (d : Dict β) {k k' : String} (v : β) (h : k' ≠ k) :
    (d.insert k v).get? k' = d.get? k' := by simp [get?_insert, h]

/-- The entries of a dictionary are its lookups. -/
theorem mem_toList {d : Dict β} {k : String} {v : β} : (k, v) ∈ d.toList ↔ d.get? k = some v :=
  (Entries.find?_eq_some_iff d.sorted).symm

/-- Equal lookups make equal dictionaries. -/
theorem ext_get? {d e : Dict β} (h : ∀ k, d.get? k = e.get? k) : d = e := by
  cases d; cases e
  congr
  exact Entries.ext ‹_› ‹_› h

theorem get?_filter (p : String → β → Bool) (d : Dict β) (k : String) :
    (d.filter p).get? k = (d.get? k).filter (p k) := by
  apply Option.ext
  intro v
  rw [← mem_toList, Option.filter_eq_some_iff, ← mem_toList]
  simp [filter]

theorem get?_erase (d : Dict β) (k k' : String) :
    (d.erase k).get? k' = if k' = k then none else d.get? k' := by
  rw [erase, get?_filter]
  by_cases h : k' = k
  · subst h; cases d.get? k' <;> simp
  · cases d.get? k' <;> simp [h, Option.filter]

@[simp] theorem get?_erase_self (d : Dict β) (k : String) : (d.erase k).get? k = none := by
  simp [get?_erase]

theorem get?_erase_of_ne (d : Dict β) {k k' : String} (h : k' ≠ k) :
    (d.erase k).get? k' = d.get? k' := by simp [get?_erase, h]

theorem get?_map (f : β → γ) (d : Dict β) (k : String) : (d.map f).get? k = (d.get? k).map f := by
  simp only [get?, map]
  induction d.toList with
  | nil => rfl
  | cons e rest ih => by_cases h : k = e.1 <;> simp [Entries.find?, h, ih]

theorem contains_iff {d : Dict β} {k : String} : d.contains k = true ↔ ∃ v, d.get? k = some v := by
  simp [contains, Option.isSome_iff_exists]

theorem mem_keys {d : Dict β} {k : String} : k ∈ d.keys ↔ d.contains k = true := by
  rw [contains_iff, keys, List.mem_map]
  constructor
  · rintro ⟨⟨k', v⟩, h, rfl⟩; exact ⟨v, mem_toList.1 h⟩
  · rintro ⟨v, h⟩; exact ⟨(k, v), mem_toList.2 h, rfl⟩

/-- The last entry for a key is the one that stays. -/
theorem get?_insertMany (d : Dict β) (l : List (String × β)) (k : String) :
    (d.insertMany l).get? k = ((l.reverse.find? fun e => e.1 = k).map (·.2)).or (d.get? k) := by
  induction l generalizing d with
  | nil => simp [insertMany]
  | cons e rest ih =>
    have h1 : d.insertMany (e :: rest) = (d.insert e.1 e.2).insertMany rest := rfl
    rw [h1, ih, get?_insert, List.reverse_cons, List.find?_append]
    cases List.find? (fun e => decide (e.1 = k)) rest.reverse with
    | some x => simp
    | none =>
      by_cases h : k = e.1
      · subst h; simp
      · simp [h, Ne.symm h]

/-- Entries in ascending key order hold each key once, so the last one is the only one. -/
theorem find?_reverse_toList (d : Dict β) (k : String) :
    (d.toList.reverse.find? fun e => e.1 = k).map (·.2) = d.get? k := by
  apply Option.ext
  intro v
  rw [Option.map_eq_some_iff]
  constructor
  · rintro ⟨e, he, rfl⟩
    have h1 := List.mem_of_find?_eq_some he
    have h2 : e.1 = k := by simpa using List.find?_some he
    exact h2 ▸ mem_toList.1 (List.mem_reverse.1 h1)
  · intro h
    have h1 : (k, v) ∈ d.toList.reverse := List.mem_reverse.2 (mem_toList.2 h)
    cases hf : d.toList.reverse.find? fun e => e.1 = k with
    | none => exact absurd (List.find?_eq_none.1 hf _ h1) (by simp)
    | some e =>
      have h2 := List.mem_reverse.1 (List.mem_of_find?_eq_some hf)
      have h3 : e.1 = k := by simpa using List.find?_some hf
      have h4 : d.get? k = some e.2 := h3 ▸ mem_toList.1 h2
      exact ⟨e, rfl, by rw [h] at h4; exact (Option.some.inj h4).symm⟩

/-- What the other dictionary has comes first. -/
theorem get?_overlay (d other : Dict β) (k : String) :
    (d.overlay other).get? k = (other.get? k).or (d.get? k) := by
  rw [overlay, get?_insertMany, find?_reverse_toList]

/-- To lay the entries of a list over others is to insert them one after another. -/
theorem overlay_ofList (d : Dict β) (l : List (String × β)) :
    d.overlay (ofList l) = d.insertMany l := by
  apply ext_get?
  intro k
  rw [get?_overlay, ofList, get?_insertMany, get?_insertMany, get?_empty, Option.or_none]

/-- Putting back the value that was taken away restores the dictionary. -/
theorem insert_erase {d : Dict β} {k : String} {v : β} (h : d.get? k = some v) :
    (d.erase k).insert k v = d := by
  apply ext_get?
  intro k'
  rw [get?_insert, get?_erase]
  split
  · next hk => rw [hk, h]
  · rfl

/-- Taking away a fresh entry restores the dictionary. -/
theorem erase_insert {d : Dict β} {k : String} (v : β) (h : d.get? k = none) :
    (d.insert k v).erase k = d := by
  apply ext_get?
  intro k'
  rw [get?_erase, get?_insert]
  split
  · next hk => rw [hk, h]
  · rfl

end Dict

/-- A set of names, in ascending order. -/
abbrev NameSet := Dict Unit

namespace NameSet

/-- Add a name. -/
def add (s : NameSet) (name : String) : NameSet := s.insert name ()

/-- The set of the names in a list. -/
def ofNames (l : List String) : NameSet := l.foldl add ∅

end NameSet

end KernelGate
