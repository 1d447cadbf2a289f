/-!
# Cutting and replacing

Cutting text at a separator and replacing marks in it. All functions work from left to right on
occurrences that do not overlap.

Main statements: `cut?_eq_some` (what the two sides of a cut give together), `mem_splitAt` (no item
holds the separator).
-/

namespace KernelGate.Text

/-- What follows `mark` in `cs`, if `cs` starts with it. -/
def after? : (mark cs : List Char) → Option (List Char)
  | [], cs => some cs
  | _ :: _, [] => none
  | m :: mark, c :: cs => if m = c then after? mark cs else none

theorem after?_eq_some {mark cs rest : List Char} :
    after? mark cs = some rest ↔ cs = mark ++ rest := by
  induction mark generalizing cs with
  | nil => simp [after?, eq_comm]
  | cons m mark ih =>
    cases cs with
    | nil => simp [after?]
    | cons c cs =>
      by_cases h : m = c
      · simp [after?, h, ih]
      · simp [after?, h, Ne.symm h]

/-- The parts before and after the first occurrence of `mark`. -/
def cut? (mark : List Char) : List Char → Option (List Char × List Char)
  | [] => (after? mark []).map fun rest => ([], rest)
  | c :: cs =>
    match after? mark (c :: cs) with
    | some rest => some ([], rest)
    | none => (cut? mark cs).map fun p => (c :: p.1, p.2)

theorem cut?_eq_some {mark cs before rest : List Char} (h : cut? mark cs = some (before, rest)) :
    cs = before ++ mark ++ rest := by
  induction cs generalizing before with
  | nil =>
    cases mark with
    | nil => simp_all [cut?, after?]
    | cons m mark => simp [cut?, after?] at h
  | cons c cs ih =>
    rw [cut?] at h
    split at h
    · next hr =>
      simp only [Option.some.injEq, Prod.mk.injEq] at h
      obtain ⟨rfl, rfl⟩ := h
      simpa using after?_eq_some.1 hr
    · obtain ⟨p, hp, he⟩ := Option.map_eq_some_iff.1 h
      simp only [Prod.mk.injEq] at he
      obtain ⟨rfl, rfl⟩ := he
      have h1 : cut? mark cs = some (p.1, p.2) := hp
      simp [ih h1]

/-- The texts before and after the first occurrence of `mark`. -/
def cutAt? (mark s : String) : Option (String × String) :=
  (cut? mark.toList s.toList).map fun p => (String.ofList p.1, String.ofList p.2)

/-! ## Items between separators -/

/-- The items between the occurrences of `sep`, the empty ones too. -/
def splitAt (sep : Char) : List Char → List (List Char)
  | [] => [[]]
  | c :: cs =>
    if c = sep then [] :: splitAt sep cs
    else
      match splitAt sep cs with
      | [] => [[c]]
      | item :: items => (c :: item) :: items

theorem splitAt_ne_nil (sep : Char) (cs : List Char) : splitAt sep cs ≠ [] := by
  cases cs with
  | nil => simp [splitAt]
  | cons c cs =>
    rw [splitAt]
    split
    · simp
    · split <;> simp

theorem mem_splitAt {sep : Char} {cs : List Char} : ∀ item ∈ splitAt sep cs, sep ∉ item := by
  induction cs with
  | nil => simp [splitAt]
  | cons c cs ih =>
    rw [splitAt]
    split
    · intro item h
      rcases List.mem_cons.1 h with rfl | h
      · simp
      · exact ih item h
    · next hc =>
      cases hs : splitAt sep cs with
      | nil => exact absurd hs (splitAt_ne_nil _ _)
      | cons first items =>
        rw [hs] at ih
        intro item h
        rcases List.mem_cons.1 h with rfl | h
        · have := ih first List.mem_cons_self
          simp [this, Ne.symm hc]
        · exact ih item (List.mem_cons_of_mem _ h)

/-- The texts between the occurrences of a character, the empty ones too. -/
def split (sep : Char) (s : String) : List String := (splitAt sep s.toList).map String.ofList

/-- Texts with a separator between them. -/
def joinWith (sep : String) (items : List String) : String := String.intercalate sep items

/-! ## Replacing marks -/

/-- The value of the first mark of the table that `cs` starts with, and the mark's length. -/
def markAt? (table : List (List Char × List Char)) (cs : List Char) :
    Option (List Char × Nat) :=
  table.findSome? fun e => (after? e.1 cs).map fun _ => (e.2, e.1.length)

/-- Put its value for each mark of the table, in one pass that never looks at what it put there;
`skip` characters of a mark that was just replaced are passed over. -/
def replaceFrom (table : List (List Char × List Char)) : (skip : Nat) → List Char → List Char
  | _, [] => []
  | skip + 1, _ :: cs => replaceFrom table skip cs
  | 0, c :: cs =>
    match markAt? table (c :: cs) with
    | some (value, size) => value ++ replaceFrom table (size - 1) cs
    | none => c :: replaceFrom table 0 cs

/-- Put `value` for every occurrence of `mark`. -/
def replaceAll (mark value s : String) : String :=
  String.ofList (replaceFrom [(mark.toList, value.toList)] 0 s.toList)

end KernelGate.Text
