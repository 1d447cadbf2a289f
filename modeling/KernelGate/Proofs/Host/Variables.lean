import KernelGate.Host.Variables
import KernelGate.Proofs.Text.Literals

/-!
# What a process finds among its variables

A variable that was set is found under its name. But what was set under a name that goes on with a
sign of equality behind it reads like a line for it too. Such echoes come after the line of the
variable itself, so that the system never sees them where the variable is set, while a shell takes
the last of them.

Main statements: `first?_ofDict` (what the system finds), `shell_ofDict` (what a shell finds),
`echoes_eq_nil_iff` (where a shell finds what was set).
-/

namespace KernelGate

namespace Variables

variable {name : String} {set : Dict String} {l : List (String × String)}

/-- A name without a sign of equality. -/
def IsPlain (name : String) : Prop := '=' ∉ name.toList

instance (name : String) : Decidable (IsPlain name) := inferInstanceAs (Decidable (_ ∉ _))

/-- What the line of an entry with a longer name says of a variable. -/
def echo? (name : String) (e : String × String) : Option String :=
  (Text.cutAt? "=" e.1).bind fun cut => if cut.1 = name then some (cut.2 ++ "=" ++ e.2) else none

/-- What the lines of longer names say of a variable. -/
def echoes (name : String) (set : Dict String) : List String := set.toList.filterMap (echo? name)

/-! ## Lines

A process is handed its variables as lines, with a sign of equality between name and value. A line
is read by cutting it at the first such sign, so that a name with a sign in it is not read back. -/

/-- A plain name is read back as it was. -/
theorem cutAt?_of_isPlain (h : IsPlain name) (rest : String) :
    Text.cutAt? "=" (name ++ "=" ++ rest) = some (name, rest) := by
  have hcut := @Text.cut?_of_not_mem '=' [] _ h rest.toList
  unfold Text.cutAt?
  rw [String.toList_append, String.toList_append, show "=".toList = ['='] from rfl, hcut]
  simp

theorem cutAt?_eq_none (h : IsPlain name) : Text.cutAt? "=" name = none := by
  unfold Text.cutAt?
  rw [show "=".toList = ['='] from rfl, Text.cut?_eq_none h]
  rfl

/-- A name has no sign of equality, or a first one. -/
theorem isPlain_or_split (key : String) :
    IsPlain key ∨ ∃ front rest, IsPlain front ∧ key = front ++ "=" ++ rest := by
  by_cases hmem : '=' ∈ key.toList
  · obtain ⟨front, rest, hkey, hfront⟩ := List.eq_append_cons_of_mem hmem
    refine .inr ⟨String.ofList front, String.ofList rest, by simpa [IsPlain] using hfront, ?_⟩
    apply String.toList_inj.1
    simp [hkey]
  · exact .inl hmem

/-- How an entry reads, as far as a variable is concerned. -/
inductive Reads (name : String) (e : String × String) : Prop where
  | itself : e.1 = name → Text.cutAt? "=" (e.1 ++ "=" ++ e.2) = some (name, e.2) →
      echo? name e = none → Reads name e
  /-- The name goes on with a sign of equality behind that of the variable. -/
  | echo {rest : String} : e.1 = name ++ "=" ++ rest →
      Text.cutAt? "=" (e.1 ++ "=" ++ e.2) = some (name, rest ++ "=" ++ e.2) →
      echo? name e = some (rest ++ "=" ++ e.2) → Reads name e
  | other {line : String × String} : e.1 ≠ name → (∀ rest, e.1 ≠ name ++ "=" ++ rest) →
      line.1 ≠ name → Text.cutAt? "=" (e.1 ++ "=" ++ e.2) = some line → echo? name e = none →
      Reads name e

/-- Every entry reads in one of the three ways. -/
theorem reads (hname : IsPlain name) (e : String × String) : Reads name e := by
  obtain ⟨key, value⟩ := e
  rcases isPlain_or_split key with hplain | ⟨front, rest, hfront, rfl⟩
  · have hread := cutAt?_of_isPlain hplain value
    have hecho : echo? name (key, value) = none := by simp [echo?, cutAt?_eq_none hplain]
    by_cases hkey : key = name
    · subst hkey
      exact .itself rfl hread hecho
    · refine .other hkey ?_ hkey hread hecho
      rintro rest rfl
      exact hplain (by simp)
  -- The line is cut at the first sign, so that the rest of the name is read with the value.
  · have hread : Text.cutAt? "=" (front ++ "=" ++ rest ++ "=" ++ value) =
        some (front, rest ++ "=" ++ value) := by
      have hcut := cutAt?_of_isPlain hfront (rest ++ "=" ++ value)
      simpa only [String.append_assoc] using hcut
    have hcut := cutAt?_of_isPlain hfront rest
    by_cases hsame : front = name
    · subst hsame
      exact .echo rfl hread (by simp [echo?, hcut])
    · refine .other ?_ ?_ hsame hread (by simp [echo?, hcut, hsame])
      · rintro rfl
        exact hname (by simp)
      · intro rest' hkey
        have hcut' := cutAt?_of_isPlain hname rest'
        rw [← hkey, hcut] at hcut'
        exact hsame (congrArg Prod.fst (Option.some.inj hcut'))

/-- A name that goes on behind another one comes after it. -/
theorem lt_append (name : String) (rest : String) : name < name ++ "=" ++ rest := by
  rw [String.lt_iff]
  simp only [String.toList_append, List.append_assoc]
  induction name.toList with
  | nil => exact List.nil_lt_cons _ _
  | cons c cs ih => exact List.cons_lt_cons_self.2 ih

theorem ne_of_echo {e : String × String} {rest : String} (h : e.1 = name ++ "=" ++ rest) :
    e.1 ≠ name := by
  rintro hkey
  have hlt := lt_append name rest
  rw [← h, hkey] at hlt
  exact String.lt_irrefl _ hlt

/-- Where the first entry is that of the variable or an echo of it, no later one is its own. -/
theorem find?_tail {e : String × String} (h : Entries.Sorted (e :: l))
    (he : e.1 = name ∨ ∃ rest, e.1 = name ++ "=" ++ rest) : Entries.find? name l = none := by
  refine Entries.find?_eq_none_of_lt fun a ha => ?_
  have hlt := (List.pairwise_cons.1 h).1 a ha
  rcases he with rfl | ⟨rest, hrest⟩
  · exact hlt
  · rw [hrest] at hlt
    exact String.lt_trans (lt_append name rest) hlt

/-! ## What is found

Entries stand in the order of their names. So all echoes of a variable come behind the variable
itself; the first line for it is its own if it is set, and the last one is an echo if there is any.
-/

/-- The lines of entries. -/
def linesOf (l : List (String × String)) : Variables :=
  l.filterMap fun e => Text.cutAt? "=" (e.1 ++ "=" ++ e.2)

theorem linesOf_cons {e line : String × String}
    (hread : Text.cutAt? "=" (e.1 ++ "=" ++ e.2) = some line) :
    linesOf (e :: l) = line :: linesOf l := List.filterMap_cons_some hread

theorem find?_cons_of_ne {e : String × String} (hkey : e.1 ≠ name) :
    Entries.find? name (e :: l) = Entries.find? name l := if_neg (Ne.symm hkey)

/-- The first line is that of the variable, or else of the first echo. -/
theorem first?_linesOf (hname : IsPlain name) (hsorted : Entries.Sorted l) :
    first? (linesOf l) name = (Entries.find? name l).or (l.filterMap (echo? name)).head? := by
  induction l with
  | nil => rfl
  | cons e rest ih =>
    cases reads hname e with
    | itself hkey hread hecho =>
      have hfind : Entries.find? name (e :: rest) = some e.2 := if_pos hkey.symm
      simp [linesOf_cons hread, first?, hfind]
    | echo hkey hread hecho =>
      have hne := ne_of_echo hkey
      rw [linesOf_cons hread, find?_cons_of_ne hne, find?_tail hsorted (.inr ⟨_, hkey⟩),
        List.filterMap_cons_some hecho]
      simp [first?]
    | other hkey _ hline hread hecho =>
      have hrest := ih (List.pairwise_cons.1 hsorted).2
      rw [find?_cons_of_ne hkey, List.filterMap_cons_none hecho, ← hrest]
      simp [linesOf_cons hread, first?, hline]

/-- A shell goes by a line unless a later one is for the same name. -/
theorem get?_shell_cons (line : String × String) (lines : Variables) (name : String) :
    (shell (line :: lines)).get? name =
      ((shell lines).get? name).or (if line.1 = name then some line.2 else none) := by
  unfold shell Dict.ofList
  simp only [Dict.get?_insertMany, Dict.get?_empty, Option.or_none, List.reverse_cons,
    List.find?_append, Option.map_or, List.find?_singleton]
  split <;> simp_all

/-- The last line is that of the last echo, or else of the variable. -/
theorem get?_shell_linesOf (hname : IsPlain name) (hsorted : Entries.Sorted l) :
    (shell (linesOf l)).get? name =
      (l.filterMap (echo? name)).getLast?.or (Entries.find? name l) := by
  induction l with
  | nil => rfl
  | cons e rest ih =>
    have hrest := ih (List.pairwise_cons.1 hsorted).2
    cases reads hname e with
    | itself hkey hread hecho =>
      have hfind : Entries.find? name (e :: rest) = some e.2 := if_pos hkey.symm
      rw [find?_tail hsorted (.inl hkey), Option.or_none] at hrest
      rw [linesOf_cons hread, get?_shell_cons, if_pos rfl, hrest, List.filterMap_cons_none hecho,
        hfind]
    | echo hkey hread hecho =>
      have hnone := find?_tail hsorted (.inr ⟨_, hkey⟩)
      rw [hnone, Option.or_none] at hrest
      rw [linesOf_cons hread, get?_shell_cons, if_pos rfl, hrest, List.filterMap_cons_some hecho,
        find?_cons_of_ne (ne_of_echo hkey), hnone, Option.or_none, List.getLast?_cons,
        Option.or_some]
    | other hkey _ hline hread hecho =>
      rw [linesOf_cons hread, get?_shell_cons, if_neg hline, Option.or_none, hrest,
        List.filterMap_cons_none hecho, find?_cons_of_ne hkey]

/-- The system finds what was set, and an echo only where nothing was. -/
theorem first?_ofDict (hname : IsPlain name) (set : Dict String) :
    first? (ofDict set) name = (set.get? name).or (echoes name set).head? :=
  first?_linesOf hname set.sorted

/-- A shell finds the last echo, and what was set only where there is none. -/
theorem shell_ofDict (hname : IsPlain name) (set : Dict String) :
    (shell (ofDict set)).get? name = (echoes name set).getLast?.or (set.get? name) :=
  get?_shell_linesOf hname set.sorted

/-- There are no echoes of a variable exactly if no name that was set goes on with a sign of
equality behind its own. -/
theorem echoes_eq_nil_iff (hname : IsPlain name) :
    echoes name set = [] ↔ ∀ rest, set.get? (name ++ "=" ++ rest) = none := by
  unfold echoes
  rw [List.filterMap_eq_nil_iff]
  constructor
  · intro h rest
    refine Option.eq_none_iff_forall_ne_some.2 fun value hget => ?_
    have hnone := h _ (Dict.mem_toList.2 hget)
    simp [echo?, cutAt?_of_isPlain hname] at hnone
  · intro h e he
    cases reads hname e with
    | itself _ _ hecho => exact hecho
    | echo hkey _ _ =>
      have hget := Dict.mem_toList.1 (show (e.1, e.2) ∈ set.toList from he)
      rw [hkey, h] at hget
      cases hget
    | other _ _ _ _ hecho => exact hecho

end Variables

end KernelGate
