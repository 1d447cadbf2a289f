import KernelGate.Proofs.Dict.Searching
import KernelGate.Proofs.Kernel.Catalog
import Mathlib.Data.List.Nodup

/-!
# Which lists of specs make a catalog

A list makes a catalog if each of its specs has a command and no name comes twice. `Declarable` says
this of the list, `Breaks` what a spec does wrong behind those before it, and `Catalog.Offers` what
a catalog that was made from a list shows of it.

`Catalog.Holds` is the invariant of the fold: the catalog has the specs that were added so far, each
under its own name. It turns the two checks of `Catalog.add` into conditions on the list.

Main statement: `Catalog.ofSpecs_iff`.
-/

namespace KernelGate

/-- Every spec has a command and no name comes twice. -/
structure Declarable (specs : List KernelSpec) : Prop where
  commands : ∀ spec ∈ specs, spec.argv ≠ []
  names : (specs.map (·.name)).Nodup

/-- What a spec does wrong behind those of `before`. If it has neither a command nor a new name, the
command counts. -/
inductive Breaks (before : List KernelSpec) (spec : KernelSpec) : ConfigFault → Prop
  | noCommand (h : spec.argv = []) : Breaks before spec (.emptyCommand spec.name)
  | sameName (hargv : spec.argv ≠ []) (hname : spec.name ∈ before.map (·.name)) :
      Breaks before spec .repeatedSpec

variable {specs before after : List KernelSpec} {spec : KernelSpec} {fault : ConfigFault}

theorem Declarable.nil : Declarable [] := ⟨nofun, List.nodup_nil⟩

theorem Declarable.left (h : Declarable (before ++ after)) : Declarable before := by
  constructor
  · exact fun spec hspec => h.commands spec (List.mem_append_left _ hspec)
  · have hnames := h.names
    rw [List.map_append, List.nodup_append] at hnames
    exact hnames.1

/-- A list can be declared if it could be without its last spec and this one does nothing wrong. -/
theorem declarable_snoc : Declarable (before ++ [spec]) ↔
    Declarable before ∧ spec.argv ≠ [] ∧ spec.name ∉ before.map (·.name) := by
  constructor
  · intro h
    have hnames := h.names
    rw [List.map_append, List.nodup_append] at hnames
    refine ⟨h.left, h.commands spec (List.mem_append_right _ (List.mem_singleton_self _)), ?_⟩
    exact fun hmem => hnames.2.2 _ hmem _ (List.mem_singleton_self _) rfl
  · rintro ⟨h, hargv, hname⟩
    constructor
    · intro other hother
      rw [List.mem_append, List.mem_singleton] at hother
      obtain hother | rfl := hother
      · exact h.commands other hother
      · exact hargv
    · rw [List.map_append, List.map_singleton, List.nodup_append]
      refine ⟨h.names, List.nodup_singleton _, ?_⟩
      rintro other hother _ hspec rfl
      rw [List.mem_singleton] at hspec
      exact hname (hspec ▸ hother)

/-- Behind specs that keep the rules, a spec keeps them too or breaks one. -/
theorem declarable_snoc_iff (h : Declarable before) :
    Declarable (before ++ [spec]) ↔ ∀ fault, ¬ Breaks before spec fault := by
  rw [declarable_snoc]
  constructor
  · rintro ⟨-, hargv, hname⟩ fault (h | ⟨-, hmem⟩)
    · exact hargv h
    · exact hname hmem
  · intro hnone
    have hargv : spec.argv ≠ [] := fun hargv => hnone _ (.noCommand hargv)
    exact ⟨h, hargv, fun hname => hnone _ (.sameName hargv hname)⟩

namespace Catalog

variable {c c' : Catalog}

/-- The catalog has the specs of the list and no others, each under its own name. -/
def Holds (c : Catalog) (specs : List KernelSpec) : Prop :=
  ∀ name spec, c.specs.get? name = some spec ↔ spec ∈ specs ∧ spec.name = name

/-- What a catalog shows of the list that it was made from. -/
structure Offers (c : Catalog) (specs : List KernelSpec) : Prop where
  /-- Nothing is lost, and nothing comes twice. -/
  perm : c.all.Perm specs
  sorted : c.all.Pairwise fun a b => a.name < b.name
  found : ∀ name spec, c.get name = .ok spec ↔ spec ∈ specs ∧ spec.name = name
  missing : ∀ name fault, c.get name = .error fault ↔
    fault = .spec name ∧ ∀ spec ∈ specs, spec.name ≠ name

/-! ### One spec

A catalog that holds the specs before knows their names. So the two checks of `add` are conditions
on the list, and which of them fails first is what `Breaks` says. -/

theorem Holds.contains_iff (h : c.Holds before) (name : String) :
    c.specs.contains name = true ↔ name ∈ before.map (·.name) := by
  rw [Dict.contains_iff, List.mem_map]
  exact exists_congr fun spec => h name spec

/-- A spec is refused for what it does wrong, and for the first of it. -/
theorem add_eq_error_iff (h : c.Holds before) :
    c.add spec = .error fault ↔ Breaks before spec fault := by
  unfold add
  by_cases hargv : spec.argv = []
  · rw [if_pos (List.isEmpty_iff.2 hargv)]
    constructor
    · rintro ⟨⟩
      exact .noCommand hargv
    · rintro (_ | ⟨hne, -⟩)
      · rfl
      · exact absurd hargv hne
  · rw [if_neg (fun hempty => hargv (List.isEmpty_iff.1 hempty))]
    by_cases hname : spec.name ∈ before.map (·.name)
    · rw [if_pos ((h.contains_iff _).2 hname)]
      constructor
      · rintro ⟨⟩
        exact .sameName hargv hname
      · rintro (hempty | _)
        · exact absurd hempty hargv
        · rfl
    · rw [if_neg (fun hcontains => hname ((h.contains_iff _).1 hcontains))]
      refine iff_of_false nofun ?_
      rintro (hempty | ⟨-, hmem⟩)
      · exact hargv hempty
      · exact hname hmem

theorem Holds.foldlM (h : c.Holds before) (hfold : specs.foldlM add c = .ok c') :
    c'.Holds (before ++ specs) := by
  intro name spec
  rw [get?_of_foldlM hfold, h name spec, List.mem_append, or_and_right]

/-- A spec that is added is held with those before. -/
theorem Holds.add (h : c.Holds before) (hadd : c.add spec = .ok c') :
    c'.Holds (before ++ [spec]) := by
  refine h.foldlM ?_
  rw [List.foldlM_cons, hadd]
  rfl

theorem declarable_of_add (h : c.Holds before) (hbefore : Declarable before)
    (hadd : c.add spec = .ok c') : Declarable (before ++ [spec]) := by
  refine (declarable_snoc_iff hbefore).2 fun fault hbreaks => ?_
  rw [(add_eq_error_iff h).2 hbreaks] at hadd
  cases hadd

/-! ### A whole list

The fold stops at the first spec that does something wrong. Up to there the catalog holds what was
added, and the list could be declared. -/

/-- A fold that comes through has found nothing wrong. -/
theorem declarable_of_foldlM (h : c.Holds before) (hbefore : Declarable before)
    (hfold : specs.foldlM add c = .ok c') : Declarable (before ++ specs) := by
  induction specs generalizing c before with
  | nil =>
    rw [List.append_nil]
    exact hbefore
  | cons spec rest ih =>
    rw [List.foldlM_cons] at hfold
    cases hadd : c.add spec with
    | error fault =>
      rw [hadd] at hfold
      cases hfold
    | ok added =>
      rw [hadd] at hfold
      rw [List.append_cons]
      exact ih (h.add hadd) (declarable_of_add h hbefore hadd) hfold

/-- By induction on the specs to come: a fold that fails does so at the first spec that breaks a
rule behind those before it. -/
theorem breaks_of_foldlM (h : c.Holds before) (hbefore : Declarable before)
    (hfold : specs.foldlM add c = .error fault) :
    ∃ mid spec after, specs = mid ++ spec :: after ∧ Declarable (before ++ mid) ∧
      Breaks (before ++ mid) spec fault := by
  induction specs generalizing c before with
  | nil => cases hfold
  | cons spec rest ih =>
    rw [List.foldlM_cons] at hfold
    cases hadd : c.add spec with
    | error _ =>
      rw [hadd] at hfold
      cases hfold
      refine ⟨[], spec, rest, rfl, ?_⟩
      rw [List.append_nil]
      exact ⟨hbefore, (add_eq_error_iff h).1 hadd⟩
    | ok added =>
      rw [hadd] at hfold
      obtain ⟨mid, culprit, after, rfl, hmid⟩ :=
        ih (h.add hadd) (declarable_of_add h hbefore hadd) hfold
      rw [← List.append_cons] at hmid
      exact ⟨spec :: mid, culprit, after, rfl, hmid⟩

theorem holds_empty : Catalog.Holds ⟨∅⟩ [] := fun _ _ => iff_of_false nofun nofun

theorem holds_of_ofSpecs (h : ofSpecs specs = .ok c) : c.Holds specs := holds_empty.foldlM h

theorem declarable_of_ofSpecs (h : ofSpecs specs = .ok c) : Declarable specs :=
  declarable_of_foldlM holds_empty .nil h

theorem breaks_of_ofSpecs (h : ofSpecs specs = .error fault) :
    ∃ before spec after, specs = before ++ spec :: after ∧ Declarable before ∧
      Breaks before spec fault :=
  breaks_of_foldlM holds_empty .nil h

/-- Conversely, a list that can be declared makes a catalog, since it breaks no rule. -/
theorem exists_ofSpecs_of_declarable (h : Declarable specs) : ∃ c, ofSpecs specs = .ok c := by
  cases hof : ofSpecs specs with
  | ok c => exact ⟨c, rfl⟩
  | error fault =>
    obtain ⟨before, spec, after, rfl, hbefore, hbreaks⟩ := breaks_of_ofSpecs hof
    rw [List.append_cons] at h
    exact absurd hbreaks ((declarable_snoc_iff hbefore).1 h.left fault)

/-- Nothing behind the first spec that breaks a rule matters. -/
theorem ofSpecs_of_breaks (hbefore : Declarable before) (hbreaks : Breaks before spec fault) :
    ofSpecs (before ++ spec :: after) = .error fault := by
  obtain ⟨c, hc⟩ := exists_ofSpecs_of_declarable hbefore
  have hadd : c.add spec = .error fault := (add_eq_error_iff (holds_of_ofSpecs hc)).2 hbreaks
  unfold ofSpecs at hc ⊢
  rw [List.foldlM_append, hc]
  show List.foldlM add c (spec :: after) = _
  rw [List.foldlM_cons, hadd]
  rfl

/-! ### What the catalog shows

A catalog keeps its specs by name, so that it shows them in the order of their names, whatever the
order of the list. -/

theorem Holds.sorted (h : c.Holds specs) : c.all.Pairwise fun a b => a.name < b.name := by
  unfold all Dict.values
  rw [List.pairwise_map]
  refine c.specs.sorted.imp_of_mem fun {a b} ha hb hlt => ?_
  rw [((h _ _).1 (Dict.mem_toList.1 ha)).2, ((h _ _).1 (Dict.mem_toList.1 hb)).2]
  exact hlt

theorem Holds.mem_all (h : c.Holds specs) : spec ∈ c.all ↔ spec ∈ specs := by
  refine Dict.mem_values.trans ⟨?_, fun hspec => ⟨spec.name, (h _ _).2 ⟨hspec, rfl⟩⟩⟩
  rintro ⟨name, hget⟩
  exact ((h _ _).1 hget).1

/-- What is held is offered, under its name and in order. -/
theorem offers_of_ofSpecs (h : ofSpecs specs = .ok c) : c.Offers specs where
  perm := by
    have hall : c.all.Nodup := by
      refine (holds_of_ofSpecs h).sorted.imp ?_
      rintro a _ hlt rfl
      exact String.lt_irrefl _ hlt
    have hspecs : specs.Nodup := (declarable_of_ofSpecs h).names.of_map _
    exact (List.perm_ext_iff_of_nodup hall hspecs).2 fun _ => (holds_of_ofSpecs h).mem_all
  sorted := (holds_of_ofSpecs h).sorted
  found _ _ := get_eq_ok_iff h
  missing _ _ := get_eq_error_iff h

theorem Offers.holds (h : c.Offers specs) : c.Holds specs := by
  intro name spec
  rw [← h.found, get]
  cases c.specs.get? name <;> simp

/-- Two catalogs that show the same are the same. -/
theorem Offers.unique (h : c.Offers specs) (h' : c'.Offers specs) : c = c' := by
  have hspecs : c.specs = c'.specs := by
    apply Dict.ext_get?
    intro name
    apply Option.ext
    intro spec
    rw [h.holds name spec, h'.holds name spec]
  exact congrArg Catalog.mk hspecs

/-- A list makes a catalog if and only if every spec has a command and all names are different. The
catalog shows the specs of the list in the order of their names, and finds each under its name.
Otherwise the first spec that breaks a rule says what is wrong. -/
theorem ofSpecs_iff (specs : List KernelSpec) :
    ((∃ c, ofSpecs specs = .ok c) ↔ Declarable specs) ∧
      (∀ c, ofSpecs specs = .ok c ↔ Declarable specs ∧ c.Offers specs) ∧
      ∀ fault, ofSpecs specs = .error fault ↔ ∃ before spec after,
        specs = before ++ spec :: after ∧ Declarable before ∧ Breaks before spec fault := by
  refine ⟨⟨?_, exists_ofSpecs_of_declarable⟩, fun c => ⟨?_, ?_⟩, fun fault => ⟨?_, ?_⟩⟩
  · rintro ⟨c, hc⟩
    exact declarable_of_ofSpecs hc
  · exact fun hc => ⟨declarable_of_ofSpecs hc, offers_of_ofSpecs hc⟩
  · rintro ⟨hspecs, hoffers⟩
    obtain ⟨c', hc'⟩ := exists_ofSpecs_of_declarable hspecs
    rw [hc', hoffers.unique (offers_of_ofSpecs hc')]
  · exact breaks_of_ofSpecs
  · rintro ⟨before, spec, after, rfl, hbefore, hbreaks⟩
    exact ofSpecs_of_breaks hbefore hbreaks

example : ofSpecs [.python, { KernelSpec.python with argv := [] }] =
    .error (.emptyCommand "python3") := by
  decide

end Catalog

end KernelGate
