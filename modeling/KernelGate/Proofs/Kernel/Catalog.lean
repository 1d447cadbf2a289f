import KernelGate.Kernel.Catalog

/-!
# What a catalog offers

A catalog that was made from a list of specs offers just these, each under its own name.

Main statement: `get_eq_ok_iff`.
-/

namespace KernelGate

namespace Catalog

variable {specs : List KernelSpec} {start catalog : Catalog} {name : String} {spec : KernelSpec}

/-- A spec that is added is found under its name, and the others are found as before. -/
theorem get?_of_add (h : start.add spec = .ok catalog) (name : String) :
    catalog.specs.get? name = if name = spec.name then some spec else start.specs.get? name := by
  unfold add at h
  split at h
  · cases h
  · split at h
    · cases h
    · cases h
      exact Dict.get?_insert ..

/-- Only a name that is new can be added. -/
theorem new_of_add (h : start.add spec = .ok catalog) : start.specs.get? spec.name = none := by
  unfold add at h
  split at h
  · cases h
  · split at h
    · cases h
    · next hnew => simpa [Dict.contains] using hnew

/-- Specs that are added one after another are all found. -/
theorem get?_of_foldlM (h : specs.foldlM add start = .ok catalog) :
    catalog.specs.get? name = some spec ↔
      start.specs.get? name = some spec ∨ spec ∈ specs ∧ spec.name = name := by
  induction specs generalizing start with
  | nil =>
    cases h
    simp
  | cons first rest ih =>
    rw [List.foldlM_cons] at h
    rcases hadd : start.add first with e | added
    · rw [hadd] at h
      cases h
    · rw [hadd] at h
      rw [ih h, get?_of_add hadd]
      -- The first spec has a name that no spec before it had.
      have hnew := new_of_add hadd
      by_cases hname : name = first.name
      · subst hname
        have hfirst : spec = first ∧ spec.name = first.name ↔ some first = some spec := by
          constructor
          · rintro ⟨rfl, -⟩
            rfl
          · rintro ⟨⟩
            exact ⟨rfl, rfl⟩
        simp only [hnew, ↓reduceIte, List.mem_cons, or_and_right, hfirst, reduceCtorEq, false_or]
      · have hfirst : ¬ (spec = first ∧ spec.name = name) := by
          rintro ⟨rfl, heq⟩
          exact hname heq.symm
        simp [hname, or_and_right, hfirst]

/-- A catalog offers the specs that it was made from. -/
theorem get_eq_ok_iff (h : ofSpecs specs = .ok catalog) :
    catalog.get name = .ok spec ↔ spec ∈ specs ∧ spec.name = name := by
  have hget : catalog.specs.get? name = some spec ↔ _ := get?_of_foldlM h
  rw [or_iff_right nofun] at hget
  rw [← hget]
  unfold get
  cases catalog.specs.get? name <;> simp

/-- A name is looked up in vain exactly if no spec has it. -/
theorem get_eq_error_iff (h : ofSpecs specs = .ok catalog) {e : LookupFault} :
    catalog.get name = .error e ↔ e = .spec name ∧ ∀ spec ∈ specs, spec.name ≠ name := by
  constructor
  · intro herror
    refine ⟨?_, fun spec hspec hname => ?_⟩
    · unfold get at herror
      split at herror
      · cases herror
      · cases herror
        rfl
    · rw [(get_eq_ok_iff h).2 ⟨hspec, hname⟩] at herror
      cases herror
  · rintro ⟨rfl, hnone⟩
    rcases hget : catalog.specs.get? name with _ | spec
    · simp only [get, hget]
    · have hok : catalog.get name = .ok spec := by simp only [get, hget]
      obtain ⟨hspec, hname⟩ := (get_eq_ok_iff h).1 hok
      exact absurd hname (hnone spec hspec)

theorem contains_of_ofSpecs (h : ofSpecs specs = .ok catalog) (name : String) :
    catalog.specs.contains name = true ↔ name ∈ specs.map (·.name) := by
  rw [Dict.contains_iff, List.mem_map]
  refine exists_congr fun spec => ?_
  rw [get?_of_foldlM h]
  exact or_iff_right nofun

end Catalog

end KernelGate
