import KernelGate.Proofs.Lifecycle.Prespawn
import KernelGate.Proofs.Registry.Restart

/-!
# What a start that fails leaves behind

A start that fails ends the kernels that it has launched, each once, and no other. Kernels that it
has taken over stay, with their records; of the kernels that it has launched only those keep their
records that could not be ended.

Main statement: `rolledBack_of_ends`.
-/

namespace KernelGate

open Activity Registry

/-! ## What calls come to

From the calls of a start two things are read: which kernels were launched, and which the launcher
was asked to end. Probes are neither. -/

/-- The launches that succeeded. -/
def launchesOf (calls : Calls) : List LaunchRequest :=
  calls.filterMap fun
    | (.launch request, some (.ok ())) => some request
    | _ => none

/-- The kernels that the launcher was asked to end, and what it answered. -/
def terminationsOf (calls : Calls) : List (KernelHandle × Reply) :=
  calls.filterMap fun
    | (.terminate kernel, reply) => some (kernel, reply)
    | _ => none

theorem launchesOf_append (calls calls' : Calls) :
    launchesOf (calls ++ calls') = launchesOf calls ++ launchesOf calls' :=
  List.filterMap_append

theorem terminationsOf_append (calls calls' : Calls) :
    terminationsOf (calls ++ calls') = terminationsOf calls ++ terminationsOf calls' :=
  List.filterMap_append

theorem mem_launchesOf {calls : Calls} {request : LaunchRequest} :
    request ∈ launchesOf calls ↔ (.launch request, some (.ok ())) ∈ calls := by
  unfold launchesOf
  rw [List.mem_filterMap]
  constructor
  · rintro ⟨⟨c, reply⟩, hmem, heq⟩
    split at heq
    · next hcall =>
      cases heq
      rwa [hcall] at hmem
    · cases heq
  · intro hmem
    exact ⟨_, hmem, rfl⟩

theorem mem_terminationsOf {calls : Calls} {kernel : KernelHandle} {reply : Reply} :
    (kernel, reply) ∈ terminationsOf calls ↔ (.terminate kernel, reply) ∈ calls := by
  unfold terminationsOf
  rw [List.mem_filterMap]
  constructor
  · rintro ⟨⟨c, reply'⟩, hmem, heq⟩
    split at heq
    · next hcall =>
      cases heq
      rwa [hcall] at hmem
    · cases heq
  · intro hmem
    exact ⟨_, hmem, rfl⟩

/-- The kernels that a run has launched are those of the launches that succeeded. -/
theorem launched_historyOf {calls : Calls} {id : String} :
    (historyOf calls).Launched id ↔ ∃ request ∈ launchesOf calls, request.handle.id = id := by
  have hmem : ∀ request : LaunchRequest,
      (LauncherCall.launch request, CallFate.answered (some (.ok ()))) ∈ historyOf calls ↔
        request ∈ launchesOf calls := by
    intro request
    rw [mem_launchesOf]
    unfold historyOf
    rw [List.mem_map]
    constructor
    · rintro ⟨⟨c, reply⟩, hcall, heq⟩
      cases heq
      exact hcall
    · intro hcall
      exact ⟨_, hcall, rfl⟩
  unfold History.Launched
  simp only [hmem]

/-- Kernels that wait for clients were launched. -/
theorem launchesOf_spawns (made : List Spawn) :
    launchesOf (made.map Spawn.call) = made.map (·.request) := by
  unfold launchesOf
  rw [List.filterMap_map, ← List.filterMap_eq_map]
  rfl

theorem terminationsOf_spawns (made : List Spawn) : terminationsOf (made.map Spawn.call) = [] := by
  unfold terminationsOf
  rw [List.filterMap_map, List.filterMap_eq_nil_iff]
  intro s _
  rfl

theorem launchesOf_terminations (answers : Answers) : launchesOf answers.terminations = [] := by
  unfold launchesOf Answers.terminations
  rw [List.filterMap_map, List.filterMap_eq_nil_iff]
  intro a _
  rfl

/-- Each kernel that is to be ended is asked for once, with its answer. -/
theorem terminationsOf_terminations (answers : Answers) :
    terminationsOf answers.terminations = answers.map fun a => (a.1, some a.2) := by
  unfold terminationsOf Answers.terminations
  rw [List.filterMap_map, ← List.filterMap_eq_map]
  rfl

/-- Whoever only asks after kernels launches none and ends none. -/
theorem of_probes {calls : Calls} (h : ∀ e ∈ calls, e.1.kind = .probe) :
    launchesOf calls = [] ∧ terminationsOf calls = [] := by
  unfold launchesOf terminationsOf
  rw [List.filterMap_eq_nil_iff, List.filterMap_eq_nil_iff]
  constructor <;>
  · rintro ⟨c, reply⟩ hmem
    have hkind : c.kind = .probe := h _ hmem
    cases c with
    | launch request | terminate kernel => cases hkind
    | probe kernel => rfl

namespace Registry

variable {S : Type} [SessionStore S] {Usable : String → Prop}
  {Holds : S → Dict SessionRecord → Prop} {supply : Supply} {calls : Calls}
  {r r₁ r' : Registry S} {d d₁ : Dict SessionRecord} {made : List Spawn}

/-- What is left when the kernels that were launched over others have been ended: each was asked for
once, the others were not, and there are the records of these and of those that did not end. -/
structure RolledBack (r : Registry S) (d : Dict SessionRecord) (made : List Spawn)
    (terminated : List (KernelHandle × Reply)) (d' : Dict SessionRecord) : Prop where
  distinct : (made.map Spawn.id).Nodup
  once : (terminated.map (·.1)).Perm (made.map (·.request.handle))
  spared : ∀ e ∈ terminated, r.fleet.kernels.contains e.1.id = false
  records : ∀ session record, d'.get? session = some record ↔ d.get? session = some record ∨
    ∃ s ∈ made, (∃ e, (s.request.handle, some (.error e)) ∈ terminated) ∧
      s.session = session ∧ s.record = record

omit [SessionStore S] in
/-- Just the kernels that were launched count as started. -/
theorem Spawned.mem_started (h : Spawned r d made r₁ d₁)
    (hr₁ : InStep Holds supply (historyOf calls) r₁ [] d₁)
    (hcalls : launchesOf calls = made.map (·.request)) (id : String) :
    id ∈ r₁.started.keys ↔ ∃ s ∈ made, s.id = id := by
  rw [Dict.mem_keys, hr₁.started, launched_historyOf, hcalls, hr₁.handleOf_eq]
  constructor
  · rintro ⟨-, request, hmem, hid⟩
    obtain ⟨s, hs, rfl⟩ := List.mem_map.1 hmem
    exact ⟨s, hs, hid⟩
  · rintro ⟨s, hs, rfl⟩
    rw [h.tracked s hs]
    exact ⟨rfl, s.request, List.mem_map_of_mem hs, rfl⟩

omit [SessionStore S] in
/-- Where the launched kernels were asked to end, it was under the handles that they were launched
with. -/
theorem Spawned.asked_iff (h : Spawned r d made r₁ d₁) {answers : Answers}
    (hids : ∀ id, id ∈ answers.map (·.1.id) ↔ ∃ s ∈ made, s.id = id)
    (hasked : ∀ a ∈ answers, r₁.fleet.get? a.1.id = some a.1) (k : KernelHandle) :
    (∃ a ∈ answers, a.1 = k) ↔ ∃ s ∈ made, s.request.handle = k := by
  constructor
  · rintro ⟨a, ha, rfl⟩
    obtain ⟨s, hs, hid⟩ := (hids _).1 (List.mem_map_of_mem ha)
    have hhandle := h.tracked s hs
    rw [hid, hasked a ha] at hhandle
    exact ⟨s, hs, (Option.some.inj hhandle).symm⟩
  · rintro ⟨s, hs, rfl⟩
    obtain ⟨a, ha, hid⟩ := List.mem_map.1 ((hids _).2 ⟨s, hs, rfl⟩)
    have hhandle := hasked a ha
    rw [show a.1.id = s.id from hid, h.tracked s hs] at hhandle
    exact ⟨a, ha, (Option.some.inj hhandle).symm⟩

omit [SessionStore S] in
/-- The kernels that were launched are not among those tracked before. -/
theorem Spawned.not_contains (h : Spawned r d made r₁ d₁) {s : Spawn} (hs : s ∈ made) :
    r.fleet.kernels.contains s.id = false := by
  rw [Dict.contains, h.apart s hs]
  rfl

omit [SessionStore S] in
/-- Of the launched kernels just those keep their records that could not be ended; all records from
before are kept. -/
theorem Spawned.get?_recordsWithout (hr : InStep Holds supply [] r [] d)
    (h : Spawned r d made r₁ d₁) {answers : Answers} (hnodup : (answers.map (·.1.id)).Nodup)
    (hasked : ∀ k, (∃ a ∈ answers, a.1 = k) ↔ ∃ s ∈ made, s.request.handle = k)
    (session : String) (record : SessionRecord) :
    (recordsWithout d₁ answers.stopped).get? session = some record ↔
      d.get? session = some record ∨
        ∃ s ∈ made, (∃ e, (s.request.handle, .error e) ∈ answers) ∧ s.session = session ∧
          s.record = record := by
  have hfailed : ∀ s ∈ made, (s.request.handle.id ∉ answers.stopped ↔
      ∃ e, (s.request.handle, .error e) ∈ answers) := by
    intro s hs
    obtain ⟨⟨k, answer⟩, ha, rfl⟩ := (hasked s.request.handle).2 ⟨s, hs, rfl⟩
    rw [Answers.not_mem_stopped hnodup ha]
    constructor
    · rintro ⟨e, rfl⟩
      exact ⟨e, ha⟩
    · rintro ⟨e, he⟩
      exact ⟨e, congrArg Prod.snd (List.inj_on_of_nodup_map hnodup ha he rfl)⟩
  rw [Registry.get?_recordsWithout, Option.filter_eq_some_iff, h.records, or_and_right,
    decide_eq_true_eq]
  refine or_congr ?_ ?_
  · -- A record from before is of a kernel that was tracked before, and that nobody has ended.
    refine ⟨And.left, fun hget => ⟨hget, fun hstopped => ?_⟩⟩
    have hold : r.fleet.kernels.contains record.kernel.id = true := by
      rw [Fleet.contains_eq_isSome, ← hr.handleOf_eq, isSome_handleOf_iff]
      exact ⟨record, Dict.mem_values.2 ⟨session, hget⟩, rfl⟩
    obtain ⟨a, ha, hid⟩ := List.mem_map.1 hstopped
    obtain ⟨s, hs, hk⟩ := (hasked a.1).1 ⟨a, (List.mem_filter.1 ha).1, rfl⟩
    have hnew := h.not_contains hs
    rw [show s.id = a.1.id from congrArg KernelHandle.id hk, hid, hold] at hnew
    cases hnew
  · constructor
    · rintro ⟨⟨s, hs, rfl, rfl⟩, hkept⟩
      exact ⟨s, hs, (hfailed s hs).1 hkept, rfl, rfl⟩
    · rintro ⟨s, hs, herror, rfl, rfl⟩
      exact ⟨⟨s, hs, rfl, rfl⟩, (hfailed s hs).2 herror⟩

/-- Ending all kernels that were launched takes the launches back. -/
theorem rolledBack_of_ends (hs : Reliable Usable Holds) (hr : InStep Holds supply [] r [] d)
    (h : Spawned r d made r₁ d₁) {launches : Calls}
    (hr₁ : InStep Holds supply (historyOf launches) r₁ [] d₁)
    (hlaunches : launchesOf launches = made.map (·.request))
    (hends : shutdownStarted.Ends Passes r₁ calls r' ()) :
    ∃ answers d', calls = Answers.terminations answers ∧ Holds r'.store d' ∧
      RolledBack r d made (terminationsOf calls) d' := by
  have hstarted := h.mem_started hr₁ hlaunches
  obtain ⟨n, hshut, -⟩ := ends_map_iff.1 (ends_look_bind_iff.1 hends)
  have htracked : ∀ id ∈ r₁.started.keys, r₁.fleet.kernels.contains id = true := by
    intro id hid
    obtain ⟨s, hs, rfl⟩ := (hstarted id).1 hid
    rw [Fleet.contains_eq_isSome, h.tracked s hs]
    rfl
  obtain ⟨answers, d', hids, rfl, -, hr', heach⟩ :=
    shutEach_of_ends hs r₁.started.nodup_keys htracked hr₁ hshut
  have hnodup : (answers.map (·.1.id)).Nodup := by
    rw [hids]
    exact r₁.started.nodup_keys
  have hasked := h.asked_iff (hids ▸ hstarted) heach.asked
  rw [terminationsOf_terminations]
  refine ⟨answers, d', rfl, hr'.store, h.distinct, ?_, ?_, fun session record => ?_⟩
  -- Each kernel is asked for once, and just those that were made are: so the lists
  -- agree up to order.
  · have hhandles : ((answers.map fun a => (a.1, some a.2)).map (·.1)).Nodup := by
      refine List.Nodup.of_map (·.id) ?_
      rwa [List.map_map, List.map_map]
    have hmade : (made.map (·.request.handle)).Nodup := by
      refine List.Nodup.of_map (·.id) ?_
      rw [List.map_map]
      exact h.distinct
    refine (List.perm_ext_iff_of_nodup hhandles hmade).2 fun k => ?_
    rw [List.map_map, List.mem_map, List.mem_map]
    exact hasked k
  · intro e he
    obtain ⟨a, ha, rfl⟩ := List.mem_map.1 he
    obtain ⟨s, hs, hk⟩ := (hasked a.1).1 ⟨a, ha, rfl⟩
    show r.fleet.kernels.contains a.1.id = false
    rw [← hk]
    exact h.not_contains hs
  · have hreply : ∀ k (x : Result Unit),
        (k, some x) ∈ answers.map (fun a => (a.1, some a.2)) ↔ (k, x) ∈ answers := by
      intro k x
      simp [List.mem_map]
    rw [heach.records, h.get?_recordsWithout hr hnodup hasked]
    simp only [hreply]

end Registry

end KernelGate
