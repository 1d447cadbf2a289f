import KernelGate.Proofs.Fleet.Naming
import KernelGate.Proofs.Registry.Errand
import KernelGate.Proofs.Registry.Recovery

/-!
# Records keep up with kernels

While any number of errands are under way, there are records of just the kernels that are tracked or
are being ended, and the first record of a kernel, in the order of sessions, says how the kernel is
reached. A kernel that is being ended is in none of the maps for a while; its records stay until it
has ended.

Main statements: `Registry.InStep` is what carries this; `InStep.admitted` and `InStep.taken` keep
it when an errand begins to wait, `InStep.launch_succeeded`, `InStep.shutdown_succeeded` and the
lemmas beside them when it is answered.
-/

namespace KernelGate

theorem NameSet.contains_add (s : NameSet) (name other : String) :
    (s.add name).contains other = true ↔ name = other ∨ s.contains other = true := by
  rw [NameSet.add, Dict.contains_insert, eq_comm]

/-! ## How records say that kernels are reached

Several records may be of one kernel, if it was taken over more than once. The first of them counts,
and the others say nothing. -/

/-- How a kernel is reached: as its first record says, in the order of sessions. -/
def handleOf (d : Dict SessionRecord) (id : String) : Option KernelHandle :=
  (d.values.find? fun record => record.kernel.id = id).map (·.kernel)

section

variable {d : Dict SessionRecord} {id : String}

theorem id_of_handleOf {h : KernelHandle} (hh : handleOf d id = some h) : h.id = id := by
  obtain ⟨record, hfind, rfl⟩ := Option.map_eq_some_iff.1 hh
  have hid := List.find?_some hfind
  exact of_decide_eq_true hid

/-- A kernel has a handle if there is any record of it. -/
theorem isSome_handleOf_iff :
    (handleOf d id).isSome = true ↔ ∃ record ∈ d.values, record.kernel.id = id := by
  rw [handleOf, Option.isSome_map, List.find?_isSome]
  simp only [decide_eq_true_eq]

/-- A record of a kernel that had none makes known how this one is reached, wherever its session
stands among the others. -/
theorem handleOf_insert {session : String} {record : SessionRecord}
    (hsession : d.get? session = none) (hkernel : handleOf d record.kernel.id = none) :
    handleOf (d.insert session record) id =
      if id = record.kernel.id then some record.kernel else handleOf d id := by
  unfold handleOf
  split
  · next hid =>
    have hnone := Option.map_eq_none_iff.1 hkernel
    rw [hid, Dict.find?_values_insert_self hsession (decide_eq_true rfl) hnone]
    rfl
  · next hid => rw [Dict.find?_values_insert hsession (decide_eq_false (Ne.symm hid))]

/-- To forget a kernel leaves the others with the records that they had. -/
theorem handleOf_filter (kernel : String) :
    handleOf (d.filter fun _ record => record.kernel.id != kernel) id =
      if id = kernel then none else handleOf d id := by
  unfold handleOf
  rw [Dict.values_filter d fun record => record.kernel.id != kernel, List.find?_filter]
  split
  · next hid =>
    subst hid
    rw [Option.map_eq_none_iff, List.find?_eq_none]
    intro record _
    simp
  · next hid =>
    congr 2
    funext record
    by_cases hrecord : record.kernel.id = id
    · simp [hrecord, hid]
    · simp [hrecord]

end

/-! ## Kernels in hand

A kernel that is being ended is still in hand, though the fleet does not track it: its records stay
until it is known to have ended. -/

namespace Fleet

/-- A kernel is tracked, or is being ended. -/
def Traffic.InHand (t : Traffic) (h : KernelHandle) : Prop :=
  t.fleet.get? h.id = some h ∨ ∃ k, .ending k ∈ t.stages ∧ k.handle = h

section

variable {f g : Fleet} {stages rest : List Stage} {h : KernelHandle}

theorem get?_congr (hg : g.kernels = f.kernels) (id : String) : g.get? id = f.get? id := by
  unfold Fleet.get?
  rw [hg]

theorem inHand_congr (hg : g.kernels = f.kernels) :
    Traffic.InHand ⟨g, stages⟩ h ↔ Traffic.InHand ⟨f, stages⟩ h := by
  unfold Traffic.InHand
  rw [get?_congr hg]

theorem inHand_perm {stages' : List Stage} (hperm : stages.Perm stages') :
    Traffic.InHand ⟨f, stages⟩ h ↔ Traffic.InHand ⟨f, stages'⟩ h := by
  unfold Traffic.InHand
  simp only [hperm.mem_iff]

/-- A kernel that is being launched is in nobody's hands yet. -/
theorem inHand_launching {request : LaunchRequest} :
    Traffic.InHand ⟨f, .launching request :: rest⟩ h ↔ Traffic.InHand ⟨f, rest⟩ h := by
  unfold Traffic.InHand
  simp

/-- A kernel that waits to be ended is in hand for that reason. -/
theorem inHand_ending {k : Tracked} :
    Traffic.InHand ⟨f, .ending k :: rest⟩ h ↔ Traffic.InHand ⟨f, rest⟩ h ∨ h = k.handle := by
  have hending : (∃ k', .ending k' ∈ .ending k :: rest ∧ k'.handle = h) ↔
      (∃ k', .ending k' ∈ rest ∧ k'.handle = h) ∨ h = k.handle := by
    simp only [List.mem_cons, Stage.ending.injEq]
    grind
  unfold Traffic.InHand
  rw [hending, or_assoc]

/-- A kernel that is put in comes to those that were in hand. -/
theorem inHand_insert {k : Tracked} (hnone : f.kernels.get? k.handle.id = none)
    (hg : g.kernels = f.kernels.insert k.handle.id k) :
    Traffic.InHand ⟨g, rest⟩ h ↔ Traffic.InHand ⟨f, rest⟩ h ∨ h = k.handle := by
  have htracked : g.get? h.id = some h ↔ f.get? h.id = some h ∨ h = k.handle := by
    rw [get?_of_kernels hnone hg]
    have hfree : f.get? k.handle.id = none := by rw [Fleet.get?, hnone]; rfl
    by_cases heq : k.handle.id = h.id
    · rw [if_pos heq, ← heq, hfree]
      simp [eq_comm]
    · have hne : h ≠ k.handle := by
        rintro rfl
        exact heq rfl
      simp [heq, hne]
  unfold Traffic.InHand
  rw [htracked]
  exact or_right_comm

/-- A kernel that is taken away to be ended stays in hand. -/
theorem inHand_taken {id : String} {k : Tracked} (hget : f.kernels.get? id = some k)
    (hid : k.handle.id = id) (hg : g.kernels = f.kernels.erase id) :
    Traffic.InHand ⟨g, .ending k :: rest⟩ h ↔ Traffic.InHand ⟨f, rest⟩ h := by
  have hhandle : f.get? id = some k.handle := by rw [Fleet.get?, hget]; rfl
  have htracked : f.get? h.id = some h ↔ g.get? h.id = some h ∨ h = k.handle := by
    unfold Fleet.get? at hhandle ⊢
    rw [hg, Dict.get?_erase]
    by_cases heq : h.id = id
    · rw [if_pos heq, heq, hhandle]
      simp [eq_comm]
    · have hne : h ≠ k.handle := by
        rintro rfl
        exact heq hid
      simp [heq, hne]
  rw [inHand_ending]
  unfold Traffic.InHand
  rw [htracked]
  exact or_right_comm

/-- A kernel that could not be ended stays in hand. -/
theorem inHand_kept {k : Tracked} (hnone : f.kernels.get? k.handle.id = none)
    (hg : g.kernels = f.kernels.insert k.handle.id k) :
    Traffic.InHand ⟨g, rest⟩ h ↔ Traffic.InHand ⟨f, .ending k :: rest⟩ h :=
  (inHand_insert hnone hg).trans inHand_ending.symm

/-- A kernel that has ended is in nobody's hands. -/
theorem inHand_ended {k : Tracked} (hsound : Traffic.Sound ⟨f, .ending k :: rest⟩) :
    Traffic.InHand ⟨f, rest⟩ h ↔
      Traffic.InHand ⟨f, .ending k :: rest⟩ h ∧ h.id ≠ k.handle.id := by
  obtain ⟨hother, -⟩ := List.nodup_cons.1 hsound.apart
  have hnone : f.kernels.get? k.handle.id = none := hsound.untracked _ List.mem_cons_self
  have hne : Traffic.InHand ⟨f, rest⟩ h → h.id ≠ k.handle.id := by
    rintro (htracked | ⟨k', hk', rfl⟩) heq
    · rw [heq, Fleet.get?, hnone] at htracked
      cases htracked
    · exact hother (List.mem_map.2 ⟨_, hk', heq⟩)
  rw [inHand_ending]
  constructor
  · intro hhand
    exact ⟨.inl hhand, hne hhand⟩
  · rintro ⟨hhand | rfl, hid⟩
    · exact hhand
    · exact absurd rfl hid

end

end Fleet

/-! ## In step

The records are of the kernels in hand and no others. Steps that change neither kernels nor records
keep this. -/

/-- Names are given once, and are none that the records know. -/
structure Supply.FreshFor (supply : Supply) (d : Dict SessionRecord) : Prop where
  kernels : Function.Injective supply.kernelId
  sessions : Function.Injective supply.sessionId
  unused : ∀ n, ∀ record ∈ d.values, record.kernel.id ≠ supply.kernelId n
  unnamed : ∀ n, d.get? (supply.sessionId n) = none

namespace Registry

variable {S : Type} {Holds : S → Dict SessionRecord → Prop} {log : History} {r : Registry S}
  {stages rest : List Fleet.Stage} {d : Dict SessionRecord} {g : Fleet} {supply : Supply}

/-- Records, kernels, and the names of what this run has launched agree. -/
structure InStep (Holds : S → Dict SessionRecord → Prop) (supply : Supply) (log : History)
    (r : Registry S) (stages : List Fleet.Stage) (d : Dict SessionRecord) : Prop where
  sound : Fleet.Traffic.Sound ⟨r.fleet, stages⟩
  named : Fleet.Traffic.Named supply log ⟨r.fleet, stages⟩
  store : Holds r.store d
  recorded : ∀ h, handleOf d h.id = some h ↔ Fleet.Traffic.InHand ⟨r.fleet, stages⟩ h
  started : ∀ id, r.started.contains id = true ↔ (handleOf d id).isSome = true ∧ log.Launched id
  /-- Sessions that are still to be named have no records. -/
  unnamed : ∀ n, r.named ≤ n → d.get? (supply.sessionId n) = none

namespace InStep

theorem perm {stages' : List Fleet.Stage} (h : InStep Holds supply log r stages d)
    (hperm : stages.Perm stages') : InStep Holds supply log r stages' d where
  sound := h.sound.perm hperm
  named := h.named.perm hperm
  store := h.store
  recorded := by
    intro k
    rw [← Fleet.inHand_perm hperm]
    exact h.recorded k
  started := h.started
  unnamed := h.unnamed

/-- What is kept of a fleet whose kernels, ledger and names are as they were. -/
theorem congr (h : InStep Holds supply log r stages d)
    (hg : r.fleet.Becomes r.fleet.kernels r.fleet.ledger g) (hsupply : g.supply = r.fleet.supply)
    (hnamed : g.named = r.fleet.named) :
    InStep Holds supply log { r with fleet := g } stages d where
  sound := h.sound.congr hg
  named := h.named.congr hg.kernels hsupply hnamed
  store := h.store
  recorded := by
    intro k
    rw [Fleet.inHand_congr hg.kernels]
    exact h.recorded k
  started := h.started
  unnamed := h.unnamed

theorem aside {r' : Registry S} (h : InStep Holds supply log r stages d) (haside : Aside r r') :
    InStep Holds supply log r' stages d := by
  obtain ⟨metrics, now, rfl⟩ := haside
  exact h.congr ⟨rfl, rfl, rfl⟩ rfl rfl

/-! ### Errands that begin to wait -/

/-- A call begins to wait, and the kernels in hand stay the same. -/
theorem joined {s : Fleet.Stage} (h : InStep Holds supply log r stages d)
    (hsound : Fleet.Traffic.Sound ⟨g, stages ++ [s]⟩)
    (hnamed : Fleet.Traffic.Named supply log ⟨g, s :: stages⟩)
    (hhand : ∀ k, Fleet.Traffic.InHand ⟨g, s :: stages⟩ k ↔
      Fleet.Traffic.InHand ⟨r.fleet, stages⟩ k) :
    InStep Holds supply log { r with fleet := g } (s :: stages) d where
  sound := hsound.perm (List.perm_append_singleton _ _)
  named := hnamed
  store := h.store
  recorded := by
    intro k
    rw [hhand]
    exact h.recorded k
  started := h.started
  unnamed := h.unnamed

/-- A launch that waits has a name and a slot, but no kernel in hand yet and no record. -/
theorem admitted (h : InStep Holds supply log r stages d)
    (hinjective : Function.Injective supply.kernelId) {spec : KernelSpec} {p : LaunchParams}
    {request : LaunchRequest} (hadmission : r.fleet.admitLaunch spec p = (g, .ok request)) :
    InStep Holds supply log { r with fleet := g } (.launching request :: stages) d := by
  obtain ⟨hg, -⟩ := Fleet.becomes_of_admitLaunch hadmission
  obtain ⟨hfree, hnew⟩ := h.named.free_of_admitted hadmission
  apply h.joined (h.sound.admitted hfree hnew hg) (h.named.admitted hinjective hadmission)
  intro k
  rw [Fleet.inHand_launching, Fleet.inHand_congr hg.kernels]

/-- A kernel that is taken away to be ended keeps its records. -/
theorem taken (h : InStep Holds supply log r stages d) {id : String} {k : Tracked}
    (hbegin : r.fleet.beginShutdown id = (g, .ok k)) :
    k.handle.id = id ∧ InStep Holds supply log { r with fleet := g } (.ending k :: stages) d := by
  obtain ⟨hget, hg, -⟩ := Fleet.becomes_of_beginShutdown hbegin
  have hid : k.handle.id = id := h.sound.keyed id k hget
  refine ⟨hid, h.joined (h.sound.taken hget hg) (h.named.taken h.sound.keyed hbegin) ?_⟩
  intro k'
  exact Fleet.inHand_taken hget hid hg.kernels

/-! ### Errands that are answered -/

section

variable {s : Fleet.Stage} {answer : Result Unit}

/-- The balance of the ledger is kept by an answer, as it is without records. -/
theorem sound_settle (h : InStep Holds supply log r (s :: rest) d)
    (hg : s.settle (some answer) r.fleet = g) : Fleet.Traffic.Sound ⟨g, rest⟩ := by
  rw [← hg]
  exact h.sound.outcome (Fleet.outcome_settle r.fleet s (some answer))

/-- A call is over, and kernels, records and names are as they were. -/
theorem settled (h : InStep Holds supply log r (s :: rest) d)
    (hsound : Fleet.Traffic.Sound ⟨g, rest⟩) (hsupply : g.supply = r.fleet.supply)
    (hnamed : g.named = r.fleet.named)
    (hhand : ∀ k, Fleet.Traffic.InHand ⟨g, rest⟩ k ↔ Fleet.Traffic.InHand ⟨r.fleet, s :: rest⟩ k)
    (hfree : ∀ id, r.fleet.kernels.get? id = none → id ≠ s.id → g.kernels.get? id = none)
    {e : LauncherCall × CallFate}
    (he : ∀ request, e ≠ (.launch request, .answered (some (.ok ())))) :
    InStep Holds supply (log ++ [e]) { r with fleet := g } rest d where
  sound := hsound
  named := h.named.settled hsupply hnamed hfree fun id hid =>
    .inl ((History.launched_append_iff_of_ne he).1 hid)
  store := h.store
  recorded := by
    intro k
    rw [hhand]
    exact h.recorded k
  started := by
    intro id
    rw [History.launched_append_iff_of_ne he]
    exact h.started id
  unnamed := h.unnamed

/-- A launch that failed was never on record. -/
theorem launch_failed {request : LaunchRequest} {e : Fault}
    (h : InStep Holds supply log r (.launching request :: rest) d)
    (hsettle : r.fleet.settleLaunch request answer = (g, .error e)) :
    InStep Holds supply (log ++ [(.launch request, .answered (some answer))]) { r with fleet := g }
      rest d := by
  obtain ⟨rfl, hsupply, hnamed, hkernels⟩ := Fleet.becomes_of_settleLaunch_error hsettle
  refine h.settled (h.sound_settle (congrArg Prod.fst hsettle)) hsupply hnamed ?_ ?_ nofun
  · intro k
    rw [Fleet.inHand_launching]
    exact Fleet.inHand_congr hkernels
  · intro id hnone _
    rw [hkernels]
    exact hnone

/-- A kernel that could not be ended is tracked again, and its records are still there. -/
theorem shutdown_failed {kernel : Tracked} {e : Fault}
    (h : InStep Holds supply log r (.ending kernel :: rest) d)
    (hsettle : r.fleet.settleShutdown kernel answer = (g, .error e)) :
    InStep Holds supply (log ++ [(.terminate kernel.handle, .answered (some answer))])
      { r with fleet := g } rest d := by
  obtain ⟨hsupply, hnamed, hkernels⟩ := Fleet.becomes_of_settleShutdown_error hsettle
  have hnone : r.fleet.kernels.get? kernel.handle.id = none :=
    h.sound.untracked _ List.mem_cons_self
  refine h.settled (h.sound_settle (congrArg Prod.fst hsettle)) hsupply hnamed ?_ ?_ nofun
  · intro k
    exact Fleet.inHand_kept hnone hkernels
  · intro id hget hne
    have hother : id ≠ kernel.handle.id := hne
    rw [hkernels, Dict.get?_insert_of_ne _ _ hother]
    exact hget

/-- There is no record of a kernel that is being launched. -/
theorem handleOf_launching {request : LaunchRequest}
    (h : InStep Holds supply log r (.launching request :: rest) d) :
    handleOf d request.handle.id = none := by
  have hnone : r.fleet.kernels.get? request.handle.id = none :=
    h.sound.untracked _ List.mem_cons_self
  obtain ⟨hother, -⟩ := List.nodup_cons.1 h.sound.apart
  -- A record would be of a kernel in hand, and nobody else waits for this one.
  refine Option.eq_none_iff_forall_ne_some.2 fun k hk => ?_
  have hid := id_of_handleOf hk
  rw [← hid] at hk
  rcases Fleet.inHand_launching.1 ((h.recorded k).1 hk) with htracked | ⟨k', hk', rfl⟩
  · rw [hid, Fleet.get?, hnone] at htracked
    cases htracked
  · exact hother (List.mem_map.2 ⟨_, hk', hid⟩)

variable [SessionStore S] {Usable : String → Prop}

/-- A kernel that runs gets a record, under a session that had none. -/
theorem launch_succeeded (hs : Reliable Usable Holds)
    (hinjective : Function.Injective supply.sessionId)
    (husable : ∀ n, Usable (supply.sessionId n)) {request : LaunchRequest}
    {k : KernelHandle} {params : LaunchParams}
    (h : InStep Holds supply log r (.launching request :: rest) d)
    (hsettle : r.fleet.settleLaunch request answer = (g, .ok k)) :
    ∃ d', InStep Holds supply (log ++ [(.launch request, .answered (some answer))])
      (enlist { r with fleet := g } k params).1 rest d' := by
  obtain ⟨rfl, rfl, hsupply, hnamed, hg⟩ := Fleet.becomes_of_settleLaunch hsettle
  have hsupplied : g.supply = supply := hsupply.trans h.named.supplied
  have hnameable : Usable (g.supply.sessionId r.named) := hsupplied ▸ husable r.named
  obtain ⟨s, henlist, hstore⟩ := holds_enlist hs (r := { r with fleet := g }) h.store hnameable
    request.handle params
  have hsession : d.get? (g.supply.sessionId r.named) = none := by
    rw [hsupplied]
    exact h.unnamed r.named (Nat.le_refl _)
  have hnone : r.fleet.kernels.get? request.handle.id = none :=
    h.sound.untracked _ List.mem_cons_self
  have hrecord := h.handleOf_launching
  -- No record of the kernel is in the way, wherever in the order the new one comes to stand.
  have hhandle : ∀ id, handleOf (d.insert (g.supply.sessionId r.named)
      ⟨g.supply.sessionId r.named, request.handle, params⟩) id =
        if id = request.handle.id then some request.handle else handleOf d id :=
    fun id => handleOf_insert hsession hrecord
  refine ⟨d.insert (g.supply.sessionId r.named)
    ⟨g.supply.sessionId r.named, request.handle, params⟩, ?_⟩
  rw [henlist]
  refine ⟨h.sound_settle (congrArg Prod.fst hsettle), ?named, hstore, ?recorded, ?started,
    ?unnamed⟩
  case named =>
    refine h.named.settled hsupply hnamed ?_ ?_
    · intro id hget hne
      have hother : id ≠ request.handle.id := hne
      rw [hg.kernels, Dict.get?_insert_of_ne _ _ hother]
      exact hget
    · intro id hid
      rcases History.launched_append_iff.1 hid with hid | hid
      · exact .inl hid
      · exact .inr ⟨request, rfl, hid⟩
  case recorded =>
    intro k
    rw [hhandle, Fleet.inHand_insert (k := ⟨request.handle, _⟩) hnone hg.kernels,
      ← Fleet.inHand_launching, ← h.recorded]
    by_cases hid : k.id = request.handle.id
    · rw [if_pos hid, hid, hrecord]
      simp [eq_comm]
    · have hne : k ≠ request.handle := by
        rintro rfl
        exact hid rfl
      simp [hid, hne]
  case started =>
    intro id
    rw [NameSet.contains_add, History.launched_append_iff, hhandle]
    have hstarted := h.started id
    by_cases hid : id = request.handle.id
    · simp [hid]
    · simp only [if_neg hid, Ne.symm hid, false_or, or_false]
      exact hstarted
  case unnamed =>
    intro n hn
    have hlater : r.named + 1 ≤ n := hn
    have hne : supply.sessionId n ≠ g.supply.sessionId r.named := by
      rw [hsupplied]
      intro heq
      have hsame : n = r.named := hinjective heq
      omega
    rw [Dict.get?_insert_of_ne _ _ hne]
    exact h.unnamed n (by omega)

/-- A kernel that has ended has no records any more. -/
theorem shutdown_succeeded (hs : Reliable Usable Holds) {kernel : Tracked} {k : KernelHandle}
    (h : InStep Holds supply log r (.ending kernel :: rest) d)
    (hsettle : r.fleet.settleShutdown kernel answer = (g, .ok k)) :
    ∃ d', InStep Holds supply (log ++ [(.terminate kernel.handle, .answered (some answer))])
      (forget { r with fleet := g } kernel.handle.id) rest d' := by
  obtain rfl := Fleet.eq_of_settleShutdown hsettle
  obtain ⟨s, hforget, hstore⟩ := holds_forget hs h.store kernel.handle.id
  have hlog : ∀ id, History.Launched (log ++ [(.terminate kernel.handle, .answered (some answer))])
      id ↔ log.Launched id := fun id => History.launched_append_iff_of_ne nofun
  refine ⟨d.filter fun _ record => record.kernel.id != kernel.handle.id, ?_⟩
  rw [hforget]
  refine ⟨h.sound_settle (congrArg Prod.fst hsettle), ?named, hstore, ?recorded, ?started,
    ?unnamed⟩
  case named =>
    exact h.named.settled rfl rfl (fun _ hget _ => hget) fun id hid => .inl ((hlog id).1 hid)
  case recorded =>
    intro k
    rw [handleOf_filter, Fleet.inHand_ended h.sound, ← h.recorded]
    by_cases hid : k.id = kernel.handle.id <;> simp [hid]
  case started =>
    intro id
    rw [Dict.contains_erase, hlog, handleOf_filter, h.started]
    by_cases hid : id = kernel.handle.id <;> simp [hid]
  case unnamed =>
    intro n hn
    rw [Dict.get?_filter, h.unnamed n hn]
    rfl

end

end InStep

end Registry

end KernelGate
