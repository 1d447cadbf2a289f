import KernelGate.Proofs.Fleet.Solo
import KernelGate.Session.Registry

/-!
# Operations of a registry one at a time

What a registry comes to when the operations of the gateway, on the registry or on its fleet, are
carried out one after another, each to its end, whatever the launcher answers and the store does.

Main statements: `started_of_ends` and `stopped_of_ends` say all that launching and ending a kernel
can do; `covered_of_reachable` is the invariant. It is what lets an operation that fails leave
kernels, ledger and records as they were.
-/

namespace KernelGate

namespace Registry

open Activity

variable {S : Type} {r r' : Registry S} {calls : Calls}

/-- Time goes on. -/
def Passes (r r' : Registry S) : Prop := ∃ millis, r' = { r with fleet := r.fleet.later millis }

/-- An operation of the fleet does to the fleet what it does there alone, and nothing else. -/
theorem ends_onFleet {α : Type} {a : Activity Fleet α} {x : α}
    (h : (onFleet a).Ends Passes r calls r' x) :
    ∃ g, a.Ends Fleet.Passes r.fleet calls g x ∧ r' = { r with fleet := g } := by
  unfold onFleet at h
  refine Ends.of_zoom ?_ ?_ ?_ ?_ h
  · intro r f
    rfl
  · intro r f g
    rfl
  · intro r
    rfl
  · rintro r r' ⟨millis, rfl⟩
    exact ⟨_, ⟨millis, rfl⟩, rfl⟩

variable [SessionStore S]

/-! ## Changes that leave the fleet

Records are no part of the fleet, so that keeping and forgetting them leaves kernels and slots
alone. -/

theorem fleet_drop (r : Registry S) (session : String) : (r.drop session).fleet = r.fleet := rfl

theorem fleet_drops (r : Registry S) (records : List SessionRecord) :
    (records.foldl (fun r record => r.drop record.sessionId) r).fleet = r.fleet := by
  induction records generalizing r with
  | nil => rfl
  | cons record rest ih => rw [List.foldl_cons, ih, fleet_drop]

theorem fleet_forget (r : Registry S) (kernel : String) : (r.forget kernel).fleet = r.fleet := by
  rcases hlist : SessionStore.list r.store with ⟨store, e | records⟩
  · simp only [forget, hlist]
  · simp only [forget, hlist]
    exact fleet_drops _ _

/-! ## Launches and shutdowns

What a launch or a shutdown of the registry does, by what the same operation does on the fleet. A
record is kept or forgotten if and only if that succeeds. -/

/-- What comes of launching a kernel and keeping a record of it. -/
inductive Started (r : Registry S) (p : LaunchParams) :
    Registry S → Result SessionRecord → Prop where
  | refused {g : Fleet} {e : Fault} :
      r.fleet.SameApart g → Started r p { r with fleet := g } (.error e)
  | launched {g : Fleet} {h : KernelHandle} :
      r.fleet.Created g (.ok h) →
      Started r p (enlist { r with fleet := g } h p).1 (.ok (enlist { r with fleet := g } h p).2)

/-- A launch that fails leaves the registry as it was. -/
theorem started_of_ends {spec : KernelSpec} {p : LaunchParams} {x : Result SessionRecord}
    (hr : r.fleet.Covered) (h : (startKernel spec p).Ends Passes r calls r' x) :
    Started r p r' x := by
  obtain ⟨r₁, created, _, _, h₁, h₂, -⟩ := ends_bind_iff.1 h
  obtain ⟨g, hg, rfl⟩ := ends_onFleet h₁
  have hcreated := Fleet.created_of_ends hr.tidy hg
  cases created with
  | error e =>
    obtain ⟨-, rfl, rfl⟩ := ends_done_iff.1 h₂
    cases hcreated with
    | refused hsame => exact .refused hsame
  | ok k =>
    obtain ⟨record, h₃, rfl⟩ := ends_map_iff.1 h₂
    obtain ⟨-, henlist⟩ := ends_atOnce_iff.1 h₃
    cases henlist
    exact .launched hcreated

theorem fleet_of_shutdownKernel {id : String} {x : Result Unit}
    (h : (shutdownKernel id).Ends Passes r calls r' x) :
    ∃ y, (Fleet.shutdown id).Ends Fleet.Passes r.fleet calls r'.fleet y := by
  obtain ⟨r₁, ended, _, _, h₁, h₂, rfl⟩ := ends_bind_iff.1 h
  obtain ⟨g, hg, rfl⟩ := ends_onFleet h₁
  refine ⟨ended, ?_⟩
  cases ended with
  | error e =>
    obtain ⟨rfl, rfl, rfl⟩ := ends_done_iff.1 h₂
    rwa [List.append_nil]
  | ok k =>
    obtain ⟨_, h₃, rfl⟩ := ends_map_iff.1 h₂
    obtain ⟨rfl, rfl⟩ := ends_change_iff.1 h₃
    rwa [List.append_nil, fleet_forget]

/-- What comes of ending a kernel and forgetting it. -/
inductive Stopped (r : Registry S) (id : String) : Registry S → Result Unit → Prop where
  | kept {g : Fleet} {e : Fault} :
      r.fleet.SameApart g → Stopped r id { r with fleet := g } (.error e)
  | stopped {g : Fleet} {h : KernelHandle} :
      r.fleet.Ended id g (.ok h) → Stopped r id (forget { r with fleet := g } id) (.ok ())

/-- So does a shutdown that fails. -/
theorem stopped_of_ends {id : String} {x : Result Unit} (hr : r.fleet.Covered)
    (h : (shutdownKernel id).Ends Passes r calls r' x) : Stopped r id r' x := by
  obtain ⟨r₁, ended, _, _, h₁, h₂, -⟩ := ends_bind_iff.1 h
  obtain ⟨g, hg, rfl⟩ := ends_onFleet h₁
  have hended := Fleet.ended_of_ends hr hg
  cases ended with
  | error e =>
    obtain ⟨-, rfl, rfl⟩ := ends_done_iff.1 h₂
    cases hended with
    | kept hsame => exact .kept hsame
  | ok k =>
    obtain ⟨_, h₃, rfl⟩ := ends_map_iff.1 h₂
    obtain ⟨-, rfl⟩ := ends_change_iff.1 h₃
    exact .stopped hended

/-! ## A slot for each kernel

All operations keep a slot for each kernel, whatever is answered; it is what lets a failed shutdown
leave no trace. -/

theorem covered_startKernel {spec : KernelSpec} {p : LaunchParams} {x : Result SessionRecord}
    (hr : r.fleet.Covered) (h : (startKernel spec p).Ends Passes r calls r' x) :
    r'.fleet.Covered := by
  cases started_of_ends hr h with
  | refused hsame => exact hr.congr hsame.kernels hsame.ledger
  | launched hcreated => exact hcreated.covered hr

theorem covered_shutdownKernel {id : String} {x : Result Unit} (hr : r.fleet.Covered)
    (h : (shutdownKernel id).Ends Passes r calls r' x) : r'.fleet.Covered := by
  cases stopped_of_ends hr h with
  | kept hsame => exact hr.congr hsame.kernels hsame.ledger
  | stopped hended =>
    rw [fleet_forget]
    exact hended.covered hr

/-- Kernels are taken over with slots of their own. -/
theorem covered_recoverEach {limit : Nat} {records : List SessionRecord} {x : RecoveryReport}
    (hr : r.fleet.Covered) (h : (recoverEach limit records).Ends Passes r calls r' x) :
    r'.fleet.Covered := by
  induction records generalizing r calls x with
  | nil =>
    obtain ⟨-, rfl, -⟩ := ends_done_iff.1 h
    exact hr
  | cons record rest ih =>
    -- What is counted and dropped between two takeovers leaves the fleet's kernels and slots.
    obtain ⟨r₁, outcome, _, _, h₁, h₂, -⟩ := ends_bind_iff.1 h
    obtain ⟨g, hg, rfl⟩ := ends_onFleet h₁
    have hcovered : g.Covered := (Fleet.reattached_of_ends hg).covered hr
    cases outcome with
    | ok _ =>
      obtain ⟨report, h₃, -⟩ := ends_map_iff.1 (ends_change_bind_iff.1 h₂)
      exact ih (hcovered.congr rfl rfl) h₃
    | error e =>
      obtain ⟨report, h₃, -⟩ := ends_map_iff.1 (ends_change_bind_iff.1 h₂)
      exact ih (hcovered.congr rfl rfl) h₃

theorem covered_startSessions {x : RecoveryReport} (hr : r.fleet.Covered)
    (h : startSessions.Ends Passes r calls r' x) : r'.fleet.Covered := by
  have h₁ := ends_look_bind_iff.1 h
  obtain ⟨r₂, found, _, _, h₂, h₃, -⟩ := ends_bind_iff.1 h₁
  obtain ⟨-, hrecords⟩ := ends_atOnce_iff.1 h₂
  cases hrecords
  refine covered_recoverEach ?_ h₃
  exact hr

/-- Each kernel goes with its slot, or stays with it. -/
theorem covered_shutdownEach {ids : List String} {x : Nat} (hr : r.fleet.Covered)
    (h : (shutdownEach ids).Ends Passes r calls r' x) : r'.fleet.Covered := by
  induction ids generalizing r calls x with
  | nil =>
    obtain ⟨-, rfl, -⟩ := ends_done_iff.1 h
    exact hr
  | cons id rest ih =>
    obtain ⟨r₁, outcome, _, _, h₁, h₂, -⟩ := ends_bind_iff.1 h
    obtain ⟨stopped, h₃, -⟩ := ends_map_iff.1 h₂
    exact ih (covered_shutdownKernel hr h₁) h₃

theorem covered_cull {ids : List String} {x : Nat} (hr : r.fleet.Covered)
    (h : (cull ids).Ends Passes r calls r' x) : r'.fleet.Covered := by
  obtain ⟨r₁, stopped, _, _, h₁, h₂, -⟩ := ends_bind_iff.1 h
  obtain ⟨_, h₃, -⟩ := ends_map_iff.1 h₂
  obtain ⟨-, rfl⟩ := ends_change_iff.1 h₃
  have hcovered := covered_shutdownEach hr h₁
  split
  · exact hcovered
  · exact hcovered.congr rfl rfl

/-! ## Operations

An operation forgets what it comes to except whether it has succeeded. Looking behind this, each one
is an activity for which the invariant is known. -/

/-- What the gateway asks of its fleet, and of its registry. -/
inductive Operation where
  | create (spec : KernelSpec) (params : LaunchParams)
  | reattach (limit : Option Nat) (kernel : KernelHandle)
  | shutdown (id : String)
  | touch (id : String)
  | startKernel (spec : KernelSpec) (params : LaunchParams)
  | shutdownKernel (id : String)
  | startSessions
  | shutdownAll
  | shutdownStarted
  | cull (ids : List String)
  | cullIdle (millis : Nat)

/-- Whether an activity has succeeded. -/
def success {σ α : Type} (a : Activity σ (Result α)) : Activity σ (Result Unit) :=
  a.bind fun x => .done (x.map fun _ => ())

/-- An activity that cannot fail. -/
def sure {σ α : Type} (a : Activity σ α) : Activity σ (Result Unit) :=
  a.bind fun _ => .done (.ok ())

/-- The activity of an operation, and whether it has succeeded. -/
def Operation.activity : Operation → Activity (Registry S) (Result Unit)
  | create spec p => onFleet (success (Fleet.create spec p))
  | reattach limit h => onFleet (Fleet.reattach limit h)
  | shutdown id => onFleet (success (Fleet.shutdown id))
  | touch id => onFleet (sure (Activity.change (Fleet.touch · id)))
  | startKernel spec p => success (Registry.startKernel spec p)
  | shutdownKernel id => Registry.shutdownKernel id
  | startSessions => sure Registry.startSessions
  | shutdownAll => sure Registry.shutdownAll
  | shutdownStarted => sure Registry.shutdownStarted
  | cull ids => sure (Registry.cull ids)
  | cullIdle millis => sure (Registry.cullIdle millis)

/-- What a registry comes to by one operation after another, and as time goes on. -/
inductive Reachable (start : Registry S) : Registry S → Prop where
  | refl : Reachable start start
  | passes {r r' : Registry S} : Reachable start r → Passes r r' → Reachable start r'
  | operation {r r' : Registry S} {op : Operation} {calls : Calls} {x : Result Unit} :
      Reachable start r → op.activity.Ends Passes r calls r' x → Reachable start r'

section

variable {σ α : Type} {drift : σ → σ → Prop} {s t : σ} {x : Result Unit}

theorem ends_success {a : Activity σ (Result α)} (h : (success a).Ends drift s calls t x) :
    ∃ y, a.Ends drift s calls t y ∧ x = y.map fun _ => () :=
  ends_map_iff.1 h

theorem ends_sure {a : Activity σ α} (h : (sure a).Ends drift s calls t x) :
    ∃ y, a.Ends drift s calls t y ∧ x = .ok () :=
  ends_map_iff.1 h

end

/-- One case for each operation, by the lemmas before. -/
theorem covered_of_ends {op : Operation} {x : Result Unit} (hr : r.fleet.Covered)
    (h : op.activity.Ends Passes r calls r' x) : r'.fleet.Covered := by
  cases op with
  | create spec p =>
    obtain ⟨g, hg, rfl⟩ := ends_onFleet h
    obtain ⟨y, hy, -⟩ := ends_success hg
    exact (Fleet.created_of_ends hr.tidy hy).covered hr
  | reattach limit k =>
    obtain ⟨g, hg, rfl⟩ := ends_onFleet h
    exact (Fleet.reattached_of_ends hg).covered hr
  | shutdown id =>
    obtain ⟨g, hg, rfl⟩ := ends_onFleet h
    obtain ⟨y, hy, -⟩ := ends_success hg
    exact (Fleet.ended_of_ends hr hy).covered hr
  | touch id =>
    obtain ⟨g, hg, rfl⟩ := ends_onFleet h
    obtain ⟨y, hy, -⟩ := ends_sure hg
    obtain ⟨-, rfl⟩ := ends_change_iff.1 hy
    exact hr.touch id
  | startKernel spec p =>
    obtain ⟨y, hy, -⟩ := ends_success h
    exact covered_startKernel hr hy
  | shutdownKernel id => exact covered_shutdownKernel hr h
  | startSessions =>
    obtain ⟨y, hy, -⟩ := ends_sure h
    exact covered_startSessions hr hy
  | shutdownAll =>
    obtain ⟨y, hy, -⟩ := ends_sure h
    obtain ⟨n, hn, -⟩ := ends_map_iff.1 (ends_look_bind_iff.1 hy)
    exact covered_shutdownEach hr hn
  | shutdownStarted =>
    obtain ⟨y, hy, -⟩ := ends_sure h
    obtain ⟨n, hn, -⟩ := ends_map_iff.1 (ends_look_bind_iff.1 hy)
    exact covered_shutdownEach hr hn
  | cull ids =>
    obtain ⟨y, hy, -⟩ := ends_sure h
    exact covered_cull hr hy
  | cullIdle millis =>
    obtain ⟨y, hy, -⟩ := ends_sure h
    exact covered_cull hr (ends_look_bind_iff.1 hy)

/-- Whatever is done to a registry, there is a slot for each kernel. -/
theorem covered_of_reachable {start : Registry S} (hstart : start.fleet.Covered)
    (h : Reachable start r) : r.fleet.Covered := by
  induction h with
  | refl => exact hstart
  | passes _ hpasses ih =>
    obtain ⟨millis, rfl⟩ := hpasses
    exact ih.congr rfl rfl
  | operation _ hends ih => exact covered_of_ends ih hends

/-! ## Operations that fail

An operation that fails has come by a refusal, or by a failure that it made up for. In either case
nothing is left of it, whatever came before. -/

/-- An operation that fails leaves kernels, ledger, records and what this run has started as they
were: but for counters, figures and the time, nothing has changed. -/
theorem unchanged_of_error {rules : FleetRules} {limit : Int} {supply : Supply} {store : S}
    {recoveryLimit : Nat} {op : Operation} {e : Fault}
    (hr : Reachable (new (.empty rules limit supply) store recoveryLimit) r)
    (h : op.activity.Ends Passes r calls r' (.error e)) :
    r' = { r with fleet := r'.fleet } ∧ r.fleet.SameApart r'.fleet := by
  have hcovered := covered_of_reachable (Fleet.covered_empty rules limit supply) hr
  -- Five operations can fail, and each undoes what it did first; the others never fail.
  cases op with
  | create spec p =>
    obtain ⟨g, hg, rfl⟩ := ends_onFleet h
    obtain ⟨y, hy, hfailed⟩ := ends_success hg
    refine ⟨rfl, ?_⟩
    cases Fleet.created_of_ends hcovered.tidy hy with
    | refused hsame => exact hsame
    | launched _ _ => cases hfailed
  | reattach limit k =>
    obtain ⟨g, hg, rfl⟩ := ends_onFleet h
    refine ⟨rfl, ?_⟩
    cases Fleet.reattached_of_ends hg with
    | lost hsame => exact hsame
  | shutdown id =>
    obtain ⟨g, hg, rfl⟩ := ends_onFleet h
    obtain ⟨y, hy, hfailed⟩ := ends_success hg
    refine ⟨rfl, ?_⟩
    cases Fleet.ended_of_ends hcovered hy with
    | kept hsame => exact hsame
    | ended _ _ _ => cases hfailed
  | startKernel spec p =>
    obtain ⟨y, hy, hfailed⟩ := ends_success h
    cases started_of_ends hcovered hy with
    | refused hsame => exact ⟨rfl, hsame⟩
    | launched _ => cases hfailed
  | shutdownKernel id =>
    cases stopped_of_ends hcovered h with
    | kept hsame => exact ⟨rfl, hsame⟩
  | touch id =>
    obtain ⟨g, hg, rfl⟩ := ends_onFleet h
    obtain ⟨y, -, hfailed⟩ := ends_sure hg
    cases hfailed
  | startSessions | shutdownAll | shutdownStarted | cull _ | cullIdle _ =>
    obtain ⟨y, -, hfailed⟩ := ends_sure h
    cases hfailed

/-- A launcher that always gives the same answer. -/
def answering (answer : Result Unit) : Unit → LauncherCall → Option Nat → Unit × Reply :=
  fun _ _ _ => ((), some answer)

/-- Against a launcher that always gives the same answer, every operation ends. -/
theorem ends_answering (answer : Result Unit) (op : Operation) (r : Registry S) :
    ∃ calls, op.activity.Ends Passes r calls (op.activity.run (answering answer) () r).2.1
      (op.activity.run (answering answer) () r).2.2 := by
  apply ends_run
  · intro r
    exact ⟨0, rfl⟩
  · intro _ c limit
    exact Reply.possible_some limit answer

/-- A registry with the kernel of one user. -/
def attended : Registry MemoryStore :=
  ((Operation.startKernel .python (.forUser "bob")).activity.run (answering (.ok ())) ()
    (new (.empty (Fleet.openRules none) 1 Fleet.plainSupply) ∅ 1000)).2.1

theorem unchanged_after_failed_shutdown :
    attended.fleet.kernels.size = 1 ∧ attended.store.size = 1 ∧
      ∃ calls r', (Operation.shutdownKernel "a").activity.Ends Passes attended calls r'
          (.error (.io (.other "cannot stop"))) ∧
        r'.fleet.kernels = attended.fleet.kernels ∧ r'.fleet.ledger = attended.fleet.ledger ∧
        r'.started = attended.started ∧ r'.store = attended.store := by
  have hreachable : Reachable (new (.empty (Fleet.openRules none) 1 Fleet.plainSupply) ∅ 1000)
      attended := by
    obtain ⟨calls, hends⟩ := ends_answering (.ok ())
      (.startKernel .python (.forUser "bob")) (S := MemoryStore)
      (new (.empty (Fleet.openRules none) 1 Fleet.plainSupply) ∅ 1000)
    exact .operation .refl hends
  refine ⟨by decide +kernel, by decide +kernel, ?_⟩
  obtain ⟨calls, hends⟩ := ends_answering (.error (.io (.other "cannot stop")))
    (.shutdownKernel "a") attended
  obtain ⟨hrest, hsame⟩ := unchanged_of_error hreachable hends
  exact ⟨calls, _, hends, hsame.kernels, hsame.ledger, congrArg started hrest, congrArg store hrest⟩

end Registry

end KernelGate
