import KernelGate.Proofs.Registry.Overlap

/-!
# Starting again over the records of a run

A gateway that carries its errands out one at a time has, after each of them, a record of just the
kernels that it tracks, and the first record of a kernel says how the kernel is reached. So another
gateway that starts over the same store, and finds all kernels alive, goes on where the first one
left off.

Main statements: `InStep.handleOf_eq` (between errands the records say all there is to know of the
kernels), `TookTurns.dropped_eq_nil` (a recovery that finds all kernels alive keeps all records),
and `restart_equivalent`, which puts them together.
-/

namespace KernelGate

open Activity

/-- Fleets that reach their kernels in the same way have the same number of each sort. -/
theorem Fleet.tracked_eq_of_get? {f g : Fleet} (h : ∀ id, g.get? id = f.get? id)
    (sel : KernelHandle → Bool) : g.tracked sel = f.tracked sel := by
  have hlist : ∀ f : Fleet, f.list = (f.kernels.map (·.handle)).values := by
    intro f
    unfold Fleet.list Dict.values Dict.map
    rw [List.map_map, List.map_map]
    rfl
  have hkernels : g.kernels.map (·.handle) = f.kernels.map (·.handle) := by
    apply Dict.ext_get?
    intro id
    rw [Dict.get?_map, Dict.get?_map]
    exact h id
  unfold Fleet.tracked
  rw [hlist, hlist, hkernels]

theorem Fleet.Traffic.Sound.active_eq {f : Fleet} (h : Sound ⟨f, []⟩) (user : String) :
    f.ledger.active user = f.tracked (ownedBy user) :=
  h.balanced user

namespace Registry

variable {S : Type} {Holds : S → Dict SessionRecord → Prop} {supply : Supply} {log : History}
  {d : Dict SessionRecord} {r : Registry S}

/-- While no errand is under way, the records say how all kernels are reached. -/
theorem InStep.handleOf_eq (h : InStep Holds supply log r [] d) (id : String) :
    handleOf d id = r.fleet.get? id := by
  have htracked : ∀ k : KernelHandle, handleOf d k.id = some k ↔ r.fleet.get? k.id = some k := by
    intro k
    rw [h.recorded]
    simp [Fleet.Traffic.InHand]
  apply Option.ext
  intro k
  constructor
  · intro hhandle
    obtain rfl := id_of_handleOf hhandle
    exact (htracked k).1 hhandle
  · intro hget
    obtain ⟨tracked, hkernel, rfl⟩ := Option.map_eq_some_iff.1 hget
    obtain rfl := h.sound.keyed id tracked hkernel
    exact (htracked _).2 hget

/-- When nobody waits, records and kernels agree without regard to what is being ended. -/
theorem Orderly.at_rest {α : Type} [SessionStore S] {p : Pool (Registry S) α}
    (h : Orderly Holds supply log p) (hrest : p.waiting = []) :
    ∃ d, InStep Holds supply log p.state [] d := by
  obtain ⟨posts, d, hwaiting, -, hstep⟩ := h
  rw [hrest] at hwaiting
  obtain rfl := List.map_eq_nil_iff.1 hwaiting.symm
  exact ⟨d, hstep⟩

/-- Of kernels that are all found alive, every record is kept. -/
theorem TookTurns.dropped_eq_nil {r' : Registry S} {turns : List Turn} {report : RecoveryReport}
    (h : TookTurns Holds r d turns report r')
    (halive : ∀ e ∈ turns.filterMap (·.asked), e.2.reply r.recoveryLimit = some (.ok ())) :
    report.dropped = [] := by
  rw [h.reported, reportOf, List.map_eq_nil_iff, List.filter_eq_nil_iff]
  intro t ht
  rw [Bool.not_eq_true', Bool.not_eq_false]
  obtain ⟨record, probe?⟩ := t
  cases probe? with
  | none => rfl
  | some c =>
    have hasked : (LauncherCall.probe record.kernel, c) ∈ turns.filterMap (·.asked) :=
      List.mem_filterMap.2 ⟨_, ht, rfl⟩
    exact Conduct.succeeds_of_reply (halive _ hasked)

variable [SessionStore S] {Usable : String → Prop}

/-! ## Errands one at a time

An errand that runs alone to its end is a run of a pool in which it is the only one, so that what
holds of all runs holds after it. -/

/-- What a registry comes to by one errand after another, each to its end, and as time goes on. -/
inductive Served (start : Registry S) : Registry S → Prop where
  | refl : Served start start
  | carriedOut {r r' : Registry S} {a : Activity (Registry S) (Result Unit)} {calls : Calls}
      {x : Result Unit} :
      Served start r → MayBegin (.quiet r) a → a.Ends Passes r calls r' x → Served start r'

/-- Errands one at a time are a case of errands that overlap. -/
theorem reaches_of_served {start : Registry S} (h : Served start r) :
    Pool.Reaches MayBegin (.quiet start) (.quiet r) := by
  induction h with
  | refl => exact .refl
  | @carriedOut r r' a calls x _ hmay hends ih =>
    have hdrift : ∀ {r r' : Registry S}, Passes r r' → ∀ waiting,
        Pool.Reaches MayBegin ⟨r, waiting⟩ ⟨r', waiting⟩ := by
      rintro r r' ⟨millis, rfl⟩ waiting
      have hstep : Pool.Step MayBegin ⟨r, waiting⟩
          (Pool.enter ⟨r, waiting⟩ (sure (change (later · millis)))) := .begins (.pass millis)
      exact .single hstep
    exact (ih.tail (.begins hmay)).trans (Pool.reaches_of_ends hdrift hends)

/-! ## Starting again

The second gateway starts without kernels, over the records that the first one has left. If it finds
all kernels alive, it tracks those of the records, which are those of the first. -/

/-- A registry takes over what its store holds, and finds all kernels alive that it asks after. -/
def FindsAll (r r' : Registry S) : Prop :=
  ∃ calls report, startSessions.Ends Passes r calls r' report ∧ ∀ e ∈ calls, e.2 = some (.ok ())

/-- A launcher that finds every kernel alive leads a recovery to its end. -/
theorem exists_findsAll (r : Registry S) : ∃ r', FindsAll r r' := by
  have hdrift : ∀ r : Registry S, Passes r r := fun r => ⟨0, rfl⟩
  obtain ⟨calls, hends, hcalls⟩ :=
    ends_run_of_replies (P := fun reply => reply = some (.ok ())) (answering (.ok ())) hdrift
      (fun _ _ limit => Reply.possible_some limit _) (fun _ _ _ => rfl) startSessions () r
  exact ⟨_, calls, _, hends, hcalls⟩

/-- A registry that has just started tracks what the records say, if all kernels are alive. -/
theorem handleOf_eq_of_findsAll (hs : Reliable Usable Holds) {rules : FleetRules} {limit : Int}
    {store : S} {recoveryLimit : Nat} {r' : Registry S} (hd : Holds store d)
    (h : FindsAll (new (.empty rules limit supply) store recoveryLimit) r') :
    (∀ id, handleOf d id = r'.fleet.get? id) ∧ Fleet.Traffic.Sound ⟨r'.fleet, []⟩ := by
  obtain ⟨calls, report, hends, hcalls⟩ := h
  obtain ⟨turns, rfl, hturns⟩ := exists_tookTurns hs hd hends
  have hdropped : report.dropped = [] := by
    apply hturns.dropped_eq_nil
    intro e he
    exact hcalls _ (List.mem_map_of_mem he)
  have hhandle := hturns.handleOf_eq (hs.filed hd) rfl
  rw [hdropped, Dict.without_nil] at hhandle
  exact ⟨hhandle, hturns.fleet.sound (Fleet.Traffic.sound_empty rules limit supply)⟩

/-- After any errands one at a time, a gateway that starts again over the same store, and finds all
kernels alive, tracks the kernels that were tracked, reaches each in the same way, and counts as
many for each user. -/
theorem restart_equivalent (rules' : FleetRules) (limit' : Int) (supply' : Supply)
    (recoveryLimit' : Nat) {rules : FleetRules} {limit : Int} {store : S} {recoveryLimit : Nat}
    {calls : Calls} {report : RecoveryReport} {started : Registry S} (hs : Reliable Usable Holds)
    (hd : Holds store d) (hfresh : supply.FreshFor d) (husable : ∀ n, Usable (supply.sessionId n))
    (hstart : startSessions.Ends Passes (new (.empty rules limit supply) store recoveryLimit) calls
      started report)
    (hserved : Served started r) :
    (∃ r', FindsAll (new (.empty rules' limit' supply') r.store recoveryLimit') r') ∧
      ∀ r', FindsAll (new (.empty rules' limit' supply') r.store recoveryLimit') r' →
        (∀ id, r'.fleet.get? id = r.fleet.get? id) ∧
        ∀ user, r'.fleet.ledger.active user = r.fleet.ledger.active user := by
  refine ⟨exists_findsAll _, fun r' hr' => ?_⟩
  obtain ⟨turns, -, hturns⟩ := exists_tookTurns hs hd hstart
  have hp : Orderly Holds supply [] (.quiet started : Pool (Registry S) (Result Unit)) :=
    (hturns.inStep (hs.filed hd) hfresh).orderly
  obtain ⟨log, hruns, hcomplete⟩ := Pool.runs_of_reaches (reaches_of_served hserved)
  have hcalm := orderly_of_runs hs hfresh.kernels hfresh.sessions husable hp hruns hcomplete
  obtain ⟨d', hstep⟩ := hcalm.at_rest rfl
  obtain ⟨hhandle, hsound⟩ := handleOf_eq_of_findsAll hs hstep.store hr'
  have hget : ∀ id, r'.fleet.get? id = r.fleet.get? id := fun id =>
    (hhandle id).symm.trans (hstep.handleOf_eq id)
  refine ⟨hget, fun user => ?_⟩
  calc r'.fleet.ledger.active user
      = r'.fleet.tracked (Fleet.ownedBy user) := hsound.active_eq user
    _ = r.fleet.tracked (Fleet.ownedBy user) := Fleet.tracked_eq_of_get? hget _
    _ = r.fleet.ledger.active user := (hstep.sound.active_eq user).symm

/-- A gateway that has taken over what was left over, and has launched a kernel since. -/
def staffed : Registry MemoryStore :=
  ((Operation.startKernel .python (.forUser "bob")).activity.run (answering (.ok ())) ()
    woken.1).2.1

/-- A gateway that starts again tracks the kernel that was launched, and of the two records of
another one it goes by the first; that it may not launch any does not count. -/
theorem restart_of_staffed :
    ∃ r', FindsAll (new (.empty (Fleet.openRules none) 0 tallied) staffed.store 1000) r' ∧
      r'.fleet.get? "a" = some ⟨"a", "python3", "alice", "localhost", []⟩ ∧
      (r'.fleet.get? "k").isSome = true ∧
      r'.fleet.ledger.active "alice" = 2 ∧ r'.fleet.ledger.active "bob" = 1 := by
  obtain ⟨calls, hstart⟩ := ends_woken
  obtain ⟨calls', hends⟩ := ends_answering (.ok ()) (.startKernel .python (.forUser "bob")) woken.1
  have hserved : Served woken.1 staffed :=
    Served.refl.carriedOut
      (.operation (.startKernel .python (.forUser "bob")) trivial) hends
  obtain ⟨⟨r', hr'⟩, hall⟩ :=
    restart_equivalent (Fleet.openRules none) 0 tallied 1000 reliable_memory ⟨rfl, filed_leftOver⟩
      (fresh_of_tallied (by decide +kernel) (by decide +kernel)) (fun _ => trivial) hstart hserved
  obtain ⟨hget, hactive⟩ := hall r' hr'
  refine ⟨r', hr', ?_, ?_, ?_, ?_⟩
  · rw [hget]
    decide +kernel
  · rw [hget]
    decide +kernel
  · rw [hactive]
    decide +kernel
  · rw [hactive]
    decide +kernel

end Registry

end KernelGate
