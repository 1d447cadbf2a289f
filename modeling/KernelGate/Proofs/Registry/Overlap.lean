import KernelGate.Proofs.Registry.Records

/-!
# Errands that overlap

Once the kernels of an earlier run are taken over, launches, shutdowns, culling and the end of all
kernels may be under way at once, and come between each other wherever one of them waits for the
launcher. Of two shutdowns of one kernel the second finds nothing, so that it is the first that
forgets the records.

Main statements: `orderly_enter` and `orderly_answered` keep records, kernels and names in step when
an errand begins and when it is answered; `records_of_runs` says what this comes to.
-/

namespace KernelGate

open Activity

/-! ## After a recovery

A recovery leaves what errands begin with: each kernel has its slot, no call waits, and of each
kernel that was found there is a record. -/

namespace Fleet

variable {limit : Nat} {f g : Fleet} {t : Turn} {turns : List Turn}

/-- A turn takes a slot for a kernel that comes to be tracked, and none otherwise. -/
theorem Turned.sound (h : Turned limit f t g) (hf : Traffic.Sound ⟨f, []⟩) :
    Traffic.Sound ⟨g, []⟩ := by
  cases h with
  | known _ _ => exact hf.congr ⟨rfl, rfl, rfl⟩
  | @found record c _ _ hnew _ =>
    have hsought : Traffic.Sound ⟨f, [.probing none record.kernel]⟩ := hf.sought hnew nofun
    exact hsought.outcome (.found (k := ⟨record.kernel, _⟩) ⟨rfl, rfl, rfl⟩)
  | lost _ _ _ _ => exact hf.congr ⟨rfl, rfl, rfl⟩

theorem Turns.sound (h : Turns limit f turns g) (hf : Traffic.Sound ⟨f, []⟩) :
    Traffic.Sound ⟨g, []⟩ := by
  induction h with
  | nil f => exact hf
  | cons hturned _ ih => exact ih (hturned.sound hf)

end Fleet

namespace Registry

section

variable {S : Type} {Holds : S → Dict SessionRecord → Prop} {r r' : Registry S}
  {d : Dict SessionRecord} {turns : List Turn} {report : RecoveryReport}

/-- Where no kernel was tracked before, the records that are left say how kernels are reached. -/
theorem TookTurns.handleOf_eq (h : TookTurns Holds r d turns report r') (hfiled : Filed d)
    (hempty : r.fleet.kernels = ∅) (id : String) :
    handleOf (d.without report.dropped) id = r'.fleet.get? id := by
  have hnone : r.fleet.get? id = none := by
    rw [Fleet.get?, hempty]
    rfl
  rw [h.fleet.get?, hnone, Option.none_or, handleOf, h.values hfiled, List.find?_map,
    List.find?_filter, Option.map_map]
  congr 2
  funext t
  rw [Bool.decide_and, Bool.decide_eq_true, Bool.decide_eq_true]
  rfl

/-- Every kernel that was taken over has its name from a record, and none from the supply. -/
theorem TookTurns.unused {rules : FleetRules} {limit : Int} {supply : Supply} {store : S}
    {recoveryLimit : Nat} (hfiled : Filed d) (hfresh : supply.FreshFor d)
    (h : TookTurns Holds (new (.empty rules limit supply) store recoveryLimit) d turns report r)
    (n : Nat) : r.fleet.kernels.get? (supply.kernelId n) = none := by
  refine Option.eq_none_iff_forall_ne_some.2 fun k hget => ?_
  have htaken : (r.fleet.get? (supply.kernelId n)).isSome = true := by
    rw [Fleet.get?, hget]
    rfl
  rw [← h.handleOf_eq hfiled rfl, isSome_handleOf_iff] at htaken
  obtain ⟨record, hmem, hrecord⟩ := htaken
  exact hfresh.unused n record (Dict.mem_values_of_without hmem) hrecord

/-- After a recovery by a registry that has just started, records and kernels are in step. -/
theorem TookTurns.inStep {rules : FleetRules} {limit : Int} {supply : Supply} {store : S}
    {recoveryLimit : Nat} (hfiled : Filed d) (hfresh : supply.FreshFor d)
    (h : TookTurns Holds (new (.empty rules limit supply) store recoveryLimit) d turns report r) :
    InStep Holds supply [] r [] (d.without report.dropped) := by
  -- A registry that has just started has launched nothing and lets nobody wait.
  have hhandle := h.handleOf_eq hfiled rfl
  have hnothing : ∀ id, ¬ History.Launched [] id := by
    rintro id ⟨request, hmem, -⟩
    cases hmem
  exact
    { sound := h.fleet.sound (Fleet.Traffic.sound_empty rules limit supply)
      named :=
        { supplied := by
            show r.fleet.supply = supply
            rw [h.fleet.rest]
            rfl
          unused := fun n _ => ⟨h.unused hfiled hfresh n, nofun⟩
          launched := fun id hid => absurd hid (hnothing id)
          launching := nofun }
      store := h.store
      recorded := by
        intro k
        rw [hhandle]
        simp [Fleet.Traffic.InHand]
      started := by
        intro id
        have hstarted : r.started = ∅ := by
          rw [h.rest]
          rfl
        rw [hstarted]
        exact ⟨nofun, fun hid => absurd hid.2 (hnothing id)⟩
      unnamed := by
        intro n _
        rw [Dict.get?_without]
        split
        · rfl
        · exact hfresh.unnamed n }

end

/-! ## Errands of a pool

Those who wait are all at posts, so that pool and records can be followed by what the posts stand
for. An errand may begin and go on through several steps before it waits again; it is followed to
its next post, or to its end. -/

variable {S α : Type} [SessionStore S] {Usable : String → Prop}
  {Holds : S → Dict SessionRecord → Prop} {supply : Supply} {log : History}

/-- All errands stand at their posts, and records, kernels and names are in step. -/
def Orderly (Holds : S → Dict SessionRecord → Prop) (supply : Supply) (log : History)
    (p : Pool (Registry S) α) : Prop :=
  ∃ (posts : List (Post S α)) (d : Dict SessionRecord), p.waiting = posts.map Post.waiting ∧
    (∀ post ∈ posts, post.Orderly) ∧ InStep Holds supply log p.state (posts.map Post.stage) d

/-- Where no errand is under way yet, all is in order once records and kernels are in step. -/
theorem InStep.orderly {r : Registry S} {d : Dict SessionRecord}
    (h : InStep Holds supply log r [] d) :
    Orderly Holds supply log (.quiet r : Pool (Registry S) α) :=
  ⟨[], d, rfl, nofun, h⟩

/-- Whoever comes to wait stands behind the others, and its kernel is none of theirs. -/
theorem orderly_join {r : Registry S} {posts : List (Post S α)} {post : Post S α}
    {d : Dict SessionRecord} (hposts : ∀ post ∈ posts, post.Orderly) (hpost : post.Orderly)
    (hstep : InStep Holds supply log r (post.stage :: posts.map Post.stage) d) :
    Orderly Holds supply log ⟨r, posts.map Post.waiting ++ [post.waiting]⟩ := by
  refine ⟨posts ++ [post], d, by rw [List.map_append]; rfl, ?_, ?_⟩
  · intro post' hmem
    rcases List.mem_append.1 hmem with hmem | hmem
    · exact hposts post' hmem
    · rw [List.mem_singleton.1 hmem]
      exact hpost
  · rw [List.map_append]
    exact hstep.perm (List.perm_append_singleton _ _).symm

/-- An errand that begins, or goes on, leaves order behind. -/
theorem orderly_enter (hinjective : Function.Injective supply.kernelId)
    {a : Activity (Registry S) α} (ha : Errand a) {p : Pool (Registry S) α}
    (hp : Orderly Holds supply log p) : Orderly Holds supply log (p.enter a) := by
  -- On how the errand is put together, up to the first call it makes.
  induction ha generalizing p with
  | done x => exact hp
  | @aside f next haside _ ih =>
    obtain ⟨posts, d, hwaiting, hposts, hstep⟩ := hp
    exact ih p.state (p := ⟨f p.state, p.waiting⟩)
      ⟨posts, d, hwaiting, hposts, hstep.aside (haside p.state)⟩
  | @start spec params next hnext ih =>
    obtain ⟨r, waiting⟩ := p
    obtain ⟨posts, d, rfl, hposts, hstep⟩ := hp
    rw [startKernel_bind]
    rcases hadmission : r.fleet.admitLaunch spec params with ⟨g, e | request⟩
    · rw [enter_onFleet_bind hadmission]
      obtain ⟨reservations, metrics, rfl⟩ := Fleet.admitLaunch_error hstep.sound.tidy hadmission
      exact ih _ ⟨posts, d, rfl, hposts, hstep.congr ⟨rfl, rfl, rfl⟩ rfl rfl⟩
    · rw [enter_onFleet_bind hadmission]
      let post : Post S α := .starting request params next
      have hpost : post.Orderly := hnext
      exact orderly_join hposts hpost (hstep.admitted hinjective hadmission)
  | @stop id next hnext ih =>
    obtain ⟨r, waiting⟩ := p
    obtain ⟨posts, d, rfl, hposts, hstep⟩ := hp
    rw [shutdownKernel_bind]
    rcases hbegin : r.fleet.beginShutdown id with ⟨g, e | kernel⟩
    · rw [enter_onFleet_bind hbegin]
      obtain rfl := Fleet.eq_of_beginShutdown_error hbegin
      exact ih _ ⟨posts, d, rfl, hposts, hstep⟩
    · rw [enter_onFleet_bind hbegin]
      obtain ⟨hid, hstep'⟩ := hstep.taken hbegin
      let post : Post S α := .stopping kernel id next
      have hpost : post.Orderly := ⟨hid, hnext⟩
      exact orderly_join hposts hpost hstep'

/-- An errand that is answered leaves order behind. -/
theorem orderly_answered (hs : Reliable Usable Holds)
    (hkernels : Function.Injective supply.kernelId)
    (hsessions : Function.Injective supply.sessionId)
    (husable : ∀ n, Usable (supply.sessionId n)) {r : Registry S}
    {before after : List (Waiting (Registry S) α)} {w : Waiting (Registry S) α} {reply : Reply}
    (hp : Orderly Holds supply log ⟨r, before ++ w :: after⟩) (hreply : reply.Possible w.limit) :
    Orderly Holds supply (log ++ [(w.call, .answered reply)])
      (Pool.enter ⟨r, before ++ after⟩ (w.next reply)) := by
  obtain ⟨posts, d, hwaiting, hposts, hstep⟩ := hp
  obtain ⟨l, others, rfl, rfl, hrest⟩ := List.map_eq_append_iff.1 hwaiting.symm
  obtain ⟨post, m, rfl, rfl, rfl⟩ := List.map_eq_cons_iff.1 hrest
  obtain ⟨answer, rfl⟩ := Option.ne_none_iff_exists'.1 (hreply rfl)
  have hpost : post.Orderly := hposts post (List.mem_append_right _ List.mem_cons_self)
  have hleft : ∀ post ∈ l ++ m, post.Orderly := by
    intro post' hmem
    refine hposts post' ?_
    rcases List.mem_append.1 hmem with hmem | hmem
    · exact List.mem_append_left _ hmem
    · exact List.mem_append_right _ (List.mem_cons_of_mem _ hmem)
  -- Whoever is answered may stand first.
  have hfirst : InStep Holds supply log r (post.stage :: (l ++ m).map Post.stage) d := by
    refine hstep.perm ?_
    rw [← List.map_cons]
    exact List.perm_middle.map _
  rw [← List.map_append]
  show Orderly Holds supply (log ++ [(post.stage.call, .answered (some answer))])
    (Pool.enter ⟨r, (l ++ m).map Post.waiting⟩ (post.resume answer))
  cases post with
  | starting request params next =>
    rcases hsettle : r.fleet.settleLaunch request answer with ⟨g, e | k⟩
    · rw [enter_starting_error hsettle]
      exact orderly_enter hkernels (hpost _) ⟨l ++ m, d, rfl, hleft, hfirst.launch_failed hsettle⟩
    · rw [enter_starting_ok hsettle]
      obtain ⟨d', hstep'⟩ := hfirst.launch_succeeded hs hsessions husable hsettle
      exact orderly_enter hkernels (hpost _) ⟨l ++ m, d', rfl, hleft, hstep'⟩
  | stopping kernel id next =>
    obtain ⟨rfl, hnext⟩ := hpost
    rcases hsettle : r.fleet.settleShutdown kernel answer with ⟨g, e | k⟩
    · rw [enter_stopping_error hsettle]
      exact orderly_enter hkernels (hnext _) ⟨l ++ m, d, rfl, hleft, hfirst.shutdown_failed hsettle⟩
    · rw [enter_stopping_ok hsettle]
      obtain ⟨d', hstep'⟩ := hfirst.shutdown_succeeded hs hsettle
      exact orderly_enter hkernels (hnext _) ⟨l ++ m, d', rfl, hleft, hstep'⟩

/-! ## Runs

Whatever begins is an errand, so that records, kernels and names stay in step through any run, in
whatever order calls are answered. -/

/-- The registry some milliseconds later. -/
def later (r : Registry S) (millis : Nat) : Registry S := { r with fleet := r.fleet.later millis }

/-- What may happen to a registry next, besides the launcher's answers: an operation of the gateway
begins, kernels are ended one after another in any order, or time goes on. -/
inductive MayBegin (p : Pool (Registry S) (Result Unit)) :
    Activity (Registry S) (Result Unit) → Prop where
  | operation (op : Operation) : op.Registered → MayBegin p op.activity
  | inTurn (ids : List String) : MayBegin p (sure (shutdownEach ids))
  | pass (millis : Nat) : MayBegin p (sure (change (later · millis)))

theorem MayBegin.errand {p : Pool (Registry S) (Result Unit)}
    {a : Activity (Registry S) (Result Unit)} (h : MayBegin p a) : Errand a := by
  cases h with
  | operation op hop => exact errand_of_registered hop
  | inTurn ids => exact errand_sure (errand_shutdownEach ids)
  | pass millis => exact errand_sure (.aside (fun r => ⟨_, _, rfl⟩) fun _ => .done _)

/-- Order is kept on every run in which all calls are answered. -/
theorem orderly_of_runs (hs : Reliable Usable Holds) (hkernels : Function.Injective supply.kernelId)
    (hsessions : Function.Injective supply.sessionId)
    (husable : ∀ n, Usable (supply.sessionId n)) {p q : Pool (Registry S) (Result Unit)}
    (hp : Orderly Holds supply [] p) (h : Pool.Runs (fun _ => MayBegin) p log q)
    (hcomplete : log.Complete) : Orderly Holds supply log q := by
  induction h with
  | refl => exact hp
  | begins _ hmay ih => exact orderly_enter hkernels hmay.errand (ih hcomplete)
  | answered _ hreply ih =>
    have hbefore := ih fun c hmem => hcomplete c (List.mem_append_left _ hmem)
    exact orderly_answered hs hkernels hsessions husable hbefore hreply
  | givenUp _ _ => exact absurd (List.mem_append_right _ (List.mem_singleton_self _)) (hcomplete _)

/-- A kernel is tracked, or the launcher has been asked to end it. -/
def Attended (p : Pool (Registry S) α) (id : String) : Prop :=
  p.state.fleet.kernels.contains id = true ∨
    ∃ w ∈ p.waiting, w.call.kind = .terminate ∧ w.call.handle.id = id

/-- The records are those of the kernels that are attended to. -/
theorem Orderly.recorded {p : Pool (Registry S) α} (hp : Orderly Holds supply log p) :
    ∃ d, Holds p.state.store d ∧
      (∀ id, (handleOf d id).isSome = true ↔ Attended p id) ∧
      (∀ id, p.state.started.contains id = true ↔
        (handleOf d id).isSome = true ∧ log.Launched id) ∧
      ∀ id, log.Launched id → ∃ n, id = supply.kernelId n := by
  obtain ⟨r, waiting⟩ := p
  obtain ⟨posts, d, rfl, -, hstep⟩ := hp
  refine ⟨d, hstep.store, fun id => ?_, hstep.started, hstep.named.launched⟩
  rw [Option.isSome_iff_exists]
  constructor
  · rintro ⟨h, hh⟩
    obtain rfl := id_of_handleOf hh
    rcases (hstep.recorded h).1 hh with htracked | ⟨k, hk, rfl⟩
    · left
      rw [Fleet.contains_eq_isSome]
      exact Option.isSome_iff_exists.2 ⟨h, htracked⟩
    -- A kernel in hand is that of a shutdown that waits for the launcher.
    · obtain ⟨post, hpost, hstage⟩ := List.mem_map.1 hk
      refine .inr ⟨post.waiting, List.mem_map_of_mem hpost, ?_⟩
      show post.stage.call.kind = .terminate ∧ post.stage.call.handle.id = k.handle.id
      rw [hstage]
      exact ⟨rfl, rfl⟩
  · rintro (htracked | ⟨w, hw, hkind, rfl⟩)
    · obtain ⟨k, hget⟩ := Dict.contains_iff.1 htracked
      have hid : k.handle.id = id := hstep.sound.keyed id k hget
      refine ⟨k.handle, ?_⟩
      rw [← hid, hstep.recorded]
      left
      show r.fleet.get? k.handle.id = _
      rw [hid, Fleet.get?, hget]
      rfl
    · obtain ⟨post, hpost, rfl⟩ := List.mem_map.1 hw
      cases post with
      | starting request params next => cases hkind
      | stopping kernel id next =>
        refine ⟨kernel.handle, ?_⟩
        show handleOf d kernel.handle.id = some kernel.handle
        rw [hstep.recorded]
        exact .inr ⟨kernel, List.mem_map.2 ⟨_, hpost, rfl⟩, rfl⟩

/-- After a recovery, and however errands overlap from then on, there are records of just the
kernels that are tracked or are being ended; those of them that count as started are those that this
run has launched, so that no kernel which was taken over is among them. -/
theorem records_of_runs {rules : FleetRules} {limit : Int} {store : S} {recoveryLimit : Nat}
    {d : Dict SessionRecord} (hs : Reliable Usable Holds) (hd : Holds store d)
    (hfresh : supply.FreshFor d) (husable : ∀ n, Usable (supply.sessionId n)) {calls : Calls}
    {r : Registry S} {report : RecoveryReport}
    (hstart : startSessions.Ends Passes (new (.empty rules limit supply) store recoveryLimit) calls
      r report)
    {p : Pool (Registry S) (Result Unit)} (h : Pool.Runs (fun _ => MayBegin) (.quiet r) log p)
    (hcomplete : log.Complete) :
    ∃ d', Holds p.state.store d' ∧
      (∀ id, (∃ record ∈ d'.values, record.kernel.id = id) ↔ Attended p id) ∧
      (∀ id, p.state.started.contains id = true ↔ Attended p id ∧ log.Launched id) ∧
      ∀ id, r.fleet.kernels.contains id = true → p.state.started.contains id = false := by
  obtain ⟨turns, -, hturns⟩ := exists_tookTurns hs hd hstart
  have hp : Orderly Holds supply [] (.quiet r : Pool (Registry S) (Result Unit)) :=
    (hturns.inStep (hs.filed hd) hfresh).orderly
  obtain ⟨d', hd', hattended, hstarted, hlaunched⟩ :=
    (orderly_of_runs hs hfresh.kernels hfresh.sessions husable hp h hcomplete).recorded
  refine ⟨d', hd', fun id => ?_, fun id => ?_, fun id htaken => ?_⟩
  · rw [← isSome_handleOf_iff]
    exact hattended id
  · rw [hstarted, hattended]
  · -- A kernel that was taken over has its name from a record, and not from the supply.
    rw [Bool.eq_false_iff, ne_eq, hstarted]
    rintro ⟨-, hid⟩
    obtain ⟨n, rfl⟩ := hlaunched id hid
    obtain ⟨k, hget⟩ := Dict.contains_iff.1 htaken
    have hunused := hturns.unused (hs.filed hd) hfresh n
    exact absurd (hunused.symm.trans hget) nofun

/-! ## A small gateway -/

/-- Names that grow longer and longer. -/
def tally (c : Char) (n : Nat) : String := String.ofList (List.replicate (n + 1) c)

theorem tally_injective (c : Char) : Function.Injective (tally c) := by
  intro n m heq
  have hlist : List.replicate (n + 1) c = List.replicate (m + 1) c := String.ofList_injective heq
  have hlength := congrArg List.length hlist
  rw [List.length_replicate, List.length_replicate] at hlength
  exact Nat.succ.inj hlength

/-- Names that can always be told from others, and ports that can all be bound. -/
def tallied : Supply where
  kernelId := tally 'k'
  sessionId := tally 'x'
  ports := Fleet.plainSupply.ports

theorem fresh_of_tallied {d : Dict SessionRecord}
    (hkernels : ∀ record ∈ d.values, record.kernel.id.toList.head? ≠ some 'k')
    (hsessions : ∀ e ∈ d.toList, e.1.toList.head? ≠ some 'x') : tallied.FreshFor d where
  kernels := tally_injective 'k'
  sessions := tally_injective 'x'
  unused := by
    intro n record hmem heq
    refine hkernels record hmem ?_
    rw [heq]
    simp [tallied, tally, List.replicate_succ]
  unnamed := by
    intro n
    refine Option.eq_none_iff_forall_ne_some.2 fun record hget => ?_
    refine hsessions _ (Dict.mem_toList.2 hget) ?_
    simp [tallied, tally, List.replicate_succ]

/-- A gateway that starts with what an earlier one has left over, and finds all of it alive. -/
def woken : Registry MemoryStore × RecoveryReport :=
  (startSessions.run (answering (.ok ())) ()
    (new (.empty (Fleet.openRules none) (-1) tallied) leftOver 1000)).2

theorem ends_woken :
    ∃ calls, startSessions.Ends Passes
      (new (.empty (Fleet.openRules none) (-1) tallied) leftOver 1000) calls woken.1 woken.2 :=
  ends_run _ (fun _ => ⟨0, rfl⟩) (fun _ _ limit => Reply.possible_some limit _) _ () _

/-- It launches a kernel. -/
def expanding : Pool (Registry MemoryStore) (Result Unit) :=
  (Pool.quiet woken.1).enter (Operation.startKernel .python (.forUser "bob")).activity

/-- The kernel runs, and another one, which was taken over, is being ended. -/
def overlapping : Pool (Registry MemoryStore) (Result Unit) :=
  (expanding.settle 0 (.answered (some (.ok ())))).enter (Operation.shutdownKernel "a").activity

/-- The records of a kernel stay while it is being ended, and only what was launched has started. -/
theorem records_of_overlapping :
    overlapping.state.fleet.kernels.contains "a" = false ∧
      (∃ record ∈ overlapping.state.store.values, record.kernel.id = "a") ∧
      History.Launched (expanding.record 0 (.answered (some (.ok ())))) "k" ∧
      overlapping.state.started.contains "a" = false := by
  obtain ⟨calls, hends⟩ := ends_woken
  have hexpanding : Pool.Runs (fun _ => MayBegin) (.quiet woken.1) [] expanding :=
    Pool.Runs.refl.begins (.operation (.startKernel .python (.forUser "bob")) trivial)
  have hruns : Pool.Runs (fun _ => MayBegin) (.quiet woken.1)
      (expanding.record 0 (.answered (some (.ok ())))) overlapping :=
    (hexpanding.answer 0 (.ok ())).begins (.operation (.shutdownKernel "a") trivial)
  have hcomplete : (expanding.record 0 (.answered (some (.ok ())))).Complete := by
    intro c hmem
    obtain ⟨w, -, hw⟩ := List.mem_map.1 hmem
    cases hw
  obtain ⟨_, ⟨rfl, -⟩, hrecords, hstarted, htaken⟩ :=
    records_of_runs reliable_memory ⟨rfl, filed_leftOver⟩
      (fresh_of_tallied (by decide +kernel) (by decide +kernel)) (fun _ => trivial) hends hruns
      hcomplete
  exact ⟨by decide +kernel, (hrecords "a").2 (.inr (by decide +kernel)),
    ((hstarted "k").1 (by decide +kernel)).2, htaken "a" (by decide +kernel)⟩

end Registry

end KernelGate
