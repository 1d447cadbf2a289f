import KernelGate.Proofs.Registry.Ending
import KernelGate.Proofs.Registry.Uses

/-!
# Idle kernels are ended

A pass of the culler that nothing else comes between ends the kernels that have been idle for long
enough, each by the launcher's word. Those that could not be ended are tracked as they were, so that
the next pass finds them idle again.

Main statements: `culled_of_ends` says what a pass comes to, and `culls_of_lived` that it comes to
this after any operations one at a time, for just the kernels that were last in use long enough ago.
-/

namespace KernelGate

open Activity

namespace Registry

variable {S : Type} {Holds : S → Dict SessionRecord → Prop} {rules : FleetRules} {userLimit : Int}
  {supply : Supply} {unread : SessionRecord → Prop} {log calls : Calls} {uses : List Use}
  {r r' : Registry S} {d d' : Dict SessionRecord} {ids : List String} {answers : Answers}

/-! ## Kernels that are ended one after another

What has become of each kernel can be read off the calls, so that the number of those stopped can be
counted by what the launcher said. -/

/-- What the launcher said about each kernel can be read off the calls. -/
theorem Answers.terminations_injective : Function.Injective terminations := by
  refine List.map_injective_iff.2 ?_
  rintro ⟨handle, answer⟩ ⟨handle', answer'⟩ h
  cases h
  rfl

theorem Answers.length_stopped (answers : Answers) :
    answers.stopped.length = answers.countP fun a => a.2.isOk := by
  rw [stopped, List.length_map, List.countP_eq_length_filter]

/-- Figures have no part in it. -/
theorem Closed.count (h : Closed Holds r d ids answers calls r' d') (f : Metrics → Metrics) :
    Closed Holds r d ids answers calls (r'.count f) d' where
  calls := h.calls
  once := h.once
  handles := h.handles
  kept := h.kept
  ended := h.ended
  others := h.others
  started := h.started
  store := h.store
  records := h.records
  recorded := h.recorded
  slots := h.slots
  freed := h.freed

variable [SessionStore S] {Usable : String → Prop}

/-! ## Passes of the culler

A pass looks for idle kernels and ends them one after another, in an order that nothing is assumed
of. Since nothing comes between, they are the kernels that are idle when it begins. -/

/-- What a pass over these kernels, which were idle for a time, comes to. -/
structure Culled (Holds : S → Dict SessionRecord → Prop) (millis : Nat) (r : Registry S)
    (d : Dict SessionRecord) (ids : List String) (answers : Answers) (calls : Calls)
    (r' : Registry S) (d' : Dict SessionRecord) (x : Nat) : Prop where
  closed : Closed Holds r d ids answers calls r' d'
  /-- It says how many could be ended. -/
  result : x = answers.countP fun a => a.2.isOk
  /-- All others are idle still, however late it has become. -/
  again : ∀ a ∈ answers, ∀ e, a.2 = .error e → ∀ wait, a.1.id ∈ (r'.later wait).fleet.idle millis

/-- A kernel that could not be ended has its old time of use back, so that it is idle for the next
pass too. -/
theorem culled_of_ends {millis x : Nat} (hs : Reliable Usable Holds)
    (hids : ids.Perm (r.fleet.idle millis))
    (hr : Steady Holds rules userLimit supply unread log r d)
    (h : (cull ids).Ends Passes r calls r' x) :
    ∃ answers d', Culled Holds millis r d ids answers calls r' d' x := by
  have hnodup : ids.Nodup := hids.nodup_iff.2 (r.fleet.nodup_idle millis)
  have hidle : ∀ id ∈ ids, ∃ k, r.fleet.kernels.get? id = some k ∧
      millis ≤ r.fleet.now - k.lastActivity :=
    fun id hid => Fleet.mem_idle.1 (hids.mem_iff.1 hid)
  have htracked : ∀ id ∈ ids, r.fleet.kernels.contains id = true := by
    intro id hid
    obtain ⟨k, hget, -⟩ := hidle id hid
    exact Dict.contains_iff.2 ⟨k, hget⟩
  obtain ⟨r₁, stopped, first, _, h₁, h₂, rfl⟩ := ends_bind_iff.1 h
  obtain ⟨_, h₃, rfl⟩ := ends_map_iff.1 h₂
  obtain ⟨rfl, rfl⟩ := ends_change_iff.1 h₃
  obtain ⟨answers, d', hclosed⟩ := closed_of_ends hs hnodup htracked hr h₁
  have hresult : x = answers.countP fun a => a.2.isOk := by
    obtain ⟨answers', -, -, hcalls, hstopped, -⟩ :=
      shutEach_of_covered hs hnodup htracked hr.routine.balanced.covered hr.store h₁
    obtain rfl := Answers.terminations_injective (hclosed.calls.symm.trans hcalls)
    rw [hstopped, Answers.length_stopped]
  have hagain : ∀ a ∈ answers, ∀ e, a.2 = .error e →
      ∀ wait, a.1.id ∈ (r₁.later wait).fleet.idle millis := by
    intro a ha e he wait
    have hmem : a.1.id ∈ ids := hclosed.once ▸ List.mem_map_of_mem ha
    obtain ⟨k, hget, hlong⟩ := hidle a.1.id hmem
    refine Fleet.mem_idle.2 ⟨k, (hclosed.kept a ha e he).trans hget, ?_⟩
    -- The clock only goes on, and the kernel has its old time of use back.
    have hnow : r.fleet.now ≤ r₁.fleet.now := by
      obtain ⟨waits, hunfolds, -⟩ := exists_unfolds_of_ends exists_timed_of_passes h₁
      exact now_le_of_shutdownEach (hunfolds.mono stirred_of_timed)
    show millis ≤ r₁.fleet.now + wait - k.lastActivity
    omega
  rw [List.append_nil]
  refine ⟨answers, d', ?_⟩
  split
  · exact ⟨hclosed, hresult, hagain⟩
  · exact ⟨hclosed.count _, hresult, hagain⟩

/-- A pass ends these kernels, which were idle for a time, whatever the launcher says of each. -/
structure Culls (Holds : S → Dict SessionRecord → Prop) (millis : Nat) (r : Registry S)
    (d : Dict SessionRecord) (ids : List String) (a : Activity (Registry S) Nat) : Prop where
  ends : ∀ verdict : KernelHandle → Result Unit, ∃ calls r' x, a.Ends Passes r calls r' x ∧
    ∀ e ∈ calls, e.2 = some (verdict e.1.handle)
  culled : ∀ {calls r' x}, a.Ends Passes r calls r' x →
    ∃ answers d', Culled Holds millis r d ids answers calls r' d' x

/-- After any operations one at a time: a pass that nothing else comes between ends, in whatever
order, just the kernels whose last use, by the diary, is as long ago. -/
theorem culls_of_lived {store : S} {recoveryLimit : Nat} {old : Dict SessionRecord}
    {ops : List Operation} (hs : Reliable Usable Holds) (hd : Holds store old)
    (hfresh : supply.FreshFor old) (husable : ∀ n, Usable (supply.sessionId n))
    (h : Lived (new (.empty rules userLimit supply) store recoveryLimit) ops uses log r)
    (millis : Nat) :
    (∀ id, id ∈ r.fleet.idle millis ↔ r.fleet.kernels.contains id = true ∧
      ∃ time, lastUse uses id = some time ∧ millis ≤ r.fleet.now - time) ∧
    ∃ d, Holds r.store d ∧
      Culls Holds millis r d (r.fleet.idle millis) (cullIdle millis) ∧
      ∀ ids : List String, ids.Perm (r.fleet.idle millis) →
        Culls Holds millis r d ids (cull ids) := by
  obtain ⟨d, hr⟩ := steady_of_ran hs hd hfresh husable h.ran
  have hcull (ids : List String) (hids : ids.Perm (r.fleet.idle millis)) :
      Culls Holds millis r d ids (cull ids) :=
    ⟨exists_ends_by _ r, culled_of_ends hs hids hr⟩
  refine ⟨fun id => mem_idle_of_lived h, d, hr.store, ⟨exists_ends_by _ r, ?_⟩, hcull⟩
  intro calls r' x hends
  exact (hcull _ (.refl _)).culled (ends_look_bind_iff.1 hends)

/-- A gateway that has launched a kernel of its own before it took over what was left. -/
theorem ran_staffed :
    ∃ log, Ran asleep [.startKernel .python (.forUser "bob"), .startSessions] log staffed := by
  obtain ⟨first, hwoken⟩ := ends_woken
  have hrecovered : Operation.startSessions.activity.Ends Passes asleep first woken.1 (.ok ()) :=
    ends_map_iff.2 ⟨woken.2, hwoken, rfl⟩
  obtain ⟨second, hstaffed⟩ :=
    ends_answering (.ok ()) (.startKernel .python (.forUser "bob")) woken.1
  have hrecorded : Operation.startSessions.Recorded := trivial
  exact ⟨_, (Ran.start.does hrecorded hrecovered).does trivial hstaffed⟩

/-- Of three kernels a client has asked for one only a moment ago. -/
def rested : Registry MemoryStore :=
  { staffed.later 2000 with fleet := (staffed.later 2000).fleet.touch "k" }

/-- Of the two others one cannot be ended: it stays idle, and the other one goes. -/
theorem culls_of_rested :
    ∃ uses log, Lived asleep
        [.touch "k", .startKernel .python (.forUser "bob"), .startSessions] uses log rested ∧
      (∃ time, lastUse uses "b" = some time ∧ 1000 ≤ rested.fleet.now - time) ∧
      ∃ calls r' x, (cullIdle 1000).Ends Passes rested calls r' x ∧ x = 1 ∧
        (calls.map fun e => (e.1.kind, e.1.handle.id)) =
          [(.terminate, "a"), (.terminate, "b")] ∧
        r'.fleet.kernels.get? "a" = rested.fleet.kernels.get? "a" ∧
        "a" ∈ (r'.later 60000).fleet.idle 1000 ∧
        r'.fleet.kernels.get? "b" = none ∧
        r'.fleet.kernels.get? "k" = rested.fleet.kernels.get? "k" := by
  obtain ⟨log, hstaffed⟩ := ran_staffed
  have htouched : (Operation.touch "k").activity.Ends Passes (staffed.later 2000) [] rested
      (.ok ()) := .step (.done _ _)
  have hrecorded : (Operation.touch "k").Recorded := trivial
  obtain ⟨uses, hlived⟩ := exists_lived_of_ran ((hstaffed.passes 2000).does hrecorded htouched)
  obtain ⟨hidle, d, ⟨rfl, hfiled⟩, hculls, -⟩ :=
    culls_of_lived reliable_memory ⟨rfl, filed_leftOver⟩
      (fresh_of_tallied (by decide +kernel) (by decide +kernel)) (fun _ => trivial) hlived 1000
  have hids : rested.fleet.idle 1000 = ["a", "b"] := by decide +kernel
  have hlast := ((hidle "b").1 (by rw [hids]; simp)).2
  obtain ⟨calls, r', x, hends, hsaid⟩ := hculls.ends stubborn
  obtain ⟨answers, d', hculled⟩ := hculls.culled hends
  have hclosed := hculled.closed
  have honce := hclosed.once
  rw [hids] at honce
  -- The two are asked for in the order of their ids.
  obtain ⟨a, _, rfl, ha, h₂⟩ := List.map_eq_cons_iff.1 honce
  obtain ⟨b, _, rfl, hb, h₃⟩ := List.map_eq_cons_iff.1 h₂
  obtain rfl := List.map_eq_nil_iff.1 h₃
  have hanswer : ∀ c ∈ [a, b], c.2 = stubborn c.1 := by
    intro c hc
    have hmem : (LauncherCall.terminate c.1, some c.2) ∈ calls := by
      rw [hclosed.calls]
      exact List.mem_map_of_mem hc
    exact Option.some.inj (hsaid _ hmem)
  have hfailed : a.2 = .error (.io (.other "cannot stop")) :=
    (hanswer a (by simp)).trans (if_pos ha)
  have hended : b.2 = .ok () := (hanswer b (by simp)).trans (if_neg (by simp [hb]))
  refine ⟨uses, _, hlived, hlast, calls, r', x, hends, ?result, ?calls, ?kept, ?again, ?gone,
    ?other⟩
  case result =>
    rw [hculled.result]
    simp [hfailed, hended, Except.isOk, Except.toBool]
  case calls =>
    rw [hclosed.calls]
    simp [Answers.terminations, LauncherCall.kind, LauncherCall.handle, ha, hb]
  case kept =>
    rw [← ha]
    exact hclosed.kept a (by simp) _ hfailed
  case again =>
    rw [← ha]
    exact hculled.again a (by simp) _ hfailed 60000
  case gone =>
    rw [← hb]
    exact hclosed.ended b (by simp) hended
  case other => exact hclosed.others "k" (by rw [hids]; simp)

end Registry

end KernelGate
