import KernelGate.Proofs.Registry.Restart
import KernelGate.Proofs.Registry.Steady

/-!
# What is left when many kernels are ended

All kernels are ended one after another, or all that this run has launched. Whichever of them the
launcher does not end, and in whatever order they have their turns, each is asked for once; those
that could not be ended stay as they were, with their records and their slots, and so does whatever
was not to be ended.

The records of an earlier run that have not been looked at yet are of kernels that nobody tracks.
They outlast all that is ended, so that what is left need not be the records of kernels that could
not be ended.

Main statements: `closed_of_ends` says what such an end comes to, and `closes_of_ran` that it comes
to this after any operations one at a time.
-/

namespace KernelGate

open Activity

namespace Registry

variable {S : Type} {Holds : S → Dict SessionRecord → Prop} {rules : FleetRules} {userLimit : Int}
  {supply : Supply} {unread : SessionRecord → Prop} {log calls : Calls} {r r' : Registry S}
  {d d' : Dict SessionRecord} {ids : List String} {answers : Answers}

/-! ## Kernels that were stopped

The slots that are given back are those of the kernels that were stopped, no matter in which order.
-/

/-- Of each selection as many kernels are gone as were stopped. -/
theorem tracked_of_without {f g : Fleet} (hids : (answers.map (·.1.id)).Nodup)
    (hasked : ∀ a ∈ answers, f.get? a.1.id = some a.1)
    (hkernels : g.kernels = f.kernels.without answers.stopped) (sel : KernelHandle → Bool) :
    f.tracked sel = g.tracked sel + answers.countP fun a => a.2.isOk && sel a.1 := by
  induction answers generalizing f with
  | nil =>
    rw [show Answers.stopped [] = [] from rfl, Dict.without_nil] at hkernels
    rw [Fleet.tracked_congr hkernels]
    rfl
  | cons a rest ih =>
    obtain ⟨handle, answer⟩ := a
    obtain ⟨hother, hrest⟩ := List.nodup_cons.1 hids
    obtain ⟨hhere, hthere⟩ := List.forall_mem_cons.1 hasked
    cases answer with
    | error e => exact ih hrest hthere hkernels
    | ok _ =>
      obtain ⟨k, hget, rfl⟩ := Option.map_eq_some_iff.1 hhere
      have hleft : g.kernels = (f.kernels.erase k.handle.id).without (Answers.stopped rest) := by
        rw [← Dict.without_cons]
        exact hkernels
      have hthere' : ∀ a ∈ rest,
          Fleet.get? { f with kernels := f.kernels.erase k.handle.id } a.1.id = some a.1 := by
        intro a ha
        have hne : a.1.id ≠ k.handle.id := by
          intro heq
          exact hother (List.mem_map.2 ⟨a, ha, heq⟩)
        rw [← hthere a ha, Fleet.get?, Fleet.get?, Dict.get?_erase_of_ne _ hne]
      have hfewer := ih hrest hthere' hleft
      have hless := Fleet.tracked_of_erase (g := { f with kernels := f.kernels.erase k.handle.id })
        rfl hget sel
      rw [hless, hfewer, List.countP_cons]
      simp [Except.isOk, Except.toBool]
      omega

/-! ## What an end of kernels comes to

What is left is told by the answers alone. It is shown for any list of kernels that are tracked and
all different; the end of all kernels, and that of the kernels which this run launched, are such
lists. -/

/-- What has become of a registry when these kernels have been ended one after another, where the
launcher gave these answers. -/
structure Closed (Holds : S → Dict SessionRecord → Prop) (r : Registry S) (d : Dict SessionRecord)
    (ids : List String) (answers : Answers) (calls : Calls) (r' : Registry S)
    (d' : Dict SessionRecord) : Prop where
  /-- The launcher was asked to end each of them, and nothing else. -/
  calls : calls = answers.terminations
  once : answers.map (·.1.id) = ids
  handles : ∀ a ∈ answers, r.fleet.get? a.1.id = some a.1
  /-- Those that could not be ended are tracked as they were. -/
  kept : ∀ a ∈ answers, ∀ e, a.2 = .error e →
    r'.fleet.kernels.get? a.1.id = r.fleet.kernels.get? a.1.id
  ended : ∀ a ∈ answers, a.2 = .ok () → r'.fleet.kernels.get? a.1.id = none
  others : ∀ id, id ∉ ids → r'.fleet.kernels.get? id = r.fleet.kernels.get? id
  started : ∀ id, r'.started.contains id = true ↔
    r.started.contains id = true ∧ r'.fleet.kernels.contains id = true
  store : Holds r'.store d'
  /-- Just those records are gone whose kernels are tracked no more. -/
  records : ∀ session record, d'.get? session = some record ↔ d.get? session = some record ∧
    (r.fleet.kernels.contains record.kernel.id = true →
      r'.fleet.kernels.contains record.kernel.id = true)
  recorded : ∀ id, r'.fleet.kernels.contains id = true → ∃ record ∈ d'.values, record.kernel.id = id
  /-- Users have a slot for each kernel of theirs that is still tracked. -/
  slots : ∀ user, r'.fleet.ledger.active user = r'.fleet.tracked (Fleet.ownedBy user)
  /-- The slots of kernels that ended are given back, and no others. -/
  freed : ∀ user, r.fleet.ledger.active user = r'.fleet.ledger.active user +
    answers.countP fun a => a.2.isOk && Fleet.ownedBy user a.1

/-- An activity ends these kernels one after another, whatever the launcher says of each. -/
structure Closes {α : Type} (Holds : S → Dict SessionRecord → Prop) (r : Registry S)
    (d : Dict SessionRecord) (ids : List String) (a : Activity (Registry S) α) : Prop where
  ends : ∀ verdict : KernelHandle → Result Unit, ∃ calls r' x, a.Ends Passes r calls r' x ∧
    ∀ e ∈ calls, e.2 = some (verdict e.1.handle)
  closed : ∀ {calls r' x}, a.Ends Passes r calls r' x →
    ∃ answers d', Closed Holds r d ids answers calls r' d'

/-- Whatever the launcher is to say of each kernel, it comes to that. -/
theorem exists_ends_by {α : Type} (a : Activity (Registry S) α) (r : Registry S)
    (verdict : KernelHandle → Result Unit) :
    ∃ calls r' x, a.Ends Passes r calls r' x ∧ ∀ e ∈ calls, e.2 = some (verdict e.1.handle) := by
  have hdrift : ∀ r : Registry S, Passes r r := fun r => ⟨0, rfl⟩
  obtain ⟨calls, r', x, hends, hfollows⟩ :=
    exists_ends_of_follows (fun (_ : Unit) c _ => ((), some (verdict c.handle))) hdrift
      (fun _ _ limit => Reply.possible_some limit _) a () r
  have hsaid : ∀ e ∈ calls, e.2 = some (verdict e.1.handle) :=
    hfollows.forall (P := fun c reply => reply = some (verdict c.handle)) fun _ _ _ => rfl
  exact ⟨calls, r', x, hends, hsaid⟩

variable [SessionStore S] {Usable : String → Prop}

/-- Kernels, records, slots and names of what was started are followed through the list. -/
theorem closed_of_ends (hs : Reliable Usable Holds) (hids : ids.Nodup)
    (htracked : ∀ id ∈ ids, r.fleet.kernels.contains id = true) {x : Nat}
    (hr : Steady Holds rules userLimit supply unread log r d)
    (h : (shutdownEach ids).Ends Passes r calls r' x) :
    ∃ answers d', Closed Holds r d ids answers calls r' d' := by
  have hbalanced := hr.routine.balanced
  obtain ⟨answers, d', honce, hcalls, -, hd', heach⟩ :=
    shutEach_of_covered hs hids htracked hbalanced.covered hr.store h
  obtain ⟨d'', hr'⟩ := hr.shutdownEach hs h
  -- The records are known from the walk through the list and from the invariant: they are the same.
  obtain rfl := hs.unique hd' hr'.store
  have hnodup : (answers.map (·.1.id)).Nodup := honce ▸ hids
  have hstopped : ∀ id ∈ answers.stopped, id ∈ ids ∧ r.fleet.kernels.contains id = true := by
    intro id hid
    obtain ⟨a, ha, rfl⟩ := List.mem_map.1 hid
    have hmem : a.1.id ∈ ids := honce ▸ List.mem_map_of_mem (List.mem_of_mem_filter ha)
    exact ⟨hmem, htracked _ hmem⟩
  have hget (id : String) : r'.fleet.kernels.get? id =
      if id ∈ answers.stopped then none else r.fleet.kernels.get? id := by
    rw [heach.kernels, Dict.get?_without]
  have hcontains (id : String) : r'.fleet.kernels.contains id = true ↔
      id ∉ answers.stopped ∧ r.fleet.kernels.contains id = true := by
    rw [Dict.contains, hget]
    by_cases hid : id ∈ answers.stopped <;> simp [hid, Dict.contains]
  refine ⟨answers, d', hcalls, honce, heach.asked, ?kept, ?ended, ?others, ?started, hd', ?records,
    hr'.recorded, hr'.routine.balanced.counted, ?freed⟩
  case kept =>
    intro a ha e he
    rw [hget, if_neg ((Answers.not_mem_stopped hnodup ha).2 ⟨e, he⟩)]
  case ended =>
    intro a ha hok
    rw [hget, if_pos ((Answers.mem_stopped hnodup ha).2 (by rw [hok]; rfl))]
  case others =>
    intro id hid
    rw [hget, if_neg fun hmem => hid (hstopped id hmem).1]
  case started =>
    intro id
    have hbefore := hr.started id
    rw [heach.started, Dict.contains, Dict.get?_without, hcontains]
    by_cases hid : id ∈ answers.stopped
    · simp [hid]
    · rw [if_neg hid]
      exact ⟨fun hthere => ⟨hthere, hid, (hbefore.1 hthere).1⟩, And.left⟩
  case records =>
    intro session record
    rw [heach.records, get?_recordsWithout, Option.filter_eq_some_iff, decide_eq_true_eq]
    refine and_congr_right fun _ => ?_
    rw [hcontains]
    constructor
    · exact fun hid hthere => ⟨hid, hthere⟩
    · exact fun hthere hid => (hthere (hstopped _ hid).2).1 hid
  case freed =>
    intro user
    rw [hbalanced.counted, hr'.routine.balanced.counted]
    exact tracked_of_without hnodup heach.asked heach.kernels _

/-- Whatever the launcher makes of each kernel, the list is worked off, and this is what is left. -/
theorem closes_shutdownEach (hs : Reliable Usable Holds) (hids : ids.Nodup)
    (htracked : ∀ id ∈ ids, r.fleet.kernels.contains id = true)
    (hr : Steady Holds rules userLimit supply unread log r d) :
    Closes Holds r d ids (shutdownEach ids) where
  ends := exists_ends_by _ r
  closed h := closed_of_ends hs hids htracked hr h

/-- After any operations one at a time: to end all kernels, or all that this run has launched, in
whatever order, ends these and no others. -/
theorem closes_of_ran {store : S} {recoveryLimit : Nat} {old : Dict SessionRecord}
    {ops : List Operation} (hs : Reliable Usable Holds) (hd : Holds store old)
    (hfresh : supply.FreshFor old) (husable : ∀ n, Usable (supply.sessionId n))
    (h : Ran (new (.empty rules userLimit supply) store recoveryLimit) ops log r) :
    ∃ d, Holds r.store d ∧
      (∀ record ∈ d.values, r.fleet.kernels.contains record.kernel.id = true ∨
        .startSessions ∉ ops ∧ record ∈ old.values) ∧
      (∀ id, r.started.contains id = true ↔
        r.fleet.kernels.contains id = true ∧ (historyOf log).Launched id) ∧
      Closes Holds r d r.fleet.kernels.keys shutdownAll ∧
      Closes Holds r d r.started.keys shutdownStarted ∧
      ∀ ids : List String, ids.Perm r.fleet.kernels.keys ∨ ids.Perm r.started.keys →
        Closes Holds r d ids (shutdownEach ids) := by
  obtain ⟨d, hr⟩ := steady_of_ran hs hd hfresh husable h
  have hall (ids : List String) (hperm : ids.Perm r.fleet.kernels.keys) :
      Closes Holds r d ids (shutdownEach ids) := by
    refine closes_shutdownEach hs (hperm.nodup_iff.2 r.fleet.kernels.nodup_keys) ?_ hr
    intro id hid
    exact Dict.mem_keys.1 (hperm.mem_iff.1 hid)
  have hstarted (ids : List String) (hperm : ids.Perm r.started.keys) :
      Closes Holds r d ids (shutdownEach ids) := by
    refine closes_shutdownEach hs (hperm.nodup_iff.2 r.started.nodup_keys) ?_ hr
    intro id hid
    exact ((hr.started id).1 (Dict.mem_keys.1 (hperm.mem_iff.1 hid))).1
  refine ⟨d, hr.store, hr.left, hr.started, ⟨exists_ends_by _ r, ?all⟩,
    ⟨exists_ends_by _ r, ?launched⟩, fun ids hperm => hperm.elim (hall ids) (hstarted ids)⟩
  case all =>
    intro calls r' x hends
    obtain ⟨n, hn, -⟩ := ends_map_iff.1 (ends_look_bind_iff.1 hends)
    exact (hall _ (.refl _)).closed hn
  case launched =>
    intro calls r' x hends
    obtain ⟨n, hn, -⟩ := ends_map_iff.1 (ends_look_bind_iff.1 hends)
    exact (hstarted _ (.refl _)).closed hn

/-- A gateway that has not looked at the records of an earlier run. -/
def asleep : Registry MemoryStore :=
  new (.empty (Fleet.openRules none) (-1) tallied) leftOver 1000

/-- So the records that are left are not just those of kernels that could not be ended. -/
theorem records_of_asleep :
    Ran asleep [] [] asleep ∧
      ¬ ∀ calls r' x, shutdownAll.Ends Passes asleep calls r' x →
        ∀ record ∈ r'.store.values, ∃ e, (.terminate record.kernel, some (.error e)) ∈ calls := by
  refine ⟨.start, fun h => ?_⟩
  -- No kernel is tracked, so that none is asked for.
  have hends : shutdownAll.Ends Passes asleep [] asleep () := .step (.done _ _)
  have hrecord : ⟨"third", ⟨"b", "python3", "alice", "localhost", []⟩, .silent⟩ ∈
      asleep.store.values := by decide +kernel
  obtain ⟨e, hmem⟩ := h _ _ _ hends _ hrecord
  cases hmem

/-- A launcher that cannot end the kernel a. -/
def stubborn (kernel : KernelHandle) : Result Unit :=
  if kernel.id = "a" then .error (.io (.other "cannot stop")) else .ok ()

/-- Of three kernels, two of which were taken over, one cannot be ended: it stays as it was, with
its two records, and the others go with theirs. -/
theorem closes_of_staffed :
    ∃ log, Ran asleep [.startKernel .python (.forUser "bob"), .startSessions] log staffed ∧
      staffed.fleet.kernels.keys = ["a", "b", "k"] ∧
      ∃ calls r' x, shutdownAll.Ends Passes staffed calls r' x ∧
        (calls.map fun e => (e.1.kind, e.1.handle.id)) =
          [(.terminate, "a"), (.terminate, "b"), (.terminate, "k")] ∧
        r'.fleet.kernels.get? "a" = staffed.fleet.kernels.get? "a" ∧
        r'.fleet.kernels.get? "b" = none ∧ r'.fleet.kernels.get? "k" = none ∧
        r'.store.get? "second" = staffed.store.get? "second" ∧ r'.store.get? "third" = none := by
  obtain ⟨first, hwoken⟩ := ends_woken
  have hrecorded : Operation.startSessions.Recorded := trivial
  have hrecovered : Operation.startSessions.activity.Ends Passes asleep first woken.1 (.ok ()) :=
    ends_map_iff.2 ⟨woken.2, hwoken, rfl⟩
  obtain ⟨second, hstaffed⟩ :=
    ends_answering (.ok ()) (.startKernel .python (.forUser "bob")) woken.1
  have hran : Ran asleep
      [.startKernel .python (.forUser "bob"), .startSessions] ([] ++ first ++ second) staffed :=
    (Ran.start.does hrecorded hrecovered).does trivial hstaffed
  obtain ⟨d, ⟨rfl, hfiled⟩, -, -, hall, -⟩ :=
    closes_of_ran reliable_memory ⟨rfl, filed_leftOver⟩
      (fresh_of_tallied (by decide +kernel) (by decide +kernel)) (fun _ => trivial) hran
  obtain ⟨calls, r', x, hends, hsaid⟩ := hall.ends stubborn
  obtain ⟨answers, d', hclosed⟩ := hall.closed hends
  have hkeys : staffed.fleet.kernels.keys = ["a", "b", "k"] := by decide +kernel
  have honce := hclosed.once
  rw [hkeys] at honce
  -- There is one answer for each kernel, in the order of their ids.
  obtain ⟨a, _, rfl, ha, h₂⟩ := List.map_eq_cons_iff.1 honce
  obtain ⟨b, _, rfl, hb, h₃⟩ := List.map_eq_cons_iff.1 h₂
  obtain ⟨k, _, rfl, hk, h₄⟩ := List.map_eq_cons_iff.1 h₃
  obtain rfl := List.map_eq_nil_iff.1 h₄
  have hanswer : ∀ c ∈ [a, b, k], c.2 = stubborn c.1 := by
    intro c hc
    have hmem : (LauncherCall.terminate c.1, some c.2) ∈ calls := by
      rw [hclosed.calls]
      exact List.mem_map_of_mem hc
    exact Option.some.inj (hsaid _ hmem)
  have hkept : r'.fleet.kernels.get? "a" = staffed.fleet.kernels.get? "a" := by
    rw [← ha]
    exact hclosed.kept a (by simp) _ ((hanswer a (by simp)).trans (if_pos ha))
  have hended : ∀ c ∈ [a, b, k], c.1.id ≠ "a" → r'.fleet.kernels.get? c.1.id = none := by
    intro c hc hne
    exact hclosed.ended c hc ((hanswer c hc).trans (if_neg hne))
  have hnone : r'.fleet.kernels.get? "b" = none := by
    rw [← hb]
    exact hended b (by simp) (by simp [hb])
  have hgone : r'.fleet.kernels.get? "k" = none := by
    rw [← hk]
    exact hended k (by simp) (by simp [hk])
  obtain ⟨rfl, -⟩ := hclosed.store
  have hsecond : staffed.store.get? "second" =
      some ⟨"second", ⟨"a", "python3", "alice", "elsewhere", []⟩, .silent⟩ := by decide +kernel
  have hthird : staffed.store.get? "third" =
      some ⟨"third", ⟨"b", "python3", "alice", "localhost", []⟩, .silent⟩ := by decide +kernel
  refine ⟨_, hran, hkeys, calls, r', x, hends, ?calls, hkept, hnone, hgone, ?second, ?third⟩
  case calls =>
    rw [hclosed.calls]
    simp [Answers.terminations, LauncherCall.kind, LauncherCall.handle, ha, hb, hk]
  case second =>
    rw [hsecond, hclosed.records]
    refine ⟨hsecond, fun htracked => ?_⟩
    rwa [Dict.contains, hkept]
  case third =>
    refine Option.eq_none_iff_forall_ne_some.2 fun record hget => ?_
    obtain ⟨hbefore, htracked⟩ := (hclosed.records _ _).1 hget
    rw [hthird] at hbefore
    cases hbefore
    have hstill := htracked (by decide +kernel)
    rw [Dict.contains, hnone] at hstill
    cases hstill

end Registry

end KernelGate
