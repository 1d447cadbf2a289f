import KernelGate.Proofs.Fleet.Naming
import Mathlib.Logic.Function.Basic

/-!
# Kernels that nobody loses sight of

While launches and shutdowns are under way, and some of them may be given up, a kernel that was
launched is tracked, or is being ended, or the launcher has been asked to end it; and one that is
tracked although the launcher was asked to end it is one that could not be ended. Slots play no part
in this.

Main statements: `Event` lists all that can happen to kernels, calls and the record of a run;
`Event.watched` and `Event.covers` say what each of these keeps.
-/

namespace KernelGate

namespace History

variable {log : History} {e : LauncherCall × CallFate} {id : String}

/-- What became of the last call to end the kernel of an id. -/
def ending? (log : History) (id : String) : Option CallFate :=
  (log.reverse.find? fun e => e.1.kind = .terminate && e.1.handle.id = id).map (·.2)

/-- The launcher has been asked to end the kernel of an id. -/
def Noticed (log : History) (id : String) : Prop :=
  ∃ e ∈ log, e.1.kind = .terminate ∧ e.1.handle.id = id

/-- The launcher was asked exactly if there is a last time that it was. -/
theorem noticed_iff : log.Noticed id ↔ ∃ fate, log.ending? id = some fate := by
  unfold Noticed ending?
  rw [← Option.isSome_iff_exists, Option.isSome_map, List.find?_isSome]
  simp only [List.mem_reverse, Bool.and_eq_true, decide_eq_true_eq]

/-- The last call to end a kernel is the newest one on record that is about it. -/
theorem ending?_append (log : History) (e : LauncherCall × CallFate) (id : String) :
    ending? (log ++ [e]) id =
      if e.1.kind = .terminate ∧ e.1.handle.id = id then some e.2 else log.ending? id := by
  unfold ending?
  rw [List.reverse_append, List.reverse_singleton, List.singleton_append, List.find?_cons]
  by_cases h : e.1.kind = .terminate ∧ e.1.handle.id = id
  · rw [if_pos h]
    simp [h.1, h.2]
  · rw [if_neg h]
    have hfalse : (decide (e.1.kind = .terminate) && decide (e.1.handle.id = id)) = false := by
      simpa using h
    rw [hfalse]

theorem noticed_append : Noticed (log ++ [e]) id ↔
    log.Noticed id ∨ e.1.kind = .terminate ∧ e.1.handle.id = id := by
  unfold Noticed
  simp only [List.mem_append, List.mem_singleton, or_and_right, exists_or, exists_eq_left]

end History

namespace Fleet

variable {f g : Fleet} {s : Stage} {fate : CallFate}

/-- Names go on as before, and a look at the kernels shows this. -/
structure Shows (f g : Fleet) (look : String → Option KernelHandle) : Prop where
  supply : g.supply = f.supply
  named : g.named = f.named
  get? : ∀ id, g.get? id = look id

/-- All that can become of a call and of the kernel that it is about. -/
inductive Fated (f g : Fleet) : Stage → CallFate → Prop where
  | launched {request : LaunchRequest} :
      f.Shows g (Function.update f.get? request.handle.id (some request.handle)) →
      Fated f g (.launching request) (.answered (some (.ok ())))
  | kept {k : Tracked} {e : Fault} :
      f.Shows g (Function.update f.get? k.handle.id (some k.handle)) →
      Fated f g (.ending k) (.answered (some (.error e)))
  /-- The kernel is not there, be it that it was not launched, has ended, or is abandoned. -/
  | gone {s : Stage} {fate : CallFate} : f.Shows g f.get? →
      (∀ request, s = .launching request → fate ≠ .answered (some (.ok ()))) → Fated f g s fate

/-- The record of a run, the kernels, and the calls that wait. -/
structure Scene where
  log : History
  fleet : Fleet
  stages : List Stage

/-- All that can happen. -/
inductive Event : Scene → Scene → Prop where
  | aside {log : History} {f g : Fleet} {stages : List Stage} :
      f.Shows g f.get? → Event ⟨log, f, stages⟩ ⟨log, g, stages⟩
  /-- A launch is let through, and gets the next name. -/
  | admits {log : History} {f g : Fleet} {stages : List Stage} {request : LaunchRequest} :
      Shows { f with named := f.named + 1 } g f.get? →
      request.handle.id = f.supply.kernelId f.named →
      Event ⟨log, f, stages⟩ ⟨log, g, .launching request :: stages⟩
  /-- A kernel is taken away to be ended. -/
  | takes {log : History} {f g : Fleet} {stages : List Stage} {id : String} {k : Tracked} :
      f.get? id = some k.handle → f.Shows g (Function.update f.get? id none) →
      Event ⟨log, f, stages⟩ ⟨log, g, .ending k :: stages⟩
  | settles {log : History} {f g : Fleet} {s : Stage} {stages : List Stage} {fate : CallFate} :
      Fated f g s fate → Event ⟨log, f, s :: stages⟩ ⟨log ++ [(s.call, fate)], g, stages⟩
  | perm {log : History} {f : Fleet} {stages stages' : List Stage} :
      stages.Perm stages' → Event ⟨log, f, stages⟩ ⟨log, f, stages'⟩

/-! ## What is known of kernels that are tracked

Each thing that can happen moves a kernel from one place to another: a launch puts it among those
that wait, success among those tracked, a shutdown takes it from there, and a failed one puts it
back. The lemmas say so one by one, and `Event.watched` puts them together. -/

/-- No kernel has two places, and none that is tracked has been ended. -/
structure Watched (supply : Supply) (t : Scene) : Prop where
  supplied : t.fleet.supply = supply
  keyed : ∀ id h, t.fleet.get? id = some h → h.id = id
  untracked : ∀ s ∈ t.stages, t.fleet.get? s.id = none
  apart : (t.stages.map Stage.id).Nodup
  fresh : ∀ request, .launching request ∈ t.stages → ¬ t.log.Noticed request.handle.id
  /-- Names that are still to be given are not in use, and have not been. -/
  unused : ∀ n, t.fleet.named ≤ n → t.fleet.get? (supply.kernelId n) = none ∧
    (∀ s ∈ t.stages, s.id ≠ supply.kernelId n) ∧ ¬ t.log.Noticed (supply.kernelId n)
  failed : ∀ id fate, (t.fleet.get? id).isSome = true → t.log.ending? id = some fate →
    ∃ e, fate = .answered (some (.error e))

section

variable {supply : Supply} {log : History} {stages : List Stage} {k : Tracked}

theorem Watched.aside (h : Watched supply ⟨log, f, stages⟩) (hg : f.Shows g f.get?) :
    Watched supply ⟨log, g, stages⟩ := by
  obtain ⟨hsupply, hnamed, hget⟩ := hg
  have hget' : g.get? = f.get? := funext hget
  obtain ⟨supplied, keyed, untracked, apart, fresh, unused, failed⟩ := h
  refine ⟨hsupply.trans supplied, ?_, ?_, apart, fresh, ?_, ?_⟩
  · simpa only [hget'] using keyed
  · simpa only [hget'] using untracked
  · simpa only [hget', hnamed] using unused
  · simpa only [hget'] using failed

/-- The next name is nobody's. So the launch that gets it waits for a kernel that is not tracked,
that nobody else waits for, and that the launcher was never asked to end. -/
theorem Watched.admits (h : Watched supply ⟨log, f, stages⟩)
    (hinjective : Function.Injective supply.kernelId) {request : LaunchRequest}
    (hg : Shows { f with named := f.named + 1 } g f.get?)
    (hid : request.handle.id = f.supply.kernelId f.named) :
    Watched supply ⟨log, g, .launching request :: stages⟩ := by
  obtain ⟨hsupply, hnamed, hget⟩ := hg
  have hget' : g.get? = f.get? := funext hget
  have hsupplied : f.supply = supply := h.supplied
  rw [hsupplied] at hid
  obtain ⟨hfree, hnew, hunnoticed⟩ := h.unused f.named (Nat.le_refl _)
  rw [← hid] at hfree hunnoticed
  refine ⟨hsupply.trans hsupplied, ?_, ?_, ?_, ?_, ?_, ?_⟩
  · simpa only [hget'] using h.keyed
  · simp only [hget']
    exact List.forall_mem_cons.2 ⟨hfree, h.untracked⟩
  · refine List.nodup_cons.2 ⟨fun hmem => ?_, h.apart⟩
    obtain ⟨s, hs, hsid⟩ := List.mem_map.1 hmem
    exact hnew s hs (hsid.trans hid)
  · intro request' hmem
    rcases List.mem_cons.1 hmem with heq | hmem
    · cases heq
      exact hunnoticed
    · exact h.fresh request' hmem
  · intro n hn
    have hlater : f.named < n := by
      have hle : g.named ≤ n := hn
      rw [hnamed] at hle
      exact hle
    obtain ⟨hfree', hnew', hunnoticed'⟩ := h.unused n (Nat.le_of_lt hlater)
    refine ⟨(hget _).trans hfree', List.forall_mem_cons.2 ⟨fun heq => ?_, hnew'⟩, hunnoticed'⟩
    have hsame : f.named = n := hinjective (hid.symm.trans heq)
    omega
  · simpa only [hget'] using h.failed

/-- A kernel taken away to be ended is no longer tracked, and nobody waited for it before. -/
theorem Watched.takes (h : Watched supply ⟨log, f, stages⟩) {id : String}
    (hk : f.get? id = some k.handle) (hg : f.Shows g (Function.update f.get? id none)) :
    Watched supply ⟨log, g, .ending k :: stages⟩ := by
  obtain rfl : k.handle.id = id := h.keyed id k.handle hk
  obtain ⟨hsupply, hnamed, hget⟩ := hg
  -- Whoever is tracked after that was tracked before.
  have hold : ∀ id h, g.get? id = some h → f.get? id = some h := by
    intro id h hid
    rw [hget, Function.update_apply] at hid
    split at hid
    · cases hid
    · exact hid
  have hgone : ∀ id, f.get? id = none → g.get? id = none := by
    intro id hid
    refine Option.eq_none_iff_forall_ne_some.2 fun h hh => ?_
    exact absurd (hid.symm.trans (hold id h hh)) nofun
  have hkgone : g.get? k.handle.id = none := by rw [hget, Function.update_self]
  have hne : ∀ id, f.get? id = none → k.handle.id ≠ id := by
    rintro id hid rfl
    exact absurd (hid.symm.trans hk) nofun
  refine ⟨hsupply.trans h.supplied, ?_, ?_, ?_, ?_, ?_, ?_⟩
  · exact fun id h' hid => h.keyed id h' (hold id h' hid)
  · exact List.forall_mem_cons.2 ⟨hkgone, fun s hs => hgone _ (h.untracked s hs)⟩
  · refine List.nodup_cons.2 ⟨fun hmem => ?_, h.apart⟩
    obtain ⟨s, hs, hsid⟩ := List.mem_map.1 hmem
    exact hne _ (h.untracked s hs) hsid.symm
  · intro request hmem
    rcases List.mem_cons.1 hmem with heq | hmem
    · cases heq
    · exact h.fresh request hmem
  · intro n hn
    obtain ⟨hfree, hnew, hunnoticed⟩ := h.unused n (hnamed ▸ hn)
    exact ⟨hgone _ hfree, List.forall_mem_cons.2 ⟨hne _ hfree, hnew⟩, hunnoticed⟩
  · intro id fate hid
    obtain ⟨h', hh'⟩ := Option.isSome_iff_exists.1 hid
    refine h.failed id fate ?_
    rw [show f.get? id = some h' from hold id h' hh']
    rfl

/-- A call is over, and its kernel is tracked only if it was launched or could not be ended. -/
theorem Watched.settles (h : Watched supply ⟨log, f, s :: stages⟩) (hs : Fated f g s fate) :
    Watched supply ⟨log ++ [(s.call, fate)], g, stages⟩ := by
  obtain ⟨hother, hapart⟩ := List.nodup_cons.1 h.apart
  have hsnone : f.get? s.id = none := h.untracked s List.mem_cons_self
  have hne : ∀ s' ∈ stages, s'.id ≠ s.id := by
    intro s' hs' heq
    exact hother (heq ▸ List.mem_map_of_mem hs')
  -- Whatever came of the call, only its own kernel can have come to be tracked by it.
  have hshows : g.supply = f.supply ∧ g.named = f.named ∧
      (∀ id, id ≠ s.id → g.get? id = f.get? id) ∧
      ∀ h, g.get? s.id = some h → h.id = s.id := by
    have hupdate : ∀ k : KernelHandle, k.id = s.id →
        f.Shows g (Function.update f.get? k.id (some k)) →
        g.supply = f.supply ∧ g.named = f.named ∧
          (∀ id, id ≠ s.id → g.get? id = f.get? id) ∧
          ∀ h, g.get? s.id = some h → h.id = s.id := by
      rintro k hk ⟨hsupply, hnamed, hget⟩
      refine ⟨hsupply, hnamed, fun id hid => ?_, fun h hh => ?_⟩
      · rw [hget, Function.update_of_ne (hk ▸ hid)]
      · rw [hget, hk, Function.update_self] at hh
        cases hh
        exact hk
    cases hs with
    | @launched request hg => exact hupdate request.handle rfl hg
    | @kept k e hg => exact hupdate k.handle rfl hg
    | gone hg _ =>
      obtain ⟨hsupply, hnamed, hget⟩ := hg
      refine ⟨hsupply, hnamed, fun id _ => hget id, fun h hh => ?_⟩
      rw [hget, hsnone] at hh
      cases hh
  obtain ⟨hsupply, hnamed, hget, hown⟩ := hshows
  have hnoticed : ∀ id, id ≠ s.id → ¬ log.Noticed id →
      ¬ History.Noticed (log ++ [(s.call, fate)]) id := by
    rintro id hid hlog hnew
    rcases History.noticed_append.1 hnew with hold | ⟨-, heq⟩
    · exact hlog hold
    · exact hid heq.symm
  refine ⟨hsupply.trans h.supplied, ?_, ?_, hapart, ?_, ?_, ?_⟩
  · intro id h' hid
    by_cases heq : id = s.id
    · subst heq
      exact hown h' hid
    · exact h.keyed id h' ((hget id heq).symm.trans hid)
  · intro s' hs'
    exact (hget _ (hne s' hs')).trans (h.untracked s' (List.mem_cons_of_mem _ hs'))
  · intro request hmem
    exact hnoticed _ (hne _ hmem) (h.fresh request (List.mem_cons_of_mem _ hmem))
  · intro n hn
    obtain ⟨hfree, hnew, hunnoticed⟩ := h.unused n (hnamed ▸ hn)
    have hid : supply.kernelId n ≠ s.id := Ne.symm (hnew s List.mem_cons_self)
    exact ⟨(hget _ hid).trans hfree, fun s' hs' => hnew s' (List.mem_cons_of_mem _ hs'),
      hnoticed _ hid hunnoticed⟩
  · intro id fate' hid hending
    rw [History.ending?_append] at hending
    by_cases heq : id = s.id
    · subst heq
      cases hs with
      | @launched request _ =>
        have hfresh : ¬ log.Noticed request.handle.id := h.fresh request List.mem_cons_self
        rw [if_neg (fun hcall => nomatch hcall.1)] at hending
        exact absurd (History.noticed_iff.2 ⟨fate', hending⟩) hfresh
      | @kept k e _ =>
        rw [if_pos ⟨rfl, rfl⟩] at hending
        cases hending
        exact ⟨e, rfl⟩
      | gone hg _ =>
        rw [hg.get?, hsnone] at hid
        cases hid
    · rw [if_neg (fun hcall => heq hcall.2.symm)] at hending
      rw [hget id heq] at hid
      exact h.failed id fate' hid hending

theorem Watched.perm (h : Watched supply ⟨log, f, stages⟩) {stages' : List Stage}
    (hperm : stages.Perm stages') : Watched supply ⟨log, f, stages'⟩ where
  supplied := h.supplied
  keyed := h.keyed
  untracked := fun s hs => h.untracked s (hperm.mem_iff.2 hs)
  apart := (hperm.map _).nodup_iff.1 h.apart
  fresh := fun request hmem => h.fresh request (hperm.mem_iff.2 hmem)
  unused := by
    intro n hn
    obtain ⟨hfree, hnew, hunnoticed⟩ := h.unused n hn
    exact ⟨hfree, fun s hs => hnew s (hperm.mem_iff.2 hs), hunnoticed⟩
  failed := h.failed

/-- Nothing that can happen puts a kernel into two places. -/
theorem Event.watched {t t' : Scene} (h : Event t t')
    (hinjective : Function.Injective supply.kernelId) (ht : Watched supply t) :
    Watched supply t' := by
  cases h with
  | aside hg => exact ht.aside hg
  | admits hg hid => exact ht.admits hinjective hg hid
  | takes hk hg => exact ht.takes hk hg
  | settles hs => exact ht.settles hs
  | perm hperm => exact ht.perm hperm

end

/-! ## Kernels in sight

With every kernel in one place at most, it remains to see that it is in one at all: it leaves a
place only for another, or the launcher has been asked to end it. -/

/-- Each of these kernels is tracked as one of those, or is being ended, or the launcher has been
asked to end it. -/
def Covers (these those : String → Prop) (t : Scene) : Prop :=
  ∀ id, these id → t.log.Noticed id ∨ (∃ k, .ending k ∈ t.stages ∧ k.handle.id = id) ∨
    (t.fleet.get? id).isSome = true ∧ those id

/-- Fewer kernels are covered as well, and by more. -/
theorem Covers.mono {these these' those those' : String → Prop} {t : Scene}
    (h : Covers these those t) (hthese : ∀ id, these' id → these id)
    (hthose : ∀ id, (t.fleet.get? id).isSome = true → those id → those' id) :
    Covers these' those' t := by
  intro id hid
  rcases h id (hthese id hid) with hnoticed | hending | ⟨htracked, hthis⟩
  · exact .inl hnoticed
  · exact .inr (.inl hending)
  · exact .inr (.inr ⟨htracked, hthose id htracked hthis⟩)

section

variable {supply : Supply} {t t' : Scene}

/-- Whatever happens, no kernel gets out of sight. -/
theorem Event.covers {these those : String → Prop} (h : Event t t') (hw : Watched supply t)
    (ht : Covers these those t) : Covers these those t' := by
  intro id hid
  cases h with
  | aside hg =>
    rw [hg.get?]
    exact ht id hid
  | admits hg _ =>
    rw [hg.get?]
    rcases ht id hid with hnoticed | ⟨k, hk, rfl⟩ | htracked
    · exact .inl hnoticed
    · exact .inr (.inl ⟨k, List.mem_cons_of_mem _ hk, rfl⟩)
    · exact .inr (.inr htracked)
  | @takes _ _ _ _ _ k hk hg =>
    obtain rfl := hw.keyed _ k.handle hk
    rw [hg.get?]
    rcases ht id hid with hnoticed | ⟨k', hk', rfl⟩ | htracked
    · exact .inl hnoticed
    · exact .inr (.inl ⟨k', List.mem_cons_of_mem _ hk', rfl⟩)
    -- The kernel that is taken away is the one in sight of the shutdown that waits now.
    · by_cases heq : id = k.handle.id
      · exact .inr (.inl ⟨k, List.mem_cons_self, heq.symm⟩)
      · rw [Function.update_of_ne heq]
        exact .inr (.inr htracked)
  | @settles _ f g s _ _ hs =>
    rcases ht id hid with hnoticed | ⟨k, hk, rfl⟩ | ⟨htracked, hthis⟩
    · exact .inl (History.noticed_append.2 (.inl hnoticed))
    · rcases List.mem_cons.1 hk with rfl | hk
      · exact .inl (History.noticed_append.2 (.inr ⟨rfl, rfl⟩))
      · exact .inr (.inl ⟨k, hk, rfl⟩)
    -- What is settled may put a kernel back, and drops none.
    · have hupdate : ∀ k : KernelHandle, f.Shows g (Function.update f.get? k.id (some k)) →
          (g.get? id).isSome = true := by
        intro k hg
        rw [hg.get?, Function.update_apply]
        split
        · rfl
        · exact htracked
      refine .inr (.inr ⟨?_, hthis⟩)
      cases hs with
      | launched hg => exact hupdate _ hg
      | kept hg => exact hupdate _ hg
      | gone hg _ =>
        rw [hg.get?]
        exact htracked
  | perm hperm =>
    rcases ht id hid with hnoticed | ⟨k, hk, rfl⟩ | htracked
    · exact .inl hnoticed
    · exact .inr (.inl ⟨k, hperm.mem_iff.1 hk, rfl⟩)
    · exact .inr (.inr htracked)

/-- A kernel that is launched is in sight from then on. -/
theorem Event.covers_launched (h : Event t t') (hw : Watched supply t)
    (ht : Covers t.log.Launched (fun _ => True) t) : Covers t'.log.Launched (fun _ => True) t' := by
  have hkept := h.covers hw ht
  cases h with
  | aside _ | admits _ _ | takes _ _ | perm _ => exact hkept
  | @settles _ f g s _ fate hs =>
    intro id hid
    cases hs with
    | @launched request hg =>
      rcases History.launched_append_iff.1 hid with hid | rfl
      · exact hkept id hid
      · refine .inr (.inr ⟨?_, trivial⟩)
        rw [hg.get?, Function.update_self]
        rfl
    | kept _ =>
      refine hkept id ((History.launched_append_iff_of_ne ?_).1 hid)
      intro request heq
      cases heq
    | gone _ hfate =>
      refine hkept id ((History.launched_append_iff_of_ne ?_).1 hid)
      intro request heq
      cases s with
      | launching request' =>
        obtain ⟨-, rfl⟩ := Prod.ext_iff.1 heq
        exact hfate request' rfl rfl
      | probing _ _ | ending _ => cases heq

/-- What is kept by everything that can happen, over whole runs. -/
structure Attended (supply : Supply) (t : Scene) : Prop where
  watched : Watched supply t
  covers : Covers t.log.Launched (fun _ => True) t

abbrev Events : Scene → Scene → Prop := Relation.ReflTransGen Event

/-- The order in which calls are listed does not count. -/
theorem Events.perm {log : History} {f : Fleet} {stages stages' : List Stage}
    (h : Events t ⟨log, f, stages⟩) (hperm : stages.Perm stages') :
    Events t ⟨log, f, stages'⟩ :=
  h.tail (.perm hperm)

/-- So nothing is lost sight of over a whole run. -/
theorem Events.attended (h : Events t t') (hinjective : Function.Injective supply.kernelId)
    (ht : Attended supply t) : Attended supply t' := by
  induction h with
  | refl => exact ht
  | tail _ hevent ih =>
    exact ⟨hevent.watched hinjective ih.watched, hevent.covers_launched ih.watched ih.covers⟩

/-- What is covered when a run begins is covered when it ends, whatever is launched besides. -/
theorem Events.covers {these those : String → Prop} (h : Events t t')
    (hinjective : Function.Injective supply.kernelId) (ht : Attended supply t)
    (hcovers : Covers these those t) : Covers these those t' := by
  induction h with
  | refl => exact hcovers
  | tail hevents hevent ih => exact hevent.covers (Events.attended hevents hinjective ht).watched ih

end

end Fleet

end KernelGate
