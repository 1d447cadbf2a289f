import KernelGate.Proofs.Activity.Waits
import KernelGate.Proofs.Dict.Searching
import KernelGate.Proofs.Fleet.Solo

/-!
# When kernels were last in use

A kernel is in use when it is launched, when it is found alive and taken over, and when a client
asks for it. The fleet remembers of each kernel when that was last, and no longer knows of it while
the launcher is to end the kernel. A diary of all uses says the same: what the fleet remembers of a
kernel is the last use of it in the diary, also after the kernel could not be ended.

Main statements: `Dated` is the invariant; `keeps_create`, `keeps_reattach` and `keeps_shutdown` say
that operations keep it, whatever kernels clients ask for while the launcher is at work.
-/

namespace KernelGate

open Activity

/-- A kernel was in use. -/
structure Use where
  time : Nat
  id : String

/-- The time of the last of these uses of a kernel. -/
def lastUse (uses : List Use) (id : String) : Option Nat :=
  (uses.filter fun u => u.id = id).getLast?.map (·.time)

/-- What happens until a call is answered: kernels are asked for, and time goes on. -/
structure Meanwhile where
  touches : List Use
  answered : Nat

/-- The uses that come of a wait. A kernel that has been launched or found alive is in use. -/
def Activity.Wait.uses (w : Wait Meanwhile) : List Use :=
  w.meanwhile.touches ++
    match w.call, w.reply with
    | .launch request, some (.ok ()) => [⟨w.meanwhile.answered, request.handle.id⟩]
    | .probe kernel, some (.ok ()) => [⟨w.meanwhile.answered, kernel.id⟩]
    | _, _ => []

/-- What came later counts first. -/
theorem lastUse_append (uses more : List Use) (id : String) :
    lastUse (uses ++ more) id = (lastUse more id).or (lastUse uses id) := by
  unfold lastUse
  rw [List.filter_append, List.getLast?_append, Option.map_or]

/-- Uses of other kernels do not count. -/
theorem lastUse_append_of_forall {uses more : List Use} {id : String}
    (h : ∀ u ∈ more, u.id ≠ id) : lastUse (uses ++ more) id = lastUse uses id := by
  have hnone : more.filter (fun u => u.id = id) = [] := by
    rw [List.filter_eq_nil_iff]
    intro u hu
    simpa using h u hu
  rw [lastUse_append, lastUse, hnone]
  rfl

theorem lastUse_append_self (uses : List Use) (time : Nat) (id : String) :
    lastUse (uses ++ [⟨time, id⟩]) id = some time := by
  rw [lastUse_append]
  simp [lastUse]

/-- A use of one kernel is none of another. -/
theorem lastUse_append_other (uses : List Use) (time : Nat) {id other : String} (h : other ≠ id) :
    lastUse (uses ++ [⟨time, id⟩]) other = lastUse uses other := by
  apply lastUse_append_of_forall
  intro u hu
  rw [List.mem_singleton.1 hu]
  exact h.symm

namespace Fleet

variable {f g : Fleet} {old : String → Option Nat} {uses uses' seen : List Use} {id : String}

/-- A kernel is in use when it is asked for, if it is there. -/
def touches (f : Fleet) (id : String) : List Use :=
  if f.kernels.contains id then [⟨f.now, id⟩] else []

/-- Time goes on, and clients ask for kernels. -/
inductive Stirs (f : Fleet) : List Use → Fleet → Prop where
  | still : Stirs f [] f
  | passes {seen : List Use} {g : Fleet} (millis : Nat) :
      Stirs f seen g → Stirs f seen (g.later millis)
  | touched {seen : List Use} {g : Fleet} (id : String) :
      Stirs f seen g → Stirs f (seen ++ g.touches id) (g.touch id)

/-- What clients do while a call waits. -/
def Stirred (f : Fleet) (m : Meanwhile) (g : Fleet) : Prop :=
  f.Stirs m.touches g ∧ m.answered = g.now

/-- Nothing happens while a call waits, but that it takes its time. -/
def Timed (f : Fleet) (m : Meanwhile) (g : Fleet) : Prop :=
  ∃ millis, g = f.later millis ∧ m = ⟨[], g.now⟩

/-- A wait during which nobody asks for a kernel is one of those that are allowed. -/
theorem stirred_of_timed {m : Meanwhile} (h : f.Timed m g) : f.Stirred m g := by
  obtain ⟨millis, rfl, rfl⟩ := h
  exact ⟨.passes millis .still, rfl⟩

/-- The kernels that have been idle for a time. -/
theorem mem_idle {millis : Nat} :
    id ∈ f.idle millis ↔ ∃ k, f.kernels.get? id = some k ∧ millis ≤ f.now - k.lastActivity := by
  unfold idle
  rw [Dict.mem_keys, Dict.contains_iff]
  simp only [Dict.get?_filter, Option.filter_eq_some_iff, decide_eq_true_eq]

/-- No kernel is listed twice as idle. -/
theorem nodup_idle (f : Fleet) (millis : Nat) : (f.idle millis).Nodup := Dict.nodup_keys _

/-! ## The diary and the fleet

The diary holds every use, and the fleet remembers the last one of each kernel that it tracks. A
kernel that is not tracked may have uses in the diary all the same; they count again if it is put
back. -/

/-- What the fleet remembers of each kernel is its last use in the diary, or if there is none what
was remembered before. -/
structure Dated (old : String → Option Nat) (uses : List Use) (f : Fleet) : Prop where
  keyed : f.Keyed
  last : ∀ id k, f.kernels.get? id = some k → (lastUse uses id).or (old id) = some k.lastActivity

/-- Nothing is remembered of any kernel. -/
theorem dated_empty (rules : FleetRules) (limit : Int) (supply : Supply) :
    Dated (fun _ => none) [] (empty rules limit supply) where
  keyed := keyed_empty rules limit supply
  last := nofun

/-- With an empty diary everything is as it was before. -/
theorem Keyed.dated (h : f.Keyed) :
    Dated (fun id => (f.kernels.get? id).map (·.lastActivity)) [] f where
  keyed := h
  last := by
    intro id k hget
    rw [hget]
    rfl

namespace Dated

theorem congr (h : Dated old uses f) (hk : g.kernels = f.kernels) : Dated old uses g where
  keyed := h.keyed.congr hk
  last := by
    rw [hk]
    exact h.last

/-- A kernel that is taken away takes its time of use with it, and the diary keeps its uses. -/
theorem erase (h : Dated old uses f) (hk : g.kernels = f.kernels.erase id) : Dated old uses g where
  keyed := h.keyed.erase hk
  last := by
    intro other k hget
    rw [hk, Dict.get?_erase] at hget
    split at hget
    · cases hget
    · exact h.last other k hget

/-- A kernel is put in, and the diary says of it when it was last in use; of all others it says what
it has said before. -/
theorem insert (h : Dated old uses f) {k : Tracked}
    (hk : g.kernels = f.kernels.insert k.handle.id k)
    (hself : (lastUse uses' k.handle.id).or (old k.handle.id) = some k.lastActivity)
    (hothers : ∀ id, id ≠ k.handle.id → lastUse uses' id = lastUse uses id) :
    Dated old uses' g where
  keyed := h.keyed.insert hk
  last := by
    intro id k' hget
    by_cases hid : id = k.handle.id
    · subst hid
      rw [hk, Dict.get?_insert_self] at hget
      cases hget
      exact hself
    · rw [hk, Dict.get?_insert_of_ne _ _ hid] at hget
      rw [hothers id hid]
      exact h.last id k' hget

/-- A kernel comes into use. -/
theorem insert_now (h : Dated old uses f) {k : Tracked}
    (hk : g.kernels = f.kernels.insert k.handle.id k) :
    Dated old (uses ++ [⟨k.lastActivity, k.handle.id⟩]) g := by
  apply h.insert hk
  · rw [lastUse_append_self]
    rfl
  · intro id hid
    exact lastUse_append_other uses k.lastActivity hid

/-- A kernel that is asked for is in use if it is there; nothing happens and nothing is noted if
not. -/
theorem touch (h : Dated old uses f) (id : String) :
    Dated old (uses ++ f.touches id) (f.touch id) := by
  unfold touches
  cases hget : f.kernels.get? id with
  | none =>
    rw [touch_eq_self hget, Dict.contains, hget]
    simpa using h
  | some k =>
    obtain rfl := h.keyed id k hget
    rw [touch_eq hget, Dict.contains, hget]
    exact h.insert_now (k := ⟨k.handle, f.now⟩) rfl

/-- What clients do while a call waits goes into the diary as it happens. -/
theorem stirs (h : Dated old uses f) (hstirs : f.Stirs seen g) :
    Dated old (uses ++ seen) g := by
  induction hstirs with
  | still => rwa [List.append_nil]
  | passes millis _ ih => exact ih.congr rfl
  | touched id _ ih =>
    rw [← List.append_assoc]
    exact ih.touch id

end Dated

/-! ## Operations

The uses that an operation brings about are those of its waits: what clients did meanwhile, and the
kernel itself if it has been launched or found alive. That the fleet and the diary agree is kept
along each operation. -/

/-- Whether a kernel is there does not change while calls wait, nor is it in use if it is not. -/
theorem Stirs.contains (h : f.Stirs seen g) (id : String) :
    g.kernels.contains id = f.kernels.contains id ∧
      (f.kernels.contains id = false → ∀ u ∈ seen, u.id ≠ id) := by
  induction h with
  | still => exact ⟨rfl, fun _ => List.forall_mem_nil _⟩
  | passes millis _ ih => exact ih
  | @touched seen g other _ ih =>
    obtain ⟨hsame, hunused⟩ := ih
    -- A use files the kernel anew under the id that it has.
    have htouch : (g.touch other).kernels.contains id = g.kernels.contains id := by
      cases hget : g.kernels.get? other with
      | none => rw [touch_eq_self hget]
      | some k =>
        rw [touch_eq hget, Bool.eq_iff_iff, Dict.contains_insert]
        apply or_iff_right_of_imp
        rintro rfl
        exact Dict.contains_iff.2 ⟨k, hget⟩
    refine ⟨htouch.trans hsame, fun hnot => List.forall_mem_append.2 ⟨hunused hnot, ?_⟩⟩
    intro u hu
    unfold Fleet.touches at hu
    split at hu
    · next hother =>
      rw [List.mem_singleton.1 hu]
      rintro rfl
      rw [hsame, hnot] at hother
      cases hother
    · cases hu

/-- The diary so far and the uses in these waits agree with the fleet. -/
def DatedBy (old : String → Option Nat) (uses : List Use) (waits : List (Wait Meanwhile))
    (f : Fleet) : Prop :=
  Dated old (uses ++ waits.flatMap Wait.uses) f

theorem Dated.without_waits (h : Dated old uses f) : DatedBy old uses [] f := by
  unfold DatedBy
  rwa [List.flatMap_nil, List.append_nil]

/-- A wait that is over has its uses at the end of the diary. -/
theorem DatedBy.wait {waits : List (Wait Meanwhile)} {w : Wait Meanwhile}
    (h : Dated old (uses ++ waits.flatMap Wait.uses ++ w.uses) f) :
    DatedBy old uses (waits ++ [w]) f := by
  unfold DatedBy
  rwa [List.flatMap_append, List.flatMap_singleton, ← List.append_assoc]

theorem kernels_admitLaunch (f : Fleet) (spec : KernelSpec) (p : LaunchParams) :
    (f.admitLaunch spec p).1.kernels = f.kernels := by
  unfold admitLaunch
  simp only
  split
  · rfl
  · split
    · rfl
    · split
      · rfl
      · split <;> rfl

/-- A kernel that has been launched was last in use when the answer came. -/
theorem keeps_create (spec : KernelSpec) (p : LaunchParams) :
    (create spec p).Keeps Stirred (DatedBy old uses) := by
  intro before waits f g x hf h
  obtain ⟨f₁, admitted, _, _, h₁, h₂, rfl⟩ := unfolds_bind_iff.1 h
  obtain ⟨rfl, hresult⟩ := unfolds_atOnce_iff.1 h₁
  have hkernels : f₁.kernels = f.kernels := by
    have hadmitted := kernels_admitLaunch f spec p
    rwa [hresult] at hadmitted
  have hf₁ : DatedBy old uses before f₁ := hf.congr hkernels
  cases admitted with
  | error e =>
    obtain ⟨rfl, rfl, rfl⟩ := unfolds_done_iff.1 h₂
    rwa [List.append_nil, List.append_nil]
  | ok request =>
    obtain ⟨f₂, answer, _, _, h₃, h₄, rfl⟩ := unfolds_bind_iff.1 h₂
    obtain ⟨⟨seen, time⟩, ⟨hstirs, rfl⟩, rfl⟩ := unfolds_await_iff.1 h₃
    obtain ⟨rfl, hsettle⟩ := unfolds_atOnce_iff.1 h₄
    have hf₂ := hf₁.stirs hstirs
    cases answer with
    | error e =>
      cases hsettle
      apply DatedBy.wait
      rw [Wait.uses, List.append_nil]
      exact hf₂.congr rfl
    | ok _ =>
      cases hsettle
      apply DatedBy.wait
      rw [Wait.uses, ← List.append_assoc]
      exact hf₂.insert_now (k := ⟨request.handle, f₂.now⟩) rfl

/-- So was one that was found alive; one that is tracked already is not in use by being taken over
again. -/
theorem keeps_reattach (limit : Option Nat) (kernel : KernelHandle) :
    (reattach limit kernel).Keeps Stirred (DatedBy old uses) := by
  intro before waits f g x hf h
  have h₂ := unfolds_look_bind_iff.1 h
  split at h₂
  · obtain ⟨rfl, rfl, rfl⟩ := unfolds_done_iff.1 h₂
    rwa [List.append_nil]
  · obtain ⟨f₂, ⟨seen, time⟩, reply, rest, ⟨hstirs, rfl⟩, -, rfl, h₃⟩ := unfolds_call_iff.1 h₂
    have hf₂ := hf.stirs hstirs
    rcases reply with _ | e | _
    · obtain ⟨rfl, rfl, rfl⟩ := unfolds_done_iff.1 h₃
      apply DatedBy.wait
      rwa [Wait.uses, List.append_nil]
    · obtain ⟨rfl, rfl, rfl⟩ := unfolds_done_iff.1 h₃
      apply DatedBy.wait
      rwa [Wait.uses, List.append_nil]
    · have h₄ := unfolds_step_iff.1 h₃
      obtain ⟨rfl, rfl, rfl⟩ := unfolds_done_iff.1 h₄
      apply DatedBy.wait
      rw [Wait.uses, ← List.append_assoc]
      exact hf₂.insert_now (k := ⟨kernel, f₂.now⟩) rfl

/-- A kernel that could not be ended comes back as it was: nobody could ask for it meanwhile. -/
theorem keeps_shutdown (id : String) : (shutdown id).Keeps Stirred (DatedBy old uses) := by
  intro before waits f g x hf h
  obtain ⟨f₁, begun, _, _, h₁, h₂, rfl⟩ := unfolds_bind_iff.1 h
  obtain ⟨rfl, hbegin⟩ := unfolds_atOnce_iff.1 h₁
  cases hget : f.kernels.get? id with
  | none =>
    rw [beginShutdown_of_none hget] at hbegin
    cases hbegin
    obtain ⟨rfl, rfl, rfl⟩ := unfolds_done_iff.1 h₂
    rwa [List.append_nil, List.append_nil]
  | some k =>
    rw [beginShutdown_of_some hget] at hbegin
    cases hbegin
    obtain ⟨f₂, answer, _, _, h₃, h₄, rfl⟩ := unfolds_bind_iff.1 h₂
    obtain ⟨⟨seen, time⟩, ⟨hstirs, rfl⟩, rfl⟩ := unfolds_await_iff.1 h₃
    obtain ⟨rfl, hsettle⟩ := unfolds_atOnce_iff.1 h₄
    obtain rfl := hf.keyed id k hget
    have hf₂ := (hf.erase rfl).stirs hstirs
    apply DatedBy.wait
    rw [Wait.uses, List.append_nil]
    cases answer with
    | error e =>
      cases hsettle
      -- Clients do not find the kernel while it is being ended, so that its time
      -- of use is as it was.
      have hunused : ∀ u ∈ seen, u.id ≠ k.handle.id := by
        refine (hstirs.contains k.handle.id).2 ?_
        simp [gauge, Dict.contains]
      refine hf₂.insert (k := k) rfl ?_ fun _ _ => rfl
      rw [lastUse_append_of_forall hunused]
      exact hf.last k.handle.id k hget
    | ok _ =>
      cases hsettle
      exact hf₂

/-! ### Shutdowns

While a kernel is being ended, the fleet does not track it and clients cannot find it, so that it
has no uses meanwhile. If it is put back, it is with the time of use that it was taken away with,
and that is still its last in the diary. -/

/-- What the two steps of a shutdown keep, and what happens between them. -/
theorem keeps_shutdown_of {Inv : List (Wait Meanwhile) → Fleet → Prop}
    (hbegin : ∀ {waits f}, Inv waits f → Inv waits (f.beginShutdown id).1)
    (hwait : ∀ {before f m g k answer}, Inv before f → f.Stirred m g →
      Inv (before ++ [⟨.terminate k, m, some answer⟩]) g)
    (hsettle : ∀ {waits f k answer}, Inv waits f → Inv waits (f.settleShutdown k answer).1) :
    (shutdown id).Keeps Stirred Inv := by
  refine Keeps.bind (keeps_atOnce hbegin) fun begun => ?_
  cases begun with
  | error e => exact keeps_done _
  | ok k => exact (keeps_await hwait).bind fun answer => keeps_atOnce hsettle

/-- The launcher is asked to end the kernel, whatever happens meanwhile. -/
theorem wait_of_shutdown {ω : Type} {drift : Fleet → ω → Fleet → Prop} {k : Tracked}
    {waits : List (Wait ω)} {x : Result KernelHandle} (hget : f.kernels.get? id = some k)
    (h : (shutdown id).Unfolds drift f waits g x) :
    ∃ m answer, waits = [⟨.terminate k.handle, m, some answer⟩] ∧
      x = answer.map fun _ => k.handle := by
  obtain ⟨f₁, begun, _, _, h₁, h₂, rfl⟩ := unfolds_bind_iff.1 h
  obtain ⟨rfl, hbegin⟩ := unfolds_atOnce_iff.1 h₁
  rw [beginShutdown_of_some hget] at hbegin
  cases hbegin
  obtain ⟨f₂, answer, _, _, h₃, h₄, rfl⟩ := unfolds_bind_iff.1 h₂
  obtain ⟨m, -, rfl⟩ := unfolds_await_iff.1 h₃
  obtain ⟨rfl, hsettle⟩ := unfolds_atOnce_iff.1 h₄
  refine ⟨m, answer, rfl, ?_⟩
  cases answer with
  | error e | ok _ =>
    cases hsettle
    rfl

/-- No clock goes back. -/
theorem Stirs.now_le (h : f.Stirs seen g) : f.now ≤ g.now := by
  induction h with
  | still => exact Nat.le_refl _
  | passes millis _ ih => exact Nat.le_trans ih (Nat.le_add_right _ millis)
  | @touched seen g id _ ih =>
    refine Nat.le_trans ih (Nat.le_of_eq ?_)
    unfold touch
    split <;> rfl

/-- Time does not run backwards. -/
theorem keeps_now_le (time : Nat) (id : String) :
    (shutdown id).Keeps Stirred fun _ f => time ≤ f.now := by
  apply keeps_shutdown_of
  · intro waits f hf
    unfold beginShutdown
    split <;> exact hf
  · intro before f m g k answer hf hstirred
    exact Nat.le_trans hf hstirred.1.now_le
  · intro waits f k answer hf
    cases answer with
    | error e | ok _ => exact hf

/-- All other kernels stay. -/
theorem keeps_contains {other : String} (hne : other ≠ id) :
    (shutdown id).Keeps Stirred fun _ f => f.kernels.contains other = true := by
  apply keeps_shutdown_of
  · intro waits f hf
    unfold beginShutdown
    split
    · exact hf
    · exact Dict.contains_erase _ _ _ |>.2 ⟨hne, hf⟩
  · intro before f m g k answer hf hstirred
    rwa [(hstirred.1.contains other).1]
  · intro waits f k answer hf
    cases answer with
    | error e => exact (Dict.contains_insert _ _ _ _).2 (.inr hf)
    | ok _ => exact hf

/-- To end a kernel is no use of it. -/
theorem keeps_uses_eq (id : String) : (shutdown id).Keeps Stirred fun waits _ =>
    waits.flatMap Wait.uses = waits.flatMap (·.meanwhile.touches) := by
  apply keeps_shutdown_of
  · intro waits f hf
    exact hf
  · intro before f m g k answer hf _
    rw [List.flatMap_append, List.flatMap_append, hf]
    simp [Wait.uses]
  · intro waits f k answer hf
    exact hf

end Fleet

end KernelGate
