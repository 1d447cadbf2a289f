import KernelGate.Activity

/-!
# What comes of an activity that runs alone

`Ends drift a s calls t x` says that the activity `a`, begun in the state `s` while nobody else is
at work, can end in `t` with the result `x`, after the calls and with the replies in `calls`. Every
behaviour of a launcher is among the replies. While a call waits, the state may change by itself as
far as `drift` allows, as the time does.

Main statements: `ends_bind_iff` (an activity in sequence is its parts one after the other),
`Ends.of_zoom` (an activity on a part of the state leaves the rest alone), `ends_run` (running an
activity against a launcher is one way in which it can end).
-/

namespace KernelGate

/-- Only a call with a limit can go without an answer. -/
def Reply.Possible (limit : Option Nat) (reply : Reply) : Prop := limit = none → reply ≠ none

/-- An answer may come however little time is allowed; only staying without one takes a limit. -/
theorem Reply.possible_some (limit : Option Nat) (answer : Result Unit) :
    Reply.Possible limit (some answer) := by
  intro _ h
  cases h

namespace Activity

variable {σ τ α β : Type} {drift : σ → σ → Prop}

/-- The calls of an activity, and what they were answered. -/
abbrev Calls := List (LauncherCall × Reply)

/-- Begun in a state, an activity that runs alone can make these calls, get these replies, and end
in this state with this result. -/
inductive Ends (drift : σ → σ → Prop) : Activity σ α → σ → Calls → σ → α → Prop where
  | done (a : α) (s : σ) : Ends drift (.done a) s [] s a
  | step {change : σ → σ} {next : σ → Activity σ α} {s t : σ} {calls : Calls} {x : α} :
      Ends drift (next s) (change s) calls t x → Ends drift (.step change next) s calls t x
  | call {c : LauncherCall} {limit : Option Nat} {next : Reply → Activity σ α} {s s' t : σ}
      {reply : Reply} {calls : Calls} {x : α} :
      drift s s' → reply.Possible limit → Ends drift (next reply) s' calls t x →
      Ends drift (.call c limit next) s ((c, reply) :: calls) t x

variable {s t : σ} {calls : Calls} {x : α} {y : β}

/-! ## Parts of an activity

How an activity can end is read off its text: for each way of making one, an equivalence says how
its ends come from those of its parts. With these an end is taken apart by rewriting, without
unfolding what an activity is. -/

theorem ends_done_iff {a : α} :
    (done a : Activity σ α).Ends drift s calls t x ↔ calls = [] ∧ t = s ∧ x = a := by
  constructor
  · intro h
    cases h
    exact ⟨rfl, rfl, rfl⟩
  · rintro ⟨rfl, rfl, rfl⟩
    exact .done x t

theorem ends_step_iff {change : σ → σ} {next : σ → Activity σ α} :
    (step change next).Ends drift s calls t x ↔ (next s).Ends drift (change s) calls t x := by
  constructor
  · intro h
    cases h with
    | step h => exact h
  · exact .step

/-- An activity that waits ends by an answer that is possible, in a state that has drifted
meanwhile, and by what it makes of the two. -/
theorem ends_call_iff {c : LauncherCall} {limit : Option Nat} {next : Reply → Activity σ α} :
    (call c limit next).Ends drift s calls t x ↔
      ∃ s' reply rest, drift s s' ∧ reply.Possible limit ∧ calls = (c, reply) :: rest ∧
        (next reply).Ends drift s' rest t x := by
  constructor
  · intro h
    cases h with
    | call hd hp h => exact ⟨_, _, _, hd, hp, rfl, h⟩
  · rintro ⟨s', reply, rest, hd, hp, rfl, h⟩
    exact .call hd hp h

/-- An activity in sequence is its parts, one after the other. -/
theorem ends_bind_iff {a : Activity σ α} {f : α → Activity σ β} :
    (a.bind f).Ends drift s calls t y ↔
      ∃ u x before after, a.Ends drift s before u x ∧ (f x).Ends drift u after t y ∧
        calls = before ++ after := by
  induction a generalizing s calls with
  | done a =>
      simp only [bind, ends_done_iff]
      constructor
      · intro h
        exact ⟨s, a, [], calls, ⟨rfl, rfl, rfl⟩, h, rfl⟩
      · rintro ⟨u, x, before, after, ⟨rfl, rfl, rfl⟩, h, rfl⟩
        exact h
  | step change next ih => simp only [bind, ends_step_iff, ih]
  | call c limit next ih =>
      simp only [bind, ends_call_iff, ih]
      constructor
      · rintro ⟨s', reply, rest, hd, hp, rfl, u, x, before, after, ha, hf, rfl⟩
        exact ⟨u, x, (c, reply) :: before, after, ⟨s', reply, before, hd, hp, rfl, ha⟩, hf, rfl⟩
      · rintro ⟨u, x, before, after, ⟨s', reply, rest, hd, hp, rfl, ha⟩, hf, rfl⟩
        exact ⟨s', reply, rest ++ after, hd, hp, rfl, u, x, rest, after, ha, hf, rfl⟩

/-- An activity whose result is put in another form. -/
theorem ends_map_iff {a : Activity σ α} {f : α → β} :
    (a.bind fun x => .done (f x)).Ends drift s calls t y ↔
      ∃ x, a.Ends drift s calls t x ∧ y = f x := by
  rw [ends_bind_iff]
  constructor
  · rintro ⟨u, x, before, after, ha, hdone, rfl⟩
    obtain ⟨rfl, rfl, rfl⟩ := ends_done_iff.1 hdone
    rw [List.append_nil]
    exact ⟨x, ha, rfl⟩
  · rintro ⟨x, ha, rfl⟩
    exact ⟨t, x, calls, [], ha, .done (f x) t, (List.append_nil calls).symm⟩

/-- A step makes no calls and takes no time. -/
theorem ends_change_bind_iff {f : σ → σ} {next : Unit → Activity σ β} :
    ((change f).bind next).Ends drift s calls t y ↔
      (next ()).Ends drift (f s) calls t y :=
  ends_step_iff

theorem ends_look_bind_iff {next : σ → Activity σ β} :
    (look.bind next).Ends drift s calls t y ↔ (next s).Ends drift s calls t y :=
  ends_step_iff

/-- What is done at once ends in one way only. -/
theorem ends_atOnce_iff {f : σ → σ × α} :
    (atOnce f).Ends drift s calls t x ↔ calls = [] ∧ f s = (t, x) := by
  simp only [atOnce, ends_step_iff, ends_done_iff, Prod.ext_iff]
  constructor
  · rintro ⟨rfl, rfl, rfl⟩
    exact ⟨rfl, rfl, rfl⟩
  · rintro ⟨rfl, rfl, rfl⟩
    exact ⟨rfl, rfl, rfl⟩

theorem ends_change_iff {f : σ → σ} {x : Unit} :
    (change f).Ends drift s calls t x ↔ calls = [] ∧ t = f s := by
  simp [change, ends_step_iff, ends_done_iff]

/-- A call without a limit, whatever it is answered. -/
theorem ends_await_iff {c : LauncherCall} {answer : Result Unit} :
    (await c).Ends drift s calls t answer ↔
      drift s t ∧ calls = [(c, some answer)] := by
  simp only [await, ends_call_iff, ends_done_iff]
  constructor
  · rintro ⟨s', reply, rest, hd, hp, rfl, rfl, rfl, rfl⟩
    cases reply with
    | none => exact absurd rfl (hp rfl)
    | some answer => exact ⟨hd, rfl⟩
  · rintro ⟨hd, rfl⟩
    exact ⟨t, some answer, [], hd, Reply.possible_some _ _, rfl, rfl, rfl, rfl⟩

/-! ## Activities on a part of the state

Where an activity knows a part of the state only, its ends are those on that part. All else is as it
was, except for what drifts while a call waits. -/

/-- An activity on a part of the state ends as it does on that part alone, and leaves the rest. -/
theorem Ends.of_zoom {part : σ → τ} {put : σ → τ → σ} {partDrift : τ → τ → Prop}
    (part_put : ∀ s u, part (put s u) = u) (put_put : ∀ s u v, put (put s u) v = put s v)
    (put_part : ∀ s, put s (part s) = s)
    (drift_put : ∀ {s s'}, drift s s' → ∃ u, partDrift (part s) u ∧ s' = put s u)
    {a : Activity τ α} (h : (a.zoom part put).Ends drift s calls t x) :
    ∃ u, a.Ends partDrift (part s) calls u x ∧ t = put s u := by
  induction a generalizing s calls with
  | done a =>
      obtain ⟨rfl, rfl, rfl⟩ := ends_done_iff.1 h
      exact ⟨part t, .done x (part t), (put_part t).symm⟩
  | step change next ih =>
      obtain ⟨u, hu, rfl⟩ := ih _ (ends_step_iff.1 h)
      rw [part_put] at hu
      exact ⟨u, .step hu, put_put _ _ _⟩
  | call c limit next ih =>
      obtain ⟨s', reply, rest, hd, hp, rfl, hn⟩ := ends_call_iff.1 h
      obtain ⟨v, hv, rfl⟩ := drift_put hd
      obtain ⟨u, hu, rfl⟩ := ih _ hn
      rw [part_put] at hu
      exact ⟨u, .call hv hp hu, put_put _ _ _⟩

/-! ## Running against a launcher

A launcher that answers every call gives an activity an end, so that what is proved of all ends is
not said of none. -/

/-- A run against a launcher that answers calls without a limit is one way to end; whatever holds of
the launcher's replies holds of those that the activity gets. -/
theorem ends_run_of_replies {ω : Type} {P : Reply → Prop}
    (answer : ω → LauncherCall → Option Nat → ω × Reply) (hdrift : ∀ s, drift s s)
    (hanswer : ∀ w c limit, (answer w c limit).2.Possible limit)
    (hreplies : ∀ w c limit, P (answer w c limit).2) (a : Activity σ α) (w : ω) (s : σ) :
    ∃ calls, a.Ends drift s calls (a.run answer w s).2.1 (a.run answer w s).2.2 ∧
      ∀ e ∈ calls, P e.2 := by
  induction a generalizing w s with
  | done a => exact ⟨[], .done a s, List.forall_mem_nil _⟩
  | step change next ih =>
      obtain ⟨calls, h, hcalls⟩ := ih s w (change s)
      exact ⟨calls, .step h, hcalls⟩
  | call c limit next ih =>
      obtain ⟨calls, h, hcalls⟩ := ih (answer w c limit).2 (answer w c limit).1 s
      refine ⟨_, .call (hdrift s) (hanswer w c limit) h, ?_⟩
      intro e he
      rcases List.mem_cons.1 he with rfl | he
      · exact hreplies w c limit
      · exact hcalls e he

/-- A run against a launcher is one of the ways to end, if nothing drifts meanwhile and the launcher
answers as it may. -/
theorem ends_run {ω : Type} (answer : ω → LauncherCall → Option Nat → ω × Reply)
    (hdrift : ∀ s, drift s s) (hanswer : ∀ w c limit, (answer w c limit).2.Possible limit)
    (a : Activity σ α) (w : ω) (s : σ) :
    ∃ calls, a.Ends drift s calls (a.run answer w s).2.1 (a.run answer w s).2.2 := by
  obtain ⟨calls, h, -⟩ :=
    ends_run_of_replies (P := fun _ => True) answer hdrift hanswer (fun _ _ _ => trivial) a w s
  exact ⟨calls, h⟩

/-- The calls are answered as a launcher with a state of its own answers them. -/
inductive Follows {ω : Type} (answer : ω → LauncherCall → Option Nat → ω × Reply) :
    ω → Calls → Prop where
  | nil (w : ω) : Follows answer w []
  | cons {w : ω} {c : LauncherCall} {limit : Option Nat} {calls : Calls} :
      Follows answer (answer w c limit).1 calls →
      Follows answer w ((c, (answer w c limit).2) :: calls)

/-- What holds of all that a launcher says holds of what it has said. -/
theorem Follows.forall {ω : Type} {answer : ω → LauncherCall → Option Nat → ω × Reply}
    {P : LauncherCall → Reply → Prop} (h : ∀ w c limit, P c (answer w c limit).2) {w : ω}
    (hfollows : Follows answer w calls) : ∀ e ∈ calls, P e.1 e.2 := by
  induction hfollows with
  | nil w => exact List.forall_mem_nil _
  | @cons w c limit calls _ ih => exact List.forall_mem_cons.2 ⟨h w c limit, ih⟩

/-- Every launcher brings every activity to an end. -/
theorem exists_ends_of_follows {ω : Type} (answer : ω → LauncherCall → Option Nat → ω × Reply)
    (hdrift : ∀ s, drift s s) (hanswer : ∀ w c limit, (answer w c limit).2.Possible limit)
    (a : Activity σ α) (w : ω) (s : σ) :
    ∃ calls t x, a.Ends drift s calls t x ∧ Follows answer w calls := by
  induction a generalizing w s with
  | done a => exact ⟨[], s, a, .done a s, .nil w⟩
  | step change next ih =>
      obtain ⟨calls, t, x, h, hfollows⟩ := ih s w (change s)
      exact ⟨calls, t, x, .step h, hfollows⟩
  | call c limit next ih =>
      obtain ⟨calls, t, x, h, hfollows⟩ := ih (answer w c limit).2 (answer w c limit).1 s
      exact ⟨_, t, x, .call (hdrift s) (hanswer w c limit) h, .cons hfollows⟩

end Activity

end KernelGate
