import KernelGate.Proofs.Activity.Outcome

/-!
# What happens while calls wait

`Unfolds drift a s waits t x` says that the activity `a`, begun in the state `s`, can end in `t`
with the result `x` after the waits in `waits`, and for each of these it says what happened
meanwhile, be it that time went on or that others were at work. What can happen is up to `drift`.

Main statements: `unfolds_bind_iff` (an activity in sequence is its parts, one after the other),
`Unfolds.ends` and `exists_unfolds_of_ends` (leaving out what happened meanwhile, an activity ends
as one that runs alone), `unfolds_stirred` (a run where the same happens during each call),
`Keeps.bind` and the lemmas beside it (what an activity keeps, step by step).
-/

namespace KernelGate

namespace Activity

/-- A call, what happened until it was answered, and the reply. -/
structure Wait (ω : Type) where
  call : LauncherCall
  meanwhile : ω
  reply : Reply

variable {σ τ ω α β : Type} {drift : σ → ω → σ → Prop}

/-- The call and its reply. -/
def Wait.answered (w : Wait ω) : LauncherCall × Reply := (w.call, w.reply)

/-- Begun in a state, an activity can wait as told, and end in this state with this result. -/
inductive Unfolds (drift : σ → ω → σ → Prop) : Activity σ α → σ → List (Wait ω) → σ → α → Prop where
  | done (a : α) (s : σ) : Unfolds drift (.done a) s [] s a
  | step {change : σ → σ} {next : σ → Activity σ α} {s t : σ} {waits : List (Wait ω)} {x : α} :
      Unfolds drift (next s) (change s) waits t x → Unfolds drift (.step change next) s waits t x
  | call {c : LauncherCall} {limit : Option Nat} {next : Reply → Activity σ α} {s s' t : σ}
      {meanwhile : ω} {reply : Reply} {waits : List (Wait ω)} {x : α} :
      drift s meanwhile s' → reply.Possible limit → Unfolds drift (next reply) s' waits t x →
      Unfolds drift (.call c limit next) s (⟨c, meanwhile, reply⟩ :: waits) t x

variable {s t : σ} {waits : List (Wait ω)} {x : α} {y : β}

/-! ## Parts of an activity

As for the ends of an activity that runs alone, there is an equivalence for each way of making one.
The waits of a sequence are those of its first part and then those of its second. -/

theorem unfolds_done_iff {a : α} :
    (done a : Activity σ α).Unfolds drift s waits t x ↔ waits = [] ∧ t = s ∧ x = a := by
  constructor
  · intro h
    cases h
    exact ⟨rfl, rfl, rfl⟩
  · rintro ⟨rfl, rfl, rfl⟩
    exact .done x t

theorem unfolds_step_iff {change : σ → σ} {next : σ → Activity σ α} :
    (step change next).Unfolds drift s waits t x ↔
      (next s).Unfolds drift (change s) waits t x := by
  constructor
  · intro h
    cases h with
    | step h => exact h
  · exact .step

/-- A wait is one of the waits on the list: the call, what happened meanwhile, and the reply. -/
theorem unfolds_call_iff {c : LauncherCall} {limit : Option Nat} {next : Reply → Activity σ α} :
    (call c limit next).Unfolds drift s waits t x ↔
      ∃ s' meanwhile reply rest, drift s meanwhile s' ∧ reply.Possible limit ∧
        waits = ⟨c, meanwhile, reply⟩ :: rest ∧ (next reply).Unfolds drift s' rest t x := by
  constructor
  · intro h
    cases h with
    | call hd hp h => exact ⟨_, _, _, _, hd, hp, rfl, h⟩
  · rintro ⟨s', meanwhile, reply, rest, hd, hp, rfl, h⟩
    exact .call hd hp h

/-- The parts of a sequence follow each other without a wait between them. -/
theorem unfolds_bind_iff {a : Activity σ α} {f : α → Activity σ β} :
    (a.bind f).Unfolds drift s waits t y ↔
      ∃ u x before after, a.Unfolds drift s before u x ∧ (f x).Unfolds drift u after t y ∧
        waits = before ++ after := by
  induction a generalizing s waits with
  | done a =>
      simp only [bind, unfolds_done_iff]
      constructor
      · intro h
        exact ⟨s, a, [], waits, ⟨rfl, rfl, rfl⟩, h, rfl⟩
      · rintro ⟨u, x, before, after, ⟨rfl, rfl, rfl⟩, h, rfl⟩
        exact h
  | step change next ih => simp only [bind, unfolds_step_iff, ih]
  | call c limit next ih =>
      simp only [bind, unfolds_call_iff, ih]
      constructor
      · rintro ⟨s', w, reply, rest, hd, hp, rfl, u, x, before, after, ha, hf, rfl⟩
        exact ⟨u, x, ⟨c, w, reply⟩ :: before, after, ⟨s', w, reply, before, hd, hp, rfl, ha⟩, hf,
          rfl⟩
      · rintro ⟨u, x, before, after, ⟨s', w, reply, rest, hd, hp, rfl, ha⟩, hf, rfl⟩
        exact ⟨s', w, reply, rest ++ after, hd, hp, rfl, u, x, rest, after, ha, hf, rfl⟩

theorem unfolds_look_bind_iff {next : σ → Activity σ β} :
    (look.bind next).Unfolds drift s waits t y ↔ (next s).Unfolds drift s waits t y :=
  unfolds_step_iff

theorem unfolds_atOnce_iff {f : σ → σ × α} :
    (atOnce f).Unfolds drift s waits t x ↔ waits = [] ∧ f s = (t, x) := by
  simp only [atOnce, unfolds_step_iff, unfolds_done_iff, Prod.ext_iff]
  constructor
  · rintro ⟨rfl, rfl, rfl⟩
    exact ⟨rfl, rfl, rfl⟩
  · rintro ⟨rfl, rfl, rfl⟩
    exact ⟨rfl, rfl, rfl⟩

/-- A call without a limit, whatever it is answered. -/
theorem unfolds_await_iff {c : LauncherCall} {answer : Result Unit} :
    (await c).Unfolds drift s waits t answer ↔
      ∃ meanwhile, drift s meanwhile t ∧ waits = [⟨c, meanwhile, some answer⟩] := by
  simp only [await, unfolds_call_iff, unfolds_done_iff]
  constructor
  · rintro ⟨s', meanwhile, reply, rest, hd, hp, rfl, rfl, rfl, rfl⟩
    cases reply with
    | none => exact absurd rfl (hp rfl)
    | some answer => exact ⟨meanwhile, hd, rfl⟩
  · rintro ⟨meanwhile, hd, rfl⟩
    exact ⟨t, meanwhile, some answer, [], hd, Reply.possible_some _ _, rfl, rfl, rfl, rfl⟩

/-- An activity on a part of the state unfolds as it does on that part alone. -/
theorem Unfolds.of_zoom {part : σ → τ} {put : σ → τ → σ} {partDrift : τ → ω → τ → Prop}
    (part_put : ∀ s u, part (put s u) = u) (put_put : ∀ s u v, put (put s u) v = put s v)
    (put_part : ∀ s, put s (part s) = s)
    (drift_put : ∀ {s w s'}, drift s w s' → ∃ u, partDrift (part s) w u ∧ s' = put s u)
    {a : Activity τ α} (h : (a.zoom part put).Unfolds drift s waits t x) :
    ∃ u, a.Unfolds partDrift (part s) waits u x ∧ t = put s u := by
  induction a generalizing s waits with
  | done a =>
      obtain ⟨rfl, rfl, rfl⟩ := unfolds_done_iff.1 h
      exact ⟨part t, .done x (part t), (put_part t).symm⟩
  | step change next ih =>
      obtain ⟨u, hu, rfl⟩ := ih _ (unfolds_step_iff.1 h)
      rw [part_put] at hu
      exact ⟨u, .step hu, put_put _ _ _⟩
  | call c limit next ih =>
      obtain ⟨s', w, reply, rest, hd, hp, rfl, hn⟩ := unfolds_call_iff.1 h
      obtain ⟨v, hv, rfl⟩ := drift_put hd
      obtain ⟨u, hu, rfl⟩ := ih _ hn
      rw [part_put] at hu
      exact ⟨u, .call hv hp hu, put_put _ _ _⟩

/-! ## Running alone

If what happens meanwhile is left out, the waits of an activity are its calls and their replies, and
it has ended as it would alone. -/

/-- An activity unfolds in all ways that a weaker drift allows. -/
theorem Unfolds.mono {drift' : σ → ω → σ → Prop} (hdrift : ∀ s w s', drift s w s' → drift' s w s')
    {a : Activity σ α} (h : a.Unfolds drift s waits t x) : a.Unfolds drift' s waits t x := by
  induction h with
  | done a s => exact .done a s
  | step _ ih => exact .step ih
  | call hd hp _ ih => exact .call (hdrift _ _ _ hd) hp ih

/-- To leave out what happened is to leave it to the drift of the state. -/
theorem Unfolds.ends {alone : σ → σ → Prop} (hdrift : ∀ s w s', drift s w s' → alone s s')
    {a : Activity σ α} (h : a.Unfolds drift s waits t x) :
    a.Ends alone s (waits.map Wait.answered) t x := by
  induction h with
  | done a s => exact .done a s
  | step _ ih => exact .step ih
  | call hd hp _ ih => exact .call (hdrift _ _ _ hd) hp ih

/-- Conversely every end is one in which something happened during each call, if the state can only
drift by something happening. -/
theorem exists_unfolds_of_ends {alone : σ → σ → Prop}
    (hdrift : ∀ s s', alone s s' → ∃ w, drift s w s') {a : Activity σ α} {calls : Calls}
    (h : a.Ends alone s calls t x) :
    ∃ waits : List (Wait ω), a.Unfolds drift s waits t x ∧ waits.map Wait.answered = calls := by
  induction h with
  | done a s => exact ⟨[], .done a s, rfl⟩
  | step _ ih =>
    obtain ⟨waits, h, hcalls⟩ := ih
    exact ⟨waits, .step h, hcalls⟩
  | @call c limit next s s' t reply calls x hd hp _ ih =>
    obtain ⟨w, hw⟩ := hdrift _ _ hd
    obtain ⟨waits, h, hcalls⟩ := ih
    exact ⟨⟨c, w, reply⟩ :: waits, .call hw hp h, congrArg ((c, reply) :: ·) hcalls⟩

/-- Run an activity where this happens during each call and each is answered so: how it waited, the
state that it ends in, and its result. -/
def stirred (stir : σ → ω × σ) (answer : Result Unit) : Activity σ α → σ → List (Wait ω) × σ × α
  | done x, s => ([], s, x)
  | step change next, s => (next s).stirred stir answer (change s)
  | call c _ next, s =>
    let rest := (next (some answer)).stirred stir answer (stir s).2
    (⟨c, (stir s).1, some answer⟩ :: rest.1, rest.2)

/-- An activity can always end, whatever is to happen during its calls. -/
theorem unfolds_stirred {stir : σ → ω × σ} (hstir : ∀ s, drift s (stir s).1 (stir s).2)
    (answer : Result Unit) (a : Activity σ α) (s : σ) :
    a.Unfolds drift s (a.stirred stir answer s).1 (a.stirred stir answer s).2.1
      (a.stirred stir answer s).2.2 := by
  induction a generalizing s with
  | done x => exact .done x s
  | step change next ih => exact .step (ih s (change s))
  | call c limit next ih =>
    exact .call (hstir s) (Reply.possible_some limit answer) (ih (some answer) (stir s).2)

/-! ## What an activity keeps

An invariant may speak of the waits that are over. An activity keeps it if every step does, and
every wait with what happened meanwhile; as before, there is a lemma for each way of making an
activity, and a proof goes along its text. -/

/-- Whatever happens while it waits, an activity keeps what holds of the waits so far and of the
state. -/
def Keeps (drift : σ → ω → σ → Prop) (Inv : List (Wait ω) → σ → Prop) (a : Activity σ α) : Prop :=
  ∀ before waits s t x, Inv before s → a.Unfolds drift s waits t x → Inv (before ++ waits) t

variable {Inv : List (Wait ω) → σ → Prop} {a : Activity σ α}

theorem keeps_done (x : α) : (done x).Keeps drift Inv := by
  intro before waits s t y hs h
  obtain ⟨rfl, rfl, -⟩ := unfolds_done_iff.1 h
  rwa [List.append_nil]

theorem keeps_step {change : σ → σ} {next : σ → Activity σ α}
    (hchange : ∀ {waits s}, Inv waits s → Inv waits (change s))
    (hnext : ∀ s, (next s).Keeps drift Inv) : (step change next).Keeps drift Inv := by
  intro before waits s t y hs h
  exact hnext s _ _ _ _ _ (hchange hs) (unfolds_step_iff.1 h)

theorem keeps_atOnce {f : σ → σ × α} (hf : ∀ {waits s}, Inv waits s → Inv waits (f s).1) :
    (atOnce f).Keeps drift Inv :=
  keeps_step hf fun _ => keeps_done _

/-- Between a call and its answer the state has drifted, and one wait more is over. -/
theorem keeps_await {c : LauncherCall}
    (h : ∀ {before s w s' answer}, Inv before s → drift s w s' →
      Inv (before ++ [⟨c, w, some answer⟩]) s') : (await c).Keeps drift Inv := by
  intro before waits s t x hs hends
  obtain ⟨w, hdrift, rfl⟩ := unfolds_await_iff.1 hends
  exact h hs hdrift

theorem keeps_look_bind {next : σ → Activity σ α} (h : ∀ s, (next s).Keeps drift Inv) :
    (look.bind next).Keeps drift Inv :=
  keeps_step (fun hs => hs) h

/-- What both parts keep, the sequence keeps. -/
theorem Keeps.bind {f : α → Activity σ β} (ha : a.Keeps drift Inv)
    (hf : ∀ x, (f x).Keeps drift Inv) : (a.bind f).Keeps drift Inv := by
  intro before waits s t y hs h
  obtain ⟨u, x, first, second, h₁, h₂, rfl⟩ := unfolds_bind_iff.1 h
  rw [← List.append_assoc]
  exact hf x _ _ _ _ _ (ha _ _ _ _ _ hs h₁) h₂

end Activity

end KernelGate
