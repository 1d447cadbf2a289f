import KernelGate.Proofs.Activity.Outcome
import KernelGate.Rehearsal.Clock

/-!
# Activities with limited patience

An activity that makes all its calls with a limit comes to its end, however the launcher behaves,
and takes no longer than the limit for each call.

Main statement: `perform_of_limited`.
-/

namespace KernelGate

/-! ## What a caller with a limit gets

However a launcher behaves, a caller with a limit goes on by then, with an answer or without one. -/

namespace Conduct

variable {limit : Nat} {c : Conduct}

/-- What a caller gets whose patience is limited. -/
def reply (limit : Nat) (c : Conduct) : Reply := (c.waiting (some limit)).bind (·.2)

/-- Whether the call succeeds before the limit is over. -/
def succeeds (limit : Nat) : Conduct → Bool
  | .answers after (.ok ()) => after ≤ limit
  | _ => false

/-- A wait with a limit ends within it. -/
theorem waiting_limit (limit : Nat) (c : Conduct) :
    ∃ after ≤ limit, c.waiting (some limit) = some (after, c.reply limit) := by
  cases h : c.waiting (some limit) with
  | none =>
    cases c with
    | hangs => cases h
    | answers after result =>
      simp only [waiting] at h
      split at h <;> cases h
  | some e =>
    refine ⟨e.1, waiting_le h, ?_⟩
    rw [reply, h]
    rfl

/-- What succeeds in time is heard. -/
theorem reply_of_succeeds (h : c.succeeds limit = true) : c.reply limit = some (.ok ()) := by
  rcases c with ⟨after, e | _⟩ | _
  · cases h
  · simp only [reply, waiting, if_pos (of_decide_eq_true h), Option.bind_some]
  · cases h

/-- And what is heard of as a success was one, in time. -/
theorem succeeds_of_reply (h : c.reply limit = some (.ok ())) : c.succeeds limit = true := by
  rcases c with ⟨after, result⟩ | _
  · by_cases hle : after ≤ limit
    · simp only [reply, waiting, if_pos hle, Option.bind_some, Option.some.injEq] at h
      rw [h]
      exact decide_eq_true hle
    · simp only [reply, waiting, if_neg hle, Option.bind_some] at h
      cases h
  · cases h

/-- Whatever a caller gets, there is a launcher that behaves so. -/
theorem exists_reply (limit : Nat) (reply : Reply) : ∃ c : Conduct, c.reply limit = reply := by
  cases reply with
  | none => exact ⟨.hangs, rfl⟩
  | some result =>
    refine ⟨.answers 0 result, ?_⟩
    simp only [Conduct.reply, waiting, if_pos (Nat.zero_le limit), Option.bind_some]

end Conduct

/-- Calls to a launcher, in turn, and what came of each. -/
abbrev Talk := List (LauncherCall × Conduct)

/-- What a caller with a limit hears of it. -/
def Talk.calls (limit : Nat) (talk : Talk) : Activity.Calls :=
  talk.map fun e => (e.1, e.2.reply limit)

/-- Whatever the replies, there are launchers that give them. -/
theorem Talk.exists_calls (limit : Nat) (calls : Activity.Calls) :
    ∃ talk : Talk, calls = talk.calls limit := by
  induction calls with
  | nil => exact ⟨[], rfl⟩
  | cons e rest ih =>
    obtain ⟨talk, rfl⟩ := ih
    obtain ⟨c, hc⟩ := Conduct.exists_reply limit e.2
    refine ⟨(e.1, c) :: talk, ?_⟩
    show _ = (e.1, c.reply limit) :: talk.calls limit
    rw [hc]

/-- Asked these calls, the launcher behaves like this, and comes to be this. -/
inductive Launcher.Asked {L : Type} [Launcher L] : L → Talk → L → Prop where
  | nil (l : L) : Asked l [] l
  | cons {l l' : L} {c : LauncherCall} {talk : Talk} :
      Asked (Launcher.respond l c).1 talk l' → Asked l ((c, (Launcher.respond l c).2) :: talk) l'

theorem Launcher.Asked.eq_of_nil {L : Type} [Launcher L] {l l' : L} (h : Asked l [] l') :
    l' = l := by
  cases h
  rfl

/-! ## Limited activities

If every call has the limit, the activity comes to its end, and takes as long as the limit for each
call at most. -/

namespace Activity

variable {σ τ α β : Type} {limit : Nat}

/-- All calls are made with one limit. -/
def Limited (limit : Nat) : Activity σ α → Prop
  | .done _ => True
  | .step _ next => ∀ s, (next s).Limited limit
  | .call _ limit? next => limit? = some limit ∧ ∀ reply, (next reply).Limited limit

/-- Activities with limited patience in sequence have limited patience. -/
theorem Limited.bind {a : Activity σ α} {f : α → Activity σ β} (ha : a.Limited limit)
    (hf : ∀ x, (f x).Limited limit) : (a.bind f).Limited limit := by
  induction a with
  | done x => exact hf x
  | step change next ih => exact fun s => ih s (ha s)
  | call c limit? next ih => exact ⟨ha.1, fun reply => ih reply (ha.2 reply)⟩

theorem Limited.zoom {part : σ → τ} {put : σ → τ → σ} {a : Activity τ α} (ha : a.Limited limit) :
    (a.zoom part put).Limited limit := by
  induction a with
  | done x => trivial
  | step change next ih => exact fun s => ih (part s) (ha (part s))
  | call c limit? next ih => exact ⟨ha.1, fun reply => ih reply (ha.2 reply)⟩

end Activity

namespace Rehearsal

variable {L σ α : Type} [Launcher L] {limit : Nat}

theorem reach_of_free {r : Rehearsal L σ} (hfree : r.patrols = []) (time : Nat) :
    r.reach time = { r with now := time } := by
  obtain ⟨state, launcher, now, patrols, queries⟩ := r
  cases hfree
  rfl

/-- Carried out while nothing else goes on, a limited activity ends, and in time. -/
theorem perform_of_limited {drift : σ → σ → Prop} (hdrift : ∀ s, drift s s) {a : Activity σ α}
    (ha : a.Limited limit) {r : Rehearsal L σ} (hfree : r.patrols = []) :
    ∃ (r' : Rehearsal L σ) (x : α) (talk : Talk), r.perform a = (r', some x) ∧
      a.Ends drift r.state (talk.calls limit) r'.state x ∧
      Launcher.Asked r.launcher talk r'.launcher ∧ r'.patrols = [] ∧
      r.now ≤ r'.now ∧ r'.now ≤ r.now + talk.length * limit := by
  induction a generalizing r with
  | done x => exact ⟨r, x, [], rfl, .done x _, .nil _, hfree, Nat.le_refl _, Nat.le_add_right _ _⟩
  | step change next ih =>
    obtain ⟨r', x, talk, hperform, hends, hrest⟩ :=
      ih r.state (ha r.state) (r := { r with state := change r.state }) hfree
    exact ⟨r', x, talk, hperform, .step hends, hrest⟩
  | call c limit? next ih =>
    obtain ⟨rfl, hnext⟩ := ha
    obtain ⟨after, hafter, hwaiting⟩ := (Launcher.respond r.launcher c).2.waiting_limit limit
    -- Whether or not the clock moves, it comes to stand at the time of the reply.
    have hmoved : ∃ r₁ : Rehearsal L σ, r₁.state = r.state ∧
        r₁.launcher = (Launcher.respond r.launcher c).1 ∧ r₁.patrols = [] ∧
        r₁.now = r.now + after ∧ r.perform (.call c (some limit) next) =
          r₁.perform (next ((Launcher.respond r.launcher c).2.reply limit)) := by
      simp only [perform, hwaiting]
      split
      · next hzero =>
        cases hzero
        exact ⟨{ r with launcher := (Launcher.respond r.launcher c).1 }, rfl, rfl, hfree, rfl, rfl⟩
      · have hreach := reach_of_free (r := { r with
          launcher := (Launcher.respond r.launcher c).1 }) hfree (r.now + after)
        exact ⟨{ r with launcher := (Launcher.respond r.launcher c).1, now := r.now + after },
          rfl, rfl, hfree, rfl, congrArg _ hreach⟩
    obtain ⟨r₁, hstate, hlauncher, hfree₁, hnow, hperform⟩ := hmoved
    obtain ⟨r', x, talk, hperform', hends, hasked, hfree', hle, htime⟩ := ih _ (hnext _) hfree₁
    rw [hstate] at hends
    rw [hlauncher] at hasked
    refine ⟨r', x, (c, (Launcher.respond r.launcher c).2) :: talk, hperform.trans hperform',
      .call (hdrift r.state) nofun hends, .cons hasked, hfree', by omega, ?_⟩
    rw [List.length_cons, Nat.succ_mul]
    omega

end Rehearsal

end KernelGate
