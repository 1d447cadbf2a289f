import KernelGate.Proofs.Activity.Pool

/-!
# Where an activity comes to

An activity that goes on in a pool comes to the same place whoever else waits. On a part of the
state it does so just as it would if the part were all there is, and leaves the rest as it is.

Main statements: `Pool.enter_of_ends` (running alone, place by place), `Pool.enter_eq`, and
`Pool.enter_zoom`.
-/

namespace KernelGate

variable {σ τ α β : Type}

/-- A sequence on a part of the state is a sequence of activities on that part. -/
theorem Activity.zoom_bind (part : σ → τ) (put : σ → τ → σ) (a : Activity τ α)
    (f : α → Activity τ β) :
    (a.bind f).zoom part put = (a.zoom part put).bind fun x => (f x).zoom part put := by
  induction a with
  | done a => rfl
  | step change next ih => simp only [bind, zoom, ih]
  | call c limit next ih => simp only [bind, zoom, ih]

/-- An activity that makes no call ends by itself. -/
theorem Activity.ends_of_advance {drift : σ → σ → Prop} {a : Activity σ α} {s t : σ} {x : α}
    (h : a.advance s = (t, .finished x)) : a.Ends drift s [] t x := by
  induction a generalizing s with
  | done a =>
    cases h
    exact .done x t
  | step change next ih => exact .step (ih _ h)
  | call c limit next _ => cases h

/-- Someone who waits, as far as the whole state is concerned. -/
def Waiting.zoom (part : σ → τ) (put : σ → τ → σ) (w : Waiting τ α) : Waiting σ α :=
  ⟨w.call, w.limit, fun reply => (w.next reply).zoom part put⟩

namespace Pool

/-- An activity that runs alone comes to its end without a call, or waits at its first one and goes
on from there. -/
theorem enter_of_ends {drift : σ → σ → Prop} {a : Activity σ α} {s t : σ} {calls : Activity.Calls}
    {x : α} (h : a.Ends drift s calls t x) :
    calls = [] ∧ (quiet s).enter a = quiet t ∨
      ∃ s₁ s₂ w reply rest, (quiet s).enter a = ⟨s₁, [w]⟩ ∧ drift s₁ s₂ ∧
        reply.Possible w.limit ∧ calls = (w.call, reply) :: rest ∧
        (w.next reply).Ends drift s₂ rest t x := by
  induction h with
  | done a s => exact .inl ⟨rfl, rfl⟩
  | step _ ih => exact ih
  | @call c limit next s s' t reply calls x hdrift hpossible hends _ =>
    exact .inr ⟨s, s', ⟨c, limit, next⟩, reply, calls, rfl, hdrift, hpossible, rfl, hends⟩

theorem enter_look_bind (s : σ) (next : σ → Activity σ α) :
    (quiet s).enter (Activity.look.bind next) = (quiet s).enter (next s) := rfl

/-- Whoever waits already is not in the way of an activity that goes on. -/
theorem enter_eq (s : σ) (waiting : List (Waiting σ α)) (a : Activity σ α) :
    enter ⟨s, waiting⟩ a =
      ⟨((quiet s).enter a).state, waiting ++ ((quiet s).enter a).waiting⟩ := by
  unfold enter quiet
  rcases a.advance s with ⟨t, x | ⟨c, limit, next⟩⟩
  · simp
  · simp

/-- An activity that is to work on a part stops where it would if the part were all there is, and
waits there in the same way. -/
theorem enter_zoom {part : σ → τ} {put : σ → τ → σ} (part_put : ∀ s u, part (put s u) = u)
    (put_put : ∀ s u v, put (put s u) v = put s v) (put_part : ∀ s, put s (part s) = s)
    (a : Activity τ α) (s : σ) :
    (quiet s).enter (a.zoom part put) =
      ⟨put s ((quiet (part s)).enter a).state,
        ((quiet (part s)).enter a).waiting.map (Waiting.zoom part put)⟩ := by
  induction a generalizing s with
  | done x =>
    show (⟨s, []⟩ : Pool σ α) = ⟨put s (part s), []⟩
    rw [put_part]
  | step change next ih =>
    have hstep := ih (part s) (put s (change (part s)))
    rw [part_put, put_put] at hstep
    exact hstep
  | call c limit next ih =>
    show (⟨s, _⟩ : Pool σ α) = ⟨put s (part s), _⟩
    rw [put_part]
    rfl

end Pool

end KernelGate
