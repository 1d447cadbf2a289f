import KernelGate.Proofs.Activity.Outcome
import Mathlib.Logic.Relation

/-!
# Activities in turn

A pool is a state and the activities on it that wait for the launcher. An activity that begins, or
gets its answer, goes on at once to its next call or to its end; while it waits the others may go
on. Which activities may begin is left open (`May`), and so is the order of the answers.

Main statements: `invariant_of_reaches` (what every step keeps is kept by every run),
`step_resume` (answering the activity at a place in the pool is a step).
-/

namespace KernelGate

/-- An activity that waits for the answer to a call. -/
structure Waiting (σ α : Type) where
  call : LauncherCall
  limit : Option Nat
  next : Reply → Activity σ α

/-- A state, and the activities on it that wait. -/
structure Pool (σ α : Type) where
  state : σ
  waiting : List (Waiting σ α)

namespace Pool

variable {σ α : Type}

/-- Nobody waits. -/
def quiet (s : σ) : Pool σ α := ⟨s, []⟩

/-- Let an activity go on to its next call or to its end. -/
def enter (p : Pool σ α) (a : Activity σ α) : Pool σ α :=
  match a.advance p.state with
  | (s, .finished _) => ⟨s, p.waiting⟩
  | (s, .waiting c limit next) => ⟨s, p.waiting ++ [⟨c, limit, next⟩]⟩

/-- Answer the activity at a place. -/
def resume (p : Pool σ α) (place : Nat) (reply : Reply) : Pool σ α :=
  match p.waiting[place]? with
  | none => p
  | some w => enter ⟨p.state, p.waiting.eraseIdx place⟩ (w.next reply)

/-- What an activity does at once is done before the pool goes on. -/
theorem enter_atOnce_bind {β : Type} {p : Pool σ β} {f : σ → σ × α} {next : α → Activity σ β}
    {s : σ} {x : α} (h : f p.state = (s, x)) :
    p.enter ((Activity.atOnce f).bind next) = enter ⟨s, p.waiting⟩ (next x) := by
  show enter ⟨(f p.state).1, p.waiting⟩ (next (f p.state).2) = _
  rw [h]

/-! ## Steps and runs

What may begin is up to a relation `May` between the state and the activity. A run takes steps in
any order: nothing says that an answer comes at all, or that answers come in the order of the calls.
-/

/-- One thing that happens to a pool: an activity that may begin does, or one that waits is
answered. -/
inductive Step (May : Pool σ α → Activity σ α → Prop) : Pool σ α → Pool σ α → Prop where
  | begins {p : Pool σ α} {a : Activity σ α} : May p a → Step May p (p.enter a)
  | answered {s : σ} {before after : List (Waiting σ α)} {w : Waiting σ α} {reply : Reply} :
      reply.Possible w.limit →
      Step May ⟨s, before ++ w :: after⟩ (enter ⟨s, before ++ after⟩ (w.next reply))

/-- What a pool can come to. -/
abbrev Reaches (May : Pool σ α → Activity σ α → Prop) : Pool σ α → Pool σ α → Prop :=
  Relation.ReflTransGen (Step May)

/-- What a pool can come to by answers alone, while nothing begins. -/
abbrev Settles : Pool σ α → Pool σ α → Prop := Reaches fun _ _ => False

variable {May : Pool σ α → Activity σ α → Prop} {p q : Pool σ α}

/-- What every step keeps is kept by every run. -/
theorem invariant_of_reaches (Inv : Pool σ α → Prop)
    (hstep : ∀ {p q}, Inv p → Step May p q → Inv q) (hp : Inv p) (h : Reaches May p q) :
    Inv q := by
  induction h with
  | refl => exact hp
  | tail _ hs ih => exact hstep ih hs

/-- Answering the activity at a place is a step. -/
theorem step_resume {w : Waiting σ α} {place : Nat} {reply : Reply}
    (hw : p.waiting[place]? = some w) (hreply : reply.Possible w.limit) :
    Step May p (p.resume place reply) := by
  obtain ⟨hlt, hget⟩ := List.getElem?_eq_some_iff.1 hw
  obtain ⟨s, waiting⟩ := p
  have hsplit : waiting = waiting.take place ++ w :: waiting.drop (place + 1) := by
    rw [← hget, List.getElem_cons_drop, List.take_append_drop]
  have hresume : resume ⟨s, waiting⟩ place reply =
      enter ⟨s, waiting.take place ++ waiting.drop (place + 1)⟩ (w.next reply) := by
    simp only [resume, hw, List.eraseIdx_eq_take_drop_succ]
  have hs : Step May ⟨s, waiting.take place ++ w :: waiting.drop (place + 1)⟩
      (enter ⟨s, waiting.take place ++ waiting.drop (place + 1)⟩ (w.next reply)) :=
    .answered hreply
  rw [hresume]
  rwa [← hsplit] at hs

/-- A run can go on with an answer to any of those that wait. -/
theorem Reaches.resume (h : Reaches May p q) {place : Nat} (hplace : place < q.waiting.length)
    (answer : Result Unit) : Reaches May p (q.resume place (some answer)) :=
  h.tail (step_resume (List.getElem?_eq_getElem hplace) (Reply.possible_some _ answer))

end Pool

end KernelGate
