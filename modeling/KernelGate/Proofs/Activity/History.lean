import KernelGate.Launcher.Scripted
import KernelGate.Proofs.Activity.Pool

/-!
# What a run has behind it

A run of a pool keeps on record which calls no longer wait, and what became of each: it was
answered, or whoever waited for it was given up. An activity that is given up does nothing more.
What may begin can depend on the record.

Main statements: `runs_of_reaches` (every run of a pool has a record), `reaches_of_ends` (an
activity that runs alone is a run of a pool in which nobody else waits).
-/

namespace KernelGate

/-- What becomes of a call that waits. -/
inductive CallFate where
  | answered (reply : Reply)
  | givenUp

/-- The calls that wait no longer, in turn, and what became of them. -/
abbrev History := List (LauncherCall × CallFate)

def CallFate.isSuccess : CallFate → Bool
  | .answered (some (.ok ())) => true
  | _ => false

def CallFate.isGivenUp : CallFate → Bool
  | .answered _ => false
  | .givenUp => true

namespace History

/-- All calls were answered. -/
def Complete (log : History) : Prop := ∀ c, (c, CallFate.givenUp) ∉ log

/-- Calls of a kind, about the kernels of a selection, of which a certain thing has become. -/
def count (log : History) (fate : CallFate → Bool) (kind : CallKind) (sel : KernelHandle → Bool) :
    Nat :=
  log.countP fun e => fate e.2 && (decide (e.1.kind = kind) && sel e.1.handle)

abbrev succeeded (log : History) : CallKind → (KernelHandle → Bool) → Nat :=
  log.count CallFate.isSuccess

abbrev givenUp (log : History) : CallKind → (KernelHandle → Bool) → Nat :=
  log.count CallFate.isGivenUp

theorem count_append (log log' : History) (fate : CallFate → Bool) (kind : CallKind)
    (sel : KernelHandle → Bool) :
    count (log ++ log') fate kind sel = log.count fate kind sel + log'.count fate kind sel :=
  List.countP_append

theorem succeeded_append (log log' : History) (kind : CallKind) (sel : KernelHandle → Bool) :
    succeeded (log ++ log') kind sel = log.succeeded kind sel + log'.succeeded kind sel :=
  count_append log log' _ kind sel

theorem givenUp_append (log log' : History) (kind : CallKind) (sel : KernelHandle → Bool) :
    givenUp (log ++ log') kind sel = log.givenUp kind sel + log'.givenUp kind sel :=
  count_append log log' _ kind sel

theorem count_singleton (c : LauncherCall) (x : CallFate) (fate : CallFate → Bool) (kind : CallKind)
    (sel : KernelHandle → Bool) :
    count [(c, x)] fate kind sel =
      if fate x && (decide (c.kind = kind) && sel c.handle) then 1 else 0 :=
  List.countP_singleton

/-- Nothing is counted exactly if all calls of the kind that came to this concerned others. -/
theorem count_eq_zero_iff {log : History} {fate : CallFate → Bool} {kind : CallKind}
    {sel : KernelHandle → Bool} :
    log.count fate kind sel = 0 ↔
      ∀ e ∈ log, fate e.2 = true → e.1.kind = kind → sel e.1.handle = false := by
  unfold count
  rw [List.countP_eq_zero]
  simp only [Bool.and_eq_true, decide_eq_true_eq, not_and, Bool.not_eq_true]

/-- The run has launched a kernel with this id. -/
def Launched (log : History) (id : String) : Prop :=
  ∃ request : LaunchRequest, (.launch request, .answered (some (.ok ()))) ∈ log ∧
    request.handle.id = id

theorem launched_append (log log' : History) (id : String) :
    Launched (log ++ log') id ↔ log.Launched id ∨ log'.Launched id := by
  unfold Launched
  simp only [List.mem_append, or_and_right, exists_or]

section

variable {log : History}

/-- A launch that is answered with success counts its kernel among those launched. -/
theorem launched_append_iff {request : LaunchRequest} {id : String} :
    Launched (log ++ [(.launch request, .answered (some (.ok ())))]) id ↔
      log.Launched id ∨ request.handle.id = id := by
  constructor
  · rintro ⟨request', hmem, hid⟩
    rcases List.mem_append.1 hmem with hmem | hmem
    · exact .inl ⟨request', hmem, hid⟩
    · cases List.mem_singleton.1 hmem
      exact .inr hid
  · rintro (⟨request', hmem, hid⟩ | hid)
    · exact ⟨request', List.mem_append_left _ hmem, hid⟩
    · exact ⟨request, List.mem_append_right _ (List.mem_singleton_self _), hid⟩

/-- No other entry does, be it about another kind of call or about a launch that failed. -/
theorem launched_append_iff_of_ne {e : LauncherCall × CallFate} {id : String}
    (he : ∀ request, e ≠ (.launch request, .answered (some (.ok ())))) :
    Launched (log ++ [e]) id ↔ log.Launched id := by
  constructor
  · rintro ⟨request, hmem, hid⟩
    rcases List.mem_append.1 hmem with hmem | hmem
    · exact ⟨request, hmem, hid⟩
    · exact absurd (List.mem_singleton.1 hmem).symm (he request)
  · rintro ⟨request, hmem, hid⟩
    exact ⟨request, List.mem_append_left _ hmem, hid⟩

end

end History

namespace Pool

variable {σ α : Type}

/-- A pool can come to another, with this record of its calls. -/
inductive Runs (May : History → Pool σ α → Activity σ α → Prop) (p : Pool σ α) :
    History → Pool σ α → Prop where
  | refl : Runs May p [] p
  | begins {log : History} {q : Pool σ α} {a : Activity σ α} :
      Runs May p log q → May log q a → Runs May p log (q.enter a)
  | answered {log : History} {s : σ} {before after : List (Waiting σ α)} {w : Waiting σ α}
      {reply : Reply} :
      Runs May p log ⟨s, before ++ w :: after⟩ → reply.Possible w.limit →
      Runs May p (log ++ [(w.call, .answered reply)]) (enter ⟨s, before ++ after⟩ (w.next reply))
  | givenUp {log : History} {s : σ} {before after : List (Waiting σ α)} {w : Waiting σ α} :
      Runs May p log ⟨s, before ++ w :: after⟩ →
      Runs May p (log ++ [(w.call, .givenUp)]) ⟨s, before ++ after⟩

/-- Answer the activity at a place, or give it up. -/
def settle (p : Pool σ α) (place : Nat) : CallFate → Pool σ α
  | .answered reply => p.resume place reply
  | .givenUp => ⟨p.state, p.waiting.eraseIdx place⟩

/-- What is to be recorded of it. -/
def record (p : Pool σ α) (place : Nat) (fate : CallFate) : History :=
  p.waiting[place]?.toList.map fun w => (w.call, fate)

variable {May : History → Pool σ α → Activity σ α → Prop} {p q : Pool σ α} {log : History}

/-- Whoever waits at a place stands between those before and those behind. -/
theorem split_waiting {w : Waiting σ α} {place : Nat} (hw : q.waiting[place]? = some w) :
    q = ⟨q.state, q.waiting.take place ++ w :: q.waiting.drop (place + 1)⟩ := by
  obtain ⟨hlt, hget⟩ := List.getElem?_eq_some_iff.1 hw
  rw [← hget, List.getElem_cons_drop, List.take_append_drop]

/-- A run can go on with what becomes of any of the calls that wait. -/
theorem Runs.settle (h : Runs May p log q) (place : Nat) {fate : CallFate}
    (hfate : ∀ reply, fate = .answered reply → ∀ w ∈ q.waiting, reply.Possible w.limit) :
    Runs May p (log ++ q.record place fate) (q.settle place fate) := by
  cases hw : q.waiting[place]? with
  | none =>
    have hsame : q.settle place fate = q := by
      cases fate with
      | answered reply => simp only [Pool.settle, resume, hw]
      | givenUp =>
        simp only [Pool.settle, List.eraseIdx_of_length_le (List.getElem?_eq_none_iff.1 hw)]
    simp only [record, hw, hsame, Option.toList_none, List.map_nil, List.append_nil]
    exact h
  | some w =>
    have hmem : w ∈ q.waiting := List.mem_of_getElem? hw
    have herase : q.waiting.eraseIdx place =
        q.waiting.take place ++ q.waiting.drop (place + 1) := List.eraseIdx_eq_take_drop_succ ..
    have hrecord : q.record place fate = [(w.call, fate)] := by
      simp only [record, hw, Option.toList_some, List.map_singleton]
    -- Those that wait are written as those before, this one, and those behind.
    rw [split_waiting hw] at h
    rw [hrecord]
    cases fate with
    | answered reply =>
      have hresume : q.resume place reply =
          enter ⟨q.state, q.waiting.take place ++ q.waiting.drop (place + 1)⟩ (w.next reply) := by
        simp only [resume, hw, herase]
      show Runs May p _ (q.resume place reply)
      rw [hresume]
      exact h.answered (hfate reply rfl w hmem)
    | givenUp =>
      show Runs May p _ ⟨q.state, q.waiting.eraseIdx place⟩
      rw [herase]
      exact h.givenUp

/-- An answer to the activity at a place goes on record, as long as an activity waits there. -/
theorem Runs.answer (h : Runs May p log q) (place : Nat) (answer : Result Unit) :
    Runs May p (log ++ q.record place (.answered (some answer)))
      (q.settle place (.answered (some answer))) := by
  refine h.settle place fun reply hreply w _ => ?_
  cases hreply
  exact Reply.possible_some _ answer

/-- So does giving it up. -/
theorem Runs.giveUp (h : Runs May p log q) (place : Nat) :
    Runs May p (log ++ q.record place .givenUp) (q.settle place .givenUp) :=
  h.settle place fun reply hreply => by cases hreply

section

variable {May : Pool σ α → Activity σ α → Prop}

/-- Every run of a pool has a record, on which nothing was given up. -/
theorem runs_of_reaches (h : Reaches May p q) :
    ∃ log, Runs (fun _ => May) p log q ∧ log.Complete := by
  induction h with
  | refl => exact ⟨[], .refl, by simp [History.Complete]⟩
  | tail _ hs ih =>
    obtain ⟨log, hruns, hcomplete⟩ := ih
    cases hs with
    | begins hmay => exact ⟨log, hruns.begins hmay, hcomplete⟩
    | answered hreply =>
      refine ⟨_, hruns.answered hreply, ?_⟩
      intro c hmem
      rcases List.mem_append.1 hmem with hmem | hmem
      · exact hcomplete c hmem
      · simp at hmem

/-- An activity that runs alone is a run of a pool in which nobody else waits. -/
theorem reaches_of_ends {drift : σ → σ → Prop} {a : Activity σ α} {s t : σ}
    {calls : Activity.Calls} {x : α}
    (hdrift : ∀ {s s' : σ}, drift s s' → ∀ waiting, Reaches May ⟨s, waiting⟩ ⟨s', waiting⟩)
    (h : a.Ends drift s calls t x) : Reaches May (enter (quiet s) a) (quiet t) := by
  induction h with
  | done a s => exact .refl
  | step _ ih => exact ih
  | @call c limit next s s' t reply calls x hd hp _ ih =>
    have hwait : Reaches May (enter (quiet s) (.call c limit next))
        ⟨s', [] ++ ⟨c, limit, next⟩ :: []⟩ := hdrift hd _
    exact (hwait.tail (.answered hp)).trans ih

end

end Pool

end KernelGate
