import KernelGate.Launcher.Scripted
import KernelGate.Proofs.Activity.Pool
import KernelGate.Proofs.Fleet.Effects

/-!
# Calls to a fleet in turn

Any number of launches, takeovers and shutdowns on one fleet, each of which lets the others go on
while it waits for the launcher. A call waits at one place at most, its `Stage`, so that a pool of
calls is the fleet and a list of stages: its `Traffic`.

Main statements: `begins_of_enter` and `outcome_settle` say all that a call can do when it begins
and when it is answered; `moves_of_step` follows the traffic through a step of the pool.
-/

namespace KernelGate

namespace Fleet

/-! ## The calls

What may begin at a time depends on what goes on: a launch is to get an id that nobody uses, and no
kernel is taken over while a call about it waits. -/

/-- What the clients of a fleet ask for. -/
inductive Operation where
  | create (spec : KernelSpec) (params : LaunchParams)
  | reattach (limit : Option Nat) (kernel : KernelHandle)
  | shutdown (id : String)

/-- The activity of an operation; the others have no part in its result. -/
def Operation.activity : Operation → Activity Fleet Unit
  | .create spec p => (Fleet.create spec p).bind fun _ => .done ()
  | .reattach limit h => (Fleet.reattach limit h).bind fun _ => .done ()
  | .shutdown id => (Fleet.shutdown id).bind fun _ => .done ()

/-- A kernel is tracked, or a call about it waits. -/
def InUse (p : Pool Fleet Unit) (id : String) : Prop :=
  p.state.kernels.contains id = true ∨ ∃ w ∈ p.waiting, w.call.handle.id = id

/-- The id that a launch would give to its kernel is a new one, and no kernel is taken over while
another call is about it. A shutdown may come at any time: a kernel that is being taken over is not
tracked yet, so that it finds nothing. -/
def Operation.Clear (p : Pool Fleet Unit) : Operation → Prop
  | .create _ _ => ¬ InUse p (p.state.supply.kernelId p.state.named)
  | .reattach _ h => ∀ w ∈ p.waiting, w.call.handle.id ≠ h.id
  | .shutdown _ => True

instance (p : Pool Fleet Unit) (id : String) : Decidable (InUse p id) :=
  inferInstanceAs (Decidable (_ ∨ _))

instance (p : Pool Fleet Unit) : (op : Operation) → Decidable (op.Clear p)
  | .create _ _ => inferInstanceAs (Decidable (¬ InUse _ _))
  | .reattach _ _ => inferInstanceAs (Decidable (∀ w ∈ _, _))
  | .shutdown _ => inferInstanceAs (Decidable True)

/-- What may happen to a fleet next, besides the launcher's answers: one of the operations that are
allowed begins, or time goes on. -/
inductive May (allowed : Operation → Prop) : Pool Fleet Unit → Activity Fleet Unit → Prop where
  | operation {p : Pool Fleet Unit} {op : Operation} :
      allowed op → op.Clear p → May allowed p op.activity
  | pass {p : Pool Fleet Unit} (millis : Nat) : May allowed p (.change (later · millis))

/-- A run can go on with an operation that is allowed. -/
theorem reaches_enter {allowed : Operation → Prop} {p q : Pool Fleet Unit}
    (h : Pool.Reaches (May allowed) p q) {op : Operation} (hallowed : allowed op)
    (hclear : op.Clear q) : Pool.Reaches (May allowed) p (q.enter op.activity) :=
  h.tail (.begins (.operation hallowed hclear))

/-- How many calls of a kind, about the kernels of a selection, wait. -/
def pending (p : Pool Fleet Unit) (kind : CallKind) (sel : KernelHandle → Bool) : Nat :=
  p.waiting.countP fun w => decide (w.call.kind = kind) && sel w.call.handle

/-! ## Where a call waits

An activity that waits is a function from replies, which nothing can be read from. But the
operations of a fleet wait in three places only, so that those who wait can be listed as data. -/

/-- What a call that waits will go on with. -/
inductive Stage where
  | launching (request : LaunchRequest)
  | probing (limit : Option Nat) (kernel : KernelHandle)
  | ending (kernel : Tracked)

namespace Stage

/-- What the launcher was asked. -/
def call : Stage → LauncherCall
  | launching r => .launch r
  | probing _ h => .probe h
  | ending k => .terminate k.handle

/-- The kernel that the call is about. -/
def id (s : Stage) : String := s.call.handle.id

/-- How the activity waits. -/
def waiting : Stage → Waiting Fleet Unit
  | launching r =>
    ⟨.launch r, none, fun reply =>
      (Activity.atOnce (settleLaunch · r (reply.getD (.error (.recovery .timedOut))))).bind
        fun _ => .done ()⟩
  | probing limit h =>
    ⟨.probe h, limit, fun
      | some (.ok ()) => .step (adopt · h) fun _ => .done ()
      | _ => .done ()⟩
  | ending k =>
    ⟨.terminate k.handle, none, fun reply =>
      (Activity.atOnce (settleShutdown · k (reply.getD (.error (.recovery .timedOut))))).bind
        fun _ => .done ()⟩

/-- What an answer does to the fleet. -/
def settle : Stage → Reply → Fleet → Fleet
  | launching r, reply, f => (f.settleLaunch r (reply.getD (.error (.recovery .timedOut)))).1
  | probing _ h, some (.ok ()), f => f.adopt h
  | probing _ _, _, f => f
  | ending k, reply, f => (f.settleShutdown k (reply.getD (.error (.recovery .timedOut)))).1

@[simp] theorem call_waiting (s : Stage) : s.waiting.call = s.call := by
  cases s <;> rfl

/-- Once it is answered, a call waits no more. -/
theorem enter_next (s : Stage) (reply : Reply) (p : Pool Fleet Unit) :
    p.enter (s.waiting.next reply) = ⟨s.settle reply p.state, p.waiting⟩ := by
  cases s with
  | launching r => rfl
  | ending k => rfl
  | probing limit h =>
    cases reply with
    | none => rfl
    | some answer => cases answer <;> rfl

end Stage

/-- The number of stages of a kind that are about the kernels of a selection. -/
def countStages (stages : List Stage) (kind : CallKind) (sel : KernelHandle → Bool) : Nat :=
  stages.countP fun s => decide (s.call.kind = kind) && sel s.call.handle

theorem countStages_append (l m : List Stage) (kind : CallKind) (sel : KernelHandle → Bool) :
    countStages (l ++ m) kind sel = countStages l kind sel + countStages m kind sel :=
  List.countP_append

@[simp] theorem countStages_nil (kind : CallKind) (sel : KernelHandle → Bool) :
    countStages [] kind sel = 0 := rfl

section

variable (l : List Stage) (sel : KernelHandle → Bool)

theorem countStages_cons_of_eq {s : Stage} {kind : CallKind} (h : s.call.kind = kind) :
    countStages (s :: l) kind sel =
      countStages l kind sel + if sel s.call.handle then 1 else 0 := by
  unfold countStages
  rw [List.countP_cons, decide_eq_true h, Bool.true_and]

theorem countStages_cons_of_ne {s : Stage} {kind : CallKind} (h : s.call.kind ≠ kind) :
    countStages (s :: l) kind sel = countStages l kind sel := by
  unfold countStages
  rw [List.countP_cons, decide_eq_false h]
  rfl

/-- A launch that waits is counted if its kernel is selected. -/
theorem countStages_launching (r : LaunchRequest) :
    countStages (.launching r :: l) .launch sel =
      countStages l .launch sel + if sel r.handle then 1 else 0 :=
  countStages_cons_of_eq l sel rfl

theorem countStages_probing (limit : Option Nat) (h : KernelHandle) :
    countStages (.probing limit h :: l) .launch sel = countStages l .launch sel :=
  countStages_cons_of_ne l sel nofun

theorem countStages_ending (k : Tracked) :
    countStages (.ending k :: l) .launch sel = countStages l .launch sel :=
  countStages_cons_of_ne l sel nofun

end

/-- A fleet, and where the calls that wait stand. -/
structure Traffic where
  fleet : Fleet
  stages : List Stage

/-- The pool of the calls. -/
def Traffic.pool (t : Traffic) : Pool Fleet Unit := ⟨t.fleet, t.stages.map Stage.waiting⟩

/-- The calls that wait in the pool are those at the stages. -/
theorem pending_pool (t : Traffic) (kind : CallKind) (sel : KernelHandle → Bool) :
    pending t.pool kind sel = countStages t.stages kind sel := by
  simp only [pending, Traffic.pool, List.countP_map, countStages]
  congr 1
  funext s
  simp

/-! ## What a call can do

What an operation does before it waits, and what an answer does, is told as changes of the kernels
and the ledger. Which checks led there no longer matters, except where a limit is spoken of. -/

/-- The rules stay, and kernels and ledger are these; other fields are left open. -/
structure Becomes (f : Fleet) (kernels : Dict Tracked) (ledger : Ledger) (g : Fleet) : Prop where
  rules : g.rules = f.rules
  kernels : g.kernels = kernels
  ledger : g.ledger = ledger

theorem Becomes.rfl (f : Fleet) : f.Becomes f.kernels f.ledger f :=
  ⟨Eq.refl _, Eq.refl _, Eq.refl _⟩

/-- What can come of an operation that begins. -/
inductive Begins (t : Traffic) : Operation → Traffic → Prop where
  /-- It is over at once, and nothing has changed. -/
  | nothing {op : Operation} {g : Fleet} :
      t.fleet.Becomes t.fleet.kernels t.fleet.ledger g → Begins t op ⟨g, t.stages⟩
  /-- The launch is let through and holds a slot. -/
  | admitted {spec : KernelSpec} {p : LaunchParams} {r : LaunchRequest} {g : Fleet} :
      t.fleet.isFull = false → t.fleet.ledger.isFull r.handle.user = false →
      r.handle.id = t.fleet.supply.kernelId t.fleet.named →
      t.fleet.Becomes t.fleet.kernels (t.fleet.ledger.restore r.handle.user) g →
      Begins t (.create spec p) ⟨g, t.stages ++ [.launching r]⟩
  /-- The kernel is not tracked, and is looked for. -/
  | sought {limit : Option Nat} {h : KernelHandle} :
      t.fleet.kernels.get? h.id = none →
      Begins t (.reattach limit h) ⟨t.fleet, t.stages ++ [.probing limit h]⟩
  /-- The kernel and its slot are taken away. -/
  | taken {id : String} {k : Tracked} {g : Fleet} :
      t.fleet.kernels.get? id = some k →
      t.fleet.Becomes (t.fleet.kernels.erase id) (t.fleet.ledger.release k.handle.user) g →
      Begins t (.shutdown id) ⟨g, t.stages ++ [.ending k]⟩

/-- To wait is to stand behind the others. -/
theorem pool_append (t : Traffic) (g : Fleet) (s : Stage) :
    Traffic.pool ⟨g, t.stages ++ [s]⟩ = ⟨g, t.pool.waiting ++ [s.waiting]⟩ := by
  simp [Traffic.pool]

/-! ### Launches -/

/-- A launch that is refused does not wait. -/
theorem enter_create_error {p : Pool Fleet Unit} {spec : KernelSpec} {params : LaunchParams}
    {g : Fleet} {e : Fault} (h : p.state.admitLaunch spec params = (g, .error e)) :
    p.enter (Operation.create spec params).activity = ⟨g, p.waiting⟩ := by
  have hactivity : (Operation.create spec params).activity =
      (Activity.atOnce (admitLaunch · spec params)).bind _ := Activity.bind_assoc ..
  rw [hactivity, Pool.enter_atOnce_bind h]
  rfl

/-- A launch that is let through waits for the launcher. -/
theorem enter_create_ok {p : Pool Fleet Unit} {spec : KernelSpec} {params : LaunchParams}
    {g : Fleet} {r : LaunchRequest} (h : p.state.admitLaunch spec params = (g, .ok r)) :
    p.enter (Operation.create spec params).activity =
      ⟨g, p.waiting ++ [(Stage.launching r).waiting]⟩ := by
  have hactivity : (Operation.create spec params).activity =
      (Activity.atOnce (admitLaunch · spec params)).bind _ := Activity.bind_assoc ..
  rw [hactivity, Pool.enter_atOnce_bind h]
  rfl

/-- A slot that was taken by a launch which then gets no ports is given back, so that the ledger is
as it was. -/
theorem begins_create {t : Traffic} (htidy : t.fleet.ledger.Tidy) (spec : KernelSpec)
    (p : LaunchParams) :
    ∃ t', t.pool.enter (Operation.create spec p).activity = t'.pool ∧
      Begins t (.create spec p) t' := by
  rcases h : t.fleet.admitLaunch spec p with ⟨g, e | r⟩
  · refine ⟨⟨g, t.stages⟩, enter_create_error h, ?_⟩
    obtain ⟨reservations, metrics, rfl⟩ := admitLaunch_error htidy h
    exact .nothing ⟨rfl, rfl, rfl⟩
  · obtain ⟨ports, -, hfull, hroom, -, hprepare⟩ := admitLaunch_ok h
    refine ⟨⟨g, t.stages ++ [.launching r]⟩, ?_, ?_⟩
    · rw [pool_append]
      exact enter_create_ok h
    · cases hprepare
      exact .admitted hfull hroom rfl ⟨rfl, rfl, rfl⟩

/-! ### Takeovers -/

/-- A kernel that is tracked is not looked for. -/
theorem enter_reattach_known {p : Pool Fleet Unit} {limit : Option Nat} {h : KernelHandle}
    (hknown : p.state.kernels.contains h.id = true) :
    p.enter (Operation.reattach limit h).activity = p := by
  show Pool.enter ⟨p.state, p.waiting⟩ (Activity.bind
    (if p.state.kernels.contains h.id = true then _ else _) _) = _
  rw [if_pos hknown]
  rfl

/-- For any other the launcher is asked. -/
theorem enter_reattach_new {p : Pool Fleet Unit} {limit : Option Nat} {h : KernelHandle}
    (hnew : p.state.kernels.get? h.id = none) :
    p.enter (Operation.reattach limit h).activity =
      ⟨p.state, p.waiting ++ [(Stage.probing limit h).waiting]⟩ := by
  have hcontains : ¬ p.state.kernels.contains h.id = true := by
    simp [Dict.contains, hnew]
  show Pool.enter ⟨p.state, p.waiting⟩ (Activity.bind
    (if p.state.kernels.contains h.id = true then _ else _) _) = _
  rw [if_neg hcontains]
  -- The two ways to go on differ in where the answer is taken apart.
  show Pool.mk _ (_ ++ [Waiting.mk _ _ _]) = Pool.mk _ (_ ++ [Waiting.mk _ _ _])
  congr 4
  funext reply
  cases reply with
  | none => rfl
  | some answer => cases answer <;> rfl

theorem begins_reattach (t : Traffic) (limit : Option Nat) (h : KernelHandle) :
    ∃ t', t.pool.enter (Operation.reattach limit h).activity = t'.pool ∧
      Begins t (.reattach limit h) t' := by
  cases hget : t.fleet.kernels.get? h.id with
  | some k =>
    have hknown : t.fleet.kernels.contains h.id = true := Dict.contains_iff.2 ⟨k, hget⟩
    exact ⟨t, enter_reattach_known hknown, .nothing (.rfl _)⟩
  | none =>
    refine ⟨⟨t.fleet, t.stages ++ [.probing limit h]⟩, ?_, .sought hget⟩
    rw [pool_append]
    exact enter_reattach_new hget

/-! ### Shutdowns -/

theorem enter_shutdown_error {p : Pool Fleet Unit} {id : String} {g : Fleet} {e : Fault}
    (h : p.state.beginShutdown id = (g, .error e)) :
    p.enter (Operation.shutdown id).activity = ⟨g, p.waiting⟩ := by
  have hactivity : (Operation.shutdown id).activity =
      (Activity.atOnce (beginShutdown · id)).bind _ := Activity.bind_assoc ..
  rw [hactivity, Pool.enter_atOnce_bind h]
  rfl

theorem enter_shutdown_ok {p : Pool Fleet Unit} {id : String} {g : Fleet} {k : Tracked}
    (h : p.state.beginShutdown id = (g, .ok k)) :
    p.enter (Operation.shutdown id).activity =
      ⟨g, p.waiting ++ [(Stage.ending k).waiting]⟩ := by
  have hactivity : (Operation.shutdown id).activity =
      (Activity.atOnce (beginShutdown · id)).bind _ := Activity.bind_assoc ..
  rw [hactivity, Pool.enter_atOnce_bind h]
  rfl

/-- A kernel that is not tracked cannot be ended; one that is tracked is taken away. -/
theorem begins_shutdown (t : Traffic) (id : String) :
    ∃ t', t.pool.enter (Operation.shutdown id).activity = t'.pool ∧
      Begins t (.shutdown id) t' := by
  cases hget : t.fleet.kernels.get? id with
  | none =>
    exact ⟨t, enter_shutdown_error (beginShutdown_of_none hget), .nothing (.rfl _)⟩
  | some k =>
    have henter := enter_shutdown_ok (p := t.pool) (beginShutdown_of_some hget)
    rw [← pool_append] at henter
    exact ⟨_, henter, .taken hget ⟨rfl, rfl, rfl⟩⟩

/-- All that an operation can do when it begins. -/
theorem begins_of_enter {t : Traffic} (htidy : t.fleet.ledger.Tidy) (op : Operation) :
    ∃ t', t.pool.enter op.activity = t'.pool ∧ Begins t op t' := by
  cases op with
  | create spec p => exact begins_create htidy spec p
  | reattach limit h => exact begins_reattach t limit h
  | shutdown id => exact begins_shutdown t id

/-! ### Answers -/

/-- What can come of the answer to a call. -/
inductive Stage.Outcome (f : Fleet) : Stage → Fleet → Prop where
  /-- The kernel runs. -/
  | launched {r : LaunchRequest} {k : Tracked} {g : Fleet} :
      k.handle = r.handle → f.Becomes (f.kernels.insert k.handle.id k) f.ledger g →
      Outcome f (.launching r) g
  /-- The launch has failed, and its slot is given back. -/
  | failed {r : LaunchRequest} {g : Fleet} :
      f.Becomes f.kernels (f.ledger.release r.handle.user) g → Outcome f (.launching r) g
  /-- The kernel has been found, and takes a slot. -/
  | found {limit : Option Nat} {k : Tracked} {g : Fleet} :
      f.Becomes (f.kernels.insert k.handle.id k) (f.ledger.restore k.handle.user) g →
      Outcome f (.probing limit k.handle) g
  /-- The kernel has not been found. -/
  | lost {limit : Option Nat} {h : KernelHandle} : Outcome f (.probing limit h) f
  /-- The kernel has ended. -/
  | ended {k : Tracked} : Outcome f (.ending k) f
  /-- The kernel could not be ended, and has its slot again. -/
  | kept {k : Tracked} {g : Fleet} :
      f.Becomes (f.kernels.insert k.handle.id k) (f.ledger.restore k.handle.user) g →
      Outcome f (.ending k) g

/-- All that an answer can do. -/
theorem outcome_settle (f : Fleet) (s : Stage) (reply : Reply) :
    s.Outcome f (s.settle reply f) := by
  cases s with
  | launching r =>
    rcases reply with _ | e | _
    · exact .failed ⟨rfl, rfl, rfl⟩
    · exact .failed ⟨rfl, rfl, rfl⟩
    · exact .launched (k := ⟨r.handle, f.now⟩) rfl ⟨rfl, rfl, rfl⟩
  | probing limit h =>
    rcases reply with _ | e | _
    · exact .lost
    · exact .lost
    · exact .found (k := ⟨h, f.now⟩) ⟨rfl, rfl, rfl⟩
  | ending k =>
    rcases reply with _ | e | _
    · exact .kept ⟨rfl, rfl, rfl⟩
    · exact .kept ⟨rfl, rfl, rfl⟩
    · exact .ended

/-! ## Following a pool

The steps of the pool are steps of the traffic, as long as the ledger is tidy. So what is to be kept
over a run can be shown of the traffic alone. -/

/-- One thing that happens to the traffic. -/
inductive Moves (allowed : Operation → Prop) (t : Traffic) : Traffic → Prop where
  | pass (millis : Nat) : Moves allowed t ⟨t.fleet.later millis, t.stages⟩
  | begins {op : Operation} {t' : Traffic} :
      allowed op → op.Clear t.pool → Begins t op t' → Moves allowed t t'
  | answered {before after : List Stage} {s : Stage} {g : Fleet} :
      t.stages = before ++ s :: after → s.Outcome t.fleet g → Moves allowed t ⟨g, before ++ after⟩

/-- Whoever waits in the pool stands at a stage. -/
theorem stages_of_waiting {t : Traffic} {before after : List (Waiting Fleet Unit)}
    {w : Waiting Fleet Unit} (h : t.pool.waiting = before ++ w :: after) :
    ∃ (l m : List Stage) (s : Stage), t.stages = l ++ s :: m ∧ w = s.waiting ∧
      before ++ after = (l ++ m).map Stage.waiting := by
  obtain ⟨l, rest, hstages, rfl, hrest⟩ := List.map_eq_append_iff.1 h
  obtain ⟨s, m, rfl, rfl, rfl⟩ := List.map_eq_cons_iff.1 hrest
  exact ⟨l, m, s, hstages, rfl, List.map_append.symm⟩

/-- Whoever is answered stood at a stage, and goes on as the stage says. -/
theorem stage_of_answer {t : Traffic} {before after : List (Waiting Fleet Unit)}
    {w : Waiting Fleet Unit} (h : t.pool.waiting = before ++ w :: after) (reply : Reply) :
    ∃ (l m : List Stage) (s : Stage), t.stages = l ++ s :: m ∧
      Pool.enter ⟨t.fleet, before ++ after⟩ (w.next reply) =
        Traffic.pool ⟨s.settle reply t.fleet, l ++ m⟩ := by
  obtain ⟨l, m, s, hstages, rfl, hwaiting⟩ := stages_of_waiting h
  refine ⟨l, m, s, hstages, ?_⟩
  rw [Stage.enter_next, hwaiting]
  rfl

/-- A step of the pool is a move of its traffic. -/
theorem moves_of_step {allowed : Operation → Prop} {t : Traffic} {q : Pool Fleet Unit}
    (htidy : t.fleet.ledger.Tidy) (h : Pool.Step (May allowed) t.pool q) :
    ∃ t', q = t'.pool ∧ Moves allowed t t' := by
  generalize hp : t.pool = p at h
  cases h with
  | begins hmay =>
    subst hp
    cases hmay with
    | operation hallowed hclear =>
      obtain ⟨t', henter, hbegins⟩ := begins_of_enter htidy _
      exact ⟨t', henter, .begins hallowed hclear hbegins⟩
    | pass millis => exact ⟨_, rfl, .pass millis⟩
  | @answered s before after w reply _ =>
    have hstate : t.fleet = s := congrArg Pool.state hp
    obtain ⟨l, m, stage, hstages, henter⟩ := stage_of_answer (congrArg Pool.waiting hp) reply
    rw [hstate] at henter
    exact ⟨_, henter, .answered hstages (hstate ▸ outcome_settle t.fleet stage reply)⟩

/-- Answers alone move the traffic by answers alone. -/
theorem moves_of_settling {t : Traffic} {q : Pool Fleet Unit}
    (h : Pool.Step (fun _ _ => False) t.pool q) :
    ∃ (before after : List Stage) (s : Stage) (g : Fleet), t.stages = before ++ s :: after ∧
      s.Outcome t.fleet g ∧ q = Traffic.pool ⟨g, before ++ after⟩ := by
  generalize hp : t.pool = p at h
  cases h with
  | begins hmay => exact hmay.elim
  | @answered s before after w reply _ =>
    have hstate : t.fleet = s := congrArg Pool.state hp
    obtain ⟨l, m, stage, hstages, henter⟩ := stage_of_answer (congrArg Pool.waiting hp) reply
    rw [hstate] at henter
    exact ⟨l, m, stage, _, hstages, hstate ▸ outcome_settle t.fleet stage reply, henter⟩

/-- A user's wish for a kernel. -/
def launchFor (user : String) : Operation := .create .python (.forUser user)

end Fleet

end KernelGate
