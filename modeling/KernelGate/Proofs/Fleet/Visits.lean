import KernelGate.Proofs.Fleet.Calls
import KernelGate.Proofs.Fleet.Traffic

/-!
# Calls to a fleet one after another

A visit is a call that nothing else comes between, with all that the gateway has no say in: the id
that a launch gives to its kernel, the outcomes of reserving ports, and what the launcher replies.
Where only the kernels of a user are limited in number, what a visit comes to can be told from the
ledger's count of that user and from the one kernel that the visit is about.

Main statements: `comes_of_take` says all that a visit does to the fleet, and what is answered;
`take_visit` that any call to a fleet is such a visit.
-/

namespace KernelGate

/-- The handle of a kernel, its host aside. -/
def KernelHandle.anywhere (h : KernelHandle) : KernelHandle := { h with host := "" }

@[simp] theorem KernelHandle.id_anywhere (h : KernelHandle) : h.anywhere.id = h.id := rfl

namespace Fleet

/-! ## Visits

The ids, the ports and the replies that a run comes across are data of the visit, so that two fleets
can be asked the same in the same circumstances. -/

/-- What a client is answered: with a kernel, where there is one to show. -/
abbrev Answer := Result (Option KernelHandle)

/-- The answer, hosts aside. -/
def Answer.anywhere (x : Answer) : Answer := x.map fun h? => h?.map (·.anywhere)

/-- The activity of an operation, with its answer. -/
def Operation.answered : Operation → Activity Fleet Answer
  | .create spec p => (Fleet.create spec p).bind fun x => .done (x.map some)
  | .reattach limit h => (Fleet.reattach limit h).bind fun x => .done (x.map fun _ => none)
  | .shutdown id => (Fleet.shutdown id).bind fun x => .done (x.map some)

/-- The fleet with other sources. -/
def supplied (f : Fleet) (supply : Supply) : Fleet := { f with supply }

/-- A call that nothing else comes between. -/
structure Visit where
  operation : Operation
  /-- Time since the call before, in milliseconds. -/
  pause : Nat
  /-- The id of a new kernel. -/
  newId : String
  /-- The outcomes of reserving ports. -/
  trials : PortTrials
  /-- What the launcher says. -/
  reply : Reply

namespace Visit

/-- The id of the kernel that the call is about. -/
def id (v : Visit) : String :=
  match v.operation with
  | .create _ _ => v.newId
  | .reattach _ h => h.id
  | .shutdown id => id

/-- The launcher's answer, where it has to be waited for. -/
def answer (v : Visit) : Result Unit := v.reply.getD (.error (.recovery .timedOut))

/-- Where the gateway gets all that it does not choose itself. -/
def supply (v : Visit) : Supply where
  kernelId _ := v.newId
  sessionId _ := ""
  ports _ := v.trials

/-- The fleet when the call comes. -/
def ready (v : Visit) (f : Fleet) : Fleet := (f.later v.pause).supplied v.supply

/-- Carry out the call. -/
def take (v : Visit) (f : Fleet) : Fleet × Answer :=
  (v.operation.answered.run (fun _ _ _ => ((), v.reply)) () (v.ready f)).2

end Visit

/-! ## The three operations run alone

A run of an operation against a launcher that gives an answer: it is over at once if the operation
is refused, and has one call otherwise. -/

section

variable {ω : Type} (answer : ω → LauncherCall → Option Nat → ω × Reply) {f g : Fleet}

/-- What is done at once is done before the activity goes on. -/
theorem run_atOnce_bind {α β : Type} {φ : Fleet → Fleet × α} {x : α} (h : φ f = (g, x))
    (next : α → Activity Fleet β) (w : ω) :
    ((Activity.atOnce φ).bind next).run answer w f = (next x).run answer w g := by
  rw [Activity.run_bind]
  simp only [Activity.atOnce, Activity.run, h]

/-- A launch that is refused asks nothing of the launcher. -/
theorem run_create_error {spec : KernelSpec} {p : LaunchParams} {e : Fault}
    (h : f.admitLaunch spec p = (g, .error e)) (w : ω) :
    (Operation.create spec p).answered.run answer w f = (w, g, .error e) := by
  have hactivity : (Operation.create spec p).answered =
      (Activity.atOnce (admitLaunch · spec p)).bind _ := Activity.bind_assoc ..
  rw [hactivity, run_atOnce_bind answer h]
  rfl

/-- A launch that is let through is settled by the answer. -/
theorem run_create_ok {spec : KernelSpec} {p : LaunchParams} {r : LaunchRequest}
    (h : f.admitLaunch spec p = (g, .ok r)) (w : ω) :
    ((Operation.create spec p).answered.run answer w f).2 =
      let settled := g.settleLaunch r
        ((answer w (.launch r) none).2.getD (.error (.recovery .timedOut)))
      (settled.1, settled.2.map some) := by
  have hactivity : (Operation.create spec p).answered =
      (Activity.atOnce (admitLaunch · spec p)).bind _ := Activity.bind_assoc ..
  rw [hactivity, run_atOnce_bind answer h]
  rfl

/-- A takeover of a kernel that is tracked succeeds at once. -/
theorem run_reattach_known {limit : Option Nat} {h : KernelHandle}
    (hknown : f.kernels.contains h.id = true) (w : ω) :
    (Operation.reattach limit h).answered.run answer w f = (w, f, .ok none) := by
  show Activity.run answer (Activity.bind
    (if f.kernels.contains h.id = true then _ else _) _) w f = _
  rw [if_pos hknown]
  rfl

/-- Any other is settled by the answer, and fails if none comes in time. -/
theorem run_reattach_new {limit : Option Nat} {h : KernelHandle}
    (hnew : f.kernels.contains h.id = false) (w : ω) :
    ((Operation.reattach limit h).answered.run answer w f).2 =
      match (answer w (.probe h) limit).2 with
      | none => (f, .error (.recovery .timedOut))
      | some (.error e) => (f, .error e)
      | some (.ok ()) => (f.adopt h, .ok none) := by
  show (Activity.run answer (Activity.bind
    (if f.kernels.contains h.id = true then _ else _) _) w f).2 = _
  rw [if_neg (Bool.eq_false_iff.1 hnew)]
  show (Activity.run answer (Activity.bind (Activity.call ..) _) w f).2 = _
  simp only [Activity.bind, Activity.run]
  rcases (answer w (.probe h) limit).2 with _ | e | _ <;> rfl

theorem run_shutdown_error {id : String} {e : Fault}
    (h : f.beginShutdown id = (g, .error e)) (w : ω) :
    (Operation.shutdown id).answered.run answer w f = (w, g, .error e) := by
  have hactivity : (Operation.shutdown id).answered =
      (Activity.atOnce (beginShutdown · id)).bind _ := Activity.bind_assoc ..
  rw [hactivity, run_atOnce_bind answer h]
  rfl

/-- A shutdown is settled by the answer, in the fleet that no longer tracks the kernel. -/
theorem run_shutdown_ok {id : String} {k : Tracked}
    (h : f.beginShutdown id = (g, .ok k)) (w : ω) :
    ((Operation.shutdown id).answered.run answer w f).2 =
      let settled := g.settleShutdown k
        ((answer w (.terminate k.handle) none).2.getD (.error (.recovery .timedOut)))
      (settled.1, settled.2.map some) := by
  have hactivity : (Operation.shutdown id).answered =
      (Activity.atOnce (beginShutdown · id)).bind _ := Activity.bind_assoc ..
  rw [hactivity, run_atOnce_bind answer h]
  rfl

end

/-! ## What a visit comes to

`outcome` is told from as little as possible: what the ledger counts for the user, and what is shown
of the one kernel. The host of a new kernel is left out of it, since hosts are dealt out to all
users in turn. -/

/-- What a call does: it brings a kernel with a slot, or takes one away. -/
inductive Change where
  | nothing
  | gain (kernel : KernelHandle)
  | loss (kernel : KernelHandle)

/-- The kernel of an id, its host aside. -/
def shown (f : Fleet) (id : String) : Option KernelHandle := (f.get? id).map (·.anywhere)

/-- The ports of a launch that is let through, where the number of all kernels is not limited. -/
def granted (f : Fleet) (trials : PortTrials) (p : LaunchParams) : Result (List Port) :=
  if f.rules.policy.admits (f.userOf p) = false then .error (.unauthorized (f.userOf p))
  else if f.ledger.isFull (f.userOf p) then
    .error (.quotaExceeded (.userFull (f.userOf p) f.ledger.limit))
  else f.rules.portRange.reserve trials portsPerKernel

namespace Visit

variable (v : Visit) (f : Fleet)

/-- The kernel that a launch brings, its host aside. -/
def brought (spec : KernelSpec) (p : LaunchParams) (ports : List Port) : KernelHandle where
  id := v.newId
  name := spec.name
  user := f.userOf p
  host := ""
  ports

/-- What a call comes to, hosts aside, where the number of all kernels is not limited. -/
def outcome : Change × Answer :=
  match v.operation with
  | .create spec p =>
    match f.granted v.trials p, v.answer with
    | .error e, _ => (.nothing, .error e)
    | .ok _, .error e => (.nothing, .error e)
    | .ok ports, .ok () =>
      (.gain (v.brought f spec p ports), .ok (some (v.brought f spec p ports)))
  | .reattach _ h =>
    match f.shown h.id, v.answer with
    | some _, _ => (.nothing, .ok none)
    | none, .error e => (.nothing, .error e)
    | none, .ok () => (.gain h.anywhere, .ok none)
  | .shutdown id =>
    match f.shown id, v.answer with
    | none, _ => (.nothing, .error (.notFound (.kernel id)))
    | some _, .error e => (.nothing, .error e)
    | some h, .ok () => (.loss h, .ok (some h))

end Visit

/-- A change has been made. -/
inductive Made (f : Fleet) : Change → Fleet → Prop where
  | nothing {g : Fleet} : f.Becomes f.kernels f.ledger g → Made f .nothing g
  | gain {k : Tracked} {h : KernelHandle} {g : Fleet} :
      f.Becomes (f.kernels.insert k.handle.id k) (f.ledger.restore k.handle.user) g →
      k.handle.anywhere = h → Made f (.gain h) g
  | loss {k : Tracked} {g : Fleet} :
      f.kernels.get? k.handle.id = some k →
      f.Becomes (f.kernels.erase k.handle.id) (f.ledger.release k.handle.user) g →
      Made f (.loss k.handle.anywhere) g

/-- A call has made its change, and has been answered so. -/
structure Comes (f : Fleet) (outcome : Change × Answer) (result : Fleet × Answer) : Prop where
  made : f.Made outcome.1 result.1
  answer : result.2.anywhere = outcome.2

variable {f g : Fleet} {v : Visit}

/-! ### Launches -/

/-- Where the gateway has room, a launch is refused over its user or its ports. -/
theorem admitLaunch_of_refused (hroom : f.isFull = false) (spec : KernelSpec) {p : LaunchParams}
    {e : Fault} (h : f.granted (f.supply.ports f.reservations) p = .error e) :
    ∃ g, f.admitLaunch spec p = (g, .error e) := by
  simp only [granted] at h
  simp only [admitLaunch, hroom, Ledger.acquire?]
  cases hpolicy : f.rules.policy.admits (f.userOf p) with
  | false =>
    rw [if_pos hpolicy] at h
    cases h
    exact ⟨_, rfl⟩
  | true =>
    rw [if_neg (by simp [hpolicy])] at h
    cases hfull : f.ledger.isFull (f.userOf p) with
    | true =>
      rw [if_pos hfull] at h
      cases h
      exact ⟨_, rfl⟩
    | false =>
      rw [if_neg (by simp [hfull])] at h
      simp [h]

/-- And where these let it pass, it is let through, with those ports. -/
theorem admitLaunch_of_granted (hroom : f.isFull = false) (spec : KernelSpec) {p : LaunchParams}
    {ports : List Port} (h : f.granted (f.supply.ports f.reservations) p = .ok ports) :
    f.admitLaunch spec p =
      let prepared := prepare { f with
          ledger := f.ledger.restore (f.userOf p)
          reservations := f.reservations + 1 } spec p (f.userOf p) ports
      (prepared.1, .ok prepared.2) := by
  simp only [granted] at h
  simp only [admitLaunch, hroom, Ledger.acquire?]
  split at h
  · cases h
  · next hpolicy =>
    split at h
    · cases h
    · next hfull => simp [hpolicy, hfull, h]

/-- A launch brings a kernel and a slot, or nothing. -/
theorem comes_of_create (hmax : f.rules.maxKernels? = none) (htidy : f.ledger.Tidy)
    {spec : KernelSpec} {p : LaunchParams} (hop : v.operation = .create spec p) :
    f.Comes (v.outcome f) (v.take f) := by
  have hroom : (v.ready f).isFull = false := by simp [isFull, Visit.ready, supplied, later, hmax]
  simp only [Visit.outcome, Visit.take, hop]
  cases hgranted : f.granted v.trials p with
  | error e =>
    obtain ⟨g, hadmit⟩ := admitLaunch_of_refused (f := v.ready f) hroom spec hgranted
    obtain ⟨_, _, rfl⟩ := admitLaunch_error (f := v.ready f) htidy hadmit
    rw [run_create_error _ hadmit]
    exact ⟨.nothing ⟨rfl, rfl, rfl⟩, rfl⟩
  | ok ports =>
    rw [run_create_ok _ (admitLaunch_of_granted (f := v.ready f) hroom spec hgranted)]
    change f.Comes _ (let settled := settleLaunch _ _ v.answer; (settled.1, settled.2.map some))
    cases v.answer with
    | error e =>
      -- The slot that the launch had taken is the one that it gives back.
      have hledger := Ledger.release_restore htidy (f.userOf p)
      exact ⟨.nothing ⟨rfl, rfl, hledger⟩, rfl⟩
    | ok u => exact ⟨.gain (k := ⟨_, _⟩) ⟨rfl, rfl, rfl⟩ rfl, rfl⟩

/-! ### Takeovers -/

/-- A takeover brings a kernel that is not tracked, if it is found alive. -/
theorem comes_of_reattach {limit : Option Nat} {h : KernelHandle}
    (hop : v.operation = .reattach limit h) : f.Comes (v.outcome f) (v.take f) := by
  simp only [Visit.outcome, Visit.take, hop, Fleet.shown, Fleet.get?]
  cases hget : f.kernels.get? h.id with
  | some k =>
    have hknown : f.kernels.contains h.id = true := Dict.contains_iff.2 ⟨k, hget⟩
    rw [run_reattach_known _ (f := v.ready f) hknown]
    exact ⟨.nothing ⟨rfl, rfl, rfl⟩, rfl⟩
  | none =>
    have hnew : f.kernels.contains h.id = false := by simp [Dict.contains, hget]
    rw [run_reattach_new _ (f := v.ready f) hnew]
    unfold Visit.answer
    rcases v.reply with _ | e | _
    · exact ⟨.nothing ⟨rfl, rfl, rfl⟩, rfl⟩
    · exact ⟨.nothing ⟨rfl, rfl, rfl⟩, rfl⟩
    · exact ⟨.gain (k := ⟨h, _⟩) ⟨rfl, rfl, rfl⟩ rfl, rfl⟩

/-! ### Shutdowns -/

/-- A shutdown takes a kernel and its slot, or puts both back, which leaves no trace as long as
there are slots for all kernels. -/
theorem comes_of_shutdown (hf : f.Covered) {id : String} (hop : v.operation = .shutdown id) :
    f.Comes (v.outcome f) (v.take f) := by
  simp only [Visit.outcome, Visit.take, hop, Fleet.shown, Fleet.get?]
  cases hget : f.kernels.get? id with
  | none =>
    rw [run_shutdown_error _ (beginShutdown_of_none (f := v.ready f) hget)]
    exact ⟨.nothing ⟨rfl, rfl, rfl⟩, rfl⟩
  | some k =>
    obtain rfl : k.handle.id = id := hf.keyed id k hget
    rw [run_shutdown_ok _ (beginShutdown_of_some (f := v.ready f) hget)]
    change f.Comes _ (let settled := settleShutdown _ _ v.answer; (settled.1, settled.2.map some))
    cases v.answer with
    | error e =>
      -- The kernel is put back under its own id, and there was a slot to give back.
      have hkernels := Dict.insert_erase hget
      have hledger := Ledger.restore_release (hf.active_pos hget)
      exact ⟨.nothing ⟨rfl, hkernels, hledger⟩, rfl⟩
    | ok u => exact ⟨.loss hget ⟨rfl, rfl, rfl⟩, rfl⟩

/-- All that a call can do, and what is answered. -/
theorem comes_of_take (hf : f.Covered) (hmax : f.rules.maxKernels? = none) (v : Visit) :
    f.Comes (v.outcome f) (v.take f) := by
  cases hop : v.operation with
  | create spec p => exact comes_of_create hmax hf.tidy hop
  | reattach limit h => exact comes_of_reattach hop
  | shutdown id => exact comes_of_shutdown hf hop

theorem Made.rules {c : Change} (h : f.Made c g) : g.rules = f.rules := by
  cases h with
  | nothing h => exact h.rules
  | gain h _ => exact h.rules
  | loss _ h => exact h.rules

/-- A change keeps a slot for each kernel. -/
theorem Made.covered {c : Change} (h : f.Made c g) (hf : f.Covered) : g.Covered := by
  cases h with
  | nothing h => exact hf.congr h.kernels h.ledger
  | gain h _ => exact hf.insert h.kernels h.ledger
  | loss hget h => exact hf.erase hget h.kernels h.ledger

/-! ## Any call is a visit

A call to a fleet gets its id and its ports from the fleet's own supply. The visit that has them at
hand comes to the same. -/

/-- Sources are only asked for what they give next. -/
theorem admitLaunch_supplied (f : Fleet) {s : Supply}
    (hid : s.kernelId f.named = f.supply.kernelId f.named)
    (hports : s.ports f.reservations = f.supply.ports f.reservations)
    (spec : KernelSpec) (p : LaunchParams) :
    (f.supplied s).admitLaunch spec p =
      ((f.admitLaunch spec p).1.supplied s, (f.admitLaunch spec p).2) := by
  have huser : (f.supplied s).userOf p = f.userOf p := rfl
  have hfull : (f.supplied s).isFull = f.isFull := rfl
  simp only [admitLaunch, huser, hfull]
  simp only [supplied, hports]
  cases f.rules.policy.admits (f.userOf p) with
  | false => rfl
  | true =>
    cases f.isFull with
    | true => rfl
    | false =>
      cases f.ledger.acquire? (f.userOf p) with
      | none => rfl
      | some l =>
        cases f.rules.portRange.reserve (f.supply.ports f.reservations) portsPerKernel with
        | error e => rfl
        | ok ports =>
          simp only [prepare, hid]
          rfl

theorem run_supplied {ω : Type} (answer : ω → LauncherCall → Option Nat → ω × Reply) (f : Fleet)
    {s : Supply} (hid : s.kernelId f.named = f.supply.kernelId f.named)
    (hports : s.ports f.reservations = f.supply.ports f.reservations) (op : Operation) (w : ω) :
    (op.answered.run answer w (f.supplied s)).2 =
      let result := (op.answered.run answer w f).2
      (result.1.supplied s, result.2) := by
  cases op with
  | create spec p =>
    have hadmit := admitLaunch_supplied f hid hports spec p
    rcases h : f.admitLaunch spec p with ⟨g, e | r⟩
    · rw [h] at hadmit
      rw [run_create_error _ hadmit, run_create_error _ h]
    · rw [h] at hadmit
      rw [run_create_ok _ hadmit, run_create_ok _ h]
      rcases (answer w (.launch r) none).2 with _ | e | _ <;> rfl
  | reattach limit h =>
    cases hcontains : f.kernels.contains h.id with
    | true =>
      rw [run_reattach_known _ hcontains, run_reattach_known _ (f := f.supplied s) hcontains]
    | false =>
      rw [run_reattach_new _ hcontains, run_reattach_new _ (f := f.supplied s) hcontains]
      rcases (answer w (.probe h) limit).2 with _ | e | _ <;> rfl
  | shutdown id =>
    cases hget : f.kernels.get? id with
    | none =>
      rw [run_shutdown_error _ (beginShutdown_of_none hget),
        run_shutdown_error _ (beginShutdown_of_none (f := f.supplied s) hget)]
    | some k =>
      rw [run_shutdown_ok _ (beginShutdown_of_some hget),
        run_shutdown_ok _ (beginShutdown_of_some (f := f.supplied s) hget)]
      rcases (answer w (.terminate k.handle) none).2 with _ | e | _ <;> rfl

/-- The visit that a call to a fleet is. -/
def visit (f : Fleet) (op : Operation) (reply : Reply) : Visit where
  operation := op
  pause := 0
  newId := f.supply.kernelId f.named
  trials := f.supply.ports f.reservations
  reply

/-- A call to a fleet that draws on its own sources does what the visit does. -/
theorem take_visit (f : Fleet) (op : Operation) (reply : Reply) :
    (f.visit op reply).take f =
      let result := (op.answered.run (fun _ _ _ => ((), reply)) () f).2
      (result.1.supplied (f.visit op reply).supply, result.2) :=
  run_supplied _ f (s := (f.visit op reply).supply) rfl rfl op ()

end Fleet

end KernelGate
