import KernelGate.Proofs.Activity.History
import KernelGate.Proofs.Fleet.Conservation

/-!
# Calls to a fleet that are given up

Whoever waits for the launcher can be given up: a client goes away, or a time is over. What the call
has done to the fleet by then stays done, and what it would have done after the answer is never
done. A launch that is given up keeps its slot, and a shutdown that is given up leaves its kernel
untracked. A takeover has done nothing yet.

Main statement: `balance_amid_givenUp` says what the ledger and the tracked kernels are off by.
-/

namespace KernelGate

/-- Kernels that have come to be tracked, by a launch or by a takeover. -/
def History.arrived (log : History) (sel : KernelHandle → Bool) : Nat :=
  log.succeeded .launch sel + log.succeeded .probe sel

theorem History.arrived_append (log log' : History) (sel : KernelHandle → Bool) :
    History.arrived (log ++ log') sel = log.arrived sel + log'.arrived sel := by
  simp only [arrived, succeeded_append]
  omega

namespace Fleet

variable {f g : Fleet} {t t' : Traffic} {log : History} {sel : KernelHandle → Bool}

/-! ## Runs in which calls are given up

A launch that was given up may have come to something with the launcher, so that its id is not free
again. What may begin after it is an operation that does not bring along such an id. -/

/-- The launch of a kernel with this id was given up. It may have come to something all the same, so
that the id is not free. -/
def LaunchGivenUp (log : History) (id : String) : Prop :=
  ∃ e ∈ log, e.2.isGivenUp = true ∧ e.1.kind = .launch ∧ e.1.handle.id = id

instance (log : History) (id : String) : Decidable (LaunchGivenUp log id) :=
  inferInstanceAs (Decidable (∃ e ∈ log, _))

theorem LaunchGivenUp.append {id : String} (h : LaunchGivenUp log id) (log' : History) :
    LaunchGivenUp (log ++ log') id := by
  obtain ⟨e, he, hrest⟩ := h
  exact ⟨e, List.mem_append_left _ he, hrest⟩

/-- No kernel gets, or brings along, the id of a launch that was given up. -/
def Operation.Untainted (log : History) (f : Fleet) : Operation → Prop
  | .create _ _ => ¬ LaunchGivenUp log (f.supply.kernelId f.named)
  | .reattach _ h => ¬ LaunchGivenUp log h.id
  | .shutdown _ => True

instance (log : History) (f : Fleet) : (op : Operation) → Decidable (op.Untainted log f)
  | .create _ _ => inferInstanceAs (Decidable (¬ LaunchGivenUp _ _))
  | .reattach _ _ => inferInstanceAs (Decidable (¬ LaunchGivenUp _ _))
  | .shutdown _ => inferInstanceAs (Decidable True)

/-- What may begin after calls have been given up. -/
inductive MayAfter (log : History) : Pool Fleet Unit → Activity Fleet Unit → Prop where
  | operation {p : Pool Fleet Unit} {op : Operation} :
      op.Clear p → op.Untainted log p.state → MayAfter log p op.activity
  | pass {p : Pool Fleet Unit} (millis : Nat) : MayAfter log p (.change (later · millis))

/-! ## What a call does to the kernels

A kernel that is being ended is withheld from those that are tracked until the answer is there. -/

/-- How many of the kernels of a selection a stage keeps from being tracked. -/
def Stage.withheld (sel : KernelHandle → Bool) : Stage → Nat
  | .ending k => if sel k.handle then 1 else 0
  | _ => 0

/-- What a stage withholds is one of the calls to end a kernel. -/
theorem countStages_terminate_cons (s : Stage) (rest : List Stage) (sel : KernelHandle → Bool) :
    countStages (s :: rest) .terminate sel = countStages rest .terminate sel + s.withheld sel := by
  cases s with
  | launching r => exact countStages_cons_of_ne rest sel (s := .launching r) nofun
  | probing limit h => exact countStages_cons_of_ne rest sel (s := .probing limit h) nofun
  | ending k => exact countStages_cons_of_eq rest sel (s := .ending k) rfl

/-- An operation that begins stands apart from the calls that wait, and takes one kernel away at
most. -/
theorem Begins.apart {stages stages' : List Stage} {op : Operation}
    (hb : Begins ⟨f, stages⟩ op ⟨g, stages'⟩) :
    ∃ new, stages' = stages ++ new ∧ (∀ others, Begins ⟨f, others⟩ op ⟨g, others ++ new⟩) ∧
      ∀ sel, g.tracked sel + countStages new .terminate sel = f.tracked sel := by
  cases hb with
  | nothing hg =>
    refine ⟨[], (List.append_nil _).symm, ?_, fun sel => tracked_congr hg.kernels sel⟩
    intro others
    rw [List.append_nil]
    exact .nothing hg
  | @admitted spec p r _ hfull hroom hid hg =>
    refine ⟨[.launching r], rfl, fun others => .admitted hfull hroom hid hg, ?_⟩
    intro sel
    exact tracked_congr hg.kernels sel
  | @sought limit h hnone =>
    exact ⟨[.probing limit h], rfl, fun others => .sought hnone, fun sel => rfl⟩
  | @taken id k _ hget hg =>
    refine ⟨[.ending k], rfl, fun others => .taken hget hg, ?_⟩
    intro sel
    have herase : f.tracked sel = g.tracked sel + _ := tracked_of_erase hg.kernels hget sel
    rw [countStages_terminate_cons, countStages_nil, Nat.zero_add, herase]
    rfl

/-- The kernel of a call that is answered has come, has ended, or is where it was. -/
theorem tracked_settle {s : Stage} (hnone : f.kernels.get? s.id = none) (reply : Reply)
    (sel : KernelHandle → Bool) :
    (s.settle reply f).tracked sel +
        History.succeeded [(s.call, .answered reply)] .terminate sel =
      f.tracked sel + s.withheld sel + History.arrived [(s.call, .answered reply)] sel := by
  have hinsert : ∀ (g : Fleet) (k : Tracked), k.handle = s.call.handle →
      g.kernels = f.kernels.insert k.handle.id k →
      g.tracked sel = f.tracked sel + if sel s.call.handle then 1 else 0 := by
    intro g k hk hg
    rw [tracked_of_insert hg (hk ▸ hnone) sel, hk]
  simp only [History.arrived, History.succeeded, History.count_singleton]
  -- Each answer brings the kernel in, lets it go, or puts it back; what it counts for is computed.
  cases s with
  | launching r =>
    rcases reply with _ | e | _
    · rfl
    · rfl
    · rw [hinsert _ ⟨r.handle, f.now⟩ rfl rfl]
      rfl
  | probing limit h =>
    rcases reply with _ | e | _
    · rfl
    · rfl
    · rw [hinsert _ ⟨h, f.now⟩ rfl rfl]
      exact congrArg (f.tracked sel + ·) (Nat.zero_add _).symm
  | ending k =>
    rcases reply with _ | e | _
    · rw [hinsert _ k rfl rfl]
      rfl
    · rw [hinsert _ k rfl rfl]
      rfl
    · rfl

/-! ## The account of a run

A launch that is given up is written off as a call that is never answered: it stands beside those
that wait, for ever, and keeps its slot. Then the ledger is in balance as before. A shutdown that is
given up has no slot to keep; its kernel is entered as one that is gone. -/

/-- The launches that were given up stand beside the calls that wait, as if they were never
answered; and the kernels that have come are accounted for. -/
structure Traffic.Account (log : History) (lost : List Stage) (t : Traffic) : Prop where
  sound : Traffic.Sound ⟨t.fleet, t.stages ++ lost⟩
  tainted : ∀ s ∈ lost, LaunchGivenUp log s.id
  slots : ∀ sel, countStages lost .launch sel = log.givenUp .launch sel
  kernels : ∀ sel, log.arrived sel =
    t.fleet.tracked sel + countStages t.stages .terminate sel + log.succeeded .terminate sel +
      log.givenUp .terminate sel

namespace Traffic

variable {lost : List Stage}

/-- Nothing has come and nothing is gone. -/
theorem account_empty (rules : FleetRules) (limit : Int) (supply : Supply) :
    Account [] [] ⟨empty rules limit supply, []⟩ where
  sound := sound_empty rules limit supply
  tainted := by
    intro s hs
    cases hs
  slots := by
    intro sel
    rfl
  kernels := by
    intro sel
    rfl

theorem Account.later (h : t.Account log lost) (millis : Nat) :
    Account log lost ⟨t.fleet.later millis, t.stages⟩ where
  sound := h.sound.congr ⟨rfl, rfl, rfl⟩
  tainted := h.tainted
  slots := h.slots
  kernels := h.kernels

/-! ### Operations that begin -/

/-- An operation that keeps clear of the calls that wait, and of the launches that were given up,
keeps clear of both together. -/
theorem clear_of_untainted {op : Operation} (hclear : op.Clear t.pool)
    (huntainted : op.Untainted log t.fleet) (hlost : ∀ s ∈ lost, LaunchGivenUp log s.id) :
    op.Clear (Traffic.pool ⟨t.fleet, t.stages ++ lost⟩) := by
  have hsplit : ∀ w ∈ (Traffic.pool ⟨t.fleet, t.stages ++ lost⟩).waiting,
      w ∈ t.pool.waiting ∨ LaunchGivenUp log w.call.handle.id := by
    intro w hw
    obtain ⟨s, hs, rfl⟩ := List.mem_map.1 hw
    rcases List.mem_append.1 hs with hs | hs
    · exact .inl (List.mem_map_of_mem hs)
    · right
      rw [Stage.call_waiting]
      exact hlost s hs
  cases op with
  | create spec p =>
    rintro (htracked | ⟨w, hw, hid⟩)
    · exact hclear (.inl htracked)
    · rcases hsplit w hw with hw | htainted
      · exact hclear (.inr ⟨w, hw, hid⟩)
      · rw [hid] at htainted
        exact huntainted htainted
  | reattach limit h =>
    intro w hw hid
    rcases hsplit w hw with hw | htainted
    · exact hclear w hw hid
    · rw [hid] at htainted
      exact huntainted htainted
  | shutdown id => trivial

/-- An operation that begins finds no call about its kernel, neither among those that wait nor among
those written off. -/
theorem Account.begins (h : t.Account log lost) {op : Operation} (hclear : op.Clear t.pool)
    (huntainted : op.Untainted log t.fleet) :
    ∃ t' : Traffic, t.pool.enter op.activity = t'.pool ∧ t'.Account log lost := by
  obtain ⟨⟨g, stages⟩, henter, hb⟩ := begins_of_enter h.sound.tidy op (t := t)
  obtain ⟨new, rfl, hothers, htracked⟩ := hb.apart
  refine ⟨_, henter, ?_⟩
  have hsound := h.sound.begins (clear_of_untainted hclear huntainted h.tainted) (hothers _)
  refine ⟨hsound.perm ?_, h.tainted, h.slots, ?_⟩
  · -- What has begun goes behind the calls that wait, and before those that were given up.
    rw [List.append_assoc, List.append_assoc]
    exact List.perm_append_comm.append_left _
  · intro sel
    rw [h.kernels sel, countStages_append, ← htracked sel]
    show _ = g.tracked sel + _ + _ + _
    omega

/-! ### Calls that wait no longer -/

section

variable {s : Stage} {before after : List Stage}

/-- What a stage withholds it withholds wherever it stands among the others. -/
theorem countStages_terminate_middle (sel : KernelHandle → Bool) :
    countStages (before ++ s :: after) .terminate sel =
      countStages (before ++ after) .terminate sel + s.withheld sel := by
  rw [countStages_append, countStages_append, countStages_terminate_cons]
  omega

/-- The order in which calls are listed does not count, so that the one it is about stands first. -/
theorem Account.sound_cons (h : Account log lost ⟨f, before ++ s :: after⟩) :
    Sound ⟨f, s :: (before ++ after ++ lost)⟩ := by
  refine h.sound.perm ?_
  show (before ++ s :: after ++ lost).Perm _
  rw [List.append_assoc, List.append_assoc, List.cons_append]
  exact List.perm_middle

/-- An answer settles one of the calls that wait; what was written off stays where it is. -/
theorem Account.answered (h : Account log lost ⟨f, before ++ s :: after⟩) (reply : Reply) :
    Account (log ++ [(s.call, .answered reply)]) lost ⟨s.settle reply f, before ++ after⟩ where
  sound := h.sound_cons.outcome (outcome_settle f s reply)
  tainted := fun s' hs' => LaunchGivenUp.append (h.tainted s' hs') _
  slots := by
    intro sel
    rw [h.slots sel, History.givenUp_append]
    rfl
  kernels := by
    intro sel
    have hnone : f.kernels.get? s.id = none := h.sound_cons.untracked s List.mem_cons_self
    have hcame := tracked_settle hnone reply sel
    have hkernels : log.arrived sel = f.tracked sel +
      countStages (before ++ s :: after) .terminate sel + _ + _ := h.kernels sel
    have hnotGivenUp : History.givenUp [(s.call, .answered reply)] .terminate sel = 0 := rfl
    rw [countStages_terminate_middle] at hkernels
    rw [History.arrived_append, History.succeeded_append, History.givenUp_append, hnotGivenUp,
      hkernels]
    show _ = (s.settle reply f).tracked sel + countStages (before ++ after) .terminate sel + _ + _
    omega

/-- To the kernels, a call that is given up is over: an ending kernel has gone for good. -/
theorem Account.kernels_givenUp (h : Account log lost ⟨f, before ++ s :: after⟩)
    (sel : KernelHandle → Bool) :
    History.arrived (log ++ [(s.call, .givenUp)]) sel =
      f.tracked sel + countStages (before ++ after) .terminate sel +
        History.succeeded (log ++ [(s.call, .givenUp)]) .terminate sel +
        History.givenUp (log ++ [(s.call, .givenUp)]) .terminate sel := by
  have hkernels : log.arrived sel = f.tracked sel +
    countStages (before ++ s :: after) .terminate sel + _ + _ := h.kernels sel
  have hgivenUp : History.givenUp [(s.call, .givenUp)] .terminate sel = s.withheld sel := by
    rw [History.givenUp, History.count_singleton]
    cases s <;> rfl
  rw [countStages_terminate_middle] at hkernels
  rw [History.arrived_append, History.succeeded_append, History.givenUp_append, hgivenUp, hkernels]
  show _ + 0 = _ + _ + (_ + 0) + _
  omega

/-- A call that is given up, and was not a launch, leaves no slot behind. -/
theorem Account.forgotten (h : Account log lost ⟨f, before ++ s :: after⟩)
    (hkind : s.call.kind ≠ .launch) (ho : s.Outcome f f) :
    Account (log ++ [(s.call, .givenUp)]) lost ⟨f, before ++ after⟩ where
  sound := h.sound_cons.outcome ho
  tainted := fun s' hs' => LaunchGivenUp.append (h.tainted s' hs') _
  slots := by
    intro sel
    have hnone : History.givenUp [(s.call, .givenUp)] .launch sel = 0 := by
      rw [History.givenUp, History.count_singleton, decide_eq_false hkind]
      rfl
    rw [h.slots sel, History.givenUp_append, hnone]
    rfl
  kernels := h.kernels_givenUp

/-- A launch that is given up keeps its slot. -/
theorem Account.orphaned {r : LaunchRequest}
    (h : Account log lost ⟨f, before ++ .launching r :: after⟩) :
    Account (log ++ [(.launch r, .givenUp)]) (.launching r :: lost) ⟨f, before ++ after⟩ where
  sound := h.sound_cons.perm List.perm_middle.symm
  tainted := by
    intro s' hs'
    rcases List.mem_cons.1 hs' with rfl | hs'
    · exact ⟨(.launch r, .givenUp), List.mem_append_right _ List.mem_cons_self, rfl, rfl, rfl⟩
    · exact LaunchGivenUp.append (h.tainted s' hs') _
  slots := by
    intro sel
    have hone : History.givenUp [(.launch r, .givenUp)] .launch sel =
        if sel r.handle then 1 else 0 := by
      rw [History.givenUp, History.count_singleton]
      rfl
    rw [countStages_launching, h.slots sel, History.givenUp_append, hone]
  kernels := h.kernels_givenUp (s := .launching r)

/-- A launch that is given up is written off; of any other call only the record tells. -/
theorem Account.givenUp (h : Account log lost ⟨f, before ++ s :: after⟩) :
    ∃ lost', Account (log ++ [(s.call, .givenUp)]) lost' ⟨f, before ++ after⟩ := by
  cases s with
  | launching r => exact ⟨_, h.orphaned⟩
  | probing limit k => exact ⟨lost, h.forgotten nofun .lost⟩
  | ending k => exact ⟨lost, h.forgotten nofun .ended⟩

end

end Traffic

/-! ## Runs

The account is drawn up anew after each step of a run. -/

/-- Whatever was given up on the way, there is an account of what a fleet that starts empty comes
to. -/
theorem account_of_runs {rules : FleetRules} {limit : Int} {supply : Supply}
    {p : Pool Fleet Unit} (h : Pool.Runs MayAfter (.quiet (empty rules limit supply)) log p) :
    ∃ (t : Traffic) (lost : List Stage), p = t.pool ∧ t.Account log lost := by
  induction h with
  | refl => exact ⟨_, [], rfl, Traffic.account_empty rules limit supply⟩
  | begins _ hmay ih =>
    obtain ⟨t, lost, rfl, hacc⟩ := ih
    cases hmay with
    | operation hclear huntainted =>
      obtain ⟨t', henter, hacc'⟩ := hacc.begins hclear huntainted
      exact ⟨t', lost, henter, hacc'⟩
    | pass millis => exact ⟨⟨t.fleet.later millis, t.stages⟩, lost, rfl, hacc.later millis⟩
  | @answered log s before after w reply _ _ ih =>
    obtain ⟨⟨f, stages⟩, lost, hp, hacc⟩ := ih
    cases congrArg Pool.state hp
    -- The call that is answered is one of those that wait, and its operation goes on from there.
    obtain ⟨l, m, stage, rfl, rfl, hrest⟩ := stages_of_waiting (congrArg Pool.waiting hp).symm
    refine ⟨⟨stage.settle reply s, l ++ m⟩, lost, ?_, ?_⟩
    · rw [Stage.enter_next, hrest]
      rfl
    · rw [Stage.call_waiting]
      exact hacc.answered reply
  | @givenUp log s before after w _ ih =>
    obtain ⟨⟨f, stages⟩, lost, hp, hacc⟩ := ih
    cases congrArg Pool.state hp
    obtain ⟨l, m, stage, rfl, rfl, hrest⟩ := stages_of_waiting (congrArg Pool.waiting hp).symm
    -- What the operation was about to settle is lost, and is put down as such.
    obtain ⟨lost', hacc'⟩ := hacc.givenUp
    refine ⟨⟨s, l ++ m⟩, lost', ?_, ?_⟩
    · rw [hrest]
      rfl
    · rw [Stage.call_waiting]
      exact hacc'

/-! ## The balance

Read off the account: the ledger is off by the launches that were given up, and the kernels by the
shutdowns that were. The example gives up one of each. -/

/-- Once nobody waits any more, the ledger is ahead of the tracked kernels by the launches that were
given up, and the tracked kernels are short of those that came and were not ended by the shutdowns
that were given up. So both agree just if nothing was given up but takeovers. -/
theorem balance_amid_givenUp {rules : FleetRules} {limit : Int} {supply : Supply}
    {p : Pool Fleet Unit} (h : Pool.Runs MayAfter (.quiet (empty rules limit supply)) log p)
    (hidle : p.waiting = []) :
    (∀ user, p.state.ledger.active user =
      p.state.tracked (ownedBy user) + log.givenUp .launch (ownedBy user)) ∧
    (∀ sel, log.arrived sel =
      p.state.tracked sel + log.succeeded .terminate sel + log.givenUp .terminate sel) ∧
    ((∀ user, p.state.ledger.active user = p.state.tracked (ownedBy user)) ∧
        (∀ sel, log.arrived sel = p.state.tracked sel + log.succeeded .terminate sel) ↔
      ∀ e ∈ log, e.2.isGivenUp = true → e.1.kind = .probe) := by
  obtain ⟨⟨f, stages⟩, lost, rfl, hacc⟩ := account_of_runs h
  cases List.map_eq_nil_iff.1 hidle
  have hactive : ∀ user, f.ledger.active user =
      f.tracked (ownedBy user) + log.givenUp .launch (ownedBy user) := by
    intro user
    rw [← hacc.slots]
    exact hacc.sound.balanced user
  have harrived : ∀ sel, log.arrived sel =
      f.tracked sel + log.succeeded .terminate sel + log.givenUp .terminate sel := hacc.kernels
  refine ⟨hactive, harrived, ?_, ?_⟩
  · rintro ⟨hbalanced, hkept⟩ e he hgivenUp
    -- If the sums agree, nothing is counted as given up, for any user or for all.
    have hlaunch : log.givenUp .launch (ownedBy e.1.handle.user) = 0 :=
      Nat.add_eq_left.1 ((hactive _).symm.trans (hbalanced _))
    have hterminate : log.givenUp .terminate (fun _ => true) = 0 :=
      Nat.add_eq_left.1 ((harrived _).symm.trans (hkept _))
    cases hkind : e.1.kind with
    | probe => rfl
    | launch =>
      have howner := History.count_eq_zero_iff.1 hlaunch e he hgivenUp hkind
      exact absurd rfl (of_decide_eq_false howner)
    | terminate =>
      cases History.count_eq_zero_iff.1 hterminate e he hgivenUp hkind
  · intro hprobes
    have hnone : ∀ kind, kind ≠ .probe → ∀ sel, log.givenUp kind sel = 0 := by
      intro kind hkind sel
      refine History.count_eq_zero_iff.2 fun e he hgivenUp heq => absurd ?_ hkind
      rw [← heq]
      exact hprobes e he hgivenUp
    refine ⟨fun user => (hactive user).trans ?_, fun sel => (harrived sel).trans ?_⟩
    · rw [hnone .launch nofun]
      rfl
    · rw [hnone .terminate nofun]
      rfl

/-- A launch for bob waits. -/
def asked : Pool Fleet Unit :=
  (Pool.quiet (empty (openRules none) (-1) plainSupply)).enter (launchFor "bob").activity

/-- One kernel of bob's is to be shut down, while another one is launched. -/
def exchanging : Pool Fleet Unit :=
  ((asked.settle 0 (.answered (some (.ok ())))).enter (Operation.shutdown "a").activity).enter
    (launchFor "bob").activity

/-- The shutdown is given up. -/
def halfGivenUp : Pool Fleet Unit := exchanging.settle 0 .givenUp

/-- The calls that wait no longer once the launch is given up too. -/
def abandonedLog : History :=
  asked.record 0 (.answered (some (.ok ()))) ++ exchanging.record 0 .givenUp ++
    halfGivenUp.record 0 .givenUp

/-- One kernel of bob's is being ended and another launched when both calls are given up. -/
theorem runs_abandoned :
    Pool.Runs MayAfter (.quiet (empty (openRules none) (-1) plainSupply)) abandonedLog
      (halfGivenUp.settle 0 .givenUp) := by
  have hasked : Pool.Runs MayAfter (.quiet (empty (openRules none) (-1) plainSupply)) [] asked :=
    Pool.Runs.refl.begins (.operation (by decide +kernel) (by decide +kernel))
  have hexchanging : Pool.Runs MayAfter _ _ exchanging :=
    ((hasked.answer 0 (.ok ())).begins (.operation (by decide +kernel) (by decide +kernel))).begins
      (.operation (by decide +kernel) (by decide +kernel))
  exact (hexchanging.giveUp 0).giveUp 0

/-- The ledger counts a kernel that is not there, and the kernel that could have been ended, or not,
is not tracked either. -/
theorem balance_of_abandoned :
    abandonedLog.givenUp .launch (ownedBy "bob") = 1 ∧
      (halfGivenUp.settle 0 .givenUp).state.ledger.active "bob" =
        (halfGivenUp.settle 0 .givenUp).state.tracked (ownedBy "bob") + 1 ∧
      ¬ ∀ e ∈ abandonedLog, e.2.isGivenUp = true → e.1.kind = .probe := by
  have hone : abandonedLog.givenUp .launch (ownedBy "bob") = 1 := by decide +kernel
  obtain ⟨hactive, -, hagree⟩ := balance_amid_givenUp runs_abandoned (by decide +kernel)
  have hbob := hactive "bob"
  rw [hone] at hbob
  refine ⟨hone, hbob, fun hprobes => ?_⟩
  have hsame := (hagree.2 hprobes).1 "bob"
  omega

/-- A launch and a shutdown that are given up leave bob with a slot in use and without a kernel,
although no kernel of bob's was ended. -/
theorem imbalance_of_abandoned :
    Pool.Runs MayAfter (.quiet (empty (openRules none) (-1) plainSupply)) abandonedLog
        (halfGivenUp.settle 0 .givenUp) ∧
      (halfGivenUp.settle 0 .givenUp).waiting = [] ∧
      (halfGivenUp.settle 0 .givenUp).state.ledger.active "bob" = 1 ∧
      (halfGivenUp.settle 0 .givenUp).state.tracked (ownedBy "bob") = 0 ∧
      abandonedLog.arrived (ownedBy "bob") = 1 ∧
      abandonedLog.succeeded .terminate (ownedBy "bob") = 0 := by
  refine ⟨runs_abandoned, ?_, ?_, ?_, ?_, ?_⟩ <;> decide +kernel

end Fleet

end KernelGate
