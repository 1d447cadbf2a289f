import KernelGate.Proofs.Fleet.Conservation

/-!
# What the limits on kernels hold back

Both limits are looked at when a launch begins, and speak of the kernels and slots that are there at
that time. A kernel that is being ended has left both, and comes back unchecked if it cannot be
ended; and the limit of the gateway does not see launches that wait. What bounds the kernels that a
fleet can come to track is what it has `inHand`, and a launch that is let through while others wait
can push that over the limit.

Main statements: `settled_le_iff` says how many kernels the launcher's answers can lead to, and
`excess_iff_of_moves` where these become more than a number. Both limits follow from the two.
-/

namespace KernelGate

namespace Fleet

/-- The kernels that are tracked, and those that a call waits about. -/
def inHand (p : Pool Fleet Unit) (sel : KernelHandle → Bool) : Nat :=
  p.state.tracked sel + p.waiting.countP fun w => sel w.call.handle

/-- Nothing is taken over from an earlier run. -/
def Operation.NoTakeover : Operation → Prop
  | .create _ _ => True
  | .reattach _ _ => False
  | .shutdown _ => True

variable {f g : Fleet} {stages : List Stage} {t t' : Traffic} {sel : KernelHandle → Bool}

/-- What is in hand, by stages instead of activities. -/
theorem inHand_pool (f : Fleet) (stages : List Stage) (sel : KernelHandle → Bool) :
    inHand (Traffic.pool ⟨f, stages⟩) sel =
      f.tracked sel + stages.countP fun s => sel s.call.handle := by
  show _ + List.countP _ (stages.map Stage.waiting) = _
  rw [List.countP_map]
  congr 2
  funext s
  exact congrArg (fun c => sel c.handle) s.call_waiting

/-- With all kernels selected, these are the kernels and the calls. -/
theorem inHand_all (p : Pool Fleet Unit) :
    inHand p (fun _ => true) = p.state.kernels.size + p.waiting.length := by
  unfold inHand
  rw [tracked_all, List.countP_true]

/-- Taking a call out of its place. -/
theorem inHand_middle (f : Fleet) (before after : List Stage) (s : Stage)
    (sel : KernelHandle → Bool) :
    inHand (Traffic.pool ⟨f, before ++ s :: after⟩) sel =
      inHand (Traffic.pool ⟨f, before ++ after⟩) sel + if sel s.call.handle then 1 else 0 := by
  rw [inHand_pool, inHand_pool, List.countP_append, List.countP_append, List.countP_cons]
  omega

/-! ## Answers

Each call is about one kernel, and leaves at most that one behind. So the kernels that are in hand
bound those that are tracked once all answers are there, and with the worst answer to each call they
come to just as many. -/

/-- An answer files the kernel that the call is about at most. -/
theorem Stage.Outcome.tracked_le {s : Stage} (ho : s.Outcome f g) :
    g.tracked sel ≤ f.tracked sel + if sel s.call.handle then 1 else 0 := by
  cases ho with
  | launched hk hg =>
    have hle := tracked_le_of_insert hg.kernels sel
    rwa [hk] at hle
  | failed hg =>
    rw [tracked_congr hg.kernels]
    exact Nat.le_add_right _ _
  | found hg => exact tracked_le_of_insert hg.kernels sel
  | lost => exact Nat.le_add_right _ _
  | ended => exact Nat.le_add_right _ _
  | kept hg => exact tracked_le_of_insert hg.kernels sel

/-- An answer moves a kernel from those that a call waits about to those that are tracked, or out of
both. -/
theorem Stage.Outcome.inHand_le {s : Stage} (ho : s.Outcome f g) (before after : List Stage) :
    inHand (Traffic.pool ⟨g, before ++ after⟩) sel ≤
      inHand (Traffic.pool ⟨f, before ++ s :: after⟩) sel := by
  have htracked : g.tracked sel ≤ f.tracked sel + _ := ho.tracked_le
  rw [inHand_middle, inHand_pool, inHand_pool]
  omega

/-- Answers put no more in hand. -/
theorem inHand_le_of_settles {q : Pool Fleet Unit} (h : Pool.Settles t.pool q)
    (sel : KernelHandle → Bool) : inHand q sel ≤ inHand t.pool sel := by
  have hinv : ∃ t' : Traffic, q = t'.pool ∧ inHand t'.pool sel ≤ inHand t.pool sel := by
    refine Pool.invariant_of_reaches
      (fun q => ∃ t' : Traffic, q = t'.pool ∧ inHand t'.pool sel ≤ inHand t.pool sel) ?_ ?_ h
    · rintro _ q ⟨⟨f, stages⟩, rfl, hle⟩ hs
      obtain ⟨before, after, s, g, hstages, ho, rfl⟩ := moves_of_settling hs
      cases hstages
      exact ⟨_, rfl, Nat.le_trans (ho.inHand_le before after) hle⟩
    · exact ⟨t, rfl, Nat.le_refl _⟩
  obtain ⟨t', rfl, hle⟩ := hinv
  exact hle

/-- The answer that leaves a kernel behind. -/
def Stage.worst : Stage → Result Unit
  | .launching _ => .ok ()
  | .probing _ _ => .ok ()
  | .ending _ => .error (.recovery .timedOut)

/-- After the worst answer the kernel of the call is tracked. -/
theorem tracked_worst {s : Stage} (hnone : f.kernels.get? s.id = none)
    (sel : KernelHandle → Bool) :
    (s.settle (some s.worst) f).tracked sel =
      f.tracked sel + if sel s.call.handle then 1 else 0 := by
  cases s with
  | launching r => exact tracked_of_insert (k := ⟨r.handle, f.now⟩) rfl hnone sel
  | probing limit h => exact tracked_of_insert (k := ⟨h, f.now⟩) rfl hnone sel
  | ending k => exact tracked_of_insert (k := k) rfl hnone sel

/-- The launcher may give the worst answer at any time. -/
theorem step_worst (f : Fleet) (s : Stage) (rest : List Stage) :
    Pool.Step (fun _ _ => False) (Traffic.pool ⟨f, s :: rest⟩)
      (Traffic.pool ⟨s.settle (some s.worst) f, rest⟩) := by
  have hs : Pool.Step (fun _ _ => False) ⟨f, [] ++ s.waiting :: rest.map Stage.waiting⟩ _ :=
    .answered (Reply.possible_some _ s.worst)
  rw [Stage.enter_next] at hs
  exact hs

/-- The launcher can answer so that all kernels in hand are tracked in the end. -/
theorem settles_worst (ht : Traffic.Sound ⟨f, stages⟩) :
    ∃ q, Pool.Settles (Traffic.pool ⟨f, stages⟩) q ∧
      ∀ sel, q.state.tracked sel = inHand (Traffic.pool ⟨f, stages⟩) sel := by
  -- One call after the other is answered; that nobody waits for a tracked kernel carries over.
  induction stages generalizing f with
  | nil => exact ⟨_, .refl, fun sel => rfl⟩
  | cons s rest ih =>
    obtain ⟨q, hq, hcount⟩ := ih (ht.outcome (outcome_settle f s (some s.worst)))
    refine ⟨q, .head (step_worst f s rest) hq, ?_⟩
    intro sel
    have hnone : f.kernels.get? s.id = none := ht.untracked s List.mem_cons_self
    rw [hcount, inHand_pool, inHand_pool, tracked_worst hnone, List.countP_cons]
    omega

/-- Whatever the answers, no more kernels come to be tracked than a number, just if no more are in
hand. -/
theorem settled_le_iff (ht : t.Sound) (sel : KernelHandle → Bool) (m : Nat) :
    (∀ q, Pool.Settles t.pool q → q.state.tracked sel ≤ m) ↔ inHand t.pool sel ≤ m := by
  constructor
  · intro hall
    obtain ⟨q, hq, hcount⟩ := settles_worst ht
    have hle := hall q hq
    rwa [hcount] at hle
  · intro hle q hq
    calc
      q.state.tracked sel ≤ inHand q sel := Nat.le_add_right _ _
      _ ≤ inHand t.pool sel := inHand_le_of_settles hq sel
      _ ≤ m := hle

/-! ## Launches

Only a launch that is let through adds to what is in hand. Its own check speaks of the kernels and
the slots at that time, so a limit is exceeded later exactly where a launch is let through while
what is in hand has come up to the limit. -/

/-- A launch gets past both limits, and waits. -/
structure LetThrough (t t' : Traffic) (r : LaunchRequest) : Prop where
  notFull : t.fleet.isFull = false
  room : t.fleet.ledger.isFull r.handle.user = false
  kernels : t'.fleet.kernels = t.fleet.kernels
  stages : t'.stages = t.stages ++ [.launching r]

/-- The call that now waits is one more in hand. -/
theorem LetThrough.inHand_eq {r : LaunchRequest} (hr : LetThrough t t' r)
    (sel : KernelHandle → Bool) :
    inHand t'.pool sel = inHand t.pool sel + if sel r.handle then 1 else 0 := by
  rw [inHand_pool t'.fleet, inHand_pool t.fleet, tracked_congr hr.kernels, hr.stages,
    List.countP_append, List.countP_singleton, Nat.add_assoc]
  rfl

/-- It is one more launch that waits, too. -/
theorem LetThrough.pending_eq {r : LaunchRequest} (hr : LetThrough t t' r)
    (sel : KernelHandle → Bool) :
    pending t'.pool .launch sel =
      pending t.pool .launch sel + if sel r.handle then 1 else 0 := by
  rw [pending_pool, pending_pool, hr.stages, countStages_append, countStages_launching,
    countStages_nil, Nat.zero_add]

/-- Neither what is in hand nor the launches that wait have become more. -/
def NoMore (t t' : Traffic) : Prop :=
  ∀ sel, inHand t'.pool sel ≤ inHand t.pool sel ∧
    pending t'.pool .launch sel ≤ pending t.pool .launch sel

/-- Every other operation moves a kernel from one side to the other, or does nothing. -/
theorem Begins.letThrough_or {op : Operation} (hb : Begins t op t') (hop : op.NoTakeover) :
    (∃ r, LetThrough t t' r) ∨ NoMore t t' := by
  obtain ⟨f, stages⟩ := t
  cases hb with
  | nothing hg =>
    right
    intro sel
    rw [inHand_pool, inHand_pool, tracked_congr hg.kernels]
    exact ⟨Nat.le_refl _, Nat.le_refl _⟩
  | admitted hfull hroom _ hg => exact .inl ⟨_, hfull, hroom, hg.kernels, rfl⟩
  | sought _ => exact hop.elim
  | @taken id k g hget hg =>
    right
    intro sel
    have htaken : f.tracked sel = g.tracked sel + _ := tracked_of_erase hg.kernels hget sel
    constructor
    · rw [inHand_pool, inHand_pool f stages, List.countP_append, List.countP_singleton, htaken]
      show g.tracked sel + (List.countP _ stages + if sel k.handle then 1 else 0) ≤ _
      omega
    · rw [pending_pool, pending_pool, countStages_append, countStages_ending]
      exact Nat.le_refl _

/-- Without takeovers there is more in hand only where a launch is let through. -/
theorem letThrough_or_of_moves (hm : Moves Operation.NoTakeover t t') :
    (∃ r, LetThrough t t' r) ∨ NoMore t t' := by
  cases hm with
  | pass millis => exact .inr fun sel => ⟨Nat.le_refl _, Nat.le_refl _⟩
  | begins hop _ hb => exact hb.letThrough_or hop
  | @answered before after s g hstages ho =>
    obtain ⟨f, stages⟩ := t
    cases hstages
    right
    intro sel
    refine ⟨ho.inHand_le before after, ?_⟩
    rw [pending_pool, pending_pool]
    have hsub : (before ++ after).Sublist (before ++ s :: after) :=
      (List.sublist_cons_self s after).append_left before
    exact hsub.countP_le

variable {m : Nat}

/-- Where more comes in hand than a number, a launch has been let through at that number. -/
theorem excess_of_moves (hm : Moves Operation.NoTakeover t t') (hle : inHand t.pool sel ≤ m)
    (hlt : m < inHand t'.pool sel) :
    ∃ r, LetThrough t t' r ∧ sel r.handle = true ∧ inHand t.pool sel = m := by
  rcases letThrough_or_of_moves hm with ⟨r, hr⟩ | hno
  · have hmore := hr.inHand_eq sel
    refine ⟨r, hr, ?_, ?_⟩
    · cases hsel : sel r.handle with
      | true => rfl
      | false =>
        rw [hsel, if_neg Bool.false_ne_true] at hmore
        omega
    · split at hmore <;> omega
  · have hless := (hno sel).1
    omega

/-- What is in hand comes to be more than a number just where a launch is let through at that
number. -/
theorem excess_iff_of_moves (hm : Moves Operation.NoTakeover t t') (hle : inHand t.pool sel ≤ m) :
    m < inHand t'.pool sel ↔
      inHand t.pool sel = m ∧ pending t'.pool .launch sel = pending t.pool .launch sel + 1 := by
  constructor
  · intro hlt
    obtain ⟨r, hr, hsel, hsame⟩ := excess_of_moves hm hle hlt
    refine ⟨hsame, ?_⟩
    rw [hr.pending_eq sel, if_pos hsel]
  · rintro ⟨hsame, hmore⟩
    rcases letThrough_or_of_moves hm with ⟨r, hr⟩ | hno
    · have hinHand := hr.inHand_eq sel
      have hpending := hr.pending_eq sel
      omega
    · have hless := (hno sel).2
      omega

/-! ## Runs without takeovers

A takeover is no matter of the limits. In runs without one the rules stay as they are, and no call
is about anything but launches and shutdowns. -/

/-- Rules and limit are those that the fleet has started with, and nobody looks for a kernel. -/
structure Traffic.Native (rules : FleetRules) (limit : Int) (t : Traffic) : Prop where
  rules : t.fleet.rules = rules
  limit : t.fleet.ledger.limit = limit
  unprobed : ∀ s ∈ t.stages, s.call.kind ≠ .probe

theorem Begins.rules {op : Operation} (hb : Begins t op t') : t'.fleet.rules = t.fleet.rules := by
  cases hb with
  | nothing hg => exact hg.rules
  | admitted _ _ _ hg => exact hg.rules
  | sought _ => rfl
  | taken _ hg => exact hg.rules

theorem Stage.Outcome.rules {s : Stage} (ho : s.Outcome f g) : g.rules = f.rules := by
  cases ho with
  | launched _ hg => exact hg.rules
  | failed hg => exact hg.rules
  | found hg => exact hg.rules
  | lost => rfl
  | ended => rfl
  | kept hg => exact hg.rules

theorem Begins.limit {op : Operation} (hb : Begins t op t') :
    t'.fleet.ledger.limit = t.fleet.ledger.limit := by
  cases hb with
  | nothing hg => rw [hg.ledger]
  | admitted _ _ _ hg => rw [hg.ledger, Ledger.limit_restore]
  | sought _ => rfl
  | taken _ hg => rw [hg.ledger, Ledger.limit_release]

theorem Stage.Outcome.limit {s : Stage} (ho : s.Outcome f g) :
    g.ledger.limit = f.ledger.limit := by
  cases ho with
  | launched _ hg => rw [hg.ledger]
  | failed hg => rw [hg.ledger, Ledger.limit_release]
  | found hg => rw [hg.ledger, Ledger.limit_restore]
  | lost => rfl
  | ended => rfl
  | kept hg => rw [hg.ledger, Ledger.limit_restore]

theorem unprobed_append (h : ∀ s ∈ stages, s.call.kind ≠ .probe) {s : Stage}
    (hs : s.call.kind ≠ .probe) : ∀ s' ∈ stages ++ [s], s'.call.kind ≠ .probe := by
  intro s' hmem
  rcases List.mem_append.1 hmem with hmem | hmem
  · exact h s' hmem
  · rw [List.mem_singleton.1 hmem]
    exact hs

/-- Without takeovers nobody begins to look for a kernel. -/
theorem Begins.unprobed {op : Operation} (hb : Begins t op t') (hop : op.NoTakeover)
    (h : ∀ s ∈ t.stages, s.call.kind ≠ .probe) : ∀ s ∈ t'.stages, s.call.kind ≠ .probe := by
  cases hb with
  | nothing _ => exact h
  | admitted _ _ _ _ => exact unprobed_append h nofun
  | sought _ => exact hop.elim
  | taken _ _ => exact unprobed_append h nofun

variable {rules : FleetRules} {limit : Int} {supply : Supply}

/-- No step changes the rules or looks for a kernel. -/
theorem Traffic.Native.moves (h : t.Native rules limit) (hm : Moves Operation.NoTakeover t t') :
    t'.Native rules limit := by
  cases hm with
  | pass millis => exact ⟨h.rules, h.limit, h.unprobed⟩
  | begins hop _ hb =>
    exact ⟨hb.rules.trans h.rules, hb.limit.trans h.limit, hb.unprobed hop h.unprobed⟩
  | answered hstages ho =>
    refine ⟨ho.rules.trans h.rules, ho.limit.trans h.limit, ?_⟩
    intro s' hs'
    apply h.unprobed
    rw [hstages]
    rcases List.mem_append.1 hs' with hs' | hs'
    · exact List.mem_append_left _ hs'
    · exact List.mem_append_right _ (List.mem_cons_of_mem _ hs')

/-- What a fleet that starts empty comes to when nothing is taken over. -/
theorem native_of_reaches {p : Pool Fleet Unit}
    (h : Pool.Reaches (May Operation.NoTakeover) (.quiet (empty rules limit supply)) p) :
    ∃ t : Traffic, p = t.pool ∧ t.Sound ∧ t.Native rules limit := by
  refine Pool.invariant_of_reaches
    (fun p => ∃ t : Traffic, p = t.pool ∧ t.Sound ∧ t.Native rules limit) ?_ ?_ h
  · rintro p q ⟨t, rfl, ht, hn⟩ hs
    obtain ⟨t', rfl, hm⟩ := moves_of_step ht.tidy hs
    exact ⟨t', rfl, ht.moves hm, hn.moves hm⟩
  · refine ⟨⟨empty rules limit supply, []⟩, rfl, Traffic.sound_empty rules limit supply, ?_⟩
    refine ⟨rfl, rfl, ?_⟩
    intro s hs
    cases hs

/-- Where nobody looks for a kernel, calls launch or end one. -/
theorem countP_of_unprobed (h : ∀ s ∈ stages, s.call.kind ≠ .probe) :
    stages.countP (fun s => sel s.call.handle) =
      countStages stages .launch sel + countStages stages .terminate sel := by
  induction stages with
  | nil => rfl
  | cons s rest ih =>
    have hrest := ih fun s' hs' => h s' (List.mem_cons_of_mem _ hs')
    rw [List.countP_cons, hrest]
    cases hkind : s.call.kind with
    | launch =>
      rw [countStages_cons_of_eq rest sel hkind, countStages_cons_of_ne rest sel (hkind ▸ nofun)]
      omega
    | probe => exact absurd hkind (h s List.mem_cons_self)
    | terminate =>
      rw [countStages_cons_of_eq rest sel hkind, countStages_cons_of_ne rest sel (hkind ▸ nofun)]
      omega

/-! ## A launch while a kernel is being ended

How a limit comes to be exceeded: a kernel is being ended, a launch is let through in its place, and
then the kernel could not be ended after all. The three states of this run are named, so that both
limits can be shown to give way in it. -/

/-- A user's only kernel is being ended. -/
def ending (start : Fleet) (user : String) : Pool Fleet Unit :=
  (((Pool.quiet start).enter (launchFor user).activity).resume 0 (some (.ok ()))).enter
    (Operation.shutdown "a").activity

/-- Meanwhile a kernel is being launched. -/
def replaced (start : Fleet) (user other : String) : Pool Fleet Unit :=
  (ending start user).enter (launchFor other).activity

/-- The launch succeeds, and the first kernel cannot be ended. -/
def overrun (start : Fleet) (user other : String) : Pool Fleet Unit :=
  ((replaced start user other).resume 1 (some (.ok ()))).resume 0
    (some (.error (.io (.other "cannot stop"))))

section

variable {start : Fleet} {user other : String}

/-- A kernel runs, and is to be ended. -/
theorem reaches_ending (hfresh : (launchFor user).Clear (.quiet start))
    (hlaunch : 0 < (Pool.enter (.quiet start) (launchFor user).activity).waiting.length) :
    Pool.Reaches (May Operation.NoTakeover) (.quiet start) (ending start user) := by
  apply reaches_enter
  · apply Pool.Reaches.resume _ hlaunch
    exact reaches_enter .refl trivial hfresh
  · trivial
  · trivial

/-- Meanwhile a launch is let through, or refused. -/
theorem reaches_replaced
    (hending : Pool.Reaches (May Operation.NoTakeover) (.quiet start) (ending start user))
    (hfresh : (launchFor other).Clear (ending start user)) :
    Pool.Reaches (May Operation.NoTakeover) (.quiet start) (replaced start user other) :=
  reaches_enter hending trivial hfresh

/-- The launch succeeds, and then the shutdown fails. -/
theorem reaches_overrun
    (hreplaced : Pool.Reaches (May Operation.NoTakeover) (.quiet start) (replaced start user other))
    (hlaunch : 1 < (replaced start user other).waiting.length)
    (hend : 0 < ((replaced start user other).resume 1 (some (.ok ()))).waiting.length) :
    Pool.Reaches (May Operation.NoTakeover) (.quiet start) (overrun start user other) :=
  (hreplaced.resume hlaunch _).resume hend _

end

/-! ## The limit of a user

A user's limit speaks of slots. A launch that waits has one, and a kernel that is being ended has
none. -/

/-- Whoever is let through has fewer kernels and launches than the limit. -/
theorem lt_limit_of_letThrough {r : LaunchRequest} {user : String} (ht : t.Sound)
    (hlimit : t.fleet.ledger.limit = m) (hr : LetThrough t t' r)
    (howned : ownedBy user r.handle = true) :
    t.fleet.tracked (ownedBy user) + countStages t.stages .launch (ownedBy user) < m := by
  have huser : r.handle.user = user := of_decide_eq_true howned
  have hroom := hr.room
  rw [huser] at hroom
  rw [← ht.balanced user]
  apply Nat.lt_of_not_le
  intro hfull
  rw [Ledger.isFull, hlimit] at hroom
  simp at hroom
  omega

/-- A user's kernels stay within the limit, whatever the answers, just as long as no more are in
hand. More come in hand just where a launch is let through while as many as the limit are; one of
the user's kernels is being ended then. -/
theorem user_limit_holds_iff {rules : FleetRules} {supply : Supply} {p : Pool Fleet Unit}
    (h : Pool.Reaches (May Operation.NoTakeover) (.quiet (empty rules m supply)) p)
    (user : String) :
    ((∀ q, Pool.Settles p q → q.state.tracked (ownedBy user) ≤ m) ↔
        inHand p (ownedBy user) ≤ m) ∧
      ∀ q, Pool.Step (May Operation.NoTakeover) p q → inHand p (ownedBy user) ≤ m →
        (m < inHand q (ownedBy user) ↔
          inHand p (ownedBy user) = m ∧
            pending q .launch (ownedBy user) = pending p .launch (ownedBy user) + 1) ∧
        (m < inHand q (ownedBy user) → 0 < pending p .terminate (ownedBy user)) := by
  obtain ⟨t, rfl, ht, hn⟩ := native_of_reaches h
  refine ⟨settled_le_iff ht (ownedBy user) m, ?_⟩
  intro q hs hle
  obtain ⟨t', rfl, hm⟩ := moves_of_step ht.tidy hs
  refine ⟨excess_iff_of_moves hm hle, ?_⟩
  intro hlt
  obtain ⟨r, hr, howned, hsame⟩ := excess_of_moves hm hle hlt
  -- The ledger had a slot free, yet as many kernels as the limit were in hand: the rest are those
  -- that are being ended, which the ledger does not count.
  have hroom := lt_limit_of_letThrough ht hn.limit hr howned
  rw [inHand_pool, countP_of_unprobed hn.unprobed] at hsame
  rw [pending_pool]
  omega

/-- A fleet with one kernel for each user. -/
def onePerUser : Fleet := empty (openRules none) 1 plainSupply

/-- The condition is met while the user's kernel is being ended, and no longer once another launch
has been let through. -/
theorem user_limit_of_ending :
    (∀ q, Pool.Settles (ending onePerUser "bob") q → q.state.tracked (ownedBy "bob") ≤ 1) ∧
      ¬ ∀ q, Pool.Settles (replaced onePerUser "bob" "bob") q →
        q.state.tracked (ownedBy "bob") ≤ 1 := by
  have hending : Pool.Reaches (May Operation.NoTakeover) (.quiet onePerUser)
      (ending onePerUser "bob") :=
    reaches_ending (by decide +kernel) (by decide +kernel)
  have hreplaced : Pool.Reaches (May Operation.NoTakeover) (.quiet onePerUser)
      (replaced onePerUser "bob" "bob") :=
    reaches_replaced hending (by decide +kernel)
  constructor
  · exact (user_limit_holds_iff hending "bob").1.2 (by decide +kernel)
  · intro hall
    have hle := (user_limit_holds_iff hreplaced "bob").1.1 hall
    exact absurd hle (by decide +kernel)

/-- A user with a limit of one comes to have two kernels. -/
theorem user_limit_overrun :
    Pool.Reaches (May Operation.NoTakeover) (.quiet onePerUser) (overrun onePerUser "bob" "bob") ∧
      (overrun onePerUser "bob" "bob").state.tracked (ownedBy "bob") = 2 := by
  constructor
  · refine reaches_overrun (reaches_replaced (reaches_ending ?_ ?_) ?_) ?_ ?_ <;> decide +kernel
  · decide +kernel

/-! ## The limit of the gateway

The limit of the gateway speaks of kernels that are tracked. It sees neither launches that wait nor
kernels that are being ended. -/

/-- The gateway's kernels stay within its limit, whatever the answers, just as long as these and
the calls that wait are no more. They come to be more just where a launch is let through while they
are as many as the limit; other calls wait then. -/
theorem gateway_limit_holds_iff {rules : FleetRules} {limit : Int} {supply : Supply}
    {p : Pool Fleet Unit} (hmax : rules.maxKernels? = some m)
    (h : Pool.Reaches (May Operation.NoTakeover) (.quiet (empty rules limit supply)) p) :
    ((∀ q, Pool.Settles p q → q.state.kernels.size ≤ m) ↔
        p.state.kernels.size + p.waiting.length ≤ m) ∧
      ∀ q, Pool.Step (May Operation.NoTakeover) p q →
        p.state.kernels.size + p.waiting.length ≤ m →
        (m < q.state.kernels.size + q.waiting.length ↔
          p.state.kernels.size + p.waiting.length = m ∧
            pending q .launch (fun _ => true) = pending p .launch (fun _ => true) + 1) ∧
        (m < q.state.kernels.size + q.waiting.length → 0 < p.waiting.length) := by
  obtain ⟨t, rfl, ht, hn⟩ := native_of_reaches h
  constructor
  · rw [← inHand_all, ← settled_le_iff ht]
    simp only [tracked_all]
  · intro q hs hle
    obtain ⟨t', rfl, hm⟩ := moves_of_step ht.tidy hs
    rw [← inHand_all] at hle ⊢
    rw [← inHand_all]
    refine ⟨excess_iff_of_moves hm hle, ?_⟩
    intro hlt
    obtain ⟨r, hr, -, hsame⟩ := excess_of_moves hm hle hlt
    have hsize : t.fleet.kernels.size < m := by
      have hfull := hr.notFull
      rw [isFull, hn.rules, hmax] at hfull
      exact Nat.lt_of_not_le (of_decide_eq_false hfull)
    rw [inHand_all] at hsame
    have hpool : t.pool.state.kernels.size + t.pool.waiting.length = m := hsame
    have hstate : t.pool.state.kernels.size < m := hsize
    omega

/-- A fleet with one kernel in all. -/
def oneInAll : Fleet := empty (openRules (some 1)) (-1) plainSupply

/-- The condition is met while the only kernel is being ended, and no longer once another launch has
been let through. -/
theorem gateway_limit_of_ending :
    (∀ q, Pool.Settles (ending oneInAll "alice") q → q.state.kernels.size ≤ 1) ∧
      ¬ ∀ q, Pool.Settles (replaced oneInAll "alice" "bob") q → q.state.kernels.size ≤ 1 := by
  have hending : Pool.Reaches (May Operation.NoTakeover) (.quiet oneInAll)
      (ending oneInAll "alice") :=
    reaches_ending (by decide +kernel) (by decide +kernel)
  have hreplaced : Pool.Reaches (May Operation.NoTakeover) (.quiet oneInAll)
      (replaced oneInAll "alice" "bob") :=
    reaches_replaced hending (by decide +kernel)
  constructor
  · exact (gateway_limit_holds_iff rfl hending).1.2 (by decide +kernel)
  · intro hall
    have hle := (gateway_limit_holds_iff rfl hreplaced).1.1 hall
    exact absurd hle (by decide +kernel)

/-- A gateway with a limit of one comes to have two kernels. -/
theorem gateway_limit_overrun :
    Pool.Reaches (May Operation.NoTakeover) (.quiet oneInAll) (overrun oneInAll "alice" "bob") ∧
      (overrun oneInAll "alice" "bob").state.kernels.size = 2 := by
  constructor
  · refine reaches_overrun (reaches_replaced (reaches_ending ?_ ?_) ?_) ?_ ?_ <;> decide +kernel
  · decide +kernel

end Fleet

end KernelGate
