import KernelGate.Launcher.Local
import KernelGate.Proofs.Dict.Searching
import KernelGate.Proofs.Fleet.Visits

/-!
# Stops that fail

A launcher of processes holds a child for each kernel that it has launched, until it is asked to
end the kernel. It forgets the child before it looks at the process and kills it, and both of these
may fail. So a stop that fails where a child was held loses the child. If the process cannot be
killed when it is let go of either, it runs on: the fleet tracks its kernel as before, and no later
stop finds it.

`ProcessHost` stands for the system: whatever it does with a process, and whatever fails there, is
an instance of it.

Main statements: `stop_terminate` (all that can come of a stop), `holds_answer_iff` (what a call
does to the children), `holds_after_iff` (for which kernels a child is held), `failed_terminate`
(what a stop that fails leaves).
-/

namespace KernelGate

namespace LocalLauncher

variable {H : Type} {l l' : LocalLauncher H} {h : KernelHandle} {id : String} {e : Fault}

/-- The launcher holds a child for the kernel. -/
def Holds (l : LocalLauncher H) (id : String) : Prop := l.children.contains id = true

instance : Decidable (l.Holds id) := inferInstanceAs (Decidable (_ = true))

theorem not_holds_iff : ¬ l.Holds id ↔ l.children.get? id = none := by
  simp [Holds, Dict.contains]

/-- Nobody asks to end the kernel. -/
def Spared (id : String) (log : List (LauncherCall × Result Unit)) : Prop :=
  ∀ entry ∈ log, ∀ k, entry.1 = .terminate k → k.id ≠ id

/-- The kernel was launched, and since then nobody has asked to end it. -/
inductive Standing (id : String) : List (LauncherCall × Result Unit) → Prop where
  | launched {r : LaunchRequest} {rest : List (LauncherCall × Result Unit)} :
      r.handle.id = id → Spared id rest → Standing id ((.launch r, .ok ()) :: rest)
  | before {entry : LauncherCall × Result Unit} {rest : List (LauncherCall × Result Unit)} :
      Standing id rest → Standing id (entry :: rest)

variable [ProcessHost H]

/-- The launcher after a call, and its answer. -/
def answer (l : LocalLauncher H) : LauncherCall → LocalLauncher H × Result Unit
  | .launch request => l.launch request
  | .probe kernel => l.probe kernel
  | .terminate kernel => l.terminate kernel

theorem reply_eq (l : LocalLauncher H) (c : LauncherCall) :
    Launcher.reply l c none = ((l.answer c).1, some (l.answer c).2) := by
  cases c <;> rfl

/-- The launcher after some calls, one after another. -/
def after (l : LocalLauncher H) (calls : List LauncherCall) : LocalLauncher H :=
  calls.foldl (fun l c => (l.answer c).1) l

/-- The calls with the answers that the launcher gives. -/
def answers (l : LocalLauncher H) : List LauncherCall → List (LauncherCall × Result Unit)
  | [] => []
  | c :: rest => (c, (l.answer c).2) :: answers (l.answer c).1 rest

/-! ## One call

The launcher forgets a child before it knows what becomes of it, so that after any request to end a
kernel no child is held for it. -/

/-- What comes of asking to end a kernel. -/
inductive Stop (l : LocalLauncher H) (h : KernelHandle) : LocalLauncher H → Result Unit → Prop where
  | stranger : l.children.get? h.id = none → Stop l h l (.error (.launch (.notOurs h.id)))
  | unseen {child : Nat} {host : H} {cause : IoFault} : l.children.get? h.id = some child →
      ProcessHost.check l.host child = (host, .error cause) →
      Stop l h ⟨ProcessHost.letGo host child, l.children.erase h.id⟩ (.error (.io cause))
  | exited {child : Nat} {host : H} {status : ExitStatus} : l.children.get? h.id = some child →
      ProcessHost.check l.host child = (host, .ok (some status)) →
      Stop l h ⟨host, l.children.erase h.id⟩ (.ok ())
  | unkilled {child : Nat} {host host' : H} {cause : IoFault} :
      l.children.get? h.id = some child → ProcessHost.check l.host child = (host, .ok none) →
      ProcessHost.kill host child = (host', .error cause) →
      Stop l h ⟨ProcessHost.letGo host' child, l.children.erase h.id⟩
        (.error (.launch (.killFailed h.id cause)))
  | killed {child : Nat} {host host' : H} : l.children.get? h.id = some child →
      ProcessHost.check l.host child = (host, .ok none) →
      ProcessHost.kill host child = (host', .ok ()) →
      Stop l h ⟨host', l.children.erase h.id⟩ (.ok ())

/-- What comes of a request to end a kernel is settled by the child and by the system. -/
theorem stop_terminate (l : LocalLauncher H) (h : KernelHandle) :
    Stop l h (l.terminate h).1 (l.terminate h).2 := by
  cases hget : l.children.get? h.id with
  | none =>
    rw [terminate_of_stranger hget]
    exact .stranger hget
  | some child =>
    rcases hcheck : ProcessHost.check l.host child with ⟨host, cause | _ | status⟩
    · simp only [terminate, hget, hcheck]
      exact .unseen hget hcheck
    · rcases hkill : ProcessHost.kill host child with ⟨host', cause | _⟩
      · simp only [terminate, hget, hcheck, hkill]
        exact .unkilled hget hcheck hkill
      · simp only [terminate, hget, hcheck, hkill]
        exact .killed hget hcheck hkill
    · simp only [terminate, hget, hcheck]
      exact .exited hget hcheck

/-- The child is forgotten, whatever comes of it. -/
theorem Stop.get? {x : Result Unit} (hstop : Stop l h l' x) (id : String) :
    l'.children.get? id = if id = h.id then none else l.children.get? id := by
  cases hstop with
  | stranger hnone =>
    split
    · next hid => rw [hid, hnone]
    · rfl
  | unseen | exited | unkilled | killed => exact Dict.get?_erase ..

/-- Whatever comes of it, the child of this kernel is gone, and the others are held on to. -/
theorem holds_terminate_iff (l : LocalLauncher H) (h : KernelHandle) (id : String) :
    (l.terminate h).1.Holds id ↔ l.Holds id ∧ id ≠ h.id := by
  rw [Holds, Dict.contains, (l.stop_terminate h).get?]
  by_cases hid : id = h.id
  · rw [if_pos hid]
    exact iff_of_false Bool.false_ne_true fun hheld => hheld.2 hid
  · rw [if_neg hid]
    exact (and_iff_left hid).symm

/-- A launch that fails and a look at a kernel leave the children. -/
theorem children_launch (l : LocalLauncher H) (r : LaunchRequest) :
    (l.launch r).2 = .ok () ∧
        (∃ child, (l.launch r).1.children = l.children.insert r.handle.id child) ∨
      (l.launch r).2 ≠ .ok () ∧ (l.launch r).1.children = l.children := by
  unfold launch
  split
  · exact .inr ⟨nofun, rfl⟩
  · split
    · exact .inr ⟨nofun, rfl⟩
    · exact .inl ⟨rfl, _, rfl⟩

/-- To look at a process is not to let go of it. -/
theorem children_probe (l : LocalLauncher H) (h : KernelHandle) :
    (l.probe h).1.children = l.children := by
  unfold probe reach
  split
  · split
    · rfl
    · split <;> rfl
  · split <;> rfl

/-- A child is held for a kernel after a call if it was launched by this call, or if a child was
held before and the call does not ask to end it. -/
theorem holds_answer_iff (l : LocalLauncher H) (c : LauncherCall) (id : String) :
    (l.answer c).1.Holds id ↔
      (∃ r, c = .launch r ∧ r.handle.id = id ∧ (l.answer c).2 = .ok ()) ∨
        l.Holds id ∧ ∀ k, c = .terminate k → k.id ≠ id := by
  cases c with
  | launch r =>
    show (l.launch r).1.children.contains id = true ↔ _
    obtain ⟨hok, child, hchildren⟩ | ⟨hfailed, hchildren⟩ := l.children_launch r
    · rw [hchildren, Dict.contains_insert]
      constructor
      · rintro (rfl | hheld)
        · exact .inl ⟨r, rfl, rfl, hok⟩
        · exact .inr ⟨hheld, nofun⟩
      · rintro (⟨_, ⟨⟩, rfl, -⟩ | ⟨hheld, -⟩)
        · exact .inl rfl
        · exact .inr hheld
    · rw [hchildren]
      constructor
      · exact fun hheld => .inr ⟨hheld, nofun⟩
      · rintro (⟨_, ⟨⟩, -, hok⟩ | ⟨hheld, -⟩)
        · exact absurd hok hfailed
        · exact hheld
  | probe k =>
    show (l.probe k).1.children.contains id = true ↔ _
    rw [children_probe]
    constructor
    · exact fun hheld => .inr ⟨hheld, nofun⟩
    · rintro (⟨_, ⟨⟩, -⟩ | ⟨hheld, -⟩)
      exact hheld
  | terminate k =>
    show (l.terminate k).1.Holds id ↔ _
    rw [holds_terminate_iff]
    constructor
    · rintro ⟨hheld, hid⟩
      refine .inr ⟨hheld, ?_⟩
      rintro _ ⟨⟩
      exact hid.symm
    · rintro (⟨_, ⟨⟩, -⟩ | ⟨hheld, hspared⟩)
      exact ⟨hheld, (hspared k rfl).symm⟩

/-! ## Calls one after another

Over a sequence of calls it depends on the last launch of a kernel and on what came after it whether
a child is held. -/

theorem holds_after_or (l : LocalLauncher H) (calls : List LauncherCall) (id : String) :
    (l.after calls).Holds id ↔
      Standing id (l.answers calls) ∨ l.Holds id ∧ Spared id (l.answers calls) := by
  induction calls generalizing l with
  | nil => exact ⟨fun hheld => .inr ⟨hheld, nofun⟩, fun h => h.elim nofun And.left⟩
  | cons c rest ih =>
    show ((l.answer c).1.after rest).Holds id ↔ _
    rw [ih, holds_answer_iff, answers]
    constructor
    · rintro (hstanding | ⟨⟨r, rfl, hid, hok⟩ | ⟨hheld, hspared⟩, hrest⟩)
      · exact .inl (.before hstanding)
      · rw [hok]
        exact .inl (.launched hid hrest)
      · exact .inr ⟨hheld, List.forall_mem_cons.2 ⟨hspared, hrest⟩⟩
    · rintro (hstanding | ⟨hheld, hspared⟩)
      · generalize (l.answer c).2 = x at hstanding ⊢
        cases hstanding with
        | launched hid hrest => exact .inr ⟨.inl ⟨_, rfl, hid, rfl⟩, hrest⟩
        | before hstanding => exact .inl hstanding
      · obtain ⟨hspared, hrest⟩ := List.forall_mem_cons.1 hspared
        exact .inr ⟨.inr ⟨hheld, hspared⟩, hrest⟩

/-- A launcher holds a child for each kernel that it has launched, until it is asked to end it,
whether it succeeds in this or not. -/
theorem holds_after_iff (host : H) (calls : List LauncherCall) (id : String) :
    ((new host).after calls).Holds id ↔ Standing id ((new host).answers calls) :=
  (holds_after_or _ calls id).trans (or_iff_left fun h => nomatch h.1)

/-- A kernel that stands was launched by one of the calls. -/
theorem exists_launch_of_standing {calls : List LauncherCall}
    (hstanding : Standing id (l.answers calls)) : ∃ r, .launch r ∈ calls ∧ r.handle.id = id := by
  induction calls generalizing l with
  | nil => cases hstanding
  | cons c rest ih =>
    rw [answers] at hstanding
    generalize (l.answer c).2 = x at hstanding
    cases hstanding with
    | launched hid _ => exact ⟨_, List.mem_cons_self, hid⟩
    | before hstanding =>
      obtain ⟨r, hmem, hid⟩ := ih hstanding
      exact ⟨r, List.mem_cons_of_mem _ hmem, hid⟩

/-! ## A stop that fails

A stop that fails while a child was held loses it, and from then on every stop fails for another
reason: the launcher says that the kernel is not its own. A fleet puts the kernel back each time. -/

/-- Every stop of the kernel fails, and a fleet that tracks it goes on tracking it. -/
structure Lost (l : LocalLauncher H) (id : String) : Prop where
  refused : ∀ k : KernelHandle, k.id = id →
    l.terminate k = (l, .error (.launch (.notOurs id)))
  tracked : ∀ (f : Fleet) (k : Tracked), f.kernels.get? id = some k → k.handle.id = id →
    ∃ f', (Fleet.shutdown id).run Launcher.reply l f = (l, f', .error (.launch (.notOurs id))) ∧
      f'.kernels = f.kernels

/-- A fleet keeps tracking a kernel that its launcher fails to stop. -/
theorem shutdown_of_failed {f : Fleet} {k : Tracked} (hget : f.kernels.get? id = some k)
    (hid : k.handle.id = id) (hfail : l.terminate k.handle = (l', .error e)) :
    ∃ f', (Fleet.shutdown id).run Launcher.reply l f = (l', f', .error e) ∧
      f'.kernels = f.kernels := by
  have hreply : Launcher.reply l (.terminate k.handle) none = (l', some (.error e)) := by
    rw [reply_eq, answer, hfail]
  let taken : Fleet := Fleet.gauge { f with
    kernels := f.kernels.erase id
    ledger := f.ledger.release k.handle.user }
  have hrun : (Fleet.shutdown id).run Launcher.reply l f =
      (l', taken.settleShutdown k (.error e)) := by
    show ((Activity.atOnce (Fleet.beginShutdown · id)).bind _).run Launcher.reply l f = _
    rw [Fleet.run_atOnce_bind Launcher.reply (Fleet.beginShutdown_of_some hget)]
    show (Activity.call (.terminate k.handle) none _).run Launcher.reply l taken = _
    rw [Activity.run, hreply]
    rfl
  refine ⟨_, hrun, ?_⟩
  show (f.kernels.erase id).insert k.handle.id k = f.kernels
  rw [hid]
  exact Dict.insert_erase hget

/-- Without a child no stop can succeed. -/
theorem lost_of_not_holds (hnot : ¬ l.Holds id) : l.Lost id := by
  have hrefused (k : KernelHandle) (hid : k.id = id) :
      l.terminate k = (l, .error (.launch (.notOurs id))) := by
    rw [← hid] at hnot ⊢
    exact terminate_of_stranger (not_holds_iff.1 hnot)
  exact ⟨hrefused, fun f k hget hid => shutdown_of_failed hget hid (hrefused k.handle hid)⟩

/-- The launcher says that a kernel is not its own just where it holds no child for it. -/
theorem not_holds_iff_of_failed (hfail : l.terminate h = (l', .error e)) :
    ¬ l.Holds h.id ↔ e = .launch (.notOurs h.id) := by
  have hstop := l.stop_terminate h
  rw [hfail] at hstop
  rw [not_holds_iff]
  cases hstop with
  | stranger hnone => exact iff_of_true hnone rfl
  | unseen hsome | unkilled hsome => exact iff_of_false (by simp [hsome]) (by simp)

/-- A kernel for which no child is held stays lost until it is launched anew. -/
theorem lost_after (hnot : ¬ l.Holds id) {calls : List LauncherCall}
    (hcalls : ∀ r, .launch r ∈ calls → r.handle.id ≠ id) : (l.after calls).Lost id := by
  refine lost_of_not_holds fun hheld => ?_
  obtain hstanding | ⟨hheld, -⟩ := (l.holds_after_or calls id).1 hheld
  · obtain ⟨r, hmem, hid⟩ := exists_launch_of_standing hstanding
    exact hcalls r hmem hid
  · exact hnot hheld

/-- A stop fails after any calls to a new launcher. The kernels that it holds a child for are the
same afterwards exactly where it held none for this one, which was never launched or was to be ended
before, and that is where it says that the kernel is not its own. Otherwise it forgets this one
child. Either way a fleet tracks the kernel as before, and no stop of it succeeds until it is
launched anew. -/
theorem failed_terminate (host : H) (calls : List LauncherCall) (h : KernelHandle)
    (hfail : ((new host).after calls).terminate h = (l', .error e)) :
    ((∀ id, l'.Holds id ↔ ((new host).after calls).Holds id) ↔
        ¬ Standing h.id ((new host).answers calls)) ∧
      (¬ Standing h.id ((new host).answers calls) ↔ e = .launch (.notOurs h.id)) ∧
      (∀ id ≠ h.id, l'.children.get? id = ((new host).after calls).children.get? id) ∧
      (∀ (f : Fleet) (k : Tracked), f.kernels.get? h.id = some k → k.handle = h →
        ∃ f', (Fleet.shutdown h.id).run Launcher.reply ((new host).after calls) f =
          (l', f', .error e) ∧ f'.kernels = f.kernels) ∧
      ∀ more, (∀ r, .launch r ∈ more → r.handle.id ≠ h.id) → (l'.after more).Lost h.id := by
  -- Which calls came before matters only for whether the launcher holds a child for the kernel.
  rw [← holds_after_iff host calls h.id]
  generalize (new host).after calls = l at hfail
  have hholds (id : String) : l'.Holds id ↔ l.Holds id ∧ id ≠ h.id := by
    rw [← l.holds_terminate_iff h id, hfail]
  refine ⟨⟨?kept, ?spared⟩, not_holds_iff_of_failed hfail, ?others, ?fleet, ?later⟩
  case kept =>
    intro hkept hheld
    exact ((hholds h.id).1 ((hkept h.id).2 hheld)).2 rfl
  case spared =>
    intro hnot id
    rw [hholds]
    refine and_iff_left_of_imp fun hheld hid => hnot ?_
    rwa [← hid]
  case others =>
    intro id hid
    have hget := (l.stop_terminate h).get? id
    rwa [hfail, if_neg hid] at hget
  case fleet =>
    intro f k hget hk
    exact shutdown_of_failed hget (congrArg _ hk) (hk ▸ hfail)
  case later =>
    intro more hmore
    exact lost_after (fun hheld => ((hholds h.id).1 hheld).2 rfl) hmore

/-! ### A process that cannot be killed at first

The system refuses to kill the process, and once more when the launcher lets go of it. When it could
be killed at last, the launcher no longer knows it. -/

/-- A host whose processes run as another user for a while: so many attempts to kill one are
refused. -/
structure ReluctantHost where
  started : Nat
  refusals : Nat

/-- What is said of a process of another user. -/
def notPermitted : IoFault := .other "Operation not permitted (os error 1)"

instance : ProcessHost ReluctantHost where
  spawn host _ := ({ host with started := host.started + 1 }, .ok host.started)
  check host _ := (host, .ok none)
  kill host _ := match host.refusals with
    | 0 => (host, .ok ())
    | n + 1 => ({ host with refusals := n }, .error notPermitted)
  connect host _ _ := (host, .error .connectionRefused)

/-- It refuses when it is asked to kill the process, and once more when the process is let go of. -/
def reluctant : ReluctantHost := ⟨0, 2⟩

def sleeper : KernelHandle where
  id := "a"
  name := "python3"
  user := "alice"
  host := "localhost"
  ports := []

def sleeperLaunch : LaunchRequest := ⟨sleeper, .python, ∅⟩

/-- The first stop fails for want of permission, and after it the kernel is lost. -/
theorem sleeper_lost : ∃ l' : LocalLauncher ReluctantHost,
    ((new reluctant).after [.launch sleeperLaunch]).terminate sleeper =
        (l', .error (.launch (.killFailed "a" notPermitted))) ∧
      Standing "a" ((new reluctant).answers [.launch sleeperLaunch]) ∧
      (l'.after [.probe sleeper]).Lost "a" := by
  have hfail : ((new reluctant).after [.launch sleeperLaunch]).terminate sleeper =
      (_, .error (.launch (.killFailed "a" notPermitted))) := rfl
  obtain ⟨-, hstanding, -, -, hlost⟩ :=
    failed_terminate reluctant [.launch sleeperLaunch] sleeper hfail
  refine ⟨_, hfail, ?_, hlost [.probe sleeper] ?_⟩
  · exact Classical.not_not.1 (mt hstanding.1 nofun)
  · rintro r hmem
    cases List.mem_singleton.1 hmem

/-- A launcher on this host and a fleet that has launched a kernel by it. -/
def launched : LocalLauncher ReluctantHost × Fleet × Result KernelHandle :=
  (Fleet.create .python (.forUser "alice")).run Launcher.reply (new reluctant)
    (.empty (Fleet.openRules none) 1 Fleet.plainSupply)

/-- What comes of a stop of this kernel. -/
def stopped (s : LocalLauncher ReluctantHost × Fleet × Result KernelHandle) :
    LocalLauncher ReluctantHost × Fleet × Result KernelHandle :=
  (Fleet.shutdown "a").run Launcher.reply s.1 s.2.1

/-- The host refuses to kill the process of a kernel. The launcher has forgotten the process then,
and so refuses the next stop itself, when the host would no longer refuse. -/
theorem children_lost_of_launched :
    launched.1.Holds "a" ∧
      (stopped launched).2.2 = .error (.launch (.killFailed "a" notPermitted)) ∧
      ¬ (∀ id, (stopped launched).1.Holds id ↔ launched.1.Holds id) ∧
      (stopped launched).2.1.kernels.contains "a" = true ∧
      (ProcessHost.kill (stopped launched).1.host 0).2 = .ok () ∧
      (stopped (stopped launched)).2.2 = .error (.launch (.notOurs "a")) ∧
      (stopped (stopped launched)).2.1.kernels.contains "a" = true := by
  refine ⟨by decide +kernel, rfl, fun hsame => ?_, by decide +kernel, rfl, rfl,
    by decide +kernel⟩
  exact absurd ((hsame "a").2 (by decide +kernel)) (by decide +kernel)

end LocalLauncher

end KernelGate
