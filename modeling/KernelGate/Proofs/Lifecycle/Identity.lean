import KernelGate.Host.Machine
import KernelGate.Proofs.Host.Variables
import KernelGate.Proofs.Lifecycle.Closing
import KernelGate.Proofs.Lifecycle.Reachable
import KernelGate.Proofs.Registry.Launching

/-!
# One user from the request to the process

Who may start a kernel, whose slot it takes, who owns it, whose name stands in its record and what
its process is told of its user: all of this is one and the same user, whatever clients and specs
say, up to the lines that the process is handed. There a variable whose name goes on with a sign of
equality counts as one for the name in front of it, which nothing keeps a client from setting.

Main statements: `identity_of_runs`, and `shell_misled_of_pretence` (what a client can make of it).
-/

namespace KernelGate

open Activity

/-! ## What a process finds

The environment of a process is made of layers: what the gateway tells it, what the client says,
what the spec says, and what the gateway's own process finds. How a variable is then read is up to
who reads it; the system looks for the first line that begins with it, a shell goes through all
lines. -/

namespace FleetRules

variable {rules : FleetRules} {spec : KernelSpec} {p : LaunchParams} {request : LaunchRequest}
  {command : ProcessCommand} {h : KernelHandle} {name value : String}

/-- The four variables that the gateway sets, whatever else is set. -/
theorem get?_told (rules : FleetRules) (h : KernelHandle) (name : String) :
    (rules.told h).get? name =
      if name = "EG_IMPERSONATION_ENABLED" then
        some (if rules.impersonation then "True" else "False")
      else if name = "KERNEL_NAME" then some h.name
      else if name = "KERNEL_ID" then some h.id
      else if name = userVariable then some h.user else none := by
  simp only [told, Dict.ofList, Dict.insertMany, List.foldl, Dict.get?_insert, Dict.get?_empty]

/-- Whatever the gateway tells a process has a name without a sign of equality. -/
theorem isPlain_of_told (htold : (rules.told h).get? name = some value) :
    Variables.IsPlain name := by
  have hmem : name ∈ ["EG_IMPERSONATION_ENABLED", "KERNEL_NAME", "KERNEL_ID", userVariable] := by
    rw [get?_told] at htold
    split_ifs at htold <;> simp_all
  have hall : ∀ name ∈ ["EG_IMPERSONATION_ENABLED", "KERNEL_NAME", "KERNEL_ID", userVariable],
      Variables.IsPlain name := by decide
  exact hall name hmem

/-- Of what is set for a process, the gateway's word counts most, then the client's, then the
spec's, and last that of the gateway's own process. -/
theorem Grants.get?_settings (hgrants : rules.Grants spec p request)
    (hcommand : request.command = .ok command) (m : Machine) (name : String) :
    (m.settings command).get? name =
      ((rules.told request.handle).get? name).or
        ((p.env.get? name).or ((spec.env.get? name).or (m.env.get? name))) := by
  have henv : command.env = spec.env.overlay request.env := by
    unfold LaunchRequest.command at hcommand
    split at hcommand
    · cases hcommand
    · cases hcommand
      rw [← hgrants.spec]
  unfold Machine.settings
  rw [henv, hgrants.env, Dict.get?_overlay, Dict.get?_overlay, Dict.get?_overlay, Option.or_assoc,
    Option.or_assoc]

/-- What a process of a launch finds. -/
structure Shows (rules : FleetRules) (spec : KernelSpec) (p : LaunchParams)
    (request : LaunchRequest) (m : Machine) (command : ProcessCommand) : Prop where
  /-- The gateway's word counts most, then the client's, then the spec's. -/
  settings : ∀ name, (m.settings command).get? name =
    ((rules.told request.handle).get? name).or
      ((p.env.get? name).or ((spec.env.get? name).or (m.env.get? name)))
  /-- What the gateway tells a process is what the system finds. -/
  told : ∀ name value, (rules.told request.handle).get? name = some value →
    (Variables.ofDict (m.settings command)).first? name = some value
  /-- For every other variable the client's word comes before the spec's. -/
  others : ∀ name value, Variables.IsPlain name → (rules.told request.handle).get? name = none →
    (p.env.get? name).or (spec.env.get? name) = some value →
    (Variables.ofDict (m.settings command)).first? name = some value
  /-- A shell finds the same where no name goes on with a sign of equality behind that of the
  variable. -/
  agreed : ∀ name, Variables.IsPlain name →
    (∀ rest, (m.settings command).get? (name ++ "=" ++ rest) = none) →
    (Variables.ofDict (m.settings command)).shell.get? name =
      (Variables.ofDict (m.settings command)).first? name
  /-- Where there are such names, a shell finds what the last of them says. -/
  shell : ∀ name, Variables.IsPlain name → (m.settings command).contains name = true →
    (Variables.ofDict (m.settings command)).shell.get? name =
      ((Variables.echoes name (m.settings command)).getLast?).or
        ((Variables.ofDict (m.settings command)).first? name)

/-- What was let through is what the process is told. -/
theorem Grants.shows (hgrants : rules.Grants spec p request)
    (hcommand : request.command = .ok command) (m : Machine) :
    rules.Shows spec p request m command where
  settings := hgrants.get?_settings hcommand m
  told := by
    intro name value htold
    rw [Variables.first?_ofDict (isPlain_of_told htold), hgrants.get?_settings hcommand, htold]
    rfl
  others := by
    intro name value hname htold hvalue
    rw [Variables.first?_ofDict hname, hgrants.get?_settings hcommand, htold, Option.none_or,
      ← Option.or_assoc, hvalue]
    rfl
  agreed := by
    intro name hname hnone
    rw [Variables.shell_ofDict hname, Variables.first?_ofDict hname,
      (Variables.echoes_eq_nil_iff hname).2 hnone, List.getLast?_nil, List.head?_nil,
      Option.none_or, Option.or_none]
  shell := by
    intro name hname hset
    obtain ⟨value, hvalue⟩ := Dict.contains_iff.1 hset
    rw [Variables.shell_ofDict hname, Variables.first?_ofDict hname, hvalue, Option.some_or]

end FleetRules

/-! ## Every launch of a gateway

The same holds of all launches of all runs, whoever asked for them and whatever came between. -/

namespace Gateway

variable {S : Type} [SessionStore S] {c : Config} {parts : Parts S} {control control' : Coordinator}
  {g : Gateway S} {log : History} {q : Pool (Gateway S) Unit}

/-- The launcher has been asked to launch this, and has answered, or has not yet. -/
def Asked (log : History) (q : Pool (Gateway S) Unit) (request : LaunchRequest) : Prop :=
  (∃ fate, (.launch request, fate) ∈ log) ∨ ∃ w ∈ q.waiting, w.call = .launch request

/-- Each launch is for one user from beginning to end. -/
structure OneIdentity (c : Config) (parts : Parts S) (log : History)
    (q : Pool (Gateway S) Unit) : Prop where
  /-- Whatever the launcher was asked to launch was let through. -/
  asked : ∀ request, Asked log q request → ∃ spec p, (rulesOf c parts).Grants spec p request
  rules : q.state.registry.fleet.rules = rulesOf c parts
  /-- Whenever a launch calls the launcher, it is the user who was let through whose slot it has
  taken, and who owns the kernel that comes of it. -/
  create : ∀ (f f' : Fleet) spec p call limit next, f.rules = rulesOf c parts →
    (Fleet.create spec p).advance f = (f', .waiting call limit next) →
    ∃ request, call = .launch request ∧ limit = none ∧
      Fleet.Underway (rulesOf c parts) f f' spec p request next
  /-- So it is with a launch of which a record is kept. -/
  startKernel : ∀ (r r' : Registry S) spec p call limit next, r.fleet.rules = rulesOf c parts →
    (Registry.startKernel spec p).advance r = (r', .waiting call limit next) →
    ∃ request, call = .launch request ∧ limit = none ∧
      Registry.Underway (rulesOf c parts) r r' spec p request next
  process : ∀ spec p request command m, (rulesOf c parts).Grants spec p request →
    request.command = .ok command → (rulesOf c parts).Shows spec p request m command

/-- A gateway that has been put together can do what it does in any order, any of it at the same
time, with any answers, and whoever waits can be given up: each launch is for one user. -/
theorem identity_of_runs (hprepare : prepare c parts control = (control', .ok g))
    (hruns : Pool.Runs (fun _ _ => Does) (.quiet g) log q) : OneIdentity c parts log q := by
  obtain ⟨-, -, -, hbacked⟩ := prepare_eq_ok hprepare
  have hless : ∀ {held others : Multiset String} {g : Gateway S},
      Backed (rulesOf c parts) (held + others) g → Backed (rulesOf c parts) others g :=
    fun hg => Fleet.Backed.less hg
  have hquiet : Pool.Secure (Backed (rulesOf c parts)) (rulesOf c parts).Permits
      (Pool.quiet (α := Unit) g) := Pool.Secure.quiet hbacked
  obtain ⟨hsecure, hlog⟩ := Pool.secure_of_runs hless guards_of_does hquiet hruns
  constructor
  -- What was asked is in the log, and what is being asked waits.
  · rintro request (⟨fate, hmem⟩ | ⟨w, hmem, hcall⟩)
    · exact hlog _ hmem request rfl
    · exact hsecure.kind w hmem request hcall
  · exact (Pool.Secure.state hless hsecure).rules
  · intro f f' spec p call limit next hrules hadvance
    rw [← hrules]
    exact Fleet.underway_of_advance hadvance
  · intro r r' spec p call limit next hrules hadvance
    rw [← hrules]
    exact Registry.underway_of_advance hadvance
  · intro spec p request command m hgrants hcommand
    exact hgrants.shows hcommand m

/-- A gateway that has just been put together. -/
def dawn : Gateway MemoryStore :=
  (prepare Config.standard quietParts .initial).2.toOption.get (by decide +kernel)

theorem prepare_dawn :
    ∃ control, prepare Config.standard quietParts .initial = (control, .ok dawn) :=
  ⟨_, Prod.ext rfl (eq_ok_get _)⟩

def aliceWish : Request :=
  ⟨"POST", "/api/kernels", some "application/json",
    "\x7b\"env\":\x7b\"KERNEL_USERNAME\":\"alice\"\x7d\x7d".toUTF8.toList⟩

/-- The gateway has been started and serves, and a client has asked for a kernel. -/
def noon : Pool (Gateway MemoryStore) Unit :=
  (((Pool.quiet dawn).enter (bring.bind fun _ => .done ())).enter
    ((beginServing (.ok ())).bind fun _ => .done ())).enter
    ((Gateway.answer aliceWish).bind fun _ => .done ())

/-- A client asks for a kernel in the name of alice, and the launch is hers throughout. -/
theorem identity_of_noon :
    Pool.Runs (fun _ _ => Does) (.quiet dawn) (noon.record 0 success) (noon.settle 0 success) ∧
      (∃ e ∈ noon.record 0 success, e.1.kind = .launch ∧ e.1.handle.user = "alice") ∧
      OneIdentity Config.standard quietParts (noon.record 0 success) (noon.settle 0 success) := by
  obtain ⟨_, hprepare⟩ := prepare_dawn
  have hruns : Pool.Runs (fun _ _ => Does) (.quiet dawn) (noon.record 0 success)
      (noon.settle 0 success) :=
    (((Pool.Runs.refl.begins .start).begins (.serve _)).begins
      (.asked (.request aliceWish))).answer 0 (.ok ())
  exact ⟨hruns, by decide +kernel, identity_of_runs hprepare hruns⟩

/-! ## What a client can make of it

A variable may have a sign of equality in its name. Its line then begins with the name of another
variable, which a shell takes it for. -/

/-- A kernel that ends with one status where the shell takes its user for `alice`, and with another
where it does not. -/
def inquiry : KernelSpec where
  name := "inquiry"
  displayName := "Inquiry"
  language := "sh"
  argv := ["sh", "-c", "test \"$KERNEL_USERNAME\" = alice && exit 3; exit 4"]
  env := ∅

/-- A client that says that it is `alice`, and has something else to say. -/
def pretence : LaunchParams :=
  ⟨Dict.ofList [(userVariable, "alice"), (userVariable ++ "=mallory", "")]⟩

/-- What the launcher is asked for it. -/
def pretended : LaunchRequest :=
  (dawn.registry.fleet.admitLaunch inquiry pretence).2.toOption.get (by decide +kernel)

def pretendedCommand : ProcessCommand := pretended.command.toOption.get (by decide +kernel)

/-- A host with a shell. -/
def host : Machine := ⟨Machine.lay ⟨[], []⟩ "/bin" "sh" [], Machine.usualVariables, 0, []⟩

/-- A kernel is started for `alice`, and its process takes its user for `mallory=`. -/
theorem shell_misled_of_pretence :
    (∃ control, prepare Config.standard quietParts .initial = (control, .ok dawn)) ∧
      (∃ r next, (Registry.startKernel inquiry pretence).advance dawn.registry =
        (r, .waiting (.launch pretended) none next)) ∧
      pretended.handle.user = "alice" ∧
      pretended.command = .ok pretendedCommand ∧
      (Variables.ofDict (host.settings pretendedCommand)).shell.get? userVariable =
        some "mallory=" ∧
      ((LocalLauncher.new host).launch pretended).1.host.processes =
        [some (1, .code 4)] := by
  have hadmit : dawn.registry.fleet.admitLaunch inquiry pretence = (_, .ok pretended) :=
    Prod.ext rfl (eq_ok_get _)
  refine ⟨prepare_dawn, ?_, by decide +kernel, eq_ok_get _, by decide +kernel, by decide +kernel⟩
  rw [Registry.advance_startKernel, hadmit]
  exact ⟨_, _, rfl⟩

end Gateway

end KernelGate
