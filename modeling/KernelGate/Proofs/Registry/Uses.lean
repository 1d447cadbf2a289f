import KernelGate.Proofs.Fleet.Uses
import KernelGate.Proofs.Registry.Steady

/-!
# A diary of a registry

Operations one at a time, with a diary of all uses of kernels that they come to: launches, kernels
that are taken over, and kernels that clients ask for. Whatever the operations of a fleet keep while
their calls wait, those of a registry keep as well, since they change nothing else of the fleet.

Main statements: `Operation.keeps` (what a registry keeps), `exists_lived_of_ran` (a diary can be
kept of every run), `dated_of_lived` (each kernel was last in use when the diary says so).
-/

namespace KernelGate

namespace Registry

open Activity

variable {S ω : Type} {drift : Fleet → ω → Fleet → Prop} {Inv : List (Wait ω) → Fleet → Prop}
  {old : String → Option Nat} {uses : List Use}

/-- The fleet changes, and nothing else. -/
def Along (drift : Fleet → ω → Fleet → Prop) (r : Registry S) (w : ω) (r' : Registry S) : Prop :=
  ∃ g, drift r.fleet w g ∧ r' = { r with fleet := g }

/-! ## What a registry keeps

An invariant of the fleet is kept by an operation of the registry if the operation keeps it on the
fleet, since all else is done to records. A recovery and a pass of the culler also count; the
invariant has to bear with that. -/

/-- An operation on the fleet alone changes nothing else. -/
theorem unfolds_onFleet {α : Type} {a : Activity Fleet α} {r r' : Registry S}
    {waits : List (Wait ω)} {x : α} (h : (onFleet a).Unfolds (Along drift) r waits r' x) :
    ∃ g, a.Unfolds drift r.fleet waits g x ∧ r' = { r with fleet := g } := by
  unfold onFleet at h
  refine Unfolds.of_zoom ?_ ?_ ?_ ?_ h
  · intro r f
    rfl
  · intro r f g
    rfl
  · intro r
    rfl
  · intro r w r' hdrift
    exact hdrift

theorem keeps_onFleet {α : Type} {a : Activity Fleet α} (h : a.Keeps drift Inv) :
    (onFleet (S := S) a).Keeps (Along drift) fun waits r => Inv waits r.fleet := by
  intro before waits r r' x hr hends
  obtain ⟨g, hg, rfl⟩ := unfolds_onFleet hends
  exact h _ _ _ _ _ hr hg

variable [SessionStore S]

/-- A record that is kept is no matter of the fleet. -/
theorem keeps_startKernel {spec : KernelSpec} {p : LaunchParams}
    (h : (Fleet.create spec p).Keeps drift Inv) :
    (startKernel (S := S) spec p).Keeps (Along drift) fun waits r => Inv waits r.fleet := by
  refine (keeps_onFleet h).bind fun created => ?_
  cases created with
  | error e => exact keeps_done _
  | ok kernel =>
    refine Keeps.bind ?_ fun record => keeps_done _
    exact keeps_atOnce fun hr => hr

/-- Nor are records that are forgotten. -/
theorem keeps_shutdownKernel {id : String} (h : (Fleet.shutdown id).Keeps drift Inv) :
    (shutdownKernel (S := S) id).Keeps (Along drift) fun waits r => Inv waits r.fleet := by
  refine (keeps_onFleet h).bind fun ended => ?_
  cases ended with
  | error e => exact keeps_done _
  | ok kernel =>
    refine keeps_step (fun {waits r} hr => ?_) fun _ => keeps_done _
    rwa [fleet_forget]

/-- The launcher is asked to end the kernel, whatever happens meanwhile. -/
theorem wait_of_shutdownKernel {id : String} {k : Tracked} {r r' : Registry S}
    {waits : List (Wait ω)} {x : Result Unit}
    (hget : r.fleet.kernels.get? id = some k)
    (h : (shutdownKernel id).Unfolds (Along drift) r waits r' x) :
    ∃ m, waits = [⟨.terminate k.handle, m, some x⟩] := by
  obtain ⟨r₁, ended, _, _, h₁, h₂, rfl⟩ := unfolds_bind_iff.1 h
  obtain ⟨g, hg, rfl⟩ := unfolds_onFleet h₁
  obtain ⟨m, answer, rfl, rfl⟩ := Fleet.wait_of_shutdown hget hg
  cases answer with
  | error e =>
    obtain ⟨rfl, rfl, rfl⟩ := unfolds_done_iff.1 h₂
    exact ⟨m, rfl⟩
  | ok _ =>
    have h₃ := unfolds_step_iff.1 h₂
    obtain ⟨rfl, rfl, rfl⟩ := unfolds_done_iff.1 h₃
    exact ⟨m, rfl⟩

/-- What is kept by each shutdown is kept by all of them in sequence. -/
theorem keeps_shutdownEach {ids : List String}
    (h : ∀ id ∈ ids, (Fleet.shutdown id).Keeps drift Inv) :
    (shutdownEach (S := S) ids).Keeps (Along drift) fun waits r => Inv waits r.fleet := by
  induction ids with
  | nil => exact keeps_done _
  | cons id rest ih =>
    obtain ⟨hfirst, hothers⟩ := List.forall_mem_cons.1 h
    exact (keeps_shutdownKernel hfirst).bind fun _ => (ih hothers).bind fun _ => keeps_done _

/-- Figures have no part in it. -/
theorem keeps_recoverEach (hcount : ∀ {waits f} metrics, Inv waits f → Inv waits { f with metrics })
    {limit : Nat} (h : ∀ kernel, (Fleet.reattach (some limit) kernel).Keeps drift Inv)
    (records : List SessionRecord) :
    (recoverEach (S := S) limit records).Keeps (Along drift) fun waits r => Inv waits r.fleet := by
  induction records with
  | nil => exact keeps_done _
  | cons record rest ih =>
    refine (keeps_onFleet (h record.kernel)).bind fun outcome => ?_
    cases outcome with
    | ok _ => exact keeps_step (hcount _) fun _ => ih.bind fun _ => keeps_done _
    | error e => exact keeps_step (hcount _) fun _ => ih.bind fun _ => keeps_done _

theorem keeps_cull (hcount : ∀ {waits f} metrics, Inv waits f → Inv waits { f with metrics })
    {ids : List String} (h : ∀ id ∈ ids, (Fleet.shutdown id).Keeps drift Inv) :
    (cull (S := S) ids).Keeps (Along drift) fun waits r => Inv waits r.fleet := by
  refine (keeps_shutdownEach h).bind fun stopped => ?_
  refine keeps_step (fun {waits r} hr => ?_) fun _ => keeps_done _
  split
  · exact hr
  · exact hcount _ hr

/-- The launch that an operation comes to. -/
def Operation.launch? : Operation → Option (KernelSpec × LaunchParams)
  | .create spec p | .startKernel spec p => some (spec, p)
  | _ => none

/-- What launches, takeovers and shutdowns of a fleet keep is kept by what is asked of a registry,
but for what comes of it that a kernel is in use. -/
theorem Operation.keeps {op : Operation}
    (hcount : ∀ {waits f} metrics, Inv waits f → Inv waits { f with metrics })
    (hcreate : ∀ spec p, op.launch? = some (spec, p) → (Fleet.create spec p).Keeps drift Inv)
    (hreattach : ∀ limit kernel, (Fleet.reattach limit kernel).Keeps drift Inv)
    (hshutdown : ∀ id, (Fleet.shutdown id).Keeps drift Inv) (hop : ∀ id, op ≠ .touch id) :
    (op.activity (S := S)).Keeps (Along drift) fun waits r => Inv waits r.fleet := by
  have hall (ids : List String) (id : String) (_ : id ∈ ids) :
      (Fleet.shutdown id).Keeps drift Inv := hshutdown id
  cases op with
  | touch id => exact absurd rfl (hop id)
  | create spec p => exact keeps_onFleet ((hcreate spec p rfl).bind fun _ => keeps_done _)
  | reattach limit kernel => exact keeps_onFleet (hreattach limit kernel)
  | shutdown id => exact keeps_onFleet ((hshutdown id).bind fun _ => keeps_done _)
  | startKernel spec p =>
    exact (keeps_startKernel (hcreate spec p rfl)).bind fun _ => keeps_done _
  | shutdownKernel id => exact keeps_shutdownKernel (hshutdown id)
  | startSessions =>
    refine Keeps.bind (keeps_look_bind fun r => ?_) fun _ => keeps_done _
    refine Keeps.bind (keeps_atOnce fun hr => hr) fun found => ?_
    exact keeps_recoverEach hcount (hreattach _) found
  | shutdownAll | shutdownStarted =>
    refine Keeps.bind (keeps_look_bind fun r => ?_) fun _ => keeps_done _
    exact (keeps_shutdownEach (hall _)).bind fun _ => keeps_done _
  | cull ids => exact (keeps_cull hcount (hall _)).bind fun _ => keeps_done _
  | cullIdle millis =>
    refine Keeps.bind (keeps_look_bind fun r => ?_) fun _ => keeps_done _
    exact keeps_cull hcount (hall _)

/-! ## Keeping a diary

A diary adds to a run what happened when. Every run can have one, as each of its calls was answered
at some time. -/

/-- What is known to be in use as an operation begins: the kernel that is asked for. -/
def Operation.touches (f : Fleet) : Operation → List Use
  | .touch id => f.touches id
  | _ => []

/-- What a registry comes to by these operations, the last one first, with the uses that they come
to, the first one first, and with what the launcher was asked and answered. -/
inductive Lived (start : Registry S) : List Operation → List Use → Calls → Registry S → Prop where
  | start : Lived start [] [] [] start
  | passes {ops : List Operation} {uses : List Use} {log : Calls} {r : Registry S} (millis : Nat) :
      Lived start ops uses log r → Lived start ops uses log (r.later millis)
  | does {ops : List Operation} {uses : List Use} {log : Calls} {r r' : Registry S}
      {op : Operation} {waits : List (Wait Meanwhile)} {x : Result Unit} :
      Lived start ops uses log r → op.Recorded →
      op.activity.Unfolds (Along Fleet.Timed) r waits r' x →
      Lived start (op :: ops) (uses ++ op.touches r.fleet ++ waits.flatMap Wait.uses)
        (log ++ waits.map Wait.answered) r'
  | inTurn {ops : List Operation} {uses : List Use} {log : Calls} {r r' : Registry S}
      {ids : List String} {waits : List (Wait Meanwhile)} {x : Nat} :
      Lived start ops uses log r → (shutdownEach ids).Unfolds (Along Fleet.Timed) r waits r' x →
      Lived start ops (uses ++ waits.flatMap Wait.uses) (log ++ waits.map Wait.answered) r'

variable {start r r' : Registry S} {ops : List Operation} {log : Calls}

omit [SessionStore S] in
theorem passes_of_timed (r : Registry S) (m : Meanwhile) (r' : Registry S)
    (h : r.Along Fleet.Timed m r') : Passes r r' := by
  obtain ⟨g, ⟨millis, rfl, -⟩, rfl⟩ := h
  exact ⟨millis, rfl⟩

omit [SessionStore S] in
theorem exists_timed_of_passes (r r' : Registry S) (h : Passes r r') :
    ∃ m, r.Along Fleet.Timed m r' := by
  obtain ⟨millis, rfl⟩ := h
  exact ⟨_, _, ⟨millis, rfl, rfl⟩, rfl⟩

theorem Lived.ran (h : Lived start ops uses log r) : Ran start ops log r := by
  induction h with
  | start => exact .start
  | passes millis _ ih => exact .passes millis ih
  | does _ hop hends ih => exact ih.does hop (hends.ends passes_of_timed)
  | inTurn _ hends ih => exact ih.inTurn (hends.ends passes_of_timed)

/-- Every run can be told with the times that its calls have taken. -/
theorem exists_lived_of_ran (h : Ran start ops log r) : ∃ uses, Lived start ops uses log r := by
  induction h with
  | start => exact ⟨[], .start⟩
  | passes millis _ ih =>
    obtain ⟨uses, hlived⟩ := ih
    exact ⟨uses, hlived.passes millis⟩
  | does _ hop hends ih =>
    obtain ⟨uses, hlived⟩ := ih
    obtain ⟨waits, hunfolds, rfl⟩ := exists_unfolds_of_ends exists_timed_of_passes hends
    exact ⟨_, hlived.does hop hunfolds⟩
  | inTurn _ hends ih =>
    obtain ⟨uses, hlived⟩ := ih
    obtain ⟨waits, hunfolds, rfl⟩ := exists_unfolds_of_ends exists_timed_of_passes hends
    exact ⟨_, hlived.inTurn hunfolds⟩

/-! ## The diary and the registry

That the fleet remembers what the diary says is kept by every operation, and goes on from one to the
next with the diary growing behind. -/

omit [SessionStore S] in
theorem stirred_of_timed (r : Registry S) (m : Meanwhile) (r' : Registry S)
    (h : r.Along Fleet.Timed m r') : r.Along Fleet.Stirred m r' := by
  obtain ⟨g, hg, rfl⟩ := h
  exact ⟨g, Fleet.stirred_of_timed hg, rfl⟩

/-- An operation keeps the diary in step, if kernels are entered as they come into use. -/
theorem dated_of_unfolds {op : Operation} {waits : List (Wait Meanwhile)} {x : Result Unit}
    (hr : r.fleet.Dated old uses) (h : op.activity.Unfolds (Along Fleet.Stirred) r waits r' x) :
    r'.fleet.Dated old (uses ++ op.touches r.fleet ++ waits.flatMap Wait.uses) := by
  by_cases htouch : ∃ id, op = .touch id
  · obtain ⟨id, rfl⟩ := htouch
    have h₁ : (done (.ok ()) : Activity (Registry S) (Result Unit)).Unfolds (Along Fleet.Stirred)
        { r with fleet := r.fleet.touch id } waits r' x := unfolds_step_iff.1 h
    obtain ⟨rfl, rfl, -⟩ := unfolds_done_iff.1 h₁
    rw [List.flatMap_nil, List.append_nil]
    exact hr.touch id
  · have hop : ∀ id, op ≠ .touch id := fun id heq => htouch ⟨id, heq⟩
    have huses : op.touches r.fleet = [] := by
      cases op with
      | touch id => exact absurd rfl (hop id)
      | _ => rfl
    rw [huses, List.append_nil]
    have hkeeps : (op.activity (S := S)).Keeps (Along Fleet.Stirred)
        fun waits r => Fleet.DatedBy old uses waits r.fleet :=
      Operation.keeps (fun _ hf => hf.congr rfl) (fun spec p _ => Fleet.keeps_create spec p)
        Fleet.keeps_reattach Fleet.keeps_shutdown hop
    exact hkeeps [] _ _ _ _ hr.without_waits h

/-- While kernels are ended one after another clients may ask for others. -/
theorem dated_of_shutdownEach {ids : List String} {waits : List (Wait Meanwhile)} {x : Nat}
    (hr : r.fleet.Dated old uses)
    (h : (shutdownEach ids).Unfolds (Along Fleet.Stirred) r waits r' x) :
    r'.fleet.Dated old (uses ++ waits.flatMap Wait.uses) := by
  have hkeeps : (shutdownEach (S := S) ids).Keeps (Along Fleet.Stirred)
      fun waits r => Fleet.DatedBy old uses waits r.fleet :=
    keeps_shutdownEach fun id _ => Fleet.keeps_shutdown id
  exact hkeeps [] _ _ _ _ hr.without_waits h

theorem now_le_of_shutdownEach {ids : List String} {waits : List (Wait Meanwhile)} {x : Nat}
    (h : (shutdownEach ids).Unfolds (Along Fleet.Stirred) r waits r' x) :
    r.fleet.now ≤ r'.fleet.now := by
  have hkeeps : (shutdownEach (S := S) ids).Keeps (Along Fleet.Stirred)
      fun _ r' => r.fleet.now ≤ r'.fleet.now :=
    keeps_shutdownEach fun id _ => Fleet.keeps_now_le _ id
  exact hkeeps [] _ _ _ _ (Nat.le_refl _) h

/-- After any operations one at a time, what the fleet remembers of each kernel is its last use. -/
theorem dated_of_lived {rules : FleetRules} {userLimit : Int} {supply : Supply} {store : S}
    {recoveryLimit : Nat}
    (h : Lived (new (.empty rules userLimit supply) store recoveryLimit) ops uses log r) :
    r.fleet.Dated (fun _ => none) uses := by
  induction h with
  | start => exact Fleet.dated_empty rules userLimit supply
  | passes millis _ ih => exact ih.congr rfl
  | does _ _ hends ih => exact dated_of_unfolds ih (hends.mono stirred_of_timed)
  | inTurn _ hends ih => exact dated_of_shutdownEach ih (hends.mono stirred_of_timed)

/-- The kernels that have been idle for a time are those that were last in use before that. -/
theorem mem_idle_of_lived {rules : FleetRules} {userLimit : Int} {supply : Supply} {store : S}
    {recoveryLimit : Nat} {id : String} {millis : Nat}
    (h : Lived (new (.empty rules userLimit supply) store recoveryLimit) ops uses log r) :
    id ∈ r.fleet.idle millis ↔ r.fleet.kernels.contains id = true ∧
      ∃ time, lastUse uses id = some time ∧ millis ≤ r.fleet.now - time := by
  have hdated := dated_of_lived h
  rw [Fleet.mem_idle, Dict.contains_iff]
  constructor
  · rintro ⟨k, hget, hidle⟩
    have hlast := hdated.last id k hget
    rw [Option.or_none] at hlast
    exact ⟨⟨k, hget⟩, k.lastActivity, hlast, hidle⟩
  · rintro ⟨⟨k, hget⟩, time, huse, hidle⟩
    have hlast := hdated.last id k hget
    rw [Option.or_none, huse] at hlast
    cases hlast
    exact ⟨k, hget, hidle⟩

end Registry

end KernelGate
