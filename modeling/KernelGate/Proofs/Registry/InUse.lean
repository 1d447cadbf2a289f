import KernelGate.Proofs.Registry.Restart
import KernelGate.Proofs.Registry.Uses

/-!
# Kernels that come into use during a pass

A pass of the culler looks once which kernels are idle, and then ends them one after another. Until
the turn of a kernel comes clients may ask for it. That it is in use again is seen by the fleet, but
not by the pass, which goes by what it has seen at its start.

Main statements: `ComesTo` is a pass on its way, `idle_when_begun_iff` says that a kernel whose turn
has come is still idle just if nobody has asked for it lately, and `ended_in_use` that it need not
be.
-/

namespace KernelGate

open Activity

namespace Registry

variable {S : Type} [SessionStore S] {r r₁ r' : Registry S} {ids : List String}
  {before waits : List (Wait Meanwhile)} {id : String} {millis : Nat}

/-- What clients have asked for during these waits. -/
def touched (waits : List (Wait Meanwhile)) : List Use := waits.flatMap (·.meanwhile.touches)

/-- A pass over these kernels comes, after these waits, to the turn of one of them. -/
inductive ComesTo (id : String) (r₁ : Registry S) :
    List String → Registry S → List (Wait Meanwhile) → Prop where
  | now {rest : List String} : ComesTo id r₁ (id :: rest) r₁ []
  | after {other : String} {rest : List String} {r r₂ : Registry S}
      {turn waits : List (Wait Meanwhile)} {x : Result Unit} :
      (shutdownKernel other).Unfolds (Along Fleet.Stirred) r turn r₂ x →
      ComesTo id r₁ rest r₂ waits → ComesTo id r₁ (other :: rest) r (turn ++ waits)

namespace ComesTo

theorem mem (h : ComesTo id r₁ ids r waits) : id ∈ ids := by
  induction h with
  | now => exact List.mem_cons_self
  | after _ _ ih => exact List.mem_cons_of_mem _ ih

/-- What the turns of all other kernels keep is kept until the turn comes. -/
theorem keeps {Inv : List (Wait Meanwhile) → Fleet → Prop} (h : ComesTo id r₁ ids r waits)
    (hids : ids.Nodup)
    (hkeeps : ∀ other, id ≠ other → (Fleet.shutdown other).Keeps Fleet.Stirred Inv)
    (before : List (Wait Meanwhile)) (hr : Inv before r.fleet) :
    Inv (before ++ waits) r₁.fleet := by
  induction h generalizing before with
  | now => rwa [List.append_nil]
  | @after other rest r r₂ turn waits x hturn hrest ih =>
    obtain ⟨hother, hnodup⟩ := List.nodup_cons.1 hids
    have hne : id ≠ other := by
      rintro rfl
      exact hother hrest.mem
    rw [← List.append_assoc]
    exact ih hnodup _ (keeps_shutdownKernel (hkeeps other hne) _ _ _ _ _ hr hturn)

/-- A pass takes time, if anything. -/
theorem now_le (h : ComesTo id r₁ ids r waits) (hids : ids.Nodup) :
    r.fleet.now ≤ r₁.fleet.now :=
  h.keeps hids (fun _ _ => Fleet.keeps_now_le r.fleet.now _) [] (Nat.le_refl _)

/-- Until its turn comes a kernel stays tracked, since no two turns are of one kernel. -/
theorem contains (h : ComesTo id r₁ ids r waits) (hids : ids.Nodup)
    (hthere : r.fleet.kernels.contains id = true) : r₁.fleet.kernels.contains id = true :=
  h.keeps hids (fun _ => Fleet.keeps_contains) [] hthere

/-- Shutdowns are no uses of kernels, so that all uses during a pass are the clients'. -/
theorem uses_eq (h : ComesTo id r₁ ids r waits) (hids : ids.Nodup) :
    waits.flatMap Wait.uses = touched waits :=
  h.keeps hids (fun _ _ => Fleet.keeps_uses_eq _) [] rfl

/-- What the fleet remembers of the kernel is when it was last asked for, or if it was not, what was
remembered when the pass began. -/
theorem lastActivity_eq (h : ComesTo id r₁ ids r waits) (hids : ids.Nodup) (hr : r.fleet.Keyed)
    {k₀ k : Tracked} (hbefore : r.fleet.kernels.get? id = some k₀)
    (hget : r₁.fleet.kernels.get? id = some k) :
    k.lastActivity = (lastUse (touched waits) id).getD k₀.lastActivity := by
  have hdated : Fleet.DatedBy _ [] waits r₁.fleet :=
    h.keeps hids (fun _ _ => Fleet.keeps_shutdown _) [] hr.dated.without_waits
  have hlast := hdated.last id k hget
  rw [List.nil_append, h.uses_eq hids, hbefore, Option.map_some] at hlast
  cases huse : lastUse (touched waits) id with
  | none =>
    rw [huse] at hlast
    exact (Option.some.inj hlast).symm
  | some time =>
    rw [huse] at hlast
    exact (Option.some.inj hlast).symm

end ComesTo

/-- A kernel whose turn has come was idle when the pass began, and is asked to end whether or not it
is idle still. That it is depends on when it was last asked for since. -/
theorem idle_when_begun_iff (hr : r.fleet.Keyed) (hids : ids.Perm (r.fleet.idle millis))
    (h : ComesTo id r₁ ids r waits) :
    ∃ k₀ k, r.fleet.kernels.get? id = some k₀ ∧ millis ≤ r.fleet.now - k₀.lastActivity ∧
      r₁.fleet.kernels.get? id = some k ∧
      k.lastActivity = (lastUse (touched waits) id).getD k₀.lastActivity ∧
      (millis ≤ r₁.fleet.now - k.lastActivity ↔
        ∀ time, lastUse (touched waits) id = some time → millis ≤ r₁.fleet.now - time) ∧
      ∀ turn r₂ x, (shutdownKernel id).Unfolds (Along Fleet.Stirred) r₁ turn r₂ x →
        ∃ m, turn = [⟨.terminate k.handle, m, some x⟩] := by
  obtain ⟨k₀, hget₀, hidle⟩ := Fleet.mem_idle.1 (hids.mem_iff.1 h.mem)
  have hnodup : ids.Nodup := hids.nodup_iff.2 (r.fleet.nodup_idle millis)
  obtain ⟨k, hget⟩ : ∃ k, r₁.fleet.kernels.get? id = some k :=
    Dict.contains_iff.1 (h.contains hnodup (Dict.contains_iff.2 ⟨k₀, hget₀⟩))
  have hlast := h.lastActivity_eq hnodup hr hget₀ hget
  refine ⟨k₀, k, hget₀, hidle, hget, hlast, ?_,
    fun _ _ _ hturn => wait_of_shutdownKernel hget hturn⟩
  rw [hlast]
  cases lastUse (touched waits) id with
  | none =>
    -- Nobody has asked for it, and it has been idle for even longer.
    have hnow := h.now_le hnodup
    refine ⟨fun _ => nofun, fun _ => ?_⟩
    show millis ≤ r₁.fleet.now - k₀.lastActivity
    omega
  | some time =>
    constructor
    · intro hstill time' htime
      cases htime
      exact hstill
    · intro hall
      exact hall time rfl

/-! ## A client that comes in between

Three kernels are idle. While the first is being ended a client asks for the second, and when its
turn comes it is ended all the same. -/

/-- A client asks for the kernel b half a second after a call has begun, and the call takes this
much longer. -/
def askedFor (wait : Nat) (r : Registry MemoryStore) : Meanwhile × Registry MemoryStore :=
  let f := (r.fleet.later 500).touch "b"
  (⟨(r.fleet.later 500).touches "b", f.now + wait⟩, { r with fleet := f.later wait })

/-- Of three idle kernels the first one is ended meanwhile. -/
def overtaken (wait : Nat) : List (Wait Meanwhile) × Registry MemoryStore × Result Unit :=
  (shutdownKernel "a").stirred (askedFor wait) (.ok ()) (staffed.later 2000)

theorem comesTo_overtaken (wait : Nat) :
    ComesTo "b" (overtaken wait).2.1 ["a", "b", "k"] (staffed.later 2000) (overtaken wait).1 := by
  have hturn : (shutdownKernel "a").Unfolds (Along Fleet.Stirred) (staffed.later 2000)
      (overtaken wait).1 (overtaken wait).2.1 (overtaken wait).2.2 := by
    apply unfolds_stirred
    intro r
    exact ⟨_, ⟨.passes wait (.touched "b" (.passes 500 .still)), rfl⟩, rfl⟩
  have hcomes : ComesTo "b" (overtaken wait).2.1 ["a", "b", "k"] (staffed.later 2000)
      ((overtaken wait).1 ++ []) := .after hturn .now
  rwa [List.append_nil] at hcomes

theorem keyed_staffed : (staffed.later 2000).fleet.Keyed := by
  intro id k hget
  have hall : ∀ e ∈ (staffed.later 2000).fleet.kernels.toList, e.2.handle.id = e.1 := by
    decide +kernel
  exact hall _ (Dict.mem_toList.2 hget)

theorem idle_staffed : (staffed.later 2000).fleet.idle 1000 = ["a", "b", "k"] := by decide +kernel

/-- The kernel was asked for, but so long ago that it is idle again. -/
theorem idle_when_begun_overtaken :
    ComesTo "b" (overtaken 1500).2.1 ["a", "b", "k"] (staffed.later 2000) (overtaken 1500).1 ∧
      lastUse (touched (overtaken 1500).1) "b" = some 2500 ∧
      ∃ k, (overtaken 1500).2.1.fleet.kernels.get? "b" = some k ∧
        1000 ≤ (overtaken 1500).2.1.fleet.now - k.lastActivity := by
  have hcomes := comesTo_overtaken 1500
  have huse : lastUse (touched (overtaken 1500).1) "b" = some 2500 := by decide +kernel
  obtain ⟨k₀, k, -, -, hget, -, hiff, -⟩ :=
    idle_when_begun_iff keyed_staffed (by rw [idle_staffed]) hcomes
  refine ⟨hcomes, huse, k, hget, hiff.2 ?_⟩
  rw [huse]
  rintro time ⟨⟩
  decide +kernel

/-- A kernel can be ended although a client has asked for it just now. -/
theorem ended_in_use :
    ¬ ∀ (r r₁ : Registry MemoryStore) (millis : Nat) (ids : List String)
        (waits : List (Wait Meanwhile)) (id : String) (k : Tracked), r.fleet.Keyed →
      ids.Perm (r.fleet.idle millis) → ComesTo id r₁ ids r waits →
      r₁.fleet.kernels.get? id = some k → millis ≤ r₁.fleet.now - k.lastActivity := by
  intro h
  have hget : (overtaken 0).2.1.fleet.kernels.get? "b" =
      some ⟨⟨"b", "python3", "alice", "localhost", []⟩, 2500⟩ := by decide +kernel
  have hidle := h _ _ 1000 _ _ _ _ keyed_staffed (by rw [idle_staffed]) (comesTo_overtaken 0) hget
  revert hidle
  decide +kernel

end Registry

end KernelGate
