import KernelGate.Lifecycle.Startup
import KernelGate.Proofs.Registry.Alone

/-!
# Kernels that wait for clients

At its start a gateway launches a number of kernels one after another, up to the first launch that
is refused or fails. Each launch counts against the limits that the next one is held to, so that
there was room for all of them at once; what was there before stays as it was.

Main statements: `Spawned.cons` puts one launch before others, `prespawn_of_ends` says how far they
come, and `Prespawned.ok_iff` when all of them succeed.
-/

namespace KernelGate

open Activity

namespace Fleet

variable {f g : Fleet}

/-- A user may have some kernels more, and the gateway too. -/
structure HasRoom (f : Fleet) (user : String) (n : Nat) : Prop where
  policy : f.rules.policy.admits user = true
  gateway : ∀ max, f.rules.maxKernels? = some max → f.kernels.size + n ≤ max
  user : f.ledger.limit < 0 ∨ (f.ledger.active user + n : Int) ≤ f.ledger.limit

/-- Room for one kernel more is what a launch asks for. -/
theorem roomy_iff {p : LaunchParams} : f.Roomy p ↔ f.HasRoom (f.userOf p) 1 := by
  have hgateway : f.isFull = false ↔
      ∀ max, f.rules.maxKernels? = some max → f.kernels.size + 1 ≤ max := by
    unfold isFull
    cases f.rules.maxKernels? with
    | none => simp
    | some max =>
      simp only [decide_eq_false_iff_not, Option.some.injEq, forall_eq']
      omega
  have huser : f.ledger.isFull (f.userOf p) = false ↔ f.ledger.limit < 0 ∨
      (f.ledger.active (f.userOf p) + 1 : Int) ≤ f.ledger.limit := by
    simp only [Ledger.isFull, Bool.and_eq_false_iff, decide_eq_false_iff_not]
    omega
  constructor
  · rintro ⟨hpolicy, hroom, hslot⟩
    exact ⟨hpolicy, hgateway.1 hroom, huser.1 hslot⟩
  · rintro ⟨hpolicy, hroom, hslot⟩
    exact ⟨hpolicy, hgateway.2 hroom, huser.2 hslot⟩

/-- Room for some kernels and then for others is room for all of them. -/
theorem HasRoom.add {user : String} {m n : Nat} (h : g.HasRoom user n) (hrules : g.rules = f.rules)
    (hlimit : g.ledger.limit = f.ledger.limit) (hsize : g.kernels.size = f.kernels.size + m)
    (hactive : g.ledger.active user = f.ledger.active user + m) : f.HasRoom user (m + n) := by
  obtain ⟨hpolicy, hgateway, huser⟩ := h
  rw [hrules] at hpolicy hgateway
  rw [hlimit, hactive] at huser
  refine ⟨hpolicy, fun max hmax => ?_, ?_⟩
  · have hle := hgateway max hmax
    omega
  · omega

/-- Where some kernels are there already, there is room for as many less. -/
theorem HasRoom.rest {user : String} {m n k : Nat} (h : f.HasRoom user k) (hk : m + n ≤ k)
    (hrules : g.rules = f.rules) (hlimit : g.ledger.limit = f.ledger.limit)
    (hsize : g.kernels.size = f.kernels.size + m)
    (hactive : g.ledger.active user = f.ledger.active user + m) : g.HasRoom user n := by
  obtain ⟨hpolicy, hgateway, huser⟩ := h
  refine ⟨?_, fun max hmax => ?_, ?_⟩
  · rw [hrules]
    exact hpolicy
  · rw [hrules] at hmax
    have hle := hgateway max hmax
    omega
  · rw [hlimit, hactive]
    omega

end Fleet

/-- A kernel that was launched to wait for clients, and the session of its record. -/
structure Spawn where
  request : LaunchRequest
  session : String

namespace Spawn

def id (s : Spawn) : String := s.request.handle.id

def record (s : Spawn) : SessionRecord := ⟨s.session, s.request.handle, .silent⟩

/-- The call in which it was launched. -/
def call (s : Spawn) : LauncherCall × Reply := (.launch s.request, some (.ok ()))

end Spawn

namespace Registry

variable {S : Type} {r r₁ r' : Registry S} {d d₁ d' : Dict SessionRecord} {made rest : List Spawn}

/-- What kernels that were launched one after another make of the registry and of the records. -/
structure Spawned (r : Registry S) (d : Dict SessionRecord) (made : List Spawn) (r' : Registry S)
    (d' : Dict SessionRecord) : Prop where
  rules : r'.fleet.rules = r.fleet.rules
  supply : r'.fleet.supply = r.fleet.supply
  limit : r'.fleet.ledger.limit = r.fleet.ledger.limit
  room : made ≠ [] → r.fleet.HasRoom (r.fleet.userOf .silent) made.length
  size : r'.fleet.kernels.size = r.fleet.kernels.size + made.length
  active : r'.fleet.ledger.active (r.fleet.userOf .silent) =
    r.fleet.ledger.active (r.fleet.userOf .silent) + made.length
  old : ∀ id k, r.fleet.kernels.get? id = some k → r'.fleet.kernels.get? id = some k
  apart : ∀ s ∈ made, r.fleet.kernels.get? s.id = none
  distinct : (made.map Spawn.id).Nodup
  tracked : ∀ s ∈ made, r'.fleet.get? s.id = some s.request.handle
  records : ∀ session record, d'.get? session = some record ↔
    d.get? session = some record ∨ ∃ s ∈ made, s.session = session ∧ s.record = record

/-- A launch that comes to nothing leaves all as it was. -/
theorem Spawned.nil (h : r.fleet.SameApart r'.fleet) : Spawned r d [] r' d where
  rules := h.rules
  supply := h.supply
  limit := by rw [h.ledger]
  room := fun hne => absurd rfl hne
  size := by
    rw [h.kernels]
    rfl
  active := by
    rw [h.ledger]
    rfl
  old := by
    intro id k hget
    rw [h.kernels]
    exact hget
  apart := nofun
  distinct := List.nodup_nil
  tracked := nofun
  records := by simp

theorem Spawned.user (h : Spawned r d made r' d') :
    r'.fleet.userOf .silent = r.fleet.userOf .silent := by
  unfold Fleet.userOf
  rw [h.rules]

/-- One launch before others. -/
theorem Spawned.cons {s : Spawn} (hs : Spawned r d [s] r₁ d₁) (h : Spawned r₁ d₁ rest r' d') :
    Spawned r d (s :: rest) r' d' where
  rules := h.rules.trans hs.rules
  supply := h.supply.trans hs.supply
  limit := h.limit.trans hs.limit
  room := by
    intro _
    rw [List.length_cons, Nat.add_comm]
    cases rest with
    | nil => exact hs.room (List.cons_ne_nil _ _)
    | cons s' rest =>
      have hroom := h.room (List.cons_ne_nil _ _)
      rw [hs.user] at hroom
      exact hroom.add hs.rules hs.limit hs.size hs.active
  size := by
    rw [h.size, hs.size]
    simp only [List.length_cons, List.length_nil]
    omega
  active := by
    have hactive := h.active
    rw [hs.user] at hactive
    rw [hactive, hs.active]
    simp only [List.length_cons, List.length_nil]
    omega
  old := fun id k hget => h.old id k (hs.old id k hget)
  apart := by
    refine List.forall_mem_cons.2 ⟨hs.apart s (List.mem_singleton_self s), fun s' hs' => ?_⟩
    refine Option.eq_none_iff_forall_ne_some.2 fun k hget => ?_
    -- A kernel of a later launch was new after this one, so that it was new before.
    exact absurd ((h.apart s' hs').symm.trans (hs.old _ k hget)) nofun
  distinct := by
    refine List.nodup_cons.2 ⟨fun hmem => ?_, h.distinct⟩
    obtain ⟨s', hs', hid⟩ := List.mem_map.1 hmem
    have htracked := hs.tracked s (List.mem_singleton_self s)
    rw [← hid, Fleet.get?, h.apart s' hs'] at htracked
    cases htracked
  tracked := by
    refine List.forall_mem_cons.2 ⟨?_, h.tracked⟩
    obtain ⟨k, hget, hk⟩ := Option.map_eq_some_iff.1 (hs.tracked s (List.mem_singleton_self s))
    rw [Fleet.get?, h.old _ k hget, ← hk]
    rfl
  records := by
    intro session record
    rw [h.records, hs.records]
    simp only [List.mem_cons, List.not_mem_nil, or_false, exists_eq_left, or_and_right, exists_or,
      or_assoc]

/-- A launch that succeeds is the first of those that are made. -/
theorem Spawned.one {request : LaunchRequest} {session : String} (now : Nat)
    (hroomy : r.fleet.Roomy .silent) (huser : request.handle.user = r.fleet.userOf .silent)
    (hnew : r.fleet.kernels.get? request.handle.id = none)
    (hrules : r'.fleet.rules = r.fleet.rules) (hsupply : r'.fleet.supply = r.fleet.supply)
    (hkernels : r'.fleet.kernels =
      r.fleet.kernels.insert request.handle.id ⟨request.handle, now⟩)
    (hledger : r'.fleet.ledger = r.fleet.ledger.restore request.handle.user)
    (hsession : d.get? session = none) :
    Spawned r d [⟨request, session⟩] r'
      (d.insert session ⟨session, request.handle, .silent⟩) where
  rules := hrules
  supply := hsupply
  limit := by
    rw [hledger]
    rfl
  room := fun _ => Fleet.roomy_iff.1 hroomy
  size := by
    rw [← Fleet.tracked_all, ← Fleet.tracked_all,
      Fleet.tracked_of_insert (k := ⟨request.handle, now⟩) hkernels hnew]
    rfl
  active := by
    rw [hledger, huser, Ledger.active_restore, if_pos rfl]
    rfl
  old := by
    intro id k hget
    have hne : id ≠ request.handle.id := by
      rintro rfl
      exact absurd (hnew.symm.trans hget) nofun
    rw [hkernels, Dict.get?_insert_of_ne _ _ hne]
    exact hget
  apart := List.forall_mem_singleton.2 hnew
  distinct := List.nodup_singleton _
  tracked := by
    refine List.forall_mem_singleton.2 ?_
    show (r'.fleet.kernels.get? request.handle.id).map _ = _
    rw [hkernels, Dict.get?_insert_self]
    rfl
  records := by
    intro session' record
    rw [Dict.get?_insert]
    by_cases heq : session' = session
    · rw [if_pos heq, heq, hsession]
      simp [Spawn.record]
    · rw [if_neg heq]
      simp [Ne.symm heq]

end Registry

namespace Gateway

open Registry

variable {S : Type} {r r₁ r' : Registry S} {d d₁ d' : Dict SessionRecord} {made : List Spawn}
  {count : Nat} {tail : Calls} {x : Result Unit}

/-- How far launches one after another came: all of them were made, or one was refused or failed. -/
inductive Prespawned (made : List Spawn) (count : Nat) (r' : Registry S) :
    Calls → Result Unit → Prop where
  | all : made.length = count → Prespawned made count r' [] (.ok ())
  | refused {e : Fault} : made.length < count →
      (r'.fleet.Roomy .silent → ∃ n, ¬ r'.fleet.Supplied n) →
      Prespawned made count r' [] (.error e)
  | failed {request : LaunchRequest} {e : Fault} : made.length < count →
      Prespawned made count r' [(.launch request, some (.error e))] (.error e)

/-- One launch that succeeds before the others leaves one fewer to be made. -/
theorem Prespawned.cons {s : Spawn} (h : Prespawned made count r' tail x) :
    Prespawned (s :: made) (count + 1) r' tail x := by
  cases h with
  | all hlength => exact .all (congrArg (· + 1) hlength)
  | refused hlength hroomy => exact .refused (Nat.succ_lt_succ hlength) hroomy
  | failed hlength => exact .failed (Nat.succ_lt_succ hlength)

/-- A launch that is refused although there is room is refused over its ports, and the fleet is as
it was. -/
theorem not_supplied_of_sameApart {f g : Fleet} (h : f.SameApart g)
    (hf : f.Roomy .silent → ¬ f.Supplied f.reservations) (hg : g.Roomy .silent) :
    ∃ n, ¬ g.Supplied n := by
  obtain ⟨hpolicy, hroom, hslot⟩ := hg
  have huser : g.userOf .silent = f.userOf .silent := by
    unfold Fleet.userOf
    rw [h.rules]
  have hfull : g.isFull = f.isFull := by
    unfold Fleet.isFull
    rw [h.rules, h.kernels]
  rw [h.rules, huser] at hpolicy
  rw [h.ledger, huser] at hslot
  rw [hfull] at hroom
  refine ⟨f.reservations, ?_⟩
  unfold Fleet.Supplied
  rw [h.rules, h.supply]
  exact hf ⟨hpolicy, hroom, hslot⟩

/-- Where ports can be had and no launch fails, as many kernels as are asked for are launched just
if there was room for all of them. -/
theorem Prespawned.ok_iff (h : Prespawned made count r' tail x) (hspawned : Spawned r d made r' d')
    (hcount : 0 < count) (hsupplied : ∀ n, r.fleet.Supplied n)
    (hlaunch : ∀ request e, (.launch request, some (.error e)) ∉ tail) :
    x = .ok () ↔ r.fleet.HasRoom (r.fleet.userOf .silent) count := by
  cases h with
  | all hlength =>
    subst hlength
    exact ⟨fun _ => hspawned.room (List.ne_nil_of_length_pos hcount), fun _ => rfl⟩
  | refused hlength hroomy =>
    refine ⟨nofun, fun hroom => ?_⟩
    have hleft : r'.fleet.HasRoom _ 1 := hroom.rest (Nat.succ_le_of_lt hlength) hspawned.rules
      hspawned.limit hspawned.size hspawned.active
    rw [← hspawned.user] at hleft
    obtain ⟨n, hn⟩ := hroomy (Fleet.roomy_iff.2 hleft)
    refine absurd (hsupplied n) ?_
    unfold Fleet.Supplied at hn ⊢
    rwa [hspawned.rules, hspawned.supply] at hn
  | @failed request e _ => exact absurd (List.mem_singleton_self _) (hlaunch request e)

variable [SessionStore S] {Usable : String → Prop} {Holds : S → Dict SessionRecord → Prop}
  {supply : Supply} {log : History} {calls : Calls}

/-- How far launches one after another come, and what they make of kernels and records. -/
theorem prespawn_of_ends (hs : Reliable Usable Holds) (hfresh : Function.Injective supply.kernelId)
    (hnamed : Function.Injective supply.sessionId)
    (husable : ∀ n, Usable (supply.sessionId n)) {spec : KernelSpec}
    (hr : InStep Holds supply log r [] d) (h : (prespawn spec count).Ends Passes r calls r' x) :
    ∃ made d' tail, calls = made.map Spawn.call ++ tail ∧ Spawned r d made r' d' ∧
      Prespawned made count r' tail x ∧ InStep Holds supply (log ++ historyOf calls) r' [] d' := by
  induction count generalizing r d log calls with
  | zero =>
    obtain ⟨rfl, rfl, rfl⟩ := ends_done_iff.1 h
    refine ⟨[], d, [], rfl, .nil ⟨rfl, rfl, rfl, rfl⟩, .all rfl, ?_⟩
    rw [show historyOf [] = [] from rfl, List.append_nil]
    exact hr
  | succ count ih =>
    obtain ⟨r₁, outcome, first, others, h₁, h₂, rfl⟩ := ends_bind_iff.1 h
    obtain ⟨d₁, hr₁, hlaunches⟩ := launches_of_ends hs hfresh hnamed husable hr h₁
    rw [historyOf_append, ← List.append_assoc]
    cases hlaunches with
    | refused hroomy hsame =>
      obtain ⟨rfl, rfl, rfl⟩ := ends_done_iff.1 h₂
      rw [show historyOf [] = [] from rfl, List.append_nil] at hr₁ ⊢
      rw [List.append_nil, List.append_nil]
      exact ⟨[], d, [], rfl, .nil hsame,
        .refused (Nat.succ_pos _) (not_supplied_of_sameApart hsame hroomy), hr₁⟩
    | @failed _ request e hsame =>
      obtain ⟨rfl, rfl, rfl⟩ := ends_done_iff.1 h₂
      rw [show historyOf [] = [] from rfl, List.append_nil, List.append_nil]
      exact ⟨[], d, [(.launch request, some (.error e))], rfl, .nil hsame,
        .failed (Nat.succ_pos _), hr₁⟩
    | @launched _ request session now hroomy huser hnew hrules hsupply hkernels hledger hsession =>
      obtain ⟨made, d', tail, rfl, hspawned, houtcome, hr'⟩ := ih hr₁ h₂
      have hone := Spawned.one now hroomy huser hnew hrules hsupply hkernels hledger hsession
      exact ⟨⟨request, session⟩ :: made, d', tail, rfl, hone.cons hspawned, houtcome.cons, hr'⟩

end Gateway

end KernelGate
