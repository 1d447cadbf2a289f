import KernelGate.Proofs.Fleet.Visits
import KernelGate.Proofs.Ledger.Users

/-!
# Neighbours

The users of a fleet share one ledger, one table of kernels and one list of hosts. What a user is
answered, and which kernels the user has, comes of the calls about the user's own kernels alone, if
the number of all kernels is not limited and no id is of two users. Only the hosts are dealt out in
turn to all.

Main statements: `exists_fits_iff` (when no id is of two users), `Alike.outcome` (what a call comes
to depends on nothing that is of others), `Alike.made` and `Alike.made_other` (one call),
`alike_takeAll` (any number of calls).
-/

namespace KernelGate

namespace Fleet

/-! ## What is a user's

Which user an id belongs to is for an `owner` of ids to say. Calls fit it if no id turns up for two
users, and some owner does exactly then. -/

/-- The kernels of a user by their ids, their hosts aside. -/
def owned (f : Fleet) (user : String) : Dict KernelHandle :=
  (f.kernels.map (·.handle.anywhere)).filter fun _ h => h.user = user

/-- Carry out calls one after another. -/
def takeAll (f : Fleet) (visits : List Visit) : Fleet :=
  visits.foldl (fun f v => (v.take f).1) f

/-- The answers to the calls of a selection, hosts aside. -/
def heard (mine : Visit → Bool) : Fleet → List Visit → List Answer
  | _, [] => []
  | f, v :: rest =>
    let next := v.take f
    if mine v then next.2.anywhere :: heard mine next.1 rest else heard mine next.1 rest

/-- The user of the kernel that a call may bring. -/
def Visit.user? (rules : FleetRules) (v : Visit) : Option String :=
  match v.operation with
  | .create _ p => some (rules.userOf p)
  | .reattach _ h => some h.user
  | .shutdown _ => none

/-- Ids are of users, and the id of a kernel that the call may bring is of the kernel's user. -/
def Visit.Fits (owner : String → String) (rules : FleetRules) (v : Visit) : Prop :=
  ∀ user ∈ v.user? rules, owner v.id = user

instance (owner : String → String) (rules : FleetRules) (v : Visit) :
    Decidable (v.Fits owner rules) :=
  inferInstanceAs (Decidable (∀ user ∈ v.user? rules, owner v.id = user))

/-- The call is about a kernel of the user. -/
def Visit.isOf (owner : String → String) (user : String) (v : Visit) : Bool := owner v.id = user

/-- Ids can be given to users just if no two users come with the same one. -/
theorem exists_fits_iff {rules : FleetRules} {visits : List Visit} :
    (∃ owner, ∀ v ∈ visits, v.Fits owner rules) ↔
      ∀ v ∈ visits, ∀ w ∈ visits, v.id = w.id →
        ∀ a ∈ v.user? rules, ∀ b ∈ w.user? rules, a = b := by
  constructor
  · rintro ⟨owner, h⟩ v hv w hw hid a ha b hb
    rw [← h v hv a ha, hid, h w hw b hb]
  · intro h
    -- An id is of the first user who comes with it.
    refine ⟨fun id =>
      (visits.findSome? fun v => if v.id = id then v.user? rules else none).getD "", ?_⟩
    intro w hw b hb
    cases hfind : visits.findSome? fun v => if v.id = w.id then v.user? rules else none with
    | none =>
      have hnone := List.findSome?_eq_none_iff.1 hfind w hw
      rw [if_pos rfl, hb] at hnone
      cases hnone
    | some a =>
      obtain ⟨v, hv, ha⟩ := List.exists_of_findSome?_eq_some hfind
      split at ha
      · next hid =>
        show (visits.findSome? _).getD "" = b
        rw [hfind]
        exact h v hv w hw hid a ha b hb
      · cases ha

variable {owner : String → String} {user id : String} {f f' g g' : Fleet} {v : Visit} {c : Change}

/-! ## Changes

A call about a kernel changes its entry and the slots of its user, or nothing; hosts and names
aside, this is all it does. So a change is about one id and one user, and what is of others stays as
it is. -/

namespace Change

/-- The ledger after a change. -/
def count : Change → Ledger → Ledger
  | nothing, l => l
  | gain h, l => l.restore h.user
  | loss h, l => l.release h.user

/-- The kernel of an id after a change, from the one before. -/
def look (id : String) : Change → Option KernelHandle → Option KernelHandle
  | nothing, before => before
  | gain h, before => if id = h.id then some h else before
  | loss h, before => if id = h.id then none else before

/-- The change is about the kernel of an id, which is of the id's user. -/
def About (owner : String → String) (id : String) : Change → Prop
  | nothing => True
  | gain h => h.id = id ∧ h.user = owner id
  | loss h => h.id = id ∧ h.user = owner id

theorem About.look_other (h : c.About owner id) {other : String} (hne : other ≠ id)
    (before : Option KernelHandle) : c.look other before = before := by
  cases c with
  | nothing => rfl
  | gain k => exact if_neg (h.1.symm ▸ hne)
  | loss k => exact if_neg (h.1.symm ▸ hne)

/-- Ledgers that agree on a user agree after a change that is about the user's own kernel. -/
theorem About.agrees {l m : Ledger} (h : c.About owner id) (hid : owner id = user)
    (hagrees : Ledger.Agrees user l m) : Ledger.Agrees user (c.count l) (c.count m) := by
  cases c with
  | nothing => exact hagrees
  | gain k =>
    obtain rfl : k.user = user := h.2.trans hid
    exact hagrees.restore
  | loss k =>
    obtain rfl : k.user = user := h.2.trans hid
    exact hagrees.release

/-- A change about the kernel of another user goes unnoticed. -/
theorem About.agrees_other {l m : Ledger} (h : c.About owner id) (hid : owner id ≠ user)
    (hagrees : Ledger.Agrees user l m) : Ledger.Agrees user (c.count l) m := by
  cases c with
  | nothing => exact hagrees
  | gain k => exact hagrees.restore_other (h.2 ▸ hid)
  | loss k => exact hagrees.release_other (h.2 ▸ hid)

end Change

theorem Made.ledger (h : f.Made c g) : g.ledger = c.count f.ledger := by
  cases h with
  | nothing h => exact h.ledger
  | gain h hk =>
    subst hk
    exact h.ledger
  | loss _ h => exact h.ledger

theorem Made.shown (h : f.Made c g) (id : String) : g.shown id = c.look id (f.shown id) := by
  unfold Fleet.shown Fleet.get?
  cases h with
  | nothing h => rw [h.kernels]; rfl
  | gain h hk =>
    subst hk
    rw [h.kernels, Dict.get?_insert, Change.look]
    split
    · next hid => rw [KernelHandle.id_anywhere, if_pos hid]; rfl
    · next hid => rw [KernelHandle.id_anywhere, if_neg hid]
  | loss _ h =>
    rw [h.kernels, Dict.get?_erase, Change.look]
    split
    · next hid => rw [KernelHandle.id_anywhere, if_pos hid]; rfl
    · next hid => rw [KernelHandle.id_anywhere, if_neg hid]

/-! ## One fleet

As long as each kernel is of the user of its id, a call about an id changes nothing that is of other
users. -/

/-- Each kernel is of the user of its id, and only the kernels of users are limited in number. -/
structure Divided (owner : String → String) (f : Fleet) : Prop where
  covered : f.Covered
  unlimited : f.rules.maxKernels? = none
  owned : ∀ id k, f.kernels.get? id = some k → k.handle.user = owner id

theorem divided_empty {rules : FleetRules} (h : rules.maxKernels? = none) (limit : Int)
    (supply : Supply) : (empty rules limit supply).Divided owner where
  covered := covered_empty rules limit supply
  unlimited := h
  owned := by
    intro id k hget
    cases hget

/-- A call is about the kernel of its id. -/
theorem about_outcome (hf : f.Divided owner) (hv : v.Fits owner f.rules) :
    (v.outcome f).1.About owner v.id := by
  unfold Visit.Fits Visit.user? Visit.id at hv
  unfold Visit.outcome Visit.id
  cases hop : v.operation with
  | create spec p =>
    rw [hop] at hv
    simp only
    split
    · trivial
    · trivial
    · exact ⟨rfl, (hv _ rfl).symm⟩
  | reattach limit h =>
    rw [hop] at hv
    simp only
    split
    · trivial
    · trivial
    · exact ⟨rfl, (hv _ rfl).symm⟩
  | shutdown id =>
    simp only [Fleet.shown, Fleet.get?]
    cases hget : f.kernels.get? id with
    | none => trivial
    | some k =>
      cases v.answer with
      | error e => trivial
      | ok u => exact ⟨hf.covered.keyed id k hget, hf.owned id k hget⟩

/-- A change about an id leaves every kernel with the user of its id. -/
theorem Divided.made (hf : f.Divided owner) (habout : c.About owner id) (h : f.Made c g) :
    g.Divided owner where
  covered := h.covered hf.covered
  unlimited := by
    rw [h.rules]
    exact hf.unlimited
  owned := by
    intro id' k' hget
    cases h with
    | nothing h =>
      rw [h.kernels] at hget
      exact hf.owned id' k' hget
    | @gain k _ _ h hk =>
      subst hk
      rw [h.kernels, Dict.get?_insert] at hget
      split at hget
      · next hid =>
        cases hget
        rw [hid]
        exact habout.2.trans (congrArg owner habout.1.symm)
      · exact hf.owned id' k' hget
    | loss _ h =>
      rw [h.kernels, Dict.get?_erase] at hget
      split at hget
      · cases hget
      · exact hf.owned id' k' hget

theorem Divided.take (hf : f.Divided owner) (hv : v.Fits owner f.rules) :
    (v.take f).1.Divided owner :=
  hf.made (about_outcome hf hv) (comes_of_take hf.covered hf.unlimited v).made

/-- The kernels of a user are those whose ids are the user's. -/
theorem Divided.get?_owned (hf : f.Divided owner) (user id : String) :
    (f.owned user).get? id = if owner id = user then f.shown id else none := by
  unfold Fleet.owned Fleet.shown Fleet.get?
  rw [Dict.get?_filter, Dict.get?_map]
  cases hget : f.kernels.get? id with
  | none => simp
  | some k =>
    have huser : k.handle.anywhere.user = owner id := hf.owned id k hget
    rw [Option.map_some, Option.filter_some, huser]
    simp

/-! ## Two fleets

The run of all calls and the run of one user's calls are compared state by state. Both are alike to
the user: after a call of the user they are alike again, with the same answer, and after a call of
someone else the one that went on is still like the one that stood still. -/

/-- To a user the two fleets are the same. -/
structure Alike (owner : String → String) (user : String) (f f' : Fleet) : Prop where
  rules : f'.rules = f.rules
  ledger : Ledger.Agrees user f.ledger f'.ledger
  shown : ∀ id, owner id = user → f'.shown id = f.shown id

theorem alike_refl (owner : String → String) (user : String) (f : Fleet) :
    Alike owner user f f := ⟨rfl, Ledger.agrees_refl _ _, fun _ _ => rfl⟩

/-- The limit is asked about the user alone, and both fleets answer the same. -/
theorem Alike.granted (h : Alike owner user f f') {trials : PortTrials} {p : LaunchParams}
    (hp : f.userOf p = user) : f'.granted trials p = f.granted trials p := by
  have huser : f'.userOf p = f.userOf p := by
    unfold userOf
    rw [h.rules]
  unfold Fleet.granted
  rw [huser, h.rules, hp, h.ledger.isFull, h.ledger.limit]

/-- What a user's call comes to depends on nothing that is of others. -/
theorem Alike.outcome (h : Alike owner user f f') (hv : v.Fits owner f.rules)
    (hid : owner v.id = user) : v.outcome f' = v.outcome f := by
  unfold Visit.Fits Visit.user? Visit.id at hv
  unfold Visit.id at hid
  unfold Visit.outcome
  cases hop : v.operation with
  | create spec p =>
    rw [hop] at hv hid
    have huser : f.userOf p = user := (hv _ rfl).symm.trans hid
    have hbrought (ports : List Port) : v.brought f' spec p ports = v.brought f spec p ports := by
      unfold Visit.brought userOf
      rw [h.rules]
    simp only [h.granted huser, hbrought]
  | reattach limit k =>
    rw [hop] at hid
    simp only [h.shown k.id hid]
  | shutdown id =>
    rw [hop] at hid
    simp only [h.shown id hid]

/-- A change to what is of the user leaves the fleets the same, if it is made to both. -/
theorem Alike.made (h : Alike owner user f f') (habout : c.About owner id) (hid : owner id = user)
    (hg : f.Made c g) (hg' : f'.Made c g') : Alike owner user g g' where
  rules := by rw [hg.rules, hg'.rules, h.rules]
  ledger := by
    rw [hg.ledger, hg'.ledger]
    exact habout.agrees hid h.ledger
  shown := by
    intro id' hid'
    rw [hg.shown, hg'.shown, h.shown id' hid']

/-- A change to what is of another user leaves them the same, made to one. -/
theorem Alike.made_other (h : Alike owner user f f') (habout : c.About owner id)
    (hid : owner id ≠ user) (hg : f.Made c g) : Alike owner user g f' where
  rules := by rw [hg.rules, h.rules]
  ledger := by
    rw [hg.ledger]
    exact habout.agrees_other hid h.ledger
  shown := by
    intro id' hid'
    have hne : id' ≠ id := by
      rintro rfl
      exact hid hid'
    rw [hg.shown, habout.look_other hne, h.shown id' hid']

/-- A call of the user is answered alike, and leaves the fleets alike. -/
theorem Alike.take (h : Alike owner user f f') (hf : f.Divided owner) (hf' : f'.Divided owner)
    (hv : v.Fits owner f.rules) (hid : owner v.id = user) :
    (v.take f').2.anywhere = (v.take f).2.anywhere ∧
      Alike owner user (v.take f).1 (v.take f').1 := by
  have hcomes := comes_of_take hf.covered hf.unlimited v
  have hcomes' := comes_of_take hf'.covered hf'.unlimited v
  rw [h.outcome hv hid] at hcomes'
  exact ⟨hcomes'.answer.trans hcomes.answer.symm,
    h.made (about_outcome hf hv) hid hcomes.made hcomes'.made⟩

/-- The calls about kernels of others can be left out. -/
theorem alike_takeAll (h : Alike owner user f f') (hf : f.Divided owner) (hf' : f'.Divided owner)
    (visits : List Visit) (hfits : ∀ v ∈ visits, v.Fits owner f.rules) :
    heard (Visit.isOf owner user) f visits =
        heard (Visit.isOf owner user) f' (visits.filter (Visit.isOf owner user)) ∧
      (f.takeAll visits).owned user =
        (f'.takeAll (visits.filter (Visit.isOf owner user))).owned user := by
  induction visits generalizing f f' with
  | nil =>
    refine ⟨rfl, Dict.ext_get? fun id => ?_⟩
    show (f.owned user).get? id = (f'.owned user).get? id
    rw [hf.get?_owned, hf'.get?_owned]
    split
    · next hid => exact (h.shown id hid).symm
    · rfl
  | cons v rest ih =>
    have hv : v.Fits owner f.rules := hfits v List.mem_cons_self
    have hcomes := comes_of_take hf.covered hf.unlimited v
    have hrest : ∀ w ∈ rest, w.Fits owner (v.take f).1.rules := by
      intro w hw
      rw [hcomes.made.rules]
      exact hfits w (List.mem_cons_of_mem v hw)
    by_cases hid : owner v.id = user
    · have hmine : v.isOf owner user = true := decide_eq_true hid
      have hv' : v.Fits owner f'.rules := by
        rw [h.rules]
        exact hv
      obtain ⟨hanswer, hnext⟩ := h.take hf hf' hv hid
      obtain ⟨hheard, howned⟩ := ih hnext (hf.take hv) (hf'.take hv') hrest
      rw [List.filter_cons_of_pos hmine]
      refine ⟨?_, howned⟩
      simp only [heard, if_pos hmine, hanswer, hheard]
    · have hmine : ¬ v.isOf owner user = true := by simpa [Visit.isOf] using hid
      -- The other fleet does not take this one, which is about nobody of this user.
      have hnext := h.made_other (about_outcome hf hv) hid hcomes.made
      obtain ⟨hheard, howned⟩ := ih hnext (hf.take hv) hf' hrest
      rw [List.filter_cons_of_neg hmine]
      refine ⟨?_, howned⟩
      simp only [heard, if_neg hmine, hheard]

/-! ## Any number of users

By induction on the calls, with both runs side by side. -/

/-- On one ledger, and on a fleet that limits the kernels of each user only, a user's calls are
answered as if there were no others, and the user has the same slots and the same kernels. On a
fleet no id may be of two users: the id of a launch is a new one, and a handle that is taken over
carries the id of a kernel of its user. -/
theorem unaffected_by_others (user : String) :
    (∀ (limit : Int) (entries : List Ledger.Entry),
      let own := entries.filter (·.user = user)
      Ledger.seen user (.empty limit) entries = Ledger.seen user (.empty limit) own ∧
        ((Ledger.empty limit).performAll entries).active user =
          ((Ledger.empty limit).performAll own).active user) ∧
    ∀ (owner : String → String) (rules : FleetRules) (limit : Int) (supply : Supply)
      (visits : List Visit), rules.maxKernels? = none → (∀ v ∈ visits, v.Fits owner rules) →
      let f := empty rules limit supply
      let own := visits.filter (Visit.isOf owner user)
      heard (Visit.isOf owner user) f visits = heard (Visit.isOf owner user) f own ∧
        (f.takeAll visits).owned user = (f.takeAll own).owned user := by
  constructor
  · intro limit entries
    obtain ⟨hagrees, hseen⟩ :=
      Ledger.agrees_performAll (Ledger.agrees_refl user (.empty limit)) entries
    exact ⟨hseen, hagrees.active.symm⟩
  · intro owner rules limit supply visits hmax hfits
    exact alike_takeAll (alike_refl owner user _) (divided_empty hmax limit supply)
      (divided_empty hmax limit supply) visits hfits

/-- A fleet on two hosts, with one kernel for each user. -/
def twoHosts : FleetRules := { openRules none with hosts := ["left", "right"] }

/-- The ids of alice; all others are of bob. -/
def aliceOrBob (id : String) : String := if id ∈ ["a", "d"] then "alice" else "bob"

/-- A call of which all goes well. -/
def smooth (op : Operation) (newId : String) : Visit :=
  ⟨op, 10, newId, plainSupply.ports 0, some (.ok ())⟩

/-- Alice and bob share a fleet, and bob asks for one kernel too many. -/
def sharedDay : List Visit :=
  [smooth (launchFor "alice") "a", smooth (launchFor "bob") "b", smooth (launchFor "bob") "c",
    smooth (.shutdown "a") "", smooth (.reattach none ⟨"d", "python3", "alice", "left", []⟩) "",
    smooth (.shutdown "b") "", smooth (launchFor "bob") "e"]

/-- Bob is given another host than without alice, and else nothing is different. -/
theorem unaffected_on_sharedDay :
    twoHosts.maxKernels? = none ∧ (∀ v ∈ sharedDay, v.Fits aliceOrBob twoHosts) ∧
      (heard (Visit.isOf aliceOrBob "bob") (empty twoHosts 1 plainSupply) sharedDay).map (·.isOk) =
        [true, false, true, true] ∧
      (((empty twoHosts 1 plainSupply).takeAll sharedDay).owned "bob").keys = ["e"] := by
  have hfits : ∀ v ∈ sharedDay, v.Fits aliceOrBob twoHosts := by decide +kernel
  obtain ⟨hheard, howned⟩ :=
    (unaffected_by_others "bob").2 aliceOrBob twoHosts 1 plainSupply sharedDay rfl hfits
  refine ⟨rfl, hfits, ?_, ?_⟩
  · rw [hheard]
    decide +kernel
  · rw [howned]
    decide +kernel

end Fleet

end KernelGate
