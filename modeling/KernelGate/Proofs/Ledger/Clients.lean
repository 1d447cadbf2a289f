import KernelGate.Proofs.Ledger.Slots
import Mathlib.Logic.Function.Basic

/-!
# Clients of one ledger

Any number of clients share a ledger. To ask for a slot and to restore one take effect in one step
each. To give one back takes two, `decrement` and `dropZero`, and between them other clients may
take, restore or give back slots of the same user, so that an entry can stand at zero, be counted up
again, or be removed by someone else. Whatever the order, no slot is lost or counted twice.

Main statements: `ask_eq` (asking by way of an entry of its own is `acquire?`),
`Balanced.step` (one step), `lawful_of_clients` (every run).
-/

namespace KernelGate

namespace Ledger

variable {l : Ledger} {user : String}

/-! ## Asking by way of an entry

A ledger may be asked by making sure of an entry for the user first and comparing that entry with
the limit. This could leave an entry of zero behind when the user is refused. It does not: where the
limit is zero no entry is made, and at any other limit a user who is refused has slots, and with
them an entry. So asking in this way comes to the same as looking up the count. -/

/-- Make an entry for a user who has none. -/
def enter (l : Ledger) (user : String) : Ledger :=
  { l with counts := l.counts.insert user (l.active user) }

/-- Ask for a slot, and tell whether it is granted. A limit of zero refuses before an entry is made;
otherwise the user has an entry by the time the count is looked at. -/
def ask (l : Ledger) (user : String) : Ledger × Bool :=
  if l.limit = 0 then (l, false)
  else if (l.enter user).isFull user then (l.enter user, false)
  else ((l.enter user).restore user, true)

@[simp] theorem active_enter (l : Ledger) (user other : String) :
    (l.enter user).active other = l.active other := by
  simp only [enter, active, Dict.get?_insert]
  split
  · next h => simp [h]
  · rfl

/-- An entry of zero is no slot, so that asking finds the same room. -/
theorem isFull_enter (l : Ledger) (user : String) : (l.enter user).isFull user = l.isFull user := by
  unfold isFull
  rw [active_enter]
  rfl

/-- To a user who has slots, an entry is nothing new. -/
theorem enter_eq_self (h : 0 < l.active user) : l.enter user = l := by
  refine ext_get? rfl ?_
  intro other
  simp only [enter, Dict.get?_insert]
  split
  · next hother =>
    subst hother
    unfold active at h ⊢
    cases hget : l.counts.get? other with
    | none => simp [hget] at h
    | some n => rfl
  · rfl

/-- Counting up an entry that was just made is counting up from none. -/
theorem restore_enter (l : Ledger) (user : String) :
    (l.enter user).restore user = l.restore user := by
  refine ext_get? rfl ?_
  intro other
  rw [get?_restore, get?_restore, active_enter]
  split
  · rfl
  · next hne => exact Dict.get?_insert_of_ne _ _ hne

/-- The entry made on the way is never left behind: who is refused had one, or never got one. -/
theorem ask_eq (l : Ledger) (user : String) :
    l.ask user = ((l.acquire? user).getD l, (l.acquire? user).isSome) := by
  unfold ask acquire?
  rw [isFull_enter, restore_enter]
  by_cases hzero : l.limit = 0
  · have hfull : l.isFull user = true := by simp [isFull, hzero]
    simp [hzero, hfull]
  · rw [if_neg hzero]
    cases hfull : l.isFull user with
    | false => rfl
    | true =>
      have hpos : 0 < l.active user := by
        simp only [isFull, Bool.and_eq_true, decide_eq_true_eq] at hfull
        omega
      simp [enter_eq_self hpos]

/-- Asking by way of an entry is the operation of the ledger. -/
theorem ask_eq_acquire? (l : Ledger) (user : String) :
    l.acquire? user = if (l.ask user).2 then some (l.ask user).1 else none := by
  rw [ask_eq]
  cases l.acquire? user <;> rfl

/-- A slot is granted below the limit, and always where there is none. -/
theorem granted_iff (l : Ledger) (user : String) :
    (l.ask user).2 = true ↔ l.limit < 0 ∨ (l.active user : Int) < l.limit := by
  rw [ask_eq, Option.isSome_iff_ne_none, ne_eq, acquire?_eq_none_iff]
  omega

theorem ask_of_granted (h : (l.ask user).2 = true) : (l.ask user).1 = l.restore user := by
  have hsome := ask_eq_acquire? l user
  rw [h] at hsome
  exact eq_restore_of_acquire? hsome

theorem ask_of_refused (h : (l.ask user).2 = false) : (l.ask user).1 = l := by
  rw [ask_eq] at h ⊢
  simp only [Option.isSome_eq_false_iff, Option.isNone_iff_eq_none] at h
  simp [h]

/-! ## Clients

What clients share is the ledger and, for each of them, whether it is between the two steps of
giving a slot back. A deed is on record at the step in which it takes effect for others: that of
giving back is `decrement`. -/

/-- What a client does in one step. -/
inductive Doing where
  /-- Ask for a slot, which is granted or not. -/
  | asks (granted : Bool)
  | restores
  /-- The first half of a release. -/
  | decrements
  /-- The second half of a release. -/
  | drops
  deriving DecidableEq

/-- A step of a client for a user. -/
structure Deed (κ : Type) where
  client : κ
  doing : Doing
  user : String

/-- How often something was done for a user. -/
def tally {κ : Type} (doing : Doing) (user : String) (log : List (Deed κ)) : Nat :=
  log.countP fun e => e.doing = doing ∧ e.user = user

/-- A ledger that clients share, and the user of each release that is half done. -/
structure Shared (κ : Type) where
  ledger : Ledger
  giving : κ → Option String

variable {κ : Type}

namespace Shared

/-- A new ledger, of which nothing has been asked. -/
def opened (limit : Int) : Shared κ := ⟨empty limit, fun _ => none⟩

/-- One step of one client, while the others stand still. A client in the middle of a release goes
on with it before anything else. -/
inductive Step [DecidableEq κ] : Shared κ → Deed κ → Shared κ → Prop where
  | asks {s : Shared κ} {c : κ} {user : String} : s.giving c = none →
      Step s ⟨c, .asks (s.ledger.ask user).2, user⟩ { s with ledger := (s.ledger.ask user).1 }
  | restores {s : Shared κ} {c : κ} {user : String} : s.giving c = none →
      Step s ⟨c, .restores, user⟩ { s with ledger := s.ledger.restore user }
  | decrements {s : Shared κ} {c : κ} {user : String} : s.giving c = none →
      Step s ⟨c, .decrements, user⟩
        ⟨s.ledger.decrement user, Function.update s.giving c (some user)⟩
  | drops {s : Shared κ} {c : κ} {user : String} : s.giving c = some user →
      Step s ⟨c, .drops, user⟩ ⟨s.ledger.dropZero user, Function.update s.giving c none⟩

end Shared

/-- A release gives back a slot that was granted or restored before, and that no other release has
given back. -/
def Deed.Owed (e : Deed κ) (log : List (Deed κ)) : Prop :=
  e.doing = .decrements →
    tally .decrements e.user log < tally (.asks true) e.user log + tally .restores e.user log

instance (e : Deed κ) (log : List (Deed κ)) : Decidable (e.Owed log) :=
  inferInstanceAs (Decidable (_ → _))

/-- What clients can have done to a new ledger by any moment, and what has become of it. -/
inductive Runs [DecidableEq κ] (limit : Int) : List (Deed κ) → Shared κ → Prop where
  | opened : Runs limit [] (.opened limit)
  | step {log : List (Deed κ)} {s t : Shared κ} {e : Deed κ} :
      Runs limit log s → s.Step e t → e.Owed log → Runs limit (log ++ [e]) t

/-- Where the limit allows it, a client can have a slot granted. -/
theorem Shared.Step.granted [DecidableEq κ] {s : Shared κ} {c : κ} (hidle : s.giving c = none)
    (hroom : s.ledger.limit < 0 ∨ (s.ledger.active user : Int) < s.ledger.limit) :
    s.Step ⟨c, .asks true, user⟩ { s with ledger := s.ledger.restore user } := by
  have hgranted := (granted_iff s.ledger user).2 hroom
  rw [← hgranted, ← ask_of_granted hgranted]
  exact .asks hidle

/-- Where it does not, a client is refused. -/
theorem Shared.Step.refused [DecidableEq κ] {s : Shared κ} {c : κ} (hidle : s.giving c = none)
    (hfull : 0 ≤ s.ledger.limit ∧ s.ledger.limit ≤ s.ledger.active user) :
    s.Step ⟨c, .asks false, user⟩ s := by
  have hrefused : (s.ledger.ask user).2 = false := by
    rw [← Bool.not_eq_true, granted_iff]
    omega
  have hstep : s.Step ⟨c, .asks (s.ledger.ask user).2, user⟩ _ := .asks hidle
  rwa [hrefused, ask_of_refused hrefused] at hstep

/-! ## One step

What is kept by every step is that a user's count is the slots that were granted or restored to the
user, less those that were given back, and that an entry stands at zero only as long as a client of
that user is about to remove it. -/

/-- The ledger counts what was done, and has an entry of zero only while a release is half done. -/
structure Balanced (limit : Int) (log : List (Deed κ)) (s : Shared κ) : Prop where
  limit_eq : s.ledger.limit = limit
  counted : ∀ user, s.ledger.active user + tally .decrements user log =
    tally (.asks true) user log + tally .restores user log
  zero : ∀ user, s.ledger.counts.get? user = some 0 → ∃ c, s.giving c = some user
  bound : ∀ user, 0 ≤ limit → tally .restores user log = 0 → (s.ledger.active user : Int) ≤ limit

theorem tally_append (doing : Doing) (user : String) (log : List (Deed κ)) (e : Deed κ) :
    tally doing user (log ++ [e]) =
      tally doing user log + if e.doing = doing ∧ e.user = user then 1 else 0 := by
  simp [tally, List.countP_append, List.countP_singleton]

@[simp] theorem limit_decrement (l : Ledger) (user : String) :
    (l.decrement user).limit = l.limit := by
  unfold decrement
  split <;> rfl

@[simp] theorem limit_dropZero (l : Ledger) (user : String) :
    (l.dropZero user).limit = l.limit := by
  unfold dropZero
  split <;> rfl

theorem get?_decrement_of_ne {other : String} (l : Ledger) (h : other ≠ user) :
    (l.decrement user).counts.get? other = l.counts.get? other := by
  unfold decrement
  split
  · rfl
  · exact Dict.get?_insert_of_ne _ _ h

/-- An entry is removed only if it stands at zero at that very time: a client that was overtaken by
another leaves the entry alone. -/
theorem get?_dropZero (l : Ledger) (user other : String) :
    (l.dropZero user).counts.get? other =
      if other = user ∧ l.counts.get? user = some 0 then none else l.counts.get? other := by
  unfold dropZero
  by_cases hzero : l.counts.get? user = some 0
  · simp [hzero, Dict.get?_erase]
  · simp [hzero]

variable {limit : Int} {log : List (Deed κ)} {s t : Shared κ} {c : κ}

/-- No client has done anything yet, and the ledger is empty. -/
theorem balanced_opened (limit : Int) : Balanced limit [] (Shared.opened (κ := κ) limit) where
  limit_eq := rfl
  counted _ := rfl
  zero _ h := by cases h
  bound _ h _ := h

namespace Balanced

/-- A slot that is granted or restored is counted, and makes an entry that is not zero. -/
theorem restored (h : Balanced limit log s) {e : Deed κ}
    (he : e.doing = .asks true ∧ (limit < 0 ∨ (s.ledger.active e.user : Int) < limit) ∨
      e.doing = .restores) :
    Balanced limit (log ++ [e]) { s with ledger := s.ledger.restore e.user } where
  limit_eq := h.limit_eq
  counted user := by
    have hcounted := h.counted user
    simp only [tally_append, active_restore]
    obtain ⟨hdoing, -⟩ | hdoing := he <;>
      simp only [hdoing, reduceCtorEq, true_and, false_and, if_false] <;> grind
  zero user hget := by
    rw [get?_restore] at hget
    split at hget
    · cases hget
    · exact h.zero user hget
  bound user hlimit hnone := by
    simp only [tally_append] at hnone
    have hbound := h.bound user hlimit (by omega)
    simp only [active_restore]
    obtain ⟨-, hroom⟩ | hdoing := he
    -- Only a slot that is granted counts here, and one is granted just while there is room.
    · by_cases huser : user = e.user
      · subst huser
        simp only [if_true]
        omega
      · simpa [huser] using hbound
    · have huser : ¬e.user = user := by
        intro huser
        simp [hdoing, huser] at hnone
      simpa [Ne.symm huser] using hbound

/-- A refusal is counted nowhere. -/
theorem refused (h : Balanced limit log s) (c : κ) (user : String) :
    Balanced limit (log ++ [⟨c, .asks false, user⟩]) s where
  limit_eq := h.limit_eq
  counted other := by simpa [tally_append] using h.counted other
  zero := h.zero
  bound other := by simpa [tally_append] using h.bound other

/-- The entry may come to zero, but then this release is half done. -/
theorem decremented [DecidableEq κ] (h : Balanced limit log s) {user : String}
    (hidle : s.giving c = none) (howed : (Deed.mk c .decrements user).Owed log) :
    Balanced limit (log ++ [⟨c, .decrements, user⟩])
      ⟨s.ledger.decrement user, Function.update s.giving c (some user)⟩ where
  limit_eq := by simpa using h.limit_eq
  counted other := by
    have hcounted := h.counted other
    simp only [tally_append, active_decrement, reduceCtorEq, true_and, false_and, if_false]
    by_cases hother : other = user
    · subst hother
      -- This slot is owed, so that more were taken than given back.
      have hless : tally .decrements other log <
        tally (.asks true) other log + tally .restores other log := howed rfl
      simp only [if_true]
      omega
    · simpa [hother, Ne.symm hother] using hcounted
  zero other hget := by
    by_cases hother : other = user
    · exact ⟨c, by simp [hother]⟩
    · rw [get?_decrement_of_ne _ hother] at hget
      obtain ⟨c', hc'⟩ := h.zero other hget
      have hne : c' ≠ c := by
        rintro rfl
        simp [hidle] at hc'
      exact ⟨c', by simpa [hne] using hc'⟩
  bound other hlimit hnone := by
    simp only [tally_append, reduceCtorEq, false_and, if_false, Nat.add_zero] at hnone
    have hbound := h.bound other hlimit hnone
    simp only [active_decrement]
    omega

/-- Whatever became of the entry since the first half, a zero of this user is gone. -/
theorem dropped [DecidableEq κ] (h : Balanced limit log s) {user : String}
    (hgiving : s.giving c = some user) :
    Balanced limit (log ++ [⟨c, .drops, user⟩])
      ⟨s.ledger.dropZero user, Function.update s.giving c none⟩ where
  limit_eq := by simpa using h.limit_eq
  counted other := by simpa [tally_append, active_dropZero] using h.counted other
  zero other hget := by
    rw [get?_dropZero] at hget
    split at hget
    · cases hget
    · next hkept =>
      have hother : other ≠ user := by
        rintro rfl
        exact hkept ⟨rfl, hget⟩
      obtain ⟨c', hc'⟩ := h.zero other hget
      have hne : c' ≠ c := by
        rintro rfl
        rw [hgiving] at hc'
        exact hother (Option.some.inj hc').symm
      exact ⟨c', by simpa [hne] using hc'⟩
  bound other := by simpa [tally_append, active_dropZero] using h.bound other

/-- Every step of every client keeps the ledger balanced. -/
theorem step [DecidableEq κ] (h : Balanced limit log s) {e : Deed κ} (hstep : s.Step e t)
    (howed : e.Owed log) :
    Balanced limit (log ++ [e]) t := by
  cases hstep with
  | @asks c user =>
    cases hgranted : (s.ledger.ask user).2 with
    | true =>
      have hroom := (granted_iff s.ledger user).1 hgranted
      rw [h.limit_eq] at hroom
      rw [ask_of_granted hgranted]
      exact h.restored (.inl ⟨rfl, hroom⟩)
    | false =>
      rw [ask_of_refused hgranted]
      exact h.refused c user
  | restores => exact h.restored (.inr rfl)
  | decrements hidle => exact h.decremented hidle howed
  | drops hgiving => exact h.dropped hgiving

end Balanced

/-- So the count is right after any run, by one step after another. -/
theorem balanced_of_runs [DecidableEq κ] (h : Runs limit log s) : Balanced limit log s := by
  induction h with
  | opened => exact balanced_opened limit
  | step _ hstep howed ih => exact ih.step hstep howed

/-! ## Every run

At last, what the balance of a run says of the ledger in the terms of its clients. -/

/-- What holds of a shared ledger at any moment, and of whatever is asked of it next. -/
structure Lawful [DecidableEq κ] (limit : Int) (log : List (Deed κ)) (s : Shared κ) : Prop where
  /-- No update is lost. -/
  counted : ∀ user, s.ledger.active user + tally .decrements user log =
    tally (.asks true) user log + tally .restores user log
  /-- A slot is granted exactly where the limit allows it. -/
  granted : ∀ {c user granted t}, s.Step ⟨c, .asks granted, user⟩ t →
    (granted = true ↔ limit < 0 ∨ (s.ledger.active user : Int) < limit)
  /-- A refusal changes nothing, and leaves no entry behind. -/
  refused : ∀ {c user t}, s.Step ⟨c, .asks false, user⟩ t → t = s
  /-- Either way it is what the ledger answers when it is asked in one piece. -/
  acquired : ∀ {c user granted t}, s.Step ⟨c, .asks granted, user⟩ t →
    s.ledger.acquire? user = if granted then some t.ledger else none
  /-- A user whose slots were all granted has no more than the limit. -/
  bound : ∀ user, 0 ≤ limit → tally .restores user log = 0 → (s.ledger.active user : Int) ≤ limit
  /-- With no release of the user half done, whoever has an entry has a kernel, and whoever has a
  kernel has an entry. -/
  entries : ∀ user, (∀ c, s.giving c ≠ some user) →
    (s.ledger.counts.contains user = true ↔ 0 < s.ledger.active user)

/-- An entry that does not stand at zero is one for slots, and users with slots have entries. -/
theorem contains_iff_of_ne_zero (h : l.counts.get? user ≠ some 0) :
    l.counts.contains user = true ↔ 0 < l.active user := by
  unfold Dict.contains active
  cases hget : l.counts.get? user with
  | none => simp
  | some n =>
    have hn : n ≠ 0 := by
      rintro rfl
      exact h hget
    simpa using Nat.pos_of_ne_zero hn

/-- Whatever the clients do, and in whatever order their steps come, the ledger is lawful. -/
theorem lawful_of_clients [DecidableEq κ] (h : Runs limit log s) : Lawful limit log s where
  counted := (balanced_of_runs h).counted
  granted {c user granted t} hstep := by
    have hlimit := (balanced_of_runs h).limit_eq
    cases hstep with
    | asks => rw [granted_iff, hlimit]
  refused {c user t} hstep := by
    generalize hdeed : Deed.mk c (.asks false) user = e at hstep
    cases hstep with
    | asks =>
      obtain ⟨-, hrefused, rfl⟩ := Deed.mk.inj hdeed
      rw [ask_of_refused (Doing.asks.inj hrefused).symm]
    | restores => cases hdeed
    | decrements => cases hdeed
    | drops => cases hdeed
  acquired {c user granted t} hstep := by
    cases hstep with
    | asks => exact ask_eq_acquire? s.ledger user
  bound := (balanced_of_runs h).bound
  entries user hdone := by
    refine contains_iff_of_ne_zero fun hzero => ?_
    obtain ⟨c, hc⟩ := (balanced_of_runs h).zero user hzero
    exact hdone c hc

/-- Ann's only slot is half given back, taken again by another client, and a third one is refused
before the release is done. -/
def retaking : List (Deed (Fin 3)) :=
  [⟨0, .asks true, "ann"⟩, ⟨0, .decrements, "ann"⟩, ⟨1, .asks true, "ann"⟩, ⟨2, .asks false, "ann"⟩,
    ⟨0, .drops, "ann"⟩]

/-- The slot is taken again while the entry that it was counted in stands at zero. Then the client
that is giving it back finds the entry counted up, and leaves it alone. -/
theorem lawful_amid_release : ∃ s : Shared (Fin 3), Runs 1 retaking s ∧
    s.ledger.counts.get? "ann" = some 1 ∧ Lawful 1 retaking s := by
  have hopened : Runs (κ := Fin 3) 1 [] _ := .opened
  have hruns := hopened
    |>.step (e := ⟨0, .asks true, "ann"⟩) (.granted rfl (by decide +kernel)) (by decide)
    |>.step (e := ⟨0, .decrements, "ann"⟩) (.decrements rfl) (by decide +kernel)
    |>.step (e := ⟨1, .asks true, "ann"⟩) (.granted rfl (by decide +kernel)) (by decide)
    |>.step (e := ⟨2, .asks false, "ann"⟩) (.refused rfl (by decide +kernel)) (by decide)
    |>.step (e := ⟨0, .drops, "ann"⟩) (.drops rfl) (by decide)
  exact ⟨_, hruns, by decide +kernel, lawful_of_clients hruns⟩

end Ledger

end KernelGate
