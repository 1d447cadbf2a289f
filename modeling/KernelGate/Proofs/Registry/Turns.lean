import KernelGate.Proofs.Registry.Sequential
import KernelGate.Proofs.Rehearsal.Patience

/-!
# Records that have their turns

When kernels of an earlier run are taken over, each record has its turn. A kernel that is tracked by
then is not asked after, and its record is kept; else the record is kept just if the kernel is found
alive in time. So of several records of one kernel the first that is kept says how the kernel is
reached.

Main statements: `Fleet.turned_of_ends` says all that a turn can do, and `Fleet.Turns` puts turns
together; `Turns.get?`, `Turns.tracked` and `Turns.active` say what they come to.
-/

namespace KernelGate

open Activity

/-! ## Turns

A turn has three outcomes: the kernel is known, is found, or is lost. Whether it was asked after,
and what came of that, is kept with the turn, so that the outcome can be told from it. -/

/-- The turn of a record: whether its kernel was asked after, and what came of that. -/
structure Turn where
  record : SessionRecord
  probe? : Option Conduct

namespace Turn

def kernel (t : Turn) : KernelHandle := t.record.kernel

def session (t : Turn) : String := t.record.sessionId

def asked (t : Turn) : Option (LauncherCall × Conduct) :=
  t.probe?.map fun c => (.probe t.kernel, c)

/-- The kernel was asked after and found alive in time. -/
def found (limit : Nat) (t : Turn) : Bool := t.probe?.any (·.succeeds limit)

/-- The record is kept. -/
def taken (limit : Nat) (t : Turn) : Bool := t.probe?.all (·.succeeds limit)

/-- The record is kept, and is one of this kernel. -/
def takes (limit : Nat) (id : String) (t : Turn) : Bool := t.taken limit && t.kernel.id = id

end Turn

namespace Fleet

variable {limit : Nat} {f g : Fleet} {t : Turn} {turns : List Turn} {talk : Talk}

/-- What the turn of a record makes of the fleet. -/
inductive Turned (limit : Nat) (f : Fleet) : Turn → Fleet → Prop where
  | known {record : SessionRecord} (metrics : Metrics) :
      f.kernels.contains record.kernel.id = true →
      Turned limit f ⟨record, none⟩ { f with metrics }
  | found {record : SessionRecord} {c : Conduct} (millis : Nat) (metrics : Metrics) :
      f.kernels.get? record.kernel.id = none → c.succeeds limit = true →
      Turned limit f ⟨record, some c⟩ { (f.later millis).adopt record.kernel with metrics }
  | lost {record : SessionRecord} {c : Conduct} (millis : Nat) (metrics : Metrics) :
      f.kernels.get? record.kernel.id = none → c.succeeds limit = false →
      Turned limit f ⟨record, some c⟩ { f.later millis with metrics }

/-- Figures are nothing to a turn. -/
theorem Turned.count (h : Turned limit f t g) (metrics : Metrics) :
    Turned limit f t { g with metrics } := by
  cases h with
  | known _ hknown => exact .known metrics hknown
  | found millis _ hnew hc => exact .found millis metrics hnew hc
  | lost millis _ hnew hc => exact .lost millis metrics hnew hc

/-- All that a takeover can do to a kernel of a record. -/
theorem turned_of_ends {record : SessionRecord} {x : Result Unit}
    (h : (reattach (some limit) record.kernel).Ends Passes f (talk.calls limit) g x) :
    ∃ t : Turn, t.record = record ∧ talk = t.asked.toList ∧ Turned limit f t g ∧
      x.isOk = t.taken limit := by
  have h₂ := ends_look_bind_iff.1 h
  split at h₂
  · next hknown =>
    obtain ⟨hcalls, rfl, rfl⟩ := ends_done_iff.1 h₂
    cases List.map_eq_nil_iff.1 hcalls
    exact ⟨⟨record, none⟩, rfl, rfl, .known g.metrics hknown, rfl⟩
  · next hnew =>
    have hnone : f.kernels.get? record.kernel.id = none := by
      simpa [Dict.contains] using hnew
    obtain ⟨_, reply, rest, ⟨millis, rfl⟩, -, hcalls, h₃⟩ := ends_call_iff.1 h₂
    obtain ⟨⟨call, c⟩, talk', rfl, hfirst, hrest⟩ := List.map_eq_cons_iff.1 hcalls
    cases hfirst
    have htalk : rest = [] → (LauncherCall.probe record.kernel, c) :: talk' =
        (Turn.asked ⟨record, some c⟩).toList := by
      rintro rfl
      rw [List.map_eq_nil_iff.1 hrest]
      rfl
    -- No answer and an error come to the same: nothing is done.
    have hlost : c.reply limit ≠ some (.ok ()) → rest = [] ∧ g = f.later millis ∧ x.isOk = false →
        ∃ t : Turn, t.record = record ∧ (LauncherCall.probe record.kernel, c) :: talk' =
          t.asked.toList ∧ Turned limit f t g ∧ x.isOk = t.taken limit := by
      rintro hreply ⟨hnil, rfl, hx⟩
      have hc : c.succeeds limit = false :=
        Bool.eq_false_iff.2 fun hc => hreply (Conduct.reply_of_succeeds hc)
      refine ⟨⟨record, some c⟩, rfl, htalk hnil, .lost millis _ hnone hc, ?_⟩
      rw [hx]
      exact hc.symm
    rcases hreply : c.reply limit with _ | e | _
    · rw [hreply] at h₃
      obtain ⟨hnil, rfl, rfl⟩ := ends_done_iff.1 h₃
      exact hlost (by simp [hreply]) ⟨hnil, rfl, rfl⟩
    · rw [hreply] at h₃
      obtain ⟨hnil, rfl, rfl⟩ := ends_done_iff.1 h₃
      exact hlost (by simp [hreply]) ⟨hnil, rfl, rfl⟩
    · rw [hreply] at h₃
      have h₄ := ends_step_iff.1 h₃
      obtain ⟨hnil, rfl, rfl⟩ := ends_done_iff.1 h₄
      have hc : c.succeeds limit = true := Conduct.succeeds_of_reply hreply
      exact ⟨⟨record, some c⟩, rfl, htalk hnil, .found _ _ hnone hc, hc.symm⟩

/-! ### What a turn changes

Kernels, slots and figures after a turn, by its outcome. -/

/-- A kernel is asked after exactly if it is not tracked when its turn comes. -/
theorem Turned.unprobed_iff (h : Turned limit f t g) :
    t.probe? = none ↔ f.kernels.contains t.kernel.id = true := by
  cases h with
  | known _ hknown => exact ⟨fun _ => hknown, fun _ => rfl⟩
  | found _ _ hnew _ | lost _ _ hnew _ =>
    refine ⟨nofun, fun hknown => ?_⟩
    obtain ⟨k, hget⟩ := Dict.contains_iff.1 hknown
    exact absurd (hnew.symm.trans hget) nofun

/-- Kernels that are tracked stay as they are. -/
theorem Turned.old (h : Turned limit f t g) {id : String} {k : Tracked}
    (hget : f.kernels.get? id = some k) : g.kernels.get? id = some k := by
  cases h with
  | known _ _ | lost _ _ _ _ => exact hget
  | @found record c _ _ hnew _ =>
    have hne : id ≠ record.kernel.id := by
      rintro rfl
      exact absurd (hnew.symm.trans hget) nofun
    show (f.kernels.insert record.kernel.id _).get? id = some k
    rw [Dict.get?_insert_of_ne _ _ hne]
    exact hget

theorem get?_of_kernels {f g : Fleet} {k : Tracked} (hnone : f.kernels.get? k.handle.id = none)
    (hg : g.kernels = f.kernels.insert k.handle.id k) (id : String) :
    g.get? id = (f.get? id).or (if k.handle.id = id then some k.handle else none) := by
  unfold Fleet.get?
  rw [hg, Dict.get?_insert]
  by_cases hid : id = k.handle.id
  · rw [if_pos hid, if_pos hid.symm, hid, hnone]
    rfl
  · rw [if_neg hid, if_neg (Ne.symm hid), Option.or_none]

/-- A record that is kept says how its kernel is reached, unless that is known. -/
theorem Turned.get? (h : Turned limit f t g) (id : String) :
    g.get? id = (f.get? id).or (if t.takes limit id then some t.kernel else none) := by
  cases h with
  | @known record _ hknown =>
    obtain ⟨k, hget⟩ := Dict.contains_iff.1 hknown
    show f.get? id = _
    by_cases hid : record.kernel.id = id
    · rw [← hid, Fleet.get?, hget]
      rfl
    · simp [Turn.takes, Turn.kernel, hid]
  | @found record c _ _ hnew hc =>
    have htaken : Turn.taken limit ⟨record, some c⟩ = true := hc
    have htakes : Turn.takes limit id ⟨record, some c⟩ = decide (record.kernel.id = id) := by
      rw [Turn.takes, htaken, Bool.true_and]
      rfl
    rw [get?_of_kernels (k := ⟨record.kernel, _⟩) hnew rfl id, htakes]
    by_cases hid : record.kernel.id = id
    · rw [if_pos hid, if_pos (decide_eq_true hid)]
      rfl
    · rw [if_neg hid, if_neg (by simpa using hid)]
  | @lost record c _ _ _ hc =>
    have htaken : Turn.taken limit ⟨record, some c⟩ = false := hc
    simp [Turn.takes, htaken]
    rfl

/-- One kernel more is tracked if it was found. -/
theorem Turned.tracked (h : Turned limit f t g) (sel : KernelHandle → Bool) :
    g.tracked sel = f.tracked sel + if t.found limit && sel t.kernel then 1 else 0 := by
  cases h with
  | known _ _ => rfl
  | @found record c _ _ hnew hc =>
    have hfound : Turn.found limit ⟨record, some c⟩ = true := hc
    rw [hfound, Bool.true_and]
    exact tracked_of_insert (k := ⟨record.kernel, _⟩) rfl hnew sel
  | @lost record c _ _ _ hc =>
    have hfound : Turn.found limit ⟨record, some c⟩ = false := hc
    rw [hfound]
    rfl

/-- Whoever owns the kernel that was found has a slot more, whatever the limits. -/
theorem Turned.active (h : Turned limit f t g) (user : String) :
    g.ledger.active user =
      f.ledger.active user + if t.found limit && ownedBy user t.kernel then 1 else 0 := by
  cases h with
  | known _ _ => rfl
  | @found record c _ _ _ hc =>
    have hfound : Turn.found limit ⟨record, some c⟩ = true := hc
    rw [hfound, Bool.true_and]
    exact active_restore_owner _ _ user
  | @lost record c _ _ _ hc =>
    have hfound : Turn.found limit ⟨record, some c⟩ = false := hc
    rw [hfound]
    rfl

theorem Turned.userLimit (h : Turned limit f t g) : g.ledger.limit = f.ledger.limit := by
  cases h <;> rfl

/-- Kernels, ledger, figures and the time may change, and nothing else. -/
theorem Turned.rest (h : Turned limit f t g) :
    g = { f with
      kernels := g.kernels, ledger := g.ledger, metrics := g.metrics, now := g.now } := by
  cases h <;> rfl

/-! ## Turns one after another

What several turns change is put together from what each does. A kernel may have several turns; from
the first on in which it was found it is known. -/

/-- What the turns of records, one after another, make of the fleet. -/
inductive Turns (limit : Nat) : Fleet → List Turn → Fleet → Prop where
  | nil (f : Fleet) : Turns limit f [] f
  | cons {f f₁ g : Fleet} {t : Turn} {rest : List Turn} :
      Turned limit f t f₁ → Turns limit f₁ rest g → Turns limit f (t :: rest) g

/-- Each turn has come upon the fleet that the ones before it left. -/
theorem Turns.split {before after : List Turn} (h : Turns limit f (before ++ t :: after) g) :
    ∃ f₁, Turns limit f before f₁ ∧ ∃ f₂, Turned limit f₁ t f₂ := by
  induction before generalizing f with
  | nil =>
    cases h with
    | cons hturned _ => exact ⟨f, .nil f, _, hturned⟩
  | cons u before ih =>
    cases h with
    | cons hturned hrest =>
      obtain ⟨f₁, hbefore, hthen⟩ := ih hrest
      exact ⟨f₁, .cons hturned hbefore, hthen⟩

theorem Turns.old (h : Turns limit f turns g) {id : String} {k : Tracked}
    (hget : f.kernels.get? id = some k) : g.kernels.get? id = some k := by
  induction h with
  | nil f => exact hget
  | cons hturned _ ih => exact ih (hturned.old hget)

/-- The first record of a kernel that is kept says how the kernel is reached, unless that was
known before. -/
theorem Turns.get? (h : Turns limit f turns g) (id : String) :
    g.get? id = (f.get? id).or ((turns.find? (·.takes limit id)).map (·.kernel)) := by
  induction h with
  | nil f => exact (Option.or_none).symm
  | @cons f f₁ g t rest hturned _ ih =>
    rw [ih, hturned.get?, Option.or_assoc, List.find?_cons]
    cases t.takes limit id <;> rfl

/-- Kernels are counted once for the turn in which they were found. -/
theorem Turns.tracked (h : Turns limit f turns g) (sel : KernelHandle → Bool) :
    g.tracked sel = f.tracked sel + turns.countP fun t => t.found limit && sel t.kernel := by
  induction h with
  | nil f => rfl
  | cons hturned _ ih =>
    rw [ih, hturned.tracked, List.countP_cons]
    omega

/-- So are their slots. -/
theorem Turns.active (h : Turns limit f turns g) (user : String) :
    g.ledger.active user = f.ledger.active user +
      turns.countP fun t => t.found limit && ownedBy user t.kernel := by
  induction h with
  | nil f => rfl
  | cons hturned _ ih =>
    rw [ih, hturned.active, List.countP_cons]
    omega

theorem Turns.userLimit (h : Turns limit f turns g) : g.ledger.limit = f.ledger.limit := by
  induction h with
  | nil f => rfl
  | cons hturned _ ih => exact ih.trans hturned.userLimit

theorem Turns.rest (h : Turns limit f turns g) :
    g = { f with
      kernels := g.kernels, ledger := g.ledger, metrics := g.metrics, now := g.now } := by
  induction h with
  | nil f => rfl
  | cons hturned _ ih =>
    rw [ih, hturned.rest]

theorem contains_eq_isSome (f : Fleet) (id : String) :
    f.kernels.contains id = (f.get? id).isSome := by
  rw [Fleet.get?, Option.isSome_map]
  rfl

/-- A kernel is asked after just if it was not tracked before, and no earlier record of it was
kept. -/
theorem Turns.unprobed_iff {before after : List Turn}
    (h : Turns limit f (before ++ t :: after) g) :
    t.probe? = none ↔ f.kernels.contains t.kernel.id = true ∨
      ∃ u ∈ before, u.taken limit = true ∧ u.kernel.id = t.kernel.id := by
  obtain ⟨f₁, hbefore, f₂, hturned⟩ := h.split
  rw [hturned.unprobed_iff, contains_eq_isSome, contains_eq_isSome, hbefore.get?,
    Option.isSome_or, Bool.or_eq_true, Option.isSome_map, List.find?_isSome]
  simp only [Turn.takes, Bool.and_eq_true, decide_eq_true_eq]

/-- Where nothing is asked, figures are all that changes. -/
theorem Turns.figures (h : Turns limit f turns g) (hunprobed : ∀ t ∈ turns, t.probe? = none) :
    g = { f with metrics := g.metrics } := by
  induction h with
  | nil f => rfl
  | cons hturned _ ih =>
    have hrest := ih fun t ht => hunprobed t (List.mem_cons_of_mem _ ht)
    cases hturned with
    | known _ _ => rw [hrest]
    | found _ _ _ _ | lost _ _ _ _ => cases hunprobed _ List.mem_cons_self

end Fleet

end KernelGate
