import KernelGate.Port.Range

/-!
# Reserving ports

Ports are reserved by binding them. A candidate is drawn from the band, or left to the system
where there is no restriction; one that is taken is drawn anew, up to a number of attempts. All
listeners stay open until the last port is chosen.

Main statement: `length_reserveFrom` (as many ports as were asked for).
-/

namespace KernelGate

/-- What binding a port comes to. -/
inductive BindOutcome where
  | refused
  /-- The port is bound; `free` is the one that the system picks where it is left the choice. -/
  | bound (free : Port)
  /-- The port is bound, but its address cannot be read. -/
  | unreadable (cause : IoFault)
  deriving DecidableEq, Repr, Inhabited

/-- The random draws and the outcomes of binding, by attempt. -/
structure PortTrials where
  draw : Nat → Nat
  bind : Nat → Port → BindOutcome

instance : Inhabited PortTrials := ⟨fun _ => 0, fun _ _ => .refused⟩

namespace PortRange

/-- Attempts for each port that is asked for. -/
def attemptsPerPort : Nat := 100

/-- The port of the band that a random number stands for. -/
def pick (r : PortRange) (random : Nat) : Port :=
  ⟨r.lower.val + random % (r.upper.val - r.lower.val + 1), by
    have h : r.lower.val ≤ r.upper.val := r.lower_le_upper
    have := Nat.mod_lt random (show 0 < r.upper.val - r.lower.val + 1 by omega)
    have := r.upper.isLt
    omega⟩

/-- A draw from the band; none where there is no restriction. -/
def draw? (r : PortRange) (random : Nat) : Option Port :=
  if r.isUnrestricted then none else some (r.pick random)

/-- The port that a listener has after binding a candidate: that port, or where the candidate is
zero the one that the system picked. -/
def boundPort (candidate free : Port) : Port := if candidate = .any then free else candidate

/-- One attempt: draw a candidate, bind it, and add the port that is bound if it is a new one. -/
def attempt (r : PortRange) (trials : PortTrials) (i : Nat) (chosen : List Port) :
    Except Fault (List Port) :=
  let candidate := (r.draw? (trials.draw i)).getD .any
  if !r.isUnrestricted && chosen.contains candidate then .ok chosen
  else
    match trials.bind i candidate with
    | .refused => .ok chosen
    | .unreadable cause => .error (.io cause)
    | .bound free =>
      let p := boundPort candidate free
      .ok (if chosen.contains p then chosen else chosen ++ [p])

/-- Choose ports until there are `count`, in at most `left` attempts more; attempt `i` is next. -/
def reserveFrom (r : PortRange) (trials : PortTrials) (count : Nat) :
    (left i : Nat) → (chosen : List Port) → Except Fault (List Port)
  | 0, i, chosen =>
    if count ≤ chosen.length then .ok chosen
    else .error (.launch (.rangeExhausted r.text i))
  | left + 1, i, chosen =>
    if count ≤ chosen.length then .ok chosen
    else
      match r.attempt trials i chosen with
      | .error e => .error e
      | .ok chosen => reserveFrom r trials count left (i + 1) chosen

/-- Choose `count` different ports that can be bound. -/
def reserve (r : PortRange) (trials : PortTrials) (count : Nat) : Except Fault (List Port) :=
  if !r.isUnrestricted && r.size < count then .error (.launch (.rangeTooSmall r.text count))
  else r.reserveFrom trials count (attemptsPerPort * count) 0 []

/-! ## The number of ports -/

theorem length_attempt_le {r : PortRange} {trials : PortTrials} {i : Nat} {chosen next : List Port}
    (h : r.attempt trials i chosen = .ok next) : next.length ≤ chosen.length + 1 := by
  simp only [attempt] at h
  split at h
  · cases h; omega
  · split at h
    · cases h; omega
    · cases h
    · cases h
      split <;> simp

theorem length_reserveFrom {r : PortRange} {trials : PortTrials} {count left i : Nat}
    {chosen ports : List Port} (hc : chosen.length ≤ count)
    (h : r.reserveFrom trials count left i chosen = .ok ports) : ports.length = count := by
  induction left generalizing i chosen with
  | zero =>
    rw [reserveFrom] at h
    split at h
    · cases h; omega
    · cases h
  | succ left ih =>
    rw [reserveFrom] at h
    split at h
    · cases h; omega
    · next hlt =>
      split at h
      · cases h
      · next next hn =>
        have := length_attempt_le hn
        exact ih (by omega) h

/-! ## Failures -/

theorem fault_of_attempt {r : PortRange} {trials : PortTrials} {i : Nat} {chosen : List Port}
    {e : Fault} (h : r.attempt trials i chosen = .error e) : ∃ cause, e = .io cause := by
  simp only [attempt] at h
  split at h
  · cases h
  · split at h
    · cases h
    · cases h
      exact ⟨_, rfl⟩
    · cases h

theorem fault_of_reserveFrom {r : PortRange} {trials : PortTrials} {count left i : Nat}
    {chosen : List Port} {e : Fault} (h : r.reserveFrom trials count left i chosen = .error e) :
    (∃ cause, e = .io cause) ∨ ∃ cause, e = .launch cause := by
  induction left generalizing i chosen with
  | zero =>
    rw [reserveFrom] at h
    split at h
    · cases h
    · cases h
      exact .inr ⟨_, rfl⟩
  | succ left ih =>
    rw [reserveFrom] at h
    split at h
    · cases h
    · split at h
      · next e' hattempt =>
        cases h
        exact .inl (fault_of_attempt hattempt)
      · exact ih h

/-- A reservation fails with a failure of the host, or as a part of a launch. -/
theorem fault_of_reserve {r : PortRange} {trials : PortTrials} {count : Nat} {e : Fault}
    (h : r.reserve trials count = .error e) :
    (∃ cause, e = .io cause) ∨ ∃ cause, e = .launch cause := by
  rw [reserve] at h
  split at h
  · cases h
    exact .inr ⟨_, rfl⟩
  · exact fault_of_reserveFrom h

end PortRange

end KernelGate
