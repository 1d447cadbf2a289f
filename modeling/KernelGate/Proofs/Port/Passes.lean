import KernelGate.Port.Reservation
import Mathlib.Logic.Function.Iterate

/-!
# The loop that reserves ports

The reservation as it goes on, pass by pass: what each pass came to, the ports that are chosen, and
the listeners that are held. It goes by two bare bounds, so that the two things which bare bounds do
not promise can go wrong: their difference can be below zero, and there can be nothing to draw from.
Nothing but the count of attempts ends a loop that does not find its ports.

Main statements: `body_bounds` (what one pass does), `ended_of_going` (what all that are left do)
and `ended_of_begin` (the loop stops in time, does not go wrong, and comes to what a reservation
is).
-/

namespace KernelGate

/-- Two bounds of a band, of which nothing is known. -/
structure Bounds where
  lower : Port
  upper : Port
  deriving DecidableEq

/-- A listener that is open: what was bound, and the port that it has. -/
structure PortListener where
  candidate : Port
  port : Port
  deriving DecidableEq

/-- What a pass of the loop came to. -/
inductive PortPass where
  /-- The port that was drawn is chosen already. -/
  | repeated (drawn : Port)
  | refused (candidate : Port)
  | opened (l : PortListener)
  | unreadable (candidate : Port) (cause : IoFault)
  deriving DecidableEq

namespace PortPass

/-- The listener that a pass opened. -/
def listener? : PortPass → Option PortListener
  | opened l => some l
  | _ => none

end PortPass

/-- How far the loop has come: its passes, the ports that are chosen, and the listeners that are
open, each in the order of time. -/
structure PortSearch where
  passes : List PortPass
  ports : List Port
  held : List PortListener
  deriving DecidableEq

namespace PortSearch

/-- Before the first pass. -/
def start : PortSearch := ⟨[], [], []⟩

/-- After one more pass. A listener is held whether or not its port is a new one. -/
def after (s : PortSearch) (p : PortPass) : PortSearch where
  passes := s.passes ++ [p]
  ports :=
    match p with
    | .opened l => if s.ports.contains l.port then s.ports else s.ports ++ [l.port]
    | _ => s.ports
  held := s.held ++ p.listener?.toList

/-- How a loop ends. -/
inductive Ending where
  | returned
  | failed (e : Fault)
  /-- A size below zero, or a draw from nothing. -/
  | crashed
  deriving DecidableEq

/-- What comes of a search that ends; nothing where it crashed. -/
def result? (s : PortSearch) : Ending → Option (Except Fault (List Port))
  | .returned => some (.ok s.ports)
  | .failed e => some (.error e)
  | .crashed => none

end PortSearch

/-- A loop that goes on or has ended. -/
inductive PortLoop where
  | going (s : PortSearch)
  | ended (s : PortSearch) (how : PortSearch.Ending)
  deriving DecidableEq

/-- How far a loop has come. -/
def PortLoop.search : PortLoop → PortSearch
  | going s => s
  | ended s _ => s

namespace Bounds

/-- Whether the bounds stand for no restriction. -/
def isUnrestricted (b : Bounds) : Bool := b.lower = .any && b.upper = .any

/-- The bounds with two dots between them. -/
def text (b : Bounds) : String :=
  String.ofList (Text.digits b.lower ++ ['.', '.'] ++ Text.digits b.upper)

/-- The number of ports; none where the difference is below zero. -/
def size? (b : Bounds) : Option Nat :=
  if b.isUnrestricted then some 0
  else if b.lower ≤ b.upper then some (b.upper.val - b.lower.val + 1)
  else none

/-- What to bind next: a port drawn from the bounds, or any where there is no restriction; none
where there is nothing to draw from. -/
def candidate? (b : Bounds) (random : Nat) : Option Port :=
  if b.isUnrestricted then some .any
  else if h : b.lower ≤ b.upper then some ((PortRange.mk b.lower b.upper h).pick random)
  else none

/-- What comes before the first pass. -/
def begin (b : Bounds) (count : Nat) : PortLoop :=
  if b.isUnrestricted then .going .start
  else
    match b.size? with
    | none => .ended .start .crashed
    | some size =>
      if size < count then .ended .start (.failed (.launch (.rangeTooSmall b.text count)))
      else .going .start

/-- The body of the loop: draw a candidate, bind it, and hold the listener. -/
def body (b : Bounds) (trials : PortTrials) (s : PortSearch) : PortLoop :=
  match b.candidate? (trials.draw s.passes.length) with
  | none => .ended s .crashed
  | some c =>
    if !b.isUnrestricted && s.ports.contains c then .going (s.after (.repeated c))
    else
      match trials.bind s.passes.length c with
      | .refused => .going (s.after (.refused c))
      | .unreadable cause => .ended (s.after (.unreadable c cause)) (.failed (.io cause))
      | .bound free => .going (s.after (.opened ⟨c, PortRange.boundPort c free⟩))

/-- Go round the loop once; a loop that has ended stays as it is. -/
def pass (b : Bounds) (trials : PortTrials) (count : Nat) : PortLoop → PortLoop
  | .ended s how => .ended s how
  | .going s =>
    if count ≤ s.ports.length then .ended s .returned
    else if PortRange.attemptsPerPort * count ≤ s.passes.length then
      .ended s (.failed (.launch (.rangeExhausted b.text s.passes.length)))
    else b.body trials s

/-- The bounds are accepted as a band: put together, read from a text, or those of the band that is
there by default. -/
inductive Gives : Bounds → PortRange → Prop
  | ofBounds {b : Bounds} {r : PortRange} : PortRange.ofBounds b.lower b.upper = .ok r → Gives b r
  | parse {text : String} {r : PortRange} : PortRange.parse text = .ok r →
      Gives ⟨r.lower, r.upper⟩ r
  | unrestricted : Gives ⟨.any, .any⟩ .unrestricted

end Bounds

namespace PortRange

/-- The bounds of a band. -/
def bounds (r : PortRange) : Bounds := ⟨r.lower, r.upper⟩

/-- What an attempt binds: a port drawn from the band, or any where there is no restriction. -/
def candidate (r : PortRange) (random : Nat) : Port := (r.draw? random).getD .any

end PortRange

/-! ## Bounds that are accepted

However a band is accepted, its bounds are in order. So the two things that can go wrong with bare
bounds do not. -/

namespace Bounds

variable {b : Bounds} {r : PortRange}

/-- What is accepted is kept as it is. -/
theorem Gives.eq_bounds (h : b.Gives r) : b = r.bounds := by
  cases h with
  | ofBounds h =>
    unfold PortRange.ofBounds at h
    split at h
    · cases h
      rfl
    · cases h
  | parse h => rfl
  | unrestricted => rfl

@[simp] theorem isUnrestricted_bounds (r : PortRange) :
    r.bounds.isUnrestricted = r.isUnrestricted := rfl

@[simp] theorem text_bounds (r : PortRange) : r.bounds.text = r.text := rfl

/-- A size is never below zero. -/
theorem size?_bounds (r : PortRange) : r.bounds.size? = some r.size := by
  have hle : r.bounds.lower ≤ r.bounds.upper := r.lower_le_upper
  unfold size? PortRange.size
  rw [if_pos hle, isUnrestricted_bounds]
  split <;> rfl

/-- There is always something to draw from. -/
theorem candidate?_bounds (r : PortRange) (random : Nat) :
    r.bounds.candidate? random = some (r.candidate random) := by
  have hle : r.bounds.lower ≤ r.bounds.upper := r.lower_le_upper
  unfold candidate? PortRange.candidate PortRange.draw?
  rw [dif_pos hle, isUnrestricted_bounds]
  split <;> rfl

end Bounds

/-! ## One pass

With bounds in order, a pass comes to one of four things, and only a listener whose port cannot be
read ends the loop. -/

namespace PortRange

variable {r : PortRange} {trials : PortTrials} {count : Nat} {s t : PortSearch}

/-- A listener is what binding came to at an attempt. -/
def Opens (r : PortRange) (trials : PortTrials) (i : Nat) (l : PortListener) : Prop :=
  l.candidate = r.candidate (trials.draw i) ∧
    ∃ free, trials.bind i l.candidate = .bound free ∧ l.port = boundPort l.candidate free

/-- What attempt `i` can come to while these ports are chosen. -/
inductive Passes (r : PortRange) (trials : PortTrials) (ports : List Port) (i : Nat) :
    PortPass → Prop
  | repeated {c : Port} : c ∈ ports → Passes r trials ports i (.repeated c)
  | refused {c : Port} : trials.bind i c = .refused → Passes r trials ports i (.refused c)
  | opened {l : PortListener} : r.Opens trials i l → Passes r trials ports i (.opened l)
  | unreadable {c : Port} {cause : IoFault} : trials.bind i c = .unreadable cause →
      Passes r trials ports i (.unreadable c cause)

/-- The body goes on with what an attempt makes of the ports, or ends the loop as the attempt ends
the reservation. -/
theorem body_bounds (r : PortRange) (trials : PortTrials) (s : PortSearch) :
    (∃ p, r.Passes trials s.ports s.passes.length p ∧
        r.bounds.body trials s = .going (s.after p) ∧
        r.attempt trials s.passes.length s.ports = .ok (s.after p).ports) ∨
      ∃ c cause, trials.bind s.passes.length c = .unreadable cause ∧
        r.bounds.body trials s = .ended (s.after (.unreadable c cause)) (.failed (.io cause)) ∧
        r.attempt trials s.passes.length s.ports = .error (.io cause) := by
  unfold Bounds.body attempt
  simp only [Bounds.candidate?_bounds]
  -- Both look at one candidate: whether it is chosen already, then what binding it comes to.
  generalize hc : r.candidate (trials.draw s.passes.length) = c
  have hdraw : (r.draw? (trials.draw s.passes.length)).getD .any = c := hc
  rw [hdraw]
  by_cases hchosen : (!r.isUnrestricted && s.ports.contains c) = true
  · have hbody : (!r.bounds.isUnrestricted && s.ports.contains c) = true := hchosen
    rw [if_pos hbody, if_pos hchosen]
    simp only [Bool.and_eq_true, List.contains_iff_mem] at hchosen
    exact .inl ⟨_, .repeated hchosen.2, rfl, rfl⟩
  · have hbody : ¬ (!r.bounds.isUnrestricted && s.ports.contains c) = true := hchosen
    rw [if_neg hbody, if_neg hchosen]
    cases hbind : trials.bind s.passes.length c with
    | refused => exact .inl ⟨_, .refused hbind, rfl, rfl⟩
    | unreadable cause => exact .inr ⟨c, cause, hbind, rfl, rfl⟩
    | bound free => exact .inl ⟨_, .opened ⟨hc.symm, free, hbind, rfl⟩, rfl, rfl⟩

end PortRange

/-! ## What the passes keep

The ports that are chosen are those of the listeners that are held, each once. A pass that finds no
new port leaves them as they are, though it may hold a listener more. -/

namespace PortSearch

variable {r : PortRange} {trials : PortTrials} {count : Nat} {s t : PortSearch}

/-- The ports are the different ones of the listeners that are held, and these are all that any pass
has opened. -/
structure Sound (r : PortRange) (trials : PortTrials) (s : PortSearch) : Prop where
  nodup : s.ports.Nodup
  mem_ports : ∀ p, p ∈ s.ports ↔ ∃ l ∈ s.held, l.port = p
  held : s.held = s.passes.filterMap PortPass.listener?
  opened : ∀ l ∈ s.held, ∃ i < s.passes.length, r.Opens trials i l

/-- Nothing is chosen and nothing is held. -/
theorem sound_start (r : PortRange) (trials : PortTrials) : Sound r trials start where
  nodup := List.nodup_nil
  mem_ports := by
    intro p
    simp [start]
  held := rfl
  opened := by
    intro l hl
    cases hl

@[simp] theorem length_passes_after (s : PortSearch) (p : PortPass) :
    (s.after p).passes.length = s.passes.length + 1 := by
  simp [after]

/-- A pass that opens no listener leaves ports and listeners. -/
theorem Sound.passed (h : s.Sound r trials) {p : PortPass} (hports : (s.after p).ports = s.ports)
    (hp : p.listener? = none) : (s.after p).Sound r trials := by
  have hheld : (s.after p).held = s.held := by simp [after, hp]
  refine ⟨?_, ?_, ?_, ?_⟩
  · rw [hports]
    exact h.nodup
  · rw [hports, hheld]
    exact h.mem_ports
  · rw [hheld, h.held]
    simp [after, hp]
  · rw [hheld]
    intro l hl
    obtain ⟨i, hi, hopens⟩ := h.opened l hl
    exact ⟨i, by rw [length_passes_after]; omega, hopens⟩

theorem Sound.opened_after (h : s.Sound r trials) {l : PortListener}
    (hl : r.Opens trials s.passes.length l) : (s.after (.opened l)).Sound r trials := by
  have hheld : (s.after (.opened l)).held = s.held ++ [l] := rfl
  -- A port that was found before is held once more, but is not counted again.
  have hmem : ∀ p, p ∈ (s.after (.opened l)).ports ↔ p ∈ s.ports ∨ p = l.port := by
    intro p
    simp only [after]
    split
    · next hold =>
      rw [List.contains_iff_mem] at hold
      constructor
      · exact .inl
      · rintro (hp | rfl)
        · exact hp
        · exact hold
    · simp
  refine ⟨?_, ?_, ?_, ?_⟩
  · simp only [after]
    split
    · exact h.nodup
    · next hnew =>
      rw [List.contains_iff_mem] at hnew
      exact List.nodup_append.2 ⟨h.nodup, List.pairwise_singleton _ _, by
        rintro p hp q hq rfl
        rw [List.mem_singleton.1 hq] at hp
        exact hnew hp⟩
  · intro p
    rw [hmem, h.mem_ports, hheld]
    simp [or_and_right, exists_or, eq_comm]
  · rw [hheld, h.held]
    simp [after, PortPass.listener?]
  · intro m hm
    rw [hheld] at hm
    rw [length_passes_after]
    rcases List.mem_append.1 hm with hm | hm
    · obtain ⟨i, hi, hopens⟩ := h.opened m hm
      exact ⟨i, by omega, hopens⟩
    · rw [List.mem_singleton.1 hm]
      exact ⟨s.passes.length, by omega, hl⟩

/-- What a pass comes to is kept with those before it. -/
theorem Sound.after (h : s.Sound r trials) {p : PortPass}
    (hp : r.Passes trials s.ports s.passes.length p) : (s.after p).Sound r trials := by
  cases hp with
  | repeated _ => exact h.passed rfl rfl
  | refused _ => exact h.passed rfl rfl
  | opened hl => exact h.opened_after hl
  | unreadable _ => exact h.passed rfl rfl

/-- A pass makes one port more at most. -/
theorem length_ports_after_le (s : PortSearch) (p : PortPass) :
    (s.after p).ports.length ≤ s.ports.length + 1 := by
  cases p with
  | opened l =>
    simp only [PortSearch.after]
    split <;> simp
  | _ => simp [PortSearch.after]

/-- How a loop for `count` ports may end: with so many ports, when all attempts are used up, at a
listener whose port cannot be read, or before the first pass where the band is too small. -/
inductive Ends (r : PortRange) (trials : PortTrials) (count : Nat) (s : PortSearch) : Ending → Prop
  | returned : s.ports.length = count → Ends r trials count s .returned
  | exhausted : s.ports.length < count → s.passes.length = PortRange.attemptsPerPort * count →
      Ends r trials count s (.failed (.launch (.rangeExhausted r.text s.passes.length)))
  | unreadable {i : Nat} {c : Port} {cause : IoFault} : s.passes.length = i + 1 →
      s.passes.getLast? = some (.unreadable c cause) → trials.bind i c = .unreadable cause →
      Ends r trials count s (.failed (.io cause))
  | tooSmall : r.isUnrestricted = false → r.size < count → s = start →
      Ends r trials count s (.failed (.launch (.rangeTooSmall r.text count)))

end PortSearch

/-! ## The whole loop

Each pass uses up an attempt, so that the attempts which are left are what the induction is on. -/

namespace Bounds

open PortSearch

variable {b : Bounds} {r : PortRange} {trials : PortTrials} {count : Nat} {s t : PortSearch}

/-- The loop is over when it has its ports. -/
theorem pass_returned (h : count ≤ s.ports.length) :
    b.pass trials count (.going s) = .ended s .returned := by
  rw [pass, if_pos h]

/-- It is over, too, when its attempts are used up. -/
theorem pass_exhausted (h : s.ports.length < count)
    (hleft : PortRange.attemptsPerPort * count ≤ s.passes.length) :
    b.pass trials count (.going s) =
      .ended s (.failed (.launch (.rangeExhausted b.text s.passes.length))) := by
  rw [pass, if_neg (Nat.not_le.2 h), if_pos hleft]

theorem pass_body (h : s.ports.length < count)
    (hleft : s.passes.length < PortRange.attemptsPerPort * count) :
    b.pass trials count (.going s) = b.body trials s := by
  rw [pass, if_neg (Nat.not_le.2 h), if_neg (Nat.not_le.2 hleft)]

theorem iterate_pass_ended (b : Bounds) (trials : PortTrials) (count n : Nat) (s : PortSearch)
    (how : Ending) : (b.pass trials count)^[n] (.ended s how) = .ended s how :=
  Function.iterate_fixed rfl n

/-- A loop with some attempts left has ended when it has gone round once more than that, with what
is reserved in so many attempts. -/
theorem ended_of_going (left : Nat) (hs : s.Sound r trials) (hports : s.ports.length ≤ count)
    (hleft : s.passes.length + left = PortRange.attemptsPerPort * count) :
    ∃ t how, (r.bounds.pass trials count)^[left + 1] (.going s) = .ended t how ∧
      t.Sound r trials ∧ t.passes.length ≤ PortRange.attemptsPerPort * count ∧
      t.Ends r trials count how ∧
      t.result? how = some (r.reserveFrom trials count left s.passes.length s.ports) := by
  induction left generalizing s with
  | zero =>
    rw [Function.iterate_one, PortRange.reserveFrom]
    split
    · next hfull =>
      exact ⟨s, _, pass_returned hfull, hs, by omega, .returned (by omega), rfl⟩
    · next hshort =>
      have hlt : s.ports.length < count := by omega
      exact ⟨s, _, pass_exhausted hlt (by omega), hs, by omega, .exhausted hlt (by omega), rfl⟩
  | succ left ih =>
    rw [Function.iterate_succ_apply, PortRange.reserveFrom]
    split
    · next hfull =>
      rw [pass_returned hfull, iterate_pass_ended]
      exact ⟨s, _, rfl, hs, by omega, .returned (by omega), rfl⟩
    · next hshort =>
      have hlt : s.ports.length < count := by omega
      -- There are attempts left: the pass draws a port, and the loop goes round
      -- again or fails on it.
      rw [pass_body hlt (by omega)]
      rcases PortRange.body_bounds r trials s with ⟨p, hp, hbody, hattempt⟩ |
        ⟨c, cause, hbind, hbody, hattempt⟩
      · have hle := length_ports_after_le s p
        have hmore := length_passes_after s p
        obtain ⟨t, how, hend, ht, hlen, hends, hresult⟩ :=
          ih (hs.after hp) (by omega) (by omega)
        rw [hmore] at hresult
        rw [hbody, hattempt]
        exact ⟨t, how, hend, ht, hlen, hends, hresult⟩
      · have hmore := length_passes_after s (.unreadable c cause)
        rw [hbody, hattempt, iterate_pass_ended]
        exact ⟨_, _, rfl, hs.after (.unreadable hbind), by omega,
          .unreadable hmore List.getLast?_concat hbind, rfl⟩

/-! ## Listeners stay open

A pass adds listeners to those that are held and never lets go of one, so that a port which was held
once cannot be bound by a later pass. -/

theorem held_after (s : PortSearch) (p : PortPass) : s.held <+: (s.after p).held :=
  List.prefix_append ..

theorem held_body (b : Bounds) (trials : PortTrials) (s : PortSearch) :
    s.held <+: (b.body trials s).search.held := by
  unfold body
  split
  · exact List.prefix_refl _
  · split
    · exact held_after ..
    · split <;> exact held_after ..

theorem held_pass (b : Bounds) (trials : PortTrials) (count : Nat) (l : PortLoop) :
    l.search.held <+: (b.pass trials count l).search.held := by
  cases l with
  | ended s how => exact List.prefix_refl _
  | going s =>
    rw [pass]
    split
    · exact List.prefix_refl _
    · split
      · exact List.prefix_refl _
      · exact held_body b trials s

/-- No listener is closed as long as the loop goes on. -/
theorem held_iterate (b : Bounds) (trials : PortTrials) (count : Nat) (l : PortLoop) {m n : Nat}
    (hle : m ≤ n) : ((b.pass trials count)^[m] l).search.held <+:
      ((b.pass trials count)^[n] l).search.held := by
  induction hle with
  | refl => exact List.prefix_refl _
  | step _ ih =>
    rw [Function.iterate_succ_apply']
    exact ih.trans (held_pass ..)

/-- What is held at any time is held when the loop has ended. -/
theorem held_of_ended {l : PortLoop} {n : Nat} {how : Ending}
    (h : (b.pass trials count)^[n] l = .ended s how) (m : Nat) :
    ((b.pass trials count)^[m] l).search.held <+: s.held := by
  have hlate : (b.pass trials count)^[m + n] l = .ended s how := by
    rw [Function.iterate_add_apply, h, iterate_pass_ended]
  have hprefix := held_iterate b trials count l (Nat.le_add_right m n)
  rw [hlate] at hprefix
  exact hprefix

/-! ## A reservation

What comes before the first pass, and then the loop. In all, a reservation is the search of the
model, with its passes laid open. -/

/-- A band that is too small is refused before anything is bound. -/
theorem begin_of_tooSmall (hr : r.isUnrestricted = false) (hsize : r.size < count) :
    r.bounds.begin count = .ended .start (.failed (.launch (.rangeTooSmall r.text count))) := by
  simp [begin, size?_bounds, hr, hsize]

theorem begin_of_room (h : ¬ (r.isUnrestricted = false ∧ r.size < count)) :
    r.bounds.begin count = .going .start := by
  cases hr : r.isUnrestricted with
  | true => simp [begin, hr]
  | false =>
    have hsize : ¬ r.size < count := fun hsize => h ⟨hr, hsize⟩
    simp [begin, size?_bounds, hr, hsize]

/-- The loop of a band stops in time, and with what a reservation is. -/
theorem ended_of_begin (r : PortRange) (trials : PortTrials) (count : Nat) :
    ∃ s how, (r.bounds.pass trials count)^[PortRange.attemptsPerPort * count + 1]
        (r.bounds.begin count) = .ended s how ∧
      s.Sound r trials ∧ s.passes.length ≤ PortRange.attemptsPerPort * count ∧
      s.Ends r trials count how ∧ s.result? how = some (r.reserve trials count) := by
  by_cases hsmall : r.isUnrestricted = false ∧ r.size < count
  · obtain ⟨hr, hsize⟩ := hsmall
    have hreserve : r.reserve trials count = .error (.launch (.rangeTooSmall r.text count)) := by
      simp [PortRange.reserve, hr, hsize]
    rw [begin_of_tooSmall hr hsize, iterate_pass_ended, hreserve]
    exact ⟨_, _, rfl, sound_start r trials, Nat.zero_le _, .tooSmall hr hsize rfl, rfl⟩
  · have hreserve : r.reserve trials count =
        r.reserveFrom trials count (PortRange.attemptsPerPort * count) 0 [] := by
      rw [PortRange.reserve, if_neg (by simpa using hsmall)]
    rw [begin_of_room hsmall, hreserve]
    exact ended_of_going _ (sound_start r trials) (Nat.zero_le _) (Nat.zero_add _)

/-- A reservation goes by the bounds of any band that is accepted, and never crashes: neither is the
size below zero nor is there ever nothing to draw from. Within 100 passes for each port the loop
has stopped, in one of the ways it may end. The ports are all different; each is that of a
listener which binding has come to at one of the passes, and all listeners that were ever open are
still held. A band that is too small is refused before anything is drawn or bound. -/
theorem reserve_stops (hb : b.Gives r) (trials : PortTrials) (count : Nat) :
    ∃ s how, (b.pass trials count)^[PortRange.attemptsPerPort * count + 1] (b.begin count) =
        .ended s how ∧
      s.passes.length ≤ PortRange.attemptsPerPort * count ∧
      s.Ends r trials count how ∧
      s.result? how = some (r.reserve trials count) ∧
      s.ports.Nodup ∧
      (∀ p ∈ s.ports, ∃ l ∈ s.held, l.port = p ∧ ∃ i < s.passes.length, r.Opens trials i l) ∧
      (∀ n, ((b.pass trials count)^[n] (b.begin count)).search.held <+: s.held) ∧
      (r.isUnrestricted = false → r.size < count →
        s = .start ∧ how = .failed (.launch (.rangeTooSmall r.text count))) := by
  obtain rfl := hb.eq_bounds
  obtain ⟨s, how, hend, hs, hlen, hends, hresult⟩ := ended_of_begin r trials count
  refine ⟨s, how, hend, hlen, hends, hresult, hs.nodup, ?_, held_of_ended hend, ?_⟩
  · intro p hp
    obtain ⟨l, hl, rfl⟩ := (hs.mem_ports p).1 hp
    exact ⟨l, hl, rfl, hs.opened l hl⟩
  · intro hr hsize
    rw [begin_of_tooSmall hr hsize, iterate_pass_ended] at hend
    cases hend
    exact ⟨rfl, rfl⟩

/-- A band of three ports. -/
def narrow : PortRange := ⟨.ofNat 40000, .ofNat 40002, by decide⟩

/-- The second port is drawn twice, the third one is taken, and then the first one is drawn. -/
def narrowTrials : PortTrials where
  draw i := if i < 2 then 1 else if i < 6 then 2 else 0
  bind _ c := if c = .ofNat 40002 then .refused else .bound (.ofNat 50000)

/-- Two ports of three, in seven passes of the 200 that there may be. -/
theorem reserve_narrow : Gives narrow.bounds narrow ∧
    ∃ s how, (narrow.bounds.pass narrowTrials 2)^[201] (narrow.bounds.begin 2) = .ended s how ∧
      s.result? how = some (narrow.reserve narrowTrials 2) ∧
      s.passes.length = 7 ∧ s.ports = [40001, 40000].map Port.ofNat ∧
      s.held.map (·.port) = [40001, 40000].map Port.ofNat := by
  have hb : Gives narrow.bounds narrow := .ofBounds rfl
  obtain ⟨s, how, hend, -, -, hresult, -⟩ := reserve_stops hb narrowTrials 2
  have hs : s = ((narrow.bounds.pass narrowTrials 2)^[201] (narrow.bounds.begin 2)).search := by
    rw [show 201 = PortRange.attemptsPerPort * 2 + 1 from rfl, hend]
    rfl
  refine ⟨hb, s, how, hend, hresult, ?_, ?_, ?_⟩ <;> rw [hs] <;> decide +kernel

end Bounds

end KernelGate
