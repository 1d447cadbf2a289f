import KernelGate.Proofs.Port.Passes

/-!
# Ports in the band

A port that is drawn lies in the band, and a listener has the port that was bound, unless port 0
was: to bind port 0 is to leave the choice to the system, which knows of no band. A band that begins
at 0 draws it like any other port.

Main statements: `ports_in_band_iff` (which searches end with ports of the band) and
`in_band_iff_of_reserve` (for which bands all do).
-/

namespace KernelGate

namespace PortRange

open PortSearch

variable {r : PortRange} {trials : PortTrials} {count i : Nat} {s : PortSearch}

/-- A port is of the band if it lies between the ends. -/
theorem contains_iff {p : Port} : r.contains p = true ↔ r.lower ≤ p ∧ p ≤ r.upper := by
  simp [contains]

/-- What is drawn lies in the band. -/
theorem contains_pick (r : PortRange) (random : Nat) : r.contains (r.pick random) = true := by
  have hle : r.lower.val ≤ r.upper.val := r.lower_le_upper
  have hmod := Nat.mod_lt random (show 0 < r.upper.val - r.lower.val + 1 by omega)
  rw [contains_iff, Fin.le_def, Fin.le_def]
  simp only [pick]
  omega

/-- Where there is a restriction, ports are drawn from the band. -/
theorem candidate_of_restricted (hr : r.isUnrestricted = false) (random : Nat) :
    r.candidate random = r.pick random := by
  simp [candidate, draw?, hr]

/-- Only a listener that was left to the system can have a port outside the band. -/
theorem Opens.contains_iff (hr : r.isUnrestricted = false) {l : PortListener}
    (h : r.Opens trials i l) :
    r.contains l.port = true ↔ (l.candidate = .any → r.contains l.port = true) := by
  obtain ⟨hcandidate, free, -, hport⟩ := h
  constructor
  · intro hin _
    exact hin
  · intro hany
    by_cases hc : l.candidate = .any
    · exact hany hc
    · rw [hport, boundPort, if_neg hc, hcandidate, candidate_of_restricted hr]
      exact contains_pick ..

/-- The ports of a search lie in the band just if those do that were left to the system. -/
theorem ports_in_band_iff (hr : r.isUnrestricted = false) (hs : s.Sound r trials) :
    (∀ p ∈ s.ports, r.contains p = true) ↔
      ∀ l ∈ s.held, l.candidate = .any → r.contains l.port = true := by
  constructor
  · intro h l hl _
    exact h l.port ((hs.mem_ports _).2 ⟨l, hl, rfl⟩)
  · intro h p hp
    obtain ⟨l, hl, rfl⟩ := (hs.mem_ports p).1 hp
    obtain ⟨i, -, hopens⟩ := hs.opened l hl
    exact (hopens.contains_iff hr).2 (h l hl)

/-- A band that does not begin at 0 leaves nothing to the system. -/
theorem candidate_ne_any (hr : r.isUnrestricted = false) (hlower : r.lower ≠ .any) (random : Nat) :
    r.candidate random ≠ .any := by
  intro h
  have hin := (contains_iff (r := r)).1 (contains_pick r random)
  rw [← candidate_of_restricted hr, h] at hin
  exact hlower (Fin.le_zero_iff.1 hin.1)

/-- Every port lies in a band from 0 to the last port. -/
theorem contains_of_all (hlower : r.lower = .any) (hupper : r.upper.val = 65535) (p : Port) :
    r.contains p = true := by
  rw [contains_iff, hlower, Fin.le_def, Fin.le_def, hupper]
  exact ⟨Nat.zero_le _, by omega⟩

/-- The first draw is the lower end, and the system picks the last port of all. -/
def farTrials : PortTrials := ⟨fun _ => 0, fun _ _ => .bound (Fin.last 65535)⟩

/-- A band from 0 on may come to any port at all. -/
theorem reserve_farTrials (hr : r.isUnrestricted = false) (hlower : r.lower = .any) :
    r.reserve farTrials 1 = .ok [Fin.last 65535] := by
  have hsize : ¬ r.size < 1 := by
    simp [size, hr]
  have hdraw : (r.draw? 0).getD .any = .any := by
    simp only [draw?, hr, pick, hlower, Nat.zero_mod]
    rfl
  have hattempt : r.attempt farTrials 0 [] = .ok [Fin.last 65535] := by
    simp [attempt, farTrials, hdraw, boundPort]
  have hloop : r.reserveFrom farTrials 1 100 0 [] = .ok [Fin.last 65535] := by
    simp [reserveFrom, hattempt]
  rw [reserve, if_neg (by simpa [hr] using hsize)]
  exact hloop

/-- A band that does not begin at 0 has all the ports that are found. -/
theorem in_band_of_lower (hr : r.isUnrestricted = false) (hlower : r.lower ≠ .any)
    (hs : s.Sound r trials) : ∀ p ∈ s.ports, r.contains p = true := by
  refine (ports_in_band_iff hr hs).2 ?_
  intro l hl hany
  obtain ⟨i, -, hopens⟩ := hs.opened l hl
  rw [hopens.1] at hany
  exact absurd hany (candidate_ne_any hr hlower _)

/-- A reservation that succeeds is a search that returns. -/
theorem search_of_reserve {ports : List Port} (h : r.reserve trials count = .ok ports) :
    ∃ s, (r.bounds.pass trials count)^[attemptsPerPort * count + 1] (r.bounds.begin count) =
      .ended s .returned ∧ s.ports = ports ∧ s.Sound r trials := by
  obtain ⟨s, how, hend, hs, -, -, hresult⟩ := Bounds.ended_of_begin r trials count
  rw [h] at hresult
  cases how with
  | returned =>
    cases hresult
    exact ⟨s, hend, rfl, hs⟩
  | failed e => cases hresult
  | crashed => cases hresult

/-- The ports that are reserved from a band lie in it, whatever is drawn and bound, just for the
bands that do not begin at 0 or that have all ports in them. On one run they do just if no listener
that was left to the system has a port outside. -/
theorem in_band_iff_of_reserve (hr : r.isUnrestricted = false) :
    ((∀ trials count ports, r.reserve trials count = .ok ports →
        ∀ p ∈ ports, r.contains p = true) ↔ r.lower ≠ .any ∨ r.upper.val = 65535) ∧
      ∀ trials count ports, r.reserve trials count = .ok ports →
        ∃ s, (r.bounds.pass trials count)^[attemptsPerPort * count + 1] (r.bounds.begin count) =
            .ended s .returned ∧
          s.ports = ports ∧
          ((∀ p ∈ ports, r.contains p = true) ↔
            ∀ l ∈ s.held, l.candidate = .any → r.contains l.port = true) := by
  refine ⟨⟨?_, ?_⟩, ?_⟩
  · intro hall
    by_contra hcon
    rw [not_or, not_not] at hcon
    obtain ⟨hlower, hupper⟩ := hcon
    have hin := hall farTrials 1 _ (reserve_farTrials hr hlower) _ List.mem_cons_self
    have hle := (contains_iff.1 hin).2
    rw [Fin.le_def, Fin.val_last] at hle
    omega
  · intro hband trials count ports hports p hp
    by_cases hlower : r.lower = .any
    · exact contains_of_all hlower (hband.resolve_left fun h => h hlower) p
    · obtain ⟨s, -, rfl, hs⟩ := search_of_reserve hports
      exact in_band_of_lower hr hlower hs p hp
  · intro trials count ports hports
    obtain ⟨s, hend, rfl, hs⟩ := search_of_reserve hports
    exact ⟨s, hend, rfl, ports_in_band_iff hr hs⟩

/-- A band of five ports that begins at 0. -/
def lowBand : PortRange := ⟨.any, .ofNat 4, by decide⟩

/-- Each port of the band is drawn once, and all can be bound; the system's own choice is 40000. -/
def lowTrials : PortTrials := ⟨fun i => 3 * i + 2, fun _ _ => .bound (.ofNat 40000)⟩

theorem reserve_lowBand :
    lowBand.reserve lowTrials 5 = .ok ([2, 40000, 3, 1, 4].map Port.ofNat) := by
  cbv

/-- A band that begins at 0 and ends before the last port is none of those that keep their ports,
and on the run that draws each port once a listener is left to the system and has a port outside. -/
theorem in_band_of_lowBand : lowBand.isUnrestricted = false ∧
    ¬ (∀ trials count ports, lowBand.reserve trials count = .ok ports →
        ∀ p ∈ ports, lowBand.contains p = true) ∧
    ∃ s, (lowBand.bounds.pass lowTrials 5)^[attemptsPerPort * 5 + 1] (lowBand.bounds.begin 5) =
        .ended s .returned ∧
      ¬ ∀ l ∈ s.held, l.candidate = .any → lowBand.contains l.port = true := by
  have hr : lowBand.isUnrestricted = false := by decide
  obtain ⟨hbands, hruns⟩ := in_band_iff_of_reserve hr
  obtain ⟨s, hend, -, hiff⟩ := hruns lowTrials 5 _ reserve_lowBand
  refine ⟨hr, ?_, s, hend, ?_⟩
  · rw [hbands]
    decide +kernel
  · rw [← hiff]
    intro hin
    exact absurd (hin (.ofNat 40000) (by decide +kernel)) (by decide +kernel)

/-- A restricted band of which a port is reserved that lies outside it. -/
theorem stray_of_lowBand : lowBand.isUnrestricted = false ∧
    Bounds.Gives lowBand.bounds lowBand ∧
    lowBand.reserve lowTrials 5 = .ok ([2, 40000, 3, 1, 4].map Port.ofNat) ∧
    lowBand.contains (.ofNat 40000) = false :=
  ⟨by decide, .ofBounds rfl, reserve_lowBand, by decide⟩

end PortRange

end KernelGate
