import KernelGate.Launcher.Scripted
import KernelGate.Proofs.Registry.Turns
import KernelGate.Proofs.Session.Reliable
import Mathlib.Data.List.Nodup

/-!
# Taking over the kernels of an earlier run

The records of the store have their turns one after another, whatever comes of those before them; a
kernel that hangs costs its own time and nothing else. The records that are kept stay in the store,
and all others leave it.

Main statements: `tookTurns_of_ends` says what a recovery comes to, `perform_startSessions` that it
does come to an end, and `startSessions_recovers` sums up a recovery and the one after it.
-/

namespace KernelGate

open Activity

namespace Registry

variable {S : Type} {Holds : S → Dict SessionRecord → Prop} {r r' : Registry S}
  {d : Dict SessionRecord} {limit : Nat}

def reportOf (limit : Nat) (turns : List Turn) : RecoveryReport where
  recovered := (turns.filter (·.taken limit)).map (·.session)
  dropped := (turns.filter fun t => !t.taken limit).map (·.session)

/-- The report is in the order of the turns. -/
theorem reportOf_cons (limit : Nat) (t : Turn) (rest : List Turn) :
    reportOf limit (t :: rest) =
      if t.taken limit then
        { reportOf limit rest with recovered := t.session :: (reportOf limit rest).recovered }
      else { reportOf limit rest with dropped := t.session :: (reportOf limit rest).dropped } := by
  cases h : t.taken limit <;> simp [reportOf, h]

/-- What a recovery comes to: each record of the store has its turn. -/
structure TookTurns (Holds : S → Dict SessionRecord → Prop) (r : Registry S)
    (d : Dict SessionRecord) (turns : List Turn) (report : RecoveryReport) (r' : Registry S) :
    Prop where
  records : turns.map (·.record) = d.values
  fleet : Fleet.Turns r.recoveryLimit r.fleet turns r'.fleet
  reported : report = reportOf r.recoveryLimit turns
  rest : r' = { r with fleet := r'.fleet, store := r'.store }
  store : Holds r'.store (d.without report.dropped)

namespace TookTurns

variable {turns : List Turn} {report : RecoveryReport}

/-- The records that are left are those that were kept. -/
theorem values (h : TookTurns Holds r d turns report r') (hfiled : Filed d) :
    (d.without report.dropped).values =
      (turns.filter (·.taken r.recoveryLimit)).map (·.record) := by
  have hnodup : (turns.map (·.session)).Nodup := by
    have hsessions := hfiled.nodup_sessions
    rwa [← h.records, List.map_map] at hsessions
  have hcongr := Dict.filter_congr (d := d)
    (p := fun session _ => decide (session ∉ report.dropped))
    (q := fun _ record => decide (record.sessionId ∉ report.dropped))
    fun session record hget => by rw [hfiled session record hget]
  rw [Dict.without, hcongr, Dict.values_filter, ← h.records, List.filter_map]
  refine congrArg _ (List.filter_congr fun t ht => ?_)
  -- No other record has the session of this one, so that it is dropped just if this one is.
  have hdropped : t.session ∈ report.dropped ↔ t.taken r.recoveryLimit = false := by
    rw [h.reported, reportOf, List.mem_map]
    constructor
    · rintro ⟨u, hu, hsession⟩
      obtain ⟨hmem, hnot⟩ := List.mem_filter.1 hu
      have hsame : u = t := List.inj_on_of_nodup_map hnodup hmem ht hsession
      rw [← hsame]
      simpa using hnot
    · intro hnot
      exact ⟨t, List.mem_filter.2 ⟨ht, by rw [hnot]; rfl⟩, rfl⟩
  show decide (t.session ∉ report.dropped) = _
  rw [Bool.eq_iff_iff, decide_eq_true_iff, hdropped, Bool.not_eq_false]

/-- Each record is reported once, as recovered or as dropped, in the order of sessions. -/
theorem reported_once (h : TookTurns Holds r d turns report r') :
    report.recovered.Sublist (d.values.map (·.sessionId)) ∧
      report.dropped.Sublist (d.values.map (·.sessionId)) ∧
      (report.recovered ++ report.dropped).Perm (d.values.map (·.sessionId)) := by
  have hsessions : turns.map (·.session) = d.values.map (·.sessionId) := by
    rw [← h.records, List.map_map]
    rfl
  rw [h.reported, ← hsessions]
  refine ⟨List.filter_sublist.map _, List.filter_sublist.map _, ?_⟩
  show ((turns.filter _).map _ ++ (turns.filter _).map _).Perm _
  rw [← List.map_append]
  exact (List.filter_append_perm _ turns).map _

/-- A record that is kept is of a kernel that is tracked in the end. -/
theorem contains_of_taken (h : TookTurns Holds r d turns report r') {t : Turn} (ht : t ∈ turns)
    (htaken : t.taken r.recoveryLimit = true) : r'.fleet.kernels.contains t.kernel.id = true := by
  have hfound : (turns.find? (·.takes r.recoveryLimit t.kernel.id)).isSome = true := by
    rw [List.find?_isSome]
    exact ⟨t, ht, by rw [Turn.takes, htaken, decide_eq_true rfl]; rfl⟩
  rw [Fleet.contains_eq_isSome, h.fleet.get?, Option.isSome_or, Option.isSome_map, hfound,
    Bool.or_true]

/-- Where every kernel is tracked already, none is asked after. -/
theorem unprobed_of_contains (h : TookTurns Holds r d turns report r')
    (htracked : ∀ record ∈ d.values, r.fleet.kernels.contains record.kernel.id = true) :
    ∀ t ∈ turns, t.probe? = none := by
  intro t ht
  obtain ⟨before, after, hsplit⟩ := List.append_of_mem ht
  have hfleet := h.fleet
  rw [hsplit] at hfleet
  refine hfleet.unprobed_iff.2 (.inl (htracked t.record ?_))
  rw [← h.records]
  exact List.mem_map_of_mem ht

/-- Where nobody is asked after, all records are kept. -/
theorem report_of_unprobed (h : TookTurns Holds r d turns report r')
    (hunprobed : ∀ t ∈ turns, t.probe? = none) :
    report = ⟨d.values.map (·.sessionId), []⟩ := by
  have htaken : ∀ t ∈ turns, t.taken r.recoveryLimit = true := by
    intro t ht
    rw [Turn.taken, hunprobed t ht]
    rfl
  have hkept : turns.filter (·.taken r.recoveryLimit) = turns := List.filter_eq_self.2 htaken
  have hnone : (turns.filter fun t => !t.taken r.recoveryLimit) = [] := by
    rw [List.filter_eq_nil_iff]
    intro t ht
    rw [htaken t ht]
    exact Bool.false_ne_true
  rw [h.reported, reportOf, hkept, hnone, ← h.records, List.map_map]
  rfl

/-- The next recovery asks after nobody, and recovers what was kept. -/
theorem again {r'' : Registry S} {turns' : List Turn} {report' : RecoveryReport}
    (h : TookTurns Holds r d turns report r') (hfiled : Filed d)
    (h' : TookTurns Holds r' (d.without report.dropped) turns' report' r'') :
    (∀ t ∈ turns', t.probe? = none) ∧ report' = ⟨report.recovered, []⟩ := by
  have hkept := h.values hfiled
  -- The records that are left were kept, so that their kernels are tracked.
  have hunprobed : ∀ t ∈ turns', t.probe? = none := by
    apply h'.unprobed_of_contains
    intro record hrecord
    rw [hkept] at hrecord
    obtain ⟨t, ht, rfl⟩ := List.mem_map.1 hrecord
    obtain ⟨hmem, htaken⟩ := List.mem_filter.1 ht
    exact h.contains_of_taken hmem htaken
  refine ⟨hunprobed, ?_⟩
  rw [h'.report_of_unprobed hunprobed, hkept, h.reported, List.map_map]
  rfl

end TookTurns

/-! ## What a recovery comes to

From the turns of the records: what is kept in the store, which kernels are tracked and how they are
reached, and what was counted. -/

/-- All that a recovery does to a registry, where the records of the store have had these turns. -/
structure Recovers (Holds : S → Dict SessionRecord → Prop) (r : Registry S)
    (d : Dict SessionRecord) (turns : List Turn) (report : RecoveryReport) (r' : Registry S) :
    Prop where
  /-- Each record has its turn, in the order of sessions. -/
  records : turns.map (·.record) = d.values
  /-- No kernel is asked after that is tracked by then: from before, or since an earlier record of
  it was kept. -/
  unprobed_iff : ∀ before t after, turns = before ++ t :: after →
    (t.probe? = none ↔ r.fleet.kernels.contains t.kernel.id = true ∨
      ∃ u ∈ before, u.taken r.recoveryLimit = true ∧ u.kernel.id = t.kernel.id)
  recovered : report.recovered = (turns.filter (·.taken r.recoveryLimit)).map (·.session)
  dropped : report.dropped = (turns.filter fun t => !t.taken r.recoveryLimit).map (·.session)
  /-- Each record is reported once, in the order of sessions. -/
  once : report.recovered.Sublist (d.values.map (·.sessionId)) ∧
    report.dropped.Sublist (d.values.map (·.sessionId)) ∧
    (report.recovered ++ report.dropped).Perm (d.values.map (·.sessionId))
  /-- The store holds the records that were kept. -/
  store : ∃ d', Holds r'.store d' ∧
    d'.values = (turns.filter (·.taken r.recoveryLimit)).map (·.record)
  /-- Kernels that were tracked are tracked as before. -/
  old : ∀ id k, r.fleet.kernels.get? id = some k → r'.fleet.kernels.get? id = some k
  /-- Any other kernel is reached as the first record of it says that was kept. -/
  kernel : ∀ id, r'.fleet.get? id =
    (r.fleet.get? id).or ((turns.find? (·.takes r.recoveryLimit id)).map (·.kernel))
  /-- Kernels that were found are tracked now. -/
  tracked : ∀ sel, r'.fleet.tracked sel =
    r.fleet.tracked sel + turns.countP fun t => t.found r.recoveryLimit && sel t.kernel
  /-- Their owners have a slot more for each, whatever the limits. -/
  active : ∀ user, r'.fleet.ledger.active user = r.fleet.ledger.active user +
    turns.countP fun t => t.found r.recoveryLimit && Fleet.ownedBy user t.kernel
  /-- Kernels, ledger, figures, the time and the store aside, nothing has changed. -/
  rest : r' = { r with
    store := r'.store
    fleet := { r.fleet with
      kernels := r'.fleet.kernels
      ledger := r'.fleet.ledger
      metrics := r'.fleet.metrics
      now := r'.fleet.now } }

/-- All clauses are read off the turns, one by one. -/
theorem TookTurns.recovers {turns : List Turn} {report : RecoveryReport}
    (h : TookTurns Holds r d turns report r') (hfiled : Filed d) :
    Recovers Holds r d turns report r' where
  records := h.records
  unprobed_iff := by
    rintro before t after rfl
    exact h.fleet.unprobed_iff
  recovered := congrArg RecoveryReport.recovered h.reported
  dropped := congrArg RecoveryReport.dropped h.reported
  once := h.reported_once
  store := ⟨_, h.store, h.values hfiled⟩
  old := fun _ _ => h.fleet.old
  kernel := h.fleet.get?
  tracked := h.fleet.tracked
  active := h.fleet.active
  rest := by
    rw [← h.fleet.rest]
    exact h.rest

/-! ## Carrying a recovery out

The calls of a recovery say, for each record whose kernel was asked after, what came of that.
Together with the records that were not asked after they make up the turns. -/

variable [SessionStore S] {Usable : String → Prop}

/-- What is left of the calls of a part of an activity. -/
theorem calls_split {talk : Talk} {before after : Calls} (h : talk.calls limit = before ++ after) :
    ∃ talk₁ talk₂ : Talk, talk = talk₁ ++ talk₂ ∧ before = talk₁.calls limit ∧
      after = talk₂.calls limit := by
  obtain ⟨talk₁, talk₂, rfl, rfl, rfl⟩ := List.map_eq_append_iff.1 h
  exact ⟨talk₁, talk₂, rfl, rfl, rfl⟩

/-- Records have their turns one after another; those that are not kept are dropped from the
store. -/
theorem turns_of_ends {records : List SessionRecord} {talk : Talk} {x : RecoveryReport}
    (hs : Reliable Usable Holds) (hd : Holds r.store d)
    (husable : ∀ record ∈ records, Usable record.sessionId)
    (h : (recoverEach limit records).Ends Passes r (talk.calls limit) r' x) :
    ∃ (turns : List Turn) (g : Fleet) (s : S), turns.map (·.record) = records ∧
      talk = turns.filterMap (·.asked) ∧ Fleet.Turns limit r.fleet turns g ∧
      x = reportOf limit turns ∧ r' = { r with fleet := g, store := s } ∧
      Holds s (d.without x.dropped) := by
  induction records generalizing r d talk x with
  | nil =>
    obtain ⟨hcalls, rfl, rfl⟩ := ends_done_iff.1 h
    cases List.map_eq_nil_iff.1 hcalls
    refine ⟨[], r'.fleet, r'.store, rfl, rfl, .nil _, rfl, rfl, ?_⟩
    rw [Dict.without_nil]
    exact hd
  | cons record rest ih =>
    obtain ⟨hrecord, hrest⟩ := List.forall_mem_cons.1 husable
    obtain ⟨r₁, outcome, _, _, h₁, h₂, hcalls⟩ := ends_bind_iff.1 h
    obtain ⟨talk₁, talk₂, rfl, rfl, rfl⟩ := calls_split hcalls
    obtain ⟨g, hg, rfl⟩ := ends_onFleet h₁
    obtain ⟨t, rfl, rfl, hturned, htaken⟩ := Fleet.turned_of_ends hg
    -- A record whose kernel is tracked already has its turn without a question to the launcher.
    have hasked : ∀ turns : List Turn, t.asked.toList ++ turns.filterMap (·.asked) =
        (t :: turns).filterMap (·.asked) := by
      intro turns
      rw [List.filterMap_cons]
      cases t.asked <;> rfl
    cases outcome with
    | ok _ =>
      obtain ⟨report, h₃, rfl⟩ := ends_map_iff.1 (ends_change_bind_iff.1 h₂)
      obtain ⟨turns, g', s, rfl, rfl, hturns, rfl, rfl, hd'⟩ :=
        ih (r := { r with fleet := g }.count Metrics.countRecovered) hd hrest h₃
      refine ⟨t :: turns, g', s, rfl, hasked turns, .cons (hturned.count _) hturns, ?_, rfl, hd'⟩
      rw [reportOf_cons, ← htaken]
      rfl
    | error e =>
      obtain ⟨report, h₃, rfl⟩ := ends_map_iff.1 (ends_change_bind_iff.1 h₂)
      obtain ⟨s, hdrop, hs'⟩ := holds_drop hs (r := { r with fleet := g }.count
        Metrics.countDropped) hd hrecord
      rw [hdrop] at h₃
      obtain ⟨turns, g', s', rfl, rfl, hturns, rfl, rfl, hd'⟩ := ih hs' hrest h₃
      refine ⟨t :: turns, g', s', rfl, hasked turns, .cons (hturned.count _) hturns, ?_, rfl, ?_⟩
      · rw [reportOf_cons, ← htaken]
        rfl
      · rw [Dict.without_cons]
        exact hd'

/-- Whatever the launcher says, the recovery has gone through all records of the store. -/
theorem tookTurns_of_ends {talk : Talk} {x : RecoveryReport} (hs : Reliable Usable Holds)
    (hd : Holds r.store d)
    (h : startSessions.Ends Passes r (talk.calls r.recoveryLimit) r' x) :
    ∃ turns, talk = turns.filterMap (·.asked) ∧ TookTurns Holds r d turns x r' := by
  have h₁ := ends_look_bind_iff.1 h
  obtain ⟨r₂, found, _, _, h₂, h₃, hcalls⟩ := ends_bind_iff.1 h₁
  obtain ⟨rfl, hrecords⟩ := ends_atOnce_iff.1 h₂
  obtain ⟨s, hrecords', hs'⟩ := holds_records hs hd
  rw [hrecords'] at hrecords
  cases hrecords
  rw [List.nil_append] at hcalls
  rw [← hcalls] at h₃
  obtain ⟨turns, g, s', hturns, hasked, hall, hreport, rfl, hd'⟩ :=
    turns_of_ends hs (r := { r with store := s }) hs' (fun _ => hs.usable_of_mem hd) h₃
  exact ⟨turns, hasked, hturns, hall, hreport, rfl, hd'⟩

theorem exists_tookTurns {calls : Calls} {x : RecoveryReport} (hs : Reliable Usable Holds)
    (hd : Holds r.store d) (h : startSessions.Ends Passes r calls r' x) :
    ∃ turns : List Turn, calls = Talk.calls r.recoveryLimit (turns.filterMap (·.asked)) ∧
      TookTurns Holds r d turns x r' := by
  obtain ⟨talk, rfl⟩ := Talk.exists_calls r.recoveryLimit calls
  obtain ⟨turns, rfl, hturns⟩ := tookTurns_of_ends hs hd h
  exact ⟨turns, rfl, hturns⟩

/-- A recovery does nothing but ask after kernels. -/
theorem probes_of_ends {calls : Calls} {report : RecoveryReport} (hs : Reliable Usable Holds)
    (hd : Holds r.store d) (h : startSessions.Ends Passes r calls r' report) :
    ∀ e ∈ calls, e.1.kind = .probe := by
  obtain ⟨turns, rfl, -⟩ := exists_tookTurns hs hd h
  intro e he
  obtain ⟨asked, hasked, rfl⟩ := List.mem_map.1 he
  obtain ⟨t, -, ht⟩ := List.mem_filterMap.1 hasked
  obtain ⟨c, -, rfl⟩ := Option.map_eq_some_iff.1 ht
  rfl

/-- No turn takes longer than a probe may take. -/
theorem limited_recoverEach (limit : Nat) (records : List SessionRecord) :
    (recoverEach (S := S) limit records).Limited limit := by
  induction records with
  | nil => trivial
  | cons record rest ih =>
    have hreattach : (Fleet.reattach (some limit) record.kernel).Limited limit := by
      intro f
      show Limited limit (if f.kernels.contains record.kernel.id = true then _ else _)
      split
      · trivial
      · refine ⟨rfl, ?_⟩
        rintro (_ | e | _)
        · trivial
        · trivial
        · exact fun _ => trivial
    have hrest : ∀ f : RecoveryReport → RecoveryReport,
        ((recoverEach (S := S) limit rest).bind fun x => .done (f x)).Limited limit :=
      fun f => ih.bind fun _ => trivial
    refine Limited.bind (Limited.zoom hreattach) ?_
    rintro (e | _)
    · exact fun _ => hrest _
    · exact fun _ => hrest _

variable {L : Type} [Launcher L]

/-- However the launcher behaves, a recovery ends, and takes no longer than the limit for each
kernel that is asked after. -/
theorem perform_startSessions {rh : Rehearsal L (Registry S)} (hs : Reliable Usable Holds)
    (hfree : rh.patrols = []) (hd : Holds rh.state.store d) :
    ∃ (rh' : Rehearsal L (Registry S)) (report : RecoveryReport) (turns : List Turn),
      rh.perform startSessions = (rh', some report) ∧
      TookTurns Holds rh.state d turns report rh'.state ∧
      Launcher.Asked rh.launcher (turns.filterMap (·.asked)) rh'.launcher ∧ rh'.patrols = [] ∧
      rh.now ≤ rh'.now ∧
      rh'.now ≤ rh.now + (turns.filterMap (·.asked)).length * rh.state.recoveryLimit := by
  have hdrift : ∀ r : Registry S, Passes r r := fun r => ⟨0, rfl⟩
  -- The limit is looked up first; from then on all calls are made with it.
  obtain ⟨rh', report, talk, hperform, hends, hasked, hfree', hle, htime⟩ :=
    Rehearsal.perform_of_limited hdrift
      (limited_recoverEach rh.state.recoveryLimit rh.state.records.2)
      (r := { rh with state := rh.state.records.1 }) hfree
  have hall : startSessions.Ends Passes rh.state (talk.calls rh.state.recoveryLimit) rh'.state
      report := .step (.step hends)
  obtain ⟨turns, rfl, hturns⟩ := tookTurns_of_ends hs hd hall
  exact ⟨rh', report, turns, hperform, hturns, hasked, hfree', hle, htime⟩

/-- However the launcher behaves, a recovery ends within the limit for each record. It is through
with all records then: the next one asks after nobody, and finds the records that were kept. -/
theorem startSessions_recovers {rh : Rehearsal L (Registry S)} (hs : Reliable Usable Holds)
    (hfree : rh.patrols = []) (hd : Holds rh.state.store d) :
    ∃ (rh' rh'' : Rehearsal L (Registry S)) (report : RecoveryReport) (turns : List Turn),
      rh.perform startSessions = (rh', some report) ∧
      rh'.now ≤ rh.now + d.size * rh.state.recoveryLimit ∧
      Launcher.Asked rh.launcher (turns.filterMap (·.asked)) rh'.launcher ∧
      Recovers Holds rh.state d turns report rh'.state ∧
      rh'.perform startSessions = (rh'', some ⟨report.recovered, []⟩) ∧
      rh''.launcher = rh'.launcher ∧ rh''.now = rh'.now ∧
      rh''.state.fleet = { rh'.state.fleet with metrics := rh''.state.fleet.metrics } ∧
      ∃ d', Holds rh'.state.store d' ∧ Holds rh''.state.store d' := by
  obtain ⟨rh', report, turns, hperform, hturns, hasked, hfree', -, htime⟩ :=
    perform_startSessions hs hfree hd
  obtain ⟨rh'', report', turns', hperform', hturns', hasked', -, hle, htime'⟩ :=
    perform_startSessions hs hfree' hturns.store
  have hfiled := hs.filed hd
  obtain ⟨hunprobed, rfl⟩ := hturns.again hfiled hturns'
  have hnobody : turns'.filterMap (·.asked) = [] := by
    rw [List.filterMap_eq_nil_iff]
    intro t ht
    rw [Turn.asked, hunprobed t ht]
    rfl
  have hstore := hturns'.store
  rw [hnobody] at hasked' htime'
  rw [Dict.without_nil] at hstore
  refine ⟨rh', rh'', report, turns, hperform, ?_, hasked, hturns.recovers hfiled,
    hperform', ?_, ?_, hturns'.fleet.figures hunprobed, _, hturns.store, hstore⟩
  · have hlength : (turns.filterMap (·.asked)).length ≤ d.size := by
      rw [Dict.size_eq_length_values, ← hturns.records, List.length_map]
      exact List.length_filterMap_le _ _
    exact Nat.le_trans htime (Nat.add_le_add_left (Nat.mul_le_mul_right _ hlength) _)
  · exact hasked'.eq_of_nil
  · rw [List.length_nil, Nat.zero_mul, Nat.add_zero] at htime'
    exact Nat.le_antisymm htime' hle

/-- Two records of one kernel, and one of another. -/
def leftOver : MemoryStore :=
  .ofList [("first", ⟨"first", ⟨"a", "python3", "alice", "localhost", []⟩, .silent⟩),
    ("second", ⟨"second", ⟨"a", "python3", "alice", "elsewhere", []⟩, .silent⟩),
    ("third", ⟨"third", ⟨"b", "python3", "alice", "localhost", []⟩, .silent⟩)]

/-- The records left over stand under their sessions. -/
theorem filed_leftOver : Filed leftOver := by
  intro session record hget
  have hall : ∀ e ∈ leftOver.toList, e.2.sessionId = e.1 := by decide +kernel
  exact hall _ (Dict.mem_toList.2 hget)

/-- A launcher that never says anything of the kernel b. -/
def silentOnB : ScriptedLauncher where
  script := ⟨[], (∅ : Dict CallTable).insert "b" [(.probe, .hangs)]⟩
  nameOf := id
  asked := []

/-- A gateway starts, and one kernel of the run before it does not answer. -/
def waking : Rehearsal ScriptedLauncher (Registry MemoryStore) :=
  .new (.new (.empty (Fleet.openRules none) 0 Fleet.plainSupply) leftOver 1000) silentOnB

theorem recovery_of_leftOver :
    ∃ rh' rh'', waking.perform startSessions = (rh', some ⟨["first", "second"], ["third"]⟩) ∧
      rh'.now ≤ 3 * 1000 ∧ rh'.state.fleet.ledger.active "alice" = 1 ∧
      rh'.perform startSessions = (rh'', some ⟨["first", "second"], []⟩) := by
  have hfree : waking.patrols = [] := rfl
  obtain ⟨rh', rh'', report, turns, hperform, htime, -, hrecovers, hagain, -⟩ :=
    startSessions_recovers reliable_memory hfree ⟨rfl, filed_leftOver⟩
  have hreport : (waking.perform startSessions).2 = some ⟨["first", "second"], ["third"]⟩ := by
    decide +kernel
  have hactive : (waking.perform startSessions).1.state.fleet.ledger.active "alice" = 1 := by
    decide +kernel
  rw [hperform] at hreport hactive
  cases hreport
  exact ⟨rh', rh'', hperform, htime, hactive, hagain⟩

end Registry

end KernelGate
