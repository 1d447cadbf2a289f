import KernelGate.Proofs.Dict.Searching
import KernelGate.Session.Registry

/-!
# Stores that never fail

A store is reliable if what it holds is a dictionary of records by their sessions, from which it
lists all, and in which it keeps and forgets what it is told to. Not every store can do so for every
session: a file cannot be named for one with a slash. So a store is reliable for the sessions that
it can use, and those that it holds records of are among them. The dictionary that a gateway without
persistence uses is reliable for all.

Main statements: `reliable_memory`, `Reliable.restrict`; `holds_enlist` and `holds_forget` say what
starting and ending a kernel do to the records.
-/

namespace KernelGate

/-- Every record is kept under its session. -/
def Filed (d : Dict SessionRecord) : Prop :=
  ∀ session record, d.get? session = some record → record.sessionId = session

/-- The records of a dictionary are what a store holds, and the store never fails for a session that
it can use. -/
structure Reliable {S : Type} [SessionStore S] (Usable : String → Prop)
    (Holds : S → Dict SessionRecord → Prop) : Prop where
  filed : ∀ {s d}, Holds s d → Filed d
  usable : ∀ {s d session record}, Holds s d → d.get? session = some record → Usable session
  list : ∀ {s d}, Holds s d → ∃ s', SessionStore.list s = (s', .ok d.values) ∧ Holds s' d
  persist : ∀ {s d} (record : SessionRecord), Usable record.sessionId → Holds s d →
    ∃ s', SessionStore.persist s record = (s', .ok ()) ∧ Holds s' (d.insert record.sessionId record)
  remove : ∀ {s d} (session : String), Usable session → Holds s d →
    ∃ s', SessionStore.remove s session = (s', .ok ()) ∧ Holds s' (d.erase session)

namespace Filed

variable {d : Dict SessionRecord}

theorem insert (h : Filed d) (record : SessionRecord) :
    Filed (d.insert record.sessionId record) := by
  intro session record' hget
  rw [Dict.get?_insert] at hget
  split at hget
  · next hsession =>
    cases hget
    exact hsession.symm
  · exact h session record' hget

theorem filter (h : Filed d) (p : String → SessionRecord → Bool) : Filed (d.filter p) := by
  intro session record hget
  rw [Dict.get?_filter, Option.filter_eq_some_iff] at hget
  exact h session record hget.1

theorem erase (h : Filed d) (session : String) : Filed (d.erase session) := h.filter _

theorem get? (h : Filed d) {record : SessionRecord} (hmem : record ∈ d.values) :
    d.get? record.sessionId = some record := by
  obtain ⟨session, hget⟩ := Dict.mem_values.1 hmem
  rw [h session record hget]
  exact hget

/-- No two records are of one session. -/
theorem nodup_sessions (h : Filed d) : (d.values.map (·.sessionId)).Nodup := by
  have hkeys : d.values.map (·.sessionId) = d.keys := by
    unfold Dict.values Dict.keys
    rw [List.map_map]
    refine List.map_congr_left ?_
    rintro ⟨session, record⟩ hmem
    exact h session record (Dict.mem_toList.1 hmem)
  rw [hkeys]
  exact d.nodup_keys

end Filed

namespace Reliable

variable {S : Type} [SessionStore S] {Usable : String → Prop}
  {Holds : S → Dict SessionRecord → Prop}

theorem usable_of_mem (hs : Reliable Usable Holds) {s : S} {d : Dict SessionRecord} (hd : Holds s d)
    {record : SessionRecord} (hmem : record ∈ d.values) : Usable record.sessionId :=
  hs.usable hd ((hs.filed hd).get? hmem)

/-- A store that never fails for some sessions never fails for fewer, as long as it holds records of
no others. -/
theorem restrict {Fewer : String → Prop} (hs : Reliable Usable Holds)
    (hfewer : ∀ session, Fewer session → Usable session) :
    Reliable Fewer fun s d =>
      Holds s d ∧ ∀ session record, d.get? session = some record → Fewer session where
  filed h := hs.filed h.1
  usable h hget := h.2 _ _ hget
  list := by
    rintro s d ⟨hd, hall⟩
    obtain ⟨s', hlist, hd'⟩ := hs.list hd
    exact ⟨s', hlist, hd', hall⟩
  persist := by
    rintro s d record husable ⟨hd, hall⟩
    obtain ⟨s', hpersist, hd'⟩ := hs.persist record (hfewer _ husable) hd
    refine ⟨s', hpersist, hd', fun session record' hget => ?_⟩
    rw [Dict.get?_insert] at hget
    split at hget
    · next hsession =>
      rw [hsession]
      exact husable
    · exact hall session record' hget
  remove := by
    rintro s d session husable ⟨hd, hall⟩
    obtain ⟨s', hremove, hd'⟩ := hs.remove session (hfewer _ husable) hd
    refine ⟨s', hremove, hd', fun session' record hget => ?_⟩
    rw [Dict.get?_erase] at hget
    split at hget
    · cases hget
    · exact hall session' record hget

end Reliable

/-- A dictionary is a store that never fails, whatever its sessions are called. -/
theorem reliable_memory :
    Reliable (fun _ => True) fun (s : MemoryStore) d => s = d ∧ Filed d where
  filed h := h.2
  usable _ _ := trivial
  list := by
    rintro s d ⟨rfl, hfiled⟩
    exact ⟨s, rfl, rfl, hfiled⟩
  persist := by
    rintro s d record - ⟨rfl, hfiled⟩
    exact ⟨_, rfl, rfl, hfiled.insert record⟩
  remove := by
    rintro s d session - ⟨rfl, hfiled⟩
    exact ⟨_, rfl, rfl, hfiled.erase session⟩

namespace Registry

variable {S : Type} [SessionStore S] {Usable : String → Prop}
  {Holds : S → Dict SessionRecord → Prop} {r : Registry S} {d : Dict SessionRecord}

theorem holds_records (hs : Reliable Usable Holds) (hd : Holds r.store d) :
    ∃ s, r.records = ({ r with store := s }, d.values) ∧ Holds s d := by
  obtain ⟨s, hlist, hs'⟩ := hs.list hd
  refine ⟨s, ?_, hs'⟩
  simp only [records, hlist]
  rfl

/-- A kernel that has started has a record from then on. -/
theorem holds_enlist (hs : Reliable Usable Holds) (hd : Holds r.store d)
    (husable : Usable (r.fleet.supply.sessionId r.named)) (h : KernelHandle) (p : LaunchParams) :
    ∃ s, r.enlist h p =
        ({ r with started := r.started.add h.id, named := r.named + 1, store := s },
          ⟨r.fleet.supply.sessionId r.named, h, p⟩) ∧
      Holds s (d.insert (r.fleet.supply.sessionId r.named)
        ⟨r.fleet.supply.sessionId r.named, h, p⟩) := by
  obtain ⟨s, hpersist, hs'⟩ := hs.persist ⟨r.fleet.supply.sessionId r.named, h, p⟩ husable hd
  refine ⟨s, ?_, hs'⟩
  simp only [enlist, hpersist]

theorem holds_drop (hs : Reliable Usable Holds) (hd : Holds r.store d) {session : String}
    (husable : Usable session) :
    ∃ s, r.drop session = { r with store := s } ∧ Holds s (d.erase session) := by
  obtain ⟨s, hremove, hs'⟩ := hs.remove session husable hd
  refine ⟨s, ?_, hs'⟩
  simp only [drop, hremove]

theorem holds_drops (hs : Reliable Usable Holds) (hd : Holds r.store d)
    {records : List SessionRecord} (husable : ∀ record ∈ records, Usable record.sessionId) :
    ∃ s, records.foldl (fun r record => r.drop record.sessionId) r = { r with store := s } ∧
      Holds s (d.without (records.map (·.sessionId))) := by
  induction records generalizing r d with
  | nil =>
    refine ⟨r.store, rfl, ?_⟩
    rw [List.map_nil, Dict.without_nil]
    exact hd
  | cons record rest ih =>
    obtain ⟨hrecord, hrest⟩ := List.forall_mem_cons.1 husable
    obtain ⟨s, hdrop, hs'⟩ := holds_drop hs hd hrecord
    obtain ⟨s', hdrops, hd'⟩ := ih (r := { r with store := s }) hs' hrest
    refine ⟨s', ?_, ?_⟩
    · rw [List.foldl_cons, hdrop, hdrops]
    · rw [List.map_cons, Dict.without_cons]
      exact hd'

/-- With a kernel all its records go. -/
theorem holds_forget (hs : Reliable Usable Holds) (hd : Holds r.store d) (kernel : String) :
    ∃ s, r.forget kernel = { r with started := r.started.erase kernel, store := s } ∧
      Holds s (d.filter fun _ record => record.kernel.id != kernel) := by
  obtain ⟨s, hlist, hs'⟩ := hs.list hd
  have husable : ∀ record ∈ d.values.filter fun record => record.kernel.id = kernel,
      Usable record.sessionId :=
    fun record hmem => hs.usable_of_mem hd (List.mem_filter.1 hmem).1
  obtain ⟨s', hdrops, hd'⟩ := holds_drops hs (r := { r with
    started := r.started.erase kernel, store := s }) hs' husable
  refine ⟨s', ?_, ?_⟩
  · simp only [forget, hlist]
    exact hdrops
  · have hfiled := hs.filed hd
    have hcongr := Dict.filter_congr (d := d)
      (p := fun _ record => record.kernel.id != kernel)
      (q := fun session _ => decide (session ∉
        (d.values.filter fun record => record.kernel.id = kernel).map (·.sessionId))) ?_
    · rw [hcongr]
      exact hd'
    · intro session record hget
      have hsession := hfiled session record hget
      rw [Bool.eq_iff_iff, bne_iff_ne, decide_eq_true_iff, List.mem_map]
      constructor
      · rintro hne ⟨record', hmem, hsession'⟩
        obtain ⟨hvalues, hkernel⟩ := List.mem_filter.1 hmem
        -- The record that is to go has the session of this one, so that it is this one.
        have hsame := hfiled.get? hvalues
        rw [hsession', hget] at hsame
        cases hsame
        exact hne (of_decide_eq_true hkernel)
      · intro hnot heq
        refine hnot ⟨record, List.mem_filter.2 ⟨Dict.mem_values.2 ⟨session, hget⟩, ?_⟩, hsession⟩
        exact decide_eq_true heq

end Registry

end KernelGate
