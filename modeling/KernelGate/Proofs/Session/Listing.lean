import KernelGate.Proofs.Session.Refinement

/-!
# What a folder lists

Anything may stand in the folder of a file store: drafts that were left behind, folders, files of
other programs, records that were spoilt. Its listing succeeds all the same, and each entry answers
for itself: it gives the record that it has of its own, or nothing, whatever stands beside it.

Main statements: `recordIn?_eq_own` (what the store reads of an entry is the entry's own record),
`Contents.own_perm` (one entry's record apart from all others), `lists_own_records`.
-/

namespace KernelGate.FileStore

/-! ## Entries and their records

What an entry gives to a listing is told by its name, its path and its bytes. No other entry is
looked at. -/

/-- A name with an extension: that stands behind the last dot, and something stands before it. -/
def HasExtension (name extension : String) : Prop :=
  '.' ∉ extension.toList ∧ ∃ stem, stem ≠ "" ∧ name = stem ++ "." ++ extension

/-- The store looks at the end of a name; that is where a name has its extension. -/
theorem isRecordName_iff_hasExtension {name : String} :
    isRecordName name = true ↔ HasExtension name "json" := by
  have hdot (stem : String) : stem ++ "." ++ "json" = stem ++ ".json" := by
    rw [String.append_assoc]
    rfl
  rw [isRecordName_iff, HasExtension]
  constructor
  · rintro ⟨⟨stem, hstem⟩, hne⟩
    have hname : name = String.ofList stem ++ ".json" := by
      apply String.toList_inj.mp
      simp [← hstem]
    refine ⟨by decide, String.ofList stem, ?_, by rw [hdot, hname]⟩
    intro hnil
    apply hne
    rw [hname, hnil, String.empty_append]
  · rintro ⟨-, stem, hstem, rfl⟩
    rw [hdot]
    refine ⟨by simp, fun he => hstem ?_⟩
    simpa using congrArg String.toList he

instance (name : String) : Decidable (HasExtension name "json") :=
  decidable_of_iff _ (isRecordName_iff.symm.trans isRecordName_iff_hasExtension)

/-- The record that an entry of a folder has: it is a file with the extension of records, its path
is not too long to be read, and its bytes say what the record is. -/
def own? (root : String) : String × FileEntry → Option SessionRecord
  | (_, .folder _) => none
  | (name, .file bytes) =>
    if HasExtension name "json" ∧ (Files.join root name).utf8ByteSize < Files.maxPath then
      (SessionRecord.decoder.readBytes bytes).toOption
    else none

@[simp] theorem own?_folder (root name : String) (children : Folder) :
    own? root (name, .folder children) = none := rfl

/-- A whole record is read back, under whatever name it stands. -/
@[simp] theorem own?_bytes (root name : String) (r : SessionRecord) :
    own? root (name, .file r.bytes) =
      if HasExtension name "json" ∧ (Files.join root name).utf8ByteSize < Files.maxPath then some r
      else none := by
  rw [own?, SessionRecord.readBytes_bytes]
  rfl

/-! ## Contents

Two folders that differ in one entry have the same other entries, in the same order. So the record
of that entry can be told apart from all others. -/

/-- What a folder of the host can hold: entries in the order of their names, and no name that leads
elsewhere. -/
structure Contents where
  entries : Folder
  sorted : Entries.Sorted entries
  plain : ∀ e ∈ entries, Files.Plain e.1

namespace Contents

/-- What stands under a name. -/
def get? (c : Contents) (name : String) : Option FileEntry := Entries.find? name c.entries

/-- The record that the entry of a name has, if there is such an entry. -/
def own? (c : Contents) (root name : String) : Option SessionRecord :=
  (c.get? name).bind fun e => FileStore.own? root (name, e)

/-- But for what stands under one name, if anything does, the contents are the same. -/
def SameBut (c d : Contents) (name : String) : Prop :=
  ∀ other, other ≠ name → c.get? other = d.get? other

/-- The records that the entries of all other names have. -/
def others (c : Contents) (root name : String) : List SessionRecord :=
  (c.entries.filter (·.1 ≠ name)).filterMap (FileStore.own? root)

/-- What the other entries have does not depend on this one. -/
theorem others_eq {c d : Contents} {name : String} (h : c.SameBut d name) (root : String) :
    c.others root name = d.others root name := by
  have hentries : c.entries.filter (·.1 ≠ name) = d.entries.filter (·.1 ≠ name) := by
    apply Entries.ext (Entries.sorted_filter _ c.sorted) (Entries.sorted_filter _ d.sorted)
    intro other
    by_cases hother : other = name
    · rw [hother, Files.find?_filter_self, Files.find?_filter_self]
    · rw [Files.find?_filter_of_ne _ hother, Files.find?_filter_of_ne _ hother]
      exact h other hother
  rw [others, others, hentries]

/-- What stands under one name is not what is found under another. -/
theorem find?_replace {name other : String} (a b : FileEntry) (hne : other ≠ name)
    (front rest : Folder) :
    Entries.find? other (front ++ (name, a) :: rest) =
      Entries.find? other (front ++ (name, b) :: rest) := by
  induction front with
  | nil => simp [Entries.find?, hne]
  | cons e front ih => simp only [List.cons_append, Entries.find?, ih]

/-- Among the entries of a folder, the one of a name stands before or behind all others. -/
theorem perm_filter {f : Folder} (h : Entries.Sorted f) (name : String) :
    f.Perm (((Entries.find? name f).map fun e => (name, e)).toList ++ f.filter (·.1 ≠ name)) := by
  induction f with
  | nil => exact .nil
  | cons e rest ih =>
    obtain ⟨habove, hrest⟩ := List.pairwise_cons.mp h
    rw [Entries.find?]
    by_cases he : name = e.1
    · subst he
      -- Names strictly ascend, so that no other entry is of this name.
      have hothers : rest.filter (·.1 ≠ e.1) = rest := by
        apply List.filter_eq_self.mpr
        intro a ha
        have hne : a.1 ≠ e.1 := fun heq => String.lt_irrefl _ (heq ▸ habove a ha)
        simpa using hne
      rw [if_pos rfl, List.filter_cons_of_neg (by simp), hothers]
      exact .refl _
    · rw [if_neg he, List.filter_cons_of_pos (by simpa using Ne.symm he)]
      exact ((ih hrest).cons e).trans List.perm_middle.symm

/-- The records of all entries are the one of a name and those of the others. -/
theorem own_perm (c : Contents) (root name : String) :
    (c.entries.filterMap (FileStore.own? root)).Perm
      ((c.own? root name).toList ++ c.others root name) := by
  have hperm := (perm_filter c.sorted name).filterMap (FileStore.own? root)
  rw [List.filterMap_append] at hperm
  have hown : ((c.get? name).map fun e => (name, e)).toList.filterMap (FileStore.own? root) =
      (c.own? root name).toList := by
    rw [own?]
    cases c.get? name with
    | none => rfl
    | some e => cases he : FileStore.own? root (name, e) <;> simp [he]
  rwa [show Entries.find? name c.entries = c.get? name from rfl, hown] at hperm

end Contents

/-! ## The listing

The listing goes through the names that look like those of records, and leaves out what cannot be
read or does not say what it is. It never fails as long as the folder is there. -/

variable {s : FileStore}

/-- What the store reads of an entry is the entry's own record. -/
theorem recordIn?_eq_own {c : Contents} (h : s.files.At s.root c.entries) {e : String × FileEntry}
    (he : e ∈ c.entries) :
    (if isRecordName e.1 then s.recordIn? e.1 else none) = own? s.root e := by
  obtain ⟨name, entry⟩ := e
  have hfind : Entries.find? name c.entries = some entry :=
    (Entries.find?_eq_some_iff c.sorted).mpr he
  have hrecord : (isRecordName name = true) = HasExtension name "json" :=
    propext isRecordName_iff_hasExtension
  by_cases hshort : (Files.join s.root name).utf8ByteSize < Files.maxPath
  · rw [recordIn?, h.read_of_short (c.plain _ he) hshort, hfind]
    cases entry with
    | folder children => simp [own?]
    | file bytes => simp [own?, hrecord, hshort]
  · have hnone : s.recordIn? name = none := by
      rw [recordIn?]
      split
      · rfl
      · next bytes hread => exact absurd (Files.short_of_read hread) hshort
    rw [hnone, ite_self]
    cases entry <;> simp [own?, hshort]

/-- What is listed are the entries' own records, in order. -/
theorem list_eq_own {c : Contents} (h : s.files.At s.root c.entries) :
    s.list = .ok (SessionRecord.sort (c.entries.filterMap (own? s.root))) := by
  have hrecords : ((c.entries.map (·.1)).filter isRecordName).filterMap s.recordIn? =
      c.entries.filterMap (own? s.root) := by
    rw [List.filterMap_filter, List.filterMap_map]
    exact List.filterMap_congr fun e he => recordIn?_eq_own h he
  rw [list, h.list]
  simp only [hrecords]

/-- Whatever stands in the folder, the listing succeeds, and gives the records that the entries have
of their own, in the order of the sessions. Whatever comes to stand under one name, in place of what
stood there, if anything did, the listing changes by the records of these two entries only. -/
theorem lists_own_records {c : Contents} (h : s.files.At s.root c.entries) :
    ∃ records, s.list = .ok records ∧
      records.Pairwise (fun a b => a.sessionId ≤ b.sessionId) ∧
      records.Perm (c.entries.filterMap (own? s.root)) ∧
      ∀ (name : String) (d : Contents) (files : Files), c.SameBut d name →
        files.At s.root d.entries →
          ∃ others records', list { s with files } = .ok records' ∧
            records'.Pairwise (fun a b => a.sessionId ≤ b.sessionId) ∧
            records.Perm ((c.own? s.root name).toList ++ others) ∧
            records'.Perm ((d.own? s.root name).toList ++ others) := by
  have hperm := SessionRecord.sort_perm (c.entries.filterMap (own? s.root))
  refine ⟨_, list_eq_own h, SessionRecord.pairwise_sort _, hperm, ?_⟩
  intro name d files hsame hat
  refine ⟨c.others s.root name, _, list_eq_own (s := { s with files }) hat,
    SessionRecord.pairwise_sort _, hperm.trans (c.own_perm s.root name), ?_⟩
  rw [Contents.others_eq hsame]
  exact (SessionRecord.sort_perm _).trans (d.own_perm s.root name)

/-! ### A cluttered folder -/

/-- Records under names of their own and of others, a draft, a part of a record, a folder, a file
that is nothing but an extension, and what stands under the name of another record. -/
def cluttered (second : FileEntry) : Folder :=
  [(".json", .file (noted "s1").bytes), (".s3.tmp", .file (noted "s3").bytes),
    ("copy.json", .file (noted "s1").bytes), ("s1.json", .file (noted "s1").bytes),
    ("s2.json", second), ("s4.json", .file (Utf8.encode "\x7b")),
    ("s5.json", .folder [("s5.json", .file (noted "s5").bytes)])]

def clutter (second : FileEntry) : Contents where
  entries := cluttered second
  sorted := by
    simp only [cluttered, Entries.Sorted, List.pairwise_cons, List.forall_mem_cons]
    decide
  plain := by
    simp only [cluttered, List.forall_mem_cons]
    decide

theorem own_spoilt {bytes : List UInt8}
    (h : (SessionRecord.decoder.readBytes bytes).toOption = none) (root name : String) :
    own? root (name, .file bytes) = none := by
  rw [own?, h, ite_self]

/-- The store of a folder. -/
def storeOf (f : Folder) : FileStore := ⟨⟨[("sessions", .folder f)], []⟩, "sessions"⟩

theorem at_storeOf (f : Folder) : (storeOf f).files.At "sessions" f := by
  refine ⟨["sessions"], ⟨by decide, by decide, by decide, ?_⟩, rfl⟩
  have hsteps : Files.steps "sessions" = ["sessions"] := by decide
  have hstart : (storeOf f).files.start "sessions" = [] := rfl
  have hname : ¬("sessions".utf8ByteSize > Files.maxName) := by decide
  rw [hstart, hsteps]
  simp [Files.follow, Files.isHere, hname, storeOf, Folder.find?, Entries.find?]

theorem sameBut_clutter (second second' : FileEntry) :
    (clutter second).SameBut (clutter second') "s2.json" := fun _ hne =>
  Contents.find?_replace _ _ hne ((cluttered second).take 4) ((cluttered second).drop 5)

theorem own?_clutter (second : FileEntry) (root : String) :
    (clutter second).own? root "s2.json" = own? root ("s2.json", second) := by
  have hget : (clutter second).get? "s2.json" = some second := by
    simp [Contents.get?, clutter, cluttered, Entries.find?]
  rw [Contents.own?, hget, Option.bind_some]

/-- Three records are found among the clutter; where the file of one is spoilt, the two others still
are. -/
theorem lists_cluttered : ∃ records others records',
    (storeOf (cluttered (.file (noted "s2").bytes))).list = .ok records ∧
      records.Perm [noted "s1", noted "s1", noted "s2"] ∧
      (storeOf (cluttered (.file (Utf8.encode "garbage")))).list = .ok records' ∧
      records.Perm (noted "s2" :: others) ∧ records'.Perm others := by
  obtain ⟨records, hlist, -, hperm, hother⟩ := lists_own_records
    (s := storeOf (cluttered (.file (noted "s2").bytes)))
    (c := clutter (.file (noted "s2").bytes)) (at_storeOf _)
  obtain ⟨others, records', hlist', -, hbefore, hafter⟩ := hother "s2.json"
    (clutter (.file (Utf8.encode "garbage")))
    (storeOf (cluttered (.file (Utf8.encode "garbage")))).files (sameBut_clutter _ _) (at_storeOf _)
  have htorn : (SessionRecord.decoder.readBytes (Utf8.encode "\x7b")).toOption = none := by
    decide +kernel
  have hspoilt : (SessionRecord.decoder.readBytes (Utf8.encode "garbage")).toOption = none := by
    decide +kernel
  have hnot : ¬HasExtension ".json" "json" ∧ ¬HasExtension ".s3.tmp" "json" := by decide
  have hnames : ∀ name ∈ ["copy.json", "s1.json", "s2.json"], HasExtension name "json" ∧
      (Files.join "sessions" name).utf8ByteSize < Files.maxPath := by decide
  simp only [List.forall_mem_cons] at hnames
  have hfound : (clutter (.file (noted "s2").bytes)).entries.filterMap (own? "sessions") =
      [noted "s1", noted "s1", noted "s2"] := by
    simp [clutter, cluttered, List.filterMap_cons, own_spoilt htorn, hnot, hnames]
  refine ⟨records, others, records', hlist, hfound ▸ hperm, hlist', ?_, ?_⟩
  · simpa [storeOf, own?_clutter, hnames] using hbefore
  · simpa [own?_clutter, own_spoilt hspoilt] using hafter

end KernelGate.FileStore
