import KernelGate.Proofs.Host.Folders
import KernelGate.Proofs.Kernel.Codec
import KernelGate.Session.FileStore
import Mathlib.Data.List.Nodup

/-!
# A folder that holds session records

A folder of a file store holds the records of a dictionary if its record files are those of the
dictionary's sessions, each under its session's name. Drafts and files that hold no record may stand
beside them: they are not listed. Every operation of the store keeps to this, with what the
dictionary does beside it.

Main statements: `Keeps.listing` (such a folder is listed as the dictionary), `Holds.list`,
`Holds.persist`, `Holds.remove` (what the operations do to it).
-/

namespace KernelGate

/-! ## Records in order

Records are listed by their sessions. Since no two have the same session, the order leaves nothing
open. -/

theorem SessionRecord.sort_perm (rs : List SessionRecord) : (sort rs).Perm rs :=
  List.mergeSort_perm _ _

theorem SessionRecord.pairwise_sort (rs : List SessionRecord) :
    (sort rs).Pairwise fun a b => a.sessionId ≤ b.sessionId := by
  have htrans : ∀ a b c : SessionRecord, decide (a.sessionId ≤ b.sessionId) = true →
      decide (b.sessionId ≤ c.sessionId) = true → decide (a.sessionId ≤ c.sessionId) = true := by
    intro a b c hab hbc
    simp only [decide_eq_true_eq] at hab hbc ⊢
    exact String.le_trans hab hbc
  have htotal : ∀ a b : SessionRecord,
      (decide (a.sessionId ≤ b.sessionId) || decide (b.sessionId ≤ a.sessionId)) = true := by
    intro a b
    simp only [Bool.or_eq_true, decide_eq_true_eq]
    exact String.le_total _ _
  exact (List.pairwise_mergeSort htrans htotal rs).imp of_decide_eq_true

namespace FileStore

/-! ## Names

A session's record and its draft stand under names that are made of the session. Both are names that
a file can have if the session is usable, they are never the same, and different sessions have
different ones. -/

/-- The name of a session's record. -/
def recordName (session : String) : String := session ++ ".json"

/-- The name under which a session's record is written first. -/
def draftName (session : String) : String := "." ++ session ++ ".tmp"

theorem recordPath_eq (s : FileStore) (session : String) :
    s.recordPath session = Files.join s.root (recordName session) := rfl

theorem draftPath_eq (s : FileStore) (session : String) :
    s.draftPath session = Files.join s.root (draftName session) := rfl

/-- A session whose name can be part of a file's name in a folder of this path. -/
structure Usable (root session : String) : Prop where
  nonempty : session ≠ ""
  no_slash : '/' ∉ session.toList
  no_nul : '\x00' ∉ session.toList
  short : session.utf8ByteSize + 5 ≤ Files.maxName
  path : root.utf8ByteSize + session.utf8ByteSize + 6 < Files.maxPath

/-- A plain name that a path below this root has room for. -/
def Fits (root name : String) : Prop :=
  Files.Plain name ∧ root.utf8ByteSize + 1 + name.utf8ByteSize < Files.maxPath

/-- A few characters more than a usable session make a name that fits. -/
theorem Usable.fits {root session name : String} (h : Usable root session)
    (hsize : name.utf8ByteSize = session.utf8ByteSize + 5) (hlong : 5 ≤ name.toList.length)
    (hslash : '/' ∉ name.toList) (hnul : '\x00' ∉ name.toList) : Fits root name := by
  have hne : ∀ short : String, short.toList.length < 5 → name ≠ short := by
    rintro short hshort rfl
    omega
  have hpath := h.path
  exact ⟨⟨hne "" (by decide), hne "." (by decide), hne ".." (by decide), hslash, hnul,
    hsize ▸ h.short⟩, by omega⟩

theorem Usable.fits_record {root session : String} (h : Usable root session) :
    Fits root (recordName session) := by
  refine h.fits ?_ ?_ ?_ ?_
  · rw [recordName, String.utf8ByteSize_append]
    rfl
  · simp [recordName]
  · simp [recordName, h.no_slash]
  · simp [recordName, h.no_nul]

theorem Usable.fits_draft {root session : String} (h : Usable root session) :
    Fits root (draftName session) := by
  refine h.fits ?_ ?_ ?_ ?_
  · have hdot : ".".utf8ByteSize = 1 := rfl
    have htmp : ".tmp".utf8ByteSize = 4 := rfl
    rw [draftName, String.utf8ByteSize_append, String.utf8ByteSize_append, hdot, htmp]
    omega
  · simp [draftName]
  · simp [draftName, h.no_slash]
  · simp [draftName, h.no_nul]

/-- A record's name ends in the extension and has something before it. -/
theorem isRecordName_iff {name : String} :
    isRecordName name = true ↔ ".json".toList <:+ name.toList ∧ name ≠ ".json" := by
  rw [isRecordName, ← String.endsWith_toSlice, Bool.and_eq_true, String.Slice.endsWith_string_iff,
    String.copy_toSlice, decide_eq_true_eq]

theorem isRecordName_recordName {session : String} (h : session ≠ "") :
    isRecordName (recordName session) = true := by
  refine isRecordName_iff.mpr ⟨by simp [recordName], fun he => h ?_⟩
  have h1 := congrArg String.toList he
  simpa [recordName] using h1

/-- Drafts are not taken for records: the last letter of their names is another one. -/
theorem isRecordName_draftName (session : String) : isRecordName (draftName session) = false := by
  rw [Bool.eq_false_iff]
  intro h
  obtain ⟨before, hbefore⟩ := (isRecordName_iff.mp h).1
  have hdraft : (draftName session).toList = ('.' :: session.toList ++ ".tm".toList) ++ ['p'] := by
    simp [draftName]
  have hjson : before ++ ".json".toList = (before ++ ".jso".toList) ++ ['n'] := by simp
  have hlast := congrArg List.getLast? hbefore
  rw [hdraft, hjson, List.getLast?_concat, List.getLast?_concat] at hlast
  exact absurd hlast (by decide)

theorem ne_of_other {name other : String} (hname : isRecordName name = true)
    (hother : isRecordName other = false) : name ≠ other := by
  rintro rfl
  rw [hname] at hother
  cases hother

/-- A session can be told from the name of its record. -/
theorem recordName_inj {a b : String} (h : recordName a = recordName b) : a = b := by
  have h1 := congrArg String.toList h
  simp only [recordName, String.toList_append, List.append_cancel_right_eq] at h1
  exact String.toList_inj.mp h1

/-! ## The records of a folder

`Keeps` ties a folder to a dictionary, entry by entry. What an operation does to the folder is to
put a file there or to take one away; if that is a record's file the dictionary goes along, and if
not it stays as it is. -/

/-- The record that an entry holds. -/
def decoded? : FileEntry → Option SessionRecord
  | .file bytes => (SessionRecord.decoder.readBytes bytes).toOption
  | .folder _ => none

/-- The record under a name, if it is that of a record file. -/
def recordAt? (f : Folder) (name : String) : Option SessionRecord :=
  if isRecordName name then (Entries.find? name f).bind decoded? else none

/-- The record files of a folder are those of the dictionary's sessions. -/
structure Keeps (root : String) (f : Folder) (m : MemoryStore) : Prop where
  sorted : Entries.Sorted f
  fits : ∀ e ∈ f, Fits root e.1
  files : ∀ name, Files.NoFolder f name
  sound : ∀ name e r, Entries.find? name f = some e → isRecordName name = true →
    decoded? e = some r → name = recordName r.sessionId ∧ m.get? r.sessionId = some r
  complete : ∀ session r, m.get? session = some r → r.sessionId = session ∧
    Usable root session ∧ ∃ e, Entries.find? (recordName session) f = some e ∧ decoded? e = some r

namespace Keeps

variable {root name : String} {f : Folder} {m : MemoryStore}

/-- Nothing is kept in a new folder. -/
theorem empty (root : String) : Keeps root [] ∅ where
  sorted := .nil
  fits _ h := nomatch h
  files _ _ h := nomatch h
  sound _ _ _ h := nomatch h
  complete _ _ h := nomatch h

/-- A file that comes makes no name that of a folder. -/
theorem noFolder_insert (h : Keeps root f m) (bytes : List UInt8) (other : String) :
    Files.NoFolder (Entries.insert name (.file bytes) f) other := by
  intro c hc
  rw [Entries.find?_insert] at hc
  split at hc
  · cases hc
  · exact h.files other c hc

theorem noFolder_filter (h : Keeps root f m) (other : String) :
    Files.NoFolder (f.filter (·.1 ≠ name)) other := by
  intro c hc
  by_cases hne : other = name
  · rw [hne, Files.find?_filter_self] at hc
    cases hc
  · rw [Files.find?_filter_of_ne f hne] at hc
    exact h.files other c hc

theorem fits_insert (h : Keeps root f m) (hname : Fits root name) (e : FileEntry) :
    ∀ a ∈ Entries.insert name e f, Fits root a.1 := by
  intro a ha
  rcases Entries.mem_insert ha with rfl | ha
  · exact hname
  · exact h.fits a ha

/-- A file that is no record file may come. -/
theorem insert_other (h : Keeps root f m) (hname : Fits root name)
    (hother : isRecordName name = false) (bytes : List UInt8) :
    Keeps root (Entries.insert name (.file bytes) f) m where
  sorted := Entries.sorted_insert _ _ h.sorted
  fits := h.fits_insert hname _
  files := h.noFolder_insert bytes
  sound n e r he hrecord hr := by
    have hne := ne_of_other hrecord hother
    rw [Folder.find?_insert_of_ne _ _ hne] at he
    exact h.sound n e r he hrecord hr
  complete session r hr := by
    obtain ⟨hid, husable, e, he, hdecoded⟩ := h.complete session r hr
    have hne := ne_of_other (isRecordName_recordName husable.nonempty) hother
    exact ⟨hid, husable, e, (Folder.find?_insert_of_ne _ _ hne).trans he, hdecoded⟩

/-- A file that is no record file may go. -/
theorem filter_other (h : Keeps root f m) (hother : isRecordName name = false) :
    Keeps root (f.filter (·.1 ≠ name)) m where
  sorted := Entries.sorted_filter _ h.sorted
  fits a ha := h.fits a (List.mem_of_mem_filter ha)
  files := h.noFolder_filter
  sound n e r he hrecord hr := by
    have hne := ne_of_other hrecord hother
    rw [Files.find?_filter_of_ne f hne] at he
    exact h.sound n e r he hrecord hr
  complete session r hr := by
    obtain ⟨hid, husable, e, he, hdecoded⟩ := h.complete session r hr
    have hne := ne_of_other (isRecordName_recordName husable.nonempty) hother
    exact ⟨hid, husable, e, (Files.find?_filter_of_ne f hne).trans he, hdecoded⟩

/-- The file of a record comes with the record. -/
theorem insert_record (h : Keeps root f m) {r : SessionRecord} (husable : Usable root r.sessionId) :
    Keeps root (Entries.insert (recordName r.sessionId) (.file r.bytes) f)
      (m.insert r.sessionId r) where
  sorted := Entries.sorted_insert _ _ h.sorted
  fits := h.fits_insert husable.fits_record _
  files := h.noFolder_insert r.bytes
  sound n e r' he hrecord hr' := by
    rw [Entries.find?_insert] at he
    split at he
    · next hn =>
      cases he
      have hrr : r' = r := by
        rw [decoded?, SessionRecord.readBytes_bytes] at hr'
        exact (Option.some.inj hr').symm
      subst hrr
      exact ⟨hn, Dict.get?_insert_self _ _ _⟩
    · next hn =>
      obtain ⟨hname, hget⟩ := h.sound n e r' he hrecord hr'
      -- Another file is that of another session, so that the new record does not hide it.
      have hne : r'.sessionId ≠ r.sessionId := fun he => hn (hname.trans (he ▸ rfl))
      exact ⟨hname, (Dict.get?_insert_of_ne _ _ hne).trans hget⟩
  complete session r' hr' := by
    rw [Dict.get?_insert] at hr'
    split at hr'
    · next hsession =>
      cases hr'
      subst hsession
      refine ⟨rfl, husable, _, Folder.find?_insert_self _ _ _, ?_⟩
      rw [decoded?, SessionRecord.readBytes_bytes]
      rfl
    · next hsession =>
      obtain ⟨hid, husable', e, he, hdecoded⟩ := h.complete session r' hr'
      have hne : recordName session ≠ recordName r.sessionId := fun he =>
        hsession (recordName_inj he)
      exact ⟨hid, husable', e, (Folder.find?_insert_of_ne _ _ hne).trans he, hdecoded⟩

/-- The file of a record goes with the record. -/
theorem filter_record (h : Keeps root f m) (session : String) :
    Keeps root (f.filter (·.1 ≠ recordName session)) (m.erase session) where
  sorted := Entries.sorted_filter _ h.sorted
  fits a ha := h.fits a (List.mem_of_mem_filter ha)
  files := h.noFolder_filter
  sound n e r he hrecord hr := by
    by_cases hn : n = recordName session
    · rw [hn, Files.find?_filter_self] at he
      cases he
    · rw [Files.find?_filter_of_ne f hn] at he
      obtain ⟨hname, hget⟩ := h.sound n e r he hrecord hr
      have hne : r.sessionId ≠ session := fun he => hn (hname.trans (he ▸ rfl))
      exact ⟨hname, (Dict.get?_erase_of_ne _ hne).trans hget⟩
  complete other r hr := by
    rw [Dict.get?_erase] at hr
    split at hr
    · cases hr
    · next hother =>
      obtain ⟨hid, husable, e, he, hdecoded⟩ := h.complete other r hr
      have hne : recordName other ≠ recordName session := fun he => hother (recordName_inj he)
      exact ⟨hid, husable, e, (Files.find?_filter_of_ne f hne).trans he, hdecoded⟩

/-! ### Listing

What is listed are the records of the record files, each once, in the order of their sessions; the
dictionary has the same ones in the same order. -/

theorem eq_some_of_recordAt? (h : Keeps root f m) {r : SessionRecord}
    (hr : recordAt? f name = some r) :
    name = recordName r.sessionId ∧ m.get? r.sessionId = some r := by
  rw [recordAt?] at hr
  split at hr
  · next hrecord =>
    obtain ⟨e, he, hdecoded⟩ := Option.bind_eq_some_iff.mp hr
    exact h.sound name e r he hrecord hdecoded
  · cases hr

/-- The records that are read are those of the dictionary. -/
theorem mem_records (h : Keeps root f m) {r : SessionRecord} :
    r ∈ (f.map (·.1)).filterMap (recordAt? f) ↔ m.get? r.sessionId = some r := by
  constructor
  · intro hr
    obtain ⟨name, -, hname⟩ := List.mem_filterMap.mp hr
    exact (h.eq_some_of_recordAt? hname).2
  · intro hr
    obtain ⟨-, husable, e, he, hdecoded⟩ := h.complete _ r hr
    have hmem : recordName r.sessionId ∈ f.map (·.1) :=
      List.mem_map.mpr ⟨_, (Entries.find?_eq_some_iff h.sorted).mp he, rfl⟩
    refine List.mem_filterMap.mpr ⟨_, hmem, ?_⟩
    rw [recordAt?, if_pos (isRecordName_recordName husable.nonempty), he]
    exact hdecoded

/-- No record is read twice, since its name says whose it is. -/
theorem nodup_records (h : Keeps root f m) :
    ((f.map (·.1)).filterMap (recordAt? f)).Nodup := by
  have hnames : (f.map (·.1)).Nodup := by
    refine List.Pairwise.imp (fun {a b} (hlt : a < b) he => ?_) (List.pairwise_map.mpr h.sorted)
    exact String.lt_irrefl b (he ▸ hlt)
  refine hnames.filterMap fun a b r ha hb => ?_
  rw [(h.eq_some_of_recordAt? ha).1, (h.eq_some_of_recordAt? hb).1]

/-- The values of a dictionary stand in the order of their sessions. -/
theorem values_sorted (h : Keeps root f m) :
    m.values.Pairwise fun a b => a.sessionId < b.sessionId := by
  have hid : ∀ e ∈ m.toList, e.2.sessionId = e.1 := fun e he =>
    (h.complete e.1 e.2 (Dict.mem_toList.mp he)).1
  rw [Dict.values, List.pairwise_map]
  refine m.sorted.imp_of_mem fun {a b} ha hb hlt => ?_
  rw [hid a ha, hid b hb]
  exact hlt

/-- A record of the dictionary stands under its session. -/
theorem mem_values (h : Keeps root f m) {r : SessionRecord} :
    r ∈ m.values ↔ m.get? r.sessionId = some r := by
  rw [Dict.values, List.mem_map]
  constructor
  · rintro ⟨e, he, rfl⟩
    have hget := Dict.mem_toList.mp he
    rwa [(h.complete e.1 e.2 hget).1]
  · intro hr
    exact ⟨_, Dict.mem_toList.mpr hr, rfl⟩

/-- The records of a folder in order are the values of the dictionary. -/
theorem listing (h : Keeps root f m) :
    SessionRecord.sort ((f.map (·.1)).filterMap (recordAt? f)) = m.values := by
  have hvalues : m.values.Nodup := by
    refine List.Pairwise.imp (fun {a b} hlt => ?_) h.values_sorted
    rintro rfl
    exact String.lt_irrefl _ hlt
  have hperm : ((f.map (·.1)).filterMap (recordAt? f)).Perm m.values :=
    (List.perm_ext_iff_of_nodup h.nodup_records hvalues).mpr fun r =>
      h.mem_records.trans h.mem_values.symm
  have hascending : m.values.Pairwise fun a b => a.sessionId ≤ b.sessionId := by
    refine h.values_sorted.imp fun {a b} hlt => String.not_lt.mp fun hgt => ?_
    exact String.lt_irrefl _ (String.lt_trans hlt hgt)
  refine List.Perm.eq_of_pairwise (fun a b ha hb hab hba => ?_) (SessionRecord.pairwise_sort _)
    hascending ((SessionRecord.sort_perm _).trans hperm)
  have hid : a.sessionId = b.sessionId := String.le_antisymm hab hba
  have ha' := h.mem_records.mp ((SessionRecord.sort_perm _).mem_iff.mp ha)
  have hb' := h.mem_values.mp hb
  rw [hid, hb'] at ha'
  exact (Option.some.inj ha').symm

end Keeps

/-! ## The store

The operations of the store are followed through the files of the host. Each of them succeeds for a
usable session, and leaves a folder that keeps what the dictionary holds then. -/

/-- The folder of a store holds the records of a dictionary. -/
def Holds (s : FileStore) (m : MemoryStore) : Prop :=
  ∃ f, s.files.At s.root f ∧ Keeps s.root f m

/-- An empty folder holds no records. -/
theorem holds_of_empty {s : FileStore} (h : s.files.list s.root = .ok []) : s.Holds ∅ := by
  obtain ⟨f, hat, hf⟩ := Files.at_of_list h
  obtain rfl := List.map_eq_nil_iff.mp hf.symm
  exact ⟨[], hat, .empty _⟩

/-- Keeping a record is writing its draft and giving it the record's name. -/
theorem persist_eq {s : FileStore} {r : SessionRecord} {files renamed : Files}
    (hwrite : s.files.write (s.draftPath r.sessionId) r.bytes = .ok files)
    (hrename : files.rename (s.draftPath r.sessionId) (s.recordPath r.sessionId) = .ok renamed) :
    s.persist r = ({ s with files := renamed }, .ok ()) := by
  rw [persist, hwrite]
  simp only [hrename]

namespace Holds

variable {s : FileStore} {m : MemoryStore}

/-- The store lists what the dictionary holds. -/
theorem list (h : s.Holds m) : s.list = .ok m.values := by
  obtain ⟨f, hat, hkeeps⟩ := h
  have hrecords : ((f.map (·.1)).filter isRecordName).filterMap s.recordIn? =
      (f.map (·.1)).filterMap (recordAt? f) := by
    rw [List.filterMap_filter]
    refine List.filterMap_congr fun name hname => ?_
    obtain ⟨e, he, rfl⟩ := List.mem_map.mp hname
    obtain ⟨hplain, hsize⟩ := hkeeps.fits e he
    rw [recordAt?]
    split
    · rw [recordIn?, hat.read hplain hsize]
      cases hfind : Entries.find? e.1 f with
      | none => rfl
      | some entry => cases entry <;> rfl
    · rfl
  rw [FileStore.list, hat.list]
  exact congrArg Except.ok ((congrArg _ hrecords).trans hkeeps.listing)

/-- A draft of a record may come, whatever it holds. -/
theorem draft (h : s.Holds m) {session : String} (husable : Usable s.root session)
    (bytes : List UInt8) : ∃ files, s.files.write (s.draftPath session) bytes = .ok files ∧
      Holds { s with files } m := by
  obtain ⟨f, hat, hkeeps⟩ := h
  obtain ⟨hplain, hsize⟩ := husable.fits_draft
  obtain ⟨files, hwrite, hat'⟩ := hat.write hplain hsize (hkeeps.files _) bytes
  exact ⟨files, hwrite, _, hat',
    hkeeps.insert_other husable.fits_draft (isRecordName_draftName session) bytes⟩

/-- A draft holds what was written last, and may be written again. -/
theorem draft_again (h : s.Holds m) {session : String} (husable : Usable s.root session)
    {bytes : List UInt8} {files : Files}
    (hfiles : s.files.write (s.draftPath session) bytes = .ok files) :
    files.read (s.draftPath session) = .ok bytes ∧ ∀ more,
      files.write (s.draftPath session) more = s.files.write (s.draftPath session) more := by
  obtain ⟨f, hat, hkeeps⟩ := h
  obtain ⟨hplain, hsize⟩ := husable.fits_draft
  obtain ⟨files', hwrite, hat'⟩ := hat.write hplain hsize (hkeeps.files _) bytes
  have hsame : files' = files := Except.ok.inj (hwrite.symm.trans hfiles)
  subst hsame
  refine ⟨?_, hat.write_write hplain hsize (hkeeps.files _) hfiles⟩
  rw [draftPath_eq, hat'.read hplain hsize, Folder.find?_insert_self]

/-- A draft that holds a record is given the record's name. -/
theorem rename_draft (h : s.Holds m) {r : SessionRecord} (husable : Usable s.root r.sessionId)
    {files : Files} (hfiles : s.files.write (s.draftPath r.sessionId) r.bytes = .ok files) :
    ∃ renamed, files.rename (s.draftPath r.sessionId) (s.recordPath r.sessionId) = .ok renamed ∧
      Holds { s with files := renamed } (m.insert r.sessionId r) := by
  obtain ⟨f, hat, hkeeps⟩ := h
  obtain ⟨hplain, hsize⟩ := husable.fits_draft
  obtain ⟨hplain', hsize'⟩ := husable.fits_record
  obtain ⟨files', hwrite, hat'⟩ := hat.write hplain hsize (hkeeps.files _) r.bytes
  have hsame : files' = files := Except.ok.inj (hwrite.symm.trans hfiles)
  subst hsame
  have hdraft := isRecordName_draftName r.sessionId
  have hne := ne_of_other (isRecordName_recordName husable.nonempty) hdraft
  obtain ⟨renamed, hrename, hat''⟩ := hat'.rename hplain hsize hplain' hsize'
    (Folder.find?_insert_self _ _ _) (hkeeps.noFolder_insert _ _) hne
  exact ⟨renamed, hrename, _, hat'', ((hkeeps.insert_other husable.fits_draft hdraft
    r.bytes).filter_other hdraft).insert_record husable⟩

/-- Keeping a record succeeds, and the folder holds it then. -/
theorem persist (h : s.Holds m) {r : SessionRecord} (husable : Usable s.root r.sessionId) :
    (s.persist r).2 = .ok () ∧ (s.persist r).1.root = s.root ∧
      (s.persist r).1.Holds (m.insert r.sessionId r) := by
  obtain ⟨files, hwrite, -⟩ := h.draft husable r.bytes
  obtain ⟨renamed, hrename, hholds⟩ := h.rename_draft husable hwrite
  rw [persist_eq hwrite hrename]
  exact ⟨rfl, rfl, hholds⟩

/-- Forgetting a session succeeds, whether it has a record or not. -/
theorem remove (h : s.Holds m) {session : String} (husable : Usable s.root session) :
    (s.remove session).2 = .ok () ∧ (s.remove session).1.root = s.root ∧
      (s.remove session).1.Holds (m.erase session) := by
  obtain ⟨f, hat, hkeeps⟩ := h
  obtain ⟨hplain, hsize⟩ := husable.fits_record
  cases hfind : Entries.find? (recordName session) f with
  | none =>
    have hmissing := hat.remove_missing hplain hsize hfind
    rw [← recordPath_eq] at hmissing
    have hnone : m.get? session = none := by
      cases hget : m.get? session with
      | none => rfl
      | some r =>
        obtain ⟨-, -, e, he, -⟩ := hkeeps.complete session r hget
        exact nomatch hfind.symm.trans he
    -- No file, no record: forgetting it changes nothing.
    have hsame : m.erase session = m := by
      apply Dict.ext_get?
      intro k
      rw [Dict.get?_erase]
      split
      · next hk => rw [hk, hnone]
      · rfl
    rw [FileStore.remove, hmissing, hsame]
    exact ⟨rfl, rfl, f, hat, hkeeps⟩
  | some e =>
    cases e with
    | folder c => exact absurd hfind (hkeeps.files _ c)
    | file bytes =>
      obtain ⟨files, hremove, hat'⟩ := hat.remove hplain hsize hfind
      rw [← recordPath_eq] at hremove
      rw [FileStore.remove, hremove]
      exact ⟨rfl, rfl, _, hat', hkeeps.filter_record session⟩

end Holds

end FileStore

end KernelGate
