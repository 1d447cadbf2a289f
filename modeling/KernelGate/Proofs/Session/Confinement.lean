import KernelGate.Proofs.Host.Changes
import KernelGate.Proofs.Session.Directory

/-!
# Keeping to the folder of a store

A session becomes a part of two file names, and its slashes become those of a path. A session
without a slash names a draft and a record directly in the folder of the store, so that only these
two change. A session with a slash has its record wherever the path leads, under the part behind the
last slash: that is somewhere else, or it is the record of the session that this part is.

Main statements: `confined_iff` (when an operation keeps to the folder and to the records that are
its own), `unconfined_of_remove` and `unconfined_of_persist` (an operation on a session with a slash
that does its work does not).
-/

namespace KernelGate.FileStore

variable {s : FileStore} {files : Files} {place : Place} {name : String}

/-! ## Names of drafts and records

A draft begins with a dot and a record does not end as a draft does, so that no draft is ever in the
place of a record. What stands behind the last slash of a session is what the name at the end of its
paths is made of. -/

/-- No record bears the name of a draft, be it that of a session or of the last part of one. -/
theorem recordName_ne_draft (session front : String) : recordName session ≠ front ++ ".tmp" := by
  intro h
  have hlast := congrArg (fun name => name.toList.getLast?) h
  have hrecord : (recordName session).toList = (session.toList ++ ".jso".toList) ++ ['n'] := by
    simp [recordName]
  have hdraft : (front ++ ".tmp").toList = (front.toList ++ ".tm".toList) ++ ['p'] := by simp
  simp only [hrecord, hdraft, List.getLast?_concat] at hlast
  exact absurd hlast (by decide)

theorem not_isHere_of_long {name : String} (h : 2 ≤ name.toList.length) :
    Files.isHere name = false := by
  have hne (short : String) (hshort : short.toList.length < 2) : name ≠ short := by
    rintro rfl
    omega
  simp [Files.isHere, hne "" (by decide), hne "." (by decide)]

/-- A slash in a session splits the names of its draft and its record. -/
theorem exists_tail {session : String} (h : '/' ∈ session.toList) :
    ∃ front tail, '/' ∉ tail.toList ∧
    recordName session = front ++ "/" ++ recordName tail ∧
    draftName session = "." ++ front ++ "/" ++ (tail ++ ".tmp") := by
  obtain ⟨front, tail, rfl, htail⟩ := Files.exists_last_slash h
  exact ⟨front, tail, htail, by simp [recordName, String.append_assoc],
    by simp [draftName, String.append_assoc]⟩

/-! ## Where operations work

An operation on files changes what stands at the place that its path leads to. For a session these
are the places of its draft and of its record. -/

/-- The place of the store's folder. -/
def RootAt (s : FileStore) (place : Place) : Prop :=
  s.files.follow (s.files.start s.root) (Files.steps s.root) = .ok place

instance (s : FileStore) (place : Place) : Decidable (s.RootAt place) :=
  inferInstanceAs (Decidable (_ = _))

/-- What changes the files of a store. -/
inductive Change where
  | persist (r : SessionRecord)
  | remove (session : String)

namespace Change

def session : Change → String
  | .persist r => r.sessionId
  | .remove session => session

def run (s : FileStore) : Change → FileStore × Result Unit
  | .persist r => s.persist r
  | .remove session => s.remove session

/-- The files as a change leaves them, one operation on them after the other. -/
def stages (s : FileStore) : Change → List Files
  | .persist r =>
    match s.files.write (s.draftPath r.sessionId) r.bytes with
    | .error _ => []
    | .ok drafted =>
      match drafted.rename (s.draftPath r.sessionId) (s.recordPath r.sessionId) with
      | .error _ => [drafted]
      | .ok renamed => [drafted, renamed]
  | .remove session =>
    match s.files.remove (s.recordPath session) with
    | .error _ => []
    | .ok files => [files]

/-- The last stage is what the change comes to. -/
theorem files_run (s : FileStore) (c : Change) :
    (c.run s).1.files = (c.stages s).getLast?.getD s.files := by
  cases c with
  | persist r =>
    rw [run, stages, FileStore.persist]
    cases s.files.write (s.draftPath r.sessionId) r.bytes with
    | error cause => rfl
    | ok drafted =>
      dsimp only
      cases drafted.rename (s.draftPath r.sessionId) (s.recordPath r.sessionId) <;> rfl
  | remove session =>
    rw [run, stages, FileStore.remove]
    cases s.files.remove (s.recordPath session) with
    | error cause => cases cause <;> rfl
    | ok files => rfl

/-- A change is seen where the draft or the record of its session is, and nowhere else. -/
theorem located_of_changed {c : Change} (h : files ∈ c.stages s) {q : Place}
    (hq : files.top.look q ≠ s.files.top.look q) : ∃ place name, q = place ++ [name] ∧
      (s.files.locate (s.draftPath c.session) = .ok (.entry place name false) ∨
        s.files.locate (s.recordPath c.session) = .ok (.entry place name false)) := by
  cases c with
  | remove session =>
    rw [stages] at h
    split at h
    · simp at h
    · next gone hgone =>
      obtain rfl := List.mem_singleton.mp h
      obtain ⟨place, name, _, hlocate, hchanged, -⟩ := Files.remove_ok hgone
      by_contra hno
      refine hq (hchanged.top.others q ?_)
      rintro rfl
      exact hno ⟨place, name, rfl, .inr hlocate⟩
  | persist r =>
    by_contra hno
    have hdraft {place name} (h : s.files.locate (s.draftPath r.sessionId) =
        .ok (.entry place name false)) : q ≠ place ++ [name] := by
      rintro rfl
      exact hno ⟨place, name, rfl, .inl h⟩
    have hrecord {place name} (h : s.files.locate (s.recordPath r.sessionId) =
        .ok (.entry place name false)) : q ≠ place ++ [name] := by
      rintro rfl
      exact hno ⟨place, name, rfl, .inr h⟩
    rw [stages] at h
    split at h
    · simp at h
    · next drafted hdrafted =>
      obtain ⟨place, name, hlocate, hchanged, -⟩ := Files.write_ok hdrafted
      have hsame := hchanged.top.others q (hdraft hlocate)
      split at h
      · obtain rfl := List.mem_singleton.mp h
        exact hq hsame
      · next renamed hrenamed =>
        rcases List.mem_cons.mp h with rfl | h
        · exact hq hsame
        · obtain rfl := List.mem_singleton.mp h
          obtain ⟨_, _, _, _, _, -, hsource, htarget, cleared, hcleared, hput, -⟩ :=
            Files.rename_ok hrenamed
          -- The draft has come and gone again, and the record has come.
          refine hq ?_
          rw [hput.top.others q (hrecord (hchanged.locate htarget)),
            hcleared.top.others q (hdraft (hchanged.locate hsource)), hsame]

end Change

/-! ## Keeping to the folder

A session without a slash cannot lead anywhere else. Where there is a slash, the path goes through
at least one name more, and ends in the folder of the store only under the name of another session.
-/

/-- Only entries directly in the folder of the store have changed, and none that is the record of
another session. -/
structure Confined (s : FileStore) (session : String) (files : Files) : Prop where
  inside : ∀ q, files.top.look q ≠ s.files.top.look q →
    ∃ place name, q = place ++ [name] ∧ s.RootAt place
  others : ∀ place, s.RootAt place → ∀ other, other ≠ session →
    files.top.look (place ++ [recordName other]) = s.files.top.look (place ++ [recordName other])

theorem Confined.rootAt_of_changed {session : String} (h : s.Confined session files)
    (hchanged : files.top.look (place ++ [name]) ≠ s.files.top.look (place ++ [name])) :
    s.RootAt place := by
  obtain ⟨place', name', hplace, hroot⟩ := h.inside _ hchanged
  obtain ⟨rfl, -⟩ := List.append_inj' hplace rfl
  exact hroot

/-- Only entries directly in the folder of the store have changed, and none that is a record. -/
def OnlyDrafts (s : FileStore) (files : Files) : Prop :=
  ∀ q, files.top.look q ≠ s.files.top.look q →
    ∃ place name, q = place ++ [name] ∧ s.RootAt place ∧ ∀ session, name ≠ recordName session

/-- A session without a slash has its draft and its record directly in the folder. -/
theorem rootAt_of_locate {session : String} (hslash : '/' ∉ session.toList)
    (h : s.files.locate (s.draftPath session) = .ok (.entry place name false) ∨
      s.files.locate (s.recordPath session) = .ok (.entry place name false)) :
    (name = draftName session ∨ name = recordName session) ∧ s.RootAt place := by
  rcases h with h | h
  · obtain ⟨hname, hplace⟩ := Files.below_of_locate h (by simp [hslash])
      (not_isHere_of_long (by simp))
    exact ⟨.inl hname, hplace⟩
  · obtain ⟨hname, hplace⟩ := Files.below_of_locate h (by simp [hslash])
      (not_isHere_of_long (by simp))
    exact ⟨.inr hname, hplace⟩

/-- A session with a slash has a draft and a record that bear the name of another session's. -/
theorem tail_of_locate {session : String} (hslash : '/' ∈ session.toList) :
    ∃ tail, tail ≠ session ∧ ∀ place name,
      (s.files.locate (s.draftPath session) = .ok (.entry place name false) →
        name = tail ++ ".tmp") ∧
      (s.files.locate (s.recordPath session) = .ok (.entry place name false) →
        name = recordName tail) := by
  obtain ⟨front, tail, htail, hrecord, hdraft⟩ := exists_tail hslash
  refine ⟨tail, fun he => htail (he ▸ hslash), fun place name => ⟨fun h => ?_, fun h => ?_⟩⟩
  · rw [draftPath_eq, hdraft] at h
    exact Files.last_of_locate h (by simp [htail]) (not_isHere_of_long (by simp))
  · rw [recordPath_eq, hrecord] at h
    exact Files.last_of_locate h (by simp [recordName, htail])
      (not_isHere_of_long (by simp [recordName]))

/-- With a slash in its session a record cannot change without leaving the folder or meeting the
record of another session. -/
theorem unconfined_of_changed {session : String} (hslash : '/' ∈ session.toList)
    (hlocate : s.files.locate (s.recordPath session) = .ok (.entry place name false))
    (hchanged : files.top.look (place ++ [name]) ≠ s.files.top.look (place ++ [name])) :
    ¬ s.Confined session files := by
  intro h
  obtain ⟨tail, hne, htail⟩ := tail_of_locate (s := s) hslash
  obtain rfl := (htail place name).2 hlocate
  exact hchanged (h.others place (h.rootAt_of_changed hchanged) tail hne)

/-- A change keeps to the folder and to the record of its session at every stage exactly if there is
no slash in the session, or if no record changes at all. -/
theorem confined_iff (s : FileStore) (c : Change) :
    (∀ files ∈ c.stages s, s.Confined c.session files) ↔
      '/' ∉ c.session.toList ∨ ∀ files ∈ c.stages s, s.OnlyDrafts files := by
  constructor
  · -- A change that is allowed is one of the draft: with a slash that of the record never is.
    intro h
    refine or_iff_not_imp_left.mpr fun hslash files hfiles q hq => ?_
    have hslash := not_not.mp hslash
    obtain ⟨tail, -, htail⟩ := tail_of_locate (s := s) hslash
    obtain ⟨place, name, rfl, hlocate⟩ := c.located_of_changed hfiles hq
    refine ⟨place, name, rfl, (h files hfiles).rootAt_of_changed hq, fun session hname => ?_⟩
    rcases hlocate with hlocate | hlocate
    · rw [(htail place name).1 hlocate] at hname
      exact recordName_ne_draft session tail hname.symm
    · exact unconfined_of_changed hslash hlocate hq (h files hfiles)
  · rintro (hslash | hdrafts) files hfiles
    · refine ⟨fun q hq => ?_, fun place hroot other hother => ?_⟩
      · obtain ⟨place, name, rfl, hlocate⟩ := c.located_of_changed hfiles hq
        exact ⟨place, name, rfl, (rootAt_of_locate hslash hlocate).2⟩
      · by_contra hq
        obtain ⟨place', name, hplace, hlocate⟩ := c.located_of_changed hfiles hq
        obtain ⟨rfl, hname⟩ := List.append_inj' hplace rfl
        obtain rfl := (List.cons.inj hname).1
        -- Either name is none that another session could have.
        rcases (rootAt_of_locate hslash hlocate).1 with hname | hname
        · exact recordName_ne_draft other _ hname
        · exact hother (recordName_inj hname)
    · refine ⟨fun q hq => ?_, fun place hroot other hother => ?_⟩
      · obtain ⟨place, name, hplace, hroot, -⟩ := hdrafts files hfiles q hq
        exact ⟨place, name, hplace, hroot⟩
      · by_contra hq
        obtain ⟨place', name, hplace, -, hno⟩ := hdrafts files hfiles _ hq
        obtain ⟨-, hname⟩ := List.append_inj' hplace rfl
        exact hno other (List.cons.inj hname).1.symm

/-! ### Sessions with a slash

An operation on such a session keeps to the folder by failing. -/

/-- A record of such a session that is taken away was somewhere else, or another session's. -/
theorem unconfined_of_remove {session : String} (hslash : '/' ∈ session.toList)
    (h : s.files.remove (s.recordPath session) = .ok files) : ¬ s.Confined session files := by
  obtain ⟨place, name, bytes, hlocate, -, hfile, htop⟩ := Files.remove_ok h
  obtain ⟨outer, houter⟩ := Folder.exists_outer hfile
  refine unconfined_of_changed hslash hlocate ?_
  rw [htop, Folder.look_remove_self houter, Folder.look, hfile]
  simp

/-- A record of such a session that is kept comes somewhere else, or in place of another session's,
unless it is there already. -/
theorem unconfined_of_persist {r : SessionRecord} (hslash : '/' ∈ r.sessionId.toList)
    (hcurrent : ∃ c : Folder, s.files.top.find? s.files.current = some (.folder c))
    (hnew : s.files.read (s.recordPath r.sessionId) ≠ .ok r.bytes) (h : (s.persist r).2 = .ok ()) :
    ¬ s.Confined r.sessionId (s.persist r).1.files := by
  cases hwrite : s.files.write (s.draftPath r.sessionId) r.bytes with
  | error cause => simp [persist, hwrite] at h
  | ok drafted =>
    cases hrename : drafted.rename (s.draftPath r.sessionId) (s.recordPath r.sessionId) with
    | error cause => simp [persist, hwrite, hrename] at h
    | ok renamed =>
      rw [persist_eq hwrite hrename]
      obtain ⟨place, name, hdraft, hdrafted, hput⟩ := Files.write_ok hwrite
      obtain ⟨bytes, _, _, place', name', hread, -, hrecord, cleared, hcleared, -, hput'⟩ :=
        Files.rename_ok hrename
      have hlocate := hdrafted.locate hrecord
      -- What is renamed is what was written.
      have hbytes : bytes = r.bytes := by
        obtain ⟨outer, houter⟩ := Files.outer_of_locate hcurrent hdraft
        obtain ⟨_, _, hdraft', hfile⟩ := Files.read_ok_iff.mp hread
        cases (hdrafted.locate hdraft').symm.trans hdraft
        have hlook := Folder.look_put_self houter name (.file r.bytes)
        rw [← hput, Folder.look, hfile] at hlook
        simpa [FileEntry.sight] using hlook
      refine unconfined_of_changed hslash hlocate ?_
      obtain ⟨outer, houter⟩ := hcleared.exists_folder_iff.mpr
        (hdrafted.exists_folder_iff.mpr (Files.outer_of_locate hcurrent hlocate))
      dsimp only
      rw [hput', hbytes, Folder.look_put_self houter]
      intro hlook
      refine hnew (Files.read_ok_iff.mpr ⟨place', name', hlocate, ?_⟩)
      rw [Folder.look] at hlook
      cases hfind : s.files.top.find? (place' ++ [name']) with
      | none => simp [hfind] at hlook
      | some e => cases e <;> simp_all [FileEntry.sight]

/-- A store that holds a record, a file in a folder of its own, and another beside the store. -/
def cellar : FileStore where
  files := ⟨[("sessions", .folder [("a.json", .file []), ("sub", .folder [("x.json", .file [])])]),
    ("victim.json", .file [])], []⟩
  root := "sessions"

/-- Taking away the record of a session with a slash takes a file in a folder of the store, one
beside it, and the record of another session. -/
theorem unconfined_in_cellar : (cellar.remove "sub/x").2 = .ok () ∧
    ¬ cellar.Confined "sub/x" (cellar.remove "sub/x").1.files ∧
    (cellar.remove "../victim").2 = .ok () ∧
    ¬ cellar.Confined "../victim" (cellar.remove "../victim").1.files ∧
    (cellar.remove "./a").2 = .ok () ∧
    ¬ cellar.Confined "./a" (cellar.remove "./a").1.files := by
  have hroot : cellar.RootAt ["sessions"] := by decide +kernel
  refine ⟨by decide +kernel, fun h => ?_, by decide +kernel, fun h => ?_, by decide +kernel,
    fun h => ?_⟩
  · have hchanged : (cellar.remove "sub/x").1.files.top.look (["sessions", "sub"] ++ ["x.json"]) ≠
        cellar.files.top.look (["sessions", "sub"] ++ ["x.json"]) := by decide +kernel
    exact absurd (h.rootAt_of_changed hchanged) (by decide +kernel)
  · have hchanged : (cellar.remove "../victim").1.files.top.look ([] ++ ["victim.json"]) ≠
        cellar.files.top.look ([] ++ ["victim.json"]) := by decide +kernel
    exact absurd (h.rootAt_of_changed hchanged) (by decide +kernel)
  · exact absurd (h.others ["sessions"] hroot "a" (by decide)) (by decide +kernel)

end KernelGate.FileStore
