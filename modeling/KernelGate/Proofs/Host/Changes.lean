import KernelGate.Proofs.Host.Folders

/-!
# What operations on files change

Writing, renaming and taking away look up paths, and change what stands at the places that the paths
lead to, and at no other place. Where that is depends on the last name of the path, which is the
part behind its last slash, and on the folder that the names before it lead to.

Main statements: `write_ok`, `remove_ok`, `rename_ok` (what the operations change),
`below_of_locate` (where a plain name below a folder leads), `last_of_locate` (the last name of any
path below a folder).
-/

namespace KernelGate

/-! ## What is seen at a place

Which names stand in a folder is left open when two trees are compared; what counts is what is seen
at each place. Then a change at one place is a change at that place and at no other, even though the
folders around it have all been replaced. -/

/-- What is seen of an entry, but for what is in a folder. -/
inductive Sight where
  | file (bytes : List UInt8)
  | folder
  deriving DecidableEq

def FileEntry.sight : FileEntry → Sight
  | .file bytes => .file bytes
  | .folder _ => .folder

namespace Folder

variable {f g inner : Folder} {name : String} {p q : Place}

/-- What is seen at a place. -/
def look (f : Folder) (p : Place) : Option Sight := (f.find? p).map FileEntry.sight

theorem look_singleton (f : Folder) (name : String) :
    f.look [name] = (Entries.find? name f).map FileEntry.sight := rfl

/-- Below a folder is seen what is seen in it. -/
theorem look_cons_of_folder (h : Entries.find? name f = some (.folder inner)) (rest : Place) :
    f.look (name :: rest) = Folder.look inner rest := by
  rw [look, look, find?_cons_of_folder h]

/-- Below what is no folder nothing is seen. -/
theorem look_cons_of_no_folder (h : ∀ inner, Entries.find? name f ≠ some (.folder inner))
    {rest : Place} (hrest : rest ≠ []) : f.look (name :: rest) = none := by
  cases rest with
  | nil => exact absurd rfl hrest
  | cons next rest =>
    rw [look, find?.eq_def]
    dsimp only
    split
    · next inner hinner => exact absurd hinner (h inner)
    · rfl

/-- What is seen below a name depends on its entry. -/
theorem look_congr (h : Entries.find? name g = Entries.find? name f) (rest : Place) :
    g.look (name :: rest) = f.look (name :: rest) := by
  rw [look, look, find?.eq_def, find?.eq_def]
  cases rest <;> simp only [h]

/-- Where a folder is seen there is one. -/
theorem look_eq_folder_iff :
    f.look p = some .folder ↔ ∃ inner, f.find? p = some (.folder inner) := by
  rw [look]
  cases f.find? p with
  | none => simp
  | some e => cases e <;> simp [FileEntry.sight]

theorem look_ne_folder (h : ∀ inner, f.find? p ≠ some (.folder inner)) :
    f.look p ≠ some .folder := by
  intro hlook
  obtain ⟨inner, hinner⟩ := look_eq_folder_iff.mp hlook
  exact h inner hinner

/-- What was and what is at a place is no folder, and at all other places the same is seen. -/
structure ChangedAt (p : Place) (f g : Folder) : Prop where
  before : f.look p ≠ some .folder
  after : g.look p ≠ some .folder
  others : ∀ q, q ≠ p → g.look q = f.look q

theorem ChangedAt.refl (h : f.look p ≠ some .folder) : ChangedAt p f f := ⟨h, h, fun _ _ => rfl⟩

/-- A change at a place that is no folder leaves all folders where they are. -/
theorem ChangedAt.folder_iff (h : ChangedAt p f g) (q : Place) :
    g.look q = some .folder ↔ f.look q = some .folder := by
  by_cases hq : q = p
  · subst hq
    exact iff_of_false h.after h.before
  · rw [h.others q hq]

theorem no_folder_of_look (h : f.look [name] ≠ some .folder) (inner : Folder) :
    Entries.find? name f ≠ some (.folder inner) :=
  fun hinner => h (look_eq_folder_iff.mpr ⟨inner, hinner⟩)

/-- A change of one entry. -/
theorem changedAt_singleton (hf : f.look [name] ≠ some .folder) (hg : g.look [name] ≠ some .folder)
    (hothers : ∀ other, other ≠ name → Entries.find? other g = Entries.find? other f) :
    ChangedAt [name] f g := by
  refine ⟨hf, hg, fun q hq => ?_⟩
  cases q with
  | nil => rfl
  | cons other rest =>
    by_cases hname : other = name
    · -- Below the name nothing is seen, before or after.
      subst hname
      have hrest : rest ≠ [] := fun hrest => hq (by rw [hrest])
      rw [look_cons_of_no_folder (no_folder_of_look hf) hrest,
        look_cons_of_no_folder (no_folder_of_look hg) hrest]
    · exact look_congr (hothers other hname) rest

/-- A change further down. -/
theorem ChangedAt.below {inner' : Folder} (h : ChangedAt p inner inner')
    (hinner : Entries.find? name f = some (.folder inner)) :
    ChangedAt (name :: p) f (Entries.insert name (.folder inner') f) := by
  have hself := find?_insert_self f name (.folder inner')
  refine ⟨?_, ?_, fun q hq => ?_⟩
  · rw [look_cons_of_folder hinner]
    exact h.before
  · rw [look_cons_of_folder hself]
    exact h.after
  · cases q with
    | nil => rfl
    | cons other rest =>
      by_cases hname : other = name
      · subst hname
        rw [look_cons_of_folder hinner, look_cons_of_folder hself]
        exact h.others rest fun hrest => hq (by rw [hrest])
      · exact look_congr (find?_insert_of_ne _ _ hname) rest

/-- A file that is put at a place changes that place only, unless a folder stands there. -/
theorem changedAt_put (h : f.look p ≠ some .folder) (bytes : List UInt8) :
    ChangedAt p f (f.put (.file bytes) p) := by
  induction p generalizing f with
  | nil => exact absurd rfl h
  | cons name rest ih =>
    cases rest with
    | nil =>
      refine changedAt_singleton h ?_ fun other hother => find?_insert_of_ne f _ hother
      rw [put, look_singleton, find?_insert_self]
      simp [FileEntry.sight]
    | cons next rest =>
      rw [put.eq_def]
      dsimp only
      split
      · next inner hinner =>
        refine (ih ?_).below hinner
        rwa [look_cons_of_folder hinner] at h
      · exact .refl h

/-- So does taking away what stands there. -/
theorem changedAt_remove (h : f.look p ≠ some .folder) : ChangedAt p f (f.remove p) := by
  induction p generalizing f with
  | nil => exact absurd rfl h
  | cons name rest ih =>
    cases rest with
    | nil =>
      refine changedAt_singleton h ?_ fun other hother => Files.find?_filter_of_ne f hother
      rw [remove, look_singleton, Files.find?_filter_self]
      simp
    | cons next rest =>
      rw [remove.eq_def]
      dsimp only
      split
      · next inner hinner =>
        refine (ih ?_).below hinner
        rwa [look_cons_of_folder hinner] at h
      · exact .refl h

/-- What stands in a folder stands in a folder that is there. -/
theorem exists_outer {place : Place} {e : FileEntry} (h : f.find? (place ++ [name]) = some e) :
    ∃ outer, f.find? place = some (.folder outer) := by
  induction place generalizing f with
  | nil => exact ⟨f, rfl⟩
  | cons first rest ih =>
    cases hfirst : Entries.find? first f with
    | none =>
      rw [List.cons_append, find?.eq_def] at h
      cases hrest : rest ++ [name] with
      | nil => simp at hrest
      | cons next rest' => simp [hrest, hfirst] at h
    | some entry =>
      cases entry with
      | file bytes =>
        rw [List.cons_append, find?.eq_def] at h
        cases hrest : rest ++ [name] with
        | nil => simp at hrest
        | cons next rest' => simp [hrest, hfirst] at h
      | folder inner =>
        rw [List.cons_append, find?_cons_of_folder hfirst] at h
        rw [find?_cons_of_folder hfirst]
        exact ih h

/-- What was put at a place is seen there. -/
theorem look_put_self {place : Place} (h : f.find? place = some (.folder inner)) (name : String)
    (e : FileEntry) : (f.put e (place ++ [name])).look (place ++ [name]) = some e.sight := by
  rw [put_append h, look, find?_append (find?_change_self h _), find?_insert_self]
  rfl

/-- What was taken away is not. -/
theorem look_remove_self {place : Place} (h : f.find? place = some (.folder inner))
    (name : String) : (f.remove (place ++ [name])).look (place ++ [name]) = none := by
  rw [remove_append h, look, find?_append (find?_change_self h _), Files.find?_filter_self]
  rfl

end Folder

/-! ## The names of a path

Where a path leads is up to its last name and to the folder that the names before it lead to. Only
for a plain name below a folder is that the folder itself. -/

namespace Files

variable {fs gs : Files} {path root name : String} {place : Place} {asFolder : Bool}
  {bytes : List UInt8}

/-- The part behind the last slash, and what stands in front of that. -/
theorem exists_last_slash {x : String} (h : '/' ∈ x.toList) :
    ∃ front last, x = front ++ "/" ++ last ∧ '/' ∉ last.toList := by
  obtain ⟨last, front, hsplit, hlast⟩ := List.eq_append_cons_of_mem (List.mem_reverse.2 h)
  refine ⟨String.ofList front.reverse, String.ofList last.reverse, ?_, by simpa using hlast⟩
  apply String.toList_inj.mp
  have hreversed := congrArg List.reverse hsplit
  rw [List.reverse_reverse] at hreversed
  simp [hreversed]

/-- What a path leads to in a folder has the last of its names. -/
theorem entry_of_locate (h : fs.locate path = .ok (.entry place name asFolder)) :
    ∃ before, steps path = before ++ [name] ∧ fs.follow (fs.start path) before = .ok place := by
  obtain ⟨hclean, hne, hshort⟩ := followable_of_locate h
  rw [locate_eq hclean hne hshort] at h
  cases hlast : (steps path).getLast? with
  | none => simp [hlast] at h
  | some last =>
    obtain ⟨before, hsteps⟩ := List.getLast?_eq_some_iff.mp hlast
    rw [hlast, hsteps, List.dropLast_concat] at h
    dsimp only at h
    split at h
    · cases hfollow : fs.follow (fs.start path) (before ++ [last]) <;>
        simp [hfollow, Except.map] at h
    · obtain ⟨place', hfollow, h⟩ := bind_eq_ok_iff.mp h
      split at h
      · cases h
      · cases h
        exact ⟨before, hsteps, hfollow⟩

/-- Names lead from a folder to a folder. -/
theorem folder_of_follow {start : Place} {xs : List String}
    (hstart : ∃ c : Folder, fs.top.find? start = some (.folder c))
    (h : fs.follow start xs = .ok place) : ∃ c : Folder, fs.top.find? place = some (.folder c) := by
  induction xs generalizing start with
  | nil =>
    cases h
    exact hstart
  | cons next xs ih =>
    rw [follow] at h
    split at h
    · exact ih hstart h
    · split at h
      -- Upwards from a folder there is one, as it is in one or is the top.
      · refine ih ?_ h
        obtain ⟨c, hc⟩ := hstart
        rcases List.eq_nil_or_concat start with rfl | ⟨above, last, rfl⟩
        · exact ⟨c, hc⟩
        · rw [List.concat_eq_append] at hc ⊢
          rw [List.dropLast_concat]
          exact Folder.exists_outer hc
      · split at h
        · cases h
        · split at h
          · cases h
          · cases h
          · next c hc => exact ih ⟨c, hc⟩ h

/-- The folder of what a path leads to is there, if the one is that relative paths start from. -/
theorem outer_of_locate (hcurrent : ∃ c : Folder, fs.top.find? fs.current = some (.folder c))
    (h : fs.locate path = .ok (.entry place name asFolder)) :
    ∃ c : Folder, fs.top.find? place = some (.folder c) := by
  obtain ⟨before, -, hfollow⟩ := entry_of_locate h
  refine folder_of_follow ?_ hfollow
  rw [start]
  split
  · exact ⟨fs.top, rfl⟩
  · exact hcurrent

/-- Below a folder a plain name leads to that name in it. -/
theorem below_of_locate (h : fs.locate (join root path) = .ok (.entry place name asFolder))
    (hslash : '/' ∉ path.toList) (hhere : isHere path = false) :
    name = path ∧ fs.follow (fs.start root) (steps root) = .ok place := by
  obtain ⟨before, hsteps, hfollow⟩ := entry_of_locate h
  obtain ⟨rfl, hname⟩ := List.append_inj' ((steps_join hslash hhere root).symm.trans hsteps) rfl
  rw [start_join (head_ne_of_no_slash hslash)] at hfollow
  exact ⟨(List.cons.inj hname).1.symm, hfollow⟩

/-- Below a folder any path leads to its last name, wherever that is. -/
theorem last_of_locate {front last : String}
    (h : fs.locate (join root (front ++ "/" ++ last)) = .ok (.entry place name asFolder))
    (hslash : '/' ∉ last.toList) (hhere : isHere last = false) : name = last := by
  obtain ⟨above, hnames, -⟩ := exists_names_join root (front ++ "/" ++ last)
  obtain ⟨before, hsteps, -⟩ := entry_of_locate h
  have hlast := congrArg List.getLast? hsteps
  rw [steps, hnames, names_append_slash, names_of_no_slash hslash] at hlast
  simpa [List.filter_append, hhere] using hlast.symm

/-! ## The operations

An operation that succeeds has found its path to lead to a name in a folder, and has changed what
stands under it. Paths lead to the same places afterwards, since no folder has changed. -/

/-- What a path led to was and is no folder, and nothing else is seen to change. -/
structure ChangedAt (p : Place) (fs gs : Files) : Prop where
  top : fs.top.ChangedAt p gs.top
  current : gs.current = fs.current

theorem ChangedAt.exists_folder_iff {p q : Place} (h : ChangedAt p fs gs) :
    (∃ inner : Folder, gs.top.find? q = some (.folder inner)) ↔
      ∃ inner : Folder, fs.top.find? q = some (.folder inner) := by
  rw [← Folder.look_eq_folder_iff, ← Folder.look_eq_folder_iff]
  exact h.top.folder_iff q

/-- Names lead to the same folders after a change as before it. -/
theorem ChangedAt.follow_iff {p : Place} (h : ChangedAt p fs gs) (start place : Place)
    (xs : List String) : gs.follow start xs = .ok place ↔ fs.follow start xs = .ok place :=
  ⟨follow_of_folders fun _ c hc => h.exists_folder_iff.mp ⟨c, hc⟩,
    follow_of_folders fun _ c hc => h.exists_folder_iff.mpr ⟨c, hc⟩⟩

theorem ChangedAt.start {p : Place} (h : ChangedAt p fs gs) (path : String) :
    gs.start path = fs.start path := by
  rw [Files.start, Files.start, h.current]

/-- A path leads where it led before. -/
theorem ChangedAt.locate {p : Place} (h : ChangedAt p fs gs) {e : PathEnd}
    (hlocate : gs.locate path = .ok e) : fs.locate path = .ok e := by
  obtain ⟨hclean, hne, hshort⟩ := followable_of_locate hlocate
  rw [locate_eq hclean hne hshort, h.start] at hlocate
  rw [locate_eq hclean hne hshort]
  cases hlast : (steps path).getLast? with
  | none => rwa [hlast] at hlocate
  | some last =>
    rw [hlast] at hlocate
    dsimp only at hlocate ⊢
    split at hlocate
    · next habove =>
      rw [if_pos habove]
      cases hfollow : gs.follow (fs.start path) (steps path) with
      | error fault =>
        rw [hfollow] at hlocate
        cases hlocate
      | ok place =>
        rw [(h.follow_iff _ _ _).mp hfollow]
        rwa [hfollow] at hlocate
    · next habove =>
      rw [if_neg habove]
      obtain ⟨place, hfollow, hlocate⟩ := bind_eq_ok_iff.mp hlocate
      rw [(h.follow_iff _ _ _).mp hfollow]
      exact hlocate

theorem changedAt_put (h : ∀ inner, fs.top.find? place ≠ some (.folder inner)) :
    ChangedAt place fs { fs with top := fs.top.put (.file bytes) place } :=
  ⟨Folder.changedAt_put (Folder.look_ne_folder h) bytes, rfl⟩

theorem changedAt_remove (h : ∀ inner, fs.top.find? place ≠ some (.folder inner)) :
    ChangedAt place fs { fs with top := fs.top.remove place } :=
  ⟨Folder.changedAt_remove (Folder.look_ne_folder h), rfl⟩

/-- Writing puts the bytes where the path leads. -/
theorem write_ok (h : fs.write path bytes = .ok gs) : ∃ place name,
    fs.locate path = .ok (.entry place name false) ∧ ChangedAt (place ++ [name]) fs gs ∧
      gs.top = fs.top.put (.file bytes) (place ++ [name]) := by
  rw [write] at h
  obtain ⟨e, hlocate, h⟩ := bind_eq_ok_iff.mp h
  cases e with
  | folder place => cases h
  | entry place name asFolder =>
    refine ⟨place, name, ?_⟩
    dsimp only at h
    split at h
    · cases h
    · next hfind =>
      split at h
      · cases h
      · next hname =>
        cases h
        exact ⟨by simpa [hname] using hlocate, changedAt_put (by simp [hfind]), rfl⟩
    · next hfind =>
      split at h
      · cases h
      · next hname =>
        cases h
        exact ⟨by simpa [hname] using hlocate, changedAt_put (by simp [hfind]), rfl⟩

/-- Taking away needs a file where the path leads. -/
theorem remove_ok (h : fs.remove path = .ok gs) : ∃ place name bytes,
    fs.locate path = .ok (.entry place name false) ∧ ChangedAt (place ++ [name]) fs gs ∧
      fs.top.find? (place ++ [name]) = some (.file bytes) ∧
      gs.top = fs.top.remove (place ++ [name]) := by
  rw [remove] at h
  obtain ⟨e, hlocate, h⟩ := bind_eq_ok_iff.mp h
  cases e with
  | folder place => cases h
  | entry place name asFolder =>
    dsimp only at h
    split at h
    · cases h
    · cases h
    · next bytes hfind =>
      split at h
      · cases h
      · next hname =>
        cases h
        exact ⟨place, name, bytes, by simpa [hname] using hlocate,
          changedAt_remove (by simp [hfind]), hfind, rfl⟩

/-- What is read stands where the path leads. -/
theorem read_ok_iff : fs.read path = .ok bytes ↔ ∃ place name,
    fs.locate path = .ok (.entry place name false) ∧
      fs.top.find? (place ++ [name]) = some (.file bytes) := by
  constructor
  · intro h
    rw [read] at h
    obtain ⟨e, hlocate, h⟩ := bind_eq_ok_iff.mp h
    cases e with
    | folder place => cases h
    | entry place name asFolder =>
      dsimp only at h
      split at h
      · cases h
      · cases h
      · next hfind =>
        split at h
        · cases h
        · next hname =>
          cases h
          exact ⟨place, name, by simpa [hname] using hlocate, hfind⟩
  · rintro ⟨place, name, hlocate, hfind⟩
    rw [read, hlocate, ok_bind]
    simp [hfind]

/-- A file that gets another name goes from its place first. -/
theorem rename_ok {source target : String} (h : fs.rename source target = .ok gs) :
    ∃ bytes place name place' name', fs.read source = .ok bytes ∧
      fs.locate source = .ok (.entry place name false) ∧
      fs.locate target = .ok (.entry place' name' false) ∧
      ∃ cleared, ChangedAt (place ++ [name]) fs cleared ∧
        ChangedAt (place' ++ [name']) cleared gs ∧
        gs.top = cleared.top.put (.file bytes) (place' ++ [name']) := by
  rw [rename] at h
  obtain ⟨bytes, hread, h⟩ := bind_eq_ok_iff.mp h
  obtain ⟨place, name, hsource, hfile⟩ := read_ok_iff.mp hread
  rw [hsource, ok_bind] at h
  obtain ⟨e, htarget, h⟩ := bind_eq_ok_iff.mp h
  cases e with
  | folder place' => cases h
  | entry place' name' asFolder =>
    have hcleared : ChangedAt (place ++ [name]) fs
        { fs with top := fs.top.remove (place ++ [name]) } := changedAt_remove (by simp [hfile])
    refine ⟨bytes, place, name, place', name', hread, hsource, ?_⟩
    dsimp only at h
    split at h
    · cases h
    · next hfind =>
      split at h
      · cases h
      · next hname =>
        cases h
        refine ⟨by simpa [hname] using htarget, _, hcleared,
          changedAt_put fun inner hinner => ?_, rfl⟩
        -- What was no folder before the old name went is none afterwards.
        obtain ⟨inner', hinner'⟩ := hcleared.exists_folder_iff.mp ⟨inner, hinner⟩
        exact hfind inner' hinner'

end Files

end KernelGate
