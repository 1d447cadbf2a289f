import KernelGate.Host.Files
import KernelGate.Proofs.Text.Literals

/-!
# A folder among the files of a host

What the operations on files do to one folder, told by the folder's entries alone: a path of the
folder and a plain name lead to the entry of that name, writing and renaming put an entry there and
taking away removes it, and in every case the path of the folder goes on leading to it.

Main statements: `Leads.locate_join` (where a name below the folder's path leads), `At.write`,
`At.rename`, `At.remove`, `At.read`, `At.list` (the operations on the folder's entries).
-/

namespace KernelGate

theorem Entries.insert_insert {β : Type} (k : String) (v w : β) (l : List (String × β)) :
    insert k v (insert k w l) = insert k v l := by
  induction l with
  | nil => simp [insert]
  | cons e rest ih =>
    rw [insert, insert]
    split
    · simp [insert]
    · split
      · simp [insert]
      · next hlt hne => rw [insert, if_neg hlt, if_neg hne, ih]

/-! ## Folders in folders

A place is a list of names, so that what stands there is found folder by folder. To put an entry at
a place, or to take it away, is to change the one folder that the entry is in. -/

namespace Folder

/-- Change the folder at a place. -/
def change (g : Folder → Folder) (f : Folder) : Place → Folder
  | [] => g f
  | name :: rest =>
    match Entries.find? name f with
    | some (.folder inner) => Entries.insert name (.folder (change g inner rest)) f
    | _ => f

theorem find?_cons_of_folder {f inner : Folder} {name : String}
    (h : Entries.find? name f = some (.folder inner)) (rest : Place) :
    f.find? (name :: rest) = inner.find? rest := by
  cases rest with
  | nil => simpa [find?] using h
  | cons next rest => simp [find?, h]

theorem folder_of_find?_cons {f inner : Folder} {name : String} {rest : Place}
    (h : f.find? (name :: rest) = some (.folder inner)) :
    ∃ outer : Folder, Entries.find? name f = some (.folder outer) ∧
      Folder.find? outer rest = some (.folder inner) := by
  cases rest with
  | nil => exact ⟨inner, by simpa [find?] using h, rfl⟩
  | cons next rest =>
    rw [find?.eq_def] at h
    dsimp only at h
    split at h
    · next outer houter => exact ⟨outer, houter, h⟩
    · cases h

/-- An entry of a folder stands at the place of the folder and then its own name. -/
theorem find?_append {f inner : Folder} {place : Place}
    (h : f.find? place = some (.folder inner)) (name : String) :
    f.find? (place ++ [name]) = Entries.find? name inner := by
  induction place generalizing f with
  | nil =>
    cases h
    rfl
  | cons first rest ih =>
    obtain ⟨outer, houter, hrest⟩ := folder_of_find?_cons h
    rw [List.cons_append, find?_cons_of_folder houter]
    exact ih hrest

theorem change_cons {f outer : Folder} {name : String}
    (h : Entries.find? name f = some (.folder outer)) (g : Folder → Folder) (rest : Place) :
    f.change g (name :: rest) = Entries.insert name (.folder (Folder.change g outer rest)) f := by
  simp [change, h]

/-- Putting an entry somewhere changes the folder that it comes to. -/
theorem put_append {f inner : Folder} {place : Place}
    (h : f.find? place = some (.folder inner)) (name : String) (e : FileEntry) :
    f.put e (place ++ [name]) = f.change (Entries.insert name e) place := by
  induction place generalizing f with
  | nil => rfl
  | cons first rest ih =>
    obtain ⟨outer, houter, hrest⟩ := folder_of_find?_cons h
    rw [change_cons houter, ← ih hrest]
    cases hplace : rest ++ [name] with
    | nil => simp at hplace
    | cons next rest => simp [put, houter, hplace]

theorem remove_append {f inner : Folder} {place : Place}
    (h : f.find? place = some (.folder inner)) (name : String) :
    f.remove (place ++ [name]) = f.change (fun c => c.filter (·.1 ≠ name)) place := by
  induction place generalizing f with
  | nil => rfl
  | cons first rest ih =>
    obtain ⟨outer, houter, hrest⟩ := folder_of_find?_cons h
    rw [change_cons houter, ← ih hrest]
    cases hplace : rest ++ [name] with
    | nil => simp at hplace
    | cons next rest => simp [remove, houter, hplace]

/-- A changed folder is found at its place. -/
theorem find?_change_self {f inner : Folder} {place : Place}
    (h : f.find? place = some (.folder inner)) (g : Folder → Folder) :
    (f.change g place).find? place = some (.folder (g inner)) := by
  induction place generalizing f with
  | nil =>
    cases h
    rfl
  | cons first rest ih =>
    obtain ⟨outer, houter, hrest⟩ := folder_of_find?_cons h
    rw [change_cons houter, find?_cons_of_folder (find?_insert_self _ _ _)]
    exact ih hrest

/-- Two changes of one folder are a single change. -/
theorem change_change {f inner : Folder} {place : Place}
    (h : f.find? place = some (.folder inner)) (g g' : Folder → Folder) :
    (f.change g place).change g' place = f.change (fun c => g' (g c)) place := by
  induction place generalizing f with
  | nil => rfl
  | cons first rest ih =>
    obtain ⟨outer, houter, hrest⟩ := folder_of_find?_cons h
    rw [change_cons houter, change_cons houter, change_cons (find?_insert_self _ _ _), ih hrest,
      Entries.insert_insert]

/-- A folder stays one under a change that takes no folder away. -/
theorem isFolder_change {f inner : Folder} {place : Place}
    (h : f.find? place = some (.folder inner)) {g : Folder → Folder}
    (hg : ∀ name c, Entries.find? name inner = some (.folder c) →
      Entries.find? name (g inner) = some (.folder c))
    {other : Place} {c : Folder} (hother : f.find? other = some (.folder c)) :
    ∃ d : Folder, (f.change g place).find? other = some (.folder d) := by
  induction place generalizing f other with
  | nil =>
    cases h
    cases other with
    | nil => exact ⟨_, rfl⟩
    | cons name rest =>
      obtain ⟨outer, houter, hrest⟩ := folder_of_find?_cons hother
      exact ⟨c, (find?_cons_of_folder (hg name outer houter) rest).trans hrest⟩
  | cons first rest ih =>
    obtain ⟨outer, houter, hrest⟩ := folder_of_find?_cons h
    rw [change_cons houter]
    cases other with
    | nil => exact ⟨_, rfl⟩
    | cons name others =>
      obtain ⟨within, hwithin, hothers⟩ := folder_of_find?_cons hother
      -- Only what is below the first name changes, so that the two places part here
      -- or go on together.
      by_cases hname : name = first
      · subst hname
        have hsame : within = outer := by
          rw [houter] at hwithin
          cases hwithin
          rfl
        subst hsame
        rw [find?_cons_of_folder (find?_insert_self _ _ _)]
        exact ih hrest hothers
      · have hkept := (find?_insert_of_ne f (.folder (Folder.change g outer rest)) hname).trans
          hwithin
        exact ⟨c, (find?_cons_of_folder hkept others).trans hothers⟩

end Folder

/-! ## Paths

A path falls into names, of which the empty ones and single dots lead nowhere. A plain name behind
the path of a folder is one name more, and is the name of an entry of that folder. -/

/-- The place of what a path leads to. -/
def PathEnd.place : PathEnd → Place
  | .folder place => place
  | .entry place name _ => place ++ [name]

namespace Files

/-- The names of a path that lead on. -/
def steps (path : String) : List String := (names path).filter fun n => !isHere n

/-- The folder that a path starts from. -/
def start (fs : Files) (path : String) : Place :=
  if path.toList.head? = some '/' then [] else fs.current

/-- A path leads to the folder at a place. -/
structure Leads (fs : Files) (path : String) (place : Place) : Prop where
  nonempty : path ≠ ""
  clean : '\x00' ∉ path.toList
  short : path.utf8ByteSize < maxPath
  follow : fs.follow (fs.start path) (steps path) = .ok place

/-- A name that can be given to a file. -/
structure Plain (name : String) : Prop where
  nonempty : name ≠ ""
  not_here : name ≠ "."
  not_above : name ≠ ".."
  no_slash : '/' ∉ name.toList
  no_nul : '\x00' ∉ name.toList
  short : name.utf8ByteSize ≤ maxName

instance (name : String) : Decidable (Plain name) :=
  decidable_of_iff (name ≠ "" ∧ name ≠ "." ∧ name ≠ ".." ∧ '/' ∉ name.toList ∧
      '\x00' ∉ name.toList ∧ name.utf8ByteSize ≤ maxName)
    ⟨fun ⟨hempty, hhere, habove, hslash, hnul, hshort⟩ =>
        ⟨hempty, hhere, habove, hslash, hnul, hshort⟩,
      fun h => ⟨h.nonempty, h.not_here, h.not_above, h.no_slash, h.no_nul, h.short⟩⟩

/-- Names are followed one after another. -/
theorem follow_append (fs : Files) (start : Place) (xs ys : List String) :
    fs.follow start (xs ++ ys) = fs.follow start xs >>= fun place => fs.follow place ys := by
  induction xs generalizing start with
  | nil => rfl
  | cons name xs ih =>
    rw [List.cons_append, follow, follow]
    split
    · exact ih start
    · split
      · exact ih _
      · split
        · rfl
        · split
          · rfl
          · rfl
          · exact ih _

/-- Names lead on where the folders on their way stay folders. -/
theorem follow_of_folders {fs gs : Files} (h : ∀ (place : Place) (c : Folder),
    fs.top.find? place = some (.folder c) → ∃ d : Folder, gs.top.find? place = some (.folder d))
    {start place : Place} {xs : List String} (hfollow : fs.follow start xs = .ok place) :
    gs.follow start xs = .ok place := by
  induction xs generalizing start with
  | nil => exact hfollow
  | cons name xs ih =>
    rw [follow] at hfollow ⊢
    split at hfollow
    · next hhere =>
      rw [if_pos hhere]
      exact ih hfollow
    · next hhere =>
      rw [if_neg hhere]
      split at hfollow
      · next hup =>
        rw [if_pos hup]
        exact ih hfollow
      · next hup =>
        rw [if_neg hup]
        split at hfollow
        · cases hfollow
        · next hlong =>
          rw [if_neg hlong]
          split at hfollow
          · cases hfollow
          · cases hfollow
          · next c hc =>
            -- The other tree has a folder there too, from which the names behind lead on.
            obtain ⟨d, hd⟩ := h _ _ hc
            rw [hd]
            exact ih hfollow

/-- A slash ends one name and begins the next. -/
theorem names_append_slash (x y : String) : names (x ++ "/" ++ y) = names x ++ names y := by
  rw [names, names, names, Text.split, Text.split, Text.split, ← List.map_append,
    ← Text.splitAt_append_cons]
  simp

theorem names_of_no_slash {name : String} (h : '/' ∉ name.toList) : names name = [name] := by
  rw [names, Text.split, Text.splitAt_of_not_mem h]
  simp

/-- The last names of a path below a folder are those of what was put behind it. The names before
are those of the folder, unless the path starts from the top. -/
theorem exists_names_join (root path : String) :
    ∃ front, names (join root path) = front ++ names path ∧
      (path.toList.head? ≠ some '/' → front.filter (fun n => !isHere n) = steps root) := by
  unfold join
  split
  · next habsolute => exact ⟨[], rfl, fun h => absurd habsolute h⟩
  · split
    · next hroot =>
      subst hroot
      exact ⟨[], rfl, fun _ => rfl⟩
    · split
      · next hslash =>
        obtain ⟨front, hfront⟩ := List.getLast?_eq_some_iff.mp hslash
        obtain rfl : root = String.ofList front ++ "/" ++ "" := by
          apply String.toList_inj.mp
          simp [hfront]
        refine ⟨names (String.ofList front), ?_, fun _ => ?_⟩
        · rw [String.append_empty, names_append_slash]
        · rw [steps, names_append_slash, List.filter_append]
          simp [names, Text.split, Text.splitAt, isHere]
      · exact ⟨names root, names_append_slash root path, fun _ => rfl⟩

theorem head_ne_of_no_slash {name : String} (h : '/' ∉ name.toList) :
    name.toList.head? ≠ some '/' := fun he => h (List.mem_of_head? he)

/-- A plain name below a folder is one more name. -/
theorem steps_join {name : String} (hslash : '/' ∉ name.toList) (hhere : isHere name = false)
    (root : String) : steps (join root name) = steps root ++ [name] := by
  obtain ⟨front, hnames, hfront⟩ := exists_names_join root name
  rw [steps.eq_def (join root name), hnames, names_of_no_slash hslash, List.filter_append,
    hfront (head_ne_of_no_slash hslash)]
  simp [hhere]

/-- A path below a folder starts where the folder's path does. -/
theorem start_join {root path : String} (h : path.toList.head? ≠ some '/') (fs : Files) :
    fs.start (join root path) = fs.start root := by
  have hhead : (join root path).toList.head? = some '/' ↔ root.toList.head? = some '/' := by
    rw [join, if_neg h]
    split
    · next hroot =>
      subst hroot
      exact iff_of_false h (by simp)
    · next hroot =>
      have hne : root.toList ≠ [] := by simpa using hroot
      obtain ⟨c, rest, hcons⟩ := List.exists_cons_of_ne_nil hne
      split <;> simp [hcons]
  unfold start
  simp only [hhead]

theorem Plain.not_isHere {name : String} (h : Plain name) : isHere name = false := by
  simp [isHere, h.nonempty, h.not_here]

theorem Plain.join_eq {name : String} (h : Plain name) {root : String} (hroot : root ≠ "") :
    join root name =
      if root.toList.getLast? = some '/' then root ++ name else root ++ "/" ++ name := by
  rw [join, if_neg (head_ne_of_no_slash h.no_slash), if_neg hroot]

/-- Behind the path of a folder a plain name is the last one to be followed. -/
theorem Plain.names_join {name : String} (h : Plain name) (root : String) :
    steps (join root name) = steps root ++ [name] ∧
      (names (join root name)).getLast? = some name := by
  obtain ⟨front, hnames, -⟩ := exists_names_join root name
  rw [names_of_no_slash h.no_slash] at hnames
  exact ⟨steps_join h.no_slash h.not_isHere root, by simp [hnames]⟩

/-- A path that can be followed leads where its last name says. -/
theorem locate_eq {path : String} (hclean : '\x00' ∉ path.toList) (hne : path ≠ "")
    (hshort : path.utf8ByteSize < maxPath) (fs : Files) :
    fs.locate path =
      match (steps path).getLast? with
      | none => .ok (.folder (fs.start path))
      | some last =>
        if last = ".." then (fs.follow (fs.start path) (steps path)).map .folder
        else
          fs.follow (fs.start path) (steps path).dropLast >>= fun place =>
            if last.utf8ByteSize > maxName then .error .nameTooLong
            else .ok (.entry place last (((names path).getLast?.map isHere).getD false)) := by
  have hcontains : ¬ path.toList.contains '\x00' = true := by simpa using hclean
  rw [locate, if_neg hcontains, if_neg hne, if_neg (Nat.not_le.mpr hshort)]
  rfl

/-- A path that leads to something is one that can be followed. -/
theorem followable_of_locate {fs : Files} {path : String} {e : PathEnd}
    (h : fs.locate path = .ok e) :
    '\x00' ∉ path.toList ∧ path ≠ "" ∧ path.utf8ByteSize < maxPath := by
  rw [locate] at h
  split at h
  · cases h
  · next hclean =>
    split at h
    · cases h
    · next hne =>
      split at h
      · cases h
      · next hshort => exact ⟨by simpa using hclean, hne, Nat.lt_of_not_ge hshort⟩

/-- A path of a folder and a plain name lead to the entry of that name, if they are not too long. -/
theorem Leads.locate_join_of_short {fs : Files} {root : String} {place : Place}
    (h : fs.Leads root place) {name : String} (hname : Plain name)
    (hshort : (join root name).utf8ByteSize < maxPath) :
    fs.locate (join root name) = .ok (.entry place name false) := by
  obtain ⟨hsteps, hlast⟩ := hname.names_join root
  have hclean : '\x00' ∉ (join root name).toList := by
    rw [hname.join_eq h.nonempty]
    split <;> simp [h.clean, hname.no_nul]
  have hne : join root name ≠ "" := by
    rw [hname.join_eq h.nonempty]
    split <;> simp [h.nonempty]
  have hfits : ¬ name.utf8ByteSize > maxName := Nat.not_lt.mpr hname.short
  rw [locate_eq hclean hne hshort, hsteps, List.getLast?_concat, List.dropLast_concat, hlast,
    start_join (head_ne_of_no_slash hname.no_slash), h.follow]
  simp only [hname.not_above, if_false, hname.not_isHere, Option.map_some, Option.getD_some]
  show (if name.utf8ByteSize > maxName then _ else _) = _
  rw [if_neg hfits]

/-- A plain name behind the path of a folder takes a slash more at most. -/
theorem Plain.join_short {root name : String} (hname : Plain name) (hroot : root ≠ "")
    (hsize : root.utf8ByteSize + 1 + name.utf8ByteSize < maxPath) :
    (join root name).utf8ByteSize < maxPath := by
  have hslash : "/".utf8ByteSize = 1 := rfl
  rw [hname.join_eq hroot]
  split <;> simp only [String.utf8ByteSize_append, hslash] <;> omega

/-- So a plain name below a folder leads to the entry of that name, whether it is there or not. -/
theorem Leads.locate_join {fs : Files} {root : String} {place : Place} (h : fs.Leads root place)
    {name : String} (hname : Plain name)
    (hsize : root.utf8ByteSize + 1 + name.utf8ByteSize < maxPath) :
    fs.locate (join root name) = .ok (.entry place name false) :=
  h.locate_join_of_short hname (hname.join_short h.nonempty hsize)

/-- A last name that leads on must be that of a folder. -/
theorem follow_last {fs : Files} {place : Place} {name : String} (hhere : isHere name = false)
    (habove : name ≠ "..") {final : Place} :
    fs.follow place [name] = .ok final ↔
      ¬ name.utf8ByteSize > maxName ∧ final = place ++ [name] ∧
        ∃ f : Folder, fs.top.find? (place ++ [name]) = some (.folder f) := by
  rw [follow, if_neg (by simp [hhere]), if_neg habove]
  split
  · next hlong => simp [hlong]
  · next hlong =>
    cases hfind : fs.top.find? (place ++ [name]) with
    | none => simp
    | some e =>
      cases e with
      | file bytes => simp
      | folder f => simp [follow, hlong, eq_comm]

theorem not_isHere_of_mem {path name : String} (h : name ∈ steps path) : isHere name = false := by
  simpa using (List.mem_filter.mp h).2

/-- A path leads to a folder if what it is located at is one. -/
theorem follow_of_locate {fs : Files} {path : String} (hclean : '\x00' ∉ path.toList)
    (hne : path ≠ "") (hshort : path.utf8ByteSize < maxPath) {e : PathEnd} {f : Folder}
    (h : fs.locate path = .ok e) (hf : fs.top.find? e.place = some (.folder f)) :
    fs.follow (fs.start path) (steps path) = .ok e.place := by
  rw [locate_eq hclean hne hshort] at h
  cases hlast : (steps path).getLast? with
  | none =>
    rw [hlast] at h
    cases h
    rw [List.getLast?_eq_none_iff.mp hlast]
    rfl
  | some last =>
    obtain ⟨before, hsteps⟩ := List.getLast?_eq_some_iff.mp hlast
    rw [hlast] at h
    dsimp only at h
    split at h
    · cases hfollow : fs.follow (fs.start path) (steps path) with
      | error fault => rw [hfollow] at h; cases h
      | ok place =>
        rw [hfollow] at h
        cases h
        rfl
    · next habove =>
      -- The last name is looked up in the folder that the others lead to.
      have hhere : isHere last = false :=
        not_isHere_of_mem (hsteps ▸ List.mem_append_right _ (List.mem_singleton_self _))
      rw [hsteps, List.dropLast_concat] at h
      rw [hsteps, follow_append]
      cases hfollow : fs.follow (fs.start path) before with
      | error fault => rw [hfollow] at h; cases h
      | ok place =>
        rw [hfollow] at h
        have h : (if last.utf8ByteSize > maxName then Except.error IoFault.nameTooLong else
          .ok (.entry place last (((names path).getLast?.map isHere).getD false))) = .ok e := h
        split at h
        · cases h
        · next hlong =>
          cases h
          exact (follow_last hhere habove).mpr ⟨hlong, rfl, f, hf⟩

/-- A path that leads to a folder is found to lead there. -/
theorem Leads.exists_locate {fs : Files} {path : String} {place : Place}
    (h : fs.Leads path place) : ∃ e, fs.locate path = .ok e ∧ e.place = place := by
  have hfollow := h.follow
  rw [locate_eq h.clean h.nonempty h.short]
  cases hlast : (steps path).getLast? with
  | none =>
    rw [List.getLast?_eq_none_iff.mp hlast] at hfollow
    cases hfollow
    exact ⟨_, rfl, rfl⟩
  | some last =>
    obtain ⟨before, hsteps⟩ := List.getLast?_eq_some_iff.mp hlast
    by_cases habove : last = ".."
    · refine ⟨.folder place, ?_, rfl⟩
      simp only [habove, if_true, hfollow]
      rfl
    · have hhere : isHere last = false :=
        not_isHere_of_mem (hsteps ▸ List.mem_append_right _ (List.mem_singleton_self _))
      rw [hsteps, follow_append] at hfollow
      simp only [habove, if_false, hsteps, List.dropLast_concat]
      cases hbefore : fs.follow (fs.start path) before with
      | error fault => rw [hbefore] at hfollow; cases hfollow
      | ok above =>
        rw [hbefore] at hfollow
        obtain ⟨hlong, rfl, -⟩ := (follow_last hhere habove).mp hfollow
        refine ⟨.entry above last (((names path).getLast?.map isHere).getD false), ?_, rfl⟩
        show (if last.utf8ByteSize > maxName then _ else _) = _
        rw [if_neg hlong]

/-! ## One folder

The operations on files, said of one folder and its entries. The path of the folder goes on leading
to it, since nothing but its entries has changed. -/

/-- A path leads to a folder with these entries. -/
def At (fs : Files) (path : String) (f : Folder) : Prop :=
  ∃ place, fs.Leads path place ∧ fs.top.find? place = some (.folder f)

theorem list_eq (fs : Files) (path : String) :
    fs.list path = fs.locate path >>= fun e =>
      match fs.top.find? e.place with
      | none => .error .noEntry
      | some (.file _) => .error .notDirectory
      | some (.folder children) => .ok (children.map (·.1)) := by
  rw [list]
  cases fs.locate path with
  | error fault => rfl
  | ok e => cases e <;> rfl

/-- What is listed at a path are the entries of a folder that the path leads to. -/
theorem at_of_list {fs : Files} {path : String} {listed : List String}
    (h : fs.list path = .ok listed) : ∃ f, fs.At path f ∧ listed = f.map (·.1) := by
  rw [list_eq] at h
  cases hlocate : fs.locate path with
  | error fault => rw [hlocate] at h; cases h
  | ok e =>
    rw [hlocate] at h
    cases hfind : fs.top.find? e.place with
    | none => simp [bind, Except.bind, hfind] at h
    | some entry =>
      cases entry with
      | file bytes => simp [bind, Except.bind, hfind] at h
      | folder f =>
        obtain ⟨hclean, hne, hshort⟩ := followable_of_locate hlocate
        refine ⟨f, ⟨e.place, ⟨hne, hclean, hshort, ?_⟩, hfind⟩, ?_⟩
        · exact follow_of_locate hclean hne hshort hlocate hfind
        · simpa [bind, Except.bind, hfind, eq_comm] using h

/-- A folder is listed by the names of its entries. -/
theorem At.list {fs : Files} {path : String} {f : Folder} (h : fs.At path f) :
    fs.list path = .ok (f.map (·.1)) := by
  obtain ⟨place, hleads, hfind⟩ := h
  obtain ⟨e, hlocate, rfl⟩ := hleads.exists_locate
  rw [list_eq, hlocate]
  simp [bind, Except.bind, hfind]

variable {fs : Files} {root : String} {f : Folder} {name : String}

/-- The folder that a path leads to can be changed in place, as long as no folder in it goes. -/
theorem Leads.change {place : Place} (h : fs.Leads root place)
    (hfind : fs.top.find? place = some (.folder f)) {g : Folder → Folder}
    (hg : ∀ name c, Entries.find? name f = some (.folder c) →
      Entries.find? name (g f) = some (.folder c)) :
    Leads { fs with top := fs.top.change g place } root place :=
  ⟨h.nonempty, h.clean, h.short,
    follow_of_folders (fun _ _ hc => Folder.isFolder_change hfind hg hc) h.follow⟩

theorem At.read_of_short (h : fs.At root f) (hname : Plain name)
    (hshort : (join root name).utf8ByteSize < maxPath) :
    fs.read (join root name) =
      match Entries.find? name f with
      | none => .error .noEntry
      | some (.folder _) => .error .isDirectory
      | some (.file bytes) => .ok bytes := by
  obtain ⟨place, hleads, hfind⟩ := h
  rw [Files.read, hleads.locate_join_of_short hname hshort]
  simp only [ok_bind]
  rw [Folder.find?_append hfind]
  rfl

/-- What is read below a folder is the entry of that name. -/
theorem At.read (h : fs.At root f) (hname : Plain name)
    (hsize : root.utf8ByteSize + 1 + name.utf8ByteSize < maxPath) :
    fs.read (join root name) =
      match Entries.find? name f with
      | none => .error .noEntry
      | some (.folder _) => .error .isDirectory
      | some (.file bytes) => .ok bytes := by
  have hne : root ≠ "" := by
    obtain ⟨place, hleads, -⟩ := h
    exact hleads.nonempty
  exact h.read_of_short hname (hname.join_short hne hsize)

/-- What can be read has a path that is not too long. -/
theorem short_of_read {path : String} {bytes : List UInt8} (h : fs.read path = .ok bytes) :
    path.utf8ByteSize < maxPath := by
  rw [Files.read] at h
  cases hlocate : fs.locate path with
  | error fault =>
    rw [hlocate] at h
    cases h
  | ok e => exact (followable_of_locate hlocate).2.2

/-- Nothing but files stands under a name. -/
def NoFolder (f : Folder) (name : String) : Prop :=
  ∀ c, Entries.find? name f ≠ some (.folder c)

theorem keeps_folders_insert (h : NoFolder f name) (bytes : List UInt8) :
    ∀ other c, Entries.find? other f = some (.folder c) →
      Entries.find? other (Entries.insert name (.file bytes) f) = some (.folder c) := by
  intro other c hother
  have hne : other ≠ name := by
    rintro rfl
    exact h c hother
  rw [Folder.find?_insert_of_ne _ _ hne, hother]

theorem find?_filter_of_ne (f : Folder) {other : String} (h : other ≠ name) :
    Entries.find? other (f.filter (·.1 ≠ name)) = Entries.find? other f := by
  induction f with
  | nil => rfl
  | cons e f ih =>
    by_cases he : e.1 = name
    · have hne : other ≠ e.1 := he ▸ h
      rw [List.filter_cons_of_neg (by simp [he]), ih, Entries.find?, if_neg hne]
    · rw [List.filter_cons_of_pos (by simp [he]), Entries.find?, Entries.find?, ih]

theorem find?_filter_self (f : Folder) (name : String) :
    Entries.find? name (f.filter (·.1 ≠ name)) = none := by
  induction f with
  | nil => rfl
  | cons e f ih =>
    by_cases he : e.1 = name
    · rw [List.filter_cons_of_neg (by simp [he]), ih]
    · rw [List.filter_cons_of_pos (by simp [he]), Entries.find?, if_neg (Ne.symm he), ih]

theorem keeps_folders_filter (h : NoFolder f name) :
    ∀ other c, Entries.find? other f = some (.folder c) →
      Entries.find? other (f.filter (·.1 ≠ name)) = some (.folder c) := by
  intro other c hother
  have hne : other ≠ name := by
    rintro rfl
    exact h c hother
  rw [find?_filter_of_ne f hne, hother]

/-- Writing puts a file into the folder, in place of the one that is there. -/
theorem Leads.write_eq {place : Place} (h : fs.Leads root place)
    (hfind : fs.top.find? place = some (.folder f)) (hname : Plain name)
    (hsize : root.utf8ByteSize + 1 + name.utf8ByteSize < maxPath) (hfree : NoFolder f name)
    (bytes : List UInt8) : fs.write (join root name) bytes =
      .ok { fs with top := fs.top.change (Entries.insert name (.file bytes)) place } := by
  rw [Files.write, h.locate_join hname hsize, ← Folder.put_append hfind]
  simp only [ok_bind]
  rw [Folder.find?_append hfind]
  cases hentry : Entries.find? name f with
  | none => rfl
  | some e =>
    cases e with
    | file _ => rfl
    | folder c => exact absurd hentry (hfree c)

/-- A file is written unless a folder has its name. -/
theorem At.write (h : fs.At root f) (hname : Plain name)
    (hsize : root.utf8ByteSize + 1 + name.utf8ByteSize < maxPath) (hfree : NoFolder f name)
    (bytes : List UInt8) : ∃ gs, fs.write (join root name) bytes = .ok gs ∧
      gs.At root (Entries.insert name (.file bytes) f) := by
  obtain ⟨place, hleads, hfind⟩ := h
  exact ⟨_, hleads.write_eq hfind hname hsize hfree bytes, place,
    hleads.change hfind (keeps_folders_insert hfree bytes), Folder.find?_change_self hfind _⟩

/-- Of two writes to a file the first one leaves nothing. -/
theorem At.write_write (h : fs.At root f) (hname : Plain name)
    (hsize : root.utf8ByteSize + 1 + name.utf8ByteSize < maxPath) (hfree : NoFolder f name)
    {first : List UInt8} {gs : Files} (hgs : fs.write (join root name) first = .ok gs)
    (bytes : List UInt8) : gs.write (join root name) bytes = fs.write (join root name) bytes := by
  obtain ⟨place, hleads, hfind⟩ := h
  rw [hleads.write_eq hfind hname hsize hfree] at hgs
  cases hgs
  have hfree' : NoFolder (Entries.insert name (.file first) f) name := fun c hc => by
    rw [Folder.find?_insert_self] at hc
    cases hc
  rw [hleads.write_eq hfind hname hsize hfree,
    (hleads.change hfind (keeps_folders_insert hfree first)).write_eq
      (Folder.find?_change_self hfind _) hname hsize hfree',
    Folder.change_change hfind]
  simp only [Entries.insert_insert]

/-- Taking away removes a file from the folder. -/
theorem At.remove (h : fs.At root f) (hname : Plain name)
    (hsize : root.utf8ByteSize + 1 + name.utf8ByteSize < maxPath) {bytes : List UInt8}
    (hfile : Entries.find? name f = some (.file bytes)) :
    ∃ gs, fs.remove (join root name) = .ok gs ∧ gs.At root (f.filter (·.1 ≠ name)) := by
  have hfree : NoFolder f name := fun c hc => by
    rw [hfile] at hc
    cases hc
  obtain ⟨place, hleads, hfind⟩ := h
  refine ⟨{ fs with top := fs.top.change (fun c => c.filter (·.1 ≠ name)) place }, ?_, place,
    hleads.change hfind (keeps_folders_filter hfree), Folder.find?_change_self hfind _⟩
  rw [Files.remove, hleads.locate_join hname hsize, ← Folder.remove_append hfind]
  simp only [ok_bind]
  rw [Folder.find?_append hfind, hfile]
  rfl

/-- What is not there cannot be taken away, and the failure says so. -/
theorem At.remove_missing (h : fs.At root f) (hname : Plain name)
    (hsize : root.utf8ByteSize + 1 + name.utf8ByteSize < maxPath)
    (hnone : Entries.find? name f = none) : fs.remove (join root name) = .error .noEntry := by
  obtain ⟨place, hleads, hfind⟩ := h
  rw [Files.remove, hleads.locate_join hname hsize]
  simp only [ok_bind]
  rw [Folder.find?_append hfind, hnone]

/-- Renaming moves a file to another name of the folder, in place of the file that has it. -/
theorem At.rename (h : fs.At root f) (hname : Plain name)
    (hsize : root.utf8ByteSize + 1 + name.utf8ByteSize < maxPath) {target : String}
    (htarget : Plain target) (hsize' : root.utf8ByteSize + 1 + target.utf8ByteSize < maxPath)
    {bytes : List UInt8} (hfile : Entries.find? name f = some (.file bytes))
    (hfree : NoFolder f target) (hne : target ≠ name) :
    ∃ gs, fs.rename (join root name) (join root target) = .ok gs ∧
      gs.At root (Entries.insert target (.file bytes) (f.filter (·.1 ≠ name))) := by
  have hread : fs.read (join root name) = .ok bytes := by
    rw [h.read hname hsize, hfile]
  have hnamefree : NoFolder f name := fun c hc => by
    rw [hfile] at hc
    cases hc
  have hfree' : NoFolder (f.filter (·.1 ≠ name)) target := fun c hc =>
    hfree c (by rwa [find?_filter_of_ne f hne] at hc)
  -- The old name goes first: what is put in its place goes into the folder without it.
  obtain ⟨place, hleads, hfind⟩ := h
  have hcleared := hleads.change hfind (keeps_folders_filter hnamefree)
  have hfind' := Folder.find?_change_self hfind fun c => c.filter (·.1 ≠ name)
  refine ⟨_, ?_, place, hcleared.change hfind' (keeps_folders_insert hfree' bytes),
    Folder.find?_change_self hfind' _⟩
  rw [Files.rename, hread, hleads.locate_join hname hsize, hleads.locate_join htarget hsize',
    ← Folder.put_append hfind', ← Folder.remove_append hfind]
  simp only [ok_bind]
  rw [Folder.find?_append hfind]
  cases hentry : Entries.find? target f with
  | none => rfl
  | some e =>
    cases e with
    | file _ => rfl
    | folder c => exact absurd hentry (hfree c)

end Files

end KernelGate
