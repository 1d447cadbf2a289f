import KernelGate.Command.Supply
import KernelGate.Proofs.Session.Directory
import KernelGate.Proofs.Session.Reliable
import KernelGate.Session.Keeper
import Mathlib.Data.String.Basic

/-!
# The stores of a gateway never fail

A gateway keeps its records in files or in a dictionary, as its configuration says. What is proved
of gateways with reliable stores holds of both. A store in files is reliable for the sessions that a
file of its folder can be named for, as long as nobody else writes to the folder. The sessions that
a run makes up are among them wherever the folder is, unless its path is so long that the host has
no room for a name below it.

Main statements: `FileStore.reliable_files`, `RecordKeeper.reliable_keeper`,
`FileStore.usable_sessionId`, `RecordKeeper.holds_ofConfig` (what a configuration's store holds when
it is opened).
-/

namespace KernelGate

/-! ## Files

A folder that keeps a dictionary files each record under its session, and only under names that it
can use, so that the three operations of the store are what `FileStore.Holds` says of them. The path
of the folder is part of what the store holds: no operation moves the store, and which sessions are
usable depends on that path alone. -/

/-- A store in files never fails for the sessions that it can use. -/
theorem FileStore.reliable_files (root : String) :
    Reliable (Usable root) fun (s : FileStore) d => s.root = root ∧ s.Holds d where
  filed := by
    rintro s d ⟨rfl, f, -, hkeeps⟩ session record hget
    exact (hkeeps.complete session record hget).1
  usable := by
    rintro s d session record ⟨rfl, f, -, hkeeps⟩ hget
    exact (hkeeps.complete session record hget).2.1
  list := by
    rintro s d ⟨hroot, hholds⟩
    exact ⟨s, Prod.ext rfl hholds.list, hroot, hholds⟩
  persist := by
    rintro s d record husable ⟨rfl, hholds⟩
    obtain ⟨hok, hroot, hholds'⟩ := hholds.persist husable
    exact ⟨_, Prod.ext rfl hok, hroot, hholds'⟩
  remove := by
    rintro s d session husable ⟨rfl, hholds⟩
    obtain ⟨hok, hroot, hholds'⟩ := hholds.remove husable
    exact ⟨_, Prod.ext rfl hok, hroot, hholds'⟩

/-! ## Either kind of store

A gateway has one of the two stores and keeps to it. Each operation is that of the store inside, so
that its result and what is held afterwards are those known already. -/

namespace RecordKeeper

/-- The records of a dictionary are what a store holds. The dictionary of a gateway without
persistence is held to the sessions that files could be named for as well, so that a gateway may be
spoken of whichever store it has. -/
def Holds (root : String) : RecordKeeper → Dict SessionRecord → Prop
  | .memory records, d => (records = d ∧ Filed d) ∧
    ∀ session record, d.get? session = some record → FileStore.Usable root session
  | .files store, d => store.root = root ∧ store.Holds d

variable {root : String} {d : Dict SessionRecord}

/-- Whichever store a gateway has, it never fails for these sessions. -/
theorem reliable_keeper (root : String) :
    Reliable (FileStore.Usable root) (RecordKeeper.Holds root) := by
  have hmemory : Reliable (FileStore.Usable root) _ := reliable_memory.restrict fun _ _ => trivial
  have hfiles := FileStore.reliable_files root
  constructor
  case filed =>
    rintro (records | store) d h
    · exact hmemory.filed h
    · exact hfiles.filed h
  case usable =>
    rintro (records | store) d session record h hget
    · exact hmemory.usable h hget
    · exact hfiles.usable h hget
  case list =>
    rintro (records | store) d h
    · obtain ⟨records', hlist, hholds⟩ := hmemory.list h
      exact ⟨.memory records', congrArg (Prod.map RecordKeeper.memory id) hlist, hholds⟩
    · obtain ⟨store', hlist, hholds⟩ := hfiles.list h
      exact ⟨.files store', congrArg (Prod.map RecordKeeper.files id) hlist, hholds⟩
  case persist =>
    rintro (records | store) d record husable h
    · obtain ⟨records', hpersist, hholds⟩ := hmemory.persist record husable h
      exact ⟨.memory records', congrArg (Prod.map RecordKeeper.memory id) hpersist, hholds⟩
    · obtain ⟨store', hpersist, hholds⟩ := hfiles.persist record husable h
      exact ⟨.files store', congrArg (Prod.map RecordKeeper.files id) hpersist, hholds⟩
  case remove =>
    rintro (records | store) d session husable h
    · obtain ⟨records', hremove, hholds⟩ := hmemory.remove session husable h
      exact ⟨.memory records', congrArg (Prod.map RecordKeeper.memory id) hremove, hholds⟩
    · obtain ⟨store', hremove, hholds⟩ := hfiles.remove session husable h
      exact ⟨.files store', congrArg (Prod.map RecordKeeper.files id) hremove, hholds⟩

/-- The store that a configuration asks for holds nothing at first: a dictionary is made anew, and
so is a folder unless it is there already, in which case it is to be empty. -/
theorem holds_ofConfig {c : Config} {files : Files} {keeper : RecordKeeper}
    (h : ofConfig c files = .ok keeper)
    (hempty : ∀ store, keeper = .files store → store.files.list store.root = .ok []) :
    keeper.Holds c.persistenceRoot ∅ := by
  unfold ofConfig at h
  split at h
  · cases hopen : FileStore.openAt files c.persistenceRoot with
    | error cause =>
      rw [hopen] at h
      cases h
    | ok store =>
      rw [hopen] at h
      cases h
      refine ⟨?_, FileStore.holds_of_empty (hempty store rfl)⟩
      unfold FileStore.openAt at hopen
      cases hmake : files.makePath c.persistenceRoot with
      | error cause =>
        rw [hmake] at hopen
        cases hopen
      | ok made =>
        rw [hmake] at hopen
        cases hopen
        rfl
  · cases h
    exact ⟨⟨rfl, fun _ _ h => (nomatch h)⟩, fun _ _ h => (nomatch h)⟩

end RecordKeeper

/-! ## Sessions that a run makes up

An id is 36 characters long, all of them hexadecimal digits or dashes. So it is no name that a
folder has a meaning of its own for, it leads to no other folder, and a file's name has room for
it. -/

/-- A hexadecimal digit in lower case, or the dash between two groups of an id. -/
def IdChar (c : Char) : Prop := c = '-' ∨ ∃ d : Fin 16, c = Nat.digitChar d

/-- Such a character takes one byte. It parts no path, and every path may have it. -/
theorem IdChar.plain {c : Char} (h : IdChar c) : c.utf8Size = 1 ∧ c ≠ '/' ∧ c ≠ '\x00' := by
  obtain rfl | ⟨d, rfl⟩ := h
  · decide
  · revert d
    decide

/-- A stretch of an id, of so many characters. -/
structure IdPart (width : Nat) (cs : List Char) : Prop where
  length : cs.length = width
  chars : ∀ c ∈ cs, IdChar c

namespace IdPart

variable {m n : Nat} {cs ds : List Char}

theorem append (hc : IdPart m cs) (hd : IdPart n ds) : IdPart (m + n) (cs ++ ds) where
  length := by rw [List.length_append, hc.length, hd.length]
  chars c h := (List.mem_append.1 h).elim (hc.chars c) (hd.chars c)

theorem dash : IdPart 1 "-".toList where
  length := rfl
  chars _ h := .inl (List.mem_singleton.1 h)

/-- A single digit stands for itself, as the version of an id does. -/
theorem digit (d : Fin 16) : IdPart 1 [Nat.digitChar d] where
  length := rfl
  chars _ h := .inr ⟨d, List.mem_singleton.1 h⟩

theorem chars_toDigits {n : Nat} {c : Char} (h : c ∈ Nat.toDigits 16 n) : IdChar c := by
  -- The last digit is one, and the others are the digits of a smaller number.
  induction n using Nat.strongRecOn with
  | _ n ih =>
    rw [Nat.toDigits_eq_if (by decide)] at h
    split at h
    · next hlt => exact .inr ⟨⟨n, hlt⟩, List.mem_singleton.1 h⟩
    · next hle =>
      obtain h | h := List.mem_append.1 h
      · exact ih (n / 16) (by omega) h
      · exact .inr ⟨⟨n % 16, Nat.mod_lt _ (by decide)⟩, List.mem_singleton.1 h⟩

/-- The lowest digits of a number are as many as are asked for: it has no more of them once it is
cut down to these, and zeros are put before it if it has fewer. -/
theorem digits (width : Nat) (hwidth : 0 < width) (n : Nat) :
    IdPart width (Text.hexDigits width (n % Nat.pow 16 width)) where
  length := by
    have hlt : n % Nat.pow 16 width < Nat.pow 16 width := Nat.mod_lt n (Nat.pow_pos (by decide))
    have hle := (Nat.length_toDigits_le_iff (by decide) hwidth).2 hlt
    rw [Text.hexDigits, List.length_append, List.length_replicate]
    exact Nat.sub_add_cancel hle
  chars c h := by
    obtain h | h := List.mem_append.1 h
    · exact .inr ⟨0, List.eq_of_mem_replicate h⟩
    · exact chars_toDigits h

/-- Every id is 36 characters long, whatever numbers it is made of. -/
theorem idText (a b : Nat) : IdPart 36 (idText a b).toList := by
  simp only [KernelGate.idText, Text.joinWith, String.toList_intercalate, List.map_cons,
    List.map_nil, String.toList_append, String.toList_ofList, List.intercalate, List.intersperse,
    List.flatten_cons, List.flatten_nil, List.append_nil]
  exact (digits 8 (by decide) _).append <| dash.append <|
    (digits 4 (by decide) _).append <| dash.append <|
    ((digit 4).append (digits 3 (by decide) _)).append <| dash.append <|
    ((digits 1 (by decide) _).append (digits 3 (by decide) _)).append <| dash.append <|
    (digits 6 (by decide) _).append (digits 6 (by decide) _)

/-- Each character of an id takes one byte. -/
theorem utf8ByteSize {s : String} (h : IdPart n s.toList) : s.utf8ByteSize = n := by
  have hsize : ∀ cs : List Char, (∀ c ∈ cs, IdChar c) → String.utf8Len cs = cs.length := by
    intro cs
    induction cs with
    | nil => exact fun _ => rfl
    | cons c cs ih =>
      intro hall
      obtain ⟨hc, hcs⟩ := List.forall_mem_cons.1 hall
      rw [String.utf8Len_cons, ih hcs, hc.plain.1, List.length_cons]
  rw [← String.utf8Len_toList, hsize _ h.chars, h.length]

end IdPart

/-- The sessions that a run makes up can be used in any folder whose path leaves room for a name. -/
theorem FileStore.usable_sessionId {root : String} (h : root.utf8ByteSize + 42 < Files.maxPath)
    (seed n : Nat) : Usable root ((Supply.seeded seed).sessionId n) := by
  have hpart : IdPart 36 ((Supply.seeded seed).sessionId n).toList := .idText _ _
  have hsize := hpart.utf8ByteSize
  refine ⟨?_, fun hslash => ?_, fun hnul => ?_, ?_, ?_⟩
  · intro hempty
    rw [hempty] at hsize
    cases hsize
  · exact (hpart.chars _ hslash).plain.2.1 rfl
  · exact (hpart.chars _ hnul).plain.2.2 rfl
  · rw [hsize]
    decide
  · omega

end KernelGate
