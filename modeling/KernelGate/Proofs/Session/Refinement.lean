import KernelGate.Proofs.Session.Directory
import Mathlib.Data.List.Infix

/-!
# The file store refines the memory store

Whatever calls are made, a store in a folder that nobody else writes to answers them like the
dictionary that lasts as long as the gateway. Keeping a record takes a few operations on files:
wherever they break off, the store goes on as if the record had not been kept, or as if it had.

Main statements: `Holds.answers_eq` (one call after another), `performAll_keepSteps` (keeping a
record is those operations), `Holds.performAll_prefix` (wherever they break off),
`refines_memory` (all of it, for every run).
-/

namespace KernelGate

/-! ## Calls

Both stores answer calls, and what is compared are the answers. By induction on the calls, the
folder holds all along what the dictionary holds. -/

/-- A call of a store. -/
inductive StoreCall where
  | persist (r : SessionRecord)
  | remove (session : String)
  | list

/-- What a call is answered with. -/
inductive StoreAnswer where
  | done (result : Result Unit)
  | listed (result : Result (List SessionRecord))

namespace StoreCall

variable {σ : Type} [SessionStore σ]

/-- Make a call. -/
def on (s : σ) : StoreCall → σ × StoreAnswer
  | persist r => ((SessionStore.persist s r).1, .done (SessionStore.persist s r).2)
  | remove session => ((SessionStore.remove s session).1, .done (SessionStore.remove s session).2)
  | list => ((SessionStore.list s).1, .listed (SessionStore.list s).2)

/-- The answers of a store to calls one after another. -/
def answers : σ → List StoreCall → List StoreAnswer
  | _, [] => []
  | s, call :: calls => (call.on s).2 :: answers (call.on s).1 calls

/-- The store that calls one after another leave. -/
def after (s : σ) (calls : List StoreCall) : σ := calls.foldl (fun s call => (call.on s).1) s

/-- The session of a call can be part of a file's name in a folder of this path. -/
def Usable (root : String) : StoreCall → Prop
  | persist r => FileStore.Usable root r.sessionId
  | remove session => FileStore.Usable root session
  | list => True

/-- The record of a session that calls one after another leave: the one that was kept last, unless
the session was forgotten behind it. -/
def kept? (m : MemoryStore) (calls : List StoreCall) (session : String) : Option SessionRecord :=
  calls.foldl (fun known call =>
    match call with
    | persist r => if r.sessionId = session then some r else known
    | remove forgotten => if forgotten = session then none else known
    | list => known) (m.get? session)

/-- What the dictionary holds of a session can be told from the calls about it. -/
theorem get?_after (m : MemoryStore) (calls : List StoreCall) (session : String) :
    (after m calls).get? session = kept? m calls session := by
  induction calls generalizing m with
  | nil => rfl
  | cons call calls ih =>
    have hstep : kept? m (call :: calls) session = kept? (call.on m).1 calls session := by
      cases call with
      | persist r =>
        have hget : (m.insert r.sessionId r).get? session =
            if r.sessionId = session then some r else m.get? session := by
          rw [Dict.get?_insert]
          simp only [eq_comm]
        show List.foldl _ _ calls = List.foldl _ ((m.insert r.sessionId r).get? session) calls
        rw [hget]
      | remove forgotten =>
        have hget : (m.erase forgotten).get? session =
            if forgotten = session then none else m.get? session := by
          rw [Dict.get?_erase]
          simp only [eq_comm]
        show List.foldl _ _ calls = List.foldl _ ((m.erase forgotten).get? session) calls
        rw [hget]
      | list => rfl
    rw [hstep, ← ih]
    rfl

/-- The dictionary never fails. -/
theorem ok_of_mem_answers {m : MemoryStore} {calls : List StoreCall} {result : Result Unit}
    (h : .done result ∈ answers m calls) : result = .ok () := by
  induction calls generalizing m with
  | nil => cases h
  | cons call calls ih =>
    rcases List.mem_cons.mp h with he | h
    · cases call <;> cases he <;> rfl
    · exact ih h

end StoreCall

namespace FileStore

open StoreCall

variable {s : FileStore} {m : MemoryStore}

/-- A call leaves the folder holding what the dictionary holds after it, with the same answer. -/
theorem Holds.on (h : s.Holds m) {call : StoreCall} (husable : call.Usable s.root) :
    (call.on s).2 = (call.on m).2 ∧ (call.on s).1.root = s.root ∧
      (call.on s).1.Holds (call.on m).1 := by
  cases call with
  | persist r =>
    obtain ⟨hok, hroot, hholds⟩ := h.persist husable
    exact ⟨congrArg StoreAnswer.done hok, hroot, hholds⟩
  | remove session =>
    obtain ⟨hok, hroot, hholds⟩ := h.remove husable
    exact ⟨congrArg StoreAnswer.done hok, hroot, hholds⟩
  | list => exact ⟨congrArg StoreAnswer.listed h.list, rfl, h⟩

/-- However many calls are made, the folder holds what the dictionary holds. -/
theorem Holds.after (h : s.Holds m) {calls : List StoreCall}
    (husable : ∀ call ∈ calls, call.Usable s.root) :
    (after s calls).root = s.root ∧ (after s calls).Holds (after m calls) := by
  induction calls generalizing s m with
  | nil => exact ⟨rfl, h⟩
  | cons call calls ih =>
    obtain ⟨hcall, hcalls⟩ := List.forall_mem_cons.mp husable
    obtain ⟨-, hroot, hholds⟩ := h.on hcall
    obtain ⟨hroot', hholds'⟩ := ih hholds (hroot ▸ hcalls)
    exact ⟨hroot'.trans hroot, hholds'⟩

/-- The store answers like the dictionary. -/
theorem Holds.answers_eq (h : s.Holds m) {calls : List StoreCall}
    (husable : ∀ call ∈ calls, call.Usable s.root) : answers s calls = answers m calls := by
  induction calls generalizing s m with
  | nil => rfl
  | cons call calls ih =>
    obtain ⟨hcall, hcalls⟩ := List.forall_mem_cons.mp husable
    obtain ⟨hanswer, hroot, hholds⟩ := h.on hcall
    rw [answers, answers, hanswer, ih hholds (hroot ▸ hcalls)]

end FileStore

/-! ## Operations on files

What can be interrupted is an operation on files, and no such operation is done by halves. A record
is kept by making a draft, writing to it as often as it takes, and giving it its name, so that there
are only a few moments at which it can break off. -/

/-- An operation on files that either happens or does not. -/
inductive FileStep where
  /-- Make an empty file, or empty the one that is there. -/
  | create (path : String)
  /-- Write on at the end of a file. -/
  | append (path : String) (more : List UInt8)
  | rename (source target : String)

/-- Perform an operation. -/
def FileStep.perform (fs : Files) : FileStep → Except IoFault Files
  | create path => fs.write path []
  | append path more => do fs.write path ((← fs.read path) ++ more)
  | rename source target => fs.rename source target

/-- Perform operations one after another. -/
def performAll (fs : Files) (steps : List FileStep) : Except IoFault Files :=
  steps.foldlM FileStep.perform fs

namespace FileStore

open StoreCall

variable {s : FileStore} {m : MemoryStore} {r : SessionRecord}

/-- The operations that keep a record whose bytes are written in these parts. -/
def keepSteps (s : FileStore) (r : SessionRecord) (parts : List (List UInt8)) : List FileStep :=
  .create (s.draftPath r.sessionId) :: parts.map (.append (s.draftPath r.sessionId)) ++
    [.rename (s.draftPath r.sessionId) (s.recordPath r.sessionId)]

/-- A draft is written part by part as it is written at once. -/
theorem Holds.performAll_parts (h : s.Holds m) (husable : Usable s.root r.sessionId)
    {written : List UInt8} {files : Files}
    (hfiles : s.files.write (s.draftPath r.sessionId) written = .ok files)
    (parts : List (List UInt8)) :
    performAll files (parts.map (.append (s.draftPath r.sessionId))) =
      s.files.write (s.draftPath r.sessionId) (written ++ parts.flatten) := by
  induction parts generalizing written files with
  | nil =>
    rw [List.flatten_nil, List.append_nil]
    exact hfiles.symm
  | cons part parts ih =>
    obtain ⟨next, hnext, -⟩ := h.draft husable (written ++ part)
    obtain ⟨hread, hwrite⟩ := h.draft_again husable hfiles
    have hstep : FileStep.perform files (.append (s.draftPath r.sessionId) part) = .ok next := by
      rw [FileStep.perform, hread]
      exact (hwrite _).trans hnext
    rw [performAll, List.map_cons, List.foldlM_cons, hstep]
    show performAll next _ = _
    rw [ih hnext, List.flatten_cons, List.append_assoc]

/-- Before the draft is given its name, all that has happened is that so much of it was written. -/
theorem Holds.performAll_draft (h : s.Holds m) (husable : Usable s.root r.sessionId)
    (parts : List (List UInt8)) :
    performAll s.files (.create (s.draftPath r.sessionId) ::
      parts.map (.append (s.draftPath r.sessionId))) =
        s.files.write (s.draftPath r.sessionId) parts.flatten := by
  obtain ⟨files, hfiles, -⟩ := h.draft husable []
  rw [performAll, List.foldlM_cons, FileStep.perform, hfiles]
  exact h.performAll_parts husable hfiles parts

/-- Keeping a record is these operations, in whatever parts its bytes are written. -/
theorem Holds.performAll_keepSteps (h : s.Holds m) (husable : Usable s.root r.sessionId)
    {parts : List (List UInt8)} (hparts : parts.flatten = r.bytes) :
    ∃ files, performAll s.files (s.keepSteps r parts) = .ok files ∧
      s.persist r = ({ s with files }, .ok ()) := by
  obtain ⟨files, hwrite, -⟩ := h.draft husable r.bytes
  obtain ⟨renamed, hrename, -⟩ := h.rename_draft husable hwrite
  have hdraft := h.performAll_draft husable parts
  rw [hparts, hwrite, performAll] at hdraft
  refine ⟨renamed, ?_, persist_eq hwrite hrename⟩
  rw [performAll, keepSteps, List.foldlM_append, hdraft]
  show FileStep.perform files (.rename _ _) >>= _ = _
  rw [FileStep.perform, hrename]
  rfl

/-- Wherever the operations break off, the folder holds what it held, or the record is kept. -/
theorem Holds.performAll_prefix (h : s.Holds m) (husable : Usable s.root r.sessionId)
    {parts : List (List UInt8)} (hparts : parts.flatten = r.bytes) {steps : List FileStep}
    (hsteps : steps <+: s.keepSteps r parts) :
    ∃ files, performAll s.files steps = .ok files ∧
      (Holds { s with files } m ∨ { s with files } = (s.persist r).1) := by
  rcases List.prefix_concat_iff.mp hsteps with rfl | hdraft
  · obtain ⟨files, hfiles, hpersist⟩ := h.performAll_keepSteps husable hparts
    exact ⟨files, hfiles, .inr (by rw [hpersist])⟩
  · rcases List.prefix_cons_iff.mp hdraft with rfl | ⟨rest, rfl, hrest⟩
    · exact ⟨s.files, rfl, .inl h⟩
    · obtain ⟨some, -, rfl⟩ := List.prefix_map_iff.mp hrest
      obtain ⟨files, hfiles, hholds⟩ := h.draft husable some.flatten
      exact ⟨files, (h.performAll_draft husable some).trans hfiles, .inl hholds⟩

/-- The listing of what calls leave: in the order of the sessions, and of each session the record
that was kept last. -/
theorem Holds.list_after (h : s.Holds m) {calls : List StoreCall}
    (husable : ∀ call ∈ calls, call.Usable s.root) :
    ∃ records, (StoreCall.after s calls).list = .ok records ∧
      records.Pairwise (fun a b => a.sessionId < b.sessionId) ∧
      ∀ r, r ∈ records ↔ kept? m calls r.sessionId = some r := by
  obtain ⟨-, hafter⟩ := h.after husable
  refine ⟨_, hafter.list, ?_, fun r => ?_⟩
  · obtain ⟨f, -, hkeeps⟩ := hafter
    exact hkeeps.values_sorted
  · obtain ⟨f, -, hkeeps⟩ := hafter
    rw [hkeeps.mem_values, get?_after]

/-- Keeping a record is a few operations on files, in whatever parts its bytes are written, and
wherever these break off, the store goes on for all calls to come as if they had not begun, or as
if they were done. -/
def KeepsWhole (s : FileStore) : Prop :=
  ∀ r parts, Usable s.root r.sessionId → parts.flatten = r.bytes →
    (∃ files, performAll s.files (s.keepSteps r parts) = .ok files ∧
      s.persist r = ({ s with files }, .ok ())) ∧
    ∀ steps, steps <+: s.keepSteps r parts → ∃ files, performAll s.files steps = .ok files ∧
      ((∀ calls, (∀ call ∈ calls, call.Usable s.root) →
        answers { s with files } calls = answers s calls) ∨
      ∀ calls, (∀ call ∈ calls, call.Usable s.root) →
        answers { s with files } calls = answers (s.persist r).1 calls)

/-- A draft that is left behind is overwritten by the next one, and is not listed. -/
theorem Holds.keepsWhole (h : s.Holds m) : s.KeepsWhole := by
  intro r parts husable hparts
  refine ⟨h.performAll_keepSteps husable hparts, fun steps hsteps => ?_⟩
  obtain ⟨files, hfiles, hholds | hdone⟩ := h.performAll_prefix husable hparts hsteps
  · refine ⟨files, hfiles, .inl fun calls hcalls => ?_⟩
    rw [hholds.answers_eq hcalls, h.answers_eq hcalls]
  · exact ⟨files, hfiles, .inr fun calls _ => by rw [hdone]⟩

/-- A store in a folder that nobody else writes to answers every run of calls like the dictionary,
without fail; it lists each session's record that was kept last, in the order of the sessions; and
it keeps each record as a whole or not at all. -/
theorem refines_memory (h : s.Holds m) {calls : List StoreCall}
    (husable : ∀ call ∈ calls, call.Usable s.root) :
    answers s calls = answers m calls ∧
    (∀ result, .done result ∈ answers s calls → result = .ok ()) ∧
    (∃ records, (StoreCall.after s calls).list = .ok records ∧
      records.Pairwise (fun a b => a.sessionId < b.sessionId) ∧
      ∀ r, r ∈ records ↔ kept? m calls r.sessionId = some r) ∧
    (StoreCall.after s calls).KeepsWhole := by
  have hanswers := h.answers_eq husable
  refine ⟨hanswers, fun result hresult => ?_, h.list_after husable, (h.after husable).2.keepsWhole⟩
  exact ok_of_mem_answers (hanswers ▸ hresult)

/-! ### Two sessions in an empty folder -/

/-- A store in an empty folder. -/
def fresh : FileStore := ⟨⟨[("sessions", .folder [])], []⟩, "sessions"⟩

/-- The record of a session. -/
def noted (session : String) : SessionRecord :=
  ⟨session, ⟨"kernel-" ++ session, "python3", "alice", "localhost", [1, 2, 3, 4, 5].map Port.ofNat⟩,
    .forUser "alice"⟩

/-- Two records are kept, and one of them is forgotten twice. -/
def twoSessions : List StoreCall :=
  [.persist (noted "s2"), .persist (noted "s1"), .list, .remove "s1", .remove "s1", .list]

theorem refines_twoSessions :
    answers fresh twoSessions = [.done (.ok ()), .done (.ok ()),
      .listed (.ok [noted "s1", noted "s2"]), .done (.ok ()), .done (.ok ()),
      .listed (.ok [noted "s2"])] ∧
    (StoreCall.after fresh twoSessions).KeepsWhole := by
  have hholds : fresh.Holds ∅ := holds_of_empty rfl
  have husable : ∀ session ∈ ["s1", "s2"], Usable fresh.root session := by
    simp only [List.forall_mem_cons, List.not_mem_nil, false_implies, implies_true, and_true]
    exact ⟨⟨by decide, by decide, by decide, by decide, by decide⟩,
      ⟨by decide, by decide, by decide, by decide, by decide⟩⟩
  have hcalls : ∀ call ∈ twoSessions, call.Usable fresh.root := by
    simp only [twoSessions, List.forall_mem_cons, List.not_mem_nil, false_implies, implies_true,
      and_true]
    exact ⟨husable _ (by decide), husable _ (by decide), trivial, husable _ (by decide),
      husable _ (by decide), trivial⟩
  obtain ⟨hanswers, -, -, hwhole⟩ := refines_memory hholds hcalls
  exact ⟨hanswers.trans rfl, hwhole⟩

end FileStore

end KernelGate
