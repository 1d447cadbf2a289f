import KernelGate.Text.Cut
import Mathlib.Data.List.Infix
import Mathlib.Data.List.Nodup

/-!
# One mark after the other, or all at once

The marks of a table may be replaced in one pass, or one kind after the other. The second way also
looks at values that stand in the text already: such a value may hold a later mark, or may complete
one together with the text around it.

Here marks are words between braces. `Replaced` says what one pass gives, without the pass itself.
A value does no harm if it has no braces, so that no mark begins or ends in it, and is no part of
the word of a later mark, so that it does not stand within one.

Main statements: `replaced_iff` (what one pass gives), `foldl_replaceFrom` (one pass for each mark
gives the same).
-/

namespace KernelGate.Text

/-- `out` is the text with its value for each mark of the table. -/
inductive Replaced (table : List (List Char × List Char)) : List Char → List Char → Prop
  | nil : Replaced table [] []
  | mark {mark value rest out : List Char} (hmem : (mark, value) ∈ table)
      (hrest : Replaced table rest out) : Replaced table (mark ++ rest) (value ++ out)
  | other {c : Char} {rest out : List Char} (hnone : ∀ e ∈ table, ¬ e.1 <+: c :: rest)
      (hrest : Replaced table rest out) : Replaced table (c :: rest) (c :: out)

/-- The text has no braces. -/
structure Plain (cs : List Char) : Prop where
  opening : '\x7b' ∉ cs
  closing : '\x7d' ∉ cs

/-- The mark of a word. -/
def inBraces (word : List Char) : List Char := '\x7b' :: (word ++ ['\x7d'])

/-- The table of words and their values, with each word in braces as the mark. -/
def braced (entries : List (List Char × List Char)) : List (List Char × List Char) :=
  entries.map fun e => (inBraces e.1, e.2)

/-- The words of marks have no braces and are all different. -/
structure Words (entries : List (List Char × List Char)) : Prop where
  plain : ∀ e ∈ entries, Plain e.1
  nodup : (entries.map (·.1)).Nodup

/-- The value can neither hold the mark of the word nor stand within one. -/
structure KeepsOff (value word : List Char) : Prop where
  plain : Plain value
  apart : ¬ value <:+: word

variable {entries : List (List Char × List Char)} {word value cs rest out : List Char}

theorem words_of_snoc (h : Words (entries ++ [(word, value)])) :
    Words entries ∧ Words [(word, value)] ∧ word ∉ entries.map (·.1) := by
  obtain ⟨hplain, hnodup⟩ := h
  rw [List.forall_mem_append] at hplain
  rw [List.map_append, List.nodup_append'] at hnodup
  refine ⟨⟨hplain.1, hnodup.1⟩, ⟨hplain.2, hnodup.2.1⟩, fun hmem => ?_⟩
  exact hnodup.2.2 hmem (List.mem_singleton_self word)

theorem mem_braced {mark : List Char} :
    (mark, value) ∈ braced entries ↔ ∃ word, (word, value) ∈ entries ∧ mark = inBraces word := by
  unfold braced
  rw [List.mem_map]
  constructor
  · rintro ⟨⟨word, _⟩, hmem, ⟨⟩⟩
    exact ⟨word, hmem, rfl⟩
  · rintro ⟨word, hmem, rfl⟩
    exact ⟨(word, value), hmem, rfl⟩

theorem forall_mem_braced : (∀ e ∈ braced entries, ¬ e.1 <+: cs) ↔
    ∀ e ∈ entries, ¬ inBraces e.1 <+: cs :=
  List.forall_mem_map

theorem inBraces_append (word rest : List Char) :
    inBraces word ++ rest = '\x7b' :: (word ++ ['\x7d'] ++ rest) := rfl

theorem inBraces_prefix_cons {c : Char} :
    inBraces word <+: c :: cs ↔ '\x7b' = c ∧ word ++ ['\x7d'] <+: cs :=
  List.cons_prefix_cons

/-- At most one mark begins where the text begins. -/
theorem inBraces_prefix_unique {word' : List Char} (h : Plain word) (h' : Plain word')
    (hpre : inBraces word <+: cs) (hpre' : inBraces word' <+: cs) : word = word' := by
  have hshort : ∀ {u v : List Char}, '\x7d' ∉ v → u ++ ['\x7d'] <+: v ++ ['\x7d'] → u = v := by
    intro u v hv hpre
    obtain heq | hpre := List.prefix_concat_iff.1 hpre
    · exact List.append_cancel_right heq
    · exact absurd (hpre.mem (List.mem_append_right _ (List.mem_singleton_self _))) hv
  obtain hpre | hpre := List.prefix_or_prefix_of_prefix hpre hpre'
  · exact hshort h'.closing ((List.cons_prefix_cons.1 hpre).2)
  · exact (hshort h.closing ((List.cons_prefix_cons.1 hpre).2)).symm

/-! ### One pass, step by step

At each place one of the marks stands there, and its value is put and the mark passed over; or none
does, and the character stays. -/

/-- No mark is found where none stands. -/
theorem markAt?_eq_none {table : List (List Char × List Char)} :
    markAt? table cs = none ↔ ∀ e ∈ table, ¬ e.1 <+: cs := by
  unfold markAt?
  rw [List.findSome?_eq_none_iff]
  refine forall₂_congr fun e _ => ?_
  rw [Option.map_eq_none_iff]
  constructor
  · rintro hnone ⟨rest, hrest⟩
    rw [after?_eq_some.2 hrest.symm] at hnone
    cases hnone
  · intro hno
    refine Option.eq_none_iff_forall_ne_some.2 fun rest hrest => hno ⟨rest, ?_⟩
    exact (after?_eq_some.1 hrest).symm

theorem exists_of_markAt? {table : List (List Char × List Char)} {size : Nat}
    (h : markAt? table cs = some (value, size)) :
    ∃ mark rest, (mark, value) ∈ table ∧ cs = mark ++ rest ∧ size = mark.length := by
  obtain ⟨⟨mark, _⟩, hmem, hat⟩ := List.exists_of_findSome?_eq_some h
  obtain ⟨rest, hrest, ⟨⟩⟩ := Option.map_eq_some_iff.1 hat
  exact ⟨mark, rest, hmem, after?_eq_some.1 hrest, rfl⟩

/-- To pass over a mark is to go on behind it. -/
theorem replaceFrom_eq_drop (table : List (List Char × List Char)) (skip : Nat) (cs : List Char) :
    replaceFrom table skip cs = replaceFrom table 0 (cs.drop skip) := by
  induction cs generalizing skip with
  | nil =>
    rw [List.drop_nil]
    cases skip <;> rfl
  | cons c cs ih =>
    cases skip with
    | zero => rfl
    | succ skip => exact ih skip

/-- A character at which no mark begins stays. -/
theorem replaceFrom_of_none {table : List (List Char × List Char)} {c : Char}
    (h : ∀ e ∈ table, ¬ e.1 <+: c :: cs) :
    replaceFrom table 0 (c :: cs) = c :: replaceFrom table 0 cs := by
  rw [replaceFrom, markAt?_eq_none.2 h]

theorem markAt?_inBraces (h : Words entries) (hmem : (word, value) ∈ entries) :
    markAt? (braced entries) (inBraces word ++ rest) = some (value, (inBraces word).length) := by
  cases hat : markAt? (braced entries) (inBraces word ++ rest) with
  | none =>
    have hnone := forall_mem_braced.1 (markAt?_eq_none.1 hat) _ hmem
    exact absurd (List.prefix_append _ _) hnone
  | some found =>
    obtain ⟨found, size⟩ := found
    obtain ⟨_, rest', hfound, hsplit, rfl⟩ := exists_of_markAt? hat
    obtain ⟨word', hmem', rfl⟩ := mem_braced.1 hfound
    -- The mark that the pass finds is the one that stands there, with the one value it has.
    have hword : word' = word := inBraces_prefix_unique (h.plain _ hmem') (h.plain _ hmem)
      ⟨_, hsplit.symm⟩ (List.prefix_append _ _)
    subst hword
    cases List.inj_on_of_nodup_map h.nodup hmem' hmem rfl
    rfl

/-- A mark is replaced by its value, and the pass goes on behind it. -/
theorem replaceFrom_inBraces (h : Words entries) (hmem : (word, value) ∈ entries) :
    replaceFrom (braced entries) 0 (inBraces word ++ rest) =
      value ++ replaceFrom (braced entries) 0 rest := by
  have hat : markAt? (braced entries) (inBraces word ++ rest) = _ := markAt?_inBraces h hmem
  have hdrop : (word ++ ['\x7d'] ++ rest).drop ((inBraces word).length - 1) = rest :=
    List.drop_left
  rw [inBraces_append] at hat ⊢
  rw [replaceFrom, hat]
  show value ++ replaceFrom (braced entries) ((inBraces word).length - 1) _ = _
  rw [replaceFrom_eq_drop, hdrop]

/-- No mark begins in text without an opening brace. -/
theorem replaceFrom_append (h : '\x7b' ∉ cs) :
    replaceFrom (braced entries) 0 (cs ++ rest) = cs ++ replaceFrom (braced entries) 0 rest := by
  induction cs with
  | nil => rfl
  | cons c cs ih =>
    obtain ⟨hc, hcs⟩ := not_or.1 (mt List.mem_cons.2 h)
    have hnone : ∀ e ∈ braced entries, ¬ e.1 <+: c :: (cs ++ rest) :=
      forall_mem_braced.2 fun e _ hpre => hc (inBraces_prefix_cons.1 hpre).1
    rw [List.cons_append, replaceFrom_of_none hnone, ih hcs, List.cons_append]

/-! ### What one pass gives

The pass and the relation agree, since words are all different: at most one mark stands at a place.
-/

theorem replaced_replaceFrom (entries : List (List Char × List Char)) (skip : Nat)
    (cs : List Char) :
    Replaced (braced entries) (cs.drop skip) (replaceFrom (braced entries) skip cs) := by
  induction cs generalizing skip with
  | nil =>
    rw [List.drop_nil]
    cases skip <;> exact .nil
  | cons c cs ih =>
    cases skip with
    | succ skip => exact ih skip
    | zero =>
      rw [List.drop_zero, replaceFrom]
      split
      · next value size hat =>
        obtain ⟨mark, rest, hmem, hsplit, rfl⟩ := exists_of_markAt? hat
        obtain ⟨word, _, rfl⟩ := mem_braced.1 hmem
        have hdrop : cs.drop ((inBraces word).length - 1) = rest := by
          have hdrop := congrArg (List.drop (inBraces word).length) hsplit
          rwa [List.drop_left] at hdrop
        rw [hsplit]
        exact .mark hmem (hdrop ▸ ih _)
      · next hat => exact .other (markAt?_eq_none.1 hat) (ih 0)

/-- There is one text that has its value for each mark, and a pass finds it. -/
theorem replaced_iff (h : Words entries) :
    Replaced (braced entries) cs out ↔ out = replaceFrom (braced entries) 0 cs := by
  constructor
  · intro hout
    induction hout with
    | nil => rfl
    | mark hmem _ ih =>
      obtain ⟨word, hentry, rfl⟩ := mem_braced.1 hmem
      rw [replaceFrom_inBraces h hentry, ih]
    | other hnone _ ih => rw [replaceFrom_of_none hnone, ih]
  · rintro rfl
    exact replaced_replaceFrom entries 0 cs

theorem replaced_nil (cs : List Char) : Replaced (braced []) cs cs := by
  induction cs with
  | nil => exact .nil
  | cons c cs ih => exact .other nofun ih

/-! ### A further mark

A second pass, for a mark more, looks at the values of the first as well. They keep off, so that it
finds that mark just where it stood before. -/

/-- Values that are no part of a word do not help to write it. -/
theorem prefix_of_replaced {tail : List Char} (hkeeps : ∀ e ∈ entries, KeepsOff e.2 word)
    (hout : Replaced (braced entries) cs out) (htail : tail <:+ word)
    (hpre : tail ++ ['\x7d'] <+: out) : tail ++ ['\x7d'] <+: cs := by
  induction hout generalizing tail with
  | nil => exact hpre
  | @mark mark value rest out hmem _ _ =>
    obtain ⟨_, hmem, -⟩ := mem_braced.1 hmem
    obtain ⟨⟨-, hclosing⟩, hapart⟩ := hkeeps _ hmem
    have hvalue : value <+: tail := by
      obtain hlong | hshort := List.prefix_or_prefix_of_prefix hpre (List.prefix_append value out)
      · exact absurd (hlong.mem (List.mem_append_right _ (List.mem_singleton_self _))) hclosing
      · obtain heq | hvalue := List.prefix_concat_iff.1 hshort
        · exact absurd (heq ▸ List.mem_append_right _ (List.mem_singleton_self _)) hclosing
        · exact hvalue
    exact absurd (hvalue.isInfix.trans htail.isInfix) hapart
  | other _ _ ih =>
    cases tail with
    | nil => exact List.cons_prefix_cons.2 ⟨(List.cons_prefix_cons.1 hpre).1, List.nil_prefix⟩
    | cons t tail =>
      obtain ⟨hhead, hpre⟩ := List.cons_prefix_cons.1 hpre
      have htail : tail <:+ word := (List.suffix_cons t tail).trans htail
      exact List.cons_prefix_cons.2 ⟨hhead, ih htail hpre⟩

/-- The pass leaves the mark of another word as it is. -/
theorem replaceFrom_foreign (h : Words entries) (hword : Plain word)
    (hnew : word ∉ entries.map (·.1)) :
    replaceFrom (braced entries) 0 (inBraces word ++ rest) =
      inBraces word ++ replaceFrom (braced entries) 0 rest := by
  have hnone : ∀ e ∈ braced entries, ¬ e.1 <+: inBraces word ++ rest := by
    refine forall_mem_braced.2 fun e he hpre => hnew ?_
    rw [← inBraces_prefix_unique (h.plain e he) hword hpre (List.prefix_append _ _)]
    exact List.mem_map_of_mem he
  have hopening : '\x7b' ∉ word ++ ['\x7d'] := by
    rw [List.mem_append, List.mem_singleton]
    exact not_or.2 ⟨hword.opening, by decide⟩
  rw [inBraces_append] at hnone ⊢
  rw [replaceFrom_of_none hnone, replaceFrom_append hopening]
  rfl

/-- The induction is on what one pass with all marks gives: where this pass finds a mark, the first
of the two passes finds it or leaves it to the second. -/
theorem twice_of_replaced (h : Words (entries ++ [(word, value)]))
    (hkeeps : ∀ e ∈ entries, KeepsOff e.2 word)
    (hout : Replaced (braced (entries ++ [(word, value)])) cs out) :
    replaceFrom (braced [(word, value)]) 0 (replaceFrom (braced entries) 0 cs) = out := by
  obtain ⟨hentries, hfurther, hnew⟩ := words_of_snoc h
  induction hout with
  | nil => rfl
  | mark hmem _ ih =>
    obtain ⟨_, hentry, rfl⟩ := mem_braced.1 hmem
    obtain hentry | hentry := List.mem_append.1 hentry
    · rw [replaceFrom_inBraces hentries hentry,
        replaceFrom_append (hkeeps _ hentry).plain.opening, ih]
    · cases List.mem_singleton.1 hentry
      rw [replaceFrom_foreign hentries (hfurther.plain _ hentry) hnew,
        replaceFrom_inBraces hfurther hentry, ih]
  | @other c rest _ hnone _ ih =>
    rw [forall_mem_braced, List.forall_mem_append, ← forall_mem_braced] at hnone
    have hlast : ∀ e ∈ braced [(word, value)],
        ¬ e.1 <+: c :: replaceFrom (braced entries) 0 rest := by
      refine forall_mem_braced.2 fun e he hpre => hnone.2 e he ?_
      obtain rfl := List.mem_singleton.1 he
      obtain ⟨hopening, hpre⟩ := inBraces_prefix_cons.1 hpre
      -- The first pass did not help to write the mark, so it stood there before.
      have hrest := prefix_of_replaced hkeeps (replaced_replaceFrom entries 0 rest)
        (List.suffix_refl word) hpre
      exact inBraces_prefix_cons.2 ⟨hopening, hrest⟩
    rw [replaceFrom_of_none hnone.1, replaceFrom_of_none hlast, ih]

/-- If no value is a part of the word of a further mark, then that mark may be replaced in a pass of
its own, whatever its own value is. -/
theorem replaceFrom_snoc (h : Words (entries ++ [(word, value)]))
    (hkeeps : ∀ e ∈ entries, KeepsOff e.2 word) (cs : List Char) :
    replaceFrom (braced [(word, value)]) 0 (replaceFrom (braced entries) 0 cs) =
      replaceFrom (braced (entries ++ [(word, value)])) 0 cs :=
  twice_of_replaced h hkeeps (replaced_replaceFrom _ 0 cs)

/-- If no value is a part of a later word, then one pass for each mark gives what a single pass
gives. -/
theorem foldl_replaceFrom (h : Words entries)
    (hkeeps : entries.Pairwise fun e later => KeepsOff e.2 later.1) (cs : List Char) :
    entries.foldl (fun cs e => replaceFrom (braced [e]) 0 cs) cs =
      replaceFrom (braced entries) 0 cs := by
  induction entries using List.reverseRecOn with
  | nil => exact (replaced_iff h).1 (replaced_nil cs)
  | append_singleton entries last ih =>
    obtain ⟨hentries, -, hlast⟩ := List.pairwise_append.1 hkeeps
    rw [List.foldl_append, ih (words_of_snoc h).1 hentries]
    exact replaceFrom_snoc h (fun e he => hlast e he last (List.mem_singleton_self last)) cs

end KernelGate.Text
