import KernelGate.Launcher.Template
import KernelGate.Proofs.Text.Replacing
import KernelGate.Text.Decimal

/-!
# Filling in the words of a command

A word of a command is filled in kind by kind: the id, the host, the ports and the user. The user's
name comes from the client and may hold anything, marks too; it comes last, so that nothing looks at
it again. The ports are digits and commas. So the only values that could go wrong are the id and the
host, and they do not if they have no braces and do not stand within a later word.

Main statement: `KernelHandle.fill_eq_fillOnce`.
-/

namespace KernelGate

/-- What holds of the characters of the items and of the separator holds of all. -/
theorem Text.forall_mem_joinWith {p : Char → Prop} {sep : String} {items : List String}
    (hsep : ∀ c ∈ sep.toList, p c) (hitems : ∀ item ∈ items, ∀ c ∈ item.toList, p c) :
    ∀ c ∈ (Text.joinWith sep items).toList, p c := by
  rw [joinWith]
  induction items with
  | nil => nofun
  | cons item rest ih =>
    obtain ⟨hitem, hrest⟩ := List.forall_mem_cons.1 hitems
    cases rest with
    | nil => rwa [String.intercalate_singleton]
    | cons next rest =>
      rw [String.intercalate_cons_cons, String.toList_append, String.toList_append]
      simp only [List.forall_mem_append]
      exact ⟨⟨hitem, hsep⟩, ih hrest⟩

namespace KernelHandle

open Text

variable {h : KernelHandle}

/-- The words of the marks and the values of a kernel. -/
def entries (h : KernelHandle) : List (List Char × List Char) :=
  [("kernel_id".toList, h.id.toList), ("host".toList, h.host.toList),
    ("ports".toList, h.portList.toList), ("username".toList, h.user.toList)]

/-- The id and the host have no braces and are no part of the word of a mark that is filled in
later. -/
structure Harmless (h : KernelHandle) : Prop where
  id : Plain h.id.toList
  host : Plain h.host.toList
  idApart : ∀ word ∈ ["host", "ports", "username"], ¬ h.id.toList <:+: word.toList
  hostApart : ∀ word ∈ ["ports", "username"], ¬ h.host.toList <:+: word.toList

/-- The ports are written in digits and commas, of which no mark is made. -/
theorem mem_portList : ∀ c ∈ h.portList.toList, c.isDigit = true ∨ c = ',' := by
  refine forall_mem_joinWith (fun c hc => .inr (List.mem_singleton.1 hc)) ?_
  intro item hitem c hc
  obtain ⟨p, -, rfl⟩ := List.mem_map.1 hitem
  rw [naturalText, String.toList_ofList] at hc
  exact .inl (isDigit_of_mem_digits _ c hc)

/-- Where there are ports, something is written for them. -/
theorem portList_ne_nil (hports : h.ports ≠ []) : h.portList.toList ≠ [] := by
  unfold portList joinWith
  obtain ⟨p, rest, hrest⟩ := List.exists_cons_of_ne_nil hports
  have hfirst : (naturalText p.val).toList ≠ [] := by
    rw [naturalText, String.toList_ofList]
    exact digits_ne_nil _
  rw [hrest, List.map_cons]
  cases rest with
  | nil => rwa [List.map_nil, String.intercalate_singleton]
  | cons next rest =>
    rw [List.map_cons, String.intercalate_cons_cons, String.toList_append, String.toList_append]
    simp [hfirst]

/-- Ports are written without letters and braces. -/
theorem portList_keepsOff (hports : h.ports ≠ []) :
    KeepsOff h.portList.toList "username".toList := by
  constructor
  · constructor
    · exact fun hc => absurd (mem_portList _ hc) (by decide)
    · exact fun hc => absurd (mem_portList _ hc) (by decide)
  · intro hinside
    obtain ⟨c, hc⟩ := List.exists_mem_of_ne_nil _ (portList_ne_nil hports)
    have hletters : "username".toList.all (fun c => !decide (c.isDigit = true ∨ c = ',')) := by
      decide
    simpa [mem_portList c hc] using List.all_eq_true.1 hletters c (hinside.mem hc)

/-- The words of the four marks have no braces, and no two of them are the same. -/
theorem words_entries (h : KernelHandle) : Words h.entries where
  plain := by
    unfold entries
    simp only [List.forall_mem_cons]
    exact ⟨⟨by decide, by decide⟩, ⟨by decide, by decide⟩, ⟨by decide, by decide⟩,
      ⟨by decide, by decide⟩, nofun⟩
  nodup := by
    show ["kernel_id".toList, "host".toList, "ports".toList, "username".toList].Nodup
    decide

/-- No value can make up a mark that is filled in after it. -/
theorem Harmless.keepsOff (hh : h.Harmless) (hports : h.ports ≠ []) :
    h.entries.Pairwise fun e later => KeepsOff e.2 later.1 := by
  have hid : ∀ word ∈ ["host", "ports", "username"], KeepsOff h.id.toList word.toList :=
    fun word hword => ⟨hh.id, hh.idApart word hword⟩
  have hhost : ∀ word ∈ ["ports", "username"], KeepsOff h.host.toList word.toList :=
    fun word hword => ⟨hh.host, hh.hostApart word hword⟩
  simp only [List.forall_mem_cons] at hid hhost
  obtain ⟨hidHost, hidPorts, hidUser, -⟩ := hid
  obtain ⟨hhostPorts, hhostUser, -⟩ := hhost
  unfold entries
  simp only [List.pairwise_cons, List.forall_mem_cons]
  exact ⟨⟨hidHost, hidPorts, hidUser, nofun⟩, ⟨hhostPorts, hhostUser, nofun⟩,
    ⟨portList_keepsOff hports, nofun⟩, nofun, .nil⟩

/-- The marks are the words in braces. -/
theorem marks_eq_braced (h : KernelHandle) :
    h.marks.map (fun mark => (mark.1.toList, mark.2.toList)) = braced h.entries := by
  have hid : "\x7bkernel_id\x7d".toList = inBraces "kernel_id".toList := by decide
  have hhost : "\x7bhost\x7d".toList = inBraces "host".toList := by decide
  have hports : "\x7bports\x7d".toList = inBraces "ports".toList := by decide
  have huser : "\x7busername\x7d".toList = inBraces "username".toList := by decide
  simp only [marks, entries, braced, List.map_cons, List.map_nil, hid, hhost, hports, huser]

theorem toList_foldl_replaceAll (marks : List (String × String)) (word : String) :
    (marks.foldl (fun word mark => replaceAll mark.1 mark.2 word) word).toList =
      (marks.map fun mark => (mark.1.toList, mark.2.toList)).foldl
        (fun cs mark => replaceFrom [mark] 0 cs) word.toList := by
  induction marks generalizing word with
  | nil => rfl
  | cons mark rest ih =>
    rw [List.foldl_cons, ih, replaceAll, String.toList_ofList]
    rfl

/-- To fill in kind by kind comes to a single pass, under these conditions. -/
theorem toList_fill (hh : h.Harmless) (hports : h.ports ≠ []) (word : String) :
    (h.fill word).toList = replaceFrom (braced h.entries) 0 word.toList := by
  rw [fill, toList_foldl_replaceAll, marks_eq_braced, braced, List.foldl_map]
  exact foldl_replaceFrom h.words_entries (hh.keepsOff hports) word.toList

theorem toList_fillOnce (h : KernelHandle) (word : String) :
    (h.fillOnce word).toList = replaceFrom (braced h.entries) 0 word.toList := by
  rw [fillOnce, String.toList_ofList, marks_eq_braced]

/-- A kernel with ports whose id and host are harmless: filling in kind by kind gives what one pass
gives, whatever the user is called. It is the one text that has its value for each mark of the
word. -/
theorem fill_eq_fillOnce (hh : h.Harmless) (hports : h.ports ≠ []) (word : String) :
    h.fill word = h.fillOnce word ∧
      ∀ out : String, Replaced (braced h.entries) word.toList out.toList ↔ out = h.fill word := by
  have hfill := toList_fill hh hports word
  refine ⟨String.toList_injective (hfill.trans (h.toList_fillOnce word).symm), fun out => ?_⟩
  rw [replaced_iff h.words_entries, ← hfill, String.toList_inj]

/-- A kernel of a user whose name is made of marks. -/
def ofTrickster : KernelHandle :=
  ⟨"k-1", "python3", "\x7bhost\x7d\x7busername\x7d", "h1", [.ofNat 5000, .ofNat 5001]⟩

theorem fill_ofTrickster :
    ofTrickster.fill "\x7bho\x7bkernel_id\x7dst\x7d \x7busername\x7d:\x7bports\x7d" =
        "\x7bhok-1st\x7d \x7bhost\x7d\x7busername\x7d:5000,5001" ∧
      Replaced (braced ofTrickster.entries)
        "\x7bho\x7bkernel_id\x7dst\x7d \x7busername\x7d:\x7bports\x7d".toList
        "\x7bhok-1st\x7d \x7bhost\x7d\x7busername\x7d:5000,5001".toList := by
  have hh : ofTrickster.Harmless :=
    ⟨⟨by decide, by decide⟩, ⟨by decide, by decide⟩, by decide, by decide⟩
  obtain ⟨honce, hreplaced⟩ := fill_eq_fillOnce hh (List.cons_ne_nil _ _)
    "\x7bho\x7bkernel_id\x7dst\x7d \x7busername\x7d:\x7bports\x7d"
  have hfill := honce.trans
    (show _ = "\x7bhok-1st\x7d \x7bhost\x7d\x7busername\x7d:5000,5001" by decide)
  exact ⟨hfill, (hreplaced _).2 hfill.symm⟩

-- An id that stands within a later word may complete that word's mark.
example : { ofTrickster with id := "os" }.fill "\x7bh\x7bkernel_id\x7dt\x7d" = "h1" := by
  decide

end KernelHandle

end KernelGate
