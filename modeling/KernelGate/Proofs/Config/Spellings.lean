import KernelGate.Proofs.Config.Precedence

/-!
# Values and their spellings

A setting can be given as a value of its own kind or as text, and as text in an override or in the
environment. An integer and its digits, a flag and its word, an array and its items between commas
come to the same. The other way round, the items of a text are an array whose text has the same
items, and a set depends on nothing but which items there are.

Main statements: `items_joinWith`, `isItem_of_mem_items` (items and their text), `ofNames_eq_iff`
(what a set depends on), `typed_eq_textual`.
-/

namespace KernelGate

/-! ## The text of an integer

Digits and a sign have no blanks around them, so that the text of an integer is read as it stands.
-/

namespace Text

theorem trimmed_signedDigits (i : Int) : Trimmed (signedDigits i) := by
  cases i with
  | ofNat n => exact PortRange.trimmed_digits n
  | negSucc n =>
    have hlast : ('-' :: digits (n + 1)).getLast? = (digits (n + 1)).getLast? :=
      List.getLast?_cons_of_ne_nil (digits_ne_nil _)
    constructor
    · intro c hc
      cases hc
      decide
    · rw [signedDigits, hlast]
      exact (PortRange.trimmed_digits (n + 1)).2

theorem decimal_ne_empty (i : Int) : decimal i ≠ "" := by
  intro h
  have hnil : signedDigits i = [] := by simpa [decimal] using congrArg String.toList h
  cases i with
  | ofNat n => exact digits_ne_nil n hnil
  | negSucc n => cases hnil

end Text

/-! ## Sets of names

A set is asked for its names and nothing else, so that the order in which they are given plays no
part, nor how often. -/

namespace NameSet

theorem get?_ofNames (l : List String) (name : String) :
    (ofNames l).get? name = if name ∈ l then some () else none := by
  have hfold : ∀ s : NameSet, (l.foldl add s).get? name =
      if name ∈ l then some () else s.get? name := by
    induction l with
    | nil => simp
    | cons first rest ih =>
      intro s
      rw [List.foldl_cons, ih, add, Dict.get?_insert]
      by_cases hrest : name ∈ rest
      · simp [hrest]
      · simp [hrest]
  rw [ofNames, hfold, Dict.get?_empty]

/-- A set is told by its members, in whatever order and how often they were given. -/
theorem ofNames_eq_iff {l m : List String} :
    ofNames l = ofNames m ↔ ∀ name, name ∈ l ↔ name ∈ m := by
  constructor
  · intro h name
    have hget := congrArg (·.get? name) h
    simp only [get?_ofNames] at hget
    by_cases hl : name ∈ l <;> by_cases hm : name ∈ m <;> simp_all
  · intro h
    apply Dict.ext_get?
    intro name
    simp only [get?_ofNames, h]

end NameSet

/-! ## Items and their text

A list is written with commas between its items. This can be undone if no item is empty, has a comma
in it, or has blanks at its ends, which is what items of a text are like. -/

namespace Setting

/-- An item that stands for itself between commas. -/
structure IsItem (item : String) : Prop where
  nonempty : item ≠ ""
  no_comma : ',' ∉ item.toList
  trimmed : Text.trim item = item

/-- What is found between commas can be put there again. -/
theorem isItem_of_mem_items {raw item : String} (h : item ∈ items raw) : IsItem item := by
  rw [items, List.mem_filter, List.mem_map] at h
  obtain ⟨⟨piece, hpiece, rfl⟩, hne⟩ := h
  obtain ⟨cs, hcs, rfl⟩ := List.mem_map.mp hpiece
  refine ⟨by simpa using hne, ?_, Text.trim_trim _⟩
  intro hcomma
  rw [Text.trim, String.toList_ofList, String.toList_ofList] at hcomma
  exact Text.mem_splitAt cs hcs (Text.mem_of_mem_trimChars hcomma)

/-- An array of items and its text have the same items. -/
theorem items_joinWith {l : List String} (h : ∀ item ∈ l, IsItem item) :
    items (Text.joinWith "," l) = l := by
  by_cases hnil : l = []
  · rw [hnil]
    decide
  · have hsplit : Text.split ',' (Text.joinWith "," l) = l :=
      Text.split_joinWith hnil fun item hitem => (h item hitem).no_comma
    have htrim : l.map Text.trim = l := by
      rw [List.map_congr_left fun item hitem => (h item hitem).trimmed, List.map_id']
    rw [items, hsplit, htrim]
    apply List.filter_eq_self.mpr
    intro item hitem
    exact decide_eq_true (h item hitem).nonempty

/-- The text of a list that is not empty has something in it, so that a variable with it counts. -/
theorem joinWith_ne_empty {l : List String} (h : ∀ item ∈ l, IsItem item) (hne : l ≠ []) :
    Text.joinWith "," l ≠ "" := by
  intro hempty
  apply hne
  rw [← items_joinWith h, hempty]
  decide

/-- An array of texts. -/
def arrayOf (l : List String) : Toml.Value := .array (l.map .text)

theorem map_itemText (l : List String) : (l.map Toml.Value.text).map itemText = l := by
  rw [List.map_map]
  exact List.map_id' l

/-! ## Where a setting is given

A value may stand in an override or, as text, in the environment; each of these is a condition on
how the setting is parsed. -/

/-- An override with a value makes a setting be so. -/
def AsOverride (setting : Setting) (v : Toml.Value) (x : SettingValue) : Prop :=
  ∀ s : Sources, s.overrides.get? setting.name = some v → s.resolve setting = .ok x

/-- Without an override, a text in the environment makes a setting be so. -/
def AsVariable (setting : Setting) (raw : String) (x : SettingValue) : Prop :=
  ∀ s : Sources, s.overrides.get? setting.name = none →
    s.environment.get? setting.env = some raw → s.resolve setting = .ok x

variable {setting : Setting} {v : Toml.Value} {raw : String} {x : SettingValue}

theorem asOverride_iff : setting.AsOverride v x ↔ setting.ofToml v = .ok x := by
  have hresolve : ∀ s : Sources, s.overrides.get? setting.name = some v →
      s.resolve setting = setting.ofToml v := by
    intro s hv
    rw [Sources.resolve_eq_reading, Sources.settled?, hv]
    rfl
  constructor
  · intro h
    have hv : (Overrides.mk (Dict.insert ∅ setting.name v)).get? setting.name = some v :=
      Dict.get?_insert_self _ _ _
    exact (hresolve ⟨_, ∅⟩ hv).symm.trans (h _ hv)
  · intro h s hv
    exact (hresolve s hv).trans h

theorem asOverride_text_iff : setting.AsOverride (.text raw) x ↔ setting.parse raw = .ok x := by
  rw [asOverride_iff, ofToml_text]

theorem asVariable_iff (hne : raw ≠ "") :
    setting.AsVariable raw x ↔ setting.parse raw = .ok x := by
  have hresolve : ∀ s : Sources, s.overrides.get? setting.name = none →
      s.environment.get? setting.env = some raw → s.resolve setting = setting.parse raw := by
    intro s hnone hraw
    have henv : s.envText? setting.env = some raw := by simp [Sources.envText?, hraw, hne]
    rw [Sources.resolve_eq_reading, Sources.settled?, hnone, henv]
    exact ofToml_text setting raw
  constructor
  · intro h
    have hraw : (Dict.insert ∅ setting.env raw).get? setting.env = some raw :=
      Dict.get?_insert_self _ _ _
    have hnone : Overrides.empty.get? setting.name = none := Dict.get?_empty _
    exact (hresolve ⟨.empty, _⟩ hnone hraw).symm.trans (h _ hnone hraw)
  · intro h s hnone hraw
    exact (hresolve s hnone hraw).trans h

/-- A value and a text are two spellings of the same. -/
structure Alike (setting : Setting) (v : Toml.Value) (raw : String) (x : SettingValue) : Prop where
  typed : setting.AsOverride v x
  text : setting.AsOverride (.text raw) x
  exported : setting.AsVariable raw x

/-- Where a value and a text come to the same, all three places do. -/
theorem alike_of_eq_ok (hne : raw ≠ "") (htyped : setting.ofToml v = .ok x)
    (htext : setting.parse raw = .ok x) : setting.Alike v raw x :=
  ⟨asOverride_iff.mpr htyped, asOverride_text_iff.mpr htext, (asVariable_iff hne).mpr htext⟩

/-- An integer and its digits come to the same. -/
theorem alike_integer (hk : setting.kind = .integer) {i : Int}
    (hi : Text.minInt64 ≤ i ∧ i ≤ Text.maxInt64) :
    setting.Alike (.integer i) (Text.decimal i) (.integer i) := by
  have htext : setting.parse (Text.decimal i) = .ok (.integer i) := by
    have htrim := Text.trimChars_eq_self (Text.trimmed_signedDigits i)
    simp only [parse, hk, Text.decimal, String.toList_ofList, htrim, Text.integer?_signedDigits hi]
  exact alike_of_eq_ok (Text.decimal_ne_empty i) (by simp only [ofToml, hk]) htext

theorem alike_text (hk : setting.kind = .text) (i : Int) :
    setting.Alike (.integer i) (Text.decimal i) (.text (Text.decimal i)) :=
  alike_of_eq_ok (Text.decimal_ne_empty i) (by simp only [ofToml, hk]) (by simp only [parse, hk])

/-- A flag and its word come to the same. -/
theorem alike_flag (hk : setting.kind = .flag) (b : Bool) :
    setting.Alike (.boolean b) (toString b) (.flag b) := by
  have htrue : isTrue (toString b) = b := by cases b <;> decide
  refine alike_of_eq_ok (by cases b <;> decide) (by simp only [ofToml, hk]) ?_
  simp only [parse, hk, htrue]

/-- What items are to a list or a set. -/
def Collects (setting : Setting) (l : List String) (x : SettingValue) : Prop :=
  setting.kind = .list ∧ x = .list l ∨ setting.kind = .set ∧ x = .set (.ofNames l)

theorem Collects.ofToml_arrayOf {l : List String} (h : setting.Collects l x) :
    setting.ofToml (arrayOf l) = .ok x := by
  obtain ⟨hk, rfl⟩ | ⟨hk, rfl⟩ := h <;> simp only [arrayOf, ofToml, hk, map_itemText]

theorem Collects.parse {l : List String} (h : setting.Collects l x) (hitems : items raw = l) :
    setting.parse raw = .ok x := by
  obtain ⟨hk, rfl⟩ | ⟨hk, rfl⟩ := h <;> simp only [Setting.parse, hk, hitems]

/-! ## Typed and textual settings

One clause for each kind of setting, by what was shown for the kind. -/

/-- For every setting its value and the text of that value are alike, wherever the text is given; an
empty list has no text that could stand in the environment. The items of a text can be joined and
split again, and a set is the same for two texts exactly if the same items are in them. -/
theorem typed_eq_textual (setting : Setting) :
    (∀ i, Text.minInt64 ≤ i ∧ i ≤ Text.maxInt64 →
      (setting.kind = .integer → setting.Alike (.integer i) (Text.decimal i) (.integer i)) ∧
      (setting.kind = .text →
        setting.Alike (.integer i) (Text.decimal i) (.text (Text.decimal i)))) ∧
    (setting.kind = .flag → setting.Alike (.boolean true) "true" (.flag true) ∧
      setting.Alike (.boolean false) "false" (.flag false)) ∧
    (∀ l x, (∀ item ∈ l, IsItem item) → setting.Collects l x →
      setting.AsOverride (arrayOf l) x ∧ setting.AsOverride (.text (Text.joinWith "," l)) x ∧
        (l ≠ [] → setting.Alike (arrayOf l) (Text.joinWith "," l) x)) ∧
    (setting.kind = .list → ∀ raw, ∃ l, (∀ item ∈ l, IsItem item) ∧
      setting.AsOverride (.text raw) (.list l) ∧ (raw ≠ "" → setting.AsVariable raw (.list l)) ∧
        setting.AsOverride (.text (Text.joinWith "," l)) (.list l) ∧
          (l ≠ [] → setting.AsVariable (Text.joinWith "," l) (.list l))) ∧
    (setting.kind = .set → ∀ raw raw',
      ((∀ item, item ∈ items raw ↔ item ∈ items raw') ↔
        ∀ x, setting.AsOverride (.text raw) x ↔ setting.AsOverride (.text raw') x) ∧
      (raw ≠ "" → raw' ≠ "" → ((∀ item, item ∈ items raw ↔ item ∈ items raw') ↔
        ∀ x, setting.AsVariable raw x ↔ setting.AsVariable raw' x))) := by
  refine ⟨fun i hi => ⟨(alike_integer · hi), (alike_text · i)⟩,
    fun hk => ⟨alike_flag hk true, alike_flag hk false⟩, ?_, ?_, ?_⟩
  · intro l x hl hx
    have htext := hx.parse (items_joinWith hl)
    exact ⟨asOverride_iff.mpr hx.ofToml_arrayOf, asOverride_text_iff.mpr htext,
      fun hne => alike_of_eq_ok (joinWith_ne_empty hl hne) hx.ofToml_arrayOf htext⟩
  · intro hk raw
    have hitems : ∀ item ∈ items raw, IsItem item := fun _ => isItem_of_mem_items
    have hraw : setting.parse raw = .ok (.list (items raw)) :=
      Collects.parse (.inl ⟨hk, rfl⟩) rfl
    have hjoined : setting.parse (Text.joinWith "," (items raw)) = .ok (.list (items raw)) :=
      Collects.parse (.inl ⟨hk, rfl⟩) (items_joinWith hitems)
    exact ⟨items raw, hitems, asOverride_text_iff.mpr hraw,
      fun hne => (asVariable_iff hne).mpr hraw, asOverride_text_iff.mpr hjoined,
      fun hne => (asVariable_iff (joinWith_ne_empty hitems hne)).mpr hjoined⟩
  · intro hk raw raw'
    have hset (raw : String) : setting.parse raw = .ok (.set (.ofNames (items raw))) :=
      Collects.parse (.inr ⟨hk, rfl⟩) rfl
    have hsame : (∀ item, item ∈ items raw ↔ item ∈ items raw') ↔
        ∀ x, setting.parse raw = .ok x ↔ setting.parse raw' = .ok x := by
      rw [← NameSet.ofNames_eq_iff, hset, hset]
      constructor
      · intro h x
        rw [h]
      · intro h
        have hraw := (h (.set (.ofNames (items raw)))).mp rfl
        simp only [Except.ok.injEq, SettingValue.set.injEq] at hraw
        exact hraw.symm
    constructor
    · simpa only [asOverride_text_iff] using hsame
    · intro hne hne'
      simpa only [asVariable_iff hne, asVariable_iff hne'] using hsame

end Setting

end KernelGate
