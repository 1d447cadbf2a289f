import KernelGate.Command.Run
import KernelGate.Command.Supply
import KernelGate.Proofs.Config.Wiring
import KernelGate.Proofs.Text.Literals

/-!
# Which source settles a setting

A setting is settled by its own option of the command line; without it by the last assignment to it;
without one by its entry in the file; without that by its environment variable, if there is text in
it; and else by its default. What lies below the source that settles a setting is not looked at.

Main statements: `resolve_sources` (each setting is read from its effective source),
`loadConfig_of_effective` (the configuration depends on the effective sources only, each field on
one of them).
-/

namespace KernelGate

namespace Overrides

/-- The name of a setting that is known. -/
def Known (name : String) : Prop := (Setting.lookup? name).isSome = true

instance : DecidablePred Known := fun _ => inferInstanceAs (Decidable (_ = true))

/-- An override of a known setting is entered. -/
theorem insert_of_known {name : String} (h : Known name) (o : Overrides) (v : Toml.Value) :
    o.insert name v = .ok ⟨o.values.insert name v⟩ := by
  obtain ⟨s, hs⟩ := Option.isSome_iff_exists.mp h
  simp [insert, hs]

/-- So are several, of which the last one for a setting stays. -/
theorem insertAll_of_known {entries : List (String × Toml.Value)} (h : ∀ e ∈ entries, Known e.1)
    (o : Overrides) :
    entries.foldlM (fun o e => o.insert e.1 e.2) o = .ok ⟨o.values.insertMany entries⟩ := by
  induction entries generalizing o with
  | nil => rfl
  | cons e rest ih =>
    obtain ⟨he, hrest⟩ := List.forall_mem_cons.mp h
    rw [List.foldlM_cons, insert_of_known he]
    exact ih hrest _

/-- A table of known keys holds its entries as overrides. -/
theorem ofTable_of_known {t : Toml.Table} (h : ∀ name ∈ t.keys, Known name) :
    ∃ o, ofTable t = .ok o ∧ ∀ name, o.get? name = t.get? name := by
  have h1 : ∀ e ∈ t.toList, Known e.1 := fun e he => h e.1 (List.mem_map_of_mem he)
  refine ⟨_, insertAll_of_known h1 empty, fun name => ?_⟩
  show (Dict.insertMany ∅ t.toList).get? name = _
  rw [Dict.get?_insertMany, Dict.find?_reverse_toList, Dict.get?_empty, Option.or_none]

/-- The value that the last assignment to a setting gives it. -/
def lastAssigned? (texts : List String) (name : String) : Option Toml.Value :=
  ((texts.filterMap assignment?).reverse.find? (·.1 = name)).map fun a => .text a.2

/-- An assignment has a name and a value, and the name is known. -/
def Assigns (text : String) : Prop := ∃ a, assignment? text = some a ∧ Known a.1

/-- Assignments are overrides with texts for values. -/
theorem assignAll_eq_insertAll {texts : List String} (h : ∀ text ∈ texts, Assigns text)
    (o : Overrides) :
    texts.foldlM (fun o text => o.assign text) o =
      ((texts.filterMap assignment?).map fun a => (a.1, Toml.Value.text a.2)).foldlM
        (fun o e => o.insert e.1 e.2) o := by
  induction texts generalizing o with
  | nil => rfl
  | cons text rest ih =>
    obtain ⟨⟨a, ha, hknown⟩, hrest⟩ := List.forall_mem_cons.mp h
    have h1 : o.assign text = o.insert a.1 (.text a.2) := by simp [assign, ha]
    rw [List.foldlM_cons, h1, List.filterMap_cons_some ha, List.map_cons, List.foldlM_cons,
      insert_of_known hknown]
    exact ih hrest _

/-- Of the assignments to a setting the last one counts. -/
theorem assignAll_of_known {texts : List String} (h : ∀ text ∈ texts, Assigns text) :
    ∃ o, texts.foldlM (fun o text => o.assign text) empty = .ok o ∧
      ∀ name, o.get? name = lastAssigned? texts name := by
  have h1 : ∀ e ∈ (texts.filterMap assignment?).map fun a => (a.1, Toml.Value.text a.2),
      Known e.1 := by
    simp only [List.mem_map, List.mem_filterMap]
    rintro e ⟨a, ⟨text, htext, ha⟩, rfl⟩
    obtain ⟨a', ha', hknown⟩ := h text htext
    rw [ha] at ha'
    exact Option.some.inj ha' ▸ hknown
  refine ⟨_, (assignAll_eq_insertAll h empty).trans (insertAll_of_known h1 empty), fun name => ?_⟩
  show (Dict.insertMany ∅ _).get? name = _
  rw [Dict.get?_insertMany, Dict.get?_empty, Option.or_none, ← List.map_reverse, List.find?_map,
    Option.map_map]
  rfl

end Overrides

/-! ## The command line

The options that settings have of their own are entered over the assignments, so that they come
before them, whatever their order on the command line. -/

namespace Invocation

/-- What the option of its own says about a setting that has one. -/
def own? (inv : Invocation) (s : Setting) : Option Toml.Value :=
  if s = .ip then inv.ip?.map .text
  else if s = .port then inv.port?.map fun p => .integer p.val
  else if s = .api then inv.api?.map .text
  else none

/-- Overrides with the value of an option, if it is given, over them. -/
def under (o : Overrides) (s : Setting) (given? : Option Toml.Value) : Overrides :=
  match given? with
  | some v => ⟨o.values.insert s.name v⟩
  | none => o

/-- An option that is given comes first for its own setting, and makes no difference to others. -/
theorem get?_under (o : Overrides) (s : Setting) (given? : Option Toml.Value) (name : String) :
    (under o s given?).get? name =
      if name = s.name then given?.or (o.get? name) else o.get? name := by
  cases given? with
  | none => simp [under]
  | some v => exact Dict.get?_insert _ _ _ _

/-- Known settings are told apart by their names. -/
theorem name_eq_iff {s t : Setting} (hs : s ∈ Setting.all) (ht : t ∈ Setting.all) :
    s.name = t.name ↔ s = t := by
  have h1 : ∀ s ∈ Setting.all, Setting.lookup? s.name = some s := by decide +kernel
  constructor
  · intro h
    exact Option.some.inj ((h1 s hs).symm.trans (h ▸ h1 t ht))
  · rintro rfl
    rfl

/-- Options lie over assignments. -/
theorem overrides_of_known {inv : Invocation}
    (h : ∀ text ∈ inv.assignments, Overrides.Assigns text) :
    ∃ o, inv.overrides = .ok o ∧ ∀ s ∈ Setting.all,
      o.get? s.name = (inv.own? s).or (Overrides.lastAssigned? inv.assignments s.name) := by
  obtain ⟨o, ho, hget⟩ := Overrides.assignAll_of_known h
  refine ⟨under (under (under o .ip (inv.ip?.map .text)) .port
    (inv.port?.map fun p => .integer p.val)) .api (inv.api?.map .text), ?_, fun s hs => ?_⟩
  · have hip : ∀ (o : Overrides) v, o.insert Setting.ip.name v = .ok ⟨o.values.insert _ v⟩ :=
      Overrides.insert_of_known rfl
    have hport : ∀ (o : Overrides) v, o.insert Setting.port.name v = .ok ⟨o.values.insert _ v⟩ :=
      Overrides.insert_of_known rfl
    have hapi : ∀ (o : Overrides) v, o.insert Setting.api.name v = .ok ⟨o.values.insert _ v⟩ :=
      Overrides.insert_of_known rfl
    rw [overrides, ho]
    cases inv.ip? <;> cases inv.port? <;> cases inv.api? <;>
      simp only [hip, hport, hapi, under, Option.map] <;> rfl
  · have hn : ∀ t ∈ Setting.all, (s.name = t.name) = (s = t) :=
      fun t ht => propext (name_eq_iff hs ht)
    simp only [get?_under, hget, own?, hn .ip (by decide), hn .port (by decide),
      hn .api (by decide)]
    -- no two of the three settings are the same
    have hne : Setting.ip ≠ .port ∧ Setting.ip ≠ .api ∧ Setting.port ≠ .api := by decide
    split_ifs <;> simp_all

end Invocation

/-! ## Effective sources

With names known, nothing that is read before the sources are put together can fail. What remains is
that each setting is read from the first source that has it. -/

/-- What a setting is to be read from: a value, or nothing. -/
def Setting.reading (s : Setting) : Option Toml.Value → Except ConfigFault SettingValue
  | some v => s.ofToml v
  | none => .ok .unset

theorem Setting.ofToml_text (s : Setting) (raw : String) : s.ofToml (.text raw) = s.parse raw := by
  cases hk : s.kind <;> simp only [ofToml]

/-- The value that settles a setting, if there is one: override, variable with text, default. -/
def Sources.settled? (s : Sources) (setting : Setting) : Option Toml.Value :=
  (s.overrides.get? setting.name).or <|
    ((s.envText? setting.env).map .text).or (setting.default?.map .text)

/-- What lies below the source that settles a setting is not looked at. -/
theorem Sources.resolve_eq_reading (s : Sources) (setting : Setting) :
    s.resolve setting = setting.reading (s.settled? setting) := by
  rw [resolve_eq_read, source, settled?]
  cases s.overrides.get? setting.name with
  | some v => rfl
  | none =>
    cases s.envText? setting.env with
    | some raw => exact (Setting.ofToml_text setting raw).symm
    | none =>
      cases setting.default? with
      | some raw => exact (Setting.ofToml_text setting raw).symm
      | none => rfl

/-- All that a configuration is read from, where the file can be read and every key and every name
is that of a known setting. -/
structure Briefing where
  inv : Invocation
  around : RunContext
  file : ConfigFile
  reads : (match inv.configPath? with
    | some path => ConfigFile.ofBytes path (around.read path)
    | none => .ok ConfigFile.empty) = .ok file
  keys_known : ∀ name ∈ file.overrides.keys, Overrides.Known name
  names_known : ∀ text ∈ inv.assignments, Overrides.Assigns text

namespace Briefing

/-- The configuration that is read. -/
def load (r : Briefing) : Except ConfigFault Config := r.inv.loadConfig r.around

/-- The source that settles a setting: its option, the last assignment to it, its entry in the file,
its variable where that has text, its default. -/
def effective (r : Briefing) (s : Setting) : Option Toml.Value :=
  (r.inv.own? s).or <|
    (Overrides.lastAssigned? r.inv.assignments s.name).or <|
      (r.file.overrides.get? s.name).or <|
        (((r.around.machine.env.get? s.env).filter (· ≠ "")).map .text).or <|
          s.default?.map .text

/-- Every known setting is read from its effective source. -/
theorem resolve_sources (r : Briefing) :
    ∃ sources : Sources, r.load = Config.ofSources sources r.file.specs ∧
      ∀ s ∈ Setting.all, sources.resolve s = s.reading (r.effective s) := by
  obtain ⟨flags, hflags, hcommand⟩ := Invocation.overrides_of_known r.names_known
  obtain ⟨base, hbase, hfile⟩ := Overrides.ofTable_of_known r.keys_known
  refine ⟨⟨base.overlay flags, r.around.machine.env⟩, ?_, fun s hs => ?_⟩
  · have hreads := r.reads
    rw [load, Invocation.loadConfig, hflags, ok_bind]
    cases hpath : r.inv.configPath? with
    | none =>
      have hempty : ConfigFile.empty = r.file := Except.ok.inj (by simpa only [hpath] using hreads)
      simp only [pure_bind, hempty, Config.load, hbase, ok_bind]
    | some path =>
      have hfile : ConfigFile.ofBytes path (r.around.read path) = .ok r.file := by
        simpa only [hpath] using hreads
      simp only [hfile, Config.load, hbase, ok_bind]
  · have hget : (base.overlay flags).get? s.name =
        (r.inv.own? s).or ((Overrides.lastAssigned? r.inv.assignments s.name).or
          (r.file.overrides.get? s.name)) := by
      rw [Overrides.get?_overlay, hcommand s hs, hfile, Option.or_assoc]
    rw [Sources.resolve_eq_reading, Sources.settled?, hget, Option.or_assoc, Option.or_assoc]
    rfl

/-- What is read depends on the effective sources and the declared specs only; where a single
effective source differs, the field that it feeds holds what is read of it, and all other fields are
the same. -/
theorem load_of_effective (a b : Briefing) (hspecs : a.file.specs = b.file.specs) :
    ((∀ s ∈ Setting.all, a.effective s = b.effective s) → a.load = b.load) ∧
    ∀ s ∈ Setting.all, (∀ t ∈ Setting.all, t ≠ s → a.effective t = b.effective t) →
      ∀ c d, a.load = .ok c → b.load = .ok d →
        ∃ w ∈ wires, w.setting = s ∧
          (s.reading (a.effective s) >>= w.parse) = .ok (w.field c) ∧
          (s.reading (b.effective s) >>= w.parse) = .ok (w.field d) ∧
          (∀ v ∈ wires, v.setting ≠ s → v.field c = v.field d) ∧ c.specs = d.specs ∧
          (w.field c = w.field d → c = d) := by
  obtain ⟨s₁, hload₁, hresolve₁⟩ := a.resolve_sources
  obtain ⟨s₂, hload₂, hresolve₂⟩ := b.resolve_sources
  refine ⟨fun heq => ?_, fun s hs heq c d hc hd => ?_⟩
  · rw [hload₁, hload₂, hspecs]
    refine ofSources_congr _ fun s hs => ?_
    rw [hresolve₁ s hs, hresolve₂ s hs, heq s hs]
  · obtain ⟨hspecs₁, hfield₁⟩ := field_of_ofSources (hload₁ ▸ hc)
    obtain ⟨hspecs₂, hfield₂⟩ := field_of_ofSources (hload₂ ▸ hd)
    have hmem : ∀ w ∈ wires, w.setting ∈ Setting.all := fun w hw =>
      wires_settings ▸ List.mem_map_of_mem hw
    -- A field that another setting feeds is read from the same source in both.
    have hsame : ∀ v ∈ wires, v.setting ≠ s → v.field c = v.field d := by
      intro v hv hne
      have h1 := hfield₁ v hv
      have h2 := hfield₂ v hv
      rw [hresolve₁ _ (hmem v hv), heq _ (hmem v hv) hne, ← hresolve₂ _ (hmem v hv), h2] at h1
      exact (Except.ok.inj h1).symm
    have hcd : c.specs = d.specs := by rw [hspecs₁, hspecs₂, hspecs]
    obtain ⟨w, hw, rfl⟩ := wire_of_mem hs
    refine ⟨w, hw, rfl, ?_, ?_, hsame, hcd, fun hwcd => Config.ext_wires (fun v hv => ?_) hcd⟩
    · rw [← hresolve₁ _ hs]
      exact hfield₁ w hw
    · rw [← hresolve₂ _ hs]
      exact hfield₂ w hw
    · by_cases hvw : v.setting = w.setting
      · rwa [wire_unique hv hw hvw]
      · exact hsame v hv hvw

/-! ### A malformed entry that does not count

The file has a port that is no number. It is never looked at where an option or an assignment
settles the port. -/

/-- A file with a port that is no number. -/
def noisyFile : List UInt8 := Utf8.encode "[gateway]\nport = \"http\"\n"

/-- What stands around a run with that file. -/
def noisySurroundings : RunContext where
  read _ := .ok noisyFile
  machine := ⟨⟨[], []⟩, Dict.ofList [("EG_IP", "::1"), ("EG_API", "")], 0, []⟩
  supply := .seeded 0
  taken := []

/-- What that file says. -/
def noisyEntries : ConfigFile :=
  (ConfigFile.ofBytes "gateway.toml" (.ok noisyFile)).toOption.getD .empty

theorem reads_noisyFile : ConfigFile.ofBytes "gateway.toml" (.ok noisyFile) = .ok noisyEntries := by
  have h : (ConfigFile.ofBytes "gateway.toml" (.ok noisyFile)).toOption.isSome = true := by
    decide +kernel
  unfold noisyEntries
  cases hread : ConfigFile.ofBytes "gateway.toml" (.ok noisyFile) with
  | ok file => rfl
  | error e => exact absurd h (by simp [hread, Except.toOption])

theorem keys_noisyEntries : ∀ name ∈ noisyEntries.overrides.keys, Overrides.Known name := by
  decide +kernel

theorem assigns_port : ∀ text ∈ ["port=no number", " port =9100"], Overrides.Assigns text := by
  simp only [List.forall_mem_cons, List.not_mem_nil, false_implies, implies_true, and_true]
  exact ⟨⟨("port", "no number"), by decide +kernel, rfl⟩,
    ⟨("port", "9100"), by decide +kernel, rfl⟩⟩

/-- The port comes from the last of two assignments; the first is malformed too. -/
def assigned : Briefing where
  inv :=
    { Invocation.silent with
      configPath? := some "gateway.toml", assignments := ["port=no number", " port =9100"] }
  around := noisySurroundings
  file := noisyEntries
  reads := reads_noisyFile
  keys_known := keys_noisyEntries
  names_known := assigns_port

/-- The port comes from its option. -/
def opted : Briefing where
  inv := { Invocation.silent with configPath? := some "gateway.toml", port? := some (.ofNat 80) }
  around := noisySurroundings
  file := noisyEntries
  reads := reads_noisyFile
  keys_known := keys_noisyEntries
  names_known := by simp [Invocation.silent]

/-- The two command lines differ in nothing but the port. -/
theorem effective_of_ne_port {s : Setting} (hs : s ∈ Setting.all) (hne : s ≠ .port) :
    assigned.effective s = opted.effective s := by
  have hassigned : assigned.inv.assignments.filterMap Overrides.assignment? =
      [("port", "no number"), ("port", "9100")] := by decide +kernel
  have hname : "port" ≠ s.name := fun h =>
    hne ((Invocation.name_eq_iff (by decide) hs).mp (show Setting.port.name = _ from h)).symm
  simp only [effective, Invocation.own?, hne, if_false, Overrides.lastAssigned?, hassigned]
  simp [assigned, opted, Invocation.silent, hname]

/-- Both ways of giving the port come to the same configuration but for the port itself. -/
theorem load_of_noisyFile :
    assigned.load = .ok { Config.standard with ip := "::1", port := 9100 } ∧
      opted.load = .ok { Config.standard with ip := "::1", port := 80 } ∧
      ∃ w ∈ wires, w.setting = .port ∧
        (Setting.port.reading (assigned.effective .port) >>= w.parse) =
          .ok (w.field { Config.standard with ip := "::1", port := 9100 }) := by
  have hassigned : assigned.load = .ok { Config.standard with ip := "::1", port := 9100 } := by
    decide +kernel
  have hopted : opted.load = .ok { Config.standard with ip := "::1", port := 80 } := by
    decide +kernel
  obtain ⟨w, hw, hset, hparse, -⟩ := (load_of_effective assigned opted rfl).2 .port (by decide)
    (fun t ht hne => effective_of_ne_port ht hne) _ _ hassigned hopted
  exact ⟨hassigned, hopted, w, hw, hset, hparse⟩

end Briefing

end KernelGate
