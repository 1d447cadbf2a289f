import KernelGate.Proofs.Config.Precedence
import KernelGate.Proofs.Port.Grammar

/-!
# Which configurations are accepted

A configuration is accepted if the file names known settings only, every setting is settled by a
value that its kind takes, and the few settings with a meaning of their own keep to it: the band of
ports is one, the port is in range, counts and times are not negative, and the two TLS files come
together. Nothing else is refused, and a refusal says what is wrong.

Main statements: `failsIn_ofSources` (what a refusal says is the case), `coherent_of_ofSources`
(what an accepted configuration is read from makes sense), `load_eq_ok_iff_valid` (a configuration
is accepted exactly if it is valid).
-/

namespace KernelGate

/-! ## What the kinds take

Which values a setting takes depends on its kind alone. A value that it does not take is refused,
with one of two faults. -/

/-- The integer that a value stands for: itself, or the literal of 64 bits that a text holds between
blanks. -/
inductive Toml.Value.Integer : Toml.Value → Int → Prop
  | integer (i : Int) : Integer (.integer i) i
  | text {raw : String} {i : Int} : Text.Literal (Text.trimChars raw.toList) i →
      Text.minInt64 ≤ i → i ≤ Text.maxInt64 → Integer (.text raw) i

/-- The values that a setting of a kind takes. -/
def SettingKind.Takes : SettingKind → Toml.Value → Prop
  | .integer, v => ∃ i, v.Integer i
  | .text, .text _ => True
  | .text, .integer _ => True
  | .flag, .text _ => True
  | .flag, .boolean _ => True
  | .list, .text _ => True
  | .list, .array _ => True
  | .set, .text _ => True
  | .set, .array _ => True
  | _, _ => False

/-- What a setting of a kind turns out to be, where it is set. -/
def SettingValue.Fits : SettingKind → SettingValue → Prop
  | .integer, .integer _ => True
  | .text, .text _ => True
  | .flag, .flag _ => True
  | .list, .list _ => True
  | .set, .set _ => True
  | _, _ => False

namespace Setting

/-- An integer is given as itself or as its literal. -/
theorem ofToml_eq_integer_iff {s : Setting} (hk : s.kind = .integer) {v : Toml.Value} {i : Int} :
    s.ofToml v = .ok (.integer i) ↔ v.Integer i := by
  have htext : ∀ raw : String, s.parse raw = .ok (.integer i) ↔
      Text.integer? (Text.trimChars raw.toList) = some i := by
    intro raw
    simp only [parse, hk]
    cases Text.integer? (Text.trimChars raw.toList) <;> simp
  constructor
  · intro h
    cases v with
    | text raw =>
      rw [ofToml_text, htext, Text.integer?_eq_some_iff] at h
      exact .text h.1 h.2.1 h.2.2
    | integer j =>
      simp only [ofToml, hk, Except.ok.injEq, SettingValue.integer.injEq] at h
      exact h ▸ .integer j
    | float | boolean | datetime | array | table => simp [ofToml, hk] at h
  · rintro (_ | ⟨hliteral, hmin, hmax⟩)
    · simp [ofToml, hk]
    · rw [ofToml_text, htext, Text.integer?_eq_some_iff]
      exact ⟨hliteral, hmin, hmax⟩

/-- What is wrong with a value that a setting does not take. -/
def Misfit (s : Setting) (v : Toml.Value) (e : ConfigFault) : Prop :=
  (∃ raw, v = .text raw ∧ e = .notInteger s.name raw) ∨ e = .wrongKind s.name s.kind v.shown

/-- A setting is read from the values that its kind takes, and from no others. -/
theorem ofToml_cases (s : Setting) (v : Toml.Value) :
    (s.kind.Takes v ∧ ∃ x, s.ofToml v = .ok x ∧ x.Fits s.kind) ∨
      (¬ s.kind.Takes v ∧ ∃ e, s.ofToml v = .error e ∧ s.Misfit v e) := by
  cases hk : s.kind with
  | integer =>
    cases hread : s.ofToml v with
    | ok x =>
      have hx : ∃ i, x = .integer i := by
        cases v <;> simp only [ofToml, parse, hk] at hread
        · split at hread <;> cases hread
          exact ⟨_, rfl⟩
        all_goals cases hread
        exact ⟨_, rfl⟩
      obtain ⟨i, rfl⟩ := hx
      exact .inl ⟨⟨i, (ofToml_eq_integer_iff hk).mp hread⟩, _, rfl, trivial⟩
    | error e =>
      refine .inr ⟨?_, e, rfl, ?_⟩
      · rintro ⟨i, hi⟩
        simp [(ofToml_eq_integer_iff hk).mpr hi] at hread
      · cases v <;> simp only [ofToml, parse, hk] at hread
        · split at hread <;> cases hread
          exact .inl ⟨_, rfl, rfl⟩
        all_goals cases hread
        all_goals exact .inr (by rw [hk])
  | text | flag | list | set =>
    cases v <;> simp [SettingKind.Takes, ofToml, parse, hk, SettingValue.Fits, Misfit]

end Setting

/-! ## What makes sense, and what is said of the rest

`Coherent` says what has to be so, and `Blamed` what is said where it is not. They exclude each
other, so that no fault is ever reported of settings that make sense. -/

/-- The settings that are counts or times. -/
def Setting.counts : List Setting :=
  [.prespawnCount, .maxKernels, .pingInterval, .recoveryTimeout, .cullIdleTimeout, .cullInterval,
   .shutdownGrace]

/-- What settles the settings makes sense. -/
structure Coherent (settled : Setting → Option Toml.Value) : Prop where
  typed : ∀ s ∈ Setting.all, ∀ v, settled s = some v → s.kind.Takes v
  band : ∃ raw, settled .portRange = some (.text raw) ∧ ∃ r : PortRange, r.Written raw
  port : ∀ v i, settled .port = some v → v.Integer i → 0 ≤ i ∧ i ≤ 65535
  counts : ∀ s ∈ Setting.counts, ∀ v i, settled s = some v → v.Integer i → 0 ≤ i
  tls : (settled .certFile).isSome = true ↔ (settled .keyFile).isSome = true

/-- What does not make sense, and how it is reported. -/
inductive Blamed (settled : Setting → Option Toml.Value) : ConfigFault → Prop
  | misfit {s : Setting} {v : Toml.Value} {e : ConfigFault} : s ∈ Setting.all →
      settled s = some v → ¬ s.kind.Takes v → s.Misfit v e → Blamed settled e
  | band {raw : String} {e : ConfigFault} :
      (∀ raw, settled .portRange = some (.text raw) → ∀ r : PortRange, ¬ r.Written raw) →
      Setting.portRange.reading (settled .portRange) = .ok (.text raw) →
      PortRange.Unreadable raw e → Blamed settled e
  | port {v : Toml.Value} {i : Int} : settled .port = some v → v.Integer i →
      ¬ (0 ≤ i ∧ i ≤ 65535) → Blamed settled (.portOutOfRange i)
  | count {s : Setting} {v : Toml.Value} {i : Int} : s ∈ Setting.counts → settled s = some v →
      v.Integer i → i < 0 → Blamed settled (.negative s.name)
  | tls : ¬ ((settled .certFile).isSome = true ↔ (settled .keyFile).isSome = true) →
      Blamed settled .halfTls

/-- Settings that make sense are blamed for nothing. -/
theorem Coherent.not_blamed {settled : Setting → Option Toml.Value} (h : Coherent settled)
    {e : ConfigFault} : ¬ Blamed settled e := by
  intro hblamed
  cases hblamed with
  | misfit hs hv hmisfit _ => exact hmisfit (h.typed _ hs _ hv)
  | band hnone _ _ =>
    obtain ⟨raw, hraw, r, hr⟩ := h.band
    exact hnone raw hraw r hr
  | port hv hi hout => exact hout (h.port _ _ hv hi)
  | count hs hv hi hneg => exact absurd (h.counts _ hs _ _ hv hi) (Int.not_le.mpr hneg)
  | tls hhalf => exact hhalf h.tls

/-- A value that was read is never said to be of another kind than expected. -/
theorem Blamed.ne_wrongReading {settled : Setting → Option Toml.Value} {e : ConfigFault}
    (h : Blamed settled e) (name : String) (kind : SettingKind) (shown : String) :
    e ≠ .wrongReading name kind shown := by
  rintro rfl
  cases h with
  | misfit _ _ _ hmisfit => simp [Setting.Misfit] at hmisfit
  | band _ _ hunreadable => simp [PortRange.Unreadable] at hunreadable

/-! ## Refusals

Reading a configuration is a sequence of reads, any of which may fail. `FailsIn` goes along the
sequence: if each read fails only with what is the case, so does the whole. -/

/-- All that a computation can fail with is one of the faults. -/
def FailsIn {α : Type} (x : Except ConfigFault α) (faults : ConfigFault → Prop) : Prop :=
  ∀ e, x = .error e → faults e

namespace FailsIn

variable {α β : Type} {faults : ConfigFault → Prop}

theorem ok (a : α) : FailsIn (.ok a) faults := fun _ h => nomatch h

/-- What either part fails with is one of the faults. -/
theorem bind {x : Except ConfigFault α} {f : α → Except ConfigFault β} (hx : FailsIn x faults)
    (hf : ∀ a, x = .ok a → FailsIn (f a) faults) : FailsIn (x >>= f) faults := by
  intro e he
  cases x with
  | error e' =>
    cases he
    exact hx e rfl
  | ok a => exact hf a rfl e he

end FailsIn

namespace Sources

variable {s : Sources} {setting : Setting}

/-- A setting that is set has been read from what settles it. -/
theorem fits_of_resolve {x : SettingValue} (h : s.resolve setting = .ok x) :
    (s.settled? setting = none ∧ x = .unset) ∨
      ∃ v, s.settled? setting = some v ∧ setting.kind.Takes v ∧ setting.ofToml v = .ok x ∧
        x.Fits setting.kind := by
  rw [resolve_eq_reading] at h
  cases hv : s.settled? setting with
  | none =>
    rw [hv] at h
    cases h
    exact .inl ⟨rfl, rfl⟩
  | some v =>
    rw [hv] at h
    obtain ⟨htakes, y, hy, hfits⟩ | ⟨-, e, he, -⟩ := setting.ofToml_cases v
    · have hxy : x = y := Except.ok.inj ((show setting.ofToml v = .ok x from h).symm.trans hy)
      exact .inr ⟨v, rfl, htakes, h, hxy ▸ hfits⟩
    · exact nomatch (show setting.ofToml v = .ok x from h).symm.trans he

/-- A setting that does not take its value is blamed for that. -/
theorem failsIn_resolve (h : setting ∈ Setting.all) :
    FailsIn (s.resolve setting) (Blamed s.settled?) := by
  intro e he
  rw [resolve_eq_reading] at he
  cases hv : s.settled? setting with
  | none => rw [hv] at he; cases he
  | some v =>
    rw [hv] at he
    obtain ⟨-, x, hx, -⟩ | ⟨hnot, e', he', hmisfit⟩ := setting.ofToml_cases v
    · exact nomatch (show setting.ofToml v = .error e from he).symm.trans hx
    · have hee : e = e' :=
        Except.error.inj ((show setting.ofToml v = .error e from he).symm.trans he')
      exact .misfit h hv hnot (hee ▸ hmisfit)

/-- A reader that takes what fits the kind of its setting adds no fault. -/
theorem failsIn_read {α : Type} {read : SettingValue → Except ConfigFault α} {kind : SettingKind}
    (h : setting ∈ Setting.all) (hk : setting.kind = kind) (hunset : ∃ a, read .unset = .ok a)
    (hfits : ∀ x : SettingValue, x.Fits kind → ∃ a, read x = .ok a) :
    FailsIn (s.resolve setting >>= read) (Blamed s.settled?) := by
  refine (failsIn_resolve h).bind fun x hx => ?_
  have hread : ∃ a, read x = .ok a := by
    obtain ⟨-, rfl⟩ | ⟨v, -, -, -, hx⟩ := fits_of_resolve hx
    · exact hunset
    · rw [hk] at hx
      exact hfits x hx
  obtain ⟨a, ha⟩ := hread
  rw [ha]
  exact .ok a

theorem failsIn_text? (h : setting ∈ Setting.all) (hk : setting.kind = .text) :
    FailsIn (s.text? setting) (Blamed s.settled?) :=
  failsIn_read h hk ⟨_, rfl⟩ fun x hx => by
    cases x <;> simp_all [SettingValue.Fits, SettingValue.asText]

theorem failsIn_integer? (h : setting ∈ Setting.all) (hk : setting.kind = .integer) :
    FailsIn (s.integer? setting) (Blamed s.settled?) :=
  failsIn_read h hk ⟨_, rfl⟩ fun x hx => by
    cases x <;> simp_all [SettingValue.Fits, SettingValue.asInteger]

theorem failsIn_flag (h : setting ∈ Setting.all) (hk : setting.kind = .flag) :
    FailsIn (s.flag setting) (Blamed s.settled?) :=
  failsIn_read h hk ⟨_, rfl⟩ fun x hx => by
    cases x <;> simp_all [SettingValue.Fits, SettingValue.asFlag]

theorem failsIn_list (h : setting ∈ Setting.all) (hk : setting.kind = .list) :
    FailsIn (s.list setting) (Blamed s.settled?) :=
  failsIn_read h hk ⟨_, rfl⟩ fun x hx => by
    cases x <;> simp_all [SettingValue.Fits, SettingValue.asList]

theorem failsIn_set (h : setting ∈ Setting.all) (hk : setting.kind = .set) :
    FailsIn (s.set setting) (Blamed s.settled?) :=
  failsIn_read h hk ⟨_, rfl⟩ fun x hx => by
    cases x <;> simp_all [SettingValue.Fits, SettingValue.asSet]

/-- An integer that is set is the one that the settling value stands for. -/
theorem integer_of_integer? (hk : setting.kind = .integer) {i : Int}
    (h : s.integer? setting = .ok (some i)) :
    ∃ v, s.settled? setting = some v ∧ v.Integer i := by
  obtain ⟨x, hx, hread⟩ := bind_eq_ok_iff.mp h
  obtain ⟨-, rfl⟩ | ⟨v, hv, -, hparse, -⟩ := fits_of_resolve hx
  · cases hread
  · have hxi : x = .integer i := by
      cases x <;> simp_all [SettingValue.asInteger, SettingValue.mismatch]
    exact ⟨v, hv, (Setting.ofToml_eq_integer_iff hk).mp (hxi ▸ hparse)⟩

/-- A count that is refused is negative. -/
theorem failsIn_count (h : setting ∈ Setting.counts) {v : Toml.Value} {i : Int}
    (hv : s.settled? setting = some v) (hi : v.Integer i) :
    FailsIn (count setting i) (Blamed s.settled?) := by
  intro e he
  rw [count] at he
  split at he
  · cases he
  · next hneg =>
    cases he
    exact .count h hv hi (Int.not_le.mp hneg)

theorem counts_integer : ∀ setting ∈ Setting.counts,
    setting ∈ Setting.all ∧ setting.kind = .integer := by
  decide +kernel

theorem failsIn_seconds (h : setting ∈ Setting.counts) :
    FailsIn (s.seconds setting) (Blamed s.settled?) := by
  obtain ⟨hmem, hk⟩ := counts_integer setting h
  refine (failsIn_integer? hmem hk).bind fun i? hi? => ?_
  cases i? with
  | none => exact .ok 0
  | some i =>
    obtain ⟨v, hv, hi⟩ := integer_of_integer? hk hi?
    exact failsIn_count h hv hi

theorem failsIn_count? (h : setting ∈ Setting.counts) :
    FailsIn (s.count? setting) (Blamed s.settled?) := by
  obtain ⟨hmem, hk⟩ := counts_integer setting h
  refine (failsIn_integer? hmem hk).bind fun i? hi? => ?_
  cases i? with
  | none => exact .ok none
  | some i =>
    obtain ⟨v, hv, hi⟩ := integer_of_integer? hk hi?
    exact (failsIn_count h hv hi).bind fun n _ => .ok (some n)

/-- A port that is refused is out of range. -/
theorem failsIn_listenPort : FailsIn s.listenPort (Blamed s.settled?) := by
  refine (failsIn_integer? (by decide) rfl).bind fun i? hi? => ?_
  cases i? with
  | none => exact .ok 8888
  | some i =>
    obtain ⟨v, hv, hi⟩ := integer_of_integer? rfl hi?
    intro e he
    simp only [toPort, Port.ofInt?, Option.getD_some] at he
    split at he
    · cases he
    · next hnone =>
      cases he
      refine .port hv hi fun hin => ?_
      simp [show 0 ≤ i ∧ i < 65536 by omega] at hnone

/-- A band that is refused cannot be read as one. -/
theorem failsIn_portRange : FailsIn s.portRange (Blamed s.settled?) := by
  refine (failsIn_text? (by decide) rfl).bind fun t? ht? => ?_
  cases t? with
  | none => exact .ok PortRange.unrestricted
  | some raw =>
    intro e he
    have he : PortRange.parse raw = .error e := he
    obtain ⟨x, hx, hread⟩ := bind_eq_ok_iff.mp ht?
    have hxraw : x = .text raw := by
      cases x <;> simp_all [SettingValue.asText, SettingValue.mismatch]
    have hreading : Setting.portRange.reading (s.settled? .portRange) = .ok (.text raw) := by
      rw [← resolve_eq_reading, hx, hxraw]
    refine .band (fun raw' hraw' r hr => ?_) hreading (PortRange.unreadable_of_parse he)
    rw [hraw', Setting.reading, Setting.ofToml_text] at hreading
    cases hreading
    rw [PortRange.parse_eq_ok_iff.mpr hr] at he
    cases he

end Sources

/-! ## Whole configurations

A configuration is read from all of its settings, so that one that is accepted has passed every
check. What each check means for the settings is gathered into `Coherent`. -/

/-- A file and a key go together in an accepted configuration. -/
theorem tls_of_ofSources {s : Sources} {declared : List KernelSpec} {c : Config}
    (h : Config.ofSources s declared = .ok c) :
    ∃ cert? key?, s.text? .certFile = .ok cert? ∧ s.text? .keyFile = .ok key? ∧
      cert?.isSome = key?.isSome := by
  simp only [Config.ofSources] at h
  generalize (if declared.isEmpty then [.python] else declared) = specs at h
  obtain ⟨_, -, h⟩ := bind_eq_ok_iff.mp h
  obtain ⟨cert?, hcert, h⟩ := bind_eq_ok_iff.mp h
  obtain ⟨key?, hkey, h⟩ := bind_eq_ok_iff.mp h
  refine ⟨cert?, key?, hcert, hkey, ?_⟩
  split at h
  · cases h
  · next heq => exact not_not.mp heq

theorem Sources.isSome_of_text? {s : Sources} {setting : Setting} {t? : Option String}
    (h : s.text? setting = .ok t?) : (s.settled? setting).isSome = t?.isSome := by
  obtain ⟨x, hx, hread⟩ := bind_eq_ok_iff.mp h
  obtain ⟨hnone, rfl⟩ | ⟨v, hv, -, hparse, hfits⟩ := fits_of_resolve hx
  · cases hread
    simp [hnone]
  · cases x <;> simp_all [SettingValue.asText, SettingValue.mismatch, SettingValue.Fits]
    exact hread ▸ rfl

/-- What a refusal says is the case. -/
theorem failsIn_ofSources (s : Sources) (declared : List KernelSpec) :
    FailsIn (Config.ofSources s declared) (Blamed s.settled?) := by
  have text : ∀ setting ∈ Setting.all, setting.kind = .text → FailsIn (s.text? setting) _ :=
    fun _ => Sources.failsIn_text?
  have flag : ∀ setting ∈ Setting.all, setting.kind = .flag → FailsIn (s.flag setting) _ :=
    fun _ => Sources.failsIn_flag
  have set : ∀ setting ∈ Setting.all, setting.kind = .set → FailsIn (s.set setting) _ :=
    fun _ => Sources.failsIn_set
  have seconds : ∀ setting ∈ Setting.counts, FailsIn (s.seconds setting) _ :=
    fun _ => Sources.failsIn_seconds
  have count : ∀ setting ∈ Setting.counts, FailsIn (s.count? setting) _ :=
    fun _ => Sources.failsIn_count?
  -- From here on the fields are read in their order, and each fails for a reason of its own.
  simp only [Config.ofSources]
  generalize (if declared.isEmpty then [.python] else declared) = specs
  refine Sources.failsIn_portRange.bind fun _ _ => ?_
  refine (text .certFile (by decide) rfl).bind fun cert? hcert => ?_
  refine (text .keyFile (by decide) rfl).bind fun key? hkey => ?_
  split
  · next hne =>
    intro e he
    cases he
    refine .tls fun hiff => hne ?_
    rw [Sources.isSome_of_text? hcert, Sources.isSome_of_text? hkey] at hiff
    exact Bool.eq_iff_iff.mpr hiff
  · refine (text .ip (by decide) rfl).bind fun _ _ => ?_
    refine Sources.failsIn_listenPort.bind fun _ _ => ?_
    refine (text .api (by decide) rfl).bind fun _ _ => ?_
    refine (Sources.failsIn_list (by decide) rfl).bind fun _ _ => ?_
    refine (text .yarnEndpoint (by decide) rfl).bind fun _ _ => ?_
    refine (text .altYarnEndpoint (by decide) rfl).bind fun _ _ => ?_
    refine (flag .yarnSecurity (by decide) rfl).bind fun _ _ => ?_
    refine (text .conductorEndpoint (by decide) rfl).bind fun _ _ => ?_
    refine (flag .impersonation (by decide) rfl).bind fun _ _ => ?_
    refine (set .unauthorizedUsers (by decide) rfl).bind fun _ _ => ?_
    refine (set .authorizedUsers (by decide) rfl).bind fun _ _ => ?_
    refine (Sources.failsIn_integer? (by decide) rfl).bind fun _ _ => ?_
    refine (count .maxKernels (by decide)).bind fun _ _ => ?_
    refine (count .prespawnCount (by decide)).bind fun _ _ => ?_
    refine (text .defaultKernelName (by decide) rfl).bind fun _ _ => ?_
    refine (seconds .pingInterval (by decide)).bind fun _ _ => ?_
    refine (flag .sessionPersistence (by decide) rfl).bind fun _ _ => ?_
    refine (text .persistenceRoot (by decide) rfl).bind fun _ _ => ?_
    refine (seconds .recoveryTimeout (by decide)).bind fun _ _ => ?_
    refine (seconds .cullIdleTimeout (by decide)).bind fun _ _ => ?_
    refine (seconds .cullInterval (by decide)).bind fun _ _ => ?_
    refine (seconds .shutdownGrace (by decide)).bind fun _ _ => ?_
    refine (text .metricsAddress (by decide) rfl).bind fun _ _ => ?_
    exact .ok _

/-- What a number is read from stands for that number alone. -/
theorem Toml.Value.Integer.unique {v : Toml.Value} {i j : Int} (hi : v.Integer i)
    (hj : v.Integer j) : i = j := by
  -- any setting of the kind reads the value
  have hk : Setting.port.kind = .integer := rfl
  have h1 := (Setting.ofToml_eq_integer_iff hk).mpr hi
  rw [(Setting.ofToml_eq_integer_iff hk).mpr hj] at h1
  cases h1
  rfl

/-- A setting that has a default is settled. -/
theorem Sources.isSome_settled? (s : Sources) {setting : Setting}
    (h : setting.default?.isSome = true) : (s.settled? setting).isSome = true := by
  simp [settled?, h]

namespace Sources

variable {s : Sources} {setting : Setting}

/-- A setting that is settled by an integer is read as that integer. -/
theorem integer?_of_settled? (hk : setting.kind = .integer) {v : Toml.Value} {i : Int}
    (hv : s.settled? setting = some v) (hi : v.Integer i) :
    s.integer? setting = .ok (some i) := by
  rw [integer?, resolve_eq_reading, hv]
  exact bind_eq_ok_iff.mpr ⟨.integer i, (Setting.ofToml_eq_integer_iff hk).mpr hi, rfl⟩

/-- What is made of the integer of a setting is made of the one that settles it. -/
theorem made_of_integer (hk : setting.kind = .integer) {α : Type}
    {make : Option Int → Except ConfigFault α} {a : α}
    (h : (s.resolve setting >>= fun x => x.asInteger setting >>= make) = .ok a) {v : Toml.Value}
    {i : Int} (hv : s.settled? setting = some v) (hi : v.Integer i) : make (some i) = .ok a := by
  rw [← bind_assoc] at h
  obtain ⟨i?, hi?, hmake⟩ := bind_eq_ok_iff.mp h
  have h1 : s.integer? setting = .ok i? := hi?
  rw [integer?_of_settled? hk hv hi] at h1
  cases h1
  exact hmake

theorem nonneg_of_count {i : Int} {n : Nat} (h : count setting i = .ok n) : 0 ≤ i := by
  rw [count] at h
  split at h
  · assumption
  · cases h

/-- A time that was accepted is not negative. -/
theorem nonneg_of_seconds {field : Config → Nat} {n : Nat} (hk : setting.kind = .integer)
    (h : (s.resolve setting >>= (Wire.seconds setting field).parse) = .ok n) :
    ∀ v i, s.settled? setting = some v → v.Integer i → 0 ≤ i := fun _ _ hv hi =>
  nonneg_of_count (made_of_integer hk h hv hi)

/-- Nor is a count. -/
theorem nonneg_of_count? {field : Config → Option Nat} {n? : Option Nat}
    (hk : setting.kind = .integer)
    (h : (s.resolve setting >>= (Wire.count? setting field).parse) = .ok n?) :
    ∀ v i, s.settled? setting = some v → v.Integer i → 0 ≤ i := by
  intro v i hv hi
  have hmake : (some <$> count setting i) = .ok n? := made_of_integer hk h hv hi
  cases hcount : count setting i with
  | error e => rw [hcount] at hmake; cases hmake
  | ok n => exact nonneg_of_count hcount

end Sources

/-- What an accepted configuration is read from makes sense. -/
theorem coherent_of_ofSources {s : Sources} {declared : List KernelSpec} {c : Config}
    (h : Config.ofSources s declared = .ok c) : Coherent s.settled? := by
  have hcarried := (field_of_ofSources h).2
  refine ⟨fun _ hs v hv => ?typed, ?band, fun v i hv hi => ?port, ?counts, ?tls⟩
  case typed =>
    obtain ⟨w, hw, rfl⟩ := wire_of_mem hs
    obtain ⟨x, hx, -⟩ := bind_eq_ok_iff.mp (hcarried w hw)
    obtain ⟨hnone, -⟩ | ⟨v', hv', htakes, -, -⟩ := Sources.fits_of_resolve hx
    · exact nomatch hnone.symm.trans hv
    · exact Option.some.inj (hv'.symm.trans hv) ▸ htakes
  case band =>
    obtain ⟨x, hx, hparse⟩ := bind_eq_ok_iff.mp (hcarried .portRange (by simp [wires]))
    have hset := s.isSome_settled? (show Setting.portRange.default?.isSome = true from rfl)
    obtain ⟨hnone, -⟩ | ⟨v, hv, htakes, hread, -⟩ := Sources.fits_of_resolve hx
    · exact absurd hset (by simp [show s.settled? .portRange = none from hnone])
    · cases v with
      | text raw =>
        cases hread
        exact ⟨raw, hv, c.portRange, PortRange.parse_eq_ok_iff.mp hparse⟩
      | integer i =>
        cases hread
        -- A number alone is no range, as the dots are missing.
        exact absurd (PortRange.parse_eq_ok_iff.mp hparse) (PortRange.not_written_decimal _ i)
      | float | boolean | datetime | array | table => exact htakes.elim
  case port =>
    have hport := hcarried .port (by simp [wires])
    have hmake : Sources.toPort i = .ok c.port := Sources.made_of_integer rfl hport hv hi
    rw [Sources.toPort, Port.ofInt?] at hmake
    by_cases hin : 0 ≤ i ∧ i < 65536
    · omega
    · simp [hin] at hmake
  case counts =>
    have count : ∀ setting field, Wire.count? setting field ∈ wires → setting.kind = .integer →
        ∀ v i, s.settled? setting = some v → v.Integer i → 0 ≤ i :=
      fun _ _ hw hk => Sources.nonneg_of_count? hk (hcarried _ hw)
    have seconds : ∀ setting field, Wire.seconds setting field ∈ wires → setting.kind = .integer →
        ∀ v i, s.settled? setting = some v → v.Integer i → 0 ≤ i :=
      fun _ _ hw hk => Sources.nonneg_of_seconds hk (hcarried _ hw)
    simp only [Setting.counts, List.forall_mem_cons]
    exact ⟨count .prespawnCount (·.prespawn?) (by simp [wires]) rfl,
      count .maxKernels (·.maxKernels?) (by simp [wires]) rfl,
      seconds .pingInterval (·.pingSeconds) (by simp [wires]) rfl,
      seconds .recoveryTimeout (·.recoverySeconds) (by simp [wires]) rfl,
      seconds .cullIdleTimeout (·.cullIdleSeconds) (by simp [wires]) rfl,
      seconds .cullInterval (·.cullIntervalSeconds) (by simp [wires]) rfl,
      seconds .shutdownGrace (·.graceSeconds) (by simp [wires]) rfl, by simp⟩
  case tls =>
    obtain ⟨cert?, key?, hcert, hkey, heq⟩ := tls_of_ofSources h
    rw [Sources.isSome_of_text? hcert, Sources.isSome_of_text? hkey, heq]

namespace Overrides

theorem insert_of_unknown {name : String} (h : ¬ Known name) (o : Overrides) (v : Toml.Value) :
    o.insert name v = .error (.unknownSetting name) := by
  have hnone : Setting.lookup? name = none := by simpa [Known] using h
  simp [insert, hnone]

/-- Entries with a name that is not known are refused, and for such a name. -/
theorem insertAll_of_unknown {entries : List (String × Toml.Value)}
    (h : ¬ ∀ e ∈ entries, Known e.1) (o : Overrides) :
    ∃ e ∈ entries, ¬ Known e.1 ∧
      entries.foldlM (fun o e => o.insert e.1 e.2) o = .error (.unknownSetting e.1) := by
  induction entries generalizing o with
  | nil => simp at h
  | cons e rest ih =>
    by_cases he : Known e.1
    · have hrest : ¬ ∀ e ∈ rest, Known e.1 := fun hall =>
        h (List.forall_mem_cons.mpr ⟨he, hall⟩)
      obtain ⟨e', he', hunknown, herror⟩ := ih hrest ⟨o.values.insert e.1 e.2⟩
      refine ⟨e', List.mem_cons_of_mem _ he', hunknown, ?_⟩
      rw [List.foldlM_cons, insert_of_known he]
      exact herror
    · refine ⟨e, List.mem_cons_self, he, ?_⟩
      rw [List.foldlM_cons, insert_of_unknown he]
      rfl

end Overrides

namespace Config

/-- The value that settles a setting: the command line's, the file's, the text of the variable where
there is some, the default. -/
def settled? (file : ConfigFile) (commandLine : Overrides) (env : Environment) (s : Setting) :
    Option Toml.Value :=
  (commandLine.get? s.name).or <|
    (file.overrides.get? s.name).or <|
      (((env.get? s.env).filter (· ≠ "")).map .text).or (s.default?.map .text)

/-- The file names known settings only, and what settles the settings makes sense. -/
structure Valid (file : ConfigFile) (commandLine : Overrides) (env : Environment) : Prop where
  known : ∀ name ∈ file.overrides.keys, Overrides.Known name
  coherent : Coherent (settled? file commandLine env)

/-- What is not valid, and how it is reported. -/
inductive Refused (file : ConfigFile) (commandLine : Overrides) (env : Environment) :
    ConfigFault → Prop
  | unknown {name : String} : name ∈ file.overrides.keys → ¬ Overrides.Known name →
      Refused file commandLine env (.unknownSetting name)
  | blamed {e : ConfigFault} : Blamed (settled? file commandLine env) e →
      Refused file commandLine env e

variable {file : ConfigFile} {commandLine : Overrides} {env : Environment}

/-- With known keys a configuration is made of sources that settle each setting. -/
theorem load_of_known (h : ∀ name ∈ file.overrides.keys, Overrides.Known name) :
    ∃ s : Sources, load file commandLine env = ofSources s file.specs ∧
      s.settled? = settled? file commandLine env := by
  obtain ⟨base, hbase, hget⟩ := Overrides.ofTable_of_known h
  refine ⟨⟨base.overlay commandLine, env⟩, by rw [load, hbase]; rfl, funext fun s => ?_⟩
  rw [Sources.settled?, Overrides.get?_overlay, hget, Option.or_assoc]
  rfl

/-- Of unknown keys the first one is reported. -/
theorem refused_of_unknown (h : ¬ ∀ name ∈ file.overrides.keys, Overrides.Known name) :
    ∃ name ∈ file.overrides.keys, ¬ Overrides.Known name ∧
      load file commandLine env = .error (.unknownSetting name) := by
  have hentries : ¬ ∀ e ∈ file.overrides.toList, Overrides.Known e.1 := fun hall =>
    h fun name hname => by
      obtain ⟨e, he, rfl⟩ := List.mem_map.mp hname
      exact hall e he
  obtain ⟨e, he, hunknown, herror⟩ := Overrides.insertAll_of_unknown hentries .empty
  refine ⟨e.1, List.mem_map_of_mem he, hunknown, ?_⟩
  rw [load, Overrides.ofTable, Overrides.ofEntries, herror]
  rfl

/-- A configuration is accepted exactly if it is valid; where it is not, the fault says what is
wrong with it, and is never that a value which was read is of another kind. The declared specs are
taken as they are, and the standard one takes the place of none. -/
theorem load_eq_ok_iff_valid (file : ConfigFile) (commandLine : Overrides) (env : Environment) :
    ((∃ c, load file commandLine env = .ok c) ↔ Valid file commandLine env) ∧
    (∀ e, load file commandLine env = .error e → Refused file commandLine env e ∧
      ∀ name kind shown, e ≠ .wrongReading name kind shown) ∧
    ∀ c, load file commandLine env = .ok c →
      c.specs = if file.specs.isEmpty then [.python] else file.specs := by
  by_cases hknown : ∀ name ∈ file.overrides.keys, Overrides.Known name
  · obtain ⟨s, hload, hsettled⟩ := @load_of_known file commandLine env hknown
    have hblamed : ∀ e, load file commandLine env = .error e →
        Blamed (settled? file commandLine env) e := fun e he =>
      hsettled ▸ failsIn_ofSources s file.specs e (hload ▸ he)
    refine ⟨⟨fun ⟨c, hc⟩ => ⟨hknown, ?_⟩, fun hvalid => ?_⟩, fun e he => ?_, fun c hc => ?_⟩
    · exact hsettled ▸ coherent_of_ofSources (hload ▸ hc)
    · cases hc : load file commandLine env with
      | ok c => exact ⟨c, rfl⟩
      | error e => exact absurd (hblamed e hc) hvalid.coherent.not_blamed
    · exact ⟨.blamed (hblamed e he), (hblamed e he).ne_wrongReading⟩
    · exact (field_of_ofSources (hload ▸ hc)).1
  · obtain ⟨name, hname, hunknown, herror⟩ := @refused_of_unknown file commandLine env hknown
    refine ⟨⟨fun ⟨c, hc⟩ => ?_, fun hvalid => absurd hvalid.known hknown⟩, fun e he => ?_,
      fun c hc => ?_⟩
    · exact nomatch herror.symm.trans hc
    · cases herror.symm.trans he
      exact ⟨.unknown hname hunknown, fun _ _ _ => nofun⟩
    · exact nomatch herror.symm.trans hc

/-- A sign and blanks are part of what a number may be written with. -/
example : (load .empty ⟨Dict.ofList [("port", .text " +80 ")]⟩ ∅).toOption.map (·.port) =
    some 80 := by decide +kernel

end Config

end KernelGate
