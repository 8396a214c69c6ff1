import ConnectorProfiles.Proofs.Dispatch.Answers
import ConnectorProfiles.Proofs.Document.Read
import ConnectorProfiles.Proofs.Participants.Registrations
import ConnectorProfiles.Proofs.Registry.History
import ConnectorProfiles.Wiring

/-!
# Wiring as a run of calls

A wiring from a configuration is what calls on its registry make of an empty one: one for each
profile of the default tier, then one for each profile of the standard tier, with the extractor it
names. The dispatch is given the same changes of its extractors. There is a wiring exactly when the
configuration keeps the rules and every extractor that it names is known.
-/

namespace ConnectorProfiles

/-- Whether a catalog names an extractor. -/
def Extractor.Catalog.Knows (c : Extractor.Catalog) (name : String) : Prop :=
  ∃ extractor, c.get? name = some extractor

/-- The extractor of a known name; an unknown name stands for one that finds nothing. -/
def Extractor.Catalog.lookup (c : Extractor.Catalog) (name : String) : Extractor :=
  (c.get? name).getD fun _ ↦ none

/-- A known name has the extractor that is looked up. -/
theorem Extractor.Catalog.Knows.get?_eq {c : Extractor.Catalog} {name : String}
    (h : c.Knows name) : c.get? name = some (c.lookup name) := by
  obtain ⟨extractor, hextractor⟩ := h
  rw [lookup, hextractor, Option.getD_some]

/-- Exactly a known name yields an extractor where one is required. -/
theorem Extractor.Catalog.require_eq_ok_iff {c : Extractor.Catalog} {name : String}
    {extractor : Extractor} :
    c.require name = .ok extractor ↔ c.Knows name ∧ c.lookup name = extractor := by
  rw [require, Knows, lookup]
  cases c.get? name with
  | none => simp
  | some found => simp

/-! ### Declarations as calls -/

/-- The names of extractors, under the names of the standard profiles that name them. -/
def Config.namedExtractors (c : Config) : List (String × String) :=
  c.profiles.filterMap fun p ↦ p.extractor.map (p.name, ·)

/-- The extractors that a configuration must find in its catalog. -/
def Config.extractorNames (c : Config) : List String :=
  c.defaultExtractor :: c.namedExtractors.map (·.2)

/-- The changes by which the standard profiles of a configuration install extractors. -/
def Config.installs (c : Config) (catalog : Extractor.Catalog) : List Extractor.Change :=
  c.namedExtractors.map fun named ↦ .install named.1 (catalog.lookup named.2)

/-- The call for a profile of the standard tier. -/
def ProfileSettings.call (catalog : Extractor.Catalog) (p : ProfileSettings) : Registry.Call :=
  match p.extractor with
  | some name => .registerWith p.toProfile (catalog.lookup name)
  | none => .register p.toProfile

/-- The calls for all profiles of a configuration. -/
def Config.calls (c : Config) (catalog : Extractor.Catalog) : List Registry.Call :=
  c.defaultProfiles.map (fun p ↦ .registerDefault p.toProfile) ++
    c.profiles.map (·.call catalog)

namespace ProfileSettings

variable (catalog : Extractor.Catalog) (p : ProfileSettings)

/-- The call for a standard profile leaves the default tier as it is. -/
@[simp] theorem default?_call : (p.call catalog).default? = none := by
  rw [call]
  cases p.extractor with
  | none | some => rfl

/-- The call for a standard profile gives it to the standard tier. -/
@[simp] theorem standard?_call : (p.call catalog).standard? = some p.toProfile := by
  rw [call]
  cases p.extractor with
  | none | some => rfl

/-- The call for a standard profile installs the extractor that it names. -/
@[simp] theorem change?_call : (p.call catalog).change? =
    p.extractor.map fun name ↦ .install p.name (catalog.lookup name) := by
  rw [call]
  cases p.extractor with
  | none | some => rfl

end ProfileSettings

namespace Config

variable (config : Config) (catalog : Extractor.Catalog)

private theorem filterMap_registerDefault {α : Type} {f : Registry.Call → Option α}
    (hf : ∀ profile, f (.registerDefault profile) = none) (profiles : List ProfileSettings) :
    (profiles.map fun p ↦ Registry.Call.registerDefault p.toProfile).filterMap f = [] := by
  simp [hf]

/-- The calls for a configuration give its default profiles to the default tier. -/
theorem filterMap_default?_calls : (config.calls catalog).filterMap Registry.Call.default? =
    config.defaultProfiles.map ProfileSettings.toProfile := by
  have hdefault : (Registry.Call.default? ∘ fun p : ProfileSettings ↦
      .registerDefault p.toProfile) = some ∘ ProfileSettings.toProfile := rfl
  rw [calls, List.filterMap_append, List.filterMap_map, List.filterMap_map, hdefault,
    List.filterMap_eq_map]
  simp

/-- The calls for a configuration give its standard profiles to the standard tier. -/
theorem filterMap_standard?_calls : (config.calls catalog).filterMap Registry.Call.standard? =
    config.profiles.map ProfileSettings.toProfile := by
  rw [calls, List.filterMap_append, filterMap_registerDefault fun _ ↦ rfl]
  simp

/-- The calls for a configuration install the extractors that its standard profiles name. -/
theorem filterMap_change?_calls :
    (config.calls catalog).filterMap Registry.Call.change? = config.installs catalog := by
  rw [calls, List.filterMap_append, filterMap_registerDefault fun _ ↦ rfl, installs,
    namedExtractors]
  simp [Function.comp_def, List.map_filterMap]

/-- The calls for a configuration write the extractors that its standard profiles name. -/
theorem entries_calls :
    ((config.calls catalog).filterMap Registry.Call.change?).map Extractor.Change.entry =
      config.namedExtractors.map fun named ↦ (named.1, catalog.lookup named.2) := by
  rw [filterMap_change?_calls, installs, List.map_map]
  rfl

end Config

/-- All extractors are known when the one for all others is and each profile names a known one. -/
theorem Config.forall_extractorNames_iff {c : Config} {P : String → Prop} :
    (∀ name ∈ c.extractorNames, P name) ↔
      P c.defaultExtractor ∧ ∀ p ∈ c.profiles, ∀ name, p.extractor = some name → P name := by
  rw [extractorNames, List.forall_mem_cons, namedExtractors]
  simp only [List.forall_mem_map, List.mem_filterMap, Option.map_eq_some_iff]
  refine and_congr_right fun _ ↦ ⟨?_, ?_⟩
  · intro h p hp name hname
    exact h _ ⟨p, hp, name, hname, rfl⟩
  · rintro h _ ⟨p, hp, name, hname, rfl⟩
    exact h p hp name hname

namespace Wiring

/-- The components after calls on the registry, where the dispatch is given the same changes. -/
def follow (w : Wiring) (calls : List Registry.Call) : Wiring :=
  { w with
    registry := (w.registry.run calls).value
    dispatch := (w.dispatch.run (calls.filterMap Registry.Call.change?)).value }

/-- Calls after others start from what those made of the components. -/
theorem follow_append (w : Wiring) (calls later : List Registry.Call) :
    w.follow (calls ++ later) = (w.follow calls).follow later := by
  simp only [follow, Registry.value_run, Dispatch.value_run, List.filterMap_append,
    List.append_assoc, Extractor.Table.changeAll_append]

/-- A first call is followed before the others. -/
theorem follow_cons (w : Wiring) (c : Registry.Call) (calls : List Registry.Call) :
    w.follow (c :: calls) = (w.follow [c]).follow calls :=
  follow_append w [c] calls

/-- Declaring profiles of the default tier is one call for each. -/
theorem value_declareDefaults (w : Wiring) (profiles : List ProfileSettings) :
    (w.declareDefaults profiles).value =
      w.follow (profiles.map fun p ↦ .registerDefault p.toProfile) := by
  induction profiles generalizing w with
  | nil => rfl
  | cons p rest ih =>
    rw [declareDefaults, Logged.value_bind, ih, List.map_cons, follow_cons]
    rfl

/-- Declaring a profile of the standard tier with the extractor that it names is its call. -/
theorem value_declare (catalog : Extractor.Catalog) (w : Wiring) (p : ProfileSettings) :
    (w.declare p (p.extractor.map catalog.lookup)).value = w.follow [p.call catalog] := by
  rw [ProfileSettings.call]
  cases p.extractor with
  | none => rfl
  | some name => rfl

/-- The extractor of a profile is found exactly when it names none or a known one. -/
theorem mapM_require_eq_ok_iff {catalog : Extractor.Catalog} {named : Option String}
    {found : Option Extractor} : named.mapM catalog.require = .ok found ↔
      (∀ name, named = some name → catalog.Knows name) ∧ named.map catalog.lookup = found := by
  cases named with
  | none => simp [pure_eq_ok_iff]
  | some name =>
    simp [map_eq_ok_iff, Extractor.Catalog.require_eq_ok_iff]

/-- All profiles of the standard tier are declared exactly when they name known extractors, and that
is one call for each. -/
theorem value_declareAll_eq_ok_iff {catalog : Extractor.Catalog} {w declared : Wiring}
    {profiles : List ProfileSettings} : (declareAll catalog w profiles).value = .ok declared ↔
      (∀ p ∈ profiles, ∀ name, p.extractor = some name → catalog.Knows name) ∧
        w.follow (profiles.map (·.call catalog)) = declared := by
  induction profiles generalizing w with
  | nil => simp [declareAll, follow, Registry.run, Dispatch.run]
  | cons p rest ih =>
    rw [List.forall_mem_cons, List.map_cons, follow_cons]
    cases hfound : p.extractor.mapM catalog.require with
    | error fault =>
      have hunknown : ¬ ∀ name, p.extractor = some name → catalog.Knows name := by
        intro h
        rw [mapM_require_eq_ok_iff.mpr ⟨h, rfl⟩] at hfound
        cases hfound
      simp [declareAll, hfound, hunknown]
    | ok extractor =>
      obtain ⟨hknown, rfl⟩ := mapM_require_eq_ok_iff.mp hfound
      rw [declareAll, hfound, Logged.value_bind, value_declare, ih, and_iff_right hknown]

/-- Registering the connector's ids is a run of registrations. -/
theorem declareIds_eq (w : Wiring) (ids : List (String × String)) :
    w.declareIds ids = (fun participants ↦ { w with participants }) <$>
      w.participants.registerAll ids := by
  unfold Participants.registerAll
  induction ids generalizing w with
  | nil => rfl
  | cons entry rest ih =>
    rw [declareIds, List.foldlM_cons, map_bind]
    apply bind_congr
    intro participants
    exact ih { w with participants }

/-- Registering the connector's ids adds them in order. -/
theorem value_declareIds (w : Wiring) (ids : List (String × String)) :
    (w.declareIds ids).value = { w with
      participants.byProtocol :=
        ids.foldl (fun m entry ↦ m.insert entry.1 entry.2) w.participants.byProtocol } := by
  rw [declareIds_eq, Logged.value_map, Participants.value_registerAll]

/-- The components that a configuration declares. -/
def declared (config : Config) (catalog : Extractor.Catalog) : Wiring :=
  { (new (catalog.lookup config.defaultExtractor) config.participant.defaultId).follow
      (config.calls catalog) with
    participants := ⟨config.participant.protocols, config.participant.defaultId⟩ }

/-- The declared components arise tier by tier, and then the ids are registered. -/
theorem value_declareIds_follow (config : Config) (catalog : Extractor.Catalog) :
    ((((new (catalog.lookup config.defaultExtractor) config.participant.defaultId).follow
      (config.defaultProfiles.map fun p ↦ .registerDefault p.toProfile)).follow
      (config.profiles.map (·.call catalog))).declareIds
        config.participant.protocols.entries).value = declared config catalog := by
  have hids : config.participant.protocols.entries.foldl
      (fun m entry ↦ m.insert entry.1 entry.2) .empty = config.participant.protocols :=
    NameMap.ofList_entries _
  rw [value_declareIds, ← follow_append]
  simp only [follow, new, Participants.new, hids]
  rfl

/-- A configuration yields a wiring exactly when it keeps the rules and names known extractors, and
then the one that it declares. -/
theorem value_ofConfig_eq_ok_iff {config : Config} {catalog : Extractor.Catalog} {w : Wiring} :
    (ofConfig config catalog).value = .ok w ↔
      config.validate = .ok () ∧ (∀ name ∈ config.extractorNames, catalog.Knows name) ∧
        declared config catalog = w := by
  rw [Config.forall_extractorNames_iff]
  cases hvalid : config.validate with
  | error violation => simp [ofConfig, hvalid]
  | ok checked =>
    cases hfallback : catalog.require config.defaultExtractor with
    | error fault =>
      have hunknown : ¬ catalog.Knows config.defaultExtractor := by
        intro h
        rw [Extractor.Catalog.require_eq_ok_iff.mpr ⟨h, rfl⟩] at hfallback
        cases hfallback
      simp [ofConfig, hvalid, hfallback, hunknown]
    | ok fallback =>
      obtain ⟨hknown, rfl⟩ := Extractor.Catalog.require_eq_ok_iff.mp hfallback
      rw [ofConfig, hvalid, hfallback, Logged.value_bind, value_declareDefaults,
        Logged.value_bind]
      generalize hall : (declareAll catalog _ config.profiles).value = filled
      cases filled with
      | error fault =>
        have hunknown : ¬ ∀ p ∈ config.profiles, ∀ name, p.extractor = some name →
            catalog.Knows name := by
          intro h
          rw [value_declareAll_eq_ok_iff.mpr ⟨h, rfl⟩] at hall
          cases hall
        simp [hunknown]
      | ok filled =>
        obtain ⟨hnames, rfl⟩ := value_declareAll_eq_ok_iff.mp hall
        rw [Logged.value_bind, value_declareIds_follow, Logged.value_pure, Except.ok.injEq,
          and_iff_right rfl, and_iff_right ⟨hknown, hnames⟩]

/-- The registry of the declared components is what the calls for the configuration make. -/
theorem declared_registry (config : Config) (catalog : Extractor.Catalog) :
    (declared config catalog).registry = .ofCalls (catalog.lookup config.defaultExtractor)
      (config.calls catalog) := rfl

/-- The dispatch of the declared components is what the same changes of extractors make. -/
theorem declared_dispatch (config : Config) (catalog : Extractor.Catalog) :
    (declared config catalog).dispatch = .ofChanges (catalog.lookup config.defaultExtractor)
      ((config.calls catalog).filterMap Registry.Call.change?) := rfl

/-- The extractors that a configuration installs in a new table. -/
def installed (config : Config) (catalog : Extractor.Catalog) : Extractor.Table :=
  (Extractor.Table.new (catalog.lookup config.defaultExtractor)).changeAll (config.installs catalog)

/-- The declared registry has the installed extractors. -/
theorem declared_registry_extractors (config : Config) (catalog : Extractor.Catalog) :
    (declared config catalog).registry.extractors = installed config catalog := by
  rw [declared_registry, Registry.ofCalls_eq, Config.filterMap_change?_calls, installed]

/-- The declared dispatch has the installed extractors. -/
theorem declared_dispatch_extractors (config : Config) (catalog : Extractor.Catalog) :
    (declared config catalog).dispatch.extractors = installed config catalog := by
  rw [declared_dispatch, Dispatch.ofChanges_eq, Config.filterMap_change?_calls, installed]

/-- Where the extractors are known that a configuration names, a protocol has the one of the name
that it resolves to. -/
theorem exists_resolves_installed {config : Config} {catalog : Extractor.Catalog}
    (known : ∀ name ∈ config.extractorNames, catalog.Knows name) (protocol : String) :
    ∃ name, Extractor.Resolves config.defaultExtractor config.namedExtractors protocol name ∧
      catalog.get? name = some ((installed config catalog).resolve protocol) := by
  -- The table holds extractors; the law is taken back to the names that they were looked up under.
  have hresolves := (Extractor.Table.holds_changeAll_new
    (catalog.lookup config.defaultExtractor) (config.installs catalog)).resolves protocol
  rw [← Config.filterMap_change?_calls, Config.entries_calls, Extractor.resolves_map_iff,
    Config.filterMap_change?_calls] at hresolves
  obtain ⟨name, hname, hextractor⟩ := hresolves
  refine ⟨name, hname, ?_⟩
  rw [installed, hextractor]
  exact (known name hname.mem).get?_eq

/-! ### A configuration with an extractor under the reserved key -/

/-- Where a profile is called back. -/
def sampleWebhook : Url :=
  ⟨"https", some ⟨"", none, .name "provider.example", none⟩, .segments ["protocol"], none, none⟩

/-- A profile of either tier, two profiles of one name and one called as the reserved key. -/
def sampleConfig : Config where
  defaultExtractor := "credential-subject"
  participant := ⟨"did:web:provider", .ofList [("dsp", "BPNL000000000001")]⟩
  defaultProfiles := [⟨"dsp", "v0.8", "/", "HTTPS", sampleWebhook, none⟩]
  profiles := [⟨"dsp", "2025-1", "/2025/1", "HTTPS", sampleWebhook, some "fixed"⟩,
    ⟨"dsp", "2024-1", "/2024/1", "HTTPS", sampleWebhook, none⟩,
    ⟨"default", "1", "/", "HTTPS", sampleWebhook, some "fixed"⟩]

/-- The usual extractor and one that always finds the same id. -/
def sampleCatalog : Extractor.Catalog :=
  Extractor.Catalog.builtins.insert "fixed" fun _ ↦ some "did:web:fixed"

/-- The sample configuration yields a wiring. -/
theorem value_ofConfig_sample :
    (ofConfig sampleConfig sampleCatalog).value = .ok (declared sampleConfig sampleCatalog) := by
  have hknown : ∀ name ∈ sampleConfig.extractorNames, (sampleCatalog.get? name).isSome := by
    decide +kernel
  rw [value_ofConfig_eq_ok_iff]
  refine ⟨by decide +kernel, fun name hname ↦ ?_, rfl⟩
  exact Option.isSome_iff_exists.mp (hknown name hname)

end Wiring

end ConnectorProfiles
