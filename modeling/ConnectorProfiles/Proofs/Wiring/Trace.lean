import ConnectorProfiles.Proofs.NameMap.ByteOrder
import ConnectorProfiles.Proofs.Registry.Hiding
import ConnectorProfiles.Proofs.Wiring.Outcome

/-!
# What wiring reports

The events of wiring are read off the configuration: one for each default profile, then those of
each standard profile up to the first that names an unknown extractor, and, where there is none, one
for each of the connector's ids. So a wiring that stops at a profile has reported what the
configuration without this profile and the later ones reports, except for the ids.
-/

namespace ConnectorProfiles

/-- The event is of a level and of a component, and has these fields. -/
structure Event.Tells (event : Event) (level : Level) (target : String)
    (fields : List (String × EventValue)) : Prop where
  level : event.level = level
  target : event.target = target
  fields : event.fields = fields

/-! ### The events that a configuration announces -/

/-- What is reported of a default profile. -/
def ProfileSettings.defaultEvent (p : ProfileSettings) : Event := .defaultProfile p.name p.version

/-- What is reported of a standard profile that hides a number of default profiles: that an
extractor is registered, if it names one; how many profiles it hides, if it hides any; and the
profile. -/
def ProfileSettings.standardEvents (hidden : Nat) (p : ProfileSettings) : List Event :=
  p.extractor.toList.map (fun _ ↦ .extraction p.name) ++
    (Registry.hidingEvents p.name hidden ++ [.standardProfile p.name p.version])

/-- What is reported of standard profiles, of which the first hides a number of default profiles. -/
def standardTierEvents (hidden : Nat) : List ProfileSettings → List Event
  | [] => []
  | p :: rest => p.standardEvents hidden ++ rest.flatMap (ProfileSettings.standardEvents 0)

namespace Config

variable (c : Config)

/-- What is reported of the profiles of a configuration. -/
def tierEvents : List Event :=
  c.defaultProfiles.map ProfileSettings.defaultEvent ++
    standardTierEvents c.defaultProfiles.length c.profiles

/-- What is reported of the connector's ids. -/
def idEvents : List Event :=
  c.participant.protocols.entries.map fun entry ↦ .participant entry.1 entry.2

/-- The configuration with other standard profiles. -/
def withProfiles (profiles : List ProfileSettings) : Config := { c with profiles }

end Config

/-- Where no profiles are left to hide, the first standard profile is reported like all others. -/
theorem standardTierEvents_zero (profiles : List ProfileSettings) :
    standardTierEvents 0 profiles = profiles.flatMap (ProfileSettings.standardEvents 0) := by
  cases profiles with
  | nil => rfl
  | cons p rest => rfl

/-- The events of a standard profile tell of its extractor, of hidden profiles or of itself. -/
theorem mem_standardEvents_iff {hidden : Nat} {p : ProfileSettings} {event : Event} :
    event ∈ p.standardEvents hidden ↔ p.extractor ≠ none ∧ event = .extraction p.name ∨
      hidden ≠ 0 ∧ event = .defaultsHidden p.name hidden ∨
      event = .standardProfile p.name p.version := by
  rw [ProfileSettings.standardEvents, List.mem_append, List.mem_append, List.mem_singleton,
    Registry.mem_hidingEvents_iff]
  cases p.extractor with
  | none => simp
  | some name => simp

namespace Wiring

/-! ### The events of each part of wiring -/

/-- Declaring default profiles reports each of them. -/
theorem events_declareDefaults (w : Wiring) (profiles : List ProfileSettings) :
    (w.declareDefaults profiles).events = profiles.map ProfileSettings.defaultEvent := by
  induction profiles generalizing w with
  | nil => rfl
  | cons p rest ih =>
    rw [declareDefaults, Logged.events_bind, ih]
    rfl

/-- Declaring a standard profile reports it, with the profiles that it hides. -/
theorem events_declare (catalog : Extractor.Catalog) (w : Wiring) (p : ProfileSettings) :
    (w.declare p (p.extractor.map catalog.lookup)).events =
      p.standardEvents w.registry.exposed := by
  unfold ProfileSettings.standardEvents
  cases p.extractor with
  | none =>
    simp only [Option.map_none, declare, Logged.events_bind, Logged.events_pure, List.append_nil,
      Registry.events_register]
    rfl
  | some name =>
    simp only [Option.map_some, declare, Logged.events_bind, Logged.events_pure, List.append_nil,
      Registry.registerWith, Registry.events_register]
    rfl

/-- After a standard profile no default profile is left to hide. -/
theorem exposed_follow_call (catalog : Extractor.Catalog) (w : Wiring) (p : ProfileSettings) :
    (w.follow [p.call catalog]).registry.exposed = 0 := by
  apply Registry.exposed_of_standards_ne_nil
  simp [follow, Registry.value_run]

/-- Declaring standard profiles that name known extractors reports each of them, and goes on with
the others. -/
theorem events_declareAll_append {catalog : Extractor.Catalog} {before : List ProfileSettings}
    (hknown : ∀ p ∈ before, ∀ name, p.extractor = some name → catalog.Knows name) (w : Wiring)
    (rest : List ProfileSettings) : (declareAll catalog w (before ++ rest)).events =
      standardTierEvents w.registry.exposed before ++
        (declareAll catalog (w.follow (before.map (·.call catalog))) rest).events := by
  -- Only the first of them can hide profiles: for the others the number left to hide is zero, so
  -- that the hypothesis of the induction, which has a first one again, gives the plain list.
  induction before generalizing w with
  | nil => rfl
  | cons p before ih =>
    obtain ⟨hp, hbefore⟩ := List.forall_mem_cons.mp hknown
    rw [List.cons_append, declareAll, mapM_require_eq_ok_iff.mpr ⟨hp, rfl⟩, Logged.events_bind,
      events_declare, value_declare, ih hbefore, exposed_follow_call, standardTierEvents_zero,
      List.map_cons, ← follow_cons, standardTierEvents, List.append_assoc]

/-- Registering the connector's ids reports each of them. -/
theorem events_declareIds (w : Wiring) (ids : List (String × String)) :
    (w.declareIds ids).events = ids.map fun entry ↦ .participant entry.1 entry.2 := by
  rw [declareIds_eq, Logged.events_map, Participants.events_registerAll]

/-! ### The events of wiring -/

/-- Among the standard profiles this one is the first to name an unknown extractor. -/
structure StopsAt (catalog : Extractor.Catalog) (profiles before : List ProfileSettings)
    (p : ProfileSettings) (after : List ProfileSettings) : Prop where
  split : profiles = before ++ p :: after
  earlier : ∀ q ∈ before, ∀ name, q.extractor = some name → catalog.Knows name
  unknown : ∃ name, p.extractor = some name ∧ ¬ catalog.Knows name

section Trace

variable {config : Config} {catalog : Extractor.Catalog}

/-- Declaring standard profiles reports those before the first that names an unknown extractor. -/
theorem StopsAt.events_declareAll {profiles before after : List ProfileSettings}
    {p : ProfileSettings} (h : StopsAt catalog profiles before p after) (w : Wiring) :
    (declareAll catalog w profiles).events = standardTierEvents w.registry.exposed before := by
  obtain ⟨name, hname, hunknown⟩ := h.unknown
  have hfound : p.extractor.mapM catalog.require = .error (.unknownExtractor name) :=
    mapM_require_eq_error_iff.mpr ⟨name, hname, hunknown, rfl⟩
  rw [h.split, events_declareAll_append h.earlier, declareAll, hfound, Logged.events_pure,
    List.append_nil]

/-- After the default profiles of a configuration all of them are left to hide. -/
theorem exposed_follow_defaults (fallback : Extractor) (id : String)
    (profiles : List ProfileSettings) :
    ((new fallback id).follow
      (profiles.map fun p ↦ .registerDefault p.toProfile)).registry.exposed = profiles.length := by
  have hnone : ∀ c ∈ profiles.map fun p ↦ Registry.Call.registerDefault p.toProfile,
      c.standard? = none := by
    intro c hc
    obtain ⟨p, -, rfl⟩ := List.mem_map.mp hc
    rfl
  have hregistry : ((new fallback id).follow
      (profiles.map fun p ↦ .registerDefault p.toProfile)).registry =
        .ofCalls fallback (profiles.map fun p ↦ .registerDefault p.toProfile) := rfl
  rw [hregistry, Registry.exposed_ofCalls fallback hnone]
  simp [Function.comp_def, Registry.Call.default?]

/-- Where a profile names an unknown extractor, the profiles before it are reported. -/
theorem events_ofConfig_of_stopsAt (valid : config.validate = .ok ())
    (known : catalog.Knows config.defaultExtractor) {before after : List ProfileSettings}
    {p : ProfileSettings} (h : StopsAt catalog config.profiles before p after) :
    (ofConfig config catalog).events = (config.withProfiles before).tierEvents := by
  obtain ⟨name, hname, hunknown⟩ := h.unknown
  have hfirst : catalog.FirstUnknown config.profiles name :=
    ⟨before, p, after, h.split, h.earlier, hname, hunknown⟩
  rw [ofConfig, valid, Extractor.Catalog.require_eq_ok_iff.mpr ⟨known, rfl⟩, Logged.events_bind,
    events_declareDefaults, value_declareDefaults, Logged.events_bind, h.events_declareAll,
    exposed_follow_defaults, value_declareAll_eq_error_iff.mpr ⟨name, hfirst, rfl⟩,
    Logged.events_pure, List.append_nil]
  rfl

/-- Where all extractors are known, all profiles and then the connector's ids are reported. -/
theorem events_ofConfig_of_known (valid : config.validate = .ok ())
    (known : ∀ name ∈ config.extractorNames, catalog.Knows name) :
    (ofConfig config catalog).events = config.tierEvents ++ config.idEvents := by
  obtain ⟨hfallback, hprofiles⟩ := Config.forall_extractorNames_iff.mp known
  have hevents (w : Wiring) : (declareAll catalog w config.profiles).events =
      standardTierEvents w.registry.exposed config.profiles := by
    have happend := events_declareAll_append hprofiles w []
    rwa [List.append_nil, declareAll, Logged.events_pure, List.append_nil] at happend
  rw [ofConfig, valid, Extractor.Catalog.require_eq_ok_iff.mpr ⟨hfallback, rfl⟩,
    Logged.events_bind, events_declareDefaults, value_declareDefaults, Logged.events_bind, hevents,
    exposed_follow_defaults, value_declareAll_eq_ok_iff.mpr ⟨hprofiles, rfl⟩, Logged.events_bind,
    events_declareIds, Logged.events_pure, List.append_nil, ← List.append_assoc]
  rfl

/-- The events that are reported by the time wiring ends: none where the configuration breaks a rule
or the extractor for all protocols is unknown; else those of the profiles, as far as their
extractors are known; and after those of all profiles the ones of the connector's ids. -/
inductive Trace (config : Config) (catalog : Extractor.Catalog) : List Event → Prop
  | invalid {violation : Violation} (broken : config.validate = .error violation) :
      Trace config catalog []
  | fallback (unknown : ¬ catalog.Knows config.defaultExtractor) : Trace config catalog []
  | stopped (valid : config.validate = .ok ()) (known : catalog.Knows config.defaultExtractor)
      {before after : List ProfileSettings} {p : ProfileSettings}
      (stops : StopsAt catalog config.profiles before p after) :
      Trace config catalog (config.withProfiles before).tierEvents
  | wired (valid : config.validate = .ok ())
      (known : ∀ name ∈ config.extractorNames, catalog.Knows name) :
      Trace config catalog (config.tierEvents ++ config.idEvents)

/-- Wiring reports the events of the configuration up to where it ends. -/
theorem trace_ofConfig (config : Config) (catalog : Extractor.Catalog) :
    Trace config catalog (ofConfig config catalog).events := by
  cases valid : config.validate with
  | error violation =>
    have hnone : (ofConfig config catalog).events = [] := by
      rw [ofConfig, valid, Logged.events_pure]
    rw [hnone]
    exact .invalid valid
  | ok checked =>
    by_cases known : catalog.Knows config.defaultExtractor
    · rcases catalog.exists_firstUnknown_or_known config.profiles with
        ⟨name, before, p, after, split, earlier, hname, hunknown⟩ | hprofiles
      · have stops : StopsAt catalog config.profiles before p after :=
          ⟨split, earlier, name, hname, hunknown⟩
        rw [events_ofConfig_of_stopsAt valid known stops]
        exact .stopped valid known stops
      · have hnames := Config.forall_extractorNames_iff.mpr ⟨known, hprofiles⟩
        rw [events_ofConfig_of_known valid hnames]
        exact .wired valid hnames
    · have hnone : (ofConfig config catalog).events = [] := by
        rw [ofConfig, valid, Extractor.Catalog.require_eq_error_iff.mpr ⟨known, rfl⟩,
          Logged.events_pure]
      rw [hnone]
      exact .fallback known

/-! ### What the events tell -/

/-- What an event tells that wiring from a configuration reports: it is for debugging, save for the
number of default profiles that the first standard profile hides; it comes from the component that
is filled; and its fields hold what the configuration says of the profile or the id. -/
inductive Announces (config : Config) : Event → Prop
  | defaultProfile {p : ProfileSettings} (hp : p ∈ config.defaultProfiles)
      (tells : p.defaultEvent.Tells .debug "dataspace-profile::registry"
        [("protocol", .text p.name), ("version", .text p.version)]) :
      Announces config p.defaultEvent
  | extraction {p : ProfileSettings} (hp : p ∈ config.profiles) (hnamed : p.extractor ≠ none)
      (tells : (Event.extraction p.name).Tells .debug "dataspace-profile::dispatch"
        [("protocol", .text p.name)]) :
      Announces config (.extraction p.name)
  | defaultsHidden {p : ProfileSettings} (hp : config.profiles.head? = some p)
      (hdefaults : config.defaultProfiles ≠ [])
      (tells : (Event.defaultsHidden p.name config.defaultProfiles.length).Tells .info
        "dataspace-profile::registry"
        [("protocol", .text p.name), ("hidden", .count config.defaultProfiles.length)]) :
      Announces config (.defaultsHidden p.name config.defaultProfiles.length)
  | standardProfile {p : ProfileSettings} (hp : p ∈ config.profiles)
      (tells : (Event.standardProfile p.name p.version).Tells .debug "dataspace-profile::registry"
        [("protocol", .text p.name), ("version", .text p.version)]) :
      Announces config (.standardProfile p.name p.version)
  | participant {protocol id : String}
      (hid : config.participant.protocols.get? protocol = some id)
      (tells : (Event.participant protocol id).Tells .debug "dataspace-profile::resolver"
        [("protocol", .text protocol), ("participant_id", .text id)]) :
      Announces config (.participant protocol id)

/-- An event of a standard tier tells of an extractor, of hidden profiles or of a profile. -/
theorem mem_standardTierEvents {hidden : Nat} {profiles : List ProfileSettings} {event : Event}
    (h : event ∈ standardTierEvents hidden profiles) :
    (∃ p ∈ profiles, p.extractor ≠ none ∧ event = .extraction p.name) ∨
      (∃ p, profiles.head? = some p ∧ hidden ≠ 0 ∧ event = .defaultsHidden p.name hidden) ∨
      ∃ p ∈ profiles, event = .standardProfile p.name p.version := by
  cases profiles with
  | nil => cases h
  | cons first rest =>
    rw [standardTierEvents, List.mem_append, List.mem_flatMap] at h
    rcases h with h | ⟨p, hp, h⟩
    · rcases mem_standardEvents_iff.mp h with ⟨hnamed, h⟩ | ⟨hhidden, h⟩ | h
      · exact .inl ⟨first, List.mem_cons_self, hnamed, h⟩
      · exact .inr (.inl ⟨first, rfl, hhidden, h⟩)
      · exact .inr (.inr ⟨first, List.mem_cons_self, h⟩)
    · rcases mem_standardEvents_iff.mp h with ⟨hnamed, h⟩ | ⟨hhidden, h⟩ | h
      · exact .inl ⟨p, List.mem_cons_of_mem first hp, hnamed, h⟩
      · exact absurd rfl hhidden
      · exact .inr (.inr ⟨p, List.mem_cons_of_mem first hp, h⟩)

/-- Events on the profiles of a configuration, or on the first of its standard profiles, tell what
the configuration says of them. -/
theorem announces_of_mem_tierEvents {before after : List ProfileSettings}
    (hprofiles : config.profiles = before ++ after) {event : Event}
    (h : event ∈ (config.withProfiles before).tierEvents) : Announces config event := by
  have hmem {p : ProfileSettings} (hp : p ∈ before) : p ∈ config.profiles := by
    rw [hprofiles]
    exact List.mem_append_left after hp
  rcases List.mem_append.mp h with h | h
  · obtain ⟨p, hp, rfl⟩ := List.mem_map.mp h
    exact .defaultProfile hp ⟨rfl, rfl, rfl⟩
  · rcases mem_standardTierEvents h with ⟨p, hp, hnamed, rfl⟩ | ⟨p, hp, hhidden, rfl⟩ | ⟨p, hp, rfl⟩
    · exact .extraction (hmem hp) hnamed ⟨rfl, rfl, rfl⟩
    · have hfirst : before.head? = some p := hp
      have hhead : config.profiles.head? = some p := by
        rw [hprofiles, List.head?_append, hfirst, Option.some_or]
      exact .defaultsHidden hhead (List.ne_nil_of_length_pos (Nat.pos_of_ne_zero hhidden))
        ⟨rfl, rfl, rfl⟩
    · exact .standardProfile (hmem hp) ⟨rfl, rfl, rfl⟩

/-- Every event of a trace tells what the configuration says. -/
theorem Trace.announces {events : List Event} (h : Trace config catalog events) :
    ∀ event ∈ events, Announces config event := by
  intro event hevent
  cases h with
  | invalid | fallback => cases hevent
  | stopped _ _ stops => exact announces_of_mem_tierEvents stops.split hevent
  | wired =>
    rcases List.mem_append.mp hevent with hevent | hevent
    · exact announces_of_mem_tierEvents (List.append_nil _).symm hevent
    · obtain ⟨entry, hentry, rfl⟩ := List.mem_map.mp hevent
      exact .participant (NameMap.mem_entries_iff.mp hentry) ⟨rfl, rfl, rfl⟩

/-! ### A configuration cut short -/

/-- Without some of its standard profiles a configuration still keeps the rules. -/
theorem validate_withProfiles (valid : config.validate = .ok ())
    {profiles : List ProfileSettings} (h : ∀ p ∈ profiles, p ∈ config.profiles) :
    (config.withProfiles profiles).validate = .ok () := by
  have hrules := Config.validate_eq_ok_iff.mp valid
  refine Config.validate_eq_ok_iff.mpr
    ⟨hrules.defaultExtractor, hrules.defaultId, hrules.protocols, ?_, hrules.defaultTier⟩
  intro p hp
  apply hrules.profiles
  rw [List.mem_append] at hp ⊢
  exact hp.imp_right (h p)

/-- Without the first profile that names an unknown extractor and those after it, a configuration
yields a wiring, which reports the same and then the connector's ids. -/
theorem StopsAt.ofConfig_withProfiles (valid : config.validate = .ok ())
    (known : catalog.Knows config.defaultExtractor) {before after : List ProfileSettings}
    {p : ProfileSettings} (h : StopsAt catalog config.profiles before p after) :
    (∃ w, (ofConfig (config.withProfiles before) catalog).value = .ok w) ∧
      (ofConfig (config.withProfiles before) catalog).events =
        (ofConfig config catalog).events ++ config.idEvents := by
  have hvalid : (config.withProfiles before).validate = .ok () := by
    apply validate_withProfiles valid
    intro q hq
    rw [h.split]
    exact List.mem_append_left _ hq
  have hnames : ∀ name ∈ (config.withProfiles before).extractorNames, catalog.Knows name :=
    Config.forall_extractorNames_iff.mpr ⟨known, h.earlier⟩
  refine ⟨⟨_, value_ofConfig_eq_ok_iff.mpr ⟨hvalid, hnames, rfl⟩⟩, ?_⟩
  rw [events_ofConfig_of_known hvalid hnames, events_ofConfig_of_stopsAt valid known h]
  rfl

/-- Closing the registration of a wiring from a configuration reports how many profiles of each tier
the configuration has. -/
theorem events_freeze {w : Wiring} (h : (ofConfig config catalog).value = .ok w) :
    w.freeze.events = [.closed config.defaultProfiles.length config.profiles.length] := by
  obtain ⟨-, -, rfl⟩ := value_ofConfig_eq_ok_iff.mp h
  unfold freeze
  rw [Logged.events_bind, Logged.events_report, Logged.events_pure, List.append_nil,
    declared_registry, Registry.ofCalls_eq, Config.filterMap_default?_calls,
    Config.filterMap_standard?_calls, List.length_map, List.length_map]

end Trace

/-- What wiring from a configuration and a catalog reports: the trace of the configuration, in which
every event tells what the configuration says, and the ids stand by the bytes of their protocols,
each once; the numbers of profiles when registration is closed; and, where it stops at a profile,
what it reports without this profile and those after it, except for the ids. -/
structure Reports (config : Config) (catalog : Extractor.Catalog)
    (outcome : Logged (Except WiringFault Wiring)) : Prop where
  trace : Trace config catalog outcome.events
  announces : ∀ event ∈ outcome.events, Announces config event
  ascending : config.participant.protocols.entries.Pairwise fun a b ↦
    Text.bytes a.1 < Text.bytes b.1
  ids : ∀ protocol id, (protocol, id) ∈ config.participant.protocols.entries ↔
    config.participant.protocols.get? protocol = some id
  closed : ∀ w, outcome.value = .ok w →
    w.freeze.events = [.closed config.defaultProfiles.length config.profiles.length] ∧
    (Event.closed config.defaultProfiles.length config.profiles.length).Tells .info
      "dataspace-profile::bootstrap"
      [("default_profiles", .count config.defaultProfiles.length),
        ("standard_profiles", .count config.profiles.length)]
  cut : config.validate = .ok () → catalog.Knows config.defaultExtractor → ∀ before p after,
    StopsAt catalog config.profiles before p after →
      (∃ w, (ofConfig (config.withProfiles before) catalog).value = .ok w) ∧
      (ofConfig (config.withProfiles before) catalog).events = outcome.events ++ config.idEvents

/-- Wiring from any configuration and any catalog reports the trace of the configuration. -/
theorem ofConfig_reports (config : Config) (catalog : Extractor.Catalog) :
    Reports config catalog (ofConfig config catalog) where
  trace := trace_ofConfig config catalog
  announces := (trace_ofConfig config catalog).announces
  ascending := config.participant.protocols.pairwise_bytes
  ids _ _ := NameMap.mem_entries_iff
  closed _ h := ⟨events_freeze h, rfl, rfl, rfl⟩
  cut valid known _ _ _ := StopsAt.ofConfig_withProfiles valid known

/-- The sample configuration has three standard profiles, and the first hides the default one. -/
example : (ofConfig sampleConfig sampleCatalog).events =
    [.defaultProfile "dsp" "v0.8", .extraction "dsp", .defaultsHidden "dsp" 1,
      .standardProfile "dsp" "2025-1", .standardProfile "dsp" "2024-1", .extraction "default",
      .standardProfile "default" "1", .participant "dsp" "BPNL000000000001"] := by
  decide +kernel

end Wiring

end ConnectorProfiles
