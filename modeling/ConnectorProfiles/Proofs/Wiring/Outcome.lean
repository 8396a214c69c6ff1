import ConnectorProfiles.Proofs.Messages
import ConnectorProfiles.Proofs.Settings.Rules
import ConnectorProfiles.Proofs.Wiring.Calls

/-!
# Whether a configuration yields a wiring

A configuration is judged in three steps: by its rules, by the extractor for all protocols, and by
the extractors that its standard profiles name, in their order. The first step that fails says what
is reported. Where all succeed, every extractor that the configuration names anywhere is in place.
-/

namespace ConnectorProfiles

/-- The extractors that a configuration names anywhere, with those of its default profiles. -/
def Config.mentionedExtractors (c : Config) : List String :=
  c.defaultExtractor :: (c.defaultProfiles ++ c.profiles).filterMap (·.extractor)

namespace Extractor.Catalog

variable {catalog : Extractor.Catalog}

/-- The first profile that names an unknown extractor names this one. -/
def FirstUnknown (catalog : Extractor.Catalog) (profiles : List ProfileSettings)
    (name : String) : Prop :=
  ∃ before p after, profiles = before ++ p :: after ∧
    (∀ q ∈ before, ∀ other, q.extractor = some other → catalog.Knows other) ∧
    p.extractor = some name ∧ ¬ catalog.Knows name

/-- Where an extractor is required, exactly an unknown name is reported. -/
theorem require_eq_error_iff {name : String} {fault : Fault} :
    catalog.require name = .error fault ↔
      ¬ catalog.Knows name ∧ fault = .unknownExtractor name := by
  rw [require, Knows]
  cases catalog.get? name with
  | none => simp [eq_comm]
  | some found => simp

/-- The first profile to name an unknown extractor is the first of all or the first of the rest. -/
theorem firstUnknown_cons_iff {p : ProfileSettings} {rest : List ProfileSettings} {name : String} :
    catalog.FirstUnknown (p :: rest) name ↔ (p.extractor = some name ∧ ¬ catalog.Knows name) ∨
      (∀ other, p.extractor = some other → catalog.Knows other) ∧
        catalog.FirstUnknown rest name := by
  constructor
  · rintro ⟨before, q, after, h, hbefore, hnamed, hunknown⟩
    cases before with
    | nil =>
      obtain ⟨rfl, rfl⟩ := List.cons.inj h
      exact .inl ⟨hnamed, hunknown⟩
    | cons first before =>
      obtain ⟨rfl, rfl⟩ := List.cons.inj h
      obtain ⟨hfirst, hbefore⟩ := List.forall_mem_cons.mp hbefore
      exact .inr ⟨hfirst, before, q, after, rfl, hbefore, hnamed, hunknown⟩
  · rintro (⟨hnamed, hunknown⟩ | ⟨hknown, before, q, after, rfl, hbefore, hnamed, hunknown⟩)
    · exact ⟨[], p, rest, rfl, List.forall_mem_nil _, hnamed, hunknown⟩
    · exact ⟨p :: before, q, after, rfl, List.forall_mem_cons.mpr ⟨hknown, hbefore⟩, hnamed,
        hunknown⟩

/-- A profile that names an unknown extractor comes first, or all that are named are known. -/
theorem exists_firstUnknown_or_known (catalog : Extractor.Catalog)
    (profiles : List ProfileSettings) : (∃ name, catalog.FirstUnknown profiles name) ∨
      ∀ p ∈ profiles, ∀ name, p.extractor = some name → catalog.Knows name := by
  induction profiles with
  | nil => exact .inr (List.forall_mem_nil _)
  | cons p rest ih =>
    simp only [firstUnknown_cons_iff, List.forall_mem_cons]
    by_cases hknown : ∀ name, p.extractor = some name → catalog.Knows name
    · rcases ih with ⟨name, hname⟩ | hrest
      · exact .inl ⟨name, .inr ⟨hknown, hname⟩⟩
      · exact .inr ⟨hknown, hrest⟩
    · push Not at hknown
      obtain ⟨name, hnamed, hunknown⟩ := hknown
      exact .inl ⟨name, .inl ⟨hnamed, hunknown⟩⟩

end Extractor.Catalog

/-- Where no default profile names an extractor, all that are named must be found. -/
theorem Config.mentionedExtractors_eq {c : Config}
    (h : ∀ p ∈ c.defaultProfiles, p.extractor = none) :
    c.mentionedExtractors = c.extractorNames := by
  have hnone : c.defaultProfiles.filterMap (·.extractor) = [] := List.filterMap_eq_nil_iff.mpr h
  rw [mentionedExtractors, extractorNames, List.filterMap_append, hnone, List.nil_append,
    namedExtractors, List.map_filterMap]
  simp [Function.comp_def]

namespace Wiring

variable {config : Config} {catalog : Extractor.Catalog}

/-- The extractor of a profile is not found exactly when it names an unknown one. -/
theorem mapM_require_eq_error_iff {named : Option String} {fault : Extractor.Fault} :
    named.mapM catalog.require = .error fault ↔
      ∃ name, named = some name ∧ ¬ catalog.Knows name ∧ fault = .unknownExtractor name := by
  cases named with
  | none => simp [pure, Except.pure]
  | some name =>
    cases hfound : catalog.require name with
    | error other =>
      obtain ⟨hunknown, rfl⟩ := Extractor.Catalog.require_eq_error_iff.mp hfound
      simp [hfound, Functor.map, Except.map, hunknown, eq_comm]
    | ok extractor =>
      have hknown := (Extractor.Catalog.require_eq_ok_iff.mp hfound).1
      simp [hfound, Functor.map, Except.map, hknown]

/-- Declaring the standard profiles stops at the first that names an unknown extractor. -/
theorem value_declareAll_eq_error_iff {w : Wiring} {profiles : List ProfileSettings}
    {fault : WiringFault} : (declareAll catalog w profiles).value = .error fault ↔
      ∃ name, catalog.FirstUnknown profiles name ∧
        fault = .extractor (.unknownExtractor name) := by
  induction profiles generalizing w with
  | nil => simp [declareAll, Extractor.Catalog.FirstUnknown]
  | cons p rest ih =>
    simp only [Extractor.Catalog.firstUnknown_cons_iff]
    cases hfound : p.extractor.mapM catalog.require with
    | error cause =>
      obtain ⟨name, hnamed, hunknown, rfl⟩ := mapM_require_eq_error_iff.mp hfound
      rw [declareAll, hfound]
      simp [hnamed, hunknown, eq_comm]
    | ok extractor =>
      obtain ⟨hknown, -⟩ := mapM_require_eq_ok_iff.mp hfound
      rw [declareAll, hfound, Logged.value_bind, ih]
      refine exists_congr fun name ↦ and_congr_left fun _ ↦ ?_
      rw [and_iff_right hknown]
      exact (or_iff_right fun h ↦ h.2 (hknown name h.1)).symm

/-- A valid configuration mentions exactly the extractors that it must find. -/
theorem mentionedExtractors_eq_of_validate (h : config.validate = .ok ()) :
    config.mentionedExtractors = config.extractorNames :=
  Config.mentionedExtractors_eq (Config.validate_eq_ok_iff.mp h).defaultTier

/-- The fault that is reported instead of a wiring. -/
inductive Refused (config : Config) (catalog : Extractor.Catalog) : WiringFault → Prop
  | invalid {violation : Violation} (h : config.validate = .error violation) :
      Refused config catalog (.config violation)
  | fallback (valid : config.validate = .ok ())
      (unknown : ¬ catalog.Knows config.defaultExtractor) :
      Refused config catalog (.extractor (.unknownExtractor config.defaultExtractor))
  | named (valid : config.validate = .ok ()) (known : catalog.Knows config.defaultExtractor)
      {name : String} (first : catalog.FirstUnknown config.profiles name) :
      Refused config catalog (.extractor (.unknownExtractor name))

/-- The wiring has every extractor that the configuration names anywhere: one for all protocols, and
the others for the protocols of the standard profiles that name them, installed in their order. So a
protocol has the extractor of the name that the configuration resolves it to, in the registry and in
the dispatch. -/
structure HasExtractors (config : Config) (catalog : Extractor.Catalog) (w : Wiring) : Prop where
  mentioned : config.mentionedExtractors = config.defaultExtractor ::
    config.namedExtractors.map (·.2)
  registry : w.registry.extractors =
    (Extractor.Table.new (catalog.lookup config.defaultExtractor)).changeAll
      (config.installs catalog)
  dispatch : w.dispatch.extractors =
    (Extractor.Table.new (catalog.lookup config.defaultExtractor)).changeAll
      (config.installs catalog)
  resolves : ∀ protocol, ∃ name,
    Extractor.Resolves config.defaultExtractor config.namedExtractors protocol name ∧
      catalog.get? name = some (w.registry.extractors.resolve protocol) ∧
      catalog.get? name = some (w.dispatch.extractors.resolve protocol)

/-- The declared components have every extractor that a valid configuration names, when all are
known. -/
theorem hasExtractors_declared (valid : config.validate = .ok ())
    (known : ∀ name ∈ config.extractorNames, catalog.Knows name) :
    (declared config catalog).HasExtractors config catalog where
  mentioned := mentionedExtractors_eq_of_validate valid
  registry := declared_registry_extractors config catalog
  dispatch := declared_dispatch_extractors config catalog
  resolves protocol := by
    obtain ⟨name, hname, hextractor⟩ := exists_resolves_installed known protocol
    rw [declared_registry_extractors, declared_dispatch_extractors]
    exact ⟨name, hname, hextractor, hextractor⟩

section Refused

variable {fault : WiringFault}

/-- A broken rule refuses whatever the catalog holds. -/
theorem refused_invalid_iff {violation : Violation} :
    Refused config catalog (.config violation) ↔ config.validate = .error violation := by
  constructor
  · intro h
    cases h with
    | invalid h => exact h
  · exact .invalid

/-- Where the rules are kept, the extractor for all protocols refuses when it is unknown. -/
theorem refused_fallback_iff (valid : config.validate = .ok ()) :
    Refused config catalog (.extractor (.unknownExtractor config.defaultExtractor)) ↔
      ¬ catalog.Knows config.defaultExtractor := by
  constructor
  · intro h
    cases h with
    | fallback _ unknown => exact unknown
    | named _ _ first =>
      obtain ⟨_, _, _, -, -, -, hunknown⟩ := first
      exact hunknown
  · exact .fallback valid

/-- Where the extractor for all protocols is known, the first unknown one of a profile refuses. -/
theorem refused_iff_firstUnknown (valid : config.validate = .ok ())
    (known : catalog.Knows config.defaultExtractor) :
    Refused config catalog fault ↔ ∃ name, catalog.FirstUnknown config.profiles name ∧
      fault = .extractor (.unknownExtractor name) := by
  constructor
  · intro h
    cases h with
    | invalid h =>
      rw [valid] at h
      cases h
    | fallback _ unknown => exact absurd known unknown
    | named _ _ first => exact ⟨_, first, rfl⟩
  · rintro ⟨name, first, rfl⟩
    exact .named valid known first

/-- What refuses a configuration is reported. -/
theorem Refused.value_ofConfig (h : Refused config catalog fault) :
    (ofConfig config catalog).value = .error fault := by
  cases h with
  | invalid h =>
    rw [ofConfig, h]
    rfl
  | fallback valid unknown =>
    rw [ofConfig, valid, Extractor.Catalog.require_eq_error_iff.mpr ⟨unknown, rfl⟩]
    rfl
  | named valid known first =>
    rw [ofConfig, valid, Extractor.Catalog.require_eq_ok_iff.mpr ⟨known, rfl⟩, Logged.value_bind,
      Logged.value_bind, value_declareAll_eq_error_iff.mpr ⟨_, first, rfl⟩]
    rfl

/-- A configuration is refused, or it keeps the rules and names known extractors. -/
theorem refused_or (config : Config) (catalog : Extractor.Catalog) :
    (∃ fault, Refused config catalog fault) ∨
      config.validate = .ok () ∧ ∀ name ∈ config.extractorNames, catalog.Knows name := by
  rw [Config.forall_extractorNames_iff]
  cases valid : config.validate with
  | error violation => exact .inl ⟨_, .invalid valid⟩
  | ok checked =>
    by_cases known : catalog.Knows config.defaultExtractor
    · rcases catalog.exists_firstUnknown_or_known config.profiles with ⟨name, first⟩ | hprofiles
      · exact .inl ⟨_, .named valid known first⟩
      · exact .inr ⟨rfl, known, hprofiles⟩
    · exact .inl ⟨_, .fallback valid known⟩

/-- A fault is reported exactly when it refuses the configuration. -/
theorem value_ofConfig_eq_error_iff :
    (ofConfig config catalog).value = .error fault ↔ Refused config catalog fault := by
  refine ⟨fun h ↦ ?_, Refused.value_ofConfig⟩
  rcases refused_or config catalog with ⟨other, hother⟩ | ⟨valid, known⟩
  · rw [hother.value_ofConfig] at h
    obtain rfl := Except.error.inj h
    exact hother
  · rw [value_ofConfig_eq_ok_iff.mpr ⟨valid, known, rfl⟩] at h
    cases h

end Refused

/-- How a configuration and a catalog decide the outcome of wiring. A broken rule is reported
whatever the catalog holds; then an unknown extractor for all protocols; then the first unknown one
that a standard profile names; and in all other cases there is a wiring. So there is one exactly
when the rules are kept and every extractor named anywhere is known, and it has all of them. The
message of a fault shows the protocol, the profile or the extractor that it is about. -/
structure Decided (config : Config) (catalog : Extractor.Catalog)
    (outcome : Except WiringFault Wiring) : Prop where
  invalid : ∀ violation, outcome = .error (.config violation) ↔ config.validate = .error violation
  fallback : config.validate = .ok () →
    (outcome = .error (.extractor (.unknownExtractor config.defaultExtractor)) ↔
      ¬ catalog.Knows config.defaultExtractor)
  named : config.validate = .ok () → catalog.Knows config.defaultExtractor → ∀ fault,
    outcome = .error fault ↔ ∃ name, catalog.FirstUnknown config.profiles name ∧
      fault = .extractor (.unknownExtractor name)
  otherwise : config.validate = .ok () → catalog.Knows config.defaultExtractor →
    (¬ ∃ name, catalog.FirstUnknown config.profiles name) → ∃ w, outcome = .ok w
  wired : (∃ w, outcome = .ok w) ↔
    config.validate = .ok () ∧ ∀ name ∈ config.mentionedExtractors, catalog.Knows name
  inPlace : ∀ w, outcome = .ok w → w.HasExtractors config catalog
  told : ∀ fault, outcome = .error fault →
    Text.Shows '\'' (fault.named.map (Text.between "'")) fault.message

/-- The outcome of wiring is decided by the rules first, then by the extractor for all protocols,
and then by the extractors of the standard profiles in their order. -/
theorem ofConfig_decided (config : Config) (catalog : Extractor.Catalog) :
    Decided config catalog (ofConfig config catalog).value where
  invalid violation := value_ofConfig_eq_error_iff.trans refused_invalid_iff
  fallback valid := value_ofConfig_eq_error_iff.trans (refused_fallback_iff valid)
  named valid known fault :=
    value_ofConfig_eq_error_iff.trans (refused_iff_firstUnknown valid known)
  otherwise valid known hnone := by
    have hprofiles := (catalog.exists_firstUnknown_or_known config.profiles).resolve_left hnone
    have hnames := Config.forall_extractorNames_iff.mpr ⟨known, hprofiles⟩
    exact ⟨_, value_ofConfig_eq_ok_iff.mpr ⟨valid, hnames, rfl⟩⟩
  wired := by
    simp only [value_ofConfig_eq_ok_iff]
    constructor
    · rintro ⟨w, valid, hnames, -⟩
      rw [mentionedExtractors_eq_of_validate valid]
      exact ⟨valid, hnames⟩
    · rintro ⟨valid, hnames⟩
      rw [mentionedExtractors_eq_of_validate valid] at hnames
      exact ⟨_, valid, hnames, rfl⟩
  inPlace w h := by
    obtain ⟨valid, known, rfl⟩ := value_ofConfig_eq_ok_iff.mp h
    exact hasExtractors_declared valid known
  told fault _ := fault.shows_message

end Wiring

end ConnectorProfiles
