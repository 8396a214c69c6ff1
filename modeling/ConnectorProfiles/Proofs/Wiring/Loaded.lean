import ConnectorProfiles.Proofs.Settings.Loading
import ConnectorProfiles.Proofs.Wiring.Outcome

/-!
# From a text to a wiring

Loading, the rules and the wiring fit together. A configuration is loaded exactly when its text
decodes and keeps the rules; the wiring then finds no rule broken; and in what it wires, somebody is
named under every protocol and every profile has a name and a version.
-/

namespace ConnectorProfiles

/-- What comes of a text of the given origin: the configuration that it decodes as, if that keeps
the rules; the rule that this breaks otherwise; or why the text does not decode. The message of a
fault shows what it is about. -/
structure Config.Loads (text origin : String) (outcome : Except ConfigFault Config) : Prop where
  accepted : ∀ c, outcome = .ok c ↔ Toml.decode read text = .ok c ∧ c.validate = .ok ()
  invalid : ∀ violation, outcome = .error (.invalid violation) ↔
    ∃ c, Toml.decode read text = .ok c ∧ c.validate = .error violation
  undecodable : ∀ fault, outcome = .error (.ofFault origin fault) ↔
    Toml.decode read text = .error fault
  told : ∀ fault, outcome = .error fault → Text.Shows '\'' fault.shown fault.message

/-- Reading a text follows from what it decodes as. -/
theorem Config.loads_parse (text origin : String) : Loads text origin (parse text origin) :=
  ⟨fun _ ↦ parse_eq_ok_iff, fun _ ↦ parse_eq_invalid_iff, fun _ ↦ parse_eq_ofFault_iff,
    fun fault _ ↦ fault.shows_message⟩

/-- A configuration comes from a text or from a file. -/
def Config.Loaded (c : Config) : Prop :=
  (∃ text, ofToml text = .ok c) ∨ ∃ readFile path, load readFile path = .ok c

/-- A loaded configuration breaks no rule. -/
theorem Config.Loaded.validate_eq {c : Config} (h : c.Loaded) : c.validate = .ok () := by
  rcases h with ⟨text, h⟩ | ⟨readFile, path, h⟩
  · exact (parse_eq_ok_iff.mp h).2
  · obtain ⟨text, h⟩ := exists_parse_of_load h
    exact (parse_eq_ok_iff.mp h).2

namespace Wiring

/-- The connector has an id under every protocol that is not blank, and no profile has a blank name
or a blank version. -/
structure NothingBlank (w : Wiring) : Prop where
  ids : ∀ protocol, Text.NotBlank (w.participants.resolve protocol)
  profiles : ∀ profile ∈ w.registry.defaults ++ w.registry.standards,
    Text.NotBlank profile.name ∧ Text.NotBlank profile.protocolVersion.version

/-- The tiers of the declared components are the profiles of the configuration. -/
theorem declared_tiers (config : Config) (catalog : Extractor.Catalog) :
    (declared config catalog).registry.defaults ++ (declared config catalog).registry.standards =
      (config.defaultProfiles ++ config.profiles).map ProfileSettings.toProfile := by
  rw [declared_registry, Registry.ofCalls_eq, Config.filterMap_default?_calls,
    Config.filterMap_standard?_calls, List.map_append]

/-- Where a configuration keeps the rules, nothing in the components that it declares is blank. -/
theorem nothingBlank_declared {config : Config} (h : config.KeepsRules)
    (catalog : Extractor.Catalog) : (declared config catalog).NothingBlank where
  ids protocol := by
    have hresolve : (declared config catalog).participants.resolve protocol =
        (config.participant.protocols.get? protocol).getD config.participant.defaultId := rfl
    rw [hresolve]
    cases hid : config.participant.protocols.get? protocol with
    | none => exact h.defaultId
    | some id => exact (h.protocols protocol id hid).2
  profiles := by
    rw [declared_tiers]
    intro profile hprofile
    obtain ⟨p, hp, rfl⟩ := List.mem_map.mp hprofile
    exact ⟨(h.profiles p hp).name, (h.profiles p hp).version⟩

/-- Loading, the rules and the wiring compose. A text and a file that holds it load alike, up to the
origin in faults of decoding; for a loaded configuration the wiring reports no broken rule, whatever
the catalog; and nothing in a wiring from it is blank. -/
theorem loading_composes_with_wiring (text : String) :
    Config.Loads text Config.inlineOrigin (Config.ofToml text) ∧
    (∀ readFile path, readFile path = .ok text.toUTF8.data.toList →
      Config.Loads text path (Config.load readFile path) ∧
      Config.load readFile path = (Config.ofToml text).mapError (·.withOrigin path)) ∧
    ∀ config : Config, config.Loaded → ∀ catalog,
      (∀ violation, (ofConfig config catalog).value ≠ .error (.config violation)) ∧
      ∀ w, (ofConfig config catalog).value = .ok w → w.NothingBlank := by
  refine ⟨Config.loads_parse _ _, fun readFile path hfile ↦ ?_,
    fun config hloaded catalog ↦ ⟨fun violation h ↦ ?_, fun w h ↦ ?_⟩⟩
  · rw [Config.load_eq_parse hfile]
    exact ⟨Config.loads_parse _ _, Config.parse_eq_mapError _ _ _⟩
  · have hbroken := refused_invalid_iff.mp (value_ofConfig_eq_error_iff.mp h)
    rw [hloaded.validate_eq] at hbroken
    cases hbroken
  · obtain ⟨valid, -, rfl⟩ := value_ofConfig_eq_ok_iff.mp h
    exact nothingBlank_declared (Config.validate_eq_ok_iff.mp valid) catalog

/-- A text with an id for all protocols and a standard profile. -/
def sampleText : String :=
  "[participant]\ndefault_id = \"did:web:provider\"\n\n[[profiles]]\nname = \"dsp\"\n" ++
    "version = \"2025-1\"\nwebhook = \"https://[::1]/protocol\"\n"

/-- The configuration that the sample text holds. -/
def sampleLoaded : Config where
  defaultExtractor := "credential-subject"
  participant := ⟨"did:web:provider", .empty⟩
  defaultProfiles := []
  profiles := [⟨"dsp", "2025-1", "/", "HTTPS",
    ⟨"https", some ⟨"", none, .ipv6 ⟨[0, 0, 0, 0, 0, 0, 0, 1]⟩, none⟩, .segments ["protocol"],
      none, none⟩, none⟩]

/-- The sample text loads, from a file as well, and is wired with an id under every protocol. -/
theorem sample_text_is_wired :
    Config.ofToml sampleText = .ok sampleLoaded ∧
    Config.load (Folder.read ⟨some ("connector.toml", sampleText.toUTF8.data.toList)⟩)
      "connector.toml" = .ok sampleLoaded ∧
    (ofConfig sampleLoaded .builtins).value = .ok (declared sampleLoaded .builtins) ∧
    (declared sampleLoaded .builtins).NothingBlank := by
  have htext : Config.ofToml sampleText = .ok sampleLoaded := by decide +kernel
  obtain ⟨-, hfile, hwiring⟩ := loading_composes_with_wiring sampleText
  have hread (bytes : List UInt8) :
      Folder.read ⟨some ("connector.toml", bytes)⟩ "connector.toml" = .ok bytes := by
    have hname : ¬ Folder.maxName < "connector.toml".utf8ByteSize := by decide
    simp [Folder.read, hname]
  obtain ⟨-, hload⟩ := hfile _ _ (hread _)
  have hwired : (ofConfig sampleLoaded .builtins).value =
      .ok (declared sampleLoaded .builtins) := by
    refine value_ofConfig_eq_ok_iff.mpr ⟨by decide +kernel, fun name hname ↦ ?_, rfl⟩
    obtain rfl : name = "credential-subject" := List.mem_singleton.mp hname
    exact ⟨_, rfl⟩
  refine ⟨htext, ?_, hwired, (hwiring _ (.inl ⟨_, htext⟩) _).2 _ hwired⟩
  rw [hload, htext]
  rfl

end Wiring

end ConnectorProfiles
