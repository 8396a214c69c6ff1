import ConnectorProfiles.Proofs.Json.Records
import ConnectorProfiles.Settings.Json

/-!
# The schema of settings

What a JSON value denotes as settings, stated as rules over the raw value with its repeated keys.
Every record is an object with known keys only, none of them twice, or the array of its parts in
order. A value is read as exactly the settings that it denotes.
-/

namespace ConnectorProfiles

namespace Json

/-- An absolute address denotes itself. -/
inductive DenotesAddress : Json → Url → Prop
  | string {text : String} {url : Url} (h : Url.parse text = .ok url) :
      DenotesAddress (.string text) url

/-- An array denotes the list of what its items denote. -/
inductive DenotesList {α : Type} (Item : Json → α → Prop) : Json → List α → Prop
  | array {items : List Json} {parts : List α} (each : List.Forall₂ Item items parts) :
      DenotesList Item (.array items) parts

/-- The connector's own ids: none of the two parts has to be there. -/
inductive DenotesParticipant : Json → ParticipantSettings → Prop
  | object {members : List (String × Json)} {p : ParticipantSettings}
      (keys : ∀ member ∈ members, member.1 ∈ ["default_id", "protocols"])
      (defaultId : DenotesOptionalPart DenotesText "anonymous" members "default_id" p.defaultId)
      (protocols : DenotesOptionalPart DenotesTexts .empty members "protocols" p.protocols) :
      DenotesParticipant (.object members) p
  | array {items : List Json} {p : ParticipantSettings} (fit : items.length ≤ 2)
      (defaultId : DenotesOptionalItem DenotesText "anonymous" items 0 p.defaultId)
      (protocols : DenotesOptionalItem DenotesTexts .empty items 1 p.protocols) :
      DenotesParticipant (.array items) p

/-- A profile: name, version and webhook have to be there, and in an array all that is before the
webhook. -/
inductive DenotesProfile : Json → ProfileSettings → Prop
  | object {members : List (String × Json)} {p : ProfileSettings}
      (keys : ∀ member ∈ members,
        member.1 ∈ ["name", "version", "path", "binding", "webhook", "extractor"])
      (name : DenotesPart DenotesText members "name" p.name)
      (version : DenotesPart DenotesText members "version" p.version)
      (path : DenotesOptionalPart DenotesText "/" members "path" p.path)
      (binding : DenotesOptionalPart DenotesText "HTTPS" members "binding" p.binding)
      (webhook : DenotesPart DenotesAddress members "webhook" p.webhook)
      (extractor : DenotesOptionalPart DenotesOptionalText none members "extractor" p.extractor) :
      DenotesProfile (.object members) p
  | array {items : List Json} {p : ProfileSettings} (fit : items.length = 5 ∨ items.length = 6)
      (name : DenotesItem DenotesText items 0 p.name)
      (version : DenotesItem DenotesText items 1 p.version)
      (path : DenotesItem DenotesText items 2 p.path)
      (binding : DenotesItem DenotesText items 3 p.binding)
      (webhook : DenotesItem DenotesAddress items 4 p.webhook)
      (extractor : DenotesOptionalItem DenotesOptionalText none items 5 p.extractor) :
      DenotesProfile (.array items) p

/-- A configuration: none of the four parts has to be there. -/
inductive DenotesConfig : Json → Config → Prop
  | object {members : List (String × Json)} {c : Config}
      (keys : ∀ member ∈ members,
        member.1 ∈ ["default_extractor", "participant", "default_profiles", "profiles"])
      (defaultExtractor : DenotesOptionalPart DenotesText "credential-subject" members
        "default_extractor" c.defaultExtractor)
      (participant : DenotesOptionalPart DenotesParticipant ⟨"anonymous", .empty⟩ members
        "participant" c.participant)
      (defaultProfiles : DenotesOptionalPart (DenotesList DenotesProfile) [] members
        "default_profiles" c.defaultProfiles)
      (profiles : DenotesOptionalPart (DenotesList DenotesProfile) [] members
        "profiles" c.profiles) :
      DenotesConfig (.object members) c
  | array {items : List Json} {c : Config} (fit : items.length ≤ 4)
      (defaultExtractor : DenotesOptionalItem DenotesText "credential-subject" items 0
        c.defaultExtractor)
      (participant : DenotesOptionalItem DenotesParticipant ⟨"anonymous", .empty⟩ items 1
        c.participant)
      (defaultProfiles : DenotesOptionalItem (DenotesList DenotesProfile) [] items 2
        c.defaultProfiles)
      (profiles : DenotesOptionalItem (DenotesList DenotesProfile) [] items 3 c.profiles) :
      DenotesConfig (.array items) c

variable {value : Json}

/-- An address is read from a value that denotes it. -/
theorem read_address_eq_ok_iff {url : Url} :
    Url.read value.toDocument = .ok url ↔ DenotesAddress value url := by
  constructor
  · intro h
    cases value with
    | string text =>
      rw [toDocument, Url.read] at h
      split at h
      · next hparse =>
        rw [← Except.ok.inj h]
        exact .string hparse
      · cases h
    | number number => cases number <;> cases h
    | _ => cases h
  · rintro ⟨h⟩
    rw [toDocument, Url.read, h]

/-- A list is read from a value that denotes the list of what is read from items. -/
theorem read_list_eq_ok_iff {α : Type} {read : Document → Read α} {Item : Json → α → Prop}
    (hitem : ∀ item part, read item.toDocument = .ok part ↔ Item item part) {parts : List α} :
    value.toDocument.listOf read = .ok parts ↔ DenotesList Item value parts := by
  simp only [listOf_toDocument_eq_ok_iff, hitem]
  constructor
  · rintro ⟨items, rfl, hparts⟩
    exact .array hparts
  · rintro ⟨hparts⟩
    exact ⟨_, rfl, hparts⟩

end Json

open Json

/-! ### The connector's own ids -/

namespace ParticipantSettings

variable {p : ParticipantSettings}

/-- The connector's own ids are read from the values that a document gives to their fields. -/
theorem read_eq_ok_iff {document : Document} : read document = .ok p ↔
    ∃ values, shape.Lists document values ∧ shape.Admits values ∧
      defaultIdField.Gives values p.defaultId ∧ protocolsField.Gives values p.protocols := by
  simp only [read, bind_eq_ok_iff, pure_eq_ok_iff]
  refine RecordShape.exists_values_iff (by decide) (fun values h ↦ ?_) fun values h ↦ ?_
  · simp only [shape, List.forall_mem_cons] at h
    obtain ⟨hid, hprotocols, -⟩ := h
    simp only [Field.get_eq_ok_iff hid, Field.get_eq_ok_iff hprotocols]
    constructor
    · rintro ⟨_, hid, _, hprotocols, rfl⟩
      exact ⟨hid, hprotocols⟩
    · rintro ⟨hid, hprotocols⟩
      exact ⟨_, hid, _, hprotocols, rfl⟩
  · simp only [shape, List.forall_mem_cons]
    exact ⟨h.1.given, h.2.given, List.forall_mem_nil _⟩

/-- The fields of the connector's own ids are given their parts. -/
theorem gives_documentsOf_iff {members : List (String × Json)} :
    (defaultIdField.Gives (documentsOf members) p.defaultId ∧
      protocolsField.Gives (documentsOf members) p.protocols) ↔
    DenotesOptionalPart DenotesText "anonymous" members "default_id" p.defaultId ∧
      DenotesOptionalPart DenotesTexts .empty members "protocols" p.protocols := by
  rw [defaultIdField.gives_documentsOf_iff_of_default rfl fun _ _ _ ↦ text_toDocument_eq_ok_iff,
    protocolsField.gives_documentsOf_iff_of_default rfl fun _ _ _ ↦ mapOf_text_toDocument_eq_ok_iff]
  rfl

/-- The connector's own ids are read from a value that denotes them. -/
theorem read_toDocument_eq_ok_iff {value : Json} :
    read value.toDocument = .ok p ↔ DenotesParticipant value p := by
  rw [read_eq_ok_iff]
  cases value with
  | object members =>
    rw [RecordShape.exists_lists_object_iff, gives_documentsOf_iff]
    constructor
    · rintro ⟨keys, defaultId, protocols⟩
      exact .object (keys rfl) defaultId protocols
    · rintro ⟨keys, defaultId, protocols⟩
      exact ⟨fun _ ↦ keys, defaultId, protocols⟩
  | array items =>
    rw [RecordShape.exists_lists_array_iff, gives_documentsOf_iff,
      denotesOptionalPart_zip_iff (i := 0) (by decide) rfl,
      denotesOptionalPart_zip_iff (i := 1) (by decide) rfl]
    constructor
    · rintro ⟨fit, defaultId, protocols⟩
      exact .array fit defaultId protocols
    · rintro (_ | ⟨fit, defaultId, protocols⟩)
      exact ⟨fit, defaultId, protocols⟩
  | null | bool | number | string =>
    exact iff_of_false (RecordShape.not_exists_lists_of_scalar nofun nofun) nofun

end ParticipantSettings

/-! ### Profiles -/

namespace ProfileSettings

variable {p : ProfileSettings}

/-- A profile is read from the values that a document gives to its fields. -/
theorem read_eq_ok_iff {document : Document} : read document = .ok p ↔
    ∃ values, shape.Lists document values ∧ shape.Admits values ∧
      nameField.Gives values p.name ∧ versionField.Gives values p.version ∧
      pathField.Gives values p.path ∧ bindingField.Gives values p.binding ∧
      webhookField.Gives values p.webhook ∧ extractorField.Gives values p.extractor := by
  simp only [read, bind_eq_ok_iff, pure_eq_ok_iff]
  refine RecordShape.exists_values_iff (by decide) (fun values h ↦ ?_) fun values h ↦ ?_
  · simp only [shape, List.forall_mem_cons] at h
    obtain ⟨hname, hversion, hpath, hbinding, hwebhook, hextractor, -⟩ := h
    simp only [Field.get_eq_ok_iff hname, Field.get_eq_ok_iff hversion,
      Field.get_eq_ok_iff hpath, Field.get_eq_ok_iff hbinding, Field.get_eq_ok_iff hwebhook,
      Field.get_eq_ok_iff hextractor]
    constructor
    · rintro ⟨_, hname, _, hversion, _, hpath, _, hbinding, _, hwebhook, _, hextractor, rfl⟩
      exact ⟨hname, hversion, hpath, hbinding, hwebhook, hextractor⟩
    · rintro ⟨hname, hversion, hpath, hbinding, hwebhook, hextractor⟩
      exact ⟨_, hname, _, hversion, _, hpath, _, hbinding, _, hwebhook, _, hextractor, rfl⟩
  · obtain ⟨hname, hversion, hpath, hbinding, hwebhook, hextractor⟩ := h
    simp only [shape, List.forall_mem_cons]
    exact ⟨hname.given, hversion.given, hpath.given, hbinding.given, hwebhook.given,
      hextractor.given, List.forall_mem_nil _⟩

/-- The fields of a profile are given its parts. -/
theorem gives_documentsOf_iff {members : List (String × Json)} :
    (nameField.Gives (documentsOf members) p.name ∧
      versionField.Gives (documentsOf members) p.version ∧
      pathField.Gives (documentsOf members) p.path ∧
      bindingField.Gives (documentsOf members) p.binding ∧
      webhookField.Gives (documentsOf members) p.webhook ∧
      extractorField.Gives (documentsOf members) p.extractor) ↔
    DenotesPart DenotesText members "name" p.name ∧
      DenotesPart DenotesText members "version" p.version ∧
      DenotesOptionalPart DenotesText "/" members "path" p.path ∧
      DenotesOptionalPart DenotesText "HTTPS" members "binding" p.binding ∧
      DenotesPart DenotesAddress members "webhook" p.webhook ∧
      DenotesOptionalPart DenotesOptionalText none members "extractor" p.extractor := by
  rw [nameField.gives_documentsOf_iff rfl fun _ _ _ ↦ text_toDocument_eq_ok_iff,
    versionField.gives_documentsOf_iff rfl fun _ _ _ ↦ text_toDocument_eq_ok_iff,
    pathField.gives_documentsOf_iff_of_default rfl
      fun _ _ _ ↦ text_toDocument_eq_ok_iff,
    bindingField.gives_documentsOf_iff_of_default rfl
      fun _ _ _ ↦ text_toDocument_eq_ok_iff,
    webhookField.gives_documentsOf_iff rfl fun _ _ _ ↦ read_address_eq_ok_iff,
    extractorField.gives_documentsOf_iff_of_default rfl
      fun _ _ _ ↦ optional_text_toDocument_eq_ok_iff]
  rfl

/-- A profile is read from a value that denotes it. -/
theorem read_toDocument_eq_ok_iff {value : Json} :
    read value.toDocument = .ok p ↔ DenotesProfile value p := by
  rw [read_eq_ok_iff]
  cases value with
  | object members =>
    rw [RecordShape.exists_lists_object_iff, gives_documentsOf_iff]
    constructor
    · rintro ⟨keys, name, version, path, binding, webhook, extractor⟩
      exact .object (keys rfl) name version path binding webhook extractor
    · rintro ⟨keys, name, version, path, binding, webhook, extractor⟩
      exact ⟨fun _ ↦ keys, name, version, path, binding, webhook, extractor⟩
  | array items =>
    rw [RecordShape.exists_lists_array_iff, gives_documentsOf_iff,
      denotesPart_zip_iff (i := 0) (by decide) rfl, denotesPart_zip_iff (i := 1) (by decide) rfl,
      denotesOptionalPart_zip_iff (i := 2) (by decide) rfl,
      denotesOptionalPart_zip_iff (i := 3) (by decide) rfl,
      denotesPart_zip_iff (i := 4) (by decide) rfl,
      denotesOptionalPart_zip_iff (i := 5) (by decide) rfl]
    -- The webhook is never missing, so nothing before it is.
    constructor
    · rintro ⟨hfit, name, version, path, binding, webhook, extractor⟩
      have hlength := webhook.lt
      rw [denotesOptionalItem_iff_of_lt (by omega)] at path binding
      exact .array (by change items.length ≤ 6 at hfit; omega) name version path binding webhook
        extractor
    · rintro (_ | ⟨hfit, name, version, path, binding, webhook, extractor⟩)
      rw [denotesOptionalItem_iff_of_lt path.lt, denotesOptionalItem_iff_of_lt binding.lt]
      exact ⟨by change items.length ≤ 6; omega, name, version, path, binding, webhook, extractor⟩
  | null | bool | number | string =>
    exact iff_of_false (RecordShape.not_exists_lists_of_scalar nofun nofun) nofun

end ProfileSettings

/-! ### Configurations -/

namespace Config

variable {c : Config}

/-- A configuration is read from the values that a document gives to its fields. -/
theorem read_eq_ok_iff {document : Document} : read document = .ok c ↔
    ∃ values, shape.Lists document values ∧ shape.Admits values ∧
      defaultExtractorField.Gives values c.defaultExtractor ∧
      participantField.Gives values c.participant ∧
      defaultProfilesField.Gives values c.defaultProfiles ∧
      profilesField.Gives values c.profiles := by
  simp only [read, bind_eq_ok_iff, pure_eq_ok_iff]
  refine RecordShape.exists_values_iff (by decide) (fun values h ↦ ?_) fun values h ↦ ?_
  · simp only [shape, List.forall_mem_cons] at h
    obtain ⟨hextractor, hparticipant, hdefaults, hprofiles, -⟩ := h
    simp only [Field.get_eq_ok_iff hextractor, Field.get_eq_ok_iff hparticipant,
      Field.get_eq_ok_iff hdefaults, Field.get_eq_ok_iff hprofiles]
    constructor
    · rintro ⟨_, hextractor, _, hparticipant, _, hdefaults, _, hprofiles, rfl⟩
      exact ⟨hextractor, hparticipant, hdefaults, hprofiles⟩
    · rintro ⟨hextractor, hparticipant, hdefaults, hprofiles⟩
      exact ⟨_, hextractor, _, hparticipant, _, hdefaults, _, hprofiles, rfl⟩
  · obtain ⟨hextractor, hparticipant, hdefaults, hprofiles⟩ := h
    simp only [shape, List.forall_mem_cons]
    exact ⟨hextractor.given, hparticipant.given, hdefaults.given, hprofiles.given,
      List.forall_mem_nil _⟩

/-- The fields of a configuration are given its parts. -/
theorem gives_documentsOf_iff {members : List (String × Json)} :
    (defaultExtractorField.Gives (documentsOf members) c.defaultExtractor ∧
      participantField.Gives (documentsOf members) c.participant ∧
      defaultProfilesField.Gives (documentsOf members) c.defaultProfiles ∧
      profilesField.Gives (documentsOf members) c.profiles) ↔
    DenotesOptionalPart DenotesText "credential-subject" members "default_extractor"
        c.defaultExtractor ∧
      DenotesOptionalPart DenotesParticipant ⟨"anonymous", .empty⟩ members "participant"
        c.participant ∧
      DenotesOptionalPart (DenotesList DenotesProfile) [] members "default_profiles"
        c.defaultProfiles ∧
      DenotesOptionalPart (DenotesList DenotesProfile) [] members "profiles" c.profiles := by
  have hprofiles (value : Json) (profiles : List ProfileSettings) :
      value.toDocument.listOf ProfileSettings.read = .ok profiles ↔
        DenotesList DenotesProfile value profiles :=
    read_list_eq_ok_iff fun _ _ ↦ ProfileSettings.read_toDocument_eq_ok_iff
  rw [defaultExtractorField.gives_documentsOf_iff_of_default rfl
      fun _ _ _ ↦ text_toDocument_eq_ok_iff,
    participantField.gives_documentsOf_iff_of_default rfl
      fun _ _ _ ↦ ParticipantSettings.read_toDocument_eq_ok_iff,
    defaultProfilesField.gives_documentsOf_iff_of_default rfl
      fun _ _ ↦ hprofiles _,
    profilesField.gives_documentsOf_iff_of_default rfl fun _ _ ↦ hprofiles _]
  rfl

/-- A configuration is read from a value that denotes it. -/
theorem read_toDocument_eq_ok_iff {value : Json} :
    read value.toDocument = .ok c ↔ DenotesConfig value c := by
  rw [read_eq_ok_iff]
  cases value with
  | object members =>
    rw [RecordShape.exists_lists_object_iff, gives_documentsOf_iff]
    constructor
    · rintro ⟨keys, defaultExtractor, participant, defaultProfiles, profiles⟩
      exact .object (keys rfl) defaultExtractor participant defaultProfiles profiles
    · rintro ⟨keys, defaultExtractor, participant, defaultProfiles, profiles⟩
      exact ⟨fun _ ↦ keys, defaultExtractor, participant, defaultProfiles, profiles⟩
  | array items =>
    rw [RecordShape.exists_lists_array_iff, gives_documentsOf_iff,
      denotesOptionalPart_zip_iff (i := 0) (by decide) rfl,
      denotesOptionalPart_zip_iff (i := 1) (by decide) rfl,
      denotesOptionalPart_zip_iff (i := 2) (by decide) rfl,
      denotesOptionalPart_zip_iff (i := 3) (by decide) rfl]
    constructor
    · rintro ⟨fit, defaultExtractor, participant, defaultProfiles, profiles⟩
      exact .array fit defaultExtractor participant defaultProfiles profiles
    · rintro (_ | ⟨fit, defaultExtractor, participant, defaultProfiles, profiles⟩)
      exact ⟨fit, defaultExtractor, participant, defaultProfiles, profiles⟩
  | null | bool | number | string =>
    exact iff_of_false (RecordShape.not_exists_lists_of_scalar nofun nofun) nofun

end Config

end ConnectorProfiles
