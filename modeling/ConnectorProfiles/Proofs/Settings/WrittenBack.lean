import ConnectorProfiles.Proofs.Json.Records
import ConnectorProfiles.Proofs.Json.Written
import ConnectorProfiles.Settings.Load
import ConnectorProfiles.Wiring

/-!
# Settings that are written are read back

Settings and profiles have a JSON form, and from it they are read as they were: every field is
written under the name under which it is read, and none is left to its default. Only an address has
a syntax of its own, so it has to be read back from its text for what holds it to be read back.
-/

namespace ConnectorProfiles

open Json

/-- The address is read back from its text. -/
def Url.Stable (u : Url) : Prop := Url.parse u.render = .ok u

/-- From its JSON form, as a value and as a text, something is read as it was. -/
structure ReadsBack {α : Type} (read : Document → Read α) (toJson : α → Json) (a : α) : Prop where
  value : read (toJson a).toDocument = .ok a
  text : JsonText.decode read (toJson a).render = .ok a

variable {α : Type}

/-- What is read from its form without numbers as a value is read from it as a text. -/
theorem ReadsBack.of_numberFree {read : Document → Read α} {toJson : α → Json} {a : α}
    (hfree : (toJson a).NumberFree) (h : read (toJson a).toDocument = .ok a) :
    ReadsBack read toJson a :=
  ⟨h, (JsonText.decode_render hfree read).trans h⟩

/-- A stable address is read back. -/
theorem Url.read_toJson {u : Url} (h : u.Stable) : read u.toJson.toDocument = .ok u := by
  rw [toJson, toDocument, read, h]

/-! ### Profiles -/

namespace ProtocolVersion

/-- A version is read back. -/
theorem read_toJson (v : ProtocolVersion) : read v.toJson.toDocument = .ok v := by
  have hwritten : shape.Written [("version", .string v.version), ("path", .string v.path),
      ("binding", .string v.binding)] := ⟨by decide, rfl⟩
  have hversion : versionField.Gives _ v.version := hwritten.gives 0 rfl rfl
  have hpath : pathField.Gives _ v.path := hwritten.gives 1 rfl rfl
  have hbinding : bindingField.Gives _ v.binding := hwritten.gives 2 rfl rfl
  have hvalues := hwritten.values (by
    simp only [shape, List.forall_mem_cons]
    exact ⟨hversion.given, hpath.given, hbinding.given, List.forall_mem_nil _⟩)
  simp only [read, toJson, hvalues, ok_bind, hversion.get_eq, hpath.get_eq, hbinding.get_eq]
  rfl

/-- The form of a version has no numbers. -/
theorem numberFree_toJson (v : ProtocolVersion) : v.toJson.NumberFree := by
  refine .object ?_
  simp only [List.forall_mem_cons]
  exact ⟨.string _, .string _, .string _, List.forall_mem_nil _⟩

end ProtocolVersion

namespace ProtocolVersions

/-- Advertised versions are read back. -/
theorem read_toJson (v : ProtocolVersions) : read v.toJson.toDocument = .ok v := by
  have hwritten : shape.Written
      [("protocolVersions", .array (v.toList.map ProtocolVersion.toJson))] := ⟨by decide, rfl⟩
  have hlist : listField.Gives _ v.toList :=
    hwritten.gives 0 rfl (listOf_array_map fun version _ ↦ version.read_toJson)
  have hvalues := hwritten.values (by
    simp only [shape, List.forall_mem_cons]
    exact ⟨hlist.given, List.forall_mem_nil _⟩)
  simp only [read, toJson, hvalues, ok_bind, hlist.get_eq]
  rfl

/-- The form of advertised versions has no numbers. -/
theorem numberFree_toJson (v : ProtocolVersions) : v.toJson.NumberFree :=
  .object (List.forall_mem_singleton.mpr
    (numberFree_array_map ProtocolVersion.numberFree_toJson v.toList))

end ProtocolVersions

namespace Webhook

private theorem urlField_read : urlField.read = Url.read := rfl

/-- A webhook is read back if its address is stable. -/
theorem read_toJson {w : Webhook} (h : w.url.Stable) : read w.toJson.toDocument = .ok w := by
  have hwritten : shape.Written [("url", w.url.toJson)] := ⟨by decide, rfl⟩
  have hread : urlField.read w.url.toJson.toDocument = .ok w.url := by
    rw [urlField_read]
    exact Url.read_toJson h
  have hurl : urlField.Gives _ w.url := hwritten.gives 0 rfl hread
  have hvalues := hwritten.values (by
    simp only [shape, List.forall_mem_cons]
    exact ⟨hurl.given, List.forall_mem_nil _⟩)
  simp only [read, toJson, hvalues, ok_bind, hurl.get_eq]
  rfl

/-- The form of a webhook has no numbers. -/
theorem numberFree_toJson (w : Webhook) : w.toJson.NumberFree :=
  .object (List.forall_mem_singleton.mpr (.string _))

end Webhook

namespace Profile

/-- A profile is read back if the address of its webhook is stable. -/
theorem read_toJson {p : Profile} (h : p.webhook.url.Stable) :
    read p.toJson.toDocument = .ok p := by
  have hwritten : shape.Written [("name", .string p.name),
      ("protocolVersion", p.protocolVersion.toJson), ("webhook", p.webhook.toJson)] :=
    ⟨by decide, rfl⟩
  have hname : nameField.Gives _ p.name := hwritten.gives 0 rfl rfl
  have hversion : versionField.Gives _ p.protocolVersion :=
    hwritten.gives 1 rfl p.protocolVersion.read_toJson
  have hwebhook : webhookField.Gives _ p.webhook := hwritten.gives 2 rfl (Webhook.read_toJson h)
  have hvalues := hwritten.values (by
    simp only [shape, List.forall_mem_cons]
    exact ⟨hname.given, hversion.given, hwebhook.given, List.forall_mem_nil _⟩)
  simp only [read, toJson, hvalues, ok_bind, hname.get_eq, hversion.get_eq, hwebhook.get_eq]
  rfl

/-- The form of a profile has no numbers. -/
theorem numberFree_toJson (p : Profile) : p.toJson.NumberFree := by
  refine .object ?_
  simp only [List.forall_mem_cons]
  exact ⟨.string _, p.protocolVersion.numberFree_toJson, p.webhook.numberFree_toJson,
    List.forall_mem_nil _⟩

end Profile

/-! ### Settings -/

namespace ParticipantSettings

/-- The connector's own ids are read back. -/
theorem read_toJson (p : ParticipantSettings) : read p.toJson.toDocument = .ok p := by
  have hwritten : shape.Written [("default_id", .string p.defaultId), ("protocols",
      .object (p.protocols.entries.map fun entry ↦ (entry.1, .string entry.2)))] :=
    ⟨by decide, rfl⟩
  have hid : defaultIdField.Gives _ p.defaultId := hwritten.gives 0 rfl rfl
  have hprotocols : protocolsField.Gives _ p.protocols := hwritten.gives 1 rfl
    (mapOf_text_toDocument_eq_ok_iff.mpr (denotesTexts_map_iff.mpr p.protocols.ofList_entries.symm))
  have hvalues := hwritten.values (by
    simp only [shape, List.forall_mem_cons]
    exact ⟨hid.given, hprotocols.given, List.forall_mem_nil _⟩)
  simp only [read, toJson, hvalues, ok_bind, hid.get_eq, hprotocols.get_eq]
  rfl

/-- The form of the connector's own ids has no numbers. -/
theorem numberFree_toJson (p : ParticipantSettings) : p.toJson.NumberFree := by
  refine .object ?_
  simp only [List.forall_mem_cons]
  exact ⟨.string _, .object (List.forall_mem_map.mpr fun entry _ ↦ .string entry.2),
    List.forall_mem_nil _⟩

end ParticipantSettings

namespace ProfileSettings

private theorem webhookField_read : webhookField.read = Url.read := rfl

/-- A profile is read back if the address of its webhook is stable; an extractor that it does not
name is written as null. -/
theorem read_toJson {p : ProfileSettings} (h : p.webhook.Stable) :
    read p.toJson.toDocument = .ok p := by
  have hwritten : shape.Written [("name", .string p.name), ("version", .string p.version),
      ("path", .string p.path), ("binding", .string p.binding), ("webhook", p.webhook.toJson),
      ("extractor", (p.extractor.map Json.string).getD .null)] := ⟨by decide, rfl⟩
  have hname : nameField.Gives _ p.name := hwritten.gives 0 rfl rfl
  have hversion : versionField.Gives _ p.version := hwritten.gives 1 rfl rfl
  have hpath : pathField.Gives _ p.path := hwritten.gives 2 rfl rfl
  have hbinding : bindingField.Gives _ p.binding := hwritten.gives 3 rfl rfl
  have hread : webhookField.read p.webhook.toJson.toDocument = .ok p.webhook := by
    rw [webhookField_read]
    exact Url.read_toJson h
  have hwebhook : webhookField.Gives _ p.webhook := hwritten.gives 4 rfl hread
  have hextractor : extractorField.Gives _ p.extractor :=
    hwritten.gives 5 rfl (by cases p.extractor <;> rfl)
  have hvalues := hwritten.values (by
    simp only [shape, List.forall_mem_cons]
    exact ⟨hname.given, hversion.given, hpath.given, hbinding.given, hwebhook.given,
      hextractor.given, List.forall_mem_nil _⟩)
  simp only [read, toJson, hvalues, ok_bind, hname.get_eq, hversion.get_eq, hpath.get_eq,
    hbinding.get_eq, hwebhook.get_eq, hextractor.get_eq]
  rfl

/-- The form of a profile has no numbers. -/
theorem numberFree_toJson (p : ProfileSettings) : p.toJson.NumberFree := by
  have hextractor : ((p.extractor.map Json.string).getD .null).NumberFree := by
    cases p.extractor with
    | none => exact .null
    | some extractor => exact .string extractor
  refine .object ?_
  simp only [List.forall_mem_cons]
  exact ⟨.string _, .string _, .string _, .string _, .string _, hextractor, List.forall_mem_nil _⟩

end ProfileSettings

namespace Config

/-- The addresses of all webhooks are stable. -/
def Stable (c : Config) : Prop := ∀ p ∈ c.defaultProfiles ++ c.profiles, p.webhook.Stable

/-- A configuration is read back if it is stable. -/
theorem read_toJson {c : Config} (h : c.Stable) : read c.toJson.toDocument = .ok c := by
  have hprofiles (tier : List ProfileSettings)
      (htier : ∀ p ∈ tier, p ∈ c.defaultProfiles ++ c.profiles) :
      (Json.array (tier.map ProfileSettings.toJson)).toDocument.listOf ProfileSettings.read =
        .ok tier :=
    listOf_array_map fun p hp ↦ ProfileSettings.read_toJson (h p (htier p hp))
  have hwritten : shape.Written [("default_extractor", .string c.defaultExtractor),
      ("participant", c.participant.toJson),
      ("default_profiles", .array (c.defaultProfiles.map ProfileSettings.toJson)),
      ("profiles", .array (c.profiles.map ProfileSettings.toJson))] := ⟨by decide, rfl⟩
  have hextractor : defaultExtractorField.Gives _ c.defaultExtractor := hwritten.gives 0 rfl rfl
  have hparticipant : participantField.Gives _ c.participant :=
    hwritten.gives 1 rfl c.participant.read_toJson
  have hdefault : defaultProfilesField.Gives _ c.defaultProfiles :=
    hwritten.gives 2 rfl (hprofiles _ fun _ ↦ List.mem_append_left _)
  have hstandard : profilesField.Gives _ c.profiles :=
    hwritten.gives 3 rfl (hprofiles _ fun _ ↦ List.mem_append_right _)
  have hvalues := hwritten.values (by
    simp only [shape, List.forall_mem_cons]
    exact ⟨hextractor.given, hparticipant.given, hdefault.given, hstandard.given,
      List.forall_mem_nil _⟩)
  simp only [read, toJson, hvalues, ok_bind, hextractor.get_eq, hparticipant.get_eq,
    hdefault.get_eq, hstandard.get_eq]
  rfl

/-- The form of a configuration has no numbers. -/
theorem numberFree_toJson (c : Config) : c.toJson.NumberFree := by
  refine .object ?_
  simp only [List.forall_mem_cons]
  exact ⟨.string _, c.participant.numberFree_toJson,
    numberFree_array_map ProfileSettings.numberFree_toJson _,
    numberFree_array_map ProfileSettings.numberFree_toJson _, List.forall_mem_nil _⟩

end Config

/-- Settings and profiles are read back from their JSON form, with all their parts, as far as the
addresses in them are. Whether a configuration keeps the rules does not matter for this, so its copy
is checked and wired like the configuration itself. -/
theorem settings_and_profiles_read_back :
    (∀ c : Config, c.Stable → ReadsBack Config.read Config.toJson c ∧
      ∃ copy, Config.ofJson c.toJson.render = .ok copy ∧ copy.validate = c.validate ∧
        ∀ catalog, Wiring.ofConfig copy catalog = Wiring.ofConfig c catalog) ∧
    (∀ p : ParticipantSettings, ReadsBack ParticipantSettings.read ParticipantSettings.toJson p) ∧
    (∀ p : ProfileSettings, p.webhook.Stable →
      ReadsBack ProfileSettings.read ProfileSettings.toJson p) ∧
    (∀ v : ProtocolVersion, ReadsBack ProtocolVersion.read ProtocolVersion.toJson v) ∧
    (∀ v : ProtocolVersions, ReadsBack ProtocolVersions.read ProtocolVersions.toJson v) ∧
    (∀ w : Webhook, w.url.Stable → ReadsBack Webhook.read Webhook.toJson w) ∧
    ∀ p : Profile, p.webhook.url.Stable → ReadsBack Profile.read Profile.toJson p := by
  refine ⟨fun c hc ↦ ?_, fun p ↦ .of_numberFree p.numberFree_toJson p.read_toJson,
    fun p hp ↦ .of_numberFree p.numberFree_toJson (ProfileSettings.read_toJson hp),
    fun v ↦ .of_numberFree v.numberFree_toJson v.read_toJson,
    fun v ↦ .of_numberFree v.numberFree_toJson v.read_toJson,
    fun w hw ↦ .of_numberFree w.numberFree_toJson (Webhook.read_toJson hw),
    fun p hp ↦ .of_numberFree p.numberFree_toJson (Profile.read_toJson hp)⟩
  have hback : ReadsBack Config.read Config.toJson c :=
    .of_numberFree c.numberFree_toJson (Config.read_toJson hc)
  exact ⟨hback, c, hback.text, rfl, fun _ ↦ rfl⟩

/-- A default profile without a name and with an extractor, beside an id with characters that are
escaped. -/
def brokenSettings : Config where
  defaultExtractor := "by-issuer"
  participant := ⟨"did:web:\"a\"\u0001", .ofList [("dsp", "did:web:b\n"), ("", "did:web:c")]⟩
  defaultProfiles := [⟨"", "1.0", "/dsp", "HTTPS",
    ⟨"urn", none, .literal "dsp:provider", none, none⟩, some "by-issuer"⟩]
  profiles := []

/-- The broken settings are read back, and the copy breaks the same rule. -/
theorem broken_settings_read_back :
    brokenSettings.Stable ∧ brokenSettings.validate = .error .blankProtocol ∧
    ∃ copy, Config.ofJson brokenSettings.toJson.render = .ok copy ∧
      copy.validate = .error .blankProtocol := by
  have hstable : brokenSettings.Stable := by
    intro p hp
    obtain rfl := List.mem_singleton.mp hp
    change Url.parse _ = _
    decide +kernel
  have hbroken : brokenSettings.validate = .error .blankProtocol := by decide +kernel
  obtain ⟨-, copy, hcopy, hvalidate, -⟩ := settings_and_profiles_read_back.1 brokenSettings hstable
  exact ⟨hstable, hbroken, copy, hcopy, hvalidate.trans hbroken⟩

end ConnectorProfiles
