import ConnectorProfiles.Proofs.Dispatch.Answers
import ConnectorProfiles.Proofs.Document.Read
import ConnectorProfiles.Settings.Validate

/-!
# Configurations that keep the rules

The rules on a configuration, stated of its parts and not in the order of their check. A
configuration is accepted exactly when it keeps all of them.
-/

namespace ConnectorProfiles

/-- A profile with a name and a version; the extractor that it may name has a name as well. -/
structure ProfileSettings.KeepsRules (p : ProfileSettings) : Prop where
  name : Text.NotBlank p.name
  version : Text.NotBlank p.version
  extractor : ∀ extractor, p.extractor = some extractor → Text.NotBlank extractor

/-- A configuration in which no text is blank that names something or somebody, and no profile of
the default tier names an extractor. -/
structure Config.KeepsRules (c : Config) : Prop where
  defaultExtractor : Text.NotBlank c.defaultExtractor
  defaultId : Text.NotBlank c.participant.defaultId
  protocols : ∀ protocol id, c.participant.protocols.get? protocol = some id →
    Text.NotBlank protocol ∧ Text.NotBlank id
  profiles : ∀ p ∈ c.defaultProfiles ++ c.profiles, p.KeepsRules
  defaultTier : ∀ p ∈ c.defaultProfiles, p.extractor = none

/-- A text passes exactly when it is not blank. -/
theorem refuseBlank_eq_ok_iff {text : String} {violation : Violation} :
    refuseBlank text violation = .ok () ↔ Text.NotBlank text := by
  rw [Text.NotBlank, ← Text.isBlank_eq_false_iff, refuseBlank]
  cases Text.isBlank text with
  | false => simp
  | true => simp

/-- The id under a protocol is accepted when neither of them is blank. -/
theorem validateParticipant_eq_ok_iff {entry : String × String} :
    validateParticipant entry = .ok () ↔ Text.NotBlank entry.1 ∧ Text.NotBlank entry.2 := by
  rw [validateParticipant, check_bind_eq_ok_iff, refuseBlank_eq_ok_iff, refuseBlank_eq_ok_iff]

namespace ProfileSettings

/-- A profile is accepted when it keeps the rules on profiles. -/
theorem validate_eq_ok_iff {p : ProfileSettings} : p.validate = .ok () ↔ p.KeepsRules := by
  rw [validate, check_bind_eq_ok_iff, check_bind_eq_ok_iff, refuseBlank_eq_ok_iff,
    refuseBlank_eq_ok_iff]
  constructor
  · rintro ⟨hname, hversion, hrest⟩
    refine ⟨hname, hversion, fun extractor hextractor ↦ ?_⟩
    rw [hextractor] at hrest
    exact refuseBlank_eq_ok_iff.mp hrest
  · rintro ⟨hname, hversion, hextractor⟩
    refine ⟨hname, hversion, ?_⟩
    split
    · next extractor hnamed => exact refuseBlank_eq_ok_iff.mpr (hextractor extractor hnamed)
    · rfl

/-- A profile is accepted in the default tier when it names no extractor. -/
theorem validateDefault_eq_ok_iff {p : ProfileSettings} :
    p.validateDefault = .ok () ↔ p.extractor = none := by
  rw [validateDefault]
  cases p.extractor with
  | none => simp
  | some extractor => simp

end ProfileSettings

/-- A configuration is accepted exactly when it keeps the rules. -/
theorem Config.validate_eq_ok_iff {c : Config} : c.validate = .ok () ↔ c.KeepsRules := by
  rw [validate]
  simp only [check_bind_eq_ok_iff, forM_eq_ok_iff, refuseBlank_eq_ok_iff,
    validateParticipant_eq_ok_iff, ProfileSettings.validate_eq_ok_iff,
    ProfileSettings.validateDefault_eq_ok_iff]
  constructor
  · rintro ⟨hextractor, hid, hprotocols, hprofiles, htier⟩
    refine ⟨hextractor, hid, fun protocol id hfound ↦ ?_, hprofiles, htier⟩
    exact hprotocols (protocol, id) (NameMap.mem_entries_iff.mpr hfound)
  · rintro ⟨hextractor, hid, hprotocols, hprofiles, htier⟩
    refine ⟨hextractor, hid, fun entry hentry ↦ ?_, hprofiles, htier⟩
    exact hprotocols entry.1 entry.2 (NameMap.mem_entries_iff.mp hentry)

end ConnectorProfiles
