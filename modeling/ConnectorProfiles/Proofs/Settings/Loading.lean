import ConnectorProfiles.Proofs.Settings.Rules
import ConnectorProfiles.Settings.Load

/-!
# Loading a configuration

The outcome of loading is told from two questions: what the text decodes as, and whether that keeps
the rules. Where the text comes from shows in faults of decoding only.
-/

namespace ConnectorProfiles

namespace ConfigFault

/-- What is reported about a text of the given origin that does not decode. -/
def ofFault (origin : String) : Fault → ConfigFault
  | .malformed => .malformed origin
  | .misfit cause => .misfit origin cause

/-- Replaces the origin in a fault of decoding. -/
def withOrigin (origin : String) : ConfigFault → ConfigFault
  | .malformed _ => .malformed origin
  | .misfit _ cause => .misfit origin cause
  | .unreadable path fault => .unreadable path fault
  | .invalid violation => .invalid violation

/-- The origin of a fault of decoding is the one it was last given. -/
@[simp] theorem withOrigin_ofFault (origin other : String) (fault : Fault) :
    withOrigin origin (ofFault other fault) = ofFault origin fault := by
  cases fault with
  | malformed | misfit => rfl

/-- Different faults of decoding are reported differently. -/
@[simp] theorem ofFault_inj {origin : String} {a b : Fault} :
    ofFault origin a = ofFault origin b ↔ a = b := by
  cases a with
  | malformed => cases b <;> simp [ofFault]
  | misfit cause => cases b <;> simp [ofFault]

/-- A fault of decoding is no broken rule. -/
@[simp] theorem ofFault_ne_invalid {origin : String} {fault : Fault} {violation : Violation} :
    ofFault origin fault ≠ .invalid violation := by
  cases fault with
  | malformed | misfit => nofun

end ConfigFault

namespace Config

/-- Reading a text is decoding it and checking the rules. -/
theorem parse_eq (text origin : String) : parse text origin =
    match Toml.decode read text with
    | .error fault => .error (.ofFault origin fault)
    | .ok c => c.validated := by
  rw [parse]
  cases Toml.decode read text with
  | error fault => cases fault <;> rfl
  | ok c => rfl

/-- A configuration is accepted as it is when it breaks no rule. -/
theorem validated_eq_ok_iff {c d : Config} :
    c.validated = .ok d ↔ c.validate = .ok () ∧ c = d := by
  rw [validated]
  cases c.validate with
  | error violation => simp
  | ok checked => simp

/-- A configuration is refused with the rule that it breaks, and with nothing else. -/
theorem validated_eq_error_iff {c : Config} {fault : ConfigFault} :
    c.validated = .error fault ↔
      ∃ violation, c.validate = .error violation ∧ fault = .invalid violation := by
  rw [validated]
  cases c.validate with
  | error violation => simp [eq_comm]
  | ok checked => simp

section Parse

variable {text origin : String}

/-- A text yields the configuration that it decodes as, if that breaks no rule. -/
theorem parse_eq_ok_iff {c : Config} :
    parse text origin = .ok c ↔ Toml.decode read text = .ok c ∧ c.validate = .ok () := by
  rw [parse_eq]
  cases Toml.decode read text with
  | error fault => simp
  | ok d =>
    rw [validated_eq_ok_iff, Except.ok.injEq]
    constructor
    · rintro ⟨hvalid, rfl⟩
      exact ⟨rfl, hvalid⟩
    · rintro ⟨rfl, hvalid⟩
      exact ⟨hvalid, rfl⟩

/-- A text is refused with a broken rule exactly when it decodes as a configuration that breaks
it. -/
theorem parse_eq_invalid_iff {violation : Violation} :
    parse text origin = .error (.invalid violation) ↔
      ∃ c, Toml.decode read text = .ok c ∧ c.validate = .error violation := by
  rw [parse_eq]
  cases Toml.decode read text with
  | error fault => simp
  | ok d => simp [validated_eq_error_iff]

/-- A text is refused with a fault of decoding exactly when it does not decode for that fault. -/
theorem parse_eq_ofFault_iff {fault : Fault} :
    parse text origin = .error (.ofFault origin fault) ↔
      Toml.decode read text = .error fault := by
  rw [parse_eq]
  cases Toml.decode read text with
  | error other => simp
  | ok d => simp [validated_eq_error_iff]

/-- The origin of a text shows in faults of decoding only. -/
theorem parse_eq_mapError (text origin other : String) :
    parse text origin = (parse text other).mapError (·.withOrigin origin) := by
  rw [parse_eq, parse_eq]
  cases Toml.decode read text with
  | error fault => simp [Except.mapError]
  | ok c =>
    simp only [validated]
    cases c.validate with
    | error violation => rfl
    | ok checked => rfl

end Parse

section Load

variable {readFile : String → Except FileFault (List UInt8)} {path : String}

private theorem fromUTF8?_toUTF8_toList (text : String) :
    String.fromUTF8? text.toUTF8.data.toList.toByteArray = some text := by
  have hbytes : text.toUTF8.data.toList.toByteArray = text.toUTF8 := by
    apply ByteArray.ext
    simp
  rw [hbytes, String.fromUTF8?, String.toUTF8_eq_toByteArray, dif_pos text.isValidUTF8]
  rfl

/-- A file that holds a text is read as that text. -/
theorem load_eq_parse {text : String} (h : readFile path = .ok text.toUTF8.data.toList) :
    load readFile path = parse text path := by
  simp only [load, h, fromUTF8?_toUTF8_toList]

/-- A configuration from a file is that of the text in it. -/
theorem exists_parse_of_load {c : Config} (h : load readFile path = .ok c) :
    ∃ text, parse text path = .ok c := by
  rw [load] at h
  split at h
  · cases h
  · split at h
    · cases h
    · next text _ => exact ⟨text, h⟩

end Load

end Config

end ConnectorProfiles
