import ConnectorProfiles.Proofs.Text.Shown
import ConnectorProfiles.Wiring

/-!
# What messages name

The message of a fault shows what the fault is about, set off by marks of its own: the protocol or
the profile of a broken rule, the extractor that is unknown, the file that cannot be read, the field
that is missing. Whatever the names are, the message has no such mark outside of them. A fault with
a cause shows what the cause shows.
-/

namespace ConnectorProfiles

namespace Text

/-- A name between two marks. -/
def between (mark name : String) : String := mark ++ name ++ mark

/-- Words that end with a mark, a name, and words that begin with the mark show the name. -/
theorem Shows.between {mark : Char} {sign head tail : String} (before name after : String)
    (hhead : head = before ++ sign) (htail : tail = sign ++ after)
    (hbefore : mark ∉ before.toList) (hafter : mark ∉ after.toList) :
    Shows mark [Text.between sign name] (head ++ name ++ tail) := by
  have htext : head ++ name ++ tail = before ++ Text.between sign name ++ after := by
    rw [hhead, htail, Text.between]
    simp only [String.append_assoc]
  rw [htext]
  exact .cons hbefore (.nil hafter)

end Text

open Text (Shows between)

/-! ### Rules and extractors -/

/-- The protocol or the profile that a rule is broken on. -/
def Violation.named : Violation → List String
  | .blankDefaultExtractor | .blankDefaultId | .blankProtocol | .blankProfileName => []
  | .blankParticipantId name | .blankProfileVersion name | .blankProfileExtractor name
  | .extractorOnDefault name => [name]

/-- The message of a broken rule shows the protocol or the profile that it is broken on. -/
theorem Violation.shows_message (v : Violation) :
    Shows '\'' (v.named.map (between "'")) v.message := by
  cases v with
  | blankDefaultExtractor | blankDefaultId | blankProtocol | blankProfileName =>
    exact .nil (by decide)
  | blankParticipantId name =>
    exact .between "participant id for protocol " name " must not be blank"
      rfl rfl (by simp) (by simp)
  | blankProfileVersion name =>
    exact .between "profile " name " must declare a version" rfl rfl (by simp) (by simp)
  | blankProfileExtractor name =>
    exact .between "profile " name " names a blank extractor" rfl rfl (by simp) (by simp)
  | extractorOnDefault name =>
    exact .between "default profile " name " cannot name an extractor; declare it under profiles"
      rfl rfl (by simp) (by simp)

/-- The protocol without an id, or the name of the unknown extractor. -/
def Extractor.Fault.named : Extractor.Fault → String
  | .extractionFailed name | .unknownExtractor name => name

/-- The message of a failed extraction shows the protocol, and that of an unknown extractor its
name. -/
theorem Extractor.Fault.shows_message (fault : Extractor.Fault) :
    Shows '\'' [between "'" fault.named] fault.message := by
  cases fault with
  | extractionFailed name =>
    exact .between "failed to extract participant id for protocol " name ""
      rfl rfl (by simp) (by simp)
  | unknownExtractor name =>
    exact .between "identity extractor " name " is not registered in the catalog"
      rfl rfl (by simp) (by simp)

/-! ### Documents and files -/

/-- What the message of a misfit shows: the fields by their names, and what else does not fit. -/
def Misfit.shown (layout : Decimal.Layout) : Misfit → List String
  | .missingField name | .duplicateField name => [between "`" name]
  | .unknownField name known => between "`" name :: known.map (between "`")
  | .invalidType found expected => [found.text layout, expected.text]
  | .tooFewItems count title fields => [toString count, title, toString fields]
  | .badAddress fault text => [fault.message, Text.quote text]
  | .neitherOneNorMany | .integerOverflow | .realOverflow => []

/-- A choice of names shows each of them. -/
theorem shows_choiceText (names : List String) :
    Shows '`' (names.map (between "`")) (choiceText names) := by
  match names with
  | [] => exact .nil (by decide)
  | [one] => exact (Shows.self (between "`" one)).append_left (by simp)
  | [one, two] =>
    have hone : Shows '`' [between "`" one] ("expected " ++ between "`" one ++ " or ") :=
      .cons (by simp) (.nil (by simp))
    exact hone.append (.self (between "`" two))
  | first :: second :: third :: rest =>
    rw [List.map_eq_flatMap]
    exact (Shows.intercalate (by simp) fun name _ ↦ .self (between "`" name)).append_left
      (by simp)

/-- The message of a misfit shows the fields that it is about. -/
theorem Misfit.shows_message (layout : Decimal.Layout) (misfit : Misfit) :
    Shows '`' (misfit.shown layout) (misfit.message layout) := by
  cases misfit with
  | missingField name =>
    exact .between "missing field " name "" rfl rfl (by simp) (by simp)
  | duplicateField name =>
    exact .between "duplicate field " name "" rfl rfl (by simp) (by simp)
  | unknownField name known =>
    have hname : Shows '`' [between "`" name] ("unknown field `" ++ name ++ "`, ") :=
      .between "unknown field " name ", " rfl rfl (by simp) (by simp)
    exact hname.append (shows_choiceText known)
  | invalidType found expected =>
    have hfound : Shows '`' [found.text layout]
        ("invalid type: " ++ found.text layout ++ ", expected ") :=
      .cons (by simp) (.nil (by simp))
    exact hfound.append (.self expected.text)
  | tooFewItems count title fields =>
    have hcount : Shows '`' [toString count]
        ("invalid length " ++ toString count ++ ", expected struct ") :=
      .cons (by simp) (.nil (by simp))
    have hwith : '`' ∉ " with ".toList := by simp
    have htitle := (hcount.append (.self title)).append_right hwith
    apply (htitle.append (.self (toString fields))).append_right
    split
    · simp
    · simp
  | badAddress fault text =>
    have hfault : Shows '`' [fault.message] (fault.message ++ ": ") :=
      (Shows.self fault.message).append_right (by simp)
    exact hfault.append (.self (Text.quote text))
  | neitherOneNorMany =>
    show Shows '`' [] "data did not match any variant of untagged enum OneOrMany"
    exact .nil (by simp)
  | integerOverflow =>
    show Shows '`' [] "integer number overflowed"
    exact .nil (by simp)
  | realOverflow =>
    show Shows '`' [] "floating-point number overflowed"
    exact .nil (by simp)

/-- What the message of a fault of loading shows: the file or the origin of the text, and the cause;
of a broken rule, what its own message shows. -/
def ConfigFault.shown : ConfigFault → List String
  | .unreadable path fault => [between "'" path, fault.message]
  | .malformed origin => [between "'" origin]
  | .misfit origin cause => [between "'" origin, cause.message .positional]
  | .invalid violation => violation.named.map (between "'")

/-- The message of a fault of loading shows where it is and what it is about. -/
theorem ConfigFault.shows_message (fault : ConfigFault) : Shows '\'' fault.shown fault.message := by
  have horigin (origin : String) : Shows '\'' [between "'" origin]
      ("failed to parse configuration '" ++ origin ++ "': ") :=
    .between "failed to parse configuration " origin ": " rfl rfl (by simp) (by simp)
  cases fault with
  | unreadable path fault =>
    have hpath : Shows '\'' [between "'" path]
        ("failed to read configuration '" ++ path ++ "': ") :=
      .between "failed to read configuration " path ": " rfl rfl (by simp) (by simp)
    exact hpath.append (.self fault.message)
  | malformed origin => exact horigin origin
  | misfit origin cause => exact (horigin origin).append (.self (cause.message .positional))
  | invalid violation => exact violation.shows_message.append_left (by simp)

/-! ### Wiring -/

/-- The protocol, the profile or the extractor that a configuration yields no wiring for. -/
def WiringFault.named : WiringFault → List String
  | .config violation => violation.named
  | .extractor fault => [fault.named]

/-- The message of a fault of wiring shows the protocol, the profile or the extractor that it is
about. -/
theorem WiringFault.shows_message (fault : WiringFault) :
    Shows '\'' (fault.named.map (between "'")) fault.message := by
  cases fault with
  | config violation =>
    have hwords : '\'' ∉ "invalid profile configuration: ".toList := by simp
    exact (ConfigFault.shows_message (.invalid violation)).append_left hwords
  | extractor fault =>
    have hwords : '\'' ∉ "failed to resolve identity extractor: ".toList := by simp
    exact fault.shows_message.append_left hwords

end ConnectorProfiles
