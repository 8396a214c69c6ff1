import ConnectorProfiles.Files.Folder
import ConnectorProfiles.Json.Reader
import ConnectorProfiles.Settings.Json
import ConnectorProfiles.Settings.Validate
import ConnectorProfiles.Toml.Reader

/-!
# Loading of settings

A configuration is a TOML text, given as such or read from a file. It must be well formed, fit its
fields and keep the rules; the first of these that fails is reported, with the origin of the text.
-/

namespace ConnectorProfiles

/-- Why there is no configuration. -/
inductive ConfigFault where
  | unreadable (path : String) (fault : FileFault)
  | malformed (origin : String)
  | misfit (origin : String) (cause : Misfit)
  | invalid (violation : Violation)
  deriving DecidableEq

/-- The wording of a fault; what a malformed text lacks is not described. -/
def ConfigFault.message : ConfigFault → String
  | .unreadable path fault =>
    "failed to read configuration '" ++ path ++ "': " ++ fault.message
  | .malformed origin => "failed to parse configuration '" ++ origin ++ "': "
  | .misfit origin cause =>
    "failed to parse configuration '" ++ origin ++ "': " ++ cause.message .positional
  | .invalid violation => "invalid configuration: " ++ violation.message

namespace Config

/-- The origin of a text that comes from no file. -/
def inlineOrigin : String := "<inline>"

/-- Refuses a configuration that breaks a rule. -/
def validated (c : Config) : Except ConfigFault Config :=
  match c.validate with
  | .ok () => .ok c
  | .error violation => .error (.invalid violation)

/-- Reads a text of the given origin. -/
def parse (text origin : String) : Except ConfigFault Config :=
  match Toml.decode read text with
  | .error .malformed => .error (.malformed origin)
  | .error (.misfit cause) => .error (.misfit origin cause)
  | .ok c => c.validated

/-- Reads a text that comes from no file. -/
def ofToml (text : String) : Except ConfigFault Config := parse text inlineOrigin

/-- Reads the text of a file. -/
def load (readFile : String → Except FileFault (List UInt8)) (path : String) :
    Except ConfigFault Config :=
  match readFile path with
  | .error fault => .error (.unreadable path fault)
  | .ok bytes =>
    match String.fromUTF8? bytes.toByteArray with
    | none => .error (.unreadable path .notUtf8)
    | some text => parse text path

/-- Reads a JSON text, without checking the rules. -/
def ofJson (text : String) : Read Config := JsonText.decode read text

end Config

end ConnectorProfiles
