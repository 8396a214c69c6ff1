import ConnectorProfiles.Dispatch
import ConnectorProfiles.Extractor.Catalog
import ConnectorProfiles.Participants
import ConnectorProfiles.Registry
import ConnectorProfiles.Settings.Load

/-!
# Wiring

The three components of a connector, filled from a configuration and a catalog of extractors, and
then closed. A configuration that breaks a rule or names an unknown extractor yields no wiring; the
events up to that point stay reported.
-/

namespace ConnectorProfiles

/-- The components of a connector. -/
structure Wiring where
  registry : Registry
  dispatch : Dispatch
  participants : Participants

/-- Why a configuration yields no wiring. -/
inductive WiringFault where
  | config (violation : Violation)
  | extractor (fault : Extractor.Fault)
  deriving DecidableEq

/-- The wording of the fault inside. -/
def WiringFault.source : WiringFault → String
  | .config violation => (ConfigFault.invalid violation).message
  | .extractor fault => fault.message

/-- The wording of a fault, with the one inside. -/
def WiringFault.message (fault : WiringFault) : String :=
  (match fault with
    | .config _ => "invalid profile configuration: "
    | .extractor _ => "failed to resolve identity extractor: ") ++ fault.source

/-- The profile that settings declare. -/
def ProfileSettings.toProfile (p : ProfileSettings) : Profile :=
  ⟨p.name, ⟨p.version, p.path, p.binding⟩, ⟨p.webhook⟩⟩

namespace Wiring

/-- Components without profiles and with one id and one extractor under all protocols. -/
def new (fallback : Extractor) (defaultId : String) : Wiring :=
  ⟨.new fallback, .new fallback, .new defaultId⟩

/-- Declares a profile of the default tier. -/
def declareDefault (w : Wiring) (p : ProfileSettings) : Logged Wiring := do
  return { w with registry := ← w.registry.registerDefault p.toProfile }

/-- Declares the profiles of the default tier. -/
def declareDefaults (w : Wiring) : List ProfileSettings → Logged Wiring
  | [] => return w
  | p :: rest => do (← w.declareDefault p).declareDefaults rest

/-- Declares a profile of the standard tier, with the extractor it names. -/
def declare (w : Wiring) (p : ProfileSettings) : Option Extractor → Logged Wiring
  | some extractor => do
    let dispatch ← w.dispatch.register p.name extractor
    let registry ← w.registry.registerWith p.toProfile extractor
    return { w with registry, dispatch }
  | none => do return { w with registry := ← w.registry.register p.toProfile }

/-- Declares the profiles of the standard tier up to the first that names an unknown extractor. -/
def declareAll (catalog : Extractor.Catalog) (w : Wiring) :
    List ProfileSettings → Logged (Except WiringFault Wiring)
  | [] => return .ok w
  | p :: rest =>
    match p.extractor.mapM catalog.require with
    | .error fault => return .error (.extractor fault)
    | .ok extractor => do declareAll catalog (← w.declare p extractor) rest

/-- Registers the connector's ids under single protocols. -/
def declareIds (w : Wiring) : List (String × String) → Logged Wiring
  | [] => return w
  | (protocol, id) :: rest => do
    let participants ← w.participants.register protocol id
    { w with participants }.declareIds rest

/-- Fills the components from a configuration and a catalog of extractors. -/
def ofConfig (config : Config) (catalog : Extractor.Catalog) :
    Logged (Except WiringFault Wiring) :=
  match config.validate with
  | .error violation => return .error (.config violation)
  | .ok () =>
    match catalog.require config.defaultExtractor with
    | .error fault => return .error (.extractor fault)
    | .ok fallback => do
      let w ← (new fallback config.participant.defaultId).declareDefaults config.defaultProfiles
      match ← declareAll catalog w config.profiles with
      | .error fault => return .error fault
      | .ok w => return .ok (← w.declareIds config.participant.protocols.entries)

end Wiring

/-- The components of a connector after registration is closed. -/
structure Services where
  registry : Registry
  dispatch : Dispatch
  participants : Participants

/-- Closes registration. -/
def Wiring.freeze (w : Wiring) : Logged Services := do
  Logged.report (.closed w.registry.defaults.length w.registry.standards.length)
  return ⟨w.registry, w.dispatch, w.participants⟩

end ConnectorProfiles
