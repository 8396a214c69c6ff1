/-!
# Events

What the components of a connector report while they are filled and asked. An event is the fact
itself; its level, the component that reports it, its wording and its fields follow from the fact.
-/

namespace ConnectorProfiles

/-- How much an event matters. -/
inductive Level where
  | debug
  | info
  | warn
  deriving DecidableEq, Repr

/-- The value of a field of an event. -/
inductive EventValue where
  | text (value : String)
  | count (value : Nat)
  | flag (value : Bool)
  deriving DecidableEq, Repr

/-- What a component reports. -/
inductive Event where
  | defaultProfile (protocol version : String)
  | standardProfile (protocol version : String)
  | defaultsHidden (protocol : String) (count : Nat)
  | registryFallback
  | extraction (protocol : String)
  | dispatchFallback
  | idExtracted (protocol : String) (dedicated : Bool)
  | idMissing (protocol : String) (dedicated : Bool)
  | participant (protocol id : String)
  | closed (defaultProfiles standardProfiles : Nat)
  deriving DecidableEq, Repr

namespace Event

/-- The level of an event. -/
def level : Event → Level
  | .defaultsHidden .. | .closed .. => .info
  | .idMissing .. => .warn
  | _ => .debug

/-- The component that reports an event. -/
def target : Event → String
  | .defaultProfile .. | .standardProfile .. | .defaultsHidden .. | .registryFallback =>
    "dataspace-profile::registry"
  | .extraction .. | .dispatchFallback | .idExtracted .. | .idMissing .. =>
    "dataspace-profile::dispatch"
  | .participant .. => "dataspace-profile::resolver"
  | .closed .. => "dataspace-profile::bootstrap"

/-- The wording of an event. -/
def message : Event → String
  | .defaultProfile .. => "registering default profile"
  | .standardProfile .. => "registering standard profile"
  | .defaultsHidden .. => "first standard profile registered, default profiles are now hidden"
  | .registryFallback => "overriding default identity extractor"
  | .extraction .. => "registering extraction function"
  | .dispatchFallback => "overriding default extraction function"
  | .idExtracted .. => "extracted participant id"
  | .idMissing .. => "identity extractor produced no participant id"
  | .participant .. => "registering participant id"
  | .closed .. => "profile registration closed"

/-- The fields of an event. -/
def fields : Event → List (String × EventValue)
  | .defaultProfile protocol version | .standardProfile protocol version =>
    [("protocol", .text protocol), ("version", .text version)]
  | .defaultsHidden protocol count => [("protocol", .text protocol), ("hidden", .count count)]
  | .registryFallback | .dispatchFallback => []
  | .extraction protocol => [("protocol", .text protocol)]
  | .idExtracted protocol dedicated | .idMissing protocol dedicated =>
    [("protocol", .text protocol), ("dedicated", .flag dedicated)]
  | .participant protocol id => [("protocol", .text protocol), ("participant_id", .text id)]
  | .closed defaultProfiles standardProfiles =>
    [("default_profiles", .count defaultProfiles), ("standard_profiles", .count standardProfiles)]

end Event

end ConnectorProfiles
