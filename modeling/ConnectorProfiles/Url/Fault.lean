/-!
# Faults of web addresses

Why a text is no address. Each fault has one wording.
-/

namespace ConnectorProfiles.Url

/-- Why a text is no address. -/
inductive Fault where
  | emptyHost
  | invalidDomainName
  | invalidPort
  | invalidIpv4
  | invalidIpv6
  | invalidDomainCharacter
  | relativeWithoutBase
  deriving DecidableEq, Repr

/-- The wording of a fault. -/
def Fault.message : Fault → String
  | .emptyHost => "empty host"
  | .invalidDomainName => "invalid international domain name"
  | .invalidPort => "invalid port number"
  | .invalidIpv4 => "invalid IPv4 address"
  | .invalidIpv6 => "invalid IPv6 address"
  | .invalidDomainCharacter => "invalid domain character"
  | .relativeWithoutBase => "relative URL without a base"

end ConnectorProfiles.Url
