import ConnectorProfiles.Url.Domain
import ConnectorProfiles.Url.Fault
import ConnectorProfiles.Url.Ipv6

/-!
# Hosts

The host of an address with a special scheme is an IPv6 address in brackets, an IPv4 address or a
domain name in its ASCII form. The host of any other address is an IPv6 address in brackets or a
text that is only percent-encoded.
-/

namespace ConnectorProfiles.Url

/-- A host; the empty name is the empty host. -/
inductive Host where
  | name (text : String)
  | ipv4 (address : Ipv4)
  | ipv6 (address : Ipv6)
  deriving DecidableEq

namespace Host

/-- The empty host. -/
def empty : Host := .name ""

/-- The text of a host. -/
def render : Host → String
  | .name text => text
  | .ipv4 address => address.render
  | .ipv6 address => "[" ++ address.render ++ "]"

/-- A host in brackets: the text after the opening one. -/
private def bracketed (cs : List Char) : Except Fault Host :=
  if cs.getLast? = some ']' then
    match Ipv6.parse? cs.dropLast with
    | some address => .ok (.ipv6 address)
    | none => .error .invalidIpv6
  else .error .invalidIpv6

/-- Reads the host of an address with a special scheme. -/
def parseSpecial (cs : List Char) : Except Fault Host :=
  match cs with
  | '[' :: rest => bracketed rest
  | _ => do
    let some text := String.fromUTF8? (percentDecode cs).toByteArray
      | throw .invalidDomainName
    let some domain := Domain.toAscii? text.toList
      | throw .invalidDomainName
    if domain.isEmpty then throw .emptyHost
    if endsInNumber domain then
      match Ipv4.parse? domain with
      | some address => return .ipv4 address
      | none => throw .invalidIpv4
    return .name (String.ofList domain)

/-- The characters that the host of an address without a special scheme may not hold. -/
private def forbidden : List Char :=
  ['\x00', '\t', '\n', '\r', ' ', '#', '/', ':', '<', '>', '?', '@', '[', '\\', ']', '^', '|']

/-- Reads the host of an address without a special scheme. -/
def parseOther (cs : List Char) : Except Fault Host :=
  match cs with
  | '[' :: rest => bracketed rest
  | _ =>
    if cs.any (· ∈ forbidden) then .error .invalidDomainCharacter
    else .ok (.name (String.ofList (percentEncode [] cs)))

end Host

end ConnectorProfiles.Url
