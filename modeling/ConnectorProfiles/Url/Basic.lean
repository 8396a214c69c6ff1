import ConnectorProfiles.Url.Host
import ConnectorProfiles.Url.Path

/-!
# Web addresses

An absolute address in its parts, its text, and the reading of a text as an address. The special
schemes have a host and know their ports; every other scheme keeps its host as it is written, or
has none.
-/

namespace ConnectorProfiles

/-- User, host and port of an address; a password that is present is not empty. -/
structure Url.Authority where
  user : String
  password : Option String
  host : Url.Host
  port : Option Nat
  deriving DecidableEq

/-- An absolute web address. -/
structure Url where
  scheme : String
  authority : Option Url.Authority
  path : Url.Path
  query : Option String
  fragment : Option String
  deriving DecidableEq

namespace Url

/-- The text of user, host and port. -/
def Authority.render (a : Authority) : String :=
  let secret := (a.password.map (":" ++ ·)).getD ""
  a.user ++ secret ++ (if a.user.isEmpty && a.password.isNone then "" else "@") ++
    a.host.render ++ (a.port.map (":" ++ toString ·)).getD ""

/-- The text of an address. Without a host, a path that starts with two slashes is written after
a dot segment, so that it does not read as a host. -/
def render (u : Url) : String :=
  u.scheme ++ ":" ++ (match u.authority with
    | some authority => "//" ++ authority.render
    | none =>
      match u.path with
      | .segments ("" :: _ :: _) => "/."
      | _ => "") ++
    u.path.render ++ (u.query.map ("?" ++ ·)).getD "" ++ (u.fragment.map ("#" ++ ·)).getD ""

/-- The port of a special scheme that is left out. -/
def defaultPort : String → Option Nat
  | "http" | "ws" => some 80
  | "https" | "wss" => some 443
  | "ftp" => some 21
  | _ => none

/-- The schemes whose addresses must have a host, and may leave its slashes out. -/
def isSpecial (scheme : String) : Bool := (defaultPort scheme).isSome

/-- Takes controls and blanks off both ends and drops tabs and line ends everywhere. -/
def clean (text : String) : List Char :=
  let edge (c : Char) : Bool := c.toNat ≤ 0x20
  let inner := ((text.toList.dropWhile edge).reverse.dropWhile edge).reverse
  inner.filter fun c ↦ c ≠ '\t' ∧ c ≠ '\n' ∧ c ≠ '\r'

/-- The scheme in lower case and what follows its colon. -/
def scheme? (cs : List Char) : Option (String × List Char) :=
  let isPart (c : Char) : Bool := c.isAlphanum || c = '+' || c = '-' || c = '.'
  match cs with
  | first :: _ =>
    if first.isAlpha then
      match cs.dropWhile isPart with
      | ':' :: rest => some (String.ofList ((cs.takeWhile isPart).map Char.toLower), rest)
      | _ => none
    else none
  | [] => none

/-- The characters at which the host of an address ends, besides the colon. -/
def endsAuthority (special : Bool) (c : Char) : Bool :=
  c = '/' || c = '?' || c = '#' || (special && c = '\\')

/-- Cuts the text before the last at-sign of an authority off. -/
def splitUserinfo (special : Bool) (cs : List Char) : Option (List Char) × List Char :=
  let authority := cs.takeWhile fun c ↦ !endsAuthority special c
  let afterAt := (authority.reverse.takeWhile (· ≠ '@')).length
  if afterAt = authority.length then (none, cs)
  else
    let before := authority.length - afterAt - 1
    (some (cs.take before), cs.drop (before + 1))

/-- User name and password, percent-encoded; an empty password is none. -/
def credentials (cs : List Char) : String × Option String :=
  let encode (part : List Char) : String := String.ofList (percentEncode userinfoSet part)
  let secret := (cs.dropWhile (· ≠ ':')).drop 1
  (encode (cs.takeWhile (· ≠ ':')), if secret.isEmpty then none else some (encode secret))

/-- The text of the host and what follows it; colons in brackets belong to the host. -/
def splitHost (special : Bool) : Bool → List Char → List Char × List Char
  | _, [] => ([], [])
  | inBrackets, c :: rest =>
    if (c = ':' && !inBrackets) || endsAuthority special c then ([], c :: rest)
    else
      let (host, rest) := splitHost special (c = '[' || (inBrackets && c ≠ ']')) rest
      (c :: host, rest)

/-- Reads the digits of a port; the number of ports bounds every step. -/
def portDigits : Nat → List Char → Except Fault (Nat × List Char)
  | port, [] => .ok (port, [])
  | port, c :: rest =>
    if c.isDigit then
      let port := port * 10 + (c.toNat - 48)
      if 65535 < port then .error .invalidPort else portDigits port rest
    else if c = '/' || c = '\\' || c = '?' || c = '#' then .ok (port, c :: rest)
    else .error .invalidPort

/-- The port after a host, if one is written that differs from the default of the scheme. -/
def parsePort (scheme : String) : List Char → Except Fault (Option Nat × List Char)
  | ':' :: rest => do
    let (port, after) ← portDigits 0 rest
    let written := after.length < rest.length
    return (if written && defaultPort scheme ≠ some port then some port else none, after)
  | cs => .ok (none, cs)

/-- Reads query and fragment, the end of every address. -/
def parseEnd (special : Bool) (cs : List Char) : Option String × Option String :=
  let fragment (cs : List Char) : Option String :=
    match cs with
    | '#' :: rest => some (String.ofList (percentEncode fragmentSet rest))
    | _ => none
  match cs with
  | '?' :: rest =>
    let set := if special then specialQuerySet else querySet
    (some (String.ofList (percentEncode set (rest.takeWhile (· ≠ '#')))),
      fragment (rest.dropWhile (· ≠ '#')))
  | cs => (none, fragment cs)

/-- Cuts a text before its query and fragment. -/
def splitPath (cs : List Char) : List Char × List Char :=
  let isEnd (c : Char) : Bool := c = '?' || c = '#'
  (cs.takeWhile fun c ↦ !isEnd c, cs.dropWhile fun c ↦ !isEnd c)

/-- The slashes of a path; a special scheme also takes the backslash. -/
def isSlash (special : Bool) (c : Char) : Bool := c = '/' || (special && c = '\\')

/-- Drops one slash from the front. -/
def dropSlash (special : Bool) : List Char → List Char
  | c :: rest => if isSlash special c then rest else c :: rest
  | [] => []

/-- Reads what follows the two slashes before an authority. -/
def parseAuthority (scheme : String) (cs : List Char) : Except Fault Url := do
  let special := isSpecial scheme
  let (userinfo, rest) := splitUserinfo special cs
  if userinfo = some [] ∧ (rest.head?.any (endsAuthority special)) then throw .emptyHost
  let (user, password) := credentials (userinfo.getD [])
  let (hostText, rest) := splitHost special false rest
  if special ∧ hostText = [] then throw .emptyHost
  let host ← if special then Host.parseSpecial hostText else Host.parseOther hostText
  if host = .empty ∧ rest.head? = some ':' then throw .emptyHost
  let (port, rest) ← parsePort scheme rest
  if host = .empty ∧ (user ≠ "" ∨ password.isSome) then throw .emptyHost
  let (pathText, rest) := splitPath rest
  let path :=
    if pathText = [] ∧ ¬ special then .segments []
    else Path.parse (isSlash special) (dropSlash special pathText)
  let (query, fragment) := parseEnd special rest
  return ⟨scheme, some ⟨user, password, host, port⟩, path, query, fragment⟩

/-- Reads a path of a file address after its first slash, and the end of the address. -/
def filePath (host : Host) (cs : List Char) : Url :=
  let (pathText, rest) := splitPath cs
  let (query, fragment) := parseEnd true rest
  ⟨"file", some ⟨"", none, host, none⟩,
    (Path.parse (isSlash true) pathText).dropLeadingEmpty, query, fragment⟩

/-- Reads what follows the scheme of a file address. -/
def parseFile (cs : List Char) : Except Fault Url := do
  match cs with
  | first :: second :: rest =>
    if isSlash true first && isSlash true second then
      let hostText := rest.takeWhile fun c ↦ !endsAuthority true c
      if isDriveLetter hostText then return filePath .empty rest
      let after := dropSlash true (rest.drop hostText.length)
      if hostText = [] then return filePath .empty after
      let host ← Host.parseSpecial hostText
      return filePath (if host = .name "localhost" then .empty else host) after
    else return filePath .empty (dropSlash true cs)
  | _ => return filePath .empty (dropSlash true cs)

/-- Reads what follows the scheme of an address without authority. -/
def parseRootless (scheme : String) (cs : List Char) : Url :=
  let (pathText, rest) := splitPath cs
  let (query, fragment) := parseEnd false rest
  let path :=
    match pathText with
    | '/' :: rest => Path.parse (isSlash false) rest
    | _ => .literal (String.ofList (percentEncode [] pathText))
  ⟨scheme, none, path, query, fragment⟩

/-- Reads a text as an absolute address. -/
def parse (text : String) : Except Fault Url :=
  match scheme? (clean text) with
  | none => .error .relativeWithoutBase
  | some (scheme, rest) =>
    if scheme = "file" then parseFile rest
    else if isSpecial scheme then parseAuthority scheme (rest.dropWhile (isSlash true))
    else
      match rest with
      | '/' :: '/' :: rest => parseAuthority scheme rest
      | rest => .ok (parseRootless scheme rest)

end Url

end ConnectorProfiles
