import ConnectorProfiles.Json.Basic

/-!
# Claims

The claims that a peer presents: a value under each name. A claim is a verifiable credential, a list
of claims, or plain JSON, which is kept in canonical form and not looked into. A credential makes
statements about subjects, of which each may have an id.
-/

namespace ConnectorProfiles

/-- What a credential says about one subject; attribute values are canonical. -/
structure Subject where
  id : Option String
  attributes : NameMap Json
  deriving DecidableEq

namespace Subject

/-- A subject with an id and no attributes. -/
def withId (id : String) : Subject := ⟨some id, .empty⟩

/-- A subject without id and attributes. -/
def anonymous : Subject := ⟨none, .empty⟩

/-- Sets an attribute. -/
def withAttribute (s : Subject) (name : String) (value : Json) : Subject :=
  { s with attributes := s.attributes.insert name value.canonical }

end Subject

/-- A verifiable credential. -/
structure Credential where
  id : Option String
  types : List String
  subjects : List Subject
  deriving DecidableEq

/-- The value of a claim. -/
inductive Claim where
  | credential (credential : Credential)
  | list (entries : List Claim)
  | json (value : Json)
  deriving Inhabited

namespace Claim

mutual

/-- Equality of claims is decidable. -/
def decEq : (a b : Claim) → Decidable (a = b)
  | .credential a, b => match b with
    | .credential b => decidable_of_iff (a = b) (by simp)
    | .list _ | .json _ => isFalse nofun
  | .list a, b => match b with
    | .list b => match decEqEntries a b with
      | isTrue h => isTrue (h ▸ rfl)
      | isFalse h => isFalse fun e ↦ h (by injection e)
    | .credential _ | .json _ => isFalse nofun
  | .json a, b => match b with
    | .json b => decidable_of_iff (a = b) (by simp)
    | .credential _ | .list _ => isFalse nofun

/-- Equality of lists of claims is decidable. -/
def decEqEntries : (a b : List Claim) → Decidable (a = b)
  | [], b => match b with
    | [] => isTrue rfl
    | _ :: _ => isFalse nofun
  | a :: as, b => match b with
    | [] => isFalse nofun
    | b :: bs => match decEq a b, decEqEntries as bs with
      | isTrue h, isTrue k => isTrue (h ▸ k ▸ rfl)
      | isFalse h, _ => isFalse fun e ↦ h (by injection e)
      | _, isFalse k => isFalse fun e ↦ k (by injection e)

end

instance : DecidableEq Claim := decEq

/-- A claim of plain JSON, whatever its shape. -/
def plain (value : Json) : Claim := .json value.canonical

/-- The credential, for a claim that is one. -/
def credential? : Claim → Option Credential
  | .credential value => some value
  | _ => none

end Claim

/-- Claims under their names. -/
structure Claims where
  byName : NameMap Claim
  deriving DecidableEq

namespace Claims

/-- No claims. -/
def empty : Claims := ⟨.empty⟩

instance : Inhabited Claims := ⟨empty⟩

/-- Sets a claim, replacing the one of that name. -/
def insert (claims : Claims) (name : String) (value : Claim) : Claims :=
  ⟨claims.byName.insert name value⟩

/-- The claim of a name. -/
def get? (claims : Claims) (name : String) : Option Claim := claims.byName.get? name

/-- The entries of the claim of a name, if it is a list. -/
def list? (claims : Claims) (name : String) : Option (List Claim) :=
  match claims.get? name with
  | some (.list entries) => some entries
  | _ => none

/-- The number of claims. -/
def size (claims : Claims) : Nat := claims.byName.size

/-- Whether there are no claims. -/
def isEmpty (claims : Claims) : Bool := claims.byName.isEmpty

end Claims

end ConnectorProfiles
