import Backlog.Store.Basic

/-!
# Identities of the store
-/

namespace Backlog.Store

def IdentityRow.read (r : IdentityRow) : Except Error Identity :=
  match Uuid.read r.id with
  | .ok id => .ok ⟨id, r.fullName, r.imageUrl⟩
  | .error f => .error (.internal ("stored identity id '" ++ r.id ++ "': " ++ f.message))

/-- One statement that adds an identity. -/
def insertIdentity (row : IdentityRow) : Action Unit :=
  statement fun s =>
    if ¬ hasContent row.fullName then .error (checkFailed "length(trim(full_name)) > 0")
    else if s.identities.any (·.id = row.id) then .error (uniqueFailed "identities.identity_id")
    else .ok { s with identities := s.identities ++ [row] }

/-- Adds an identity under a fresh id. -/
def createIdentity (id : Uuid) (fullName : String) (imageUrl : Option String) :
    Action Identity := do
  let fullName := Text.trim fullName
  if fullName.isEmpty then throw (.badParameter "full_name" "name must not be empty")
  insertIdentity ⟨id.text, fullName, imageUrl⟩
  return ⟨id, fullName, imageUrl⟩

def loadIdentity (id : Uuid) : Action Identity := do
  match (← get).identities.find? (·.id = id.text) with
  | some row => ofResult (IdentityRow.read row)
  | none => throw (.notFound .identity id.text)

def identityExists (id : Uuid) (s : Store) : Bool := s.identities.any (·.id = id.text)

/-- The order of names, and of ids under one name. -/
def IdentityRow.le (a b : IdentityRow) : Bool :=
  a.fullName < b.fullName || (a.fullName = b.fullName && !(b.id < a.id))

def listIdentities : Action (List Identity) := do
  ofResult (((← get).identities.mergeSort IdentityRow.le).mapM IdentityRow.read)

end Backlog.Store
