import PurchaseAgent.Api.Creation
import PurchaseAgent.Transactions.VersionedRow

/-!
The requests that change an identity, over either repository. Each reads the
identity, checks `If-Match` and writes under the version it has read.
-/

namespace PurchaseAgent

open Transactions

structure Document where
  id : UUID
  type : DocumentType
  number : String
  expiresAt : Option Date

/-- `Identity`, as it is stored. -/
structure IdentityRecord where
  id : UUID
  version : Nat
  displayName : String
  firstName : String
  lastName : String
  birthDate : Date
  documents : List Document
  preferences : Preferences

def Sample.passenger : IdentityRecord :=
  ⟨⟨2⟩, 0, "Anna", "Anna", "Ivanova", ⟨1990, 5, 1⟩, [], ⟨⟨none, none, none⟩, ⟨true, [], none⟩⟩⟩

/-- The fields of a request that are set; its documents have drawn their ids. -/
structure IdentityUpdate where
  displayName : Option String := none
  firstName : Option String := none
  lastName : Option String := none
  birthDate : Option Date := none
  documents : Option (List Document) := none

def IdentityUpdate.apply (update : IdentityUpdate) (identity : IdentityRecord) : IdentityRecord :=
  { identity with
    displayName := update.displayName.getD identity.displayName
    firstName := update.firstName.getD identity.firstName
    lastName := update.lastName.getD identity.lastName
    birthDate := update.birthDate.getD identity.birthDate
    documents := update.documents.getD identity.documents }

/-- `If-Match` as `_require_identity_version` reads it. -/
def quotedVersion (ifMatch : String) : Option Int :=
  let normalized := (strip ifMatch).toList
  let isQuote (c : Char) : Bool := c.toNat = 34
  if 2 ≤ normalized.length ∧ normalized.head?.any isQuote ∧ normalized.getLast?.any isQuote then
    pyInt (String.ofList normalized.tail.dropLast)
  else none

def identityVersionRequired : HTTPException :=
  .coded 428 "identity_version_required" "If-Match is required for Identity changes."

def invalidIdentityVersion : HTTPException :=
  .coded 422 "invalid_identity_version" "If-Match must contain a quoted Identity version."

def identityVersionConflict : HTTPException :=
  .coded 412 "identity_version_conflict" "Identity changed; reload it and try again."

def requireIdentityVersion (ifMatch : Option String) (identity : IdentityRecord) :
    Except HTTPException Nat :=
  match ifMatch with
  | none => .error identityVersionRequired
  | some ifMatch =>
    match quotedVersion ifMatch with
    | none => .error invalidIdentityVersion
    | some expectedVersion =>
      if expectedVersion = identity.version then .ok identity.version
      else .error identityVersionConflict

/-- A write request; a deletion has looked for missions with the identity. -/
inductive IdentityRequest where
  | patch (ifMatch : Option String) (update : IdentityUpdate)
  | preferences (ifMatch : Option String) (value : Preferences)
  | delete (ifMatch : Option String) (referenced : Bool)

inductive IdentityRepository where
  | inMemory
  | sqlAlchemy

namespace IdentityRepository

/-- `update`, from the identity a request has made. The SQL repository leaves the
preferences of the row. -/
def update (identity : IdentityRecord) : IdentityRepository → IdentityRecord → IdentityRecord
  | .inMemory, row => { identity with version := row.version + 1 }
  | .sqlAlchemy, row =>
    { row with
      displayName := identity.displayName
      firstName := identity.firstName
      lastName := identity.lastName
      birthDate := identity.birthDate
      documents := identity.documents
      version := row.version + 1 }

def updatePreferences (preferences : Preferences) (row : IdentityRecord) : IdentityRecord :=
  { row with preferences := preferences, version := row.version + 1 }

/-- `get`; the SQL repository loads the documents in a second statement. -/
def reread : IdentityRepository → IdentityRecord → Option IdentityRecord → IdentityRecord
  | .inMemory, identity, _ => identity
  | .sqlAlchemy, identity, found =>
    { identity with documents := (found.map (·.documents)).getD [] }

end IdentityRepository

/-- What a request writes once it has read the identity, if it does. -/
def IdentityRequest.decide (repository : IdentityRepository) :
    IdentityRequest → IdentityRecord → Option (IdentityRecord → Option IdentityRecord)
  | .patch ifMatch update, identity =>
    match requireIdentityVersion ifMatch identity with
    | .error _ => none
    | .ok _ => some fun row => some (repository.update (update.apply identity) row)
  | .preferences ifMatch value, identity =>
    match requireIdentityVersion ifMatch identity with
    | .error _ => none
    | .ok _ => some fun row => some (IdentityRepository.updatePreferences value row)
  | .delete ifMatch referenced, identity =>
    match requireIdentityVersion ifMatch identity with
    | .error _ => none
    | .ok _ => if referenced then none else some fun _ => none

/-- The identity as the row of a repository. -/
def IdentityRepository.protocol (repository : IdentityRepository) :
    Protocol IdentityRecord IdentityRequest where
  version := IdentityRecord.version
  reread := repository.reread
  decide := IdentityRequest.decide repository

end PurchaseAgent
