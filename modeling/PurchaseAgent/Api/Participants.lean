import PurchaseAgent.Api.Identities

/-!
Creation of missions and deletion of identities in the database. Each request is
one transaction, whose statements read what is committed; no lock and no
constraint joins the two tables.
-/

namespace PurchaseAgent

/-- The committed rows that the requests read. -/
structure ParticipantTables where
  identities : List IdentityRecord
  missions : List Mission

namespace ParticipantTables

def get (tables : ParticipantTables) (identityId : UUID) : Option IdentityRecord :=
  tables.identities.find? fun row => row.id = identityId

def referencesIdentity (tables : ParticipantTables) (identityId : UUID) : Bool :=
  tables.missions.any fun row => identityId ∈ row.participantIds

def withMission (tables : ParticipantTables) (mission : Mission) : ParticipantTables :=
  { tables with missions := tables.missions ++ [mission] }

def withoutIdentity (tables : ParticipantTables) (identityId : UUID) : ParticipantTables :=
  { tables with identities := tables.identities.filter fun row => row.id ≠ identityId }

end ParticipantTables

inductive ParticipantRequest where
  | createMission (mission : MissionCreate) (idempotencyKey : Option String)
  | deleteIdentity (identityId : UUID) (ifMatch : Option String)

/-- What a transaction has committed. -/
inductive ParticipantChange where
  | created (mission : Mission)
  | deleted (identityId : UUID)

def ParticipantChange.apply : ParticipantChange → ParticipantTables → ParticipantTables
  | .created mission, tables => tables.withMission mission
  | .deleted identityId, tables => tables.withoutIdentity identityId

/-- A commit, with what other transactions have committed since this one looked
at the table that it does not write. -/
structure ParticipantCommit where
  change : ParticipantChange
  during : List ParticipantChange

/-- How far a request has come. `since` counts the commits before its look at the
other table. -/
inductive ParticipantStage where
  | idle
  | checking (rest : List UUID) (unknown : List String) (since : Nat)
  | inserted (mission : Mission) (since : Nat)
  | identified (identityId : UUID) (expectedVersion : Nat)
  | unreferenced (identityId : UUID) (expectedVersion : Nat) (since : Nat)
  | deleting (identityId : UUID) (since : Nat)
  | ended (answer : Option HTTPException)
  | committed

structure ParticipantConfig where
  tables : ParticipantTables
  stage : Nat → ParticipantStage
  log : List ParticipantCommit

namespace ParticipantConfig

def start (tables : ParticipantTables) : ParticipantConfig := ⟨tables, fun _ => .idle, []⟩

def enter (c : ParticipantConfig) (i : Nat) (stage : ParticipantStage) : ParticipantConfig :=
  { c with stage := Function.update c.stage i stage }

def commit (c : ParticipantConfig) (i : Nat) (change : ParticipantChange) (since : Nat) :
    ParticipantConfig :=
  { c.enter i .committed with
    tables := change.apply c.tables
    log := c.log ++ [⟨change, (c.log.map (·.change)).drop since⟩] }

end ParticipantConfig

def identityNotFound : HTTPException := ⟨404, .str "Identity not found"⟩

def identityInUse : HTTPException :=
  .coded 409 "identity_in_use" "Identity is referenced by one or more missions."

/-- One statement of a request, or the end of its transaction. -/
inductive ParticipantStep (library : CreationLibrary) (requests : Nat → ParticipantRequest) :
    ParticipantConfig → ParticipantConfig → Prop
  | receive {c : ParticipantConfig} {i : Nat} {mission : MissionCreate} {key : Option String}
      (request : requests i = .createMission mission key) (idle : c.stage i = .idle) :
      ParticipantStep library requests c
        (c.enter i (.checking mission.participantIds [] c.log.length))
  | participant {c : ParticipantConfig} {i : Nat} {participantId : UUID} {rest : List UUID}
      {unknown : List String} {since : Nat}
      (checking : c.stage i = .checking (participantId :: rest) unknown since) :
      ParticipantStep library requests c (c.enter i (.checking rest
        (if (c.tables.get participantId).isNone then unknown ++ [participantId.str] else unknown)
        since))
  | unknown {c : ParticipantConfig} {i : Nat} {first : String} {unknown : List String}
      {since : Nat} (checking : c.stage i = .checking [] (first :: unknown) since) :
      ParticipantStep library requests c
        (c.enter i (.ended (some (unknownParticipants (first :: unknown)))))
  /-- With a key `begin` may find the receipt of another creation. -/
  | receipt {c : ParticipantConfig} {i : Nat} {mission : MissionCreate} {key : String}
      {since : Nat} {answer : Option HTTPException}
      (request : requests i = .createMission mission (some key))
      (checking : c.stage i = .checking [] [] since) :
      ParticipantStep library requests c (c.enter i (.ended answer))
  | insert {c : ParticipantConfig} {i : Nat} {mission : MissionCreate} {key : Option String}
      {since : Nat} {id : UUID} {row : Mission}
      (request : requests i = .createMission mission key)
      (checking : c.stage i = .checking [] [] since)
      (valid : mission.toDomain library id = .ok row) :
      ParticipantStep library requests c (c.enter i (.inserted row since))
  | absent {c : ParticipantConfig} {i : Nat} {identityId : UUID} {ifMatch : Option String}
      (request : requests i = .deleteIdentity identityId ifMatch) (idle : c.stage i = .idle)
      (absent : c.tables.get identityId = none) :
      ParticipantStep library requests c (c.enter i (.ended (some identityNotFound)))
  | unmatched {c : ParticipantConfig} {i : Nat} {identityId : UUID} {ifMatch : Option String}
      {identity : IdentityRecord} {answer : HTTPException}
      (request : requests i = .deleteIdentity identityId ifMatch) (idle : c.stage i = .idle)
      (found : c.tables.get identityId = some identity)
      (required : requireIdentityVersion ifMatch identity = .error answer) :
      ParticipantStep library requests c (c.enter i (.ended (some answer)))
  | identify {c : ParticipantConfig} {i : Nat} {identityId : UUID} {ifMatch : Option String}
      {identity : IdentityRecord} {expectedVersion : Nat}
      (request : requests i = .deleteIdentity identityId ifMatch) (idle : c.stage i = .idle)
      (found : c.tables.get identityId = some identity)
      (required : requireIdentityVersion ifMatch identity = .ok expectedVersion) :
      ParticipantStep library requests c (c.enter i (.identified identityId expectedVersion))
  | referenced {c : ParticipantConfig} {i : Nat} {identityId : UUID} {expectedVersion : Nat}
      (identified : c.stage i = .identified identityId expectedVersion)
      (referenced : c.tables.referencesIdentity identityId = true) :
      ParticipantStep library requests c (c.enter i (.ended (some identityInUse)))
  | unreferenced {c : ParticipantConfig} {i : Nat} {identityId : UUID} {expectedVersion : Nat}
      (identified : c.stage i = .identified identityId expectedVersion)
      (unreferenced : c.tables.referencesIdentity identityId = false) :
      ParticipantStep library requests c
        (c.enter i (.unreferenced identityId expectedVersion c.log.length))
  /-- The statement waits while another transaction has deleted the row. -/
  | delete {c : ParticipantConfig} {i : Nat} {identityId : UUID} {expectedVersion since : Nat}
      {row : IdentityRecord}
      (unreferenced : c.stage i = .unreferenced identityId expectedVersion since)
      (free : ∀ j since, c.stage j ≠ .deleting identityId since)
      (found : c.tables.get identityId = some row) (version : row.version = expectedVersion) :
      ParticipantStep library requests c (c.enter i (.deleting identityId since))
  | missed {c : ParticipantConfig} {i : Nat} {identityId : UUID} {expectedVersion since : Nat}
      (unreferenced : c.stage i = .unreferenced identityId expectedVersion since)
      (free : ∀ j since, c.stage j ≠ .deleting identityId since)
      (moved : ∀ row ∈ c.tables.get identityId, row.version ≠ expectedVersion) :
      ParticipantStep library requests c (c.enter i (.ended (some
        (if (c.tables.get identityId).isNone then identityNotFound else identityVersionConflict))))
  | commitMission {c : ParticipantConfig} {i : Nat} {mission : Mission} {since : Nat}
      (inserted : c.stage i = .inserted mission since) :
      ParticipantStep library requests c (c.commit i (.created mission) since)
  | commitIdentity {c : ParticipantConfig} {i : Nat} {identityId : UUID} {since : Nat}
      (deleting : c.stage i = .deleting identityId since) :
      ParticipantStep library requests c (c.commit i (.deleted identityId) since)
  | rollback {c : ParticipantConfig} {i : Nat} (running : c.stage i ≠ .committed) :
      ParticipantStep library requests c (c.enter i (.ended none))

end PurchaseAgent
