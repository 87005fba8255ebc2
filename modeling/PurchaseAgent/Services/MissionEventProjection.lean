import PurchaseAgent.Services.ProviderResolutionHistory
import PurchaseAgent.Storage.SqlMissionEvents

/-!
The comparison of a mission's event projection with its log.
-/

namespace PurchaseAgent

inductive MissionEventProjectionVerificationStatus where
  | consistent
  | inconsistent
deriving DecidableEq, Repr

/-- A mismatch; its only field is the event as a whole. -/
structure MissionEventProjectionMismatch where
  sequence : Nat
deriving DecidableEq, Repr

structure MissionEventProjectionVerification where
  missionId : UUID
  status : MissionEventProjectionVerificationStatus
  canonicalEventCount : Nat
  projectionEventCount : Nat
  missingProjectionSequences : List Nat
  unexpectedProjectionSequences : List Nat
  mismatches : List MissionEventProjectionMismatch
deriving DecidableEq

namespace MissionEventProjection

def validateStatus (verification : MissionEventProjectionVerification) :
    Except PyException MissionEventProjectionVerification :=
  let isInconsistent :=
    verification.missingProjectionSequences ≠ [] ∨
      verification.unexpectedProjectionSequences ≠ [] ∨ verification.mismatches ≠ [] ∨
        verification.canonicalEventCount ≠ verification.projectionEventCount
  if verification.status = (if isInconsistent then .inconsistent else .consistent) then
    .ok verification
  else .error (validationError "verification status does not match comparison")

def validateUniqueSequences (events : List ExecutionEvent) (source : String) :
    Except PyException Unit :=
  if (events.map (·.sequence)).Nodup then .ok ()
  else .error (.valueError s!"{source} event sequences must be unique")

section
variable (fields : EventFields)

/-- `event.model_dump(mode="json")`. -/
def modelDump (event : ExecutionEvent) : Except PyException RawEvent := do
  let metadata ← PyValue.dumpJsonFields event.metadata
  return [("event_id", .str event.eventId.str),
    ("correlation_id", .str event.correlationId.str),
    ("causation_id", .ofText (event.causationId.map (·.str))),
    ("sequence", .int event.sequence),
    ("timestamp", .str (fields.dumpDatetime event.timestamp)),
    ("type", .str event.type),
    ("message", .str event.message),
    ("metadata", .dict metadata)]

/-- The event the dictionary of the events holds under a sequence. -/
def bySequence (events : List ExecutionEvent) (sequence : Nat) : Option ExecutionEvent :=
  events.find? (·.sequence = sequence)

/-- The mismatches at sequences that both sides have. -/
def mismatches (canonical projected : List ExecutionEvent) :
    List Nat → Except PyException (List MissionEventProjectionMismatch)
  | [] => .ok []
  | sequence :: rest =>
    match bySequence canonical sequence, bySequence projected sequence with
    | some expected, some actual => do
      let expected ← modelDump fields expected
      let actual ← modelDump fields actual
      let others ← mismatches canonical projected rest
      return if expected = actual then others else ⟨sequence⟩ :: others
    | _, _ => mismatches canonical projected rest

def compareMissionEventProjection (missionId : UUID)
    (canonicalEvents projectedEvents : List ExecutionEvent) :
    Except PyException MissionEventProjectionVerification := do
  validateUniqueSequences canonicalEvents "canonical"
  validateUniqueSequences projectedEvents "projection"
  let canonical := canonicalEvents.map (·.sequence)
  let projected := projectedEvents.map (·.sequence)
  let missing := Collections.sortedBy id (canonical.filter (· ∉ projected))
  let unexpected := Collections.sortedBy id (projected.filter (· ∉ canonical))
  let mismatches ← mismatches fields canonicalEvents projectedEvents
    (Collections.sortedBy id (canonical.filter (· ∈ projected)))
  let isInconsistent := missing ≠ [] ∨ unexpected ≠ [] ∨ mismatches ≠ []
  validateStatus
    ⟨missionId, if isInconsistent then .inconsistent else .consistent, canonical.length,
      projected.length, missing, unexpected, mismatches⟩

/-- `VerifyMissionEventProjection.execute`. -/
def verify (newIds : Nat → UUID × UUID) (repository : MissionReadRepository)
    (table : SqlMissionEvents.Table) (missionId : UUID) :
    Except PyException MissionEventProjectionVerification :=
  match repository.get missionId with
  | none => .error .missionNotFoundError
  | some mission => do
    let projectedEvents ← SqlMissionEvents.listAll fields newIds table missionId
    compareMissionEventProjection fields missionId mission.executionLog projectedEvents

end
end MissionEventProjection
end PurchaseAgent
