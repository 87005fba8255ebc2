import PurchaseAgent.Storage.SqlProviderHistory

/-!
The comparison of a mission's provider history projection with its log.
-/

namespace PurchaseAgent

inductive ProviderHistoryProjectionVerificationStatus where
  | consistent
  | inconsistent
deriving DecidableEq, Repr

inductive ProviderHistoryProjectionMismatchField where
  | eventType
  | occurredAt
  | payload
deriving DecidableEq, Repr

structure ProviderHistoryProjectionMismatch where
  sequence : Nat
  fields : List ProviderHistoryProjectionMismatchField
deriving DecidableEq, Repr

structure MissionProviderHistoryProjectionVerification where
  missionId : UUID
  status : ProviderHistoryProjectionVerificationStatus
  canonicalEventCount : Nat
  projectionEventCount : Nat
  missingProjectionSequences : List Nat
  unexpectedProjectionSequences : List Nat
  mismatches : List ProviderHistoryProjectionMismatch
deriving DecidableEq

namespace ProviderHistoryVerification

def validateStatus (verification : MissionProviderHistoryProjectionVerification) :
    Except PyException MissionProviderHistoryProjectionVerification :=
  let hasDifference :=
    verification.missingProjectionSequences ≠ [] ∨
      verification.unexpectedProjectionSequences ≠ [] ∨ verification.mismatches ≠ [] ∨
        verification.canonicalEventCount ≠ verification.projectionEventCount
  if verification.status = (if hasDifference then .inconsistent else .consistent) then
    .ok verification
  else .error (validationError "verification status does not match comparison")

/-- The fields in which two projections of one sequence differ. -/
def mismatchFields (expected actual : ProviderHistoryProjectionEvent) :
    List ProviderHistoryProjectionMismatchField :=
  (if expected.eventType ≠ actual.eventType then [.eventType] else []) ++
    (if expected.occurredAt ≠ actual.occurredAt then [.occurredAt] else []) ++
    (if expected.payload.dump ≠ actual.payload.dump then [.payload] else [])

/-- The event the dictionary of the projections holds under a sequence. -/
def bySequence (events : List ProviderHistoryProjectionEvent) (sequence : Nat) :
    Option ProviderHistoryProjectionEvent :=
  events.find? (·.sequence = sequence)

def mismatchAt (canonical projected : List ProviderHistoryProjectionEvent) (sequence : Nat) :
    Option ProviderHistoryProjectionMismatch :=
  match bySequence canonical sequence, bySequence projected sequence with
  | some expected, some actual =>
    if mismatchFields expected actual = [] then none
    else some ⟨sequence, mismatchFields expected actual⟩
  | _, _ => none

def compareProviderHistoryProjection (missionId : UUID) (canonicalEvents : List ExecutionEvent)
    (projectionEvents : List ProviderHistoryProjectionEvent) :
    Except PyException MissionProviderHistoryProjectionVerification := do
  if ¬ (canonicalEvents.map (·.sequence)).Nodup then
    .error (.valueError "canonical event sequences must be unique")
  else if ¬ (projectionEvents.map (·.sequence)).Nodup then
    .error (.valueError "projection event sequences must be unique")
  else
    let canonical ← providerProjections missionId canonicalEvents.zipIdx
    let expected := canonical.map (·.sequence)
    let actual := projectionEvents.map (·.sequence)
    let missing := Collections.sortedBy id (expected.filter (· ∉ actual))
    let unexpected := Collections.sortedBy id (actual.filter (· ∉ expected))
    let mismatches := (Collections.sortedBy id (expected.filter (· ∈ actual))).filterMap
      (mismatchAt canonical projectionEvents)
    let inconsistent := missing ≠ [] ∨ unexpected ≠ [] ∨ mismatches ≠ []
    validateStatus
      ⟨missionId, if inconsistent then .inconsistent else .consistent, canonical.length,
        projectionEvents.length, missing, unexpected, mismatches⟩

/-- `VerifyMissionProviderHistoryProjection.execute`. -/
def verify (repository : MissionReadRepository) (table : SqlProviderHistory.Table)
    (missionId : UUID) : Except PyException MissionProviderHistoryProjectionVerification :=
  match repository.get missionId with
  | none => .error .missionNotFoundError
  | some mission => do
    let projectionEvents ← SqlProviderHistory.listAllForMission table missionId
    compareProviderHistoryProjection missionId mission.executionLog projectionEvents

end ProviderHistoryVerification
end PurchaseAgent
