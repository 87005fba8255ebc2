import PurchaseAgent.Api.MissionCommands
import PurchaseAgent.Services.MissionEventSerializer

/-!
A request in the database backend. Its session sees the committed rows and its own
changes, which are committed when the endpoint returns and lost when it raises.
-/

namespace PurchaseAgent

open Cooperative

/-- The rows of missions that the database has committed, and those that the session
of a request sees. What the request passes to `update` is remembered. -/
structure SessionRows where
  committed : List Mission
  rows : List Mission
  passed : List Mission

inductive SessionOp where
  | get (id : UUID)
  | update (r : Ref)

abbrev SessionOp.Answer : SessionOp → Type
  | .get _ => Option Ref
  | .update _ => Except PyException Ref

namespace SessionRows
variable {σ : Type}

/-- `session.get`, and the object that `mission_from_model` builds. -/
def get (id : UUID) (w : World SessionRows σ) : Option Ref × World SessionRows σ :=
  match w.repository.rows.find? (·.id = id) with
  | none => (none, w)
  | some row =>
    let (r, w) := w.allocate ⟨row, row.lastEventSequence⟩
    (some r, w)

/-- `update`, on the rows of missions. -/
def update (r : Ref) (w : World SessionRows σ) : Except PyException Ref × World SessionRows σ :=
  let mission := w.mission r
  let w := { w with repository := { w.repository with passed := w.repository.passed ++ [mission] } }
  match validateEventSequence mission.executionLog mission.lastEventSequence with
  | .error error => (.error error.raised, w)
  | .ok () =>
    match w.repository.rows.find? (·.id = mission.id) with
    | none => (.error .repositoryEntityNotFoundError, w)
    | some row =>
      if row.lastEventSequence ≠ (w.objects r).persistedLastEventSequence then
        (.error .missionEventSequenceConflictError, w)
      else
        (.ok r, { w.setObject r ⟨mission, mission.lastEventSequence⟩ with
          repository := { w.repository with
            rows := w.repository.rows.map fun other =>
              if other.id = mission.id then mission else other } })

/-- The session has been opened: it sees what is committed. -/
def opened (committed : List Mission) : SessionRows := ⟨committed, committed, []⟩

def commit (rows : SessionRows) : SessionRows := opened rows.rows

def rollback (rows : SessionRows) : SessionRows := opened rows.committed

end SessionRows

def SessionOp.exec {σ : Type} : (o : SessionOp) → World SessionRows σ →
    o.Answer × World SessionRows σ
  | .get id, w => SessionRows.get id w
  | .update r, w => SessionRows.update r w

/-- The session of a request, as a backend. -/
abbrev requestSession : Backend where
  Op := SessionOp
  Answer := SessionOp.Answer
  State := SessionRows
  ready _ _ _ := true
  exec _ _ := SessionOp.exec

/-- `SqlAlchemyMissionRepository`, as far as `run_mission` calls it. -/
def sessionRepository (others : MissionRepository requestSession) :
    MissionRepository requestSession :=
  { others with
    get := fun id => Service.lift
      (Prog.perform (F := signature requestSession) (.repository (.get id)))
    update := fun r => ExceptT.mk
      (Prog.perform (F := signature requestSession) (.repository (.update r))) }

/-- `get_db_session` around an endpoint: the answer, with the rows that are committed
once the request has ended. When the endpoint raises, the session is left without a
commit. -/
def getDbSession {α : Type} (outcome : Except ApiException α × SessionRows) :
    Except ApiException α × List Mission :=
  match outcome with
  | (.ok answer, rows) => (.ok answer, rows.commit.committed)
  | (.error error, rows) => (.error error, rows.rollback.committed)

end PurchaseAgent
