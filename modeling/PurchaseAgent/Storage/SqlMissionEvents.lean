import PurchaseAgent.Collections.StableSort
import PurchaseAgent.Domain.Mission
import PurchaseAgent.Services.MissionEventSerializer

/-!
The projection table of mission events: the rows that a save appends, the reader
over them, and the migration that fills the table from the stored logs.
-/

namespace PurchaseAgent

/-- A row of `mission_events`, whose constraints are checked where rows come in. -/
structure MissionEventModel where
  missionId : UUID
  sequence : Int
  eventId : UUID
  eventType : String
  occurredAt : Time
  event : RawEvent
deriving DecidableEq

namespace SqlMissionEvents

abbrev Table := List MissionEventModel

/-- The primary key and the unique event id. -/
def Unique (table : Table) : Prop :=
  (table.map fun row => (row.missionId, row.sequence)).Nodup ∧ (table.map (·.eventId)).Nodup

instance (table : Table) : Decidable (Unique table) := inferInstanceAs (Decidable (_ ∧ _))

/-- Rows that come in, with the constraints of the table. -/
def addAll (table added : Table) : Except PyException Table :=
  if Unique (table ++ added) then .ok (table ++ added)
  else .error (.other "IntegrityError" "UNIQUE constraint failed: mission_events")

section
variable (fields : EventFields)

/-- The rows of `append_many`. -/
def toModels (missionId : UUID) :
    List ExecutionEvent → Except PyException Table
  | [] => .ok []
  | event :: rest =>
    match MissionEventSerializer.serialize fields event with
    | .error error => .error error
    | .ok raw => (toModels missionId rest).map
        (⟨missionId, event.sequence, event.eventId, event.type, event.timestamp, raw⟩ :: ·)

def appendMany (table : Table) (missionId : UUID) (events : List ExecutionEvent) :
    Except PyException Table := do
  let added ← toModels fields missionId events
  addAll table added

def appendMissionEvents (table : Table) (mission : Mission) (previousLastEventSequence : Nat) :
    Except PyException Table :=
  appendMany fields table mission.id
    (mission.executionLog.filter (previousLastEventSequence < ·.sequence))

/-- One event of `list_after`: its row is read as a log of its own. -/
def readRow (newIds : UUID × UUID) (row : MissionEventModel) : Except PyException ExecutionEvent :=
  match MissionJsonEventStore.deserialize fields (fun _ => newIds) [row.event] row.sequence.toNat
      (some row.missionId) with
  | .error error => .error error
  | .ok [] => .error (.other "IndexError" "list index out of range")
  | .ok (event :: _) => .ok event

/-- The rows in turn, with the ids that are drawn for each of them. -/
def readRows (newIds : Nat → UUID × UUID) (index : Nat) :
    Table → Except PyException (List ExecutionEvent)
  | [] => .ok []
  | row :: rest =>
    match readRow fields (newIds index) row with
    | .error error => .error error
    | .ok event => (readRows newIds (index + 1) rest).map (event :: ·)

def rowsOf (missionId : UUID) (table : Table) : Table :=
  table.filter (·.missionId = missionId)

def listAfter (newIds : Nat → UUID × UUID) (table : Table) (missionId : UUID)
    (afterSequence fetchLimit : Nat) : Except PyException (List ExecutionEvent) :=
  readRows fields newIds 0
    ((Collections.sortedBy (·.sequence)
      ((rowsOf missionId table).filter ((afterSequence : Int) < ·.sequence))).take fetchLimit)

def listAll (newIds : Nat → UUID × UUID) (table : Table) (missionId : UUID) :
    Except PyException (List ExecutionEvent) :=
  listAfter fields newIds table missionId 0 2147483647

end

/-- A row of `missions` before the migration, as far as the migration reads it. -/
structure MissionRow where
  id : UUID
  lastEventSequence : Nat
  executionLog : List RawEvent

/-- How the database converts a JSON value to the type of a column. -/
structure ColumnCasts where
  integer : PyValue → Except PyException Int
  uuid : PyValue → Except PyException UUID
  text : PyValue → Except PyException String
  timestamp : PyValue → Except PyException Time

/-- A `NOT NULL` column from a key of an event; a missing key and JSON `null` are
both `NULL`. -/
def column {α : Type} (cast : PyValue → Except PyException α) (event : RawEvent) (key : String) :
    Except PyException α :=
  match event.get? key with
  | none | some .none =>
    .error (.other "IntegrityError" s!"null value in column of mission_events: {key}")
  | some value => cast value

section
variable (casts : ColumnCasts)

/-- The row that `upgrade` selects for one event of a log. -/
def backfillRow (missionId : UUID) (event : RawEvent) : Except PyException MissionEventModel := do
  let sequence ← column casts.integer event "sequence"
  let eventId ← column casts.uuid event "event_id"
  let eventType ← column casts.text event "type"
  let occurredAt ← column casts.timestamp event "timestamp"
  return ⟨missionId, sequence, eventId, eventType, occurredAt, event⟩

/-- `INSERT INTO mission_events ... SELECT ...` of `upgrade`. -/
def backfill (missions : List MissionRow) : Except PyException Table := do
  let rows ← (missions.flatMap fun mission =>
    mission.executionLog.map fun event => (mission.id, event)).mapM
      fun selected => backfillRow casts selected.1 selected.2
  addAll [] rows

end
end SqlMissionEvents
end PurchaseAgent
