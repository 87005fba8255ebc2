import PurchaseAgent.Domain.Notification
import PurchaseAgent.Services.MissionEventSerializer
import PurchaseAgent.Storage.Memory

/-!
The saves of the SQL mission repository and the outbox rows that they add. Sessions
hold mission objects, each with the event sequence that it has last persisted.
-/

namespace PurchaseAgent

def notificationEventTypes : List String :=
  ["mission_cancelled", "mission_completed", "mission_expired", "mission_failed",
    "waiting_for_user_confirmation"]

def MissionJsonEventStore.eventsAfter (events : List ExecutionEvent) (sequence : Nat) :
    List ExecutionEvent :=
  events.filter (sequence < ·.sequence)

/-- What a row of the outbox tells of its event. -/
def NotificationOutboxMessage.content (message : NotificationOutboxMessage) :
    NotificationContent where
  missionId := message.missionId
  eventId := message.eventId
  eventType := message.eventType
  occurredAt := message.occurredAt
  payload := message.payload
  recipientIds := message.recipientIds

/-- A mission object of a session. -/
structure SessionMission where
  mission : Mission
  persistedLastEventSequence : Nat

/-- `mark_event_sequence_persisted`. -/
def SessionMission.persisted (mission : Mission) : SessionMission :=
  ⟨mission, mission.lastEventSequence⟩

namespace SqlMissionOutbox
variable (fields : EventFields)

/-- The row of an event, without its own id. -/
def contentOf (mission : Mission) (event : ExecutionEvent) :
    Except PyException NotificationContent :=
  (MissionEventSerializer.serialize fields event).map fun payload =>
    { missionId := mission.id
      eventId := event.eventId
      eventType := event.type
      occurredAt := event.timestamp
      payload := payload
      recipientIds := mission.participantIds }

def isNotification (event : ExecutionEvent) : Bool := event.type ∈ notificationEventTypes

/-- `_append_mission_events` on the outbox, with the ids that are drawn for the rows. -/
def appendMissionEvents (newIds : Nat → UUID) (outbox : List NotificationOutboxMessage)
    (mission : Mission) (previousLastEventSequence : Nat) :
    Except PyException (List NotificationOutboxMessage) :=
  (((MissionJsonEventStore.eventsAfter mission.executionLog previousLastEventSequence).filter
      isNotification).mapM (contentOf fields mission)).map fun contents =>
    outbox ++ contents.zipIdx.map fun (content, index) => content.message (newIds index)

end SqlMissionOutbox

/-- The tables, and every state that a mission object of a session has been in. -/
structure MissionSessions where
  missions : List Mission
  outbox : List NotificationOutboxMessage
  objects : List SessionMission

/-- What a service does to a mission object: it records an event, or it assigns fields
that are neither the log nor the participants. -/
inductive MissionEdit (mission : Mission) : Mission → Prop
  | recorded {eventId : UUID} {timestamp : Time} {eventType message : String}
      {metadata : List (String × PyValue)} {after : Mission}
      (ok : mission.recordEvent eventId timestamp eventType message metadata = .ok after) :
      MissionEdit mission after
  | assigned {after : Mission} (id : after.id = mission.id)
      (participantIds : after.participantIds = mission.participantIds)
      (executionLog : after.executionLog = mission.executionLog)
      (lastEventSequence : after.lastEventSequence = mission.lastEventSequence) :
      MissionEdit mission after

/-- A method of `SqlAlchemyMissionRepository` with what it saves, or an edit of an object. -/
inductive RepositoryCall where
  | edit (before after : Mission)
  | get
  | create (mission : Mission)
  | update (object : SessionMission)
  | claimDue (missionId : UUID)
  | expireDue (mission : Mission) (previousLastEventSequence : Nat)
  | recoverStaleProcessing (missionId : UUID)

/-- A committed method of `SqlAlchemyMissionRepository`, or an edit of an object. A
method that takes several rows is a step for each of them. -/
inductive SessionStep (fields : EventFields) :
    RepositoryCall → MissionSessions → MissionSessions → Prop
  | edit {s : MissionSessions} {object : SessionMission} {after : Mission}
      (held : object ∈ s.objects) (edited : MissionEdit object.mission after) :
      SessionStep fields (.edit object.mission after) s
        { s with objects := s.objects ++ [⟨after, object.persistedLastEventSequence⟩] }
  | load {s : MissionSessions} {row : Mission} (stored : row ∈ s.missions) :
      SessionStep fields .get s { s with objects := s.objects ++ [.persisted row] }
  | create {s : MissionSessions} {mission : Mission} {newIds : Nat → UUID} {persisted : Nat}
      {outbox : List NotificationOutboxMessage} (fresh : mission.id ∉ s.missions.map (·.id))
      (validated : validateEventSequence mission.executionLog mission.lastEventSequence = .ok ())
      (unsaved : persisted ≤ mission.lastEventSequence)
      (appended : SqlMissionOutbox.appendMissionEvents fields newIds s.outbox mission 0 =
        .ok outbox) :
      SessionStep fields (.create mission) s
        ⟨s.missions ++ [mission], outbox,
          s.objects ++ [⟨mission, persisted⟩, .persisted mission]⟩
  | update {front back : List Mission} {old : Mission} {objects : List SessionMission}
      {object : SessionMission} {newIds : Nat → UUID}
      {outbox outbox' : List NotificationOutboxMessage}
      (held : object ∈ objects) (own : old.id = object.mission.id)
      (expected : old.lastEventSequence = object.persistedLastEventSequence)
      (validated : validateEventSequence object.mission.executionLog
        object.mission.lastEventSequence = .ok ())
      (appended : SqlMissionOutbox.appendMissionEvents fields newIds outbox object.mission
        object.persistedLastEventSequence = .ok outbox') :
      SessionStep fields (.update object) ⟨front ++ old :: back, outbox, objects⟩
        ⟨front ++ object.mission :: back, outbox', objects ++ [.persisted object.mission]⟩
  | claimDue {front back : List Mission} {old : Mission} {outbox : List NotificationOutboxMessage}
      {objects : List SessionMission} {currentTime : Time}
      (due : InMemoryMissionRepository.isDue currentTime old = true) :
      SessionStep fields (.claimDue old.id) ⟨front ++ old :: back, outbox, objects⟩
        ⟨front ++ InMemoryMissionRepository.claimedMission currentTime old :: back, outbox,
          objects ++ [.persisted (InMemoryMissionRepository.claimedMission currentTime old)]⟩
  | expireDue {front back : List Mission} {old expired mission : Mission}
      {outbox outbox' : List NotificationOutboxMessage} {objects : List SessionMission}
      {currentTime : Time} {eventId : UUID} {newIds : Nat → UUID}
      (due : InMemoryMissionRepository.isExpired currentTime old = true)
      (transitioned : MissionStateMachine.transition old .expired = .ok expired)
      (recorded : expired.recordEvent eventId currentTime "mission_expired"
        "Mission expired before execution."
        [("expires_at", .ofTime old.expiresAt), ("previous_status", .str old.status.value)] =
          .ok mission)
      (appended : SqlMissionOutbox.appendMissionEvents fields newIds outbox mission
        old.lastEventSequence = .ok outbox') :
      SessionStep fields (.expireDue mission old.lastEventSequence)
        ⟨front ++ old :: back, outbox, objects⟩
        ⟨front ++ { old with
            status := mission.status
            lastEventSequence := mission.lastEventSequence
            executionLog := mission.executionLog } :: back,
          outbox', objects ++ [.persisted mission]⟩
  | recoverStaleProcessing {front back : List Mission} {old : Mission}
      {outbox : List NotificationOutboxMessage} {objects : List SessionMission}
      {staleBefore currentTime : Time} {eventId : UUID}
      (stale : InMemoryMissionRepository.isStale staleBefore old = true)
      (recovered : (MissionStateMachine.recoverStale old eventId currentTime).1 = .ok ()) :
      SessionStep fields (.recoverStaleProcessing old.id) ⟨front ++ old :: back, outbox, objects⟩
        ⟨front ++ (MissionStateMachine.recoverStale old eventId currentTime).2 :: back, outbox,
          objects ++ [⟨(MissionStateMachine.recoverStale old eventId currentTime).2,
            old.lastEventSequence⟩]⟩

/-- A step of any call. -/
def AnySessionStep (fields : EventFields) (s s' : MissionSessions) : Prop :=
  ∃ call, SessionStep fields call s s'

end PurchaseAgent
