import PurchaseAgent.Storage.SqlMissionOutbox

/-!
The in-memory repository between the awaits of its tasks. It hands out the objects that
it stores, so a reader sees what a task has done to one before the task updates it.
-/

namespace PurchaseAgent

/-- The stored objects, and those that only tasks hold. -/
structure LiveMissions where
  missions : List Mission
  held : List Mission

/-- The edits of a task until its next await; with `true` one of them records an event. -/
inductive Edits : Bool → Mission → Mission → Prop
  | none {mission : Mission} : Edits false mission mission
  | edit {recorded : Bool} {before mission after : Mission} (edits : Edits recorded before mission)
      (edited : MissionEdit mission after) : Edits recorded before after
  | record {recorded : Bool} {before mission after : Mission} {eventId : UUID} {timestamp : Time}
      {eventType message : String} {metadata : List (String × PyValue)}
      (edits : Edits recorded before mission)
      (ok : mission.recordEvent eventId timestamp eventType message metadata = .ok after) :
      Edits true before after

/-- What a task does until its next await, or a method with what it stores and replaces. -/
inductive LiveCall where
  | turn (recorded : Bool)
  | turnHeld
  | copy
  | create
  | update (object old : Mission)
  | claimDue
  | expireDue
  | recoverStaleProcessing

/-- The turns of the tasks, and the methods that change what is stored; a method that takes
several missions is a step for each of them. -/
inductive LiveStep : LiveCall → LiveMissions → LiveMissions → Prop
  | turn {front back held : List Mission} {old after : Mission} {recorded : Bool}
      (edits : Edits recorded old after) :
      LiveStep (.turn recorded) ⟨front ++ old :: back, held⟩ ⟨front ++ after :: back, held⟩
  | turnHeld {missions front back : List Mission} {old after : Mission} {recorded : Bool}
      (edits : Edits recorded old after) :
      LiveStep .turnHeld ⟨missions, front ++ old :: back⟩ ⟨missions, front ++ after :: back⟩
  | copy {s : LiveMissions} {row after : Mission} {recorded : Bool} (stored : row ∈ s.missions)
      (edits : Edits recorded row after) :
      LiveStep .copy s { s with held := s.held ++ [after] }
  | create {s : LiveMissions} {mission : Mission} (fresh : mission.id ∉ s.missions.map (·.id))
      (validated : validateEventSequence mission.executionLog mission.lastEventSequence = .ok ()) :
      LiveStep .create s { s with missions := s.missions ++ [mission] }
  | update {front back heldFront heldBack : List Mission} {old object : Mission}
      (own : object.id = old.id) :
      LiveStep (.update object old) ⟨front ++ old :: back, heldFront ++ object :: heldBack⟩
        ⟨front ++ object :: back, heldFront ++ old :: heldBack⟩
  | claimDue {front back held : List Mission} {old : Mission} {currentTime : Time}
      (due : InMemoryMissionRepository.isDue currentTime old = true) :
      LiveStep .claimDue ⟨front ++ old :: back, held⟩
        ⟨front ++ InMemoryMissionRepository.claimedMission currentTime old :: back, held⟩
  | expireDue {front back held : List Mission} {old expired mission : Mission}
      {currentTime : Time} {eventId : UUID}
      (due : InMemoryMissionRepository.isExpired currentTime old = true)
      (transitioned : MissionStateMachine.transition old .expired = .ok expired)
      (recorded : expired.recordEvent eventId currentTime "mission_expired"
        "Mission expired before execution."
        [("expires_at", .ofTime old.expiresAt), ("previous_status", .str old.status.value)] =
          .ok mission) :
      LiveStep .expireDue ⟨front ++ old :: back, held⟩ ⟨front ++ mission :: back, held⟩
  | recoverStaleProcessing {front back held : List Mission} {old : Mission}
      {staleBefore currentTime : Time} {eventId : UUID}
      (stale : InMemoryMissionRepository.isStale staleBefore old = true)
      (recovered : (MissionStateMachine.recoverStale old eventId currentTime).1 = .ok ()) :
      LiveStep .recoverStaleProcessing ⟨front ++ old :: back, held⟩
        ⟨front ++ (MissionStateMachine.recoverStale old eventId currentTime).2 :: back, held⟩

end PurchaseAgent
