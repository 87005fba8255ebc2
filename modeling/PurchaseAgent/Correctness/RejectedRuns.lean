import PurchaseAgent.Correctness.ProviderPreview
import PurchaseAgent.Storage.SqlSession

/-!
Runs that are rejected. The record that `run_mission` passes to `update` is in the
session of the request only, and the request ends with an exception.
-/

namespace PurchaseAgent

open Cooperative Receipts

/-- Why a run is rejected, with the type of the event that it records. -/
inductive RunRejected (registry : ProviderRegistry) (now : Time) (mission : Mission) :
    String → Prop
  | expired {expiresAt : Time} (startable : mission.status ∈ startableStatuses false)
      (expires : mission.expiresAt = some expiresAt) (expired : expiresAt ≤ now) :
      RunRejected registry now mission "mission_expired"
  | unresolved {error : PyException} {metadata : List (String × PyValue)}
      (comes : ComesToResolve {} now mission)
      (failed : ProviderResolver.resolve registry mission = .error error)
      (payload : providerResolutionFailurePayload mission error = .ok metadata) :
      RunRejected registry now mission "provider_resolution_failed"

section
variable {σ : Type} {env : Environment σ} {t : TaskId}
  {others : MissionRepository requestSession} {registry : ProviderRegistry}

/-- An event with a new id has been passed to `update`. -/
structure Passed (before after : World SessionRows σ) (eventId : UUID) (eventType : String) :
    Prop where
  committed : after.repository.committed = before.repository.committed
  recorded : ∃ mission ∈ after.repository.passed, ∃ event ∈ mission.executionLog,
    event.eventId = eventId ∧ event.type = eventType

theorem update_passes (r : Ref) (w : World SessionRows σ) :
    (SessionRows.update r w).2.repository.committed = w.repository.committed ∧
      w.mission r ∈ (SessionRows.update r w).2.repository.passed := by
  simp only [SessionRows.update]
  split
  · exact ⟨rfl, List.mem_append_right _ (List.mem_singleton_self _)⟩
  · split
    · exact ⟨rfl, List.mem_append_right _ (List.mem_singleton_self _)⟩
    · split
      · exact ⟨rfl, List.mem_append_right _ (List.mem_singleton_self _)⟩
      · exact ⟨rfl, List.mem_append_right _ (List.mem_singleton_self _)⟩

/-- The world with the object of a row that has been loaded. -/
def World.loaded (w : World SessionRows σ) (row : Mission) : World SessionRows σ :=
  (w.allocate ⟨row, row.lastEventSequence⟩).2

theorem loaded_mission (w : World SessionRows σ) (row : Mission) :
    (w.loaded row).mission w.nextRef = row := by
  simp [World.loaded, World.allocate, World.setObject, World.mission]

theorem eval_get {w : World SessionRows σ} {missionId : UUID} {row : Mission}
    (found : w.repository.rows.find? (·.id = missionId) = some row) :
    ((sessionRepository others).get missionId).run.eval (machine requestSession env) t w =
      (.ok (some w.nextRef), w.loaded row) := by
  have got : SessionRows.get missionId w = (some w.nextRef, w.loaded row) := by
    rw [SessionRows.get, found]
    rfl
  change (Except.ok (SessionRows.get missionId w).1, (SessionRows.get missionId w).2) = _
  rw [got]

theorem eval_read (r : Ref) (w : World SessionRows σ) :
    (Service.read r : Service requestSession Mission).run.eval (machine requestSession env) t w =
      (.ok (w.mission r), w) := rfl

theorem eval_recordEvent {r : Ref} {w : World SessionRows σ} {eventType message : String}
    {metadata : List (String × PyValue)} (timestamp : Time)
    (fresh : (w.mission r).FreshFor (env.newEventId w.idsDrawn)) :
    (Service.recordEvent r timestamp eventType message metadata :
        Service requestSession Unit).run.eval (machine requestSession env) t w =
      (.ok (), w.drawId.setMission r ((w.mission r).append ((w.mission r).nextEvent
        (env.newEventId w.idsDrawn) timestamp eventType message metadata))) := by
  change w.drawId.attemptSet r ((w.mission r).recordEvent (env.newEventId w.idsDrawn) timestamp
    eventType message metadata) = _
  rw [Mission.recordEvent_of_fresh _ fresh]
  rfl

/-- An update after an event has been recorded passes the event on. -/
theorem eval_update (r : Ref) (w : World SessionRows σ) :
    ((sessionRepository others).update r).run.eval (machine requestSession env) t w =
      SessionRows.update r w := rfl

/-- Once the event is recorded, the update passes it on, whatever its outcome is. -/
theorem passed_update {r : Ref} {w before : World SessionRows σ} {eventId : UUID}
    {timestamp : Time} {eventType message : String} {metadata : List (String × PyValue)}
    {mission : Mission} (recorded : w.mission r =
      mission.append (mission.nextEvent eventId timestamp eventType message metadata))
    (committed : w.repository.committed = before.repository.committed) :
    Passed before (SessionRows.update r w).2 eventId eventType := by
  obtain ⟨kept, passed⟩ := update_passes r w
  refine ⟨kept.trans committed, w.mission r, passed,
    mission.nextEvent eventId timestamp eventType message metadata, ?_, rfl, rfl⟩
  rw [recorded]
  exact List.mem_append_right _ (List.mem_singleton_self _)

/-- The run raises, and its record has been passed to `update`. -/
def RaisesPassed (w : World SessionRows σ) (eventId : UUID) (eventType : String)
    (outcome : Except PyException Ref × World SessionRows σ) : Prop :=
  (∃ error, outcome.1 = .error error) ∧ Passed w outcome.2 eventId eventType

/-- An update before a program that raises. -/
theorem raises_of_update {r : Ref} {w before : World SessionRows σ} {eventId : UUID}
    {eventType : String} {f : Ref → Service requestSession Ref}
    (passed : Passed before (SessionRows.update r w).2 eventId eventType)
    (raises : ∀ r w, ∃ error,
      (f r).run.eval (machine requestSession env) t w = (.error error, w)) :
    RaisesPassed before eventId eventType
      (((sessionRepository others).update r >>= f).run.eval (machine requestSession env) t w) := by
  rw [eval_seq, eval_update]
  cases outcome : SessionRows.update r w with
  | mk result after =>
      rw [outcome] at passed
      cases result with
      | error error => exact ⟨⟨error, rfl⟩, passed⟩
      | ok updated =>
          obtain ⟨error, raised⟩ := raises updated after
          dsimp only [proceed]
          rw [raised]
          exact ⟨⟨error, rfl⟩, passed⟩

theorem eval_addEvent {r : Ref} {w : World SessionRows σ} {eventType message : String}
    {metadata : List (String × PyValue)}
    (fresh : (w.mission r).FreshFor (env.newEventId w.idsDrawn)) :
    (Service.addEvent r eventType message metadata :
        Service requestSession Unit).run.eval (machine requestSession env) t w =
      (.ok (), ({ w with clockReads := w.clockReads + 1 } : World SessionRows σ).drawId.setMission r
        ((w.mission r).append ((w.mission r).nextEvent (env.newEventId w.idsDrawn)
          (env.utcNow w.clockReads) eventType message metadata))) := by
  rw [Service.addEvent, eval_seq]
  exact eval_recordEvent (w := { w with clockReads := w.clockReads + 1 }) _ fresh

theorem providerResolutionFailed_raises {r : Ref} {w before : World SessionRows σ}
    {mission : Mission} {error : PyException} {metadata : List (String × PyValue)}
    (payload : providerResolutionFailurePayload mission error = .ok metadata)
    (fresh : (w.mission r).FreshFor (env.newEventId w.idsDrawn))
    (committed : w.repository.committed = before.repository.committed) :
    RaisesPassed before (env.newEventId w.idsDrawn) "provider_resolution_failed"
      ((providerResolutionFailed (sessionRepository others) r mission error).run.eval
        (machine requestSession env) t w) := by
  have metadata_ok : (Service.fromExcept (providerResolutionFailurePayload mission error) :
      Service requestSession (List (String × PyValue))).run.eval (machine requestSession env) t w =
        (.ok metadata, w) := by
    rw [payload]
    rfl
  rw [providerResolutionFailed, eval_seq, metadata_ok]
  dsimp only [proceed]
  rw [eval_seq, eval_addEvent fresh]
  dsimp only [proceed]
  apply raises_of_update
  · exact passed_update (World.mission_setMission _ _ _) committed
  · exact fun _ _ => ⟨error, rfl⟩

theorem eval_transition {r : Ref} {w : World SessionRows σ} {target : MissionStatus}
    {options : MissionStateMachine.Options} {after : Mission}
    (transitioned : MissionStateMachine.transition (w.mission r) target options = .ok after) :
    (Service.transition r target options : Service requestSession Unit).run.eval
      (machine requestSession env) t w = (.ok (), w.setMission r after) := by
  change w.attemptSet r (MissionStateMachine.transition (w.mission r) target options) = _
  rw [transitioned]
  rfl

/-- A mission that has expired is passed to `update` with its event. -/
theorem eval_expireMissionIfDue {r : Ref} {w : World SessionRows σ} {now expiresAt : Time}
    (startable : (w.mission r).status ∈ startableStatuses false)
    (expires : (w.mission r).expiresAt = some expiresAt) (expired : expiresAt ≤ now)
    (fresh : (w.mission r).FreshFor (env.newEventId w.idsDrawn)) :
    ∃ w' : World SessionRows σ, w'.repository = w.repository ∧
      (∃ (mission : Mission) (timestamp : Time) (message : String)
        (metadata : List (String × PyValue)), w'.mission r = mission.append (mission.nextEvent
          (env.newEventId w.idsDrawn) timestamp "mission_expired" message metadata)) ∧
      (expireMissionIfDue (sessionRepository others) r now).run.eval
          (machine requestSession env) t w =
        ((SessionRows.update r w').1.map fun _ => true, (SessionRows.update r w').2) := by
  have expirable : (w.mission r).status ∈ expirableStatuses := by
    simp only [startableStatuses, expirableStatuses, Bool.false_eq_true, if_false, List.mem_cons,
      List.not_mem_nil, or_false] at startable ⊢
    exact startable.imp_right .inl
  have transitioned : MissionStateMachine.transition (w.mission r) .expired =
      .ok ((w.mission r).withStatus .expired none) := by
    simp only [startableStatuses, Bool.false_eq_true, if_false, List.mem_cons,
      List.not_mem_nil, or_false] at startable
    cases startable with
    | inl created => simp [MissionStateMachine.transition, MissionStateMachine.canTransition,
        MissionStateMachine.allowedTransitions, created]
    | inr waiting => simp [MissionStateMachine.transition, MissionStateMachine.canTransition,
        MissionStateMachine.allowedTransitions, waiting]
  have reached : ¬ ((w.mission r).status ∉ expirableStatuses ∨ now < expiresAt) := by
    intro missed
    cases missed with
    | inl other => exact other expirable
    | inr early => exact absurd early (Int.not_lt.2 expired)
  generalize changes : w.setMission r ((w.mission r).withStatus .expired none) = changed
  have fresh' : (changed.mission r).FreshFor (env.newEventId changed.idsDrawn) := by
    rw [← changes, World.mission_setMission]
    exact fresh
  have drawn : changed.idsDrawn = w.idsDrawn := by
    rw [← changes]
    rfl
  refine ⟨changed.drawId.setMission r ((changed.mission r).append ((changed.mission r).nextEvent
    (env.newEventId changed.idsDrawn) now "mission_expired" "Mission expired before execution."
    (expiredMetadata expiresAt (w.mission r).status))), ?_, ?_, ?_⟩
  · rw [← changes]
    rfl
  · rw [World.mission_setMission, drawn]
    exact ⟨_, _, _, _, rfl⟩
  · rw [expireMissionIfDue, eval_seq, eval_read]
    dsimp only [proceed]
    rw [expires]
    dsimp only [proceed]
    rw [if_neg reached, eval_seq, eval_transition transitioned, changes]
    dsimp only [proceed]
    rw [eval_seq, eval_recordEvent now fresh']
    dsimp only [proceed]
    rw [eval_seq, eval_update]
    generalize SessionRows.update r _ = outcome
    cases outcome with
    | mk result after => cases result <;> rfl

/-- A mission that has not expired stays as it is. -/
theorem eval_expireMissionIfDue_unexpired {r : Ref} {w : World SessionRows σ} {now : Time}
    (unexpired : ∀ expiresAt ∈ (w.mission r).expiresAt,
      (w.mission r).status ∈ expirableStatuses → now < expiresAt) :
    (expireMissionIfDue (sessionRepository others) r now).run.eval
      (machine requestSession env) t w = (.ok false, w) := by
  rw [expireMissionIfDue, eval_seq, eval_read]
  dsimp only [proceed]
  cases expires : (w.mission r).expiresAt with
  | none => rfl
  | some expiresAt =>
      have early : (w.mission r).status ∉ expirableStatuses ∨ now < expiresAt := by
        by_cases expirable : (w.mission r).status ∈ expirableStatuses
        · exact .inr (unexpired expiresAt (by rw [expires]; rfl) expirable)
        · exact .inl expirable
      dsimp only [proceed]
      rw [if_pos early]
      rfl

/-- The rest of a run once the mission is loaded and its status is one to start from. -/
theorem startable_raises {w before : World SessionRows σ} {r : Ref} {now : Time}
    {eventType : String} {f : Bool → Service requestSession Ref}
    (rejected : RunRejected registry now (w.mission r) eventType)
    (fresh : (w.mission r).FreshFor (env.newEventId w.idsDrawn))
    (committed : w.repository.committed = before.repository.committed)
    (expires : ∀ w, ∃ error, (f true).run.eval (machine requestSession env) t w = (.error error, w))
    (resolves : ∀ {error : PyException}, ¬ ((w.mission r).status = .waiting ∧
        isScheduledForFuture (w.mission r) now) →
      ProviderResolver.resolve registry (w.mission r) = .error error →
        (f false).run.eval (machine requestSession env) t w =
          (providerResolutionFailed (sessionRepository others) r (w.mission r) error).run.eval
            (machine requestSession env) t w) :
    RaisesPassed before (env.newEventId w.idsDrawn) eventType
      ((expireMissionIfDue (sessionRepository others) r now >>= f).run.eval
        (machine requestSession env) t w) := by
  rw [eval_seq]
  cases rejected with
  | expired startable expiry expired =>
      obtain ⟨w', rows, ⟨mission, timestamp, message, metadata, recorded⟩, whole⟩ :=
        @eval_expireMissionIfDue σ env t others r w now _ startable expiry expired fresh
      have passed := passed_update recorded
        ((congrArg SessionRows.committed rows).trans committed)
      rw [whole]
      cases outcome : SessionRows.update r w' with
      | mk result after =>
          rw [outcome] at passed
          cases result with
          | error error => exact ⟨⟨error, rfl⟩, passed⟩
          | ok updated =>
              obtain ⟨error, raised⟩ := expires after
              change RaisesPassed _ _ _ ((f true).run.eval (machine requestSession env) t after)
              rw [raised]
              exact ⟨⟨error, rfl⟩, passed⟩
  | unresolved comes failed payload =>
      rw [eval_expireMissionIfDue_unexpired comes.unexpired]
      dsimp only [proceed]
      rw [resolves comes.due failed]
      exact providerResolutionFailed_raises payload fresh committed

/-- The world after the clock has been read. -/
def World.clockRead (w : World SessionRows σ) : World SessionRows σ :=
  { w with clockReads := w.clockReads + 1 }

theorem eval_orUtcNow (w : World SessionRows σ) :
    (Service.orUtcNow none : Service requestSession Time).run.eval (machine requestSession env) t
      w = (.ok (env.utcNow w.clockReads), w.clockRead) := rfl

variable (env t others) in
theorem runMission_raises {w : World SessionRows σ} {missionId : UUID} {row : Mission}
    {eventType : String} (found : w.repository.rows.find? (·.id = missionId) = some row)
    (rejected : RunRejected registry (env.utcNow w.clockReads) row eventType)
    (fresh : row.FreshFor (env.newEventId w.idsDrawn)) :
    RaisesPassed w (env.newEventId w.idsDrawn) eventType
      ((runMission (sessionRepository others) registry missionId).run.eval
        (machine requestSession env) t w) := by
  have loaded := loaded_mission w row
  have later : (w.loaded row).clockRead.mission w.nextRef = row := loaded
  have startable : ¬ ((w.loaded row).mission w.nextRef).status ∉ startableStatuses false := by
    rw [loaded]
    cases rejected with
    | expired startable => exact fun other => other startable
    | unresolved comes => exact fun other => other comes.startable
  rw [runMission, eval_seq, eval_get found]
  dsimp only [proceed]
  rw [eval_seq, eval_read]
  dsimp only [proceed]
  rw [if_neg startable, eval_seq, eval_orUtcNow]
  apply startable_raises
  · rw [later]
    exact rejected
  · rw [later]
    exact fresh
  · rfl
  · exact fun _ => ⟨_, rfl⟩
  · intro error due failed
    rw [if_neg (by decide), eval_seq, eval_read]
    dsimp only [proceed]
    rw [if_neg due, failed]

end

/-! The endpoint around a run. -/

theorem eval_service {K P R α : Type} [DecidableEq K] [DecidableEq P] {F : Signature} {S : Type}
    (M : Machine F S) (t : TaskId) (p : Task F PyException α) (w : Receipts.World K P R S) :
    (ApiTask.service p : ApiTask K P R F α).run.eval (Receipts.machine K P R M) t w =
      ((p.run.eval M t w.inner).1.mapError .service,
        { w with inner := (p.run.eval M t w.inner).2 }) := by
  have whole : (ApiTask.service p : ApiTask K P R F α).run =
      (embed p.run).bind fun outcome => .pure (outcome.mapError .service) := rfl
  rw [whole, Prog.eval_bind, eval_embed]
  rfl

theorem eval_attempt {K P R α : Type} [DecidableEq K] [DecidableEq P] {F : Signature} {S : Type}
    (M : Machine (Receipts.signature K P R F) S) (t : TaskId) (p : ApiTask K P R F α) (s : S) :
    (ApiTask.attempt p).run.eval M t s = (.ok (p.run.eval M t s).1, (p.run.eval M t s).2) := by
  have whole : (ApiTask.attempt p).run = p.run.bind fun outcome => .pure (.ok outcome) := rfl
  rw [whole, Prog.eval_bind]
  rfl

section
variable {σ : Type} {env : Environment σ} {t : TaskId}
  {others : MissionRepository requestSession} {registry : ProviderRegistry}

/-- The receipts of mission commands beside the session of the request. -/
abbrev RequestWorld (σ : Type) :=
  Receipts.World String (UUID × MissionCommandType) UUID (World SessionRows σ)

abbrev requestMachine (env : Environment σ) :
    Machine (Receipts.signature String (UUID × MissionCommandType) UUID
      (signature requestSession)) (RequestWorld σ) :=
  Receipts.machine String (UUID × MissionCommandType) UUID (machine requestSession env)

/-- The world with the receipt of a new key. -/
def begunWorld (w : RequestWorld σ) (t : TaskId) (key : String)
    (request : UUID × MissionCommandType) : RequestWorld σ :=
  ({ w with table := w.table.set key ⟨request, none⟩ } : RequestWorld σ).note t .begun

theorem eval_begin {w : RequestWorld σ} {missionId : UUID} {command : MissionCommandType}
    {key : String} (new : w.table.get? key = none) :
    (InMemoryMissionCommandIdempotencyStore.begin key missionId command).run.eval
      (requestMachine env) t w = (.ok none, begunWorld w t key (missionId, command)) := by
  have taken : w.table.begin key (missionId, command) =
      (.ok none, w.table.set key ⟨(missionId, command), none⟩) := by
    rw [Receipts.Table.begin, new]
  have performed : (ApiTask.perform (F := signature requestSession)
      (.begin key (missionId, command))).run.eval (requestMachine env) t w =
        (.ok (w.table.begin key (missionId, command)).1,
          ({ w with table := (w.table.begin key (missionId, command)).2 } : RequestWorld σ).note t
            (Receipts.begunStage (w.table.begin key (missionId, command)).1)) := rfl
  rw [InMemoryMissionCommandIdempotencyStore.begin, ApiTask.begin, eval_seq, performed, taken]
  rfl

theorem eval_executeRecorded {w : RequestWorld σ} {execute : Service requestSession Ref}
    {error : PyException} {after : World SessionRows σ}
    (raised : execute.run.eval (machine requestSession env) t w.inner = (.error error, after)) :
    (executeRecorded execute).run.eval (requestMachine env) t w =
      (.error (.service error), ({ w with inner := after } : RequestWorld σ).note t .failed) := by
  have result : (resultWithId execute).run.eval (machine requestSession env) t w.inner =
      (.error error, after) := by
    rw [resultWithId, eval_seq, raised]
    rfl
  rw [executeRecorded, eval_seq, eval_attempt, eval_service, result]
  rfl

/-- A command that raises under a new key raises out of its idempotent execution. -/
theorem executeIdempotent_raises {w : RequestWorld σ} {missionId : UUID}
    {command : MissionCommandType} {key : String} (new : w.table.get? key = none)
    {execute : Service requestSession Ref} {error : PyException} {after : World SessionRows σ}
    (raised : execute.run.eval (machine requestSession env) t w.inner = (.error error, after))
    {outcome : Except ApiException Ref × RequestWorld σ}
    (ended : outcome = (executeIdempotentMissionCommand (sessionRepository others) missionId
      command key execute).run.eval (requestMachine env) t w) :
    outcome.1 = .error (.service error) ∧ outcome.2.inner = after := by
  rw [executeIdempotentMissionCommand, eval_seq, eval_begin new] at ended
  dsimp only [proceed] at ended
  have recorded := eval_executeRecorded (w := begunWorld w t key (missionId, command)) raised
  rw [eval_seq, eval_attempt, eval_seq, recorded] at ended
  subst ended
  exact ⟨rfl, rfl⟩

theorem eval_serviceGet {w : RequestWorld σ} {missionId : UUID} {row : Mission}
    (found : w.inner.repository.rows.find? (·.id = missionId) = some row) :
    (ApiTask.service ((sessionRepository others).get missionId)).run.eval (requestMachine env) t w =
      (.ok (some w.inner.nextRef), { w with inner := w.inner.loaded row }) := by
  rw [eval_service, eval_get found]
  rfl

theorem eval_serviceRead (r : Ref) (w : RequestWorld σ) :
    (ApiTask.service (Service.read r)).run.eval (requestMachine env) t w =
      (.ok (w.inner.mission r), w) := by
  rw [eval_service, eval_read]
  rfl

/-- What `_ensure_mission_version` does once the mission is looked up. -/
def checkLoadedVersion (expected : Int) :
    Option Ref → InMemoryMissionCommandIdempotencyStore.Api (signature requestSession) Unit
  | none => throw (.service .missionNotFoundError)
  | some r => do
    let mission ← ApiTask.service (Service.read r)
    if (mission.lastEventSequence : Int) ≠ expected then
      throw (.httpException (missionVersionConflict mission.lastEventSequence expected))
    else pure ()

theorem ensureMissionVersion_known {missionId : UUID} {text : String} {expected : Int}
    (known : expectedSequence text = some expected) (admitted : ¬ expected < 0) :
    ensureMissionVersion (sessionRepository others) missionId (some text) =
      ApiTask.service ((sessionRepository others).get missionId) >>= checkLoadedVersion expected := by
  unfold ensureMissionVersion
  dsimp only [proceed]
  rw [known]
  dsimp only [proceed]
  rw [if_neg admitted]
  refine congrArg _ (funext fun loaded => ?_)
  cases loaded <;> rfl

variable (env t others) in
theorem ensureMissionVersion_returns {w : RequestWorld σ} {missionId : UUID} {row : Mission}
    {ifMatch : Option String}
    (found : w.inner.repository.rows.find? (·.id = missionId) = some row)
    (sameVersion : ∀ text ∈ ifMatch, expectedSequence text = some (row.lastEventSequence : Int)) :
    ∃ w' : RequestWorld σ, w'.table = w.table ∧ w'.inner.repository = w.inner.repository ∧
      w'.inner.idsDrawn = w.inner.idsDrawn ∧ w'.inner.clockReads = w.inner.clockReads ∧
      (ensureMissionVersion (sessionRepository others) missionId ifMatch).run.eval
        (requestMachine env) t w = (.ok (), w') := by
  cases ifMatch with
  | none => exact ⟨w, rfl, rfl, rfl, rfl, rfl⟩
  | some text =>
      have same : ¬ (((w.inner.loaded row).mission w.inner.nextRef).lastEventSequence : Int) ≠
          (row.lastEventSequence : Int) := by
        rw [loaded_mission]
        exact fun differs => differs rfl
      refine ⟨{ w with inner := w.inner.loaded row }, rfl, rfl, rfl, rfl, ?_⟩
      rw [ensureMissionVersion_known (sameVersion text rfl) (Int.not_lt.2 (Int.natCast_nonneg _)),
        eval_seq, eval_serviceGet found]
      dsimp only [proceed]
      rw [checkLoadedVersion, eval_seq, eval_serviceRead]
      dsimp only [proceed]
      rw [if_neg same]
      rfl

/-- One of the rows has the event. -/
def RecordedIn (rows : List Mission) (eventId : UUID) (eventType : String) : Prop :=
  ∃ mission ∈ rows, ∃ event ∈ mission.executionLog, event.eventId = eventId ∧ event.type = eventType

/-- The endpoint raises, with the run's record in the session only. -/
theorem runMissionEndpoint_raises {w : RequestWorld σ} {missionId : UUID} {row : Mission}
    {key : String} {ifMatch : Option String} {eventType : String}
    (found : w.inner.repository.rows.find? (·.id = missionId) = some row)
    (sameVersion : ∀ text ∈ ifMatch, expectedSequence text = some (row.lastEventSequence : Int))
    (new : w.table.get? key = none)
    (rejected : RunRejected registry (env.utcNow w.inner.clockReads) row eventType)
    (fresh : row.FreshFor (env.newEventId w.inner.idsDrawn))
    {outcome : Except ApiException (Ref × String) × RequestWorld σ}
    (ended : outcome = (runMissionEndpoint (sessionRepository others) registry missionId key
      ifMatch).run.eval (requestMachine env) t w) :
    (∃ error, outcome.1 = .error error) ∧
      outcome.2.inner.repository.committed = w.inner.repository.committed ∧
      RecordedIn outcome.2.inner.repository.passed (env.newEventId w.inner.idsDrawn) eventType := by
  obtain ⟨w', table, rows, drawn, reads, ensured⟩ :=
    ensureMissionVersion_returns env t others found sameVersion
  rw [← rows] at found
  rw [← reads] at rejected
  rw [← drawn] at fresh ⊢
  rw [← table] at new
  rw [← rows]
  obtain ⟨⟨error, raised⟩, committed, passed⟩ :=
    runMission_raises env t others found rejected fresh
  generalize ran : (runMission (sessionRepository others) registry missionId).run.eval
    (machine requestSession env) t w'.inner = last at raised committed passed
  obtain ⟨result, after⟩ := last
  obtain rfl : result = .error error := raised
  generalize executed : (executeIdempotentMissionCommand (sessionRepository others) missionId
    .run key (runMission (sessionRepository others) registry missionId)).run.eval
      (requestMachine env) t w' = middle
  obtain ⟨first, inner⟩ := executeIdempotent_raises new ran executed.symm
  obtain ⟨answer, world⟩ := middle
  obtain rfl : answer = .error (.service error) := first
  obtain rfl : world.inner = after := inner
  unfold runMissionEndpoint missionCommandEndpoint at ended
  rw [eval_seq, eval_attempt, eval_seq, ensured] at ended
  dsimp only [proceed] at ended
  rw [eval_seq, executed] at ended
  dsimp only [proceed] at ended
  have raises : ∃ failure, outcome = (.error failure, world) := by
    split at ended
    · next answered => cases answered
    · exact ⟨_, ended⟩
    · exact ⟨_, ended⟩
    · exact ⟨_, ended⟩
    · split at ended
      · exact ⟨_, ended⟩
      · exact ⟨_, ended⟩
    · exact ⟨_, ended⟩
  obtain ⟨failure, rfl⟩ := raises
  exact ⟨⟨failure, rfl⟩, committed, passed⟩

end

instance (rows : List Mission) (eventId : UUID) (eventType : String) :
    Decidable (RecordedIn rows eventId eventType) :=
  inferInstanceAs (Decidable (∃ mission ∈ rows, ∃ event ∈ mission.executionLog,
    event.eventId = eventId ∧ event.type = eventType))

/-- `POST /missions/{mission_id}/run` in the database backend: the answer of the
endpoint, with what its session has come to. -/
def runMissionRequest {σ : Type} (env : Environment σ) (t : TaskId)
    (others : MissionRepository requestSession) (registry : ProviderRegistry) (missionId : UUID)
    (key : String) (ifMatch : Option String) (w : RequestWorld σ) :
    Except ApiException (Ref × String) × SessionRows :=
  let ended := (runMissionEndpoint (sessionRepository others) registry missionId key
    ifMatch).run.eval (requestMachine env) t w
  (ended.1, ended.2.inner.repository)

/-- The record of a run that is rejected is lost with the session of its request. -/
theorem rejected_run_unrecorded {σ : Type} {env : Environment σ} {t : TaskId}
    {others : MissionRepository requestSession} {registry : ProviderRegistry}
    {committed : List Mission} {w : RequestWorld σ} {missionId : UUID} {row : Mission}
    {key : String} {ifMatch : Option String} {eventType : String}
    (opened : w.inner.repository = .opened committed)
    (found : committed.find? (·.id = missionId) = some row)
    (sameVersion : ∀ text ∈ ifMatch, expectedSequence text = some (row.lastEventSequence : Int))
    (new : w.table.get? key = none)
    (rejected : RunRejected registry (env.utcNow w.inner.clockReads) row eventType)
    (newId : ∀ mission ∈ committed, ∀ event ∈ mission.executionLog,
      event.eventId ≠ env.newEventId w.inner.idsDrawn) :
    (∃ error, (getDbSession (runMissionRequest env t others registry missionId key ifMatch w)).1 =
      .error error) ∧
    RecordedIn (runMissionRequest env t others registry missionId key ifMatch w).2.passed
      (env.newEventId w.inner.idsDrawn) eventType ∧
    ¬ RecordedIn (getDbSession (runMissionRequest env t others registry missionId key ifMatch w)).2
      (env.newEventId w.inner.idsDrawn) eventType := by
  have known : w.inner.repository.rows.find? (·.id = missionId) = some row := by
    rw [opened]
    exact found
  have fresh : row.FreshFor (env.newEventId w.inner.idsDrawn) :=
    ⟨env.newEventId_ne_nil _, newId row (List.mem_of_find?_eq_some found)⟩
  generalize ran : (runMissionEndpoint (sessionRepository others) registry missionId key
    ifMatch).run.eval (requestMachine env) t w = outcome
  obtain ⟨⟨error, raised⟩, kept, passed⟩ :=
    runMissionEndpoint_raises known sameVersion new rejected fresh ran.symm
  have request : runMissionRequest env t others registry missionId key ifMatch w =
      (.error error, outcome.2.inner.repository) := by
    rw [runMissionRequest, ran]
    exact congrArg (·, outcome.2.inner.repository) raised
  rw [request]
  refine ⟨⟨error, rfl⟩, passed, ?_⟩
  -- the rows are those that were committed before, which do not have the new id
  intro recorded
  obtain ⟨mission, member, event, logged, same, -⟩ := recorded
  have before : mission ∈ committed := by
    change mission ∈ outcome.2.inner.repository.committed at member
    rw [kept, opened] at member
    exact member
  exact newId mission before event logged same

/-! A request for a mission that has expired. -/

namespace ExpiredRequest

def mission : Mission := { Sample.mission with expiresAt := some (-1) }

def environment : Environment Unit := .withProviders (Sample.accepting [])

/-- A run calls none of these. -/
def others : MissionRepository requestSession where
  create r := pure r
  get _ := pure none
  update r := pure r
  claimDue _ _ := pure []
  expireDue _ _ := pure []
  recoverStaleProcessing _ _ _ := pure []

def session : World SessionRows Unit where
  objects _ := ⟨mission, 0⟩
  nextRef := 0
  repository := .opened [mission]
  outside := ()
  clockReads := 0
  idsDrawn := 0
  trace := []

def world : RequestWorld Unit := ⟨[], session, []⟩

/-- The request, with the rows that its session has come to. -/
def request : Except ApiException (Ref × String) × SessionRows :=
  runMissionRequest environment 0 others Sample.registry ⟨7⟩ "key" none world

theorem rejected : RunRejected Sample.registry 0 mission "mission_expired" :=
  .expired (by decide) rfl (show (-1 : Int) ≤ 0 by decide)

end ExpiredRequest

theorem rejected_run_unrecorded_expired :
    (∃ error, (getDbSession (runMissionRequest ExpiredRequest.environment 0 ExpiredRequest.others
      Sample.registry ⟨7⟩ "key" none ExpiredRequest.world)).1 = .error error) ∧
    RecordedIn (runMissionRequest ExpiredRequest.environment 0 ExpiredRequest.others
      Sample.registry ⟨7⟩ "key" none ExpiredRequest.world).2.passed
        (ExpiredRequest.environment.newEventId 0) "mission_expired" ∧
    ¬ RecordedIn (getDbSession (runMissionRequest ExpiredRequest.environment 0
      ExpiredRequest.others Sample.registry ⟨7⟩ "key" none ExpiredRequest.world)).2
        (ExpiredRequest.environment.newEventId 0) "mission_expired" :=
  rejected_run_unrecorded (w := ExpiredRequest.world) rfl rfl (by simp) rfl
    ExpiredRequest.rejected (by decide)

/-- The mission expires in the run and is stored as it was. -/
theorem expiry_unrecorded :
    ¬ ∀ eventId, RecordedIn ExpiredRequest.request.2.passed eventId "mission_expired" →
      RecordedIn (getDbSession ExpiredRequest.request).2 eventId "mission_expired" := by
  intro recorded
  have passed : RecordedIn ExpiredRequest.request.2.passed ⟨1⟩ "mission_expired" := by
    decide +kernel
  have lost : ¬ RecordedIn (getDbSession ExpiredRequest.request).2 ⟨1⟩ "mission_expired" := by
    decide +kernel
  exact lost (recorded ⟨1⟩ passed)

end PurchaseAgent
