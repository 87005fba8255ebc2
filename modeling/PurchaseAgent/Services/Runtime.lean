import PurchaseAgent.Cooperative.RelyGuarantee
import PurchaseAgent.Services.MissionStateMachine

/-!
The effects of the mission services: mission objects with identity, the clock,
identities, provider adapters and a repository backend. Services are programs
over these operations. Operations that the source awaits are suspension points;
an adapter call suspends twice, before the provider acts and before its answer
is delivered.
-/

namespace PurchaseAgent

open Cooperative

/-- Identity of a mission object. -/
abbrev Ref := Nat

structure Identity where
  id : UUID
deriving DecidableEq

structure MissionObject where
  mission : Mission
  persistedLastEventSequence : Nat
deriving DecidableEq

/-- Assignments to attributes of a mission object. -/
inductive Assignment where
  | title (value : String)
  | status (value : MissionStatus)
  | executionMode (value : MissionExecutionMode)
  | providerId (value : Option ProviderId)
  | resolvedProviderId (value : Option String)
  | reservationId (value : Option String)
  | fallbackRules (value : FallbackRules)
  | scheduledAt (value : Option Time)
  | claimedAt (value : Option Time)
  | maxExecutionAttempts (value : Nat)
  | bestOption (value : Option ProviderOption)
deriving DecidableEq

def Mission.assign (mission : Mission) : Assignment → Mission
  | .title value => { mission with title := value }
  | .status value => { mission with status := value }
  | .executionMode value => { mission with executionMode := value }
  | .providerId value => { mission with providerId := value }
  | .resolvedProviderId value => { mission with resolvedProviderId := value }
  | .reservationId value => { mission with reservationId := value }
  | .fallbackRules value => { mission with fallbackRules := value }
  | .scheduledAt value => { mission with scheduledAt := value }
  | .claimedAt value => { mission with claimedAt := value }
  | .maxExecutionAttempts value => { mission with maxExecutionAttempts := value }
  | .bestOption value => { mission with bestOption := value }

/-- The asynchronous methods of a `ProviderAdapter`, with the adapter's
`provider_id`. The mission is passed beside the call. -/
inductive ProviderCall where
  | searchOptions (providerId : String) (identities : List Identity)
  | reserveOption (providerId : String) (option : ProviderOption) (idempotencyKey : String)
  | confirmReservation (providerId reservationId idempotencyKey : String)
  | cancelReservation (providerId reservationId idempotencyKey : String)
deriving DecidableEq

abbrev ProviderCall.Answer : ProviderCall → Type
  | .searchOptions .. => List ProviderOption
  | .reserveOption .. => ReservationResult
  | .confirmReservation .. => ConfirmationResult
  | .cancelReservation .. => CancellationResult

/-- What is remembered of a run besides the state of the program. -/
inductive Event where
  /-- A claim made the mission's execution attempt with this number its own. -/
  | claimed (missionId : UUID) (attemptNumber : Nat)
  | called (missionId : UUID) (call : ProviderCall)
  | answered (missionId : UUID) (call : ProviderCall) (answer : Except PyException call.Answer)

/-- Everything the tasks share. `outside` is the state of the providers and of
the identity store; `trace` lists the events of the run, oldest first. -/
structure World (ρ σ : Type) where
  objects : Ref → MissionObject
  nextRef : Ref
  repository : ρ
  outside : σ
  clockReads : Nat
  idsDrawn : Nat
  trace : List (TaskId × Event)

/-- The code outside of the program. Adapters and the identity repository answer
as they like; the ids `uuid4` draws are not nil and never repeat. -/
structure Environment (σ : Type) where
  utcNow : Nat → Time
  newEventId : Nat → UUID
  identity : UUID → σ → Except PyException (Option Identity)
  handle : (call : ProviderCall) → Mission → σ → Except PyException call.Answer × σ
  newEventId_injective : Function.Injective newEventId
  newEventId_ne_nil : ∀ n, newEventId n ≠ .nil

namespace World
variable {ρ σ : Type} (w : World ρ σ)

def mission (r : Ref) : Mission := (w.objects r).mission

def setObject (r : Ref) (object : MissionObject) : World ρ σ :=
  { w with objects := Function.update w.objects r object }

def setMission (r : Ref) (mission : Mission) : World ρ σ :=
  w.setObject r { w.objects r with mission := mission }

def log (t : TaskId) (event : Event) : World ρ σ :=
  { w with trace := w.trace ++ [(t, event)] }

def allocate (object : MissionObject) : Ref × World ρ σ :=
  (w.nextRef, { w.setObject w.nextRef object with nextRef := w.nextRef + 1 })

/-- A guarded change of a mission: an error leaves the object as it is. -/
def attemptSet (r : Ref) : Except PyException Mission → Except PyException Unit × World ρ σ
  | .ok mission => (.ok (), w.setMission r mission)
  | .error error => (.error error, w)

/-- The provider acts on a call. -/
def act (env : Environment σ) (t : TaskId) (r : Ref) (c : ProviderCall) : World ρ σ :=
  { w with outside := (env.handle c (w.mission r) w.outside).2 }.log t
    (.answered (w.mission r).id c (env.handle c (w.mission r) w.outside).1)

def drawId : World ρ σ := { w with idsDrawn := w.idsDrawn + 1 }

@[simp] theorem mission_setMission (r : Ref) (mission : Mission) :
    (w.setMission r mission).mission r = mission := by
  simp [World.mission, setMission, setObject]

@[simp] theorem mission_setMission_of_ne {r other : Ref} (h : other ≠ r) (mission : Mission) :
    (w.setMission r mission).mission other = w.mission other := by
  simp [World.mission, setMission, setObject, Function.update_of_ne h]

theorem setMission_cases (r : Ref) (mission : Mission) (other : Ref) :
    (other = r ∧ (w.setMission r mission).mission other = mission) ∨
      (w.setMission r mission).mission other = w.mission other := by
  by_cases same : other = r
  · exact .inl ⟨same, same ▸ mission_setMission w r mission⟩
  · exact .inr (mission_setMission_of_ne w same mission)

@[simp] theorem setMission_nextRef (r : Ref) (mission : Mission) :
    (w.setMission r mission).nextRef = w.nextRef := rfl
@[simp] theorem setMission_repository (r : Ref) (mission : Mission) :
    (w.setMission r mission).repository = w.repository := rfl
@[simp] theorem setMission_outside (r : Ref) (mission : Mission) :
    (w.setMission r mission).outside = w.outside := rfl
@[simp] theorem setMission_idsDrawn (r : Ref) (mission : Mission) :
    (w.setMission r mission).idsDrawn = w.idsDrawn := rfl
@[simp] theorem setMission_trace (r : Ref) (mission : Mission) :
    (w.setMission r mission).trace = w.trace := rfl

@[simp] theorem drawId_mission (r : Ref) : w.drawId.mission r = w.mission r := rfl
@[simp] theorem drawId_nextRef : w.drawId.nextRef = w.nextRef := rfl
@[simp] theorem drawId_repository : w.drawId.repository = w.repository := rfl
@[simp] theorem drawId_outside : w.drawId.outside = w.outside := rfl
@[simp] theorem drawId_idsDrawn : w.drawId.idsDrawn = w.idsDrawn + 1 := rfl
@[simp] theorem drawId_trace : w.drawId.trace = w.trace := rfl

@[simp] theorem log_mission (t : TaskId) (event : Event) (r : Ref) :
    (w.log t event).mission r = w.mission r := rfl
@[simp] theorem log_nextRef (t : TaskId) (event : Event) :
    (w.log t event).nextRef = w.nextRef := rfl
@[simp] theorem log_repository (t : TaskId) (event : Event) :
    (w.log t event).repository = w.repository := rfl
@[simp] theorem log_outside (t : TaskId) (event : Event) :
    (w.log t event).outside = w.outside := rfl
@[simp] theorem log_idsDrawn (t : TaskId) (event : Event) :
    (w.log t event).idsDrawn = w.idsDrawn := rfl
@[simp] theorem log_trace (t : TaskId) (event : Event) :
    (w.log t event).trace = w.trace ++ [(t, event)] := rfl

@[simp] theorem act_mission (env : Environment σ) (t : TaskId) (r : Ref) (c : ProviderCall)
    (other : Ref) : (w.act env t r c).mission other = w.mission other := rfl
@[simp] theorem act_nextRef (env : Environment σ) (t : TaskId) (r : Ref) (c : ProviderCall) :
    (w.act env t r c).nextRef = w.nextRef := rfl
@[simp] theorem act_repository (env : Environment σ) (t : TaskId) (r : Ref) (c : ProviderCall) :
    (w.act env t r c).repository = w.repository := rfl
@[simp] theorem act_idsDrawn (env : Environment σ) (t : TaskId) (r : Ref) (c : ProviderCall) :
    (w.act env t r c).idsDrawn = w.idsDrawn := rfl

@[simp] theorem setMission_setMission (r : Ref) (first second : Mission) :
    (w.setMission r first).setMission r second = w.setMission r second := by
  simp [setMission, setObject]

end World

/-- A repository implementation: the operations it performs on its own state. -/
structure Backend where
  Op : Type
  Answer : Op → Type
  State : Type
  ready : {σ : Type} → TaskId → Op → World State σ → Bool
  exec : {σ : Type} → Environment σ → TaskId → (o : Op) → World State σ →
    Answer o × World State σ

/-- The operations services are made of. -/
inductive Op (B : Backend) where
  | read (r : Ref)
  | assign (r : Ref) (assignment : Assignment)
  | transition (r : Ref) (target : MissionStatus) (options : MissionStateMachine.Options)
  | recordEvent (r : Ref) (timestamp : Time) (eventType message : String)
      (metadata : List (String × PyValue))
  /-- A new object. -/
  | construct (mission : Mission)
  /-- `model_copy(deep=True, update=...)`. -/
  | copy (r : Ref) (update : List Assignment)
  | utcNow
  /-- `identity_repository.get`. -/
  | getIdentity (id : UUID)
  /-- An adapter method is entered. -/
  | call (r : Ref) (c : ProviderCall)
  /-- The provider acts on the call. -/
  | request (r : Ref) (c : ProviderCall)
  /-- The provider's answer arrives. -/
  | deliver
  | repository (o : B.Op)

namespace Op
variable {B : Backend}

abbrev Answer : Op B → Type
  | .read _ => Mission
  | .assign _ _ => Unit
  | .transition _ _ _ => Except PyException Unit
  | .recordEvent _ _ _ _ _ => Except PyException Unit
  | .construct _ => Ref
  | .copy _ _ => Ref
  | .utcNow => Time
  | .getIdentity _ => Except PyException (Option Identity)
  | .call _ _ => Unit
  | .request _ c => Except PyException c.Answer
  | .deliver => Unit
  | .repository o => B.Answer o

def awaits : Op B → Bool
  | .getIdentity _ | .request _ _ | .deliver | .repository _ => true
  | .read _ | .assign _ _ | .transition _ _ _ | .recordEvent _ _ _ _ _ | .construct _
  | .copy _ _ | .utcNow | .call _ _ => false

def ready {σ : Type} (t : TaskId) : Op B → World B.State σ → Bool
  | .repository o, w => B.ready t o w
  | _, _ => true

def exec {σ : Type} (env : Environment σ) (t : TaskId) :
    (o : Op B) → World B.State σ → o.Answer × World B.State σ
  | .read r, w => (w.mission r, w)
  | .assign r assignment, w => ((), w.setMission r ((w.mission r).assign assignment))
  | .transition r target options, w =>
      w.attemptSet r (MissionStateMachine.transition (w.mission r) target options)
  | .recordEvent r timestamp eventType message metadata, w =>
      w.drawId.attemptSet r ((w.mission r).recordEvent (env.newEventId w.idsDrawn) timestamp
        eventType message metadata)
  | .construct mission, w => w.allocate ⟨mission, mission.lastEventSequence⟩
  | .copy r update, w =>
      w.allocate { w.objects r with mission := update.foldl Mission.assign (w.mission r) }
  | .utcNow, w => (env.utcNow w.clockReads, { w with clockReads := w.clockReads + 1 })
  | .getIdentity id, w => (env.identity id w.outside, w)
  | .call r c, w => ((), w.log t (.called (w.mission r).id c))
  | .request r c, w => ((env.handle c (w.mission r) w.outside).1, w.act env t r c)
  | .deliver, w => ((), w)
  | .repository o, w => B.exec env t o w

end Op

abbrev signature (B : Backend) : Signature where
  Op := Op B
  Answer := Op.Answer

def machine (B : Backend) {σ : Type} (env : Environment σ) :
    Machine (signature B) (World B.State σ) where
  awaits := Op.awaits
  ready := Op.ready
  exec := Op.exec env

/-- A coroutine of the program. -/
abbrev Service (B : Backend) (α : Type) := Task (signature B) PyException α

namespace Service
variable {B : Backend} {α : Type}

def lift (p : Prog (signature B) α) : Service B α := ExceptT.lift p

def read (r : Ref) : Service B Mission := lift (Prog.perform (F := signature B) (.read r))

def assign (r : Ref) (assignment : Assignment) : Service B Unit :=
  lift (Prog.perform (F := signature B) (.assign r assignment))

def transition (r : Ref) (target : MissionStatus) (options : MissionStateMachine.Options := {}) :
    Service B Unit :=
  ExceptT.mk (Prog.perform (F := signature B) (.transition r target options))

def recordEvent (r : Ref) (timestamp : Time) (eventType message : String)
    (metadata : List (String × PyValue) := []) : Service B Unit :=
  ExceptT.mk (Prog.perform (F := signature B) (.recordEvent r timestamp eventType message metadata))

def construct (mission : Mission) : Service B Ref :=
  lift (Prog.perform (F := signature B) (.construct mission))

def copy (r : Ref) (update : List Assignment) : Service B Ref :=
  lift (Prog.perform (F := signature B) (.copy r update))

def utcNow : Service B Time := lift (Prog.perform (F := signature B) .utcNow)

def getIdentity (id : UUID) : Service B (Option Identity) :=
  ExceptT.mk (Prog.perform (F := signature B) (.getIdentity id))

def repository (o : B.Op) : Service B (B.Answer o) :=
  lift (Prog.perform (F := signature B) (.repository o))

/-- `await adapter.method(...)`. -/
def provider (r : Ref) (call : ProviderCall) : Service B call.Answer := do
  lift (Prog.perform (F := signature B) (.call r call))
  let answer ← lift (Prog.perform (F := signature B) (.request r call))
  lift (Prog.perform (F := signature B) .deliver)
  ExceptT.mk (Prog.pure answer)

/-- `try: ...`, with the outcome left to the handlers. -/
def attempt (p : Service B α) : Service B (Except PyException α) := lift p.run

/-- The value of a computation without effects, or the exception it raises. -/
def fromExcept (result : Except PyException α) : Service B α := ExceptT.mk (Prog.pure result)

/-- `now or utc_now()`. -/
def orUtcNow (time : Option Time) : Service B Time :=
  match time with
  | some time => pure time
  | none => utcNow

def addEvent (r : Ref) (eventType message : String) (metadata : List (String × PyValue) := []) :
    Service B Unit := do
  let timestamp ← utcNow
  recordEvent r timestamp eventType message metadata

end Service

/-- The methods of the repository protocol that the services call. -/
structure MissionRepository (B : Backend) where
  create : Ref → Service B Ref
  get : UUID → Service B (Option Ref)
  update : Ref → Service B Ref
  claimDue : Time → Int → Service B (List Ref)
  expireDue : Time → Int → Service B (List Ref)
  recoverStaleProcessing : Time → TimeDelta → Int → Service B (List Ref)

end PurchaseAgent
