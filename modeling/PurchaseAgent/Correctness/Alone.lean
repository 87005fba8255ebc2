import PurchaseAgent.Correctness.WellFormed

/-!
A service that works on one mission with nobody else around. Its progress is
summed up in a stage: the fields of the mission it has set so far, and what it
has exchanged with the providers. There is one rule for each operation.
-/

namespace PurchaseAgent

open Cooperative Cooperative.Discipline InMemoryMissionRepository

variable {σ : Type}

/-- The discipline of a task that runs alone. -/
abbrev alone (env : Environment σ) : Discipline (machine memory env) :=
  Discipline.sequential (machine memory env)

/-- Running alone, a program satisfies its weakest precondition. -/
theorem safe_alone {env : Environment σ} {t : TaskId} {α : Type} (Q : α → MemoryWorld σ → Prop)
    (p : Prog (signature memory) α) (w : MemoryWorld σ) :
    (alone env).Safe t Q p w ↔
      Q (p.eval (machine memory env) t w).1 (p.eval (machine memory env) t w).2 :=
  safe_sequential (fun _ o _ => by cases o <;> rfl) Q p w

/-- A provider call that was answered. -/
structure Exchange where
  call : ProviderCall
  answer : Except PyException call.Answer

/-- What an exchange leaves in the trace. -/
def Exchange.events (t : TaskId) (missionId : UUID) (exchange : Exchange) :
    List (TaskId × Event) :=
  [(t, .called missionId exchange.call), (t, .answered missionId exchange.call exchange.answer)]

/-- What no run of a mission changes. -/
structure SamePlan (before after : Mission) : Prop where
  id : after.id = before.id
  missionType : after.missionType = before.missionType
  participantIds : after.participantIds = before.participantIds
  executionMode : after.executionMode = before.executionMode
  providerId : after.providerId = before.providerId
  constraints : after.constraints = before.constraints
  fallbackRules : after.fallbackRules = before.fallbackRules
  expiresAt : after.expiresAt = before.expiresAt
  executionAttempts : after.executionAttempts = before.executionAttempts
  maxExecutionAttempts : after.maxExecutionAttempts = before.maxExecutionAttempts

theorem SamePlan.refl (mission : Mission) : SamePlan mission mission := by
  constructor <;> rfl

theorem SamePlan.trans {m₁ m₂ m₃ : Mission} (h : SamePlan m₁ m₂) (k : SamePlan m₂ m₃) :
    SamePlan m₁ m₃ where
  id := k.id.trans h.id
  missionType := k.missionType.trans h.missionType
  participantIds := k.participantIds.trans h.participantIds
  executionMode := k.executionMode.trans h.executionMode
  providerId := k.providerId.trans h.providerId
  constraints := k.constraints.trans h.constraints
  fallbackRules := k.fallbackRules.trans h.fallbackRules
  expiresAt := k.expiresAt.trans h.expiresAt
  executionAttempts := k.executionAttempts.trans h.executionAttempts
  maxExecutionAttempts := k.maxExecutionAttempts.trans h.maxExecutionAttempts

theorem SamePlan.hasExhaustedAttempts {before after : Mission} (h : SamePlan before after) :
    after.hasExhaustedAttempts = before.hasExhaustedAttempts := by
  simp only [Mission.hasExhaustedAttempts, h.executionAttempts, h.maxExecutionAttempts]

theorem samePlan_append (mission : Mission) (event : ExecutionEvent) :
    SamePlan mission (mission.append event) := by
  constructor <;> rfl

theorem samePlan_withStatus (mission : Mission) (status : MissionStatus)
    (claimedAt : Option Time) : SamePlan mission (mission.withStatus status claimedAt) := by
  constructor <;> rfl

/-- The progress of a service. -/
structure Stage where
  status : MissionStatus
  resolvedProviderId : Option String
  reservationId : Option String
  bestOption : Option ProviderOption
  exchanges : List Exchange

namespace Stage

/-- Before the service has done anything. -/
def initial (mission : Mission) : Stage :=
  ⟨mission.status, mission.resolvedProviderId, mission.reservationId, mission.bestOption, []⟩

def withStatus (s : Stage) (status : MissionStatus) : Stage := { s with status := status }

def exchanged (s : Stage) (exchange : Exchange) : Stage :=
  { s with exchanges := s.exchanges ++ [exchange] }

def assign (s : Stage) : Assignment → Stage
  | .status value => { s with status := value }
  | .resolvedProviderId value => { s with resolvedProviderId := value }
  | .reservationId value => { s with reservationId := value }
  | .bestOption value => { s with bestOption := value }
  | _ => s

end Stage

/-- The assignment is to no field of the plan. -/
def Assignment.keepsPlan : Assignment → Bool
  | .executionMode _ | .providerId _ | .fallbackRules _ | .maxExecutionAttempts _ => false
  | _ => true

/-- The world in which the service, started in `w₀`, has come to the stage `s`. -/
structure Reaches (env : Environment σ) (t : TaskId) (r : Ref) (w₀ : MemoryWorld σ) (s : Stage)
    (w : MemoryWorld σ) : Prop where
  evolves : Evolves env w₀ w
  stored : Stored w r
  others : ∀ other, other ≠ r → w.mission other = w₀.mission other
  plan : SamePlan (w₀.mission r) (w.mission r)
  status : (w.mission r).status = s.status
  resolvedProviderId : (w.mission r).resolvedProviderId = s.resolvedProviderId
  reservationId : (w.mission r).reservationId = s.reservationId
  bestOption : (w.mission r).bestOption = s.bestOption
  trace : w.trace = w₀.trace ++ s.exchanges.flatMap (·.events t (w₀.mission r).id)
  answered : ∀ exchange ∈ s.exchanges, ∃ mission outside,
    (env.handle exchange.call mission outside).1 = exchange.answer

theorem reaches_initial {env : Environment σ} {w : MemoryWorld σ} (h : WellFormed env w)
    (t : TaskId) {r : Ref} (stored : Stored w r) :
    Reaches env t r w (.initial (w.mission r)) w where
  evolves := .refl h
  stored := stored
  others _ _ := rfl
  plan := .refl _
  status := rfl
  resolvedProviderId := rfl
  reservationId := rfl
  bestOption := rfl
  trace := by simp [Stage.initial]
  answered := by simp [Stage.initial]

/-- The last event of the log. -/
def LastEvent (mission : Mission) (eventType : String) (metadata : List (String × PyValue)) :
    Prop :=
  ∃ event, mission.executionLog.getLast? = some event ∧ event.type = eventType ∧
    event.metadata = metadata

theorem LastEvent.log {mission : Mission} {eventType : String}
    {metadata : List (String × PyValue)} (h : LastEvent mission eventType metadata) :
    mission.executionLog ≠ [] := by
  obtain ⟨event, last, -⟩ := h
  rintro empty
  simp [empty] at last

namespace Reaches
variable {env : Environment σ} {t : TaskId} {r : Ref} {w₀ w w' : MemoryWorld σ} {s : Stage}

theorem wellFormed (h : Reaches env t r w₀ s w) : WellFormed env w := h.evolves.wellFormed

/-- A change of the mission. -/
theorem changed (h : Reaches env t r w₀ s w) {s' : Stage} (evolves : Evolves env w w')
    (others : ∀ other, other ≠ r → w'.mission other = w.mission other)
    (trace : w'.trace = w.trace) (plan : SamePlan (w.mission r) (w'.mission r))
    (status : (w'.mission r).status = s'.status)
    (resolvedProviderId : (w'.mission r).resolvedProviderId = s'.resolvedProviderId)
    (reservationId : (w'.mission r).reservationId = s'.reservationId)
    (bestOption : (w'.mission r).bestOption = s'.bestOption)
    (exchanges : s'.exchanges = s.exchanges) : Reaches env t r w₀ s' w' where
  evolves := h.evolves.trans evolves
  stored := (evolves.stored h.stored).1
  others other differs := (others other differs).trans (h.others other differs)
  plan := h.plan.trans plan
  status := status
  resolvedProviderId := resolvedProviderId
  reservationId := reservationId
  bestOption := bestOption
  trace := by rw [trace, exchanges]; exact h.trace
  answered := by rw [exchanges]; exact h.answered

/-- A change of something else. -/
theorem same (h : Reaches env t r w₀ s w) (evolves : Evolves env w w')
    (objects : ∀ r, w'.mission r = w.mission r) (trace : w'.trace = w.trace) :
    Reaches env t r w₀ s w' :=
  h.changed evolves (fun other _ => objects other) trace (objects r ▸ .refl _)
    (objects r ▸ h.status) (objects r ▸ h.resolvedProviderId) (objects r ▸ h.reservationId)
    (objects r ▸ h.bestOption) rfl

variable {α : Type} {Q : Except PyException α → MemoryWorld σ → Prop}

theorem read_then {f : Mission → Service memory α}
    (h : (alone env).Safe t Q (f (w.mission r)).run w) :
    (alone env).Safe t Q (Service.read r >>= f).run w :=
  (safe_run_bind _ _ _ _).mpr ((Service.safe_read (B := memory) w r _).mpr ⟨trivial, h⟩)

theorem fromExcept_then {β : Type} {result : Except PyException β} {b : β}
    (ok : result = .ok b) {f : β → Service memory α} (h : (alone env).Safe t Q (f b).run w) :
    (alone env).Safe t Q (Service.fromExcept result >>= f).run w := by
  rw [ok]
  exact h

theorem assign (h : Reaches env t r w₀ s w) (assignment : Assignment)
    (keeps : assignment.keepsPlan = true) :
    (alone env).Safe t (Returning fun _ => Reaches env t r w₀ (s.assign assignment))
      (Service.assign r assignment).run w := by
  refine (Service.safe_assign (B := memory) w r _ _).mpr ⟨trivial, ?_⟩
  refine h.changed (evolves_setMission h.wellFormed (extends_assign _ _ assignment))
    (fun other differs => by simp [differs]) rfl ?_ ?_ ?_ ?_ ?_ ?_
  · rw [World.mission_setMission]
    cases assignment <;> first
      | (constructor <;> rfl)
      | cases keeps
  all_goals
    try rw [World.mission_setMission]
    cases assignment <;> first
      | rfl
      | exact h.status
      | exact h.resolvedProviderId
      | exact h.reservationId
      | exact h.bestOption

/-- A status change that goes through. -/
theorem moved (h : Reaches env t r w₀ s w) {target : MissionStatus}
    {options : MissionStateMachine.Options} {claimedAt : Option Time}
    (moved : MissionStateMachine.transition (w.mission r) target options =
      .ok ((w.mission r).withStatus target claimedAt)) :
    (alone env).Safe t (Returning fun _ => Reaches env t r w₀ (s.withStatus target))
      (Service.transition r target options).run w := by
  refine (Service.safe_transition (B := memory) w r _ _ _).mpr
    ⟨fun mission ok => ⟨trivial, ?_⟩, fun error raised => ?_⟩
  · obtain rfl := Except.ok.inj (moved.symm.trans ok)
    refine h.changed (evolves_setMission h.wellFormed ⟨rfl, rfl, .inl rfl⟩)
      (fun other differs => by simp [differs]) rfl ?_ ?_ ?_ ?_ ?_ rfl <;>
      rw [World.mission_setMission]
    · exact samePlan_withStatus _ _ _
    · rfl
    · exact h.resolvedProviderId
    · exact h.reservationId
    · exact h.bestOption
  · cases moved.symm.trans raised

theorem transition (h : Reaches env t r w₀ s w) {target : MissionStatus}
    (allowed : target ∈ MissionStateMachine.allowedTransitions s.status)
    (notClaim : s.status ≠ .waiting ∨ target ≠ .processing) :
    (alone env).Safe t (Returning fun _ => Reaches env t r w₀ (s.withStatus target))
      (Service.transition r target).run w :=
  h.moved (MissionStateMachine.transition_of_allowed _ (h.status ▸ allowed) (h.status ▸ notClaim))

theorem recordEvent (h : Reaches env t r w₀ s w) (timestamp : Time) (eventType message : String)
    (metadata : List (String × PyValue)) :
    (alone env).Safe t (Returning fun _ w' => Reaches env t r w₀ s w' ∧
        LastEvent (w'.mission r) eventType metadata)
      (Service.recordEvent r timestamp eventType message metadata).run w := by
  have recorded := Mission.recordEvent_of_fresh (w.mission r) (h.wellFormed.freshFor h.stored)
    timestamp eventType message metadata
  refine (Service.safe_recordEvent (B := memory) w r _ _ _ _ _).mpr
    ⟨fun mission ok => ⟨trivial, ?_, ?_⟩, fun error raised => ?_⟩
  · obtain rfl := Except.ok.inj (recorded.symm.trans ok)
    refine h.changed (evolves_append h.wellFormed rfl rfl rfl rfl)
      (fun other differs => by simp [differs]) rfl ?_ ?_ ?_ ?_ ?_ rfl <;>
      rw [World.mission_setMission]
    · exact samePlan_append _ _
    · exact h.status
    · exact h.resolvedProviderId
    · exact h.reservationId
    · exact h.bestOption
  · obtain rfl := Except.ok.inj (recorded.symm.trans ok)
    rw [World.mission_setMission]
    exact ⟨(w.mission r).nextEvent (env.newEventId w.idsDrawn) timestamp eventType message metadata,
      by simp, rfl, rfl⟩
  · cases recorded.symm.trans raised

theorem addEvent (h : Reaches env t r w₀ s w) (eventType message : String)
    (metadata : List (String × PyValue)) :
    (alone env).Safe t (Returning fun _ w' => Reaches env t r w₀ s w' ∧
        LastEvent (w'.mission r) eventType metadata)
      (Service.addEvent r eventType message metadata).run w := by
  refine (safe_run_bind _ _ _ _).mpr ((Service.safe_utcNow (B := memory) w _).mpr ⟨trivial, ?_⟩)
  have read : Reaches env t r w₀ s { w with clockReads := w.clockReads + 1 } :=
    h.same (evolves_of_extends h.wellFormed rfl le_rfl (fun _ => .refl _ _ _) (.same rfl))
      (fun _ => rfl) rfl
  exact read.recordEvent _ _ _ _

/-- Storing a mission that has an event. -/
theorem update (h : Reaches env t r w₀ s w) (log : (w.mission r).executionLog ≠ []) :
    (alone env).Safe t
      (Returning fun r' w' => r' = r ∧ Reaches env t r w₀ s w' ∧ w'.mission r = w.mission r)
      (inMemoryMissionRepository.update r).run w := by
  refine (safe_update w r _).mpr ?_
  rintro _ rfl
  obtain ⟨attempts, eq⟩ := (update_of_stored h.stored).resolve_right fun raised => log raised.2
  rw [eq]
  exact ⟨trivial, rfl, h.same (evolves_withAttempts h.wellFormed attempts) (fun _ => rfl) rfl, rfl⟩

/-- Loading the mission. -/
theorem get (h : Reaches env t r w₀ s w) :
    (alone env).Safe t (Returning fun found w' => found = some r ∧ w' = w)
      (inMemoryMissionRepository.get (w₀.mission r).id).run w := by
  refine (safe_get w _ _).mpr ?_
  rintro _ rfl
  exact ⟨trivial, h.plan.id ▸ h.stored, rfl⟩

/-- A provider call, whatever it answers. -/
theorem provider (h : Reaches env t r w₀ s w) (call : ProviderCall) :
    (alone env).Safe t (fun answer => Reaches env t r w₀ (s.exchanged ⟨call, answer⟩))
      (Service.provider r call).run w := by
  refine (Service.safe_provider (B := memory) w r call _).mpr ⟨trivial, ?_⟩
  rintro _ rfl
  refine ⟨trivial, ?_⟩
  rintro _ rfl
  refine ⟨trivial, ?_⟩
  have evolves : Evolves env w ((w.log t (.called (w.mission r).id call)).act env t r call) :=
    evolves_of_extends h.wellFormed rfl le_rfl (fun _ => .refl _ _ _)
      ⟨Exchange.events t (w.mission r).id ⟨call, _⟩, by simp [World.act, Exchange.events]; rfl,
        by simp [Exchange.events, Event.isClaim]⟩
  exact {
    evolves := h.evolves.trans evolves
    stored := (evolves.stored h.stored).1
    others := h.others
    plan := h.plan
    status := h.status
    resolvedProviderId := h.resolvedProviderId
    reservationId := h.reservationId
    bestOption := h.bestOption
    trace := by
      simp [World.act, Stage.exchanged, h.trace, Exchange.events, h.plan.id]
    answered := fun exchange member => by
      rcases List.mem_append.mp member with member | member
      · exact h.answered exchange member
      · obtain rfl := List.mem_singleton.mp member
        exact ⟨_, _, rfl⟩ }

/-- The time of a service that may be given one. -/
theorem orUtcNow (h : Reaches env t r w₀ s w) (time : Option Time) :
    (alone env).Safe t
      (Returning fun now w' => Reaches env t r w₀ s w' ∧ ∀ given ∈ time, now = given)
      (Service.orUtcNow time).run w := by
  cases time with
  | some time => exact ⟨h, fun _ given => Option.some.inj given⟩
  | none =>
      refine (Service.safe_utcNow (B := memory) w _).mpr ⟨trivial, ?_, by simp⟩
      exact h.same (evolves_of_extends h.wellFormed rfl le_rfl (fun _ => .refl _ _ _) (.same rfl))
        (fun _ => rfl) rfl

end Reaches
end PurchaseAgent
