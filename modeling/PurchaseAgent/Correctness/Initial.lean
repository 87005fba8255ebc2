import PurchaseAgent.Services.Commands

/-!
Worlds and configurations a run with the in-memory repository starts from.
-/

namespace PurchaseAgent

open Cooperative InMemoryMissionRepository

variable {σ : Type}

/-- Surroundings with the given providers, a clock that counts its readings and
known participants. -/
def Environment.withProviders
    (handle : (call : ProviderCall) → Mission → σ → Except PyException call.Answer × σ) :
    Environment σ where
  utcNow n := n
  newEventId n := ⟨n + 1⟩
  identity id _ := .ok (some ⟨id⟩)
  handle := handle
  newEventId_injective := UUID.count_injective
  newEventId_ne_nil n := by simp [UUID.nil]

/-- The repository after `create` of the given missions. -/
def initialWorld (missions : List Mission) (blank : Mission) (outside : σ) : MemoryWorld σ where
  objects r := ⟨missions.getD r blank, (missions.getD r blank).lastEventSequence⟩
  nextRef := missions.length
  repository :=
    { missions := missions.mapIdx fun r mission => (mission.id, r)
      executionAttempts := fun _ => [] }
  outside := outside
  clockReads := 0
  idsDrawn := 0
  trace := []

theorem consistent_initialWorld (missions : List Mission) (blank : Mission) (outside : σ)
    (distinct : (missions.map (·.id)).Nodup) :
    Consistent (initialWorld missions blank outside) where
  keys := by
    have keys : (initialWorld missions blank outside).repository.missions.map (·.1) =
        missions.map (·.id) := List.ext_getElem (by simp [initialWorld]) (by simp [initialWorld])
    rwa [keys]
  ids entry member := by
    obtain ⟨r, bound, rfl⟩ := List.mem_mapIdx.mp member
    simp [initialWorld, World.mission, bound]

/-- The objects the repository can hand out. -/
def MemoryWorld.Known (w : MemoryWorld σ) (r : Ref) : Prop :=
  ∃ id, w.repository.missions.get? id = some r

theorem known_of_stored {w : MemoryWorld σ} {r : Ref} (h : Stored w r) : w.Known r := ⟨_, h⟩

theorem InMemoryMissionRepository.Consistent.stored_of_known {w : MemoryWorld σ}
    (h : Consistent w) {r : Ref} (known : w.Known r) : Stored w r := by
  obtain ⟨id, found⟩ := known
  exact (h.stored_of_get? found).1

/-- Tasks that start the given calls on the world `w`. -/
def startCommands (registry : ProviderRegistry) (commands : TaskId → Command)
    (w : MemoryWorld σ) : Config (signature memory) (MemoryWorld σ) (Except PyException Unit) where
  shared := w
  tasks t := ((commands t).service inMemoryMissionRepository registry).run
  running := none

abbrev CommandConfig (σ : Type) :=
  Config (signature memory) (MemoryWorld σ) (Except PyException Unit)

/-- The provider call an operation enters. -/
def Op.entered {B : Backend} : Op B → Option (Ref × ProviderCall)
  | .call r c => some (r, c)
  | _ => none

def Op.isRecovery : Op memory → Bool
  | .repository (.recoverStaleProcessing _ _ _) => true
  | _ => false

theorem Op.eq_call_of_entered {B : Backend} {o : Op B} {r : Ref} {c : ProviderCall}
    (h : o.entered = some (r, c)) : o = .call r c := by
  cases o <;> simp only [Op.entered, Option.some.injEq, Prod.mk.injEq, reduceCtorEq] at h
  rw [h.1, h.2]

theorem performs_call {env : Environment σ} {c : CommandConfig σ} {t : TaskId} {r : Ref}
    {call : ProviderCall}
    (h : (c.pending (machine memory env) t).bind Op.entered = some (r, call)) :
    c.Performs (machine memory env) t (.call r call) := by
  obtain ⟨o, pending, entered⟩ := Option.bind_eq_some_iff.mp h
  exact Op.eq_call_of_entered entered ▸ Config.performs_of_pending _ pending

/-- The claims a run has made. -/
def claimsMade (trace : List (TaskId × Event)) : List (TaskId × UUID × Nat) :=
  trace.filterMap fun
    | (t, .claimed missionId attemptNumber) => some (t, missionId, attemptNumber)
    | _ => none

theorem mem_claimsMade {trace : List (TaskId × Event)} {t : TaskId} {missionId : UUID}
    {attemptNumber : Nat} :
    (t, missionId, attemptNumber) ∈ claimsMade trace ↔
      (t, .claimed missionId attemptNumber) ∈ trace := by
  unfold claimsMade
  rw [List.mem_filterMap]
  constructor
  · rintro ⟨⟨t', event⟩, member, same⟩
    cases event <;> simp only [Option.some.injEq, Prod.mk.injEq, reduceCtorEq] at same
    obtain ⟨rfl, rfl, rfl⟩ := same
    exact member
  · exact fun member => ⟨_, member, rfl⟩

/-! Data of concrete runs. -/

namespace Sample

def mission : Mission :=
  { Mission.new ⟨7⟩ "trip" [⟨9⟩] "mock_train"
      ⟨"A", "B", ⟨2026, 8, 1⟩, 1, none, none, none, none, by decide⟩ with
    status := .waiting, scheduledAt := some 0 }

def registry : ProviderRegistry :=
  ⟨[⟨"mock_train", [⟨.trainTicket, true⟩]⟩], by decide, by decide⟩

/-- An option with one seat. -/
def option (id : UUID) (totalPrice : Int) : ProviderOption where
  id := id
  type := .trainOption
  trainNumber := "001A"
  fromCity := "A"
  toCity := "B"
  departureAt := ⟨0, none⟩
  arrivalAt := ⟨1, none⟩
  totalPrice := totalPrice
  seats := [⟨1, 1, 1, .lower, false⟩]
  metadata := []

/-- A provider that accepts everything and names every reservation `R`. -/
def accepting (options : List ProviderOption) :
    (call : ProviderCall) → Mission → Unit → Except PyException call.Answer × Unit
  | .searchOptions .., _, s => (.ok options, s)
  | .reserveOption .., _, s => (.ok (.made "R" true "" (by decide)), s)
  | .confirmReservation .., _, s => (.ok ⟨true, ""⟩, s)
  | .cancelReservation .., _, s => (.ok ⟨true, ""⟩, s)

def start {σ : Type} (commands : TaskId → Command) (outside : σ) : CommandConfig σ :=
  startCommands registry commands (initialWorld [mission] mission outside)

end Sample

end PurchaseAgent
