import PurchaseAgent.Api.Creation
import PurchaseAgent.Correctness.Initial
import PurchaseAgent.Domain.MissionValidators

/-!
Accepted creation requests against the validators of the domain. Those of the mission
follow from the schema; those of its payload do not, as the schema has no rule for cities.
-/

namespace PurchaseAgent

/-- A city that the payload takes: at most 200 characters, and not blank. -/
def CityFits (value : String) : Prop := value.length ≤ 200 ∧ strip value ≠ ""

/-- Both cities fit, and they differ once they are stripped and folded. -/
structure PayloadFits (casefold : String → String) (payload : TrainTicketMissionPayloadCreate) :
    Prop where
  origin : CityFits payload.origin
  destination : CityFits payload.destination
  distinct : casefold (strip payload.origin) ≠ casefold (strip payload.destination)

/-- The mission passes its own validators and those of its payload, unchanged. -/
def Mission.Validated (library : CreationLibrary) (mission : Mission) : Prop :=
  mission.validate = .ok mission ∧
    (TrainTicketMissionPayloadCreate.mk mission.payload.origin mission.payload.destination
      mission.payload.departureDate).toDomain library = .ok mission.payload

theorem strip_length_le (value : String) : (strip value).length ≤ value.length := by
  have inner := (List.rdropWhile_prefix isSpace (value.toList.dropWhile isSpace)).length_le
  have outer := value.toList.length_dropWhile_le (p := isSpace)
  rw [strip, String.length_ofList]
  exact Nat.le_trans inner outer

theorem CityFits.strip {value : String} (fits : CityFits value) :
    CityFits (PurchaseAgent.strip value) := by
  refine ⟨Nat.le_trans (strip_length_le value) fits.1, ?_⟩
  rw [strip_strip]
  exact fits.2

theorem normalizeCity_of_fits {value : String} (fits : CityFits value) :
    normalizeCity value = .ok (strip value) := by
  rw [normalizeCity, if_neg (Nat.not_lt_of_le fits.1), if_neg fits.2]

theorem normalizeCity_ok {value city : String} (ok : normalizeCity value = .ok city) :
    CityFits value ∧ city = strip value := by
  rw [normalizeCity] at ok
  split at ok
  · cases ok
  · next short =>
      split at ok
      · cases ok
      · next given => exact ⟨⟨Nat.le_of_not_lt short, given⟩, (Except.ok.inj ok).symm⟩

section
variable {library : CreationLibrary} {payload : TrainTicketMissionPayloadCreate}

theorem toDomain_of_fits (fits : PayloadFits library.casefold payload) :
    payload.toDomain library =
      .ok ⟨strip payload.origin, strip payload.destination, payload.departureDate⟩ := by
  rw [TrainTicketMissionPayloadCreate.toDomain, normalizeCity_of_fits fits.origin]
  change (normalizeCity payload.destination >>= _) = _
  rw [normalizeCity_of_fits fits.destination]
  exact if_neg fits.distinct

theorem fits_of_toDomain {domain : TrainTicketMissionPayload}
    (ok : payload.toDomain library = .ok domain) : PayloadFits library.casefold payload := by
  rw [TrainTicketMissionPayloadCreate.toDomain] at ok
  cases first : normalizeCity payload.origin with
  | error error =>
      rw [first] at ok
      cases ok
  | ok origin =>
      rw [first] at ok
      change (normalizeCity payload.destination >>= _) = _ at ok
      cases second : normalizeCity payload.destination with
      | error error =>
          rw [second] at ok
          cases ok
      | ok destination =>
          rw [second] at ok
          obtain ⟨originFits, rfl⟩ := normalizeCity_ok first
          obtain ⟨destinationFits, rfl⟩ := normalizeCity_ok second
          refine ⟨originFits, destinationFits, ?_⟩
          intro same
          rw [show (_ >>= _ : Except _ _) = _ from if_pos same] at ok
          cases ok

end

/-- A fresh mission that keeps the rules of the request passes every validator. -/
theorem Mission.validate_fresh {mission : Mission} (people : mission.participantIds ≠ [])
    (provider : mission.provider ≠ "") (resolvedProviderId : mission.resolvedProviderId = none)
    (reservationId : mission.reservationId = none) (positive : 1 ≤ mission.maxExecutionAttempts)
    (bounded : mission.maxExecutionAttempts ≤ 100) (attempts : mission.executionAttempts = 0)
    (events : validateEventSequence mission.executionLog mission.lastEventSequence = .ok ())
    (status : mission.status ≠ .processing) (claimedAt : mission.claimedAt = none)
    (ordered : ∀ scheduledAt ∈ mission.scheduledAt, ∀ expiresAt ∈ mission.expiresAt,
      scheduledAt ≤ expiresAt) : mission.validate = .ok mission := by
  have timely : ¬ (mission.scheduledAt.any fun scheduledAt =>
      mission.expiresAt.any (· < scheduledAt)) = true := by
    intro late
    obtain ⟨scheduledAt, first, late⟩ := Option.any_eq_true _ _ |>.1 late
    obtain ⟨expiresAt, second, late⟩ := Option.any_eq_true _ _ |>.1 late
    exact Int.not_le.2 (of_decide_eq_true late) (ordered scheduledAt first expiresAt second)
  have kept : ({ mission with resolvedProviderId := none, reservationId := none } : Mission) =
      mission := by
    cases mission
    cases resolvedProviderId
    cases reservationId
    rfl
  have noProvider (message : String) : requireText message mission.resolvedProviderId = .ok none := by
    rw [resolvedProviderId]
    rfl
  have noReservation (message : String) : requireText message mission.reservationId = .ok none := by
    rw [reservationId]
    rfl
  have short : ¬ mission.reservationId.any (255 < ·.length) = true := by
    rw [reservationId]
    exact Bool.false_ne_true
  have unused : ¬ mission.maxExecutionAttempts < mission.executionAttempts := by
    rw [attempts]
    exact Nat.not_lt_zero _
  have unclaimed : ¬ (mission.status ≠ .processing ∧ mission.claimedAt.isSome = true) := by
    rw [claimedAt]
    exact fun both => Bool.false_ne_true both.2
  rw [Mission.validate, reject_of_not people, reject_of_not provider, noProvider,
    reject_of_not short, noReservation, reject_of_not (Nat.not_lt_of_le positive),
    reject_of_not (Nat.not_lt_of_le bounded), reject_of_not unused, events,
    reject_of_not (fun both => status both.1), reject_of_not unclaimed, reject_of_not timely]
  exact congrArg Except.ok kept

section
variable {library : CreationLibrary} {mission : MissionCreate}

/-- What the request becomes, once its payload is taken. -/
theorem toDomain_ok {id : UUID} {created : Mission}
    (ok : mission.toDomain library id = .ok created) :
    ∃ payload, mission.payload.toDomain library = .ok payload := by
  rw [MissionCreate.toDomain] at ok
  cases taken : mission.payload.toDomain library with
  | error error =>
      rw [taken] at ok
      cases ok
  | ok payload => exact ⟨payload, rfl⟩

theorem participantIds_ne_nil (mission : MissionCreate) : mission.participantIds ≠ [] := by
  intro none
  have positive := mission.constraints.passengersCount_pos
  rw [mission.participantIds_length, none] at positive
  cases positive

end

/-- `to_domain` succeeds on an accepted request, with a mission that passes every
validator, if and only if its cities fit. -/
theorem accepted_created_iff (library : CreationLibrary) (mission : MissionCreate) (id : UUID) :
    (∃ created, mission.toDomain library id = .ok created ∧ created.Validated library) ↔
      PayloadFits library.casefold mission.payload := by
  constructor
  · intro created
    obtain ⟨_, ok, -⟩ := created
    obtain ⟨payload, taken⟩ := toDomain_ok ok
    exact fits_of_toDomain taken
  · intro fits
    have taken := toDomain_of_fits fits
    rw [MissionCreate.toDomain, taken]
    refine ⟨_, rfl, ?_, ?_⟩
    · apply Mission.validate_fresh (participantIds_ne_nil mission) mission.provider_nonempty rfl rfl
        mission.maxExecutionAttempts_pos mission.maxExecutionAttempts_le rfl rfl ?_ rfl
        mission.scheduledAt_le
      change (if mission.scheduledAt.isSome then MissionStatus.waiting else .created) ≠ .processing
      split <;> exact fun h => by cases h
    · have again : PayloadFits library.casefold
          ⟨strip mission.payload.origin, strip mission.payload.destination,
            mission.payload.departureDate⟩ := by
        refine ⟨fits.origin.strip, fits.destination.strip, ?_⟩
        rw [strip_strip, strip_strip]
        exact fits.distinct
      have same := toDomain_of_fits again
      rw [strip_strip, strip_strip] at same
      exact same

namespace BlankCity

def library : CreationLibrary := ⟨id, fun _ => "", fun _ => ""⟩

theorem single_passenger : (1 : Int) = ([⟨9⟩] : List UUID).length := rfl

theorem provider_named : "mock_train" ≠ "" := by decide

theorem attempts_fit : 1 ≤ 3 ∧ 3 ≤ 100 := by decide

theorem unscheduled (scheduledAt : Time) (impossible : scheduledAt ∈ (none : Option Time)) :
    ∀ expiresAt ∈ (none : Option Time), scheduledAt ≤ expiresAt := by
  cases impossible

/-- A trip from nowhere. -/
def request : MissionCreate where
  type := none
  missionType := .trainTicket
  payload := ⟨" ", "B", ⟨2026, 8, 1⟩⟩
  title := "trip"
  participantIds := [⟨9⟩]
  provider := "mock_train"
  executionMode := .requireConfirmation
  providerId := none
  constraints := Sample.mission.constraints
  fallbackRules := ⟨none, none, none⟩
  scheduledAt := none
  expiresAt := none
  maxExecutionAttempts := 3
  participantIds_nodup := List.pairwise_singleton _ _
  participantIds_length := single_passenger
  provider_nonempty := provider_named
  maxExecutionAttempts_pos := attempts_fit.1
  maxExecutionAttempts_le := attempts_fit.2
  scheduledAt_le := unscheduled

end BlankCity

/-- The accepted request of a trip from a blank city ends in a `ValidationError`. -/
theorem blank_city_raises :
    BlankCity.request.toDomain BlankCity.library ⟨1⟩ =
      .error (.other "ValidationError" "city must not be empty") := rfl

end PurchaseAgent
