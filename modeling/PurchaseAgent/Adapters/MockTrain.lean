import PurchaseAgent.Adapters.Registry
import PurchaseAgent.Collections.Dict
import PurchaseAgent.Services.Runtime

/-!
The built-in train provider. It offers four fixed trains, and it remembers the
answer to every idempotency key, so that a repeated key gets the first answer
again whatever else the call says.
-/

namespace PurchaseAgent

open Collections

/-- The number of days since 1970-01-01. -/
def Date.days (date : Date) : Int :=
  let year := if date.month ≤ 2 then date.year - 1 else date.year
  let yearOfEra := year % 400
  let dayOfYear := (153 * ((date.month + 9) % 12) + 2) / 5 + date.day - 1
  year / 400 * 146097 + yearOfEra * 365 + yearOfEra / 4 - yearOfEra / 100 + dayOfYear - 719468

example : (⟨2024, 2, 29⟩ : Date).days = 19782 := by decide

/-- `datetime.combine(date, time(hour=hour))`. -/
def DateTime.combine (date : Date) (hour : Int) : DateTime :=
  ⟨seconds ((date.days * 24 + hour) * 3600), none⟩

/-- `datetime + timedelta`. -/
def DateTime.add (time : DateTime) (delta : TimeDelta) : Except PyException DateTime :=
  match Time.add time.wall delta with
  | .ok wall => .ok { time with wall := wall }
  | .error message => .error (.overflowError message)

/-- The dictionaries of the adapter; `cancelledReservationIds` lists a set, and
`optionsDrawn` counts the ids that `uuid4` has drawn for its options. -/
structure MockTrainAdapter where
  reservationsByKey : Dict String ReservationResult := []
  confirmationsByKey : Dict String ConfirmationResult := []
  cancellationsByKey : Dict String CancellationResult := []
  cancelledReservationIds : List String := []
  optionsDrawn : Nat := 0

namespace MockTrainAdapter

def providerName : String := "mock_train"

def capabilities : List ProviderCapability := [⟨.trainTicket, true⟩]

/-- The adapter as the registry sees it. -/
def registered : ProviderAdapter := ⟨providerName, capabilities⟩

def seat (carriageNumber compartmentNumber seatNumber : Int) (berth : SeatBerth)
    (nearToilet : Bool := false) : Seat :=
  ⟨carriageNumber, compartmentNumber, seatNumber, berth, nearToilet⟩

def buildOption (mission : Mission) (id : UUID) (trainNumber : String) (totalPrice : Int)
    (departureAt arrivalAt : DateTime) (seats : List Seat) : ProviderOption where
  id := id
  type := .trainOption
  trainNumber := trainNumber
  fromCity := mission.payload.origin
  toCity := mission.payload.destination
  departureAt := departureAt
  arrivalAt := arrivalAt
  totalPrice := totalPrice
  seats := seats
  metadata := []

/-- A train of the timetable: how much later than the first it runs, its number,
its price and its seats. -/
def trains : List (TimeDelta × String × Int × List Seat) :=
  [ (0, "001A", 28400,
      [seat 1 1 1 .lower, seat 1 1 2 .upper, seat 1 1 3 .lower, seat 1 1 4 .upper]),
    (seconds 1800, "002B", 25900,
      [seat 1 2 5 .lower, seat 1 2 6 .upper, seat 1 2 7 .upper, seat 1 2 8 .upper]),
    (seconds 3600, "003C", 24000,
      [seat 2 3 9 .lower, seat 2 3 10 .upper, seat 2 4 11 .lower, seat 2 4 12 .upper]),
    (seconds 7200, "004D", 22000,
      [seat 3 5 13 .lower true, seat 3 5 14 .upper, seat 3 5 15 .lower, seat 3 5 16 .upper]) ]

/-- The options for the trains, with the ids from `drawn` on. -/
def buildOptions (newOptionId : Nat → UUID) (mission : Mission) (departureAt arrivalAt : DateTime) :
    Nat → List (TimeDelta × String × Int × List Seat) → Except PyException (List ProviderOption)
  | _, [] => .ok []
  | drawn, (later, trainNumber, totalPrice, seats) :: rest => do
    let departure ← departureAt.add later
    let arrival ← arrivalAt.add later
    let options ← buildOptions newOptionId mission departureAt arrivalAt (drawn + 1) rest
    .ok (buildOption mission (newOptionId drawn) trainNumber totalPrice departure arrival seats ::
      options)

def searchOptions (newOptionId : Nat → UUID) (adapter : MockTrainAdapter) (mission : Mission) :
    Except PyException (List ProviderOption) × MockTrainAdapter :=
  let departureAt := DateTime.combine mission.payload.departureDate 20
  let options := do
    let arrivalAt ← departureAt.add (seconds 36000)
    buildOptions newOptionId mission departureAt arrivalAt adapter.optionsDrawn trains
  (options, { adapter with optionsDrawn := adapter.optionsDrawn + trains.length })

def reservationIdFor (idempotencyKey : String) : String :=
  strip ("mock-reservation-" ++ idempotencyKey)

theorem isReservationId_for (idempotencyKey : String) :
    IsReservationId (reservationIdFor idempotencyKey) := by
  refine ⟨strip_strip _, fun blank => ?_⟩
  have text : ("mock-reservation-" ++ idempotencyKey).toList =
      'm' :: ("ock-reservation-".toList ++ idempotencyKey.toList) := by
    rw [String.toList_append]
    rfl
  have chars := congrArg String.toList blank
  rw [reservationIdFor, strip, String.toList_ofList, text,
    List.dropWhile_cons_of_neg (by decide)] at chars
  have none := List.rdropWhile_eq_nil_iff.mp chars 'm' List.mem_cons_self
  exact absurd none (by decide)

def reserveOption (adapter : MockTrainAdapter) (idempotencyKey : String) :
    ReservationResult × MockTrainAdapter :=
  match adapter.reservationsByKey.get? idempotencyKey with
  | some existing => (existing, adapter)
  | none =>
    let result := ReservationResult.made (reservationIdFor idempotencyKey) true
      "Mock reservation created. User confirmation required." (isReservationId_for idempotencyKey)
    (result, { adapter with
      reservationsByKey := adapter.reservationsByKey.set idempotencyKey result })

def reservedIds (adapter : MockTrainAdapter) : List (Option String) :=
  adapter.reservationsByKey.map fun entry => entry.2.reservationId

def confirmReservation (adapter : MockTrainAdapter) (reservationId idempotencyKey : String) :
    ConfirmationResult × MockTrainAdapter :=
  match adapter.confirmationsByKey.get? idempotencyKey with
  | some existing => (existing, adapter)
  | none =>
    let isConfirmable : Bool := some reservationId ∈ adapter.reservedIds ∧
      reservationId ∉ adapter.cancelledReservationIds
    let result : ConfirmationResult :=
      ⟨isConfirmable, if isConfirmable then "Mock reservation confirmed."
        else "Mock reservation is unavailable for confirmation."⟩
    (result, { adapter with
      confirmationsByKey := adapter.confirmationsByKey.set idempotencyKey result })

def cancelReservation (adapter : MockTrainAdapter) (reservationId idempotencyKey : String) :
    CancellationResult × MockTrainAdapter :=
  match adapter.cancellationsByKey.get? idempotencyKey with
  | some existing => (existing, adapter)
  | none =>
    let reserved : Bool := some reservationId ∈ adapter.reservedIds
    let result : CancellationResult :=
      ⟨reserved, if reserved then "Mock reservation cancelled."
        else "Mock reservation was not found."⟩
    (result, { adapter with
      cancelledReservationIds :=
        if result.success then adapter.cancelledReservationIds.insert reservationId
        else adapter.cancelledReservationIds
      cancellationsByKey := adapter.cancellationsByKey.set idempotencyKey result })

/-- The adapter carries out a call. -/
def handle (newOptionId : Nat → UUID) :
    (call : ProviderCall) → Mission → MockTrainAdapter →
      Except PyException call.Answer × MockTrainAdapter
  | .searchOptions .., mission, adapter => adapter.searchOptions newOptionId mission
  | .reserveOption _ _ key, _, adapter =>
      (.ok (adapter.reserveOption key).1, (adapter.reserveOption key).2)
  | .confirmReservation _ reservationId key, _, adapter =>
      (.ok (adapter.confirmReservation reservationId key).1,
        (adapter.confirmReservation reservationId key).2)
  | .cancelReservation _ reservationId key, _, adapter =>
      (.ok (adapter.cancelReservation reservationId key).1,
        (adapter.cancelReservation reservationId key).2)

end MockTrainAdapter

def ProviderCall.providerId : ProviderCall → String
  | .searchOptions providerId _ | .reserveOption providerId _ _
  | .confirmReservation providerId _ _ | .cancelReservation providerId _ _ => providerId

/-- Surroundings in which the calls for `mock_train` go to the built-in adapter, and
all others to providers of which nothing is known. -/
def Environment.withMockTrain {τ : Type} (others : Environment τ) (newOptionId : Nat → UUID) :
    Environment (MockTrainAdapter × τ) where
  utcNow := others.utcNow
  newEventId := others.newEventId
  identity id outside := others.identity id outside.2
  handle call mission outside :=
    if call.providerId = MockTrainAdapter.providerName then
      ((MockTrainAdapter.handle newOptionId call mission outside.1).1,
        ((MockTrainAdapter.handle newOptionId call mission outside.1).2, outside.2))
    else
      ((others.handle call mission outside.2).1,
        (outside.1, (others.handle call mission outside.2).2))
  newEventId_injective := others.newEventId_injective
  newEventId_ne_nil := others.newEventId_ne_nil

end PurchaseAgent
