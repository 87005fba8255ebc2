import PurchaseAgent.Domain.Errors

/-!
Options, results and capabilities exchanged with ticket providers. A
`ReservationResult` carries what its validators establish, so a reservation id
is present exactly on success and is neither blank nor padded.
-/

namespace PurchaseAgent

inductive SeatBerth where
  | lower
  | upper
deriving DecidableEq, Repr

structure Seat where
  carriageNumber : Int
  compartmentNumber : Int
  seatNumber : Int
  berth : SeatBerth
  nearToilet : Bool
deriving DecidableEq, Repr

inductive ProviderOptionType where
  | trainOption
deriving DecidableEq, Repr

structure ProviderOption where
  id : UUID
  type : ProviderOptionType
  trainNumber : String
  fromCity : String
  toCity : String
  departureAt : DateTime
  arrivalAt : DateTime
  totalPrice : Int
  seats : List Seat
  metadata : List (String × PyValue)
deriving DecidableEq, Repr

/-- The id a provider gave to a reservation, as the validators leave it. -/
def IsReservationId (id : String) : Prop :=
  strip id = id ∧ id ≠ ""

instance (id : String) : Decidable (IsReservationId id) :=
  inferInstanceAs (Decidable (_ ∧ _))

structure ReservationResult where
  success : Bool
  reservationId : Option String
  requiresConfirmation : Bool
  message : String
  normalized : ∀ id ∈ reservationId, IsReservationId id
  outcome : success = reservationId.isSome
deriving DecidableEq

namespace ReservationResult

/-- A reservation the provider made. -/
def made (id : String) (requiresConfirmation : Bool) (message : String)
    (normalized : IsReservationId id) : ReservationResult where
  success := true
  reservationId := some id
  requiresConfirmation := requiresConfirmation
  message := message
  normalized := by rintro _ ⟨⟩; exact normalized
  outcome := rfl

theorem exists_id (result : ReservationResult) (h : result.success = true) :
    ∃ id, result.reservationId = some id :=
  Option.isSome_iff_exists.mp (result.outcome ▸ h)

end ReservationResult

structure ConfirmationResult where
  success : Bool
  message : String
deriving DecidableEq

structure CancellationResult where
  success : Bool
  message : String
deriving DecidableEq

/-- A provider id as `normalize_provider_id` returns it. -/
structure ProviderId where
  text : String
  normalized : strip text = text
  nonempty : text ≠ ""
deriving DecidableEq

theorem ProviderId.eq_of_text {left right : ProviderId} (same : left.text = right.text) :
    left = right := by
  cases left
  cases right
  cases same
  rfl

def normalizeProviderId : Option String → Except PyException (Option ProviderId)
  | none => .ok none
  | some value =>
    if h : strip value = "" then .error (.valueError "Provider ID must be a non-empty string")
    else .ok (some ⟨strip value, strip_strip value, h⟩)

end PurchaseAgent
