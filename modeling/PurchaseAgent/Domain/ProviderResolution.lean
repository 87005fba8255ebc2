import PurchaseAgent.Domain.Provider

/-!
The payload models of the events that record how a provider was chosen. What
their validators establish is carried by the structures, so that a payload is
read back from its own dump unchanged.
-/

namespace PurchaseAgent

def validationError (message : String) : PyException := .other "ValidationError" message

theorem exists_of_map_ok {ε α β : Type} {f : α → β} {parsed : Except ε α} {b : β}
    (h : parsed.map f = .ok b) : ∃ a, parsed = .ok a ∧ b = f a := by
  cases parsed with
  | error error => cases h
  | ok a => exact ⟨a, rfl, (Except.ok.inj h).symm⟩

/-- A field of a model that has no default. -/
def requiredField (fields : List (String × PyValue)) (name : String) :
    Except PyException PyValue :=
  match fields.lookup name with
  | some value => .ok value
  | none => .error (validationError "Field required")

/-- A `StrEnum` field, with the members of the class. -/
def enumField {α : Type} (value : α → String) (members : List α) :
    PyValue → Except PyException α
  | .str text =>
    match members.find? (value · = text) with
    | some member => .ok member
    | none => .error (validationError "Input is not a member of the enumeration")
  | _ => .error (validationError "Input is not a member of the enumeration")

theorem enumField_str {α : Type} {value : α → String} {members : List α} {member : α}
    (listed : member ∈ members) (distinct : ∀ other, value other = value member → other = member) :
    enumField value members (.str (value member)) = .ok member := by
  cases found : members.find? (value · = value member) with
  | none =>
      have differs := List.find?_eq_none.mp found member listed
      simp at differs
  | some other =>
      have same : value other = value member := by simpa using List.find?_some found
      rw [distinct other same] at found
      simp only [enumField, found]

/-- A field that may be `None`. -/
def optionalField {α : Type} (parse : PyValue → Except PyException α) :
    PyValue → Except PyException (Option α)
  | .none => .ok none
  | value => (parse value).map some

namespace ProviderId

/-- A string field with `normalize_provider_id` as its validator. -/
def parse : PyValue → Except PyException ProviderId
  | .str value =>
    if nonempty : strip value = "" then
      .error (validationError "Provider ID must be a non-empty string")
    else .ok ⟨strip value, strip_strip value, nonempty⟩
  | _ => .error (validationError "Input should be a valid string")

theorem parse_text (providerId : ProviderId) : parse (.str providerId.text) = .ok providerId := by
  obtain ⟨text, normalized, nonempty⟩ := providerId
  have kept : ¬ strip text = "" := by rwa [normalized]
  refine (dif_neg kept).trans ?_
  simp only [normalized]

theorem optionalField_ofText (providerId : Option ProviderId) :
    optionalField parse (.ofText (providerId.map (·.text))) = .ok providerId := by
  cases providerId with
  | none => rfl
  | some providerId =>
      change (parse (.str providerId.text)).map some = _
      rw [parse_text]
      rfl

def parseAll : List PyValue → Except PyException (List ProviderId)
  | [] => .ok []
  | value :: rest =>
    match parse value, parseAll rest with
    | .ok providerId, .ok providerIds => .ok (providerId :: providerIds)
    | .error error, _ | _, .error error => .error error

theorem parseAll_texts (providerIds : List ProviderId) :
    parseAll (providerIds.map fun providerId => .str providerId.text) = .ok providerIds := by
  induction providerIds with
  | nil => rfl
  | cons providerId rest ih => simp only [List.map_cons, parseAll, parse_text, ih]

/-- A `tuple[str, ...]` field of provider ids. -/
def parseTuple : PyValue → Except PyException (List ProviderId)
  | .list values | .tuple values => parseAll values
  | _ => .error (validationError "Input should be a valid tuple")

/-- The ids in a JSON dump. -/
def dumpAll (providerIds : List ProviderId) : PyValue :=
  .list (providerIds.map fun providerId => .str providerId.text)

theorem parseTuple_dumpAll (providerIds : List ProviderId) :
    parseTuple (dumpAll providerIds) = .ok providerIds :=
  parseAll_texts providerIds

end ProviderId

inductive ProviderSelectionMode where
  | explicit
  | automatic
deriving DecidableEq, Repr

namespace ProviderSelectionMode

def value : ProviderSelectionMode → String
  | .explicit => "explicit"
  | .automatic => "automatic"

def parse : PyValue → Except PyException ProviderSelectionMode :=
  enumField value [.explicit, .automatic]

@[simp] theorem parse_value (mode : ProviderSelectionMode) : parse (.str mode.value) = .ok mode := by
  apply enumField_str
  · cases mode <;> decide
  · intro other
    cases mode <;> cases other <;> decide

/-- `selection_mode_for`. -/
def ofProviderId (providerId : Option ProviderId) : ProviderSelectionMode :=
  if providerId.isSome then .explicit else .automatic

end ProviderSelectionMode

def MissionType.parse : PyValue → Except PyException MissionType :=
  enumField MissionType.value [.trainTicket]

@[simp] theorem MissionType.parse_value (missionType : MissionType) :
    MissionType.parse (.str missionType.value) = .ok missionType := by
  cases missionType
  rfl

inductive ProviderResolutionFailureReason where
  | unknownProvider
  | unsupportedMissionType
  | unsupportedExecutionMode
  | noSupportingProvider
  | ambiguousProvider
deriving DecidableEq, Repr

namespace ProviderResolutionFailureReason

def value : ProviderResolutionFailureReason → String
  | .unknownProvider => "unknown_provider"
  | .unsupportedMissionType => "unsupported_mission_type"
  | .unsupportedExecutionMode => "unsupported_execution_mode"
  | .noSupportingProvider => "no_supporting_provider"
  | .ambiguousProvider => "ambiguous_provider"

def parse : PyValue → Except PyException ProviderResolutionFailureReason :=
  enumField value [.unknownProvider, .unsupportedMissionType, .unsupportedExecutionMode,
    .noSupportingProvider, .ambiguousProvider]

@[simp] theorem parse_value (reason : ProviderResolutionFailureReason) :
    parse (.str reason.value) = .ok reason := by
  apply enumField_str
  · cases reason <;> decide
  · intro other
    cases reason <;> cases other <;> decide

end ProviderResolutionFailureReason

structure ProviderResolutionSnapshot where
  selectionMode : ProviderSelectionMode
  requestedProviderId : Option ProviderId
  resolvedProviderId : ProviderId
  candidateProviderIds : List ProviderId
  missionType : MissionType
  candidates_unique : candidateProviderIds.Nodup
  resolved_candidate : resolvedProviderId ∈ candidateProviderIds
  selection : requestedProviderId =
    if selectionMode = .automatic then none else some resolvedProviderId
deriving DecidableEq

namespace ProviderResolutionSnapshot

def dump (snapshot : ProviderResolutionSnapshot) : List (String × PyValue) :=
  [("selection_mode", .str snapshot.selectionMode.value),
    ("requested_provider_id", .ofText (snapshot.requestedProviderId.map (·.text))),
    ("resolved_provider_id", .str snapshot.resolvedProviderId.text),
    ("candidate_provider_ids", ProviderId.dumpAll snapshot.candidateProviderIds),
    ("mission_type", .str snapshot.missionType.value)]

/-- The validators, on the values of the fields. -/
def create (selectionMode : ProviderSelectionMode) (requested : Option ProviderId)
    (resolved : ProviderId) (candidates : List ProviderId) (missionType : MissionType) :
    Except PyException ProviderResolutionSnapshot :=
  if candidates = [] then .error (validationError "candidate provider IDs must not be empty")
  else if unique : candidates.Nodup then
    if member : resolved ∈ candidates then
      if selection :
          requested = if selectionMode = .automatic then none else some resolved then
        .ok ⟨selectionMode, requested, resolved, candidates, missionType, unique, member,
          selection⟩
      else if selectionMode = .automatic then
        .error (validationError "automatic snapshot cannot request a provider")
      else .error (validationError "explicit snapshot must resolve requested provider")
    else .error (validationError "resolved provider must be a candidate")
  else .error (validationError "candidate provider IDs must be unique")

theorem create_self (snapshot : ProviderResolutionSnapshot) :
    create snapshot.selectionMode snapshot.requestedProviderId snapshot.resolvedProviderId
      snapshot.candidateProviderIds snapshot.missionType = .ok snapshot := by
  have some : snapshot.candidateProviderIds ≠ [] :=
    List.ne_nil_of_mem snapshot.resolved_candidate
  simp only [create, if_neg some, dif_pos snapshot.candidates_unique,
    dif_pos snapshot.resolved_candidate, dif_pos snapshot.selection]

def validate : PyValue → Except PyException ProviderResolutionSnapshot
  | .dict fields => do
    let selectionMode ← requiredField fields "selection_mode" >>= ProviderSelectionMode.parse
    let requested ← requiredField fields "requested_provider_id" >>= optionalField ProviderId.parse
    let resolved ← requiredField fields "resolved_provider_id" >>= ProviderId.parse
    let candidates ← requiredField fields "candidate_provider_ids" >>= ProviderId.parseTuple
    let missionType ← requiredField fields "mission_type" >>= MissionType.parse
    create selectionMode requested resolved candidates missionType
  | _ => .error (validationError "Input should be a valid dictionary")

theorem validate_dump (snapshot : ProviderResolutionSnapshot) :
    validate (.dict snapshot.dump) = .ok snapshot := by
  simp [validate, dump, requiredField, List.lookup_cons, bind, Except.bind,
    ProviderId.optionalField_ofText, ProviderId.parse_text, ProviderId.parseTuple_dumpAll,
    create_self]

end ProviderResolutionSnapshot

structure ProviderResolvedEventPayload where
  providerId : ProviderId
  missionType : MissionType
  selectionMode : ProviderSelectionMode
  snapshot : Option ProviderResolutionSnapshot
  agrees : ∀ context ∈ snapshot, providerId = context.resolvedProviderId ∧
    missionType = context.missionType ∧ selectionMode = context.selectionMode
deriving DecidableEq

namespace ProviderResolvedEventPayload

def dump (payload : ProviderResolvedEventPayload) : List (String × PyValue) :=
  [("provider_id", .str payload.providerId.text),
    ("mission_type", .str payload.missionType.value),
    ("selection_mode", .str payload.selectionMode.value),
    ("snapshot",
      match payload.snapshot with
      | some snapshot => .dict snapshot.dump
      | none => .none)]

/-- `validate_snapshot`. -/
def create (providerId : ProviderId) (missionType : MissionType)
    (selectionMode : ProviderSelectionMode) (snapshot : Option ProviderResolutionSnapshot) :
    Except PyException ProviderResolvedEventPayload :=
  if agrees : ∀ context ∈ snapshot, providerId = context.resolvedProviderId ∧
      missionType = context.missionType ∧ selectionMode = context.selectionMode then
    .ok ⟨providerId, missionType, selectionMode, snapshot, agrees⟩
  else if ∀ context ∈ snapshot, providerId = context.resolvedProviderId then
    if ∀ context ∈ snapshot, missionType = context.missionType then
      .error (validationError "selection mode does not match snapshot")
    else .error (validationError "mission type does not match snapshot")
  else .error (validationError "resolved provider does not match snapshot")

theorem create_self (payload : ProviderResolvedEventPayload) :
    create payload.providerId payload.missionType payload.selectionMode payload.snapshot =
      .ok payload :=
  dif_pos payload.agrees

def validate (fields : List (String × PyValue)) :
    Except PyException ProviderResolvedEventPayload := do
  let providerId ← requiredField fields "provider_id" >>= ProviderId.parse
  let missionType ← requiredField fields "mission_type" >>= MissionType.parse
  let selectionMode ← requiredField fields "selection_mode" >>= ProviderSelectionMode.parse
  let snapshot ← optionalField ProviderResolutionSnapshot.validate
    ((fields.lookup "snapshot").getD .none)
  create providerId missionType selectionMode snapshot

theorem validate_dump (payload : ProviderResolvedEventPayload) :
    validate payload.dump = .ok payload := by
  have snapshot : optionalField ProviderResolutionSnapshot.validate
      ((payload.dump.lookup "snapshot").getD .none) = .ok payload.snapshot := by
    simp only [dump, List.lookup_cons, show ("snapshot" == "provider_id") = false by decide,
      show ("snapshot" == "mission_type") = false by decide,
      show ("snapshot" == "selection_mode") = false by decide, BEq.rfl, Option.getD_some]
    cases payload.snapshot with
    | none => rfl
    | some snapshot =>
        change (ProviderResolutionSnapshot.validate (.dict snapshot.dump)).map some = _
        rw [ProviderResolutionSnapshot.validate_dump]
        rfl
  simp only [validate, snapshot]
  simp [dump, requiredField, List.lookup_cons, bind, Except.bind, ProviderId.parse_text,
    create_self]

end ProviderResolvedEventPayload

/-- What `validate_reason_fields` asks of a failure. -/
def ProviderResolutionFailureReason.Fits (reason : ProviderResolutionFailureReason)
    (requested : Option ProviderId) (candidates : List ProviderId) : Prop :=
  match reason with
  | .unknownProvider | .unsupportedMissionType => requested.isSome ∧ candidates = []
  | .unsupportedExecutionMode => candidates = []
  | .noSupportingProvider => requested = none ∧ candidates = []
  | .ambiguousProvider => requested = none ∧ 2 ≤ candidates.length

instance (reason : ProviderResolutionFailureReason) (requested : Option ProviderId)
    (candidates : List ProviderId) : Decidable (reason.Fits requested candidates) :=
  match reason with
  | .unknownProvider | .unsupportedMissionType => inferInstanceAs (Decidable (_ ∧ _))
  | .unsupportedExecutionMode => inferInstanceAs (Decidable (candidates = []))
  | .noSupportingProvider | .ambiguousProvider => inferInstanceAs (Decidable (_ ∧ _))

structure ProviderResolutionFailedEventPayload where
  reason : ProviderResolutionFailureReason
  missionType : MissionType
  requestedProviderId : Option ProviderId
  candidateProviderIds : List ProviderId
  candidates_unique : candidateProviderIds.Nodup
  reason_fits : reason.Fits requestedProviderId candidateProviderIds
deriving DecidableEq

namespace ProviderResolutionFailedEventPayload

def dump (payload : ProviderResolutionFailedEventPayload) : List (String × PyValue) :=
  [("reason", .str payload.reason.value),
    ("mission_type", .str payload.missionType.value),
    ("requested_provider_id", .ofText (payload.requestedProviderId.map (·.text))),
    ("candidate_provider_ids", ProviderId.dumpAll payload.candidateProviderIds)]

/-- The message for fields that do not fit the reason. -/
def misfit (reason : ProviderResolutionFailureReason) (requested : Option ProviderId) : String :=
  match reason with
  | .unknownProvider | .unsupportedMissionType => "explicit resolution failure payload is invalid"
  | .unsupportedExecutionMode =>
    if requested.isSome then "unsupported-execution-mode payload is invalid"
    else "no-supporting-provider payload is invalid"
  | .noSupportingProvider => "no-supporting-provider payload is invalid"
  | .ambiguousProvider => "ambiguous-provider payload is invalid"

def create (reason : ProviderResolutionFailureReason) (missionType : MissionType)
    (requested : Option ProviderId) (candidates : List ProviderId) :
    Except PyException ProviderResolutionFailedEventPayload :=
  if unique : candidates.Nodup then
    if fits : reason.Fits requested candidates then
      .ok ⟨reason, missionType, requested, candidates, unique, fits⟩
    else .error (validationError (misfit reason requested))
  else .error (validationError "candidate provider IDs must be unique")

theorem create_self (payload : ProviderResolutionFailedEventPayload) :
    create payload.reason payload.missionType payload.requestedProviderId
      payload.candidateProviderIds = .ok payload := by
  simp only [create, dif_pos payload.candidates_unique, dif_pos payload.reason_fits]

def validate (fields : List (String × PyValue)) :
    Except PyException ProviderResolutionFailedEventPayload := do
  let reason ← requiredField fields "reason" >>= ProviderResolutionFailureReason.parse
  let missionType ← requiredField fields "mission_type" >>= MissionType.parse
  let requested ← optionalField ProviderId.parse
    ((fields.lookup "requested_provider_id").getD .none)
  let candidates ← ProviderId.parseTuple
    ((fields.lookup "candidate_provider_ids").getD (.tuple []))
  create reason missionType requested candidates

theorem validate_dump (payload : ProviderResolutionFailedEventPayload) :
    validate payload.dump = .ok payload := by
  simp [validate, dump, requiredField, List.lookup_cons, bind, Except.bind,
    ProviderId.optionalField_ofText, ProviderId.parseTuple_dumpAll, create_self]

end ProviderResolutionFailedEventPayload

structure ProviderSelectionChangedEventPayload where
  previousProviderId : Option ProviderId
  newProviderId : Option ProviderId
  previousSelectionMode : ProviderSelectionMode
  newSelectionMode : ProviderSelectionMode
  changed : previousProviderId ≠ newProviderId
  previous_mode : previousSelectionMode = .ofProviderId previousProviderId
  new_mode : newSelectionMode = .ofProviderId newProviderId
deriving DecidableEq

namespace ProviderSelectionChangedEventPayload

def dump (payload : ProviderSelectionChangedEventPayload) : List (String × PyValue) :=
  [("previous_provider_id", .ofText (payload.previousProviderId.map (·.text))),
    ("new_provider_id", .ofText (payload.newProviderId.map (·.text))),
    ("previous_selection_mode", .str payload.previousSelectionMode.value),
    ("new_selection_mode", .str payload.newSelectionMode.value)]

/-- `validate_selection_change`. -/
def create (previous new : Option ProviderId) (previousMode newMode : ProviderSelectionMode) :
    Except PyException ProviderSelectionChangedEventPayload :=
  if changed : previous ≠ new then
    if previous_mode : previousMode = .ofProviderId previous then
      if new_mode : newMode = .ofProviderId new then
        .ok ⟨previous, new, previousMode, newMode, changed, previous_mode, new_mode⟩
      else .error (validationError "new selection mode is invalid")
    else .error (validationError "previous selection mode is invalid")
  else .error (validationError "provider selection must change")

theorem create_self (payload : ProviderSelectionChangedEventPayload) :
    create payload.previousProviderId payload.newProviderId payload.previousSelectionMode
      payload.newSelectionMode = .ok payload := by
  simp only [create, dif_pos payload.changed, dif_pos payload.previous_mode,
    dif_pos payload.new_mode]

def validate (fields : List (String × PyValue)) :
    Except PyException ProviderSelectionChangedEventPayload := do
  let previous ← requiredField fields "previous_provider_id" >>= optionalField ProviderId.parse
  let new ← requiredField fields "new_provider_id" >>= optionalField ProviderId.parse
  let previousMode ← requiredField fields "previous_selection_mode" >>= ProviderSelectionMode.parse
  let newMode ← requiredField fields "new_selection_mode" >>= ProviderSelectionMode.parse
  create previous new previousMode newMode

theorem validate_dump (payload : ProviderSelectionChangedEventPayload) :
    validate payload.dump = .ok payload := by
  simp [validate, dump, requiredField, List.lookup_cons, bind, Except.bind,
    ProviderId.optionalField_ofText, create_self]

end ProviderSelectionChangedEventPayload

inductive ProviderHistoryEventType where
  | providerSelectionChanged
  | providerResolved
  | providerResolutionFailed
deriving DecidableEq, Repr

namespace ProviderHistoryEventType

def value : ProviderHistoryEventType → String
  | .providerSelectionChanged => "provider_selection_changed"
  | .providerResolved => "provider_resolved"
  | .providerResolutionFailed => "provider_resolution_failed"

/-- `ProviderHistoryEventType(text)`, or `none` for its `ValueError`. -/
def ofText (text : String) : Option ProviderHistoryEventType :=
  [.providerSelectionChanged, .providerResolved, .providerResolutionFailed].find? (value · = text)

@[simp] theorem ofText_value (eventType : ProviderHistoryEventType) :
    ofText eventType.value = some eventType := by
  cases eventType <;> rfl

end ProviderHistoryEventType

inductive ProviderHistoryPayload where
  | selectionChanged (payload : ProviderSelectionChangedEventPayload)
  | resolved (payload : ProviderResolvedEventPayload)
  | resolutionFailed (payload : ProviderResolutionFailedEventPayload)
deriving DecidableEq

namespace ProviderHistoryPayload

/-- The event type whose model this is. -/
def eventType : ProviderHistoryPayload → ProviderHistoryEventType
  | .selectionChanged _ => .providerSelectionChanged
  | .resolved _ => .providerResolved
  | .resolutionFailed _ => .providerResolutionFailed

/-- `model_dump(mode="json")`. -/
def dump : ProviderHistoryPayload → List (String × PyValue)
  | .selectionChanged payload => payload.dump
  | .resolved payload => payload.dump
  | .resolutionFailed payload => payload.dump

/-- `model_validate` of the model that belongs to the event type. -/
def validate (eventType : ProviderHistoryEventType) (metadata : List (String × PyValue)) :
    Except PyException ProviderHistoryPayload :=
  match eventType with
  | .providerSelectionChanged =>
    (ProviderSelectionChangedEventPayload.validate metadata).map .selectionChanged
  | .providerResolved => (ProviderResolvedEventPayload.validate metadata).map .resolved
  | .providerResolutionFailed =>
    (ProviderResolutionFailedEventPayload.validate metadata).map .resolutionFailed

@[simp] theorem validate_dump (payload : ProviderHistoryPayload) :
    validate payload.eventType payload.dump = .ok payload := by
  cases payload with
  | selectionChanged payload =>
      simp only [validate, eventType, dump, ProviderSelectionChangedEventPayload.validate_dump]
      rfl
  | resolved payload =>
      simp only [validate, eventType, dump, ProviderResolvedEventPayload.validate_dump]
      rfl
  | resolutionFailed payload =>
      simp only [validate, eventType, dump, ProviderResolutionFailedEventPayload.validate_dump]
      rfl

theorem eventType_of_validate {eventType : ProviderHistoryEventType}
    {metadata : List (String × PyValue)} {payload : ProviderHistoryPayload}
    (h : validate eventType metadata = .ok payload) : payload.eventType = eventType := by
  cases eventType with
  | providerSelectionChanged =>
      obtain ⟨_, -, rfl⟩ := exists_of_map_ok h
      rfl
  | providerResolved =>
      obtain ⟨_, -, rfl⟩ := exists_of_map_ok h
      rfl
  | providerResolutionFailed =>
      obtain ⟨_, -, rfl⟩ := exists_of_map_ok h
      rfl

/-- A dump is read back, so payloads of one type with equal dumps are equal. -/
theorem dump_injective {left right : ProviderHistoryPayload}
    (types : left.eventType = right.eventType) (dumps : left.dump = right.dump) : left = right := by
  have read := validate_dump left
  rw [types, dumps, validate_dump right] at read
  exact (Except.ok.inj read).symm

end ProviderHistoryPayload
end PurchaseAgent
