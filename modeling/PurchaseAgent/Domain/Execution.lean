import PurchaseAgent.Domain.Values

/-!
Canonical mission events and the validation of a whole event sequence.
-/

namespace PurchaseAgent

structure ExecutionEvent where
  eventId : UUID
  correlationId : UUID
  causationId : Option UUID
  sequence : Nat
  timestamp : Time
  type : String
  message : String
  metadata : List (String × PyValue)
  sequence_pos : 1 ≤ sequence
deriving DecidableEq, Repr

namespace ExecutionEvent

theorem first_pos : 1 ≤ 1 := Nat.le_refl 1

theorem second_pos : 1 ≤ 2 := Nat.le_succ 1

/-- `event.metadata.get(name)`. -/
def get (event : ExecutionEvent) (name : String) : Option PyValue :=
  event.metadata.lookup name

end ExecutionEvent

/-- The two classes of errors `validate_event_sequence` raises. -/
inductive MissionEventError where
  | invalidSequence (message : String)
  | invalidEventId (message : String)
deriving DecidableEq, Repr

/-- The loop of `validate_event_sequence`: `previousSequence`, `eventIds` and
`position` are its variables, the result is the final `previous_sequence`. -/
def validateEvents (previousSequence : Nat) (eventIds : List UUID) (position : Nat) :
    List ExecutionEvent → Except MissionEventError Nat
  | [] => .ok previousSequence
  | event :: rest =>
    if event.sequence ≤ previousSequence then
      .error (.invalidSequence
        s!"Mission event sequences must be strictly increasing at position {position}")
    else if event.eventId = .nil then
      .error (.invalidEventId "Mission event ID must not be nil")
    else if event.eventId ∈ eventIds then
      .error (.invalidEventId s!"Mission event IDs must be unique at position {position}")
    else if event.correlationId = .nil then
      .error (.invalidEventId "Mission correlation ID must not be nil")
    else if event.causationId = some .nil ∨ event.causationId = some event.eventId then
      .error (.invalidEventId "Mission event causation ID is invalid")
    else
      validateEvents event.sequence (event.eventId :: eventIds) (position + 1) rest

def validateEventSequence (events : List ExecutionEvent) (lastEventSequence : Nat) :
    Except MissionEventError Unit :=
  match validateEvents 0 [] 1 events with
  | .error error => .error error
  | .ok previousSequence =>
    if lastEventSequence = previousSequence then .ok ()
    else .error (.invalidSequence "last_event_sequence must match the final event sequence")

/-- The checks on one event that do not look at the others. -/
structure ExecutionEvent.Sound (event : ExecutionEvent) : Prop where
  eventId : event.eventId ≠ .nil
  correlationId : event.correlationId ≠ .nil
  causationId : ¬ (event.causationId = some .nil ∨ event.causationId = some event.eventId)

/-- The events the loop accepts from a given state. -/
structure ValidEvents (previousSequence : Nat) (eventIds : List UUID)
    (events : List ExecutionEvent) : Prop where
  above : ∀ event ∈ events, previousSequence < event.sequence
  increasing : events.Pairwise (·.sequence < ·.sequence)
  fresh : ∀ event ∈ events, event.eventId ∉ eventIds
  unique : (events.map (·.eventId)).Nodup
  sound : ∀ event ∈ events, event.Sound

/-- The sequence of the final event. -/
def lastSequence (previousSequence : Nat) (events : List ExecutionEvent) : Nat :=
  (events.getLast?.map (·.sequence)).getD previousSequence

theorem lastSequence_cons (previousSequence : Nat) (event : ExecutionEvent)
    (rest : List ExecutionEvent) :
    lastSequence previousSequence (event :: rest) = lastSequence event.sequence rest := by
  cases rest with
  | nil => rfl
  | cons next rest => simp [lastSequence, List.getLast?_cons]

theorem ValidEvents.nil (previousSequence : Nat) (eventIds : List UUID) :
    ValidEvents previousSequence eventIds [] := by
  constructor <;> simp

theorem validEvents_cons {previousSequence : Nat} {eventIds : List UUID} {event : ExecutionEvent}
    {rest : List ExecutionEvent} :
    ValidEvents previousSequence eventIds (event :: rest) ↔
      previousSequence < event.sequence ∧ event.eventId ∉ eventIds ∧ event.Sound ∧
        ValidEvents event.sequence (event.eventId :: eventIds) rest := by
  constructor
  · rintro ⟨above, increasing, fresh, unique, sound⟩
    simp only [List.map_cons, List.nodup_cons, List.mem_map, List.pairwise_cons,
      List.forall_mem_cons] at above increasing fresh unique sound
    refine ⟨above.1, fresh.1, sound.1, increasing.1, increasing.2, ?_, unique.2, sound.2⟩
    intro other member listed
    rcases List.mem_cons.mp listed with same | early
    · exact unique.1 ⟨other, member, same⟩
    · exact fresh.2 other member early
  · rintro ⟨first, new, well, above, increasing, fresh, unique, sound⟩
    refine ⟨?_, List.pairwise_cons.mpr ⟨above, increasing⟩, ?_, ?_, ?_⟩
    · exact List.forall_mem_cons.mpr ⟨first, fun other member => first.trans (above other member)⟩
    · exact List.forall_mem_cons.mpr
        ⟨new, fun other member listed => fresh other member (List.mem_cons_of_mem _ listed)⟩
    · refine List.nodup_cons.mpr ⟨?_, unique⟩
      rintro listed
      obtain ⟨other, member, same⟩ := List.mem_map.mp listed
      exact fresh other member (same ▸ List.mem_cons_self)
    · exact List.forall_mem_cons.mpr ⟨well, sound⟩

theorem validateEvents_ok_iff {previousSequence position last : Nat} {eventIds : List UUID}
    {events : List ExecutionEvent} :
    validateEvents previousSequence eventIds position events = .ok last ↔
      ValidEvents previousSequence eventIds events ∧ last = lastSequence previousSequence events := by
  induction events generalizing previousSequence position eventIds with
  | nil =>
      simp only [validateEvents, Except.ok.injEq]
      exact ⟨fun same => ⟨.nil _ _, same.symm⟩, fun both => both.2.symm⟩
  | cons event rest ih =>
      rw [validEvents_cons, lastSequence_cons]
      simp only [validateEvents]
      split
      · rename_i late
        exact ⟨(fun h => by cases h), fun h => absurd h.1.1 (Nat.not_lt.mpr late)⟩
      rename_i later
      split
      · rename_i isNil
        exact ⟨(fun h => by cases h), fun h => absurd isNil h.1.2.2.1.eventId⟩
      rename_i eventId
      split
      · rename_i known
        exact ⟨(fun h => by cases h), fun h => absurd known h.1.2.1⟩
      rename_i new
      split
      · rename_i isNil
        exact ⟨(fun h => by cases h), fun h => absurd isNil h.1.2.2.1.correlationId⟩
      rename_i correlationId
      split
      · rename_i wrong
        exact ⟨(fun h => by cases h), fun h => absurd wrong h.1.2.2.1.causationId⟩
      rename_i causationId
      rw [ih]
      constructor
      · rintro ⟨valid, final⟩
        exact ⟨⟨Nat.lt_of_not_le later, new, ⟨eventId, correlationId, causationId⟩, valid⟩, final⟩
      · rintro ⟨⟨-, -, -, valid⟩, final⟩
        exact ⟨valid, final⟩

theorem validateEventSequence_ok_iff {events : List ExecutionEvent} {last : Nat} :
    validateEventSequence events last = .ok () ↔
      ValidEvents 0 [] events ∧ last = lastSequence 0 events := by
  unfold validateEventSequence
  cases validated : validateEvents 0 [] 1 events with
  | error error =>
      simp only [reduceCtorEq, false_iff]
      rintro ⟨valid, -⟩
      rw [validateEvents_ok_iff.mpr ⟨valid, rfl⟩] at validated
      cases validated
  | ok previousSequence =>
      obtain ⟨valid, rfl⟩ := validateEvents_ok_iff.mp validated
      simp only [valid, true_and]
      split <;> simp_all

/-- No event lies behind the final one. -/
theorem sequence_le_last {log : List ExecutionEvent} {event : ExecutionEvent}
    (increasing : log.Pairwise (·.sequence < ·.sequence)) (member : event ∈ log) :
    event.sequence ≤ lastSequence 0 log := by
  obtain ⟨front, final, rfl⟩ : ∃ front final, log = front ++ [final] :=
    ⟨log.dropLast, log.getLast (List.ne_nil_of_mem member),
      (List.dropLast_append_getLast (List.ne_nil_of_mem member)).symm⟩
  simp only [lastSequence, List.getLast?_append, List.getLast?_singleton, Option.map_some,
    Option.getD_some, Option.some_or]
  rcases List.mem_append.mp member with early | last
  · exact ((List.pairwise_append.mp increasing).2.2 event early final List.mem_cons_self).le
  · exact (List.mem_singleton.mp last ▸ le_rfl)

/-- A sound event of the next sequence with a new id goes on the log. -/
theorem ValidEvents.append {log : List ExecutionEvent} {event : ExecutionEvent}
    (valid : ValidEvents 0 [] log) (next : event.sequence = lastSequence 0 log + 1)
    (fresh : ∀ earlier ∈ log, earlier.eventId ≠ event.eventId) (sound : event.Sound) :
    ValidEvents 0 [] (log ++ [event]) := by
  have behind : ∀ earlier ∈ log, earlier.sequence < event.sequence := fun earlier member => by
    have upper := sequence_le_last valid.increasing member
    omega
  refine ⟨?_, ?_, by simp, ?_, ?_⟩
  · exact fun event' _ => event'.sequence_pos
  · refine List.pairwise_append.mpr ⟨valid.increasing, List.pairwise_singleton _ _, ?_⟩
    intro earlier member last single
    rw [List.mem_singleton.mp single]
    exact behind earlier member
  · rw [List.map_append, List.nodup_append]
    refine ⟨valid.unique, by simp, ?_⟩
    intro id listed other single same
    obtain ⟨earlier, member, rfl⟩ := List.mem_map.mp listed
    exact fresh earlier member (same.trans (List.mem_singleton.mp single))
  · exact List.forall_mem_append.mpr
      ⟨valid.sound, fun last single => List.mem_singleton.mp single ▸ sound⟩

theorem lastSequence_append (log : List ExecutionEvent) (event : ExecutionEvent) :
    lastSequence 0 (log ++ [event]) = event.sequence := by
  simp [lastSequence]

end PurchaseAgent
