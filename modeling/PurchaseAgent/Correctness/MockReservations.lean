import PurchaseAgent.Adapters.MockTrain
import PurchaseAgent.Collections.DictKeys
import PurchaseAgent.Correctness.EventFields
import PurchaseAgent.Correctness.KeyedCalls

/-!
The mission services against the built-in train provider. Its state is what the
answers of the run so far make of it, and its answers are those of the keys.
Since every mission has keys of its own, a mission has one reservation, one
confirmation and one cancellation there, however often they are asked for.
-/

namespace PurchaseAgent

open Cooperative InMemoryMissionRepository Collections

namespace MockTrainAdapter

/-- The adapter after a call. -/
def react (adapter : MockTrainAdapter) : ProviderCall → MockTrainAdapter
  | .searchOptions .. => { adapter with optionsDrawn := adapter.optionsDrawn + trains.length }
  | .reserveOption _ _ key => (adapter.reserveOption key).2
  | .confirmReservation _ reservationId key => (adapter.confirmReservation reservationId key).2
  | .cancelReservation _ reservationId key => (adapter.cancelReservation reservationId key).2

/-- The answer is the one the adapter gives in this state. -/
def Gives (adapter : MockTrainAdapter) :
    (call : ProviderCall) → Except PyException call.Answer → Prop
  | .searchOptions .., _ => True
  | .reserveOption _ _ key, answer => answer = .ok (adapter.reserveOption key).1
  | .confirmReservation _ reservationId key, answer =>
      answer = .ok (adapter.confirmReservation reservationId key).1
  | .cancelReservation _ reservationId key, answer =>
      answer = .ok (adapter.cancelReservation reservationId key).1

theorem handle_state (newOptionId : Nat → UUID) (call : ProviderCall) (mission : Mission)
    (adapter : MockTrainAdapter) :
    (handle newOptionId call mission adapter).2 = adapter.react call := by
  cases call <;> rfl

theorem gives_handle (newOptionId : Nat → UUID) (call : ProviderCall) (mission : Mission)
    (adapter : MockTrainAdapter) :
    adapter.Gives call (handle newOptionId call mission adapter).1 := by
  cases call with
  | searchOptions => trivial
  | _ => exact rfl

/-- The adapter after an entry of the trace; only its own answers matter. -/
def hear (adapter : MockTrainAdapter) (entry : TaskId × Event) : MockTrainAdapter :=
  match entry.2 with
  | .answered _ call _ => if call.providerId = providerName then adapter.react call else adapter
  | .claimed .. | .called .. => adapter

def ofTrace (trace : List (TaskId × Event)) : MockTrainAdapter := trace.foldl hear {}

theorem ofTrace_append (trace events : List (TaskId × Event)) :
    ofTrace (trace ++ events) = events.foldl hear (ofTrace trace) :=
  List.foldl_append

/-! What is remembered is never replaced. -/

/-- Every dictionary keeps what it has. -/
structure Remembers (before after : MockTrainAdapter) : Prop where
  reservations : ∀ key result, before.reservationsByKey.get? key = some result →
    after.reservationsByKey.get? key = some result
  confirmations : ∀ key result, before.confirmationsByKey.get? key = some result →
    after.confirmationsByKey.get? key = some result
  cancellations : ∀ key result, before.cancellationsByKey.get? key = some result →
    after.cancellationsByKey.get? key = some result

theorem Remembers.refl (adapter : MockTrainAdapter) : Remembers adapter adapter :=
  ⟨fun _ _ => id, fun _ _ => id, fun _ _ => id⟩

theorem Remembers.trans {a b c : MockTrainAdapter} (h : Remembers a b) (k : Remembers b c) :
    Remembers a c where
  reservations key result found := k.reservations key result (h.reservations key result found)
  confirmations key result found := k.confirmations key result (h.confirmations key result found)
  cancellations key result found := k.cancellations key result (h.cancellations key result found)

/-- Setting a new key keeps the others. -/
theorem reserveOption_cases (adapter : MockTrainAdapter) (key : String) :
    (∃ existing, adapter.reservationsByKey.get? key = some existing ∧
      adapter.reserveOption key = (existing, adapter)) ∨
    (adapter.reservationsByKey.get? key = none ∧ ∃ result,
      result.reservationId = some (reservationIdFor key) ∧
      adapter.reserveOption key =
        (result, { adapter with reservationsByKey := adapter.reservationsByKey.set key result })) := by
  cases found : adapter.reservationsByKey.get? key with
  | some existing => exact .inl ⟨existing, rfl, by simp only [reserveOption, found]⟩
  | none =>
      refine .inr ⟨rfl, (adapter.reserveOption key).1, ?_, ?_⟩
      · simp only [reserveOption, found]
        rfl
      · simp only [reserveOption, found]

theorem confirmReservation_cases (adapter : MockTrainAdapter) (reservationId key : String) :
    (∃ existing, adapter.confirmationsByKey.get? key = some existing ∧
      adapter.confirmReservation reservationId key = (existing, adapter)) ∨
    (adapter.confirmationsByKey.get? key = none ∧ ∃ result,
      (result.success = true ↔ some reservationId ∈ adapter.reservedIds ∧
        reservationId ∉ adapter.cancelledReservationIds) ∧
      adapter.confirmReservation reservationId key = (result,
        { adapter with confirmationsByKey := adapter.confirmationsByKey.set key result })) := by
  cases found : adapter.confirmationsByKey.get? key with
  | some existing => exact .inl ⟨existing, rfl, by simp only [confirmReservation, found]⟩
  | none =>
      refine .inr ⟨rfl, (adapter.confirmReservation reservationId key).1, ?_, ?_⟩
      · simp only [confirmReservation, found, decide_eq_true_eq]
      · simp only [confirmReservation, found]

theorem cancelReservation_cases (adapter : MockTrainAdapter) (reservationId key : String) :
    (∃ existing, adapter.cancellationsByKey.get? key = some existing ∧
      adapter.cancelReservation reservationId key = (existing, adapter)) ∨
    (adapter.cancellationsByKey.get? key = none ∧ ∃ result,
      (result.success = true ↔ some reservationId ∈ adapter.reservedIds) ∧
      adapter.cancelReservation reservationId key = (result,
        { adapter with
          cancelledReservationIds :=
            if result.success then adapter.cancelledReservationIds.insert reservationId
            else adapter.cancelledReservationIds
          cancellationsByKey := adapter.cancellationsByKey.set key result })) := by
  cases found : adapter.cancellationsByKey.get? key with
  | some existing => exact .inl ⟨existing, rfl, by simp only [cancelReservation, found]⟩
  | none =>
      refine .inr ⟨rfl, (adapter.cancelReservation reservationId key).1, ?_, ?_⟩
      · simp only [cancelReservation, found, decide_eq_true_eq]
      · simp only [cancelReservation, found]

theorem remembers_react (adapter : MockTrainAdapter) (call : ProviderCall) :
    Remembers adapter (adapter.react call) := by
  cases call with
  | searchOptions => exact ⟨fun _ _ => id, fun _ _ => id, fun _ _ => id⟩
  | reserveOption _ _ key =>
      rcases adapter.reserveOption_cases key with ⟨_, _, eq⟩ | ⟨absent, _, _, eq⟩
      · simp only [react, eq, Remembers.refl]
      · simp only [react, eq]
        exact ⟨fun _ _ => Dict.get?_set_of_absent absent, fun _ _ => id, fun _ _ => id⟩
  | confirmReservation _ reservationId key =>
      rcases adapter.confirmReservation_cases reservationId key with ⟨_, _, eq⟩ | ⟨absent, _, _, eq⟩
      · simp only [react, eq, Remembers.refl]
      · simp only [react, eq]
        exact ⟨fun _ _ => id, fun _ _ => Dict.get?_set_of_absent absent, fun _ _ => id⟩
  | cancelReservation _ reservationId key =>
      rcases adapter.cancelReservation_cases reservationId key with ⟨_, _, eq⟩ | ⟨absent, _, _, eq⟩
      · simp only [react, eq, Remembers.refl]
      · simp only [react, eq]
        exact ⟨fun _ _ => id, fun _ _ => id, fun _ _ => Dict.get?_set_of_absent absent⟩

theorem remembers_hear (adapter : MockTrainAdapter) (entry : TaskId × Event) :
    Remembers adapter (adapter.hear entry) := by
  unfold hear
  split
  · split
    · exact remembers_react adapter _
    · exact .refl adapter
  · exact .refl adapter
  · exact .refl adapter

theorem remembers_foldl (events : List (TaskId × Event)) (adapter : MockTrainAdapter) :
    Remembers adapter (events.foldl hear adapter) := by
  induction events generalizing adapter with
  | nil => exact .refl adapter
  | cons entry rest ih => exact (remembers_hear adapter entry).trans (ih _)

/-- After an answer of the adapter, the dictionaries have it. -/
theorem react_reserveOption (adapter : MockTrainAdapter) (providerId : String)
    (option : ProviderOption) (key : String) :
    (adapter.react (.reserveOption providerId option key)).reservationsByKey.get? key =
      some (adapter.reserveOption key).1 := by
  rcases adapter.reserveOption_cases key with ⟨existing, found, eq⟩ | ⟨_, result, _, eq⟩
  · simp only [react, eq, found]
  · simp only [react, eq, Dict.get?_set_self]

theorem react_confirmReservation (adapter : MockTrainAdapter)
    (providerId reservationId key : String) :
    (adapter.react (.confirmReservation providerId reservationId key)).confirmationsByKey.get? key =
      some (adapter.confirmReservation reservationId key).1 := by
  rcases adapter.confirmReservation_cases reservationId key with ⟨_, found, eq⟩ | ⟨_, _, _, eq⟩
  · simp only [react, eq, found]
  · simp only [react, eq, Dict.get?_set_self]

theorem react_cancelReservation (adapter : MockTrainAdapter)
    (providerId reservationId key : String) :
    (adapter.react (.cancelReservation providerId reservationId key)).cancellationsByKey.get? key =
      some (adapter.cancelReservation reservationId key).1 := by
  rcases adapter.cancelReservation_cases reservationId key with ⟨_, found, eq⟩ | ⟨_, _, _, eq⟩
  · simp only [react, eq, found]
  · simp only [react, eq, Dict.get?_set_self]

/-! What the dictionaries have, in terms of the trace. -/

/-- The mission has asked the adapter to confirm a reservation. -/
def AsksToConfirm (id : UUID) (entry : TaskId × Event) : Prop :=
  ∃ t reservationId key answer,
    entry = (t, .answered id (.confirmReservation providerName reservationId key) answer)

/-- The mission has asked the adapter to cancel a reservation. -/
def AsksToCancel (id : UUID) (entry : TaskId × Event) : Prop :=
  ∃ t reservationId key answer,
    entry = (t, .answered id (.cancelReservation providerName reservationId key) answer)

/-- The adapter has answered a reservation with this id. -/
def Reserved (trace : List (TaskId × Event)) (reservationId : String) : Prop :=
  ∃ t id option key result,
    (t, Event.answered id (.reserveOption providerName option key) (.ok result)) ∈ trace ∧
      result.reservationId = some reservationId

/-- The adapter has carried out a cancellation of this reservation, at the first
request of its mission. -/
def Cancelled (trace : List (TaskId × Event)) (reservationId : String) : Prop :=
  ∃ before t id key result after,
    trace = before ++
      (t, Event.answered id (.cancelReservation providerName reservationId key) (.ok result)) ::
        after ∧
    result.success = true ∧ ∀ entry ∈ before, ¬ AsksToCancel id entry

/-- The answers of the adapter are those of its state at the time. -/
def Served (trace : List (TaskId × Event)) : Prop :=
  ∀ before t id call answer after, trace = before ++ (t, Event.answered id call answer) :: after →
    call.providerId = providerName → (ofTrace before).Gives call answer

theorem Served.front {front back : List (TaskId × Event)} (h : Served (front ++ back)) :
    Served front := by
  intro before t id call answer after split own
  exact h before t id call answer (after ++ back) (by simp [split]) own

/-- The end of a trace that is one entry longer. -/
theorem split_snoc {α : Type} {front before after : List α} {last entry : α}
    (split : front ++ [last] = before ++ entry :: after) :
    (front = before ∧ last = entry) ∨ ∃ rest, front = before ++ entry :: rest := by
  cases List.eq_nil_or_concat after with
  | inl empty =>
      subst empty
      have := List.append_inj' split rfl
      exact .inl ⟨this.1, (List.cons.inj this.2).1⟩
  | inr nonempty =>
      obtain ⟨rest, final, rfl⟩ := nonempty
      refine .inr ⟨rest, ?_⟩
      have split : front ++ [last] = (before ++ entry :: rest) ++ [final] := by simpa using split
      exact (List.append_inj' split rfl).1

theorem cancelled_snoc (front : List (TaskId × Event)) (last : TaskId × Event)
    (reservationId : String) :
    Cancelled (front ++ [last]) reservationId ↔ Cancelled front reservationId ∨
      ∃ t id key result,
        last = (t, .answered id (.cancelReservation providerName reservationId key) (.ok result)) ∧
          result.success = true ∧ ∀ entry ∈ front, ¬ AsksToCancel id entry := by
  constructor
  · intro h
    obtain ⟨before, t, id, key, result, after, split, success, first⟩ := h
    rcases split_snoc split with ⟨rfl, rfl⟩ | ⟨rest, rfl⟩
    · exact .inr ⟨t, id, key, result, rfl, success, first⟩
    · exact .inl ⟨before, t, id, key, result, rest, rfl, success, first⟩
  · intro h
    rcases h with ⟨before, t, id, key, result, after, rfl, success, first⟩ |
      ⟨t, id, key, result, rfl, success, first⟩
    · exact ⟨before, t, id, key, result, after ++ [last], by simp, success, first⟩
    · exact ⟨front, t, id, key, result, [], rfl, success, first⟩

/-- The entries of the dictionaries come from answers of the trace. -/
structure Recorded (trace : List (TaskId × Event)) (adapter : MockTrainAdapter) : Prop where
  reservations : ∀ entry ∈ adapter.reservationsByKey,
    entry.2.reservationId = some (reservationIdFor entry.1) ∧
      ∃ t id option answer,
        (t, Event.answered id (.reserveOption providerName option entry.1) answer) ∈ trace
  confirmations : ∀ key, adapter.confirmationsByKey.get? key ≠ none → ∃ t id reservationId answer,
    (t, Event.answered id (.confirmReservation providerName reservationId key) answer) ∈ trace
  cancellations : ∀ key, adapter.cancellationsByKey.get? key ≠ none → ∃ t id reservationId answer,
    (t, Event.answered id (.cancelReservation providerName reservationId key) answer) ∈ trace

theorem Recorded.mono {trace longer : List (TaskId × Event)} {adapter : MockTrainAdapter}
    (h : Recorded trace adapter) (more : ∀ entry ∈ trace, entry ∈ longer) :
    Recorded longer adapter where
  reservations entry member := by
    obtain ⟨named, t, id, option, answer, answered⟩ := h.reservations entry member
    exact ⟨named, t, id, option, answer, more _ answered⟩
  confirmations key found := by
    obtain ⟨t, id, reservationId, answer, answered⟩ := h.confirmations key found
    exact ⟨t, id, reservationId, answer, more _ answered⟩
  cancellations key found := by
    obtain ⟨t, id, reservationId, answer, answered⟩ := h.cancellations key found
    exact ⟨t, id, reservationId, answer, more _ answered⟩

/-- A key found after a change of one key was found before, or is that key. -/
theorem recorded_react {trace : List (TaskId × Event)} {adapter : MockTrainAdapter} {t : TaskId}
    {id : UUID} {call : ProviderCall} {answer : Except PyException call.Answer}
    (h : Recorded trace adapter) (answered : (t, Event.answered id call answer) ∈ trace)
    (own : call.providerId = providerName) : Recorded trace (adapter.react call) := by
  cases call with
  | searchOptions => exact ⟨h.reservations, h.confirmations, h.cancellations⟩
  | reserveOption providerId option key =>
      obtain rfl : providerId = providerName := own
      rcases adapter.reserveOption_cases key with ⟨_, _, eq⟩ | ⟨_, result, named, eq⟩
      · simpa only [react, eq] using h
      · simp only [react, eq]
        refine ⟨fun entry member => ?_, h.confirmations, h.cancellations⟩
        rcases Dict.mem_set member with rfl | old
        · exact ⟨named, t, id, option, answer, answered⟩
        · exact h.reservations entry old
  | confirmReservation providerId reservationId key =>
      obtain rfl : providerId = providerName := own
      rcases adapter.confirmReservation_cases reservationId key with ⟨_, _, eq⟩ | ⟨_, _, _, eq⟩
      · simpa only [react, eq] using h
      · simp only [react, eq]
        refine ⟨h.reservations, fun other found => ?_, h.cancellations⟩
        rcases Dict.found_of_set found with rfl | old
        · exact ⟨t, id, reservationId, answer, answered⟩
        · exact h.confirmations other old
  | cancelReservation providerId reservationId key =>
      obtain rfl : providerId = providerName := own
      rcases adapter.cancelReservation_cases reservationId key with ⟨_, _, eq⟩ | ⟨_, _, _, eq⟩
      · simpa only [react, eq] using h
      · simp only [react, eq]
        refine ⟨h.reservations, h.confirmations, fun other found => ?_⟩
        rcases Dict.found_of_set found with rfl | old
        · exact ⟨t, id, reservationId, answer, answered⟩
        · exact h.cancellations other old

theorem recorded_ofTrace (trace : List (TaskId × Event)) : Recorded trace (ofTrace trace) := by
  induction trace using List.reverseRecOn with
  | nil =>
      refine ⟨fun _ none => absurd none List.not_mem_nil, fun _ none => ?_, fun _ none => ?_⟩ <;>
        exact absurd rfl none
  | append_singleton front last ih =>
      have before := ih.mono fun entry member => List.mem_append_left [last] member
      rw [ofTrace_append, List.foldl_cons, List.foldl_nil]
      obtain ⟨t, event⟩ := last
      cases event with
      | claimed => exact before
      | called => exact before
      | answered id call answer =>
          simp only [hear]
          split
          · exact recorded_react before (List.mem_append_right _ List.mem_cons_self) ‹_›
          · exact before

theorem reserveOption_named (trace : List (TaskId × Event)) (key : String) :
    ((ofTrace trace).reserveOption key).1.reservationId = some (reservationIdFor key) := by
  rcases (ofTrace trace).reserveOption_cases key with ⟨existing, found, eq⟩ | ⟨_, _, named, eq⟩
  · rw [eq]
    exact ((recorded_ofTrace trace).reservations _ (Dict.mem_of_get? found)).1
  · rw [eq]
    exact named

section Answers
variable {trace : List (TaskId × Event)} {t : TaskId} {id : UUID}

/-- Every reservation is answered with the id that the key stands for. -/
theorem answered_reserveOption (served : Served trace) {option : ProviderOption} {key : String}
    {answer : Except PyException ReservationResult}
    (answered : (t, Event.answered id (.reserveOption providerName option key) answer) ∈ trace) :
    ∃ result, answer = .ok result ∧ result.reservationId = some (reservationIdFor key) ∧
      (ofTrace trace).reservationsByKey.get? key = some result := by
  obtain ⟨before, after, rfl⟩ := List.append_of_mem answered
  refine ⟨_, served _ _ _ _ _ _ rfl rfl, reserveOption_named before key, ?_⟩
  rw [ofTrace_append]
  exact (remembers_foldl after _).reservations key _ (react_reserveOption _ providerName option key)

theorem answered_confirmReservation (served : Served trace) {reservationId key : String}
    {answer : Except PyException ConfirmationResult}
    (answered : (t, Event.answered id
      (.confirmReservation providerName reservationId key) answer) ∈ trace) :
    ∃ result, answer = .ok result ∧
      (ofTrace trace).confirmationsByKey.get? key = some result := by
  obtain ⟨before, after, rfl⟩ := List.append_of_mem answered
  refine ⟨_, served _ _ _ _ _ _ rfl rfl, ?_⟩
  rw [ofTrace_append]
  exact (remembers_foldl after _).confirmations key _ (react_confirmReservation _ providerName _ key)

theorem answered_cancelReservation (served : Served trace) {reservationId key : String}
    {answer : Except PyException CancellationResult}
    (answered : (t, Event.answered id
      (.cancelReservation providerName reservationId key) answer) ∈ trace) :
    ∃ result, answer = .ok result ∧
      (ofTrace trace).cancellationsByKey.get? key = some result := by
  obtain ⟨before, after, rfl⟩ := List.append_of_mem answered
  refine ⟨_, served _ _ _ _ _ _ rfl rfl, ?_⟩
  rw [ofTrace_append]
  exact (remembers_foldl after _).cancellations key _ (react_cancelReservation _ providerName _ key)

theorem mem_reservedIds (served : Served trace) (reservationId : String) :
    some reservationId ∈ (ofTrace trace).reservedIds ↔ Reserved trace reservationId := by
  constructor
  · intro member
    obtain ⟨entry, listed, same⟩ := List.mem_map.mp member
    obtain ⟨named, t, id, option, answer, answered⟩ :=
      (recorded_ofTrace trace).reservations entry listed
    obtain ⟨result, rfl, named', -⟩ := answered_reserveOption served answered
    exact ⟨t, id, option, entry.1, result, answered, by rw [named', ← same, named]⟩
  · intro reserved
    obtain ⟨t, id, option, key, result, answered, named⟩ := reserved
    obtain ⟨_, same, -, found⟩ := answered_reserveOption served answered
    obtain rfl := Except.ok.inj same
    exact List.mem_map.mpr ⟨(key, result), Dict.mem_of_get? found, named⟩

end Answers

/-! Keys stand for missions. -/

theorem named_injective {front : String} {id other : UUID}
    (same : front ++ id.str = front ++ other.str) : id = other := by
  have texts := congrArg String.toList same
  simp only [String.toList_append] at texts
  have inner := List.append_cancel_left texts
  exact Function.LeftInverse.injective UUID.ofText_str (String.toList_inj.mp inner)

theorem key_injective {front back : String} {id other : UUID}
    (same : front ++ id.str ++ back = front ++ other.str ++ back) : id = other := by
  have texts := congrArg String.toList same
  simp only [String.toList_append] at texts
  apply @named_injective front
  apply String.toList_inj.mp
  simpa only [String.toList_append] using List.append_cancel_right texts

theorem cancellationKey_injective {key : String} {id other : UUID}
    (keyed : key = s!"mission:{id.str}:cancellation")
    (otherKeyed : key = s!"mission:{other.str}:cancellation") : id = other := by
  have same := keyed.symm.trans otherKeyed
  exact key_injective same

theorem confirmationKey_injective {key : String} {id other : UUID}
    (keyed : key = s!"mission:{id.str}:confirmation")
    (otherKeyed : key = s!"mission:{other.str}:confirmation") : id = other := by
  have same := keyed.symm.trans otherKeyed
  exact key_injective same

/-- No request of the mission, no entry for its key. -/
theorem confirmations_get?_eq_none {trace : List (TaskId × Event)} (keyed : KeyedTrace trace)
    {id : UUID} {key : String} (own : key = s!"mission:{id.str}:confirmation")
    (first : ∀ entry ∈ trace, ¬ AsksToConfirm id entry) :
    (ofTrace trace).confirmationsByKey.get? key = none := by
  by_contra found
  obtain ⟨t, id', reservationId', answer, answered⟩ :=
    (recorded_ofTrace trace).confirmations key found
  obtain rfl : id = id' := confirmationKey_injective own (keyed _ answered)
  exact first _ answered ⟨t, reservationId', key, answer, rfl⟩

theorem cancellations_get?_eq_none {trace : List (TaskId × Event)} (keyed : KeyedTrace trace)
    (served : Served trace) {id : UUID} {key : String}
    (own : key = s!"mission:{id.str}:cancellation") :
    (ofTrace trace).cancellationsByKey.get? key = none ↔
      ∀ entry ∈ trace, ¬ AsksToCancel id entry := by
  constructor
  · intro none entry member asks
    obtain ⟨t, reservationId', key', answer, rfl⟩ := asks
    have same : key' = key := (keyed _ member).trans own.symm
    subst same
    obtain ⟨result, -, found⟩ := answered_cancelReservation served member
    rw [none] at found
    cases found
  · intro first
    by_contra found
    obtain ⟨t, id', reservationId', answer, answered⟩ :=
      (recorded_ofTrace trace).cancellations key found
    obtain rfl : id = id' := cancellationKey_injective own (keyed _ answered)
    exact first _ answered ⟨t, reservationId', key, answer, rfl⟩

/-- Only a cancellation adds to the cancelled reservations. -/
theorem react_cancelledReservationIds (adapter : MockTrainAdapter) {call : ProviderCall}
    (other : ∀ providerId reservationId key,
      call ≠ .cancelReservation providerId reservationId key) :
    (adapter.react call).cancelledReservationIds = adapter.cancelledReservationIds := by
  cases call with
  | searchOptions => rfl
  | reserveOption _ _ key =>
      rcases adapter.reserveOption_cases key with ⟨_, _, eq⟩ | ⟨_, _, _, eq⟩ <;>
        simp only [react, eq]
  | confirmReservation _ reservationId key =>
      rcases adapter.confirmReservation_cases reservationId key with ⟨_, _, eq⟩ | ⟨_, _, _, eq⟩ <;>
        simp only [react, eq]
  | cancelReservation providerId reservationId key =>
      exact absurd rfl (other providerId reservationId key)

/-- A cancellation, at the first request of its mission or at a later one. -/
theorem cancelled_answered {front : List (TaskId × Event)} {t : TaskId} {id : UUID}
    {reservationId' key : String} {answer : Except PyException CancellationResult}
    (keyed : KeyedTrace (front ++
      [(t, .answered id (.cancelReservation providerName reservationId' key) answer)]))
    (served : Served (front ++
      [(t, .answered id (.cancelReservation providerName reservationId' key) answer)]))
    (reservationId : String) :
    reservationId ∈ ((ofTrace front).cancelReservation reservationId' key).2.cancelledReservationIds ↔
      reservationId ∈ (ofTrace front).cancelledReservationIds ∨
        (reservationId = reservationId' ∧
          (∃ result, answer = .ok result ∧ result.success = true) ∧
            ∀ entry ∈ front, ¬ AsksToCancel id entry) := by
  obtain given : answer = .ok ((ofTrace front).cancelReservation reservationId' key).1 :=
    served front t id (.cancelReservation providerName reservationId' key) answer [] rfl rfl
  have own := keyed _ (List.mem_append_right front List.mem_cons_self)
  have first := cancellations_get?_eq_none
    (fun entry member => keyed entry (List.mem_append_left _ member)) served.front own
  rcases (ofTrace front).cancelReservation_cases reservationId' key with
    ⟨existing, found, eq⟩ | ⟨absent, result, -, eq⟩
  · rw [eq]
    refine ⟨.inl, fun either => either.resolve_right fun later => ?_⟩
    rw [first.mpr later.2.2] at found
    cases found
  · rw [given, eq]
    cases success : result.success with
    | false => simp [success]
    | true =>
        have now : ∃ answered, (Except.ok result : Except PyException CancellationResult) =
            .ok answered ∧ answered.success = true := ⟨result, rfl, success⟩
        simp only [if_true, List.mem_insert_iff, iff_true_intro (first.mp absent),
          iff_true_intro now, and_true, or_comm]

theorem mem_cancelled {trace : List (TaskId × Event)} (keyed : KeyedTrace trace)
    (served : Served trace) (reservationId : String) :
    reservationId ∈ (ofTrace trace).cancelledReservationIds ↔ Cancelled trace reservationId := by
  induction trace using List.reverseRecOn with
  | nil =>
      refine ⟨fun none => absurd none List.not_mem_nil, fun cancelled => ?_⟩
      obtain ⟨before, _, _, _, _, after, split, -⟩ := cancelled
      cases before <;> cases split
  | append_singleton front last ih =>
      have ih := ih (fun entry member => keyed entry (List.mem_append_left _ member)) served.front
      rw [cancelled_snoc, ← ih, ofTrace_append, List.foldl_cons, List.foldl_nil]
      obtain ⟨t, event⟩ := last
      cases event with
      | claimed => simp [hear]
      | called => simp [hear]
      | answered id call answer =>
          cases call with
          | cancelReservation providerId reservationId' key =>
              by_cases own : providerId = providerName
              · subst own
                simp only [hear, ProviderCall.providerId, if_true, react]
                rw [cancelled_answered keyed served]
                refine or_congr_right ⟨fun now => ?_, fun now => ?_⟩
                · obtain ⟨rfl, ⟨result, rfl, success⟩, first⟩ := now
                  exact ⟨t, id, key, result, rfl, success, first⟩
                · obtain ⟨_, _, _, result, same, success, first⟩ := now
                  cases same
                  exact ⟨rfl, ⟨result, rfl, success⟩, first⟩
              · simp only [hear, ProviderCall.providerId, own, if_false]
                refine (or_iff_left fun now => ?_).symm
                obtain ⟨_, _, _, result, same, -⟩ := now
                cases same
                exact own rfl
          | _ =>
              rw [or_iff_left (by simp)]
              simp only [hear]
              split
              · rw [react_cancelledReservationIds _ (by simp)]
              · rfl

/-! The id of a reservation is the mission's. -/

theorem isSpace_digitChar : ∀ n < 16, isSpace (Nat.digitChar n) = false := by
  decide

theorem isSpace_of_mem_toDigits (n : Nat) :
    ∀ digit ∈ Nat.toDigits 16 n, isSpace digit = false := by
  induction n using Nat.strongRecOn with
  | ind n ih =>
      by_cases small : n < 16
      · rw [Nat.toDigits_of_lt_base small]
        simpa using isSpace_digitChar n small
      · rw [Nat.toDigits_of_base_le (by decide) (Nat.le_of_not_lt small)]
        intro digit member
        rcases List.mem_append.mp member with front | last
        · exact ih (n / 16) (Nat.div_lt_self (by omega) (by decide)) digit front
        · rw [List.mem_singleton.mp last]
          exact isSpace_digitChar _ (Nat.mod_lt _ (by decide))

theorem isSpace_of_mem_str (id : UUID) : ∀ c ∈ id.str.toList, isSpace c = false := by
  obtain ⟨n⟩ := id
  intro c member
  rw [UUID.str, String.toList_ofList] at member
  have padded : ∀ c ∈ List.replicate (32 - (Nat.toDigits 16 n).length) '0' ++ Nat.toDigits 16 n,
      isSpace c = false := by
    intro c inside
    rcases List.mem_append.mp inside with zero | digit
    · rw [List.eq_of_mem_replicate zero]
      decide
    · exact isSpace_of_mem_toDigits n c digit
  simp only [List.intercalate, List.intersperse, List.flatten_cons, List.flatten_nil,
    List.mem_append, List.mem_singleton, List.not_mem_nil, or_false] at member
  rcases member with inside | rfl | inside | rfl | inside | rfl | inside | rfl | inside <;>
    first
    | rfl
    | exact padded c (List.mem_of_mem_drop (List.mem_of_mem_take inside))
    | exact padded c (List.mem_of_mem_drop inside)

theorem strip_of_no_space {s : String} (h : ∀ c ∈ s.toList, isSpace c = false) : strip s = s := by
  have front : s.toList.dropWhile isSpace = s.toList := by
    cases shape : s.toList with
    | nil => rfl
    | cons first rest => exact List.dropWhile_cons_of_neg (by simp [h first (by simp [shape])])
  have back : s.toList.rdropWhile isSpace = s.toList :=
    List.rdropWhile_eq_self_iff.mpr fun nonempty => by simp [h _ (List.getLast_mem nonempty)]
  rw [strip, front, back, String.ofList_toList]

/-- `mock-reservation-{idempotency_key}`, for the key of a mission. -/
theorem reservationIdFor_mission (id : UUID) :
    reservationIdFor s!"mission:{id.str}" = s!"mock-reservation-mission:{id.str}" := by
  have text : "mock-reservation-" ++ s!"mission:{id.str}" =
      s!"mock-reservation-mission:{id.str}" := by
    apply String.toList_inj.mp
    simp only [toString, String.toList_append]
    rw [← List.append_assoc]
    rfl
  rw [reservationIdFor, text]
  refine strip_of_no_space fun c member => ?_
  have front : ("mock-reservation-mission:".toList.all fun c => isSpace c = false) = true := by
    decide
  simp only [toString, String.toList_append, List.mem_append] at member
  cases member with
  | inl inside => exact of_decide_eq_true (List.all_eq_true.mp front c inside)
  | inr inside => exact isSpace_of_mem_str id c inside

/-! Every run is served by the adapter. -/

section Run
variable {σ : Type} {others : Environment σ} {newOptionId : Nat → UUID}

/-- The adapter is what the trace makes of it. -/
structure Serves (trace : List (TaskId × Event)) (adapter : MockTrainAdapter) : Prop where
  state : adapter = ofTrace trace
  served : Served trace

theorem hear_of_claims {events : List (TaskId × Event)}
    (claims : ∀ event ∈ events, event.2.isClaim = true) (adapter : MockTrainAdapter) :
    events.foldl hear adapter = adapter := by
  induction events with
  | nil => rfl
  | cons entry rest ih =>
      obtain ⟨t, event⟩ := entry
      have first := claims _ List.mem_cons_self
      cases event with
      | claimed => exact ih fun event member => claims event (List.mem_cons_of_mem _ member)
      | _ => cases first

theorem served_append {trace events : List (TaskId × Event)} (h : Served trace)
    (quiet : ∀ t id call answer, (t, Event.answered id call answer) ∉ events) :
    Served (trace ++ events) := by
  intro before t id call answer after split own
  rcases List.append_eq_append_iff.mp split with ⟨middle, rfl, rest⟩ | ⟨middle, rfl, rest⟩
  · exact absurd (rest ▸ List.mem_append_right middle List.mem_cons_self) (quiet t id call answer)
  · cases middle with
    | nil =>
        have same : events = (t, .answered id call answer) :: after := by simpa using rest.symm
        exact absurd (same ▸ List.mem_cons_self) (quiet t id call answer)
    | cons first middle =>
        obtain ⟨rfl, -⟩ := List.cons.inj rest
        exact h before t id call answer middle rfl own

theorem served_snoc {trace : List (TaskId × Event)} (h : Served trace) {t : TaskId} {id : UUID}
    {call : ProviderCall} {answer : Except PyException call.Answer}
    (gives : call.providerId = providerName → (ofTrace trace).Gives call answer) :
    Served (trace ++ [(t, .answered id call answer)]) := by
  intro before t' id' call' answer' after split own
  rcases split_snoc split with ⟨rfl, same⟩ | ⟨rest, rfl⟩
  · cases same
    exact gives own
  · exact h before t' id' call' answer' rest rfl own

theorem Serves.unheard {w w' : MemoryWorld (MockTrainAdapter × σ)}
    (h : Serves w.trace w.outside.1) (same : Unheard w w') : Serves w'.trace w'.outside.1 := by
  obtain ⟨events, grown, claims⟩ := same.trace
  rw [grown, same.outside]
  refine ⟨?_, served_append h.served fun t id call answer member => ?_⟩
  · rw [ofTrace_append, hear_of_claims claims, h.state]
  · cases claims _ member

theorem Serves.called {w : MemoryWorld (MockTrainAdapter × σ)} (h : Serves w.trace w.outside.1)
    (t : TaskId) (id : UUID) (call : ProviderCall) :
    Serves (w.log t (.called id call)).trace (w.log t (.called id call)).outside.1 := by
  refine ⟨?_, served_append h.served (by simp)⟩
  simp only [World.log_trace, World.log_outside, ofTrace_append, List.foldl_cons, List.foldl_nil,
    hear, h.state]

theorem Serves.acted {w : MemoryWorld (MockTrainAdapter × σ)} (h : Serves w.trace w.outside.1)
    (t : TaskId) (r : Ref) (call : ProviderCall) :
    Serves (w.act (others.withMockTrain newOptionId) t r call).trace
      (w.act (others.withMockTrain newOptionId) t r call).outside.1 := by
  refine ⟨?_, served_snoc h.served fun own => ?_⟩
  · simp only [World.act, World.log_trace, World.log_outside, ofTrace_append, List.foldl_cons,
      List.foldl_nil, hear, Environment.withMockTrain]
    split
    · rw [handle_state, h.state]
    · exact h.state
  · simp only [Environment.withMockTrain, own, if_true, ← h.state]
    exact gives_handle newOptionId call _ _

theorem serves_run
    {c : CommandConfig (MockTrainAdapter × σ)} (h : Serves c.shared.trace c.shared.outside.1)
    (sched : List TaskId) :
    Serves (c.run (machine memory (others.withMockTrain newOptionId)) sched).shared.trace
      (c.run (machine memory (others.withMockTrain newOptionId)) sched).shared.outside.1 := by
  induction sched generalizing c with
  | nil => exact h
  | cons t rest ih =>
      refine ih ?_
      rcases c.step_shared (machine memory (others.withMockTrain newOptionId)) t with
        same | ⟨o, -, same⟩
      · rwa [same]
      · rw [same]
        rcases exec_cases (others.withMockTrain newOptionId) c.shared t o with
          ⟨r, call, rfl, called⟩ | ⟨r, call, rfl, acted⟩ | unheard
        · rw [called]
          exact h.called t _ call
        · rw [acted]
          exact h.acted t r call
        · exact h.unheard unheard

end Run

/-- Missions and the adapter have one answer for each other. -/
structure Agrees (trace : List (TaskId × Event)) : Prop where
  /-- Every reservation of a mission succeeds with one and the same id. -/
  reserved : ∀ t id option key answer,
    (t, Event.answered id (.reserveOption providerName option key) answer) ∈ trace →
      ∃ result, answer = .ok result ∧
        result.reservationId = some s!"mock-reservation-mission:{id.str}"
  /-- No two missions share a reservation. -/
  exclusive : ∀ t t' id id' option option' key key' result result',
    (t, Event.answered id (.reserveOption providerName option key) (.ok result)) ∈ trace →
    (t', Event.answered id' (.reserveOption providerName option' key') (.ok result')) ∈ trace →
      result.reservationId = result'.reservationId → id = id'
  /-- All confirmations of a mission are answered alike. -/
  confirmed : ∀ t t' id reservationId reservationId' key key' answer answer',
    (t, Event.answered id (.confirmReservation providerName reservationId key) answer) ∈ trace →
    (t', Event.answered id (.confirmReservation providerName reservationId' key') answer') ∈ trace →
      answer = answer'
  /-- So are all its cancellations. -/
  cancelled : ∀ t t' id reservationId reservationId' key key' answer answer',
    (t, Event.answered id (.cancelReservation providerName reservationId key) answer) ∈ trace →
    (t', Event.answered id (.cancelReservation providerName reservationId' key') answer') ∈ trace →
      answer = answer'

theorem answered_id {trace : List (TaskId × Event)} (served : Served trace)
    (keyed : KeyedTrace trace) {t : TaskId} {id : UUID} {option : ProviderOption} {key : String}
    {answer : Except PyException ReservationResult}
    (answered : (t, Event.answered id (.reserveOption providerName option key) answer) ∈ trace) :
    ∃ result, answer = .ok result ∧
      result.reservationId = some s!"mock-reservation-mission:{id.str}" := by
  obtain ⟨result, same, named, -⟩ := answered_reserveOption served answered
  obtain rfl : key = s!"mission:{id.str}" := keyed _ answered
  exact ⟨result, same, by rw [named, reservationIdFor_mission]⟩

theorem agrees_of_served {trace : List (TaskId × Event)} (served : Served trace)
    (keyed : KeyedTrace trace) : Agrees trace where
  reserved _ _ _ _ _ := answered_id served keyed
  exclusive t t' id id' option option' key key' result result' first second same := by
    obtain ⟨_, ok, named⟩ := answered_id served keyed first
    obtain rfl := Except.ok.inj ok
    obtain ⟨_, ok', named'⟩ := answered_id served keyed second
    obtain rfl := Except.ok.inj ok'
    rw [named, named', Option.some.injEq] at same
    exact named_injective same
  confirmed t t' id _ _ key key' _ _ first second := by
    obtain rfl : key = key' := (keyed _ first).trans (keyed _ second).symm
    obtain ⟨result, rfl, found⟩ := answered_confirmReservation served first
    obtain ⟨result', rfl, found'⟩ := answered_confirmReservation served second
    rw [Option.some.inj (found.symm.trans found')]
  cancelled t t' id _ _ key key' _ _ first second := by
    obtain rfl : key = key' := (keyed _ first).trans (keyed _ second).symm
    obtain ⟨result, rfl, found⟩ := answered_cancelReservation served first
    obtain ⟨result', rfl, found'⟩ := answered_cancelReservation served second
    rw [Option.some.inj (found.symm.trans found')]

/-- The first confirmation of a mission succeeds exactly if its reservation has been
made and not been cancelled. -/
def ConfirmsReserved (trace : List (TaskId × Event)) : Prop :=
  ∀ before t id reservationId key answer after,
    trace = before ++
      (t, Event.answered id (.confirmReservation providerName reservationId key) answer) :: after →
    (∀ entry ∈ before, ¬ AsksToConfirm id entry) →
      ∃ result, answer = .ok result ∧
        (result.success = true ↔ Reserved before reservationId ∧ ¬ Cancelled before reservationId)

theorem confirmsReserved_of_served {trace : List (TaskId × Event)} (served : Served trace)
    (keyed : KeyedTrace trace) : ConfirmsReserved trace := by
  intro before t id reservationId key answer after split first
  subst split
  have own := keyed _ (List.mem_append_right before List.mem_cons_self)
  have earlier : KeyedTrace before := fun entry member => keyed entry (List.mem_append_left _ member)
  refine ⟨_, served _ _ _ _ _ _ rfl rfl, ?_⟩
  have unasked := confirmations_get?_eq_none earlier own first
  rcases (ofTrace before).confirmReservation_cases reservationId key with
    ⟨existing, found, -⟩ | ⟨-, result, success, eq⟩
  · rw [unasked] at found
    cases found
  · rw [eq, success, mem_reservedIds served.front, mem_cancelled earlier served.front]

section System
variable {σ : Type}

/-- The trace of a run of the commands on a fresh process, with the adapter in it. -/
def runTrace (others : Environment σ) (newOptionId : Nat → UUID) (outside : σ)
    (registry : ProviderRegistry) (commands : TaskId → Command) (missions : List Mission)
    (blank : Mission) (sched : List TaskId) : List (TaskId × Event) :=
  ((startCommands registry commands (initialWorld missions blank ({}, outside))).run
    (machine memory (others.withMockTrain newOptionId)) sched).shared.trace

variable (others : Environment σ) (newOptionId : Nat → UUID) (outside : σ)
  (registry : ProviderRegistry) (commands : TaskId → Command) (missions : List Mission)
  (blank : Mission) (sched : List TaskId)

theorem served_runTrace :
    Served (runTrace others newOptionId outside registry commands missions blank sched) := by
  refine (serves_run (c := startCommands registry commands _) ⟨rfl, ?_⟩ sched).served
  intro before t id call answer after split
  cases before <;> cases split

theorem keyed_runTrace (distinct : (missions.map (·.id)).Nodup) :
    KeyedTrace (runTrace others newOptionId outside registry commands missions blank sched) := by
  refine keyedTrace_run (keyedRun_start (consistent_initialWorld missions blank _ distinct)
    registry commands) ?_ sched
  intro entry none
  cases none

/-- In every run of any commands, retries and workers, a mission has one reservation
at the built-in provider, which no other mission has, and its confirmations and
its cancellations there are each answered alike. -/
theorem runs_agree (distinct : (missions.map (·.id)).Nodup) :
    Agrees (runTrace others newOptionId outside registry commands missions blank sched) :=
  agrees_of_served (served_runTrace _ _ _ _ _ _ _ _) (keyed_runTrace _ _ _ _ _ _ _ _ distinct)

/-- Two missions, the first of them confirmed and cancelled at the same time. -/
theorem runs_agree_sample :
    Agrees (runTrace (.withProviders (Sample.accepting [])) (fun n => ⟨n + 1⟩) () Sample.registry
      (fun t => if t = 0 then .runMission ⟨7⟩ {} else if t = 1 then .runMission ⟨8⟩ {}
        else if t = 2 then .confirmMission ⟨7⟩ else .cancelMission ⟨7⟩)
      [Sample.mission, { Sample.mission with id := ⟨8⟩ }] Sample.mission
      (List.replicate 40 0 ++ List.replicate 40 1 ++ [2, 2, 3, 3, 2, 2, 3, 3])) :=
  runs_agree (.withProviders (Sample.accepting [])) (fun n => ⟨n + 1⟩) () Sample.registry
    (fun t => if t = 0 then .runMission ⟨7⟩ {} else if t = 1 then .runMission ⟨8⟩ {}
      else if t = 2 then .confirmMission ⟨7⟩ else .cancelMission ⟨7⟩)
    [Sample.mission, { Sample.mission with id := ⟨8⟩ }] Sample.mission
    (List.replicate 40 0 ++ List.replicate 40 1 ++ [2, 2, 3, 3, 2, 2, 3, 3]) (by decide)

/-- In every run, what the built-in provider confirms first for a mission is a
reservation that it has made and not cancelled, and it refuses nothing else. -/
theorem runs_confirm_reserved (distinct : (missions.map (·.id)).Nodup) :
    ConfirmsReserved
      (runTrace others newOptionId outside registry commands missions blank sched) :=
  confirmsReserved_of_served (served_runTrace _ _ _ _ _ _ _ _)
    (keyed_runTrace _ _ _ _ _ _ _ _ distinct)

theorem runs_confirm_reserved_sample :
    ConfirmsReserved
      (runTrace (.withProviders (Sample.accepting [])) (fun n => ⟨n + 1⟩) () Sample.registry
        (fun t => if t = 0 then .runMission ⟨7⟩ {}
          else if t = 1 then .confirmMission ⟨7⟩ else .cancelMission ⟨7⟩)
        [Sample.mission] Sample.mission (List.replicate 40 0 ++ [1, 1, 1, 2, 2, 2, 2, 1, 1, 2])) :=
  runs_confirm_reserved (.withProviders (Sample.accepting [])) (fun n => ⟨n + 1⟩) ()
    Sample.registry
    (fun t => if t = 0 then .runMission ⟨7⟩ {}
      else if t = 1 then .confirmMission ⟨7⟩ else .cancelMission ⟨7⟩)
    [Sample.mission] Sample.mission (List.replicate 40 0 ++ [1, 1, 1, 2, 2, 2, 2, 1, 1, 2])
    (by decide)

end System

end MockTrainAdapter

end PurchaseAgent
