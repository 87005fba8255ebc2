import Mathlib.Logic.Relation
import PurchaseAgent.Correctness.EventStore
import PurchaseAgent.Correctness.Initial
import PurchaseAgent.Services.ReservationCommands

/-!
Confirmation against cancellation. Both check the status before they call the provider,
and only the later save compares sequences. The calls exclude each other where commands of
the two kinds do not overlap: none calls while the other is about to, and none is let
through its check while the other has called and not yet saved.
-/

namespace PurchaseAgent

open Relation

/-- The provider has answered the command's call with success. -/
def SessionCommand.Succeeded (c : SessionCommand) : Prop :=
  ∃ providerId, c.stage.call = some (providerId, .result true)

/-- A call of the command for the reservation has succeeded. -/
def ReservationState.Called (s : ReservationState) (command : ReservationCommand)
    (reservationId : String) : Prop :=
  ∃ c ∈ s.commands, c.command = command ∧ c.Succeeded ∧
    c.snapshot.reservationId = some reservationId

structure ReservationState.Exclusive (s : ReservationState) : Prop where
  calls : ∀ reservationId, s.Called .confirm reservationId → ¬ s.Called .cancel reservationId
  completed : s.row.status = .completed →
    ∀ reservationId ∈ s.row.reservationId, ¬ s.Called .cancel reservationId
  cancelled : s.row.status = .cancelled →
    ∀ reservationId ∈ s.row.reservationId, ¬ s.Called .confirm reservationId

/-- Commands of the two kinds are kept apart: at a load none of the other kind is between
its call and its save, at a call none of the other kind is between its load and its call. -/
def ReservationState.Admits (s : ReservationState) : ReservationEvent → Prop
  | .loads command => ∀ other ∈ s.commands, other.command ≠ command →
      ∀ call, other.stage ≠ .answered (some call)
  | .calls command => ∀ other ∈ s.commands, other.command ≠ command → other.stage ≠ .loaded
  | .other => True

/-- A step that keeps the kinds apart. -/
def StepApart (registry : ProviderRegistry) (s s' : ReservationState) : Prop :=
  ∃ event, ReservationStep registry s event s' ∧ s.Admits event

/-! What a command makes of its snapshot. -/

theorem addEvents_ok {draw : Nat → UUID × Time} {drafts : List EventDraft}
    {mission after : Mission} (ok : addEvents draw mission drafts = .ok after) :
    after.status = mission.status ∧ after.reservationId = mission.reservationId ∧
      after.lastEventSequence = mission.lastEventSequence + drafts.length := by
  induction drafts generalizing mission with
  | nil =>
      cases ok
      exact ⟨rfl, rfl, rfl⟩
  | cons draft rest ih =>
      obtain ⟨recorded, record, ok⟩ := bind_eq_ok ok
      obtain ⟨-, rfl⟩ := Mission.recordEvent_ok record
      obtain ⟨status, reservationId, last⟩ := ih ok
      refine ⟨status, reservationId, ?_⟩
      have appended : (mission.append (mission.nextEvent (draw mission.lastEventSequence).1
          (draw mission.lastEventSequence).2 draft.eventType draft.message
          draft.metadata)).lastEventSequence = mission.lastEventSequence + 1 := rfl
      rw [last, appended, List.length_cons]
      omega

/-- The status is taken between the events, and the events are recorded. -/
structure Edited (mission after : Mission) (status : MissionStatus) : Prop where
  status : after.status = status
  reservationId : after.reservationId = mission.reservationId
  ahead : mission.lastEventSequence < after.lastEventSequence

theorem edited_of_ok {draw : Nat → UUID × Time} {before after : List EventDraft}
    {mission started changed ended : Mission} {status : MissionStatus}
    (starts : addEvents draw mission before = .ok started)
    (changes : MissionStateMachine.transition started status = .ok changed)
    (ends : addEvents draw changed after = .ok ended) (some : after ≠ []) :
    Edited mission ended status := by
  obtain ⟨-, firstId, firstLast⟩ := addEvents_ok starts
  obtain ⟨-, rfl⟩ := MissionStateMachine.transition_ok changes
  obtain ⟨lastStatus, lastId, lastLast⟩ := addEvents_ok ends
  refine ⟨lastStatus, lastId.trans firstId, ?_⟩
  have positive := List.length_pos_iff.2 some
  have same : ∀ claimedAt, (started.withStatus status claimedAt).lastEventSequence =
      started.lastEventSequence := fun _ => rfl
  rw [same] at lastLast
  omega

namespace ReservationCommand
variable {command : ReservationCommand}

theorem ended_ne_nil : command.ended ≠ [] := by
  cases command <;> exact List.cons_ne_nil _ _

/-- A command ends with its own status once the provider has agreed, and fails else. -/
theorem edit_ok {draw : Nat → UUID × Time} {call : Option (String × ReservationAnswer)}
    {mission after : Mission} (ok : command.edit draw call mission = .ok after) :
    ∃ status, Edited mission after status ∧
      (status = .failed ∨ status = command.target ∧
        (call = none ∨ ∃ providerId, call = some (providerId, .result true))) := by
  cases call with
  | none =>
      obtain ⟨changed, changes, ends⟩ := bind_eq_ok ok
      have starts : addEvents draw mission [] = .ok mission := rfl
      exact ⟨_, edited_of_ok starts changes ends ended_ne_nil, .inr ⟨rfl, .inl rfl⟩⟩
  | some call =>
      obtain ⟨providerId, answer⟩ := call
      cases answer with
      | result success =>
          cases success with
          | true =>
              obtain ⟨started, starts, ok⟩ := bind_eq_ok ok
              obtain ⟨changed, changes, ends⟩ := bind_eq_ok ok
              exact ⟨_, edited_of_ok starts changes ends ended_ne_nil, .inr ⟨rfl, .inr ⟨_, rfl⟩⟩⟩
          | false =>
              obtain ⟨started, starts, ok⟩ := bind_eq_ok ok
              obtain ⟨changed, changes, ends⟩ := bind_eq_ok ok
              exact ⟨_, edited_of_ok starts changes ends (List.cons_ne_nil _ _), .inl rfl⟩
      | operationFailed retryable =>
          obtain ⟨started, starts, ok⟩ := bind_eq_ok ok
          obtain ⟨changed, changes, ends⟩ := bind_eq_ok ok
          exact ⟨_, edited_of_ok starts changes ends (List.cons_ne_nil _ _), .inl rfl⟩

/-- None of the statuses that a command leaves is accepted. -/
theorem not_accepts {other : ReservationCommand} {status : MissionStatus}
    (left : status = .failed ∨ status = other.target) : command.accepts status = false := by
  cases left with
  | inl failed =>
      rw [failed]
      cases command <;> rfl
  | inr ended =>
      rw [ended]
      cases command <;> cases other <;> rfl

end ReservationCommand

/-! What holds of a mission and the commands on it. -/

/-- The command has gone on without a call. -/
def SessionCommand.Passed (c : SessionCommand) : Prop :=
  c.stage = .answered none ∨ (∃ mission, c.stage = .saved none mission) ∨ c.stage = .conflicted none

def SessionCommand.HasCalled (c : SessionCommand) : Prop :=
  ∃ call, c.stage.call = some call

/-- The command has come to its save. -/
def SessionCommand.Finished (c : SessionCommand) : Prop :=
  (∃ call mission, c.stage = .saved call mission) ∨ ∃ call, c.stage = .conflicted call

/-- One of the commands has saved the row. -/
def ReservationState.SavedFrom (s : ReservationState) (mission : Mission) : Prop :=
  ∃ c ∈ s.commands, c.stage = .saved c.stage.call s.row ∧
    ∃ status, Edited mission s.row status ∧
      (status = .failed ∨ status = c.command.target ∧ (c.Passed ∨ c.Succeeded))

structure ReservationInvariant (mission : Mission) (s : ReservationState) : Prop where
  snapshots : ∀ c ∈ s.commands, c.stage ≠ .refused → c.snapshot = mission
  passed : ∀ c ∈ s.commands, c.Passed → mission.reservationId = none
  oneKind : ∀ c ∈ s.commands, ∀ d ∈ s.commands, c.HasCalled → d.HasCalled ∨ d.stage = .loaded →
    c.command = d.command
  finished : ∀ c ∈ s.commands, c.Finished → s.SavedFrom mission
  row : s.row = mission ∨ s.SavedFrom mission

/-- A command that has called has yet to save, or has come to its save. -/
theorem SessionCommand.HasCalled.answered_or_finished {c : SessionCommand} (called : c.HasCalled) :
    (∃ call, c.stage = .answered (some call)) ∨ c.Finished := by
  obtain ⟨call, stage⟩ := called
  cases reached : c.stage with
  | refused =>
      rw [reached] at stage
      cases stage
  | loaded =>
      rw [reached] at stage
      cases stage
  | answered answer =>
      rw [reached] at stage
      exact .inl ⟨call, congrArg CommandStage.answered stage⟩
  | saved answer mission => exact .inr (.inl ⟨_, _, reached⟩)
  | conflicted answer => exact .inr (.inr ⟨_, reached⟩)

theorem SessionCommand.Succeeded.hasCalled {c : SessionCommand} (succeeded : c.Succeeded) :
    c.HasCalled := by
  obtain ⟨_, stage⟩ := succeeded
  exact ⟨_, stage⟩

/-- A command that is new has done nothing yet. -/
def SessionCommand.Fresh (c : SessionCommand) : Prop := c.stage = .refused ∨ c.stage = .loaded

namespace SessionCommand.Fresh
variable {c : SessionCommand}

theorem call_eq_none (fresh : c.Fresh) : c.stage.call = none := by
  cases fresh with
  | inl refused => rw [refused, CommandStage.call]
  | inr loaded => rw [loaded, CommandStage.call]

theorem not_hasCalled (fresh : c.Fresh) : ¬ c.HasCalled := by
  intro called
  obtain ⟨_, stage⟩ := called
  cases fresh.call_eq_none.symm.trans stage

theorem not_passed (fresh : c.Fresh) : ¬ c.Passed := by
  rintro (answered | ⟨_, saved⟩ | conflicted)
  · cases fresh with
    | inl refused => cases refused.symm.trans answered
    | inr loaded => cases loaded.symm.trans answered
  · cases fresh with
    | inl refused => cases refused.symm.trans saved
    | inr loaded => cases loaded.symm.trans saved
  · cases fresh with
    | inl refused => cases refused.symm.trans conflicted
    | inr loaded => cases loaded.symm.trans conflicted

theorem not_finished (fresh : c.Fresh) : ¬ c.Finished := by
  rintro (⟨_, _, saved⟩ | ⟨_, conflicted⟩)
  · cases fresh with
    | inl refused => cases refused.symm.trans saved
    | inr loaded => cases loaded.symm.trans saved
  · cases fresh with
    | inl refused => cases refused.symm.trans conflicted
    | inr loaded => cases loaded.symm.trans conflicted

end SessionCommand.Fresh

section
variable {mission row row' : Mission} {commands front back : List SessionCommand}
  {old new c : SessionCommand}

theorem mem_replaced (member : c ∈ front ++ new :: back) :
    c = new ∨ c ∈ front ++ old :: back := by
  cases List.mem_append.1 member with
  | inl early => exact .inr (List.mem_append_left _ early)
  | inr late =>
      cases List.mem_cons.1 late with
      | inl same => exact .inl same
      | inr later => exact .inr (List.mem_append_right _ (List.mem_cons_of_mem _ later))

theorem mem_replace (member : c ∈ front ++ old :: back) (other : c ≠ old) :
    c ∈ front ++ new :: back :=
  (mem_replaced member).resolve_left other

theorem mem_middle : old ∈ front ++ old :: back :=
  List.mem_append_right _ List.mem_cons_self

/-- A command that goes on keeps the invariant, if its call has no rival. -/
theorem ReservationInvariant.replace
    (invariant : ReservationInvariant mission ⟨row, front ++ old :: back⟩)
    (snapshot : new.stage ≠ .refused → new.snapshot = mission)
    (passed : new.Passed → mission.reservationId = none) (moved : new.stage ≠ .loaded)
    (kind : ∀ c ∈ front ++ old :: back, new.HasCalled → c.HasCalled ∨ c.stage = .loaded →
      new.command = c.command)
    (kept : (ReservationState.mk row (front ++ old :: back)).SavedFrom mission →
      (ReservationState.mk row' (front ++ new :: back)).SavedFrom mission)
    (finished : new.Finished → (ReservationState.mk row' (front ++ new :: back)).SavedFrom mission)
    (same : row' = row ∨ (ReservationState.mk row' (front ++ new :: back)).SavedFrom mission) :
    ReservationInvariant mission ⟨row', front ++ new :: back⟩ where
  snapshots := by
    intro c member through
    cases mem_replaced member with
    | inl same => exact same ▸ snapshot (same ▸ through)
    | inr known => exact invariant.snapshots c known through
  passed := by
    intro c member gone
    cases mem_replaced member with
    | inl same => exact passed (same ▸ gone)
    | inr known => exact invariant.passed c known gone
  oneKind := by
    intro c member d other first second
    cases mem_replaced member with
    | inl same =>
        rw [same] at first ⊢
        cases mem_replaced other with
        | inl equal => rw [equal]
        | inr known => exact kind d known first second
    | inr known =>
        cases mem_replaced other with
        | inl equal =>
            rw [equal] at second ⊢
            exact (kind c known (second.resolve_right moved) (.inl first)).symm
        | inr alsoKnown => exact invariant.oneKind c known d alsoKnown first second
  finished := by
    intro c member ended
    cases mem_replaced member with
    | inl same => exact finished (same ▸ ended)
    | inr known => exact kept (invariant.finished c known ended)
  row := by
    cases same with
    | inl unchanged =>
        cases invariant.row with
        | inl first => exact .inl (unchanged.trans first)
        | inr saved => exact .inr (kept saved)
    | inr saved => exact .inr saved

/-- The row that a command has saved is still saved once another has gone on. -/
theorem ReservationState.SavedFrom.replace
    (saved : (ReservationState.mk row (front ++ old :: back)).SavedFrom mission)
    (unsaved : ∀ call kept, old.stage ≠ .saved call kept) :
    (ReservationState.mk row (front ++ new :: back)).SavedFrom mission := by
  obtain ⟨c, member, stage, ended⟩ := saved
  have other : c ≠ old := by
    intro same
    subst same
    exact unsaved _ _ stage
  exact ⟨c, mem_replace member other, stage, ended⟩

/-- Once a command has saved the row, no command is let through. -/
theorem ReservationState.SavedFrom.not_accepts {s : ReservationState}
    (saved : s.SavedFrom mission) (command : ReservationCommand) :
    command.accepts s.row.status = false := by
  obtain ⟨c, -, -, status, edited, ended⟩ := saved
  rw [edited.status]
  exact ReservationCommand.not_accepts (ended.imp id And.left)

/-- A command that is given keeps the invariant, if it is let through without a rival. -/
theorem ReservationInvariant.append
    (invariant : ReservationInvariant mission ⟨row, commands⟩) (fresh : new.Fresh)
    (snapshot : new.stage ≠ .refused → new.snapshot = mission)
    (kind : ∀ c ∈ commands, c.HasCalled → new.stage = .loaded → c.command = new.command) :
    ReservationInvariant mission ⟨row, commands ++ [new]⟩ := by
  have members {c : SessionCommand} (member : c ∈ commands ++ [new]) : c ∈ commands ∨ c = new :=
    (List.mem_append.1 member).imp id List.mem_singleton.1
  have kept : (ReservationState.mk row commands).SavedFrom mission →
      (ReservationState.mk row (commands ++ [new])).SavedFrom mission := by
    rintro ⟨c, member, ended⟩
    exact ⟨c, List.mem_append_left _ member, ended⟩
  refine ⟨?_, ?_, ?_, ?_, invariant.row.imp id kept⟩
  · intro c member through
    cases members member with
    | inl known => exact invariant.snapshots c known through
    | inr same => exact same ▸ snapshot (same ▸ through)
  · intro c member gone
    cases members member with
    | inl known => exact invariant.passed c known gone
    | inr same => exact absurd (same ▸ gone) fresh.not_passed
  · intro c member d other first second
    cases members member with
    | inr same => exact absurd (same ▸ first) fresh.not_hasCalled
    | inl known =>
        cases members other with
        | inl alsoKnown => exact invariant.oneKind c known d alsoKnown first second
        | inr same =>
            rw [same] at second ⊢
            exact kind c known first (second.resolve_left fresh.not_hasCalled)
  · intro c member ended
    cases members member with
    | inl known => exact kept (invariant.finished c known ended)
    | inr same => exact absurd (same ▸ ended) fresh.not_finished

end

section
variable {registry : ProviderRegistry} {mission : Mission} {s s' : ReservationState}

theorem ReservationInvariant.row_eq (invariant : ReservationInvariant mission s)
    {command : ReservationCommand} (accepted : command.accepts s.row.status = true) :
    s.row = mission := by
  cases invariant.row with
  | inl same => exact same
  | inr saved => cases (saved.not_accepts command).symm.trans accepted

theorem requires_none (required : requiresProviderConfirmation mission = .ok none) :
    mission.reservationId = none := by
  cases provider : mission.resolvedProviderId <;> cases reservation : mission.reservationId <;>
    simp_all [requiresProviderConfirmation]

/-- A command that goes on from a stage before its save, and not yet to it. -/
theorem ReservationInvariant.advance {row : Mission} {front back : List SessionCommand}
    {command : ReservationCommand} {snapshot : Mission} {before after : CommandStage}
    (invariant : ReservationInvariant mission ⟨row, front ++ ⟨command, snapshot, before⟩ :: back⟩)
    (through : before ≠ .refused) (unsaved : ∀ call kept, before ≠ .saved call kept)
    (moved : after ≠ .loaded)
    (passed : SessionCommand.Passed ⟨command, snapshot, after⟩ → mission.reservationId = none)
    (finished : SessionCommand.Finished ⟨command, snapshot, after⟩ →
      (ReservationState.mk row (front ++ ⟨command, snapshot, before⟩ :: back)).SavedFrom mission)
    (kind : ∀ c ∈ front ++ ⟨command, snapshot, before⟩ :: back,
      SessionCommand.HasCalled ⟨command, snapshot, after⟩ → c.HasCalled ∨ c.stage = .loaded →
        command = c.command) :
    ReservationInvariant mission ⟨row, front ++ ⟨command, snapshot, after⟩ :: back⟩ := by
  have own := invariant.snapshots _ mem_middle through
  exact invariant.replace (fun _ => own) passed moved kind (fun saved => saved.replace unsaved)
    (fun ended => (finished ended).replace unsaved) (.inl rfl)

theorem ReservationInvariant.load {row : Mission} {commands : List SessionCommand}
    {command : ReservationCommand} (invariant : ReservationInvariant mission ⟨row, commands⟩)
    (accepted : command.accepts row.status = true)
    (admits : (ReservationState.mk row commands).Admits (.loads command)) :
    ReservationInvariant mission ⟨row, commands ++ [⟨command, row, .loaded⟩]⟩ := by
  refine invariant.append (.inr rfl) (fun _ => invariant.row_eq accepted) ?_
  intro c member called _
  by_contra different
  cases called.answered_or_finished with
  | inl answered =>
      obtain ⟨call, stage⟩ := answered
      exact admits c member different call stage
  | inr ended =>
      -- what has been saved lets no command through
      have refused := (invariant.finished c member ended).not_accepts command
      cases refused.symm.trans accepted

theorem ReservationInvariant.save {row after : Mission} {front back : List SessionCommand}
    {command : ReservationCommand} {snapshot : Mission} {call : Option (String × ReservationAnswer)}
    {draw : Nat → UUID × Time}
    (invariant : ReservationInvariant mission
      ⟨row, front ++ ⟨command, snapshot, .answered call⟩ :: back⟩)
    (edited : command.edit draw call snapshot = .ok after) :
    ReservationInvariant mission ⟨after, front ++ ⟨command, snapshot, .saved call after⟩ :: back⟩ := by
  have same : snapshot = mission := invariant.snapshots _ mem_middle nofun
  obtain ⟨status, ends, ended⟩ := ReservationCommand.edit_ok edited
  rw [same] at ends
  have saved : (ReservationState.mk after
      (front ++ ⟨command, snapshot, .saved call after⟩ :: back)).SavedFrom mission := by
    refine ⟨_, mem_middle, rfl, status, ends, ended.imp id ?_⟩
    rintro ⟨target, agreed⟩
    refine ⟨target, agreed.imp ?_ id⟩
    intro none
    subst none
    exact .inr (.inl ⟨_, rfl⟩)
  refine invariant.replace (fun _ => same) ?_ nofun ?_ (fun _ => saved) (fun _ => saved)
    (.inr saved)
  · rintro (answered | ⟨_, stage⟩ | conflicted)
    · cases answered
    · cases stage
      exact invariant.passed _ mem_middle (.inl rfl)
    · cases conflicted
  · intro c member called
    exact invariant.oneKind _ mem_middle c member called

theorem ReservationInvariant.conflict {row : Mission} {front back : List SessionCommand}
    {command : ReservationCommand} {snapshot : Mission} {call : Option (String × ReservationAnswer)}
    (invariant : ReservationInvariant mission
      ⟨row, front ++ ⟨command, snapshot, .answered call⟩ :: back⟩)
    (stale : row.lastEventSequence ≠ snapshot.lastEventSequence) :
    ReservationInvariant mission ⟨row, front ++ ⟨command, snapshot, .conflicted call⟩ :: back⟩ := by
  have same : snapshot = mission := invariant.snapshots _ mem_middle nofun
  refine invariant.advance nofun (fun _ _ => nofun) nofun ?_ (fun _ => ?_) ?_
  · rintro (answered | ⟨_, stage⟩ | conflicted)
    · cases answered
    · cases stage
    · cases conflicted
      exact invariant.passed _ mem_middle (.inl rfl)
  · -- a row that has changed since the load has been saved by a command
    refine invariant.row.resolve_left fun unchanged => stale ?_
    rw [same]
    exact congrArg Mission.lastEventSequence unchanged
  · intro c member called
    exact invariant.oneKind _ mem_middle c member called

theorem ReservationInvariant.step (pending : mission.status = .requiresConfirmation)
    (invariant : ReservationInvariant mission s) {event : ReservationEvent}
    (step : ReservationStep registry s event s') (admits : s.Admits event) :
    ReservationInvariant mission s' := by
  cases step with
  | load accepted => exact invariant.load accepted admits
  | refuse =>
      refine invariant.append (.inl rfl) ?_ ?_
      · exact fun through => absurd rfl through
      · intro _ _ _ loaded
        cases loaded
  | @call row front back command snapshot providerId reservationId adapter answer =>
      refine invariant.advance nofun (fun _ _ => nofun) nofun ?_ ?_ ?_
      · rintro (answered | ⟨_, saved⟩ | conflicted)
        · cases answered
        · cases saved
        · cases conflicted
      · rintro (⟨_, _, saved⟩ | ⟨_, conflicted⟩)
        · cases saved
        · cases conflicted
      · rintro c member - (called | loaded)
        · exact (invariant.oneKind c member _ mem_middle called (.inr rfl)).symm
        · by_contra different
          exact admits c member (fun same => different same.symm) loaded
  | unavailable =>
      refine invariant.advance nofun (fun _ _ => nofun) nofun ?_ ?_ ?_
      · exact fun gone => absurd gone (SessionCommand.Fresh.not_passed (.inl rfl))
      · exact fun ended => absurd ended (SessionCommand.Fresh.not_finished (.inl rfl))
      · exact fun _ _ called => absurd called (SessionCommand.Fresh.not_hasCalled (.inl rfl))
  | @pass row front back command snapshot unneeded =>
      have same : snapshot = mission := invariant.snapshots _ mem_middle nofun
      refine invariant.advance nofun (fun _ _ => nofun) nofun (fun _ => ?_) ?_ ?_
      · cases unneeded with
        | inl other => exact absurd (same ▸ pending) other
        | inr required => exact requires_none (same ▸ required)
      · rintro (⟨_, _, saved⟩ | ⟨_, conflicted⟩)
        · cases saved
        · cases conflicted
      · rintro _ _ ⟨_, stage⟩
        cases stage
  | save edited => exact invariant.save edited
  | conflict _ stale => exact invariant.conflict stale

theorem reservationInvariant_of_run (pending : mission.status = .requiresConfirmation)
    (run : ReflTransGen (StepApart registry) ⟨mission, []⟩ s) :
    ReservationInvariant mission s := by
  induction run with
  | refl => exact ⟨by simp, by simp, by simp, by simp, .inl rfl⟩
  | tail _ step invariant =>
      obtain ⟨_, step, admits⟩ := step
      exact invariant.step pending step admits

theorem ReservationCommand.target_injective {command other : ReservationCommand}
    (same : command.target = other.target) : command = other := by
  cases command <;> cases other <;> first | rfl | cases same

/-- Once a command has ended the mission, no call of another has succeeded. -/
theorem ReservationInvariant.ended (invariant : ReservationInvariant mission s)
    (pending : mission.status = .requiresConfirmation) {command other : ReservationCommand}
    (status : s.row.status = command.target) (different : other ≠ command)
    (reservationId : String) : ¬ s.Called other reservationId := by
  intro called
  obtain ⟨d, member, kind, succeeded, reserved⟩ := called
  cases invariant.row with
  | inl same =>
      rw [same, pending] at status
      cases command <;> cases status
  | inr saved =>
      obtain ⟨c, saver, -, last, edited, left⟩ := saved
      rw [edited.status] at status
      cases left with
      | inl failed =>
          rw [failed] at status
          cases command <;> cases status
      | inr agreed =>
          obtain ⟨target, agreed⟩ := agreed
          have own : c.command = command :=
            ReservationCommand.target_injective (target.symm.trans status)
          cases agreed with
          | inl passed =>
              have through : d.stage ≠ .refused := by
                intro refused
                exact SessionCommand.Fresh.not_hasCalled (.inl refused) succeeded.hasCalled
              rw [invariant.snapshots d member through, invariant.passed c saver passed] at reserved
              cases reserved
          | inr also =>
              have same := invariant.oneKind c saver d member also.hasCalled
                (.inl succeeded.hasCalled)
              exact different (kind.symm.trans (same.symm.trans own))

end

/-- In every run that keeps the kinds apart, confirmation and cancellation exclude each
other. -/
theorem confirm_excludes_cancel {registry : ProviderRegistry} {mission : Mission}
    (pending : mission.status = .requiresConfirmation) {s : ReservationState}
    (run : ReflTransGen (StepApart registry) ⟨mission, []⟩ s) : s.Exclusive where
  calls := by
    intro reservationId confirmed cancelled
    obtain ⟨c, member, kind, succeeded, -⟩ := confirmed
    obtain ⟨d, other, otherKind, alsoSucceeded, -⟩ := cancelled
    have same := (reservationInvariant_of_run pending run).oneKind c member d other
      succeeded.hasCalled (.inl alsoSucceeded.hasCalled)
    rw [kind, otherKind] at same
    cases same
  completed := by
    intro status reservationId _
    exact @ReservationInvariant.ended mission s (reservationInvariant_of_run pending run) pending
      .confirm .cancel status (by decide) reservationId
  cancelled := by
    intro status reservationId _
    exact @ReservationInvariant.ended mission s (reservationInvariant_of_run pending run) pending
      .cancel .confirm status (by decide) reservationId

/-! A confirmation and a cancellation of one mission. -/

namespace ConfirmAgainstCancel

def mission : Mission :=
  { Sample.mission with
    status := .requiresConfirmation
    resolvedProviderId := some "mock_train"
    reservationId := some "r1" }

def agreed : Option (String × ReservationAnswer) := some ("mock_train", .result true)

def draw (sequence : Nat) : UUID × Time := (⟨sequence + 1⟩, 5)

def completed : Mission :=
  (ReservationCommand.confirm.edit draw agreed mission).toOption.getD mission

def command (command : ReservationCommand) (stage : CommandStage) : SessionCommand :=
  ⟨command, mission, stage⟩

def last : ReservationState :=
  ⟨completed, [command .confirm (.saved agreed completed), command .cancel (.answered agreed)]⟩

theorem loads (commands : List SessionCommand) (other : ReservationCommand) :
    ReservationStep Sample.registry ⟨mission, commands⟩ (.loads other)
      ⟨mission, commands ++ [command other .loaded]⟩ :=
  .load (by cases other <;> rfl)

theorem calls (front back : List SessionCommand) (other : ReservationCommand) :
    ReservationStep Sample.registry ⟨mission, front ++ command other .loaded :: back⟩
      (.calls other) ⟨mission, front ++ command other (.answered agreed) :: back⟩ :=
  @ReservationStep.call Sample.registry mission front back other mission "mock_train" "r1" _
    (.result true) rfl rfl rfl

theorem saves (back : List SessionCommand) :
    ReservationStep Sample.registry ⟨mission, command .confirm (.answered agreed) :: back⟩ .other
      ⟨completed, command .confirm (.saved agreed completed) :: back⟩ :=
  @ReservationStep.save Sample.registry mission completed [] back .confirm mission agreed draw rfl
    rfl rfl

/-- Two confirmations, of which the first is saved, and a cancellation that comes after. -/
def done : ReservationState :=
  ⟨completed, [command .confirm (.saved agreed completed),
    command .confirm (.conflicted agreed), ⟨.cancel, completed, .refused⟩]⟩

theorem conflicts : ReservationStep Sample.registry
    ⟨completed, [command .confirm (.saved agreed completed), command .confirm (.answered agreed)]⟩
    .other ⟨completed, [command .confirm (.saved agreed completed),
      command .confirm (.conflicted agreed)]⟩ :=
  @ReservationStep.conflict Sample.registry completed completed
    [command .confirm (.saved agreed completed)] [] .confirm mission agreed draw rfl (by decide)

/-- Between confirmations nothing has to be kept apart. -/
theorem admits_confirmations {row : Mission} {commands : List SessionCommand}
    {event : ReservationEvent} (confirmations : ∀ c ∈ commands, c.command = .confirm)
    (own : event = .loads .confirm ∨ event = .calls .confirm ∨ event = .other) :
    (ReservationState.mk row commands).Admits event := by
  rcases own with rfl | rfl | rfl
  · exact fun other member different => absurd (confirmations other member) different
  · exact fun other member different => absurd (confirmations other member) different
  · trivial

theorem confirms : ReflTransGen (StepApart Sample.registry) ⟨mission, []⟩ done := by
  have first : StepApart Sample.registry ⟨mission, []⟩ ⟨mission, [command .confirm .loaded]⟩ :=
    ⟨_, loads [] .confirm, admits_confirmations (by simp) (.inl rfl)⟩
  have second : StepApart Sample.registry ⟨mission, [command .confirm .loaded]⟩
      ⟨mission, [command .confirm .loaded, command .confirm .loaded]⟩ :=
    ⟨_, loads _ .confirm, admits_confirmations (by simp [command]) (.inl rfl)⟩
  have third : StepApart Sample.registry
      ⟨mission, [command .confirm .loaded, command .confirm .loaded]⟩
      ⟨mission, [command .confirm (.answered agreed), command .confirm .loaded]⟩ :=
    ⟨_, calls [] _ .confirm, admits_confirmations (by simp [command]) (.inr (.inl rfl))⟩
  have fourth : StepApart Sample.registry
      ⟨mission, [command .confirm (.answered agreed), command .confirm .loaded]⟩
      ⟨mission, [command .confirm (.answered agreed), command .confirm (.answered agreed)]⟩ :=
    ⟨_, calls [command .confirm (.answered agreed)] [] .confirm,
      admits_confirmations (by simp [command]) (.inr (.inl rfl))⟩
  have fifth : StepApart Sample.registry
      ⟨mission, [command .confirm (.answered agreed), command .confirm (.answered agreed)]⟩ _ :=
    ⟨_, saves _, trivial⟩
  exact (((((ReflTransGen.single first).tail second).tail third).tail fourth).tail fifth).tail
    ⟨_, conflicts, trivial⟩ |>.tail ⟨_, .refuse rfl, trivial⟩

theorem overlaps :
    ReflTransGen (fun s s' => ∃ event, ReservationStep Sample.registry s event s') ⟨mission, []⟩
      last :=
  ((((ReflTransGen.single ⟨_, loads [] .confirm⟩).tail ⟨_, loads _ .cancel⟩).tail
    ⟨_, calls [] _ .confirm⟩).tail ⟨_, calls [command .confirm (.answered agreed)] [] .cancel⟩).tail
    ⟨_, saves _⟩

end ConfirmAgainstCancel

theorem confirm_excludes_cancel_refused : ConfirmAgainstCancel.done.Exclusive :=
  confirm_excludes_cancel rfl ConfirmAgainstCancel.confirms

/-- Both calls succeed, and the mission is completed though its reservation has been
cancelled; the cancellation can no longer be saved. -/
theorem confirmed_and_cancelled :
    ConfirmAgainstCancel.mission.status = .requiresConfirmation ∧
    ReflTransGen (fun s s' => ∃ event, ReservationStep Sample.registry s event s')
      ⟨ConfirmAgainstCancel.mission, []⟩ ConfirmAgainstCancel.last ∧
    ConfirmAgainstCancel.last.Called .confirm "r1" ∧
    ConfirmAgainstCancel.last.Called .cancel "r1" ∧
    ConfirmAgainstCancel.last.row.status = .completed ∧
    ConfirmAgainstCancel.last.row.lastEventSequence ≠
      ConfirmAgainstCancel.mission.lastEventSequence ∧
    ¬ ConfirmAgainstCancel.last.Exclusive := by
  have confirmed : ConfirmAgainstCancel.last.Called .confirm "r1" :=
    ⟨_, List.mem_cons_self, rfl, ⟨_, rfl⟩, rfl⟩
  have cancelled : ConfirmAgainstCancel.last.Called .cancel "r1" :=
    ⟨_, List.mem_cons_of_mem _ (List.mem_singleton_self _), rfl, ⟨_, rfl⟩, rfl⟩
  refine ⟨rfl, ConfirmAgainstCancel.overlaps, confirmed, cancelled, rfl, by decide, ?_⟩
  intro exclusive
  exact exclusive.calls "r1" confirmed cancelled

end PurchaseAgent
