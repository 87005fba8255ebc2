import PurchaseAgent.Api.Participants

/-!
Missions and the identities they name. Between the look of a creation at the
identities and its commit an identity may go, and between the look of a deletion
at the missions and its commit a mission may come; these overlaps are all that
can leave a participant without an identity.
-/

namespace PurchaseAgent

open Relation

/-- Two commits, one of which should have seen the other. -/
def ParticipantChange.Conflicts : ParticipantChange → ParticipantChange → Prop
  | .created mission, .deleted identityId => identityId ∈ mission.participantIds
  | .deleted identityId, .created mission => identityId ∈ mission.participantIds
  | _, _ => False

namespace ParticipantConfig

def changes (c : ParticipantConfig) : List ParticipantChange := c.log.map (·.change)

/-- No deletion that has committed overlapped a committed creation that names its
identity. -/
def Apart (c : ParticipantConfig) : Prop :=
  ∀ x ∈ c.log, ∀ other ∈ x.during, ¬ x.change.Conflicts other

/-- The participants of every mission that was created have an identity. -/
def Resolvable (c : ParticipantConfig) : Prop :=
  ∀ mission, .created mission ∈ c.changes → ∀ participantId ∈ mission.participantIds,
    (c.tables.get participantId).isSome

end ParticipantConfig

namespace ParticipantTables

theorem get_withoutIdentity (tables : ParticipantTables) (identityId : UUID) :
    (tables.withoutIdentity identityId).get identityId = none := by
  simp only [get, withoutIdentity, List.find?_eq_none, List.mem_filter]
  intro row kept
  simpa using kept.2

theorem get_withoutIdentity_of_ne {identityId other : UUID} (tables : ParticipantTables)
    (different : other ≠ identityId) :
    (tables.withoutIdentity identityId).get other = tables.get other := by
  simp only [get, withoutIdentity]
  induction tables.identities with
  | nil => rfl
  | cons row rest ih =>
      by_cases named : row.id = identityId
      · have passed : row.id ≠ other := fun same => different (same ▸ named)
        rw [List.filter_cons_of_neg (by simpa using named),
          List.find?_cons_of_neg (by simpa using passed), ih]
      · rw [List.filter_cons_of_pos (by simpa using named)]
        simp only [List.find?_cons, ih]

theorem participants_of_unreferenced {tables : ParticipantTables} {identityId : UUID}
    (unreferenced : tables.referencesIdentity identityId = false) {mission : Mission}
    (stored : mission ∈ tables.missions) : identityId ∉ mission.participantIds := by
  intro named
  have found : tables.referencesIdentity identityId = true := by
    simp only [referencesIdentity, List.any_eq_true, decide_eq_true_eq]
    exact ⟨mission, stored, named⟩
  rw [unreferenced] at found
  cases found

end ParticipantTables

theorem participantIds_of_toDomain {mission : MissionCreate} {library : CreationLibrary} {id : UUID}
    {row : Mission} (valid : mission.toDomain library id = .ok row) :
    row.participantIds = mission.participantIds := by
  simp only [MissionCreate.toDomain] at valid
  cases payload : mission.payload.toDomain library with
  | error error => simp [payload, bind, Except.bind] at valid
  | ok payload' =>
      simp only [payload, bind, Except.bind, pure, Except.pure, Except.ok.injEq] at valid
      subst valid
      rfl

/-- The identity is there, or has been deleted by one of the last commits. -/
def ParticipantConfig.Accounted (c : ParticipantConfig) (since : Nat) (participantId : UUID) :
    Prop :=
  (c.tables.get participantId).isSome ∨ .deleted participantId ∈ c.changes.drop since

/-- The participants that a creation no longer has to look up. -/
def ParticipantConfig.LookedUp (c : ParticipantConfig) (mission : MissionCreate)
    (rest : List UUID) (unknown : List String) (since : Nat) : Prop :=
  ∃ done, mission.participantIds = done ++ rest ∧
    (unknown = [] → ∀ participantId ∈ done, c.Accounted since participantId)

/-- What a request knows at its stage. -/
def ParticipantConfig.StageSound (c : ParticipantConfig) (request : ParticipantRequest) :
    ParticipantStage → Prop
  | .checking rest unknown since =>
    since ≤ c.log.length ∧
      ∃ mission key, request = .createMission mission key ∧ c.LookedUp mission rest unknown since
  | .inserted mission since =>
    since ≤ c.log.length ∧ ∀ participantId ∈ mission.participantIds, c.Accounted since participantId
  | .unreferenced identityId _ since | .deleting identityId since =>
    since ≤ c.log.length ∧
      ∀ mission, .created mission ∈ c.changes.take since → identityId ∉ mission.participantIds
  | _ => True

structure ParticipantsSound (requests : Nat → ParticipantRequest) (c : ParticipantConfig) : Prop where
  created : ∀ mission, .created mission ∈ c.changes → mission ∈ c.tables.missions
  deleted : ∀ identityId, .deleted identityId ∈ c.changes → c.tables.get identityId = none
  stages : ∀ i, c.StageSound (requests i) (c.stage i)
  apart : c.Apart → c.Resolvable
  overlapped : ∀ x ∈ c.log, ∀ other ∈ x.during, x.change.Conflicts other →
    x.change ∈ c.changes ∧ other ∈ c.changes

namespace ParticipantConfig
variable {c : ParticipantConfig}

theorem changes_commit (c : ParticipantConfig) (i : Nat) (change : ParticipantChange)
    (since : Nat) : (c.commit i change since).changes = c.changes ++ [change] := by
  simp [changes, commit, enter]

theorem length_changes (c : ParticipantConfig) : c.changes.length = c.log.length :=
  List.length_map _

theorem get_apply_of_none {tables : ParticipantTables} {identityId : UUID}
    (change : ParticipantChange) (gone : tables.get identityId = none) :
    (change.apply tables).get identityId = none := by
  cases change with
  | created mission => exact gone
  | deleted other =>
      by_cases same : identityId = other
      · subst same
        exact tables.get_withoutIdentity identityId
      · rw [← gone]
        exact tables.get_withoutIdentity_of_ne same

/-- A commit deletes no identity but that of its own change. -/
theorem Accounted.commit {since : Nat} {participantId : UUID}
    (h : c.Accounted since participantId) (bound : since ≤ c.log.length) (i : Nat)
    (change : ParticipantChange) (own : Nat) :
    (c.commit i change own).Accounted since participantId := by
  have suffix : (c.commit i change own).changes.drop since = c.changes.drop since ++ [change] := by
    rw [changes_commit, List.drop_append_of_le_length (by rw [length_changes]; exact bound)]
  rw [Accounted, suffix]
  rcases h with found | deleted
  · cases change with
    | created mission => exact .inl found
    | deleted identityId =>
        by_cases same : participantId = identityId
        · exact .inr (by simp [same])
        · refine .inl ?_
          have kept := c.tables.get_withoutIdentity_of_ne same
          exact (congrArg Option.isSome kept).trans found
  · exact .inr (List.mem_append_left _ deleted)

theorem LookedUp.commit {mission : MissionCreate} {rest : List UUID} {unknown : List String}
    {since : Nat} (h : c.LookedUp mission rest unknown since) (bound : since ≤ c.log.length)
    (i : Nat) (change : ParticipantChange) (own : Nat) :
    (c.commit i change own).LookedUp mission rest unknown since := by
  obtain ⟨done, split, found⟩ := h
  refine ⟨done, split, ?_⟩
  intro known participantId looked
  exact (found known participantId looked).commit bound i change own

theorem StageSound.commit {request : ParticipantRequest} {stage : ParticipantStage}
    (h : c.StageSound request stage) (i : Nat) (change : ParticipantChange) (own : Nat) :
    (c.commit i change own).StageSound request stage := by
  have grown : (c.commit i change own).log.length = c.log.length + 1 := by
    simp [ParticipantConfig.commit]
  have old : ∀ since, since ≤ c.log.length →
      (c.commit i change own).changes.take since = c.changes.take since := by
    intro since bound
    rw [changes_commit, List.take_append_of_le_length (by rw [length_changes]; exact bound)]
  cases stage with
  | checking rest unknown since =>
      obtain ⟨bound, mission, key, sent, looked⟩ := h
      exact ⟨by omega, mission, key, sent, looked.commit bound i change own⟩
  | inserted mission since =>
      obtain ⟨bound, found⟩ := h
      refine ⟨by omega, ?_⟩
      intro participantId named
      exact (found participantId named).commit bound i change own
  | unreferenced identityId expectedVersion since =>
      obtain ⟨bound, unnamed⟩ := h
      exact ⟨by omega, by rw [old since bound]; exact unnamed⟩
  | deleting identityId since =>
      obtain ⟨bound, unnamed⟩ := h
      exact ⟨by omega, by rw [old since bound]; exact unnamed⟩
  | idle | identified | ended | committed => trivial

/-- A commit that overlaps no other one keeps the participants resolvable. -/
theorem Resolvable.commit {i : Nat} {change : ParticipantChange} {since : Nat}
    (h : c.Resolvable) (apart : ∀ other ∈ c.changes.drop since, ¬ change.Conflicts other)
    (created : ∀ mission, change = .created mission →
      ∀ participantId ∈ mission.participantIds, c.Accounted since participantId)
    (deleted : ∀ identityId, change = .deleted identityId →
      ∀ mission, .created mission ∈ c.changes.take since → identityId ∉ mission.participantIds) :
    (c.commit i change since).Resolvable := by
  intro mission stored participantId named
  rw [changes_commit, List.mem_append, List.mem_singleton] at stored
  cases change with
  | created own =>
      change (c.tables.get participantId).isSome
      rcases stored with old | new
      · exact h mission old participantId named
      · obtain rfl := ParticipantChange.created.inj new
        rcases created mission rfl participantId named with found | gone
        · exact found
        · exact absurd named (apart _ gone)
  | deleted identityId =>
      rcases stored with old | new
      · have other : participantId ≠ identityId := by
          intro same
          subst same
          rw [← List.take_append_drop since c.changes, List.mem_append] at old
          rcases old with before | during
          · exact deleted participantId rfl mission before named
          · exact apart _ during named
        have kept := c.tables.get_withoutIdentity_of_ne other
        exact (congrArg Option.isSome kept).trans (h mission old participantId named)
      · cases new

end ParticipantConfig

namespace ParticipantsSound
variable {library : CreationLibrary} {requests : Nat → ParticipantRequest} {c : ParticipantConfig}

theorem start (tables : ParticipantTables) :
    ParticipantsSound requests (ParticipantConfig.start tables) where
  created mission impossible := by cases impossible
  deleted identityId impossible := by cases impossible
  stages i := trivial
  apart _ mission impossible := by cases impossible
  overlapped x impossible := by cases impossible

theorem enter (h : ParticipantsSound requests c) (i : Nat) {stage : ParticipantStage}
    (sound : c.StageSound (requests i) stage) : ParticipantsSound requests (c.enter i stage) := by
  refine ⟨h.created, h.deleted, ?_, h.apart, h.overlapped⟩
  intro j
  have same : ∀ request stage', c.StageSound request stage' →
      (c.enter i stage).StageSound request stage' := by
    intro request stage' known
    cases stage' <;> exact known
  apply same
  by_cases own : j = i
  · subst own
    simpa [ParticipantConfig.enter] using sound
  · simpa [ParticipantConfig.enter, own] using h.stages j

theorem commit (h : ParticipantsSound requests c) (i : Nat) {change : ParticipantChange}
    {since : Nat}
    (created : ∀ mission, change = .created mission →
      ∀ participantId ∈ mission.participantIds, c.Accounted since participantId)
    (deleted : ∀ identityId, change = .deleted identityId →
      ∀ mission, .created mission ∈ c.changes.take since → identityId ∉ mission.participantIds) :
    ParticipantsSound requests (c.commit i change since) := by
  refine ⟨?_, ?_, ?_, ?_, ?_⟩
  · intro mission stored
    rw [ParticipantConfig.changes_commit, List.mem_append, List.mem_singleton] at stored
    rcases stored with old | new
    · have kept := h.created mission old
      cases change with
      | created own => exact List.mem_append_left _ kept
      | deleted identityId => exact kept
    · subst new
      exact List.mem_append_right _ (List.mem_singleton.2 rfl)
  · intro identityId stored
    rw [ParticipantConfig.changes_commit, List.mem_append, List.mem_singleton] at stored
    rcases stored with old | new
    · exact ParticipantConfig.get_apply_of_none change (h.deleted identityId old)
    · subst new
      exact c.tables.get_withoutIdentity identityId
  · intro j
    by_cases own : j = i
    · subst own
      simp [ParticipantConfig.commit, ParticipantConfig.enter, ParticipantConfig.StageSound]
    · have other : (c.commit i change since).stage j = c.stage j := by
        simp [ParticipantConfig.commit, ParticipantConfig.enter, own]
      rw [other]
      exact (h.stages j).commit i change since
  · intro apart
    have before : c.Apart := fun x logged => apart x (List.mem_append_left _ logged)
    have last := apart _ (List.mem_append_right _ (List.mem_singleton.2 rfl))
    exact (h.apart before).commit last created deleted
  · intro x logged other during conflict
    rw [ParticipantConfig.changes_commit]
    rcases List.mem_append.1 logged with old | new
    · obtain ⟨first, second⟩ := h.overlapped x old other during conflict
      exact ⟨List.mem_append_left _ first, List.mem_append_left _ second⟩
    · obtain rfl := List.mem_singleton.1 new
      exact ⟨List.mem_append_right _ (List.mem_singleton.2 rfl),
        List.mem_append_left _ (List.mem_of_mem_drop during)⟩

/-- A participant that is there has been accounted for; one that is not makes the
request end without a mission. -/
theorem participant {mission : MissionCreate} {participantId : UUID} {rest : List UUID}
    {unknown : List String} {since : Nat}
    (looked : c.LookedUp mission (participantId :: rest) unknown since) :
    c.LookedUp mission rest
      (if (c.tables.get participantId).isNone then unknown ++ [participantId.str] else unknown)
      since := by
  obtain ⟨done, split, found⟩ := looked
  refine ⟨done ++ [participantId], by simp [split], ?_⟩
  cases there : c.tables.get participantId with
  | none => simp
  | some identity =>
      intro known other member
      rcases List.mem_append.1 member with before | last
      · exact found (by simpa [there] using known) other before
      · obtain rfl := List.mem_singleton.1 last
        exact .inl (by simp [there])

theorem step (h : ParticipantsSound requests c) {c' : ParticipantConfig}
    (step : ParticipantStep library requests c c') : ParticipantsSound requests c' := by
  cases step with
  | @receive i mission key request idle =>
      apply h.enter
      exact ⟨Nat.le_refl _, mission, key, request, [], rfl, by simp⟩
  | @participant i participantId rest unknown since checking =>
      have known := h.stages i
      rw [checking] at known
      obtain ⟨bound, mission, key, sent, looked⟩ := known
      apply h.enter
      exact ⟨bound, mission, key, sent, participant looked⟩
  | @insert i mission key since id row request checking valid =>
      have known := h.stages i
      rw [checking] at known
      obtain ⟨bound, sent, _, same, done, split, found⟩ := known
      apply h.enter
      refine ⟨bound, ?_⟩
      intro participantId named
      rw [request] at same
      obtain ⟨rfl, -⟩ := ParticipantRequest.createMission.inj same
      rw [participantIds_of_toDomain valid, split, List.append_nil] at named
      exact found rfl participantId named
  | @unreferenced i identityId expectedVersion identified unreferenced =>
      apply h.enter
      refine ⟨Nat.le_refl _, ?_⟩
      intro mission stored
      exact ParticipantTables.participants_of_unreferenced unreferenced
        (h.created mission (List.mem_of_mem_take stored))
  | @delete i identityId expectedVersion since row unreferenced free found version =>
      have known := h.stages i
      rw [unreferenced] at known
      exact h.enter i known
  | @commitMission i mission since inserted =>
      have known := h.stages i
      rw [inserted] at known
      apply h.commit
      · intro own same
        obtain rfl := ParticipantChange.created.inj same
        exact known.2
      · intro identityId same
        cases same
  | @commitIdentity i identityId since deleting =>
      have known := h.stages i
      rw [deleting] at known
      apply h.commit
      · intro mission same
        cases same
      · intro own same
        obtain rfl := ParticipantChange.deleted.inj same
        exact known.2
  | unknown | receipt | absent | unmatched | identify | referenced | missed | rollback =>
      exact h.enter _ trivial

theorem run (h : ParticipantsSound requests c) {c' : ParticipantConfig}
    (run : ReflTransGen (ParticipantStep library requests) c c') :
    ParticipantsSound requests c' := by
  induction run with
  | refl => exact h
  | tail _ step ih => exact ih.step step

/-- Of two commits that overlapped the deletion has left the mission without a
participant. -/
theorem apart_of_resolvable (h : ParticipantsSound requests c) (resolvable : c.Resolvable) :
    c.Apart := by
  intro x logged other during conflict
  obtain ⟨first, second⟩ := h.overlapped x logged other during conflict
  have dangling : ∀ mission identityId, .created mission ∈ c.changes →
      .deleted identityId ∈ c.changes → identityId ∉ mission.participantIds := by
    intro mission identityId created deleted named
    have there := resolvable mission created identityId named
    rw [h.deleted identityId deleted] at there
    cases there
  cases change : x.change with
  | created mission =>
      rw [change] at first conflict
      cases other with
      | created other => exact conflict
      | deleted identityId => exact dangling mission identityId first second conflict
  | deleted identityId =>
      rw [change] at first conflict
      cases other with
      | created mission => exact dangling mission identityId second first conflict
      | deleted other => exact conflict

end ParticipantsSound

/-- Whatever the interleaving, the participants of the missions that were created
have their identities as long as no deletion overlapped a creation that names its
identity, and then only. -/
theorem participants_resolvable_iff (library : CreationLibrary)
    (requests : Nat → ParticipantRequest) (tables : ParticipantTables) {c : ParticipantConfig}
    (run : ReflTransGen (ParticipantStep library requests) (ParticipantConfig.start tables) c) :
    c.Resolvable ↔ c.Apart := by
  have sound := (ParticipantsSound.start tables).run run
  exact ⟨sound.apart_of_resolvable, sound.apart⟩

namespace ParticipantOverlap

def library : CreationLibrary := ⟨id, (·.title), (·.displayName)⟩

def passenger : IdentityRecord :=
  { id := ⟨1⟩, version := 0, displayName := "A", firstName := "A", lastName := "A"
    birthDate := ⟨1990, 1, 1⟩, documents := []
    preferences := ⟨⟨none, none, none⟩, ⟨true, [.webhook], none⟩⟩ }

theorem single_nodup : [(⟨1⟩ : UUID)].Nodup := by decide

theorem provider_given : "mock_train" ≠ "" := by decide

theorem attempts_positive : 1 ≤ 3 := by decide

theorem attempts_bounded : 3 ≤ 100 := by decide

theorem unscheduled (limit : Time) (none : limit ∈ (none : Option Time)) (expiry : Time)
    (_ : expiry ∈ (Option.none : Option Time)) : limit ≤ expiry := by cases none

theorem single_counted : (1 : Int) = ([⟨1⟩] : List UUID).length := rfl

def trip : MissionCreate where
  type := none
  missionType := .trainTicket
  payload := ⟨"A", "B", ⟨2026, 8, 1⟩⟩
  title := "trip"
  participantIds := [⟨1⟩]
  provider := "mock_train"
  executionMode := .requireConfirmation
  providerId := none
  constraints := ⟨"A", "B", ⟨2026, 8, 1⟩, 1, none, none, none, none, TrainConstraints.single_pos⟩
  fallbackRules := ⟨none, none, none⟩
  scheduledAt := none
  expiresAt := none
  maxExecutionAttempts := 3
  participantIds_nodup := single_nodup
  participantIds_length := single_counted
  provider_nonempty := provider_given
  maxExecutionAttempts_pos := attempts_positive
  maxExecutionAttempts_le := attempts_bounded
  scheduledAt_le := unscheduled

def requests : Nat → ParticipantRequest
  | 0 => .createMission trip none
  | _ => .deleteIdentity ⟨1⟩ (some "\"0\"")

def planned : Mission :=
  { id := ⟨2⟩, type := .trainTicket, missionType := .trainTicket
    payload := ⟨"A", "B", ⟨2026, 8, 1⟩⟩, title := "trip", status := .created
    participantIds := [⟨1⟩], provider := "mock_train", executionMode := .requireConfirmation
    providerId := none, resolvedProviderId := none, reservationId := none
    constraints := trip.constraints, fallbackRules := trip.fallbackRules, scheduledAt := none
    expiresAt := none, claimedAt := none, executionAttempts := 0, maxExecutionAttempts := 3
    lastEventSequence := 0, executionLog := [], bestOption := none }

def before : ParticipantConfig := .start ⟨[passenger], []⟩

def received : ParticipantConfig := before.enter 0 (.checking [⟨1⟩] [] 0)
def found : ParticipantConfig := received.enter 0 (.checking [] [] 0)
def identified : ParticipantConfig := found.enter 1 (.identified ⟨1⟩ 0)
def unreferenced : ParticipantConfig := identified.enter 1 (.unreferenced ⟨1⟩ 0 0)
def inserted : ParticipantConfig := unreferenced.enter 0 (.inserted planned 0)
def created : ParticipantConfig := inserted.commit 0 (.created planned) 0
def deleting : ParticipantConfig := created.enter 1 (.deleting ⟨1⟩ 0)
def gone : ParticipantConfig := deleting.commit 1 (.deleted ⟨1⟩) 0

/-- The creation has found its participant, the deletion no mission. -/
theorem reached_unreferenced :
    ReflTransGen (ParticipantStep library requests) before unreferenced := by
  have receive : ParticipantStep library requests before received :=
    @ParticipantStep.receive library requests before 0 trip none rfl rfl
  have find : ParticipantStep library requests received found :=
    @ParticipantStep.participant library requests received 0 ⟨1⟩ [] [] 0 rfl
  have identify : ParticipantStep library requests found identified :=
    @ParticipantStep.identify library requests found 1 ⟨1⟩ (some "\"0\"") passenger 0 rfl rfl rfl
      (by decide +kernel)
  have look : ParticipantStep library requests identified unreferenced :=
    .unreferenced (i := 1) rfl rfl
  exact .tail (.tail (.tail (.single receive) find) identify) look

theorem reached_created : ReflTransGen (ParticipantStep library requests) before created := by
  have insert : ParticipantStep library requests unreferenced inserted :=
    @ParticipantStep.insert library requests unreferenced 0 trip none 0 ⟨2⟩ planned rfl rfl (by rfl)
  exact .tail (.tail reached_unreferenced insert) (.commitMission (i := 0) rfl)

theorem reached_gone : ReflTransGen (ParticipantStep library requests) before gone := by
  have nobody : ∀ j since, created.stage j ≠ .deleting ⟨1⟩ since := by
    intro j since
    match j with
    | 0 => exact ParticipantStage.noConfusion
    | 1 => exact ParticipantStage.noConfusion
    | j + 2 => exact ParticipantStage.noConfusion
  have delete : ParticipantStep library requests created deleting :=
    @ParticipantStep.delete library requests created 1 ⟨1⟩ 0 0 passenger rfl nobody rfl rfl
  exact .tail (.tail reached_created delete) (.commitIdentity (i := 1) rfl)

end ParticipantOverlap

theorem participants_resolvable_created :
    ParticipantOverlap.created.Resolvable ↔ ParticipantOverlap.created.Apart :=
  participants_resolvable_iff ParticipantOverlap.library ParticipantOverlap.requests
    ⟨[ParticipantOverlap.passenger], []⟩ ParticipantOverlap.reached_created

/-- A mission keeps the participant that was deleted while it was being created. -/
theorem deleted_participant_named :
    ReflTransGen (ParticipantStep ParticipantOverlap.library ParticipantOverlap.requests)
      ParticipantOverlap.before ParticipantOverlap.gone ∧ ¬ ParticipantOverlap.gone.Resolvable := by
  refine ⟨ParticipantOverlap.reached_gone, ?_⟩
  intro resolvable
  have there := resolvable ParticipantOverlap.planned (List.mem_cons_self ..) ⟨1⟩
    (List.mem_cons_self ..)
  exact absurd there (by decide +kernel)

end PurchaseAgent
