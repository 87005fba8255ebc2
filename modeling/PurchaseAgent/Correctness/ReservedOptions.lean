import PurchaseAgent.Correctness.StatusEdges

/-!
What is reserved was selected. No service awaits anything between the selection
of an option and the call of `reserve_option`, so in every interleaving the
option of such a call is the best the same task's search offered, under the
constraints the mission has at that moment.
-/

namespace PurchaseAgent

open Cooperative Cooperative.Discipline InMemoryMissionRepository Service

variable {σ : Type}

/-- A search of the task for this mission offered the option, and it is the best
of the options offered then. -/
def Selected (w : MemoryWorld σ) (t : TaskId) (r : Ref) (option : ProviderOption) : Prop :=
  ∃ providerId identities options,
    (t, Event.answered (w.mission r).id (.searchOptions providerId identities) (.ok options)) ∈
      w.trace ∧ Best options (w.mission r) option

/-- An operation that reserves does so for a selected option. -/
def ReservesSelected (t : TaskId) (o : Op memory) (w : MemoryWorld σ) : Prop :=
  ∀ r providerId option key, o = .call r (.reserveOption providerId option key) →
    Selected w t r option

/-- Ids stay and the trace grows, whatever anyone does. -/
structure Goes (w w' : MemoryWorld σ) : Prop where
  ids : ∀ r, (w'.mission r).id = (w.mission r).id
  trace : ∀ event ∈ w.trace, event ∈ w'.trace

theorem Goes.trans {w₁ w₂ w₃ : MemoryWorld σ} (h : Goes w₁ w₂) (k : Goes w₂ w₃) : Goes w₁ w₃ :=
  ⟨fun r => (k.ids r).trans (h.ids r), fun event member => k.trace event (h.trace event member)⟩

theorem Goes.refl (w : MemoryWorld σ) : Goes w w := ⟨fun _ => rfl, fun _ => id⟩

variable {env : Environment σ}

variable (env) in
def selection : Discipline (machine memory env) where
  rely _ w w' := Goes w w'
  guarantee t o w _ := ReservesSelected t o w
  rely_refl _ w := .refl w
  rely_trans _ _ _ _ h k := h.trans k

theorem reservesSelected_of_uses {t : TaskId} {o : Op memory} {known : Ref → Prop}
    (uses : o.Uses known fun c => c.reserves = false) (w : MemoryWorld σ) :
    ReservesSelected t o w := by
  rintro r providerId option key rfl
  cases uses.2

variable {t : TaskId} {r : Ref} {w : MemoryWorld σ}

/-- Services without reservations are within the discipline. -/
theorem safe_of_keeps {α : Type} {post : α → Prop} {p : Service memory α}
    (h : Keeps (fun _ => True) (fun c => c.reserves = false) post p) (w : MemoryWorld σ) :
    (selection env).Safe t (fun _ _ => True) p.run w := by
  have anything : ∀ (o : Op memory) (answer : o.Answer), o.Hands (fun _ => True) answer := by
    intro o answer
    cases o with
    | repository o => cases o <;> simp only [Op.Hands, implies_true]
    | _ => trivial
  change (selection env).Safe t (fun _ _ => True) p.run w
  unfold Service.Keeps at h
  revert h
  generalize p.run = q
  intro h
  induction q generalizing w with
  | pure a => trivial
  | op o next ih =>
      intro w' _ _
      exact ⟨reservesSelected_of_uses h.1 w', ih _ _ (h.2 _ (anything o _))⟩

/-- What a run needs to know of its mission between the search and the reservation. -/
def SameRules (before after : Mission) : Prop :=
  after.id = before.id ∧ after.constraints = before.constraints ∧
    after.fallbackRules = before.fallbackRules

/-- The property survives changes of the mission that leave its rules alone. -/
def Stable (r : Ref) (P : MemoryWorld σ → Prop) : Prop :=
  ∀ w w', w'.trace = w.trace → SameRules (w.mission r) (w'.mission r) → P w → P w'

/-- A search of the task for this mission returned the options. -/
def Offered (t : TaskId) (r : Ref) (options : List ProviderOption) (w : MemoryWorld σ) : Prop :=
  ∃ providerId identities,
    (t, Event.answered (w.mission r).id (.searchOptions providerId identities) (.ok options)) ∈
      w.trace

theorem stable_offered (t : TaskId) (r : Ref) (options : List ProviderOption) :
    Stable r (Offered (σ := σ) t r options) := by
  rintro w w' trace ⟨id, -, -⟩ ⟨providerId, identities, answered⟩
  exact ⟨providerId, identities, by rw [trace, id]; exact answered⟩

theorem stable_selected (t : TaskId) (r : Ref) (option : ProviderOption) :
    Stable r fun w : MemoryWorld σ => Selected w t r option := by
  rintro w w' trace ⟨id, constraints, fallbackRules⟩ ⟨providerId, identities, options, answered, best⟩
  exact ⟨providerId, identities, options, by rw [trace, id]; exact answered,
    best.of_same_rules constraints fallbackRules⟩

section Operations
variable {P : MemoryWorld σ → Prop}

theorem sameRules_refl (mission : Mission) : SameRules mission mission := ⟨rfl, rfl, rfl⟩

theorem safe_transition_of_stable (stable : Stable r P) (h : P w) (target : MissionStatus)
    (options : MissionStateMachine.Options) :
    (selection env).Safe t (fun _ => P) (transition r target options).run w := by
  refine (safe_transition (B := memory) w r _ _ _).mpr
    ⟨fun mission ok => ⟨by simp [selection, ReservesSelected], ?_⟩,
      fun error _ => ⟨by simp [selection, ReservesSelected], h⟩⟩
  obtain ⟨-, rfl⟩ := MissionStateMachine.transition_ok ok
  exact stable w _ rfl (by simp [SameRules]) h

theorem safe_bestOption_of_stable (stable : Stable r P) (h : P w) (option : Option ProviderOption) :
    (selection env).Safe t (fun _ => P) (assign r (.bestOption option)).run w :=
  (safe_assign (B := memory) w r _ _).mpr ⟨by simp [selection, ReservesSelected],
    stable w _ rfl (by simp [SameRules, Mission.assign]) h⟩

theorem safe_recordEvent_of_stable (stable : Stable r P) (h : P w) (timestamp : Time)
    (eventType message : String) (metadata : List (String × PyValue)) :
    (selection env).Safe t (fun _ => P)
      (recordEvent r timestamp eventType message metadata).run w := by
  refine (safe_recordEvent (B := memory) w r _ _ _ _ _).mpr
    ⟨fun mission ok => ⟨by simp [selection, ReservesSelected], ?_⟩,
      fun error _ => ⟨by simp [selection, ReservesSelected],
        stable w _ rfl (sameRules_refl _) h⟩⟩
  obtain ⟨-, rfl⟩ := Mission.recordEvent_ok ok
  exact stable w _ rfl (by simp [SameRules]) h

theorem safe_addEvent_of_stable (stable : Stable r P) (h : P w) (eventType message : String)
    (metadata : List (String × PyValue)) :
    (selection env).Safe t (fun _ => P) (addEvent r eventType message metadata).run w := by
  refine (safe_run_bind _ _ _ _).mpr ((safe_utcNow (B := memory) w _).mpr
    ⟨by simp [selection, ReservesSelected], ?_⟩)
  dsimp only
  refine safe_recordEvent_of_stable stable ?_ _ _ _ _
  exact stable w _ rfl (sameRules_refl _) h

/-- `if c: p` before the rest of a service. -/
theorem safe_unless {α : Type} {c : Prop} [Decidable c] {p : Service memory Unit}
    {rest : Unit → Service memory α} (hp : c → (selection env).Safe t (fun _ => P) p.run w)
    (h : P w) (hrest : ∀ u w', P w' → (selection env).Safe t (fun _ _ => True) (rest u).run w') :
    (selection env).Safe t (fun _ _ => True) (if c then p >>= rest else rest ()).run w := by
  split
  · exact safe_seq (hp ‹_›) hrest fun _ _ _ => trivial
  · exact hrest () w h

theorem selection_read_then {α : Type} {Q : Except PyException α → MemoryWorld σ → Prop}
    {f : Mission → Service memory α} (h : (selection env).Safe t Q (f (w.mission r)).run w) :
    (selection env).Safe t Q (read r >>= f).run w :=
  (safe_run_bind _ _ _ _).mpr ((safe_read (B := memory) w r _).mpr
    ⟨by simp [selection, ReservesSelected], h⟩)

end Operations

/-! From the answer of the search to the reservation. -/

theorem safe_callProvider {call : ProviderCall} {handler : Bool → Service memory Ref}
    {proceed : call.Answer → Service memory Ref}
    (enters : ReservesSelected t (.call r call) w)
    (handled : ∀ retryable, Keeps (fun _ => True) (fun c => c.reserves = false) (fun _ => True)
      (handler retryable))
    (proceeds : ∀ answer w', (t, Event.answered (w'.mission r).id call (.ok answer)) ∈ w'.trace →
      (selection env).Safe t (fun _ _ => True) (proceed answer).run w') :
    (selection env).Safe t (fun _ _ => True) (callProvider r call handler proceed).run w := by
  refine safe_then (P := fun x w' => ∀ answer, x = .ok answer →
      (t, Event.answered (w'.mission r).id call (.ok answer)) ∈ w'.trace)
    ((safe_attempt (B := memory) w _ _).mpr ?_) ?_
  · refine (safe_provider (B := memory) w r call _).mpr ⟨enters, fun w₁ _ => ?_⟩
    refine ⟨by simp [selection, ReservesSelected], fun w₂ goes => ?_⟩
    refine ⟨by simp [selection, ReservesSelected], fun answer same => ?_⟩
    rw [goes.ids r]
    refine goes.trace _ ?_
    rw [← same]
    exact List.mem_append_right _ (List.mem_singleton_self _)
  · rintro (error | answer) w' answered
    · cases retryable : error.retryable? with
      | some flag => simpa only [retryable] using safe_of_keeps (handled flag) w'
      | none => simp only [retryable]; trivial
    · exact proceeds answer w' (answered answer rfl)

theorem safe_reserveBest (providerId : String) (best : ScoredOption) (mission : Mission)
    (h : Selected w t r best.option) :
    (selection env).Safe t (fun _ _ => True)
      (reserveBest inMemoryMissionRepository r providerId best mission).run w := by
  refine safe_callProvider ?_ (fun _ => ?_) fun result w' _ => ?_
  · rintro r' providerId' option key same
    cases same
    exact h
  · exact keeps_mono (fun _ _ => trivial) (keeps_failProviderOperation trivial _ _ _)
  · split
    · exact safe_of_keeps (keeps_concludeMission trivial _ _ _ _) w'
    · trivial
    · exact safe_of_keeps (keeps_reservationMade (fun _ => id) trivial _ _ _) w'

theorem safe_bestSelected (providerId : String) (isProcessingRun : Bool) (best : ScoredOption)
    (h : Selected w t r best.option) :
    (selection env).Safe t (fun _ _ => True)
      (bestSelected inMemoryMissionRepository r providerId isProcessingRun best).run w := by
  have stable := stable_selected (σ := σ) t r best.option
  unfold bestSelected
  refine safe_unless (fun _ => safe_transition_of_stable stable h _ _) h fun _ _ h => ?_
  refine safe_seq (safe_bestOption_of_stable stable h _) (fun _ _ h => ?_) fun _ _ _ => trivial
  refine safe_seq (safe_addEvent_of_stable stable h _ _ _) (fun _ w' h => ?_) fun _ _ _ => trivial
  refine selection_read_then ?_
  split
  · exact safe_of_keeps (keeps_concludeMission trivial _ _ _ _) w'
  · refine safe_unless (fun _ => safe_transition_of_stable stable h _ _) h fun _ _ h => ?_
    refine safe_seq (safe_addEvent_of_stable stable h _ _ _) (fun _ _ h => ?_) fun _ _ _ => trivial
    exact safe_reserveBest _ _ _ h

theorem safe_optionsFound (providerId : String) (isProcessingRun : Bool)
    (options : List ProviderOption) (h : Offered t r options w) :
    (selection env).Safe t (fun _ _ => True)
      (optionsFound inMemoryMissionRepository r providerId isProcessingRun options).run w := by
  refine safe_seq (safe_addEvent_of_stable (stable_offered t r options) h _ _ _)
    (fun _ w' h => ?_) fun _ _ _ => trivial
  refine selection_read_then ?_
  split
  · exact safe_of_keeps (keeps_concludeMission trivial _ _ _ _) w'
  · rename_i best selected
    obtain ⟨providerId, identities, answered⟩ := h
    exact safe_bestSelected _ _ _
      ⟨providerId, identities, options, answered, selectBest_some selected⟩

/-! The services that search. -/

theorem safe_anywhere {α β : Type} {p : Service memory α} {f : α → Service memory β}
    (hp : Keeps (fun _ => True) (fun c => c.reserves = false) (fun _ => True) p)
    (hf : ∀ a w', (selection env).Safe t (fun _ _ => True) (f a).run w') (w : MemoryWorld σ) :
    (selection env).Safe t (fun _ _ => True) (p >>= f).run w :=
  safe_seq (safe_of_keeps hp w) (fun a w' _ => hf a w') fun _ _ _ => trivial

theorem safe_participantsFound (providerId : String) (isProcessingRun : Bool)
    (identities : List Identity) (w : MemoryWorld σ) :
    (selection env).Safe t (fun _ _ => True)
      (participantsFound inMemoryMissionRepository r providerId isProcessingRun identities).run
        w := by
  refine safe_anywhere (by simp) (fun mission w => ?_) w
  split
  · exact safe_of_keeps (keeps_concludeMission trivial _ _ _ _) w
  · refine safe_anywhere (by simp) (fun _ w => ?_) w
    refine safe_unless (P := fun _ => True)
      (fun _ => safe_transition_of_stable (fun _ _ _ _ h => h) trivial _ _) trivial fun _ w _ => ?_
    refine safe_anywhere (by simp) (fun _ w => ?_) w
    refine safe_callProvider (fun _ _ _ _ same => by cases same) (fun _ => ?_)
      fun options w' answered => ?_
    · exact keeps_mono (fun _ _ => trivial) (keeps_failProviderOperation trivial _ _ _)
    · exact safe_optionsFound _ _ _ ⟨_, _, answered⟩

theorem safe_startMission (providerId : String) (w : MemoryWorld σ) :
    (selection env).Safe t (fun _ _ => True)
      (startMission inMemoryMissionRepository r providerId).run w := by
  refine safe_anywhere (by simp) (fun mission w => ?_) w
  refine safe_unless (P := fun _ => True)
    (fun _ => safe_transition_of_stable (fun _ _ _ _ h => h) trivial _ _) trivial fun _ w _ => ?_
  exact safe_anywhere (keeps_getParticipants _) (fun _ w => safe_participantsFound _ _ _ w) w

theorem safe_providerResolved (adapter : ProviderAdapter) (w : MemoryWorld σ) :
    (selection env).Safe t (fun _ _ => True)
      (providerResolved inMemoryMissionRepository r adapter).run w := by
  refine safe_anywhere (by simp) (fun _ w => ?_) w
  refine safe_anywhere (by simp) (fun mission w => ?_) w
  refine safe_anywhere (by simp) (fun metadata w => ?_) w
  refine safe_anywhere (by simp) (fun _ w => ?_) w
  exact safe_anywhere (by simp) (fun _ w => safe_startMission _ w) w

theorem safe_runMission (registry : ProviderRegistry) (missionId : UUID) (options : RunOptions)
    (w : MemoryWorld σ) :
    (selection env).Safe t (fun _ _ => True)
      (runMission inMemoryMissionRepository registry missionId options).run w := by
  refine safe_anywhere (by simp) (fun found w => ?_) w
  split
  · trivial
  · refine safe_anywhere (by simp) (fun mission w => ?_) w
    split
    · trivial
    · refine safe_anywhere (by simp) (fun now w => ?_) w
      refine safe_anywhere (keeps_expireMissionIfDue trivial now) (fun expired w => ?_) w
      split
      · trivial
      · refine safe_anywhere (by simp) (fun mission w => ?_) w
        split
        · trivial
        · split
          · exact safe_of_keeps (keeps_providerResolutionFailed trivial _ _) w
          · exact safe_providerResolved _ w

theorem safe_processClaimedMission (registry : ProviderRegistry) (currentTime : Time)
    (policy : MissionRetryPolicy) (result : DueMissionProcessingResult) (w : MemoryWorld σ) :
    (selection env).Safe t (fun _ _ => True)
      (processClaimedMission inMemoryMissionRepository registry currentTime policy r result).run
        w := by
  refine safe_anywhere (by simp) (fun mission w => ?_) w
  refine safe_then (P := fun _ _ => True)
    ((safe_attempt (B := memory) w _ _).mpr (safe_runMission _ _ _ w)) ?_
  rintro (exc | updated) w -
  · dsimp only
    split
    · trivial
    · exact safe_of_keeps (keeps_handleFailedRun trivial _ _ _ _ _) w
  · exact safe_of_keeps (keeps_handleFinishedRun trivial _ _ _) w

theorem safe_processClaimedMissions_anywhere (registry : ProviderRegistry) (currentTime : Time)
    (policy : MissionRetryPolicy) (rs : List Ref) (result : DueMissionProcessingResult)
    (w : MemoryWorld σ) :
    (selection env).Safe t (fun _ _ => True)
      (processClaimedMissions inMemoryMissionRepository registry currentTime policy rs result).run
        w := by
  induction rs generalizing result w with
  | nil => trivial
  | cons r rest ih =>
      exact safe_seq (safe_processClaimedMission registry currentTime policy result w)
        (fun result w _ => ih result w) fun _ _ _ => trivial

theorem safe_command (registry : ProviderRegistry) (command : Command) (w : MemoryWorld σ) :
    (selection env).Safe t (fun _ _ => True)
      (command.service inMemoryMissionRepository registry).run w := by
  by_cases reserves : command.reserves = true
  · cases command with
    | runMission missionId options =>
        exact safe_seq (safe_runMission registry missionId options w) (fun _ _ _ => trivial)
          fun _ _ _ => trivial
    | processDueMissions currentTime limit policy =>
        refine safe_seq (R := fun _ _ => True) ?_ (fun _ _ _ => trivial) fun _ _ _ => trivial
        refine safe_anywhere (keeps_mono (fun _ _ => trivial) (keeps_expireDueMissions _ _))
          (fun expired w => ?_) w
        refine safe_anywhere (keeps_mono (fun _ _ => trivial) (keeps_claimDue _ _))
          (fun claimed w => ?_) w
        refine safe_anywhere (keeps_missionIds _ fun _ _ => trivial) (fun ids w => ?_) w
        exact safe_processClaimedMissions_anywhere _ _ _ _ _ w
    | _ => cases reserves
  · refine safe_of_keeps (keeps_service registry command fun c allowed => ?_) w
    by_contra other
    exact reserves (allowed (by simpa using other))

/-! What every operation does to ids and to the trace. -/

theorem trace_memory (w : MemoryWorld σ) (t : TaskId) (o : MemoryOp) :
    ∀ event ∈ w.trace, event ∈ (o.exec env t w).2.trace := by
  cases o with
  | create | get => exact fun _ => id
  | update r =>
      simp only [MemoryOp.exec, InMemoryMissionRepository.update]
      split
      · exact fun _ => id
      · rename_i synchronized
        obtain ⟨attempts, rfl⟩ := synchronizeAttempt_ok synchronized
        exact fun _ => id
  | claimDue currentTime limit =>
      simp only [MemoryOp.exec, InMemoryMissionRepository.claimDue]
      split
      · exact fun _ => id
      · exact forEach_trace (claim_trace t currentTime) _ w
  | expireDue currentTime limit =>
      simp only [MemoryOp.exec, InMemoryMissionRepository.expireDue]
      split
      · exact fun _ => id
      · exact forEach_trace (expire_trace env currentTime) _ w
  | recoverStaleProcessing currentTime claimTimeout limit =>
      simp only [MemoryOp.exec, InMemoryMissionRepository.recoverStaleProcessing]
      split
      · exact fun _ => id
      · split
        · exact fun _ => id
        · split
          · exact fun _ => id
          · exact forEach_trace (recover_trace env currentTime) _ w

theorem trace_exec (w : MemoryWorld σ) (t : TaskId) (o : Op memory) :
    ∀ event ∈ w.trace, event ∈ (o.exec env t w).2.trace := by
  cases o with
  | transition r target options =>
      simp only [Op.exec]
      cases MissionStateMachine.transition (w.mission r) target options <;> exact fun _ => id
  | recordEvent r timestamp eventType message metadata =>
      simp only [Op.exec]
      cases (w.mission r).recordEvent (env.newEventId w.idsDrawn) timestamp eventType message
        metadata <;> exact fun _ => id
  | call | request => exact fun _ => List.mem_append_left _
  | repository o => exact trace_memory w t o
  | _ => exact fun _ => id

/-- What the choice performs leaves ids alone and adds to the trace. -/
def StepGoes (env : Environment σ) (c : CommandConfig σ) (t : TaskId) : Prop :=
  ∀ o, c.Performs (machine memory env) t o → Goes c.shared (o.exec env t c.shared).2

theorem Ordered.stepGoes {w : MemoryWorld σ} {c : CommandConfig σ} (ordered : Ordered w c)
    (t : TaskId) : StepGoes env c t := fun o performs =>
  ⟨(ordered.operationStep performs).ids, trace_exec c.shared t o⟩

/-- The option of every reservation call was selected for the mission as it is. -/
def ReservationsSelected (env : Environment σ) (c : CommandConfig σ) (t : TaskId) : Prop :=
  ∀ r providerId option key,
    c.Performs (machine memory env) t (.call r (.reserveOption providerId option key)) →
      Selected c.shared t r option

/-- In every run, an option is reserved only if the mission's constraints on the
toilet and on compartments allow it and no such option on offer scores higher. -/
theorem reservations_selected (env : Environment σ) (registry : ProviderRegistry)
    (commands : TaskId → Command) (w : MemoryWorld σ) (consistent : Consistent w)
    (sched : List TaskId) :
    (startCommands registry commands w).Along (machine memory env) (ReservationsSelected env)
      sched := by
  have goes : ∀ (sched : List TaskId) (c : CommandConfig σ), Ordered w c →
      c.AlongRest (machine memory env) (fun c t _ => StepGoes env c t) sched := by
    intro sched
    induction sched with
    | nil => exact fun _ _ => trivial
    | cons t rest ih => exact fun c ordered => ⟨ordered.stepGoes t, ih _ (ordered.step t)⟩
  have pool : (selection env).Pool (fun _ _ _ => True) (· ∈ sched)
      (startCommands registry commands w) :=
    fun t _ => ⟨fun _ _ => trivial, nofun, fun _ _ w' _ => safe_command registry (commands t) w'⟩
  obtain ⟨-, along⟩ := Discipline.Pool.along (I := fun _ => True) (fun _ _ _ _ _ _ => trivial)
    (fun c t rest o _ _ goes performs _ other _ _ =>
      ⟨fun _ => goes o performs, fun _ _ _ => trivial⟩)
    sched pool trivial (goes sched _ (ordered_startCommands consistent registry commands))
  refine Config.along_mono _ (fun c t ⟨_, guarantees⟩ r providerId option key performs => ?_) _ _
    along
  exact guarantees _ performs r providerId option key rfl

/-! An option above the mission's price limit. -/

/-- Everything a mission's constraints ask of an option. -/
structure SatisfiesConstraints (mission : Mission) (option : ProviderOption) : Prop where
  price : ∀ maximum, mission.constraints.maxTotalPrice = some maximum → option.totalPrice ≤ maximum
  lowerBerths : ∀ minimum, mission.constraints.minLowerBerths = some minimum →
    minimum ≤ option.countLowerBerths
  passengers : (option.seats.length : Int) = mission.constraints.passengersCount
  acceptable : Acceptable mission option

theorem not_satisfiesConstraints {mission : Mission} {option : ProviderOption} {maximum : Int}
    (limit : mission.constraints.maxTotalPrice = some maximum)
    (exceeds : maximum < option.totalPrice) : ¬ SatisfiesConstraints mission option :=
  fun h => absurd (h.price maximum limit) (not_le.mpr exceeds)

namespace OverBudget

def mission : Mission :=
  { Sample.mission with
    constraints := { Sample.mission.constraints with maxTotalPrice := some 50 } }

def environment : Environment Unit := .withProviders (Sample.accepting [Sample.option ⟨1⟩ 100])

def start : CommandConfig Unit :=
  startCommands Sample.registry (fun _ => .runMission ⟨7⟩ { currentTime := some 1 })
    (initialWorld [mission] mission ())

theorem pending_reserve :
    ((start.run (machine memory environment) (List.replicate 32 0)).pending
      (machine memory environment) 0).bind Op.entered =
      some (0, .reserveOption "mock_train" (Sample.option ⟨1⟩ 100)
        (reservationIdempotencyKey mission)) := by
  decide +kernel

theorem maxTotalPrice_kept :
    ((start.run (machine memory environment) (List.replicate 32 0)).shared.mission
      0).constraints.maxTotalPrice = some 50 := by
  decide +kernel

theorem performs_reserve :
    (start.run (machine memory environment) (List.replicate 32 0)).Performs
      (machine memory environment) 0 (.call 0 (.reserveOption "mock_train" (Sample.option ⟨1⟩ 100)
        (reservationIdempotencyKey mission))) :=
  performs_call pending_reserve

end OverBudget

/-- An option of price 100 is reserved for a mission that allows 50. -/
theorem over_budget_option_reserved :
    ¬ ∀ (σ : Type) (env : Environment σ) (registry : ProviderRegistry)
      (commands : TaskId → Command) (w : MemoryWorld σ), Consistent w → ∀ sched : List TaskId,
      (startCommands registry commands w).Along (machine memory env)
        (fun c t => ∀ r providerId option key,
          c.Performs (machine memory env) t (.call r (.reserveOption providerId option key)) →
          SatisfiesConstraints (c.shared.mission r) option) sched := by
  intro claim
  have along := claim Unit OverBudget.environment Sample.registry
    (fun _ => .runMission ⟨7⟩ { currentTime := some 1 })
    (initialWorld [OverBudget.mission] OverBudget.mission ())
    (consistent_initialWorld _ _ _ (by decide)) (List.replicate 32 0 ++ [0])
  rw [Config.along_append] at along
  exact not_satisfiesConstraints OverBudget.maxTotalPrice_kept (by decide)
    (along.2.1 _ _ _ _ OverBudget.performs_reserve)

/-- The run of the mission with the price limit. -/
theorem reservations_selected_over_budget :
    OverBudget.start.Along (machine memory OverBudget.environment)
      (ReservationsSelected OverBudget.environment) (List.replicate 40 0) :=
  reservations_selected OverBudget.environment Sample.registry _ _
    (consistent_initialWorld _ _ _ (by decide)) _

end PurchaseAgent
