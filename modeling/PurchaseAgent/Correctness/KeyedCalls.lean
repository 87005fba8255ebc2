import PurchaseAgent.Correctness.StatusEdges
import PurchaseAgent.Correctness.WellFormed

/-!
The idempotency keys of the provider calls. The engine derives the key of a
reservation, of a confirmation and of a cancellation from the id of the mission
alone, and ids never change. So in every interleaving each call, and each answer
that a provider gives, goes with the key of the mission that it is made for.
-/

namespace PurchaseAgent

open Cooperative InMemoryMissionRepository Service

variable {σ : Type}

/-- The call carries the key of this mission for its operation. -/
def ProviderCall.KeyedBy (missionId : UUID) : ProviderCall → Prop
  | .searchOptions .. => True
  | .reserveOption _ _ key => key = s!"mission:{missionId.str}"
  | .confirmReservation _ _ key => key = s!"mission:{missionId.str}:confirmation"
  | .cancelReservation _ _ key => key = s!"mission:{missionId.str}:cancellation"

/-- An entry of the trace about a call has the key of the mission it names. -/
def Event.Keyed : Event → Prop
  | .claimed .. => True
  | .called missionId call => call.KeyedBy missionId
  | .answered missionId call _ => call.KeyedBy missionId

/-! The key of every call a service makes, when missions keep the given ids. -/

section Walk
variable (ids : Ref → UUID)

/-- A mission that is read has its id. -/
def Op.ReadsId : (o : Op memory) → o.Answer → Prop
  | .read r, (mission : Mission) => mission.id = ids r
  | _, _ => True

def Op.CallsKeyed : Op memory → Prop
  | .call r c | .request r c => c.KeyedBy (ids r)
  | _ => True

/-- Every call of the service carries the key of its mission. -/
def Service.Keyed {α : Type} (p : Service memory α) : Prop :=
  p.run.Each (F := signature memory) (Op.ReadsId ids) (Op.CallsKeyed ids) fun _ => True

variable {ids} {r : Ref} {α β : Type}

theorem keyed_pure (a : α) : Keyed ids (pure a : Service memory α) := trivial

theorem keyed_throw (error : PyException) : Keyed ids (throw error : Service memory α) := trivial

theorem keyed_bind {p : Service memory α} {f : α → Service memory β} (hp : Keyed ids p)
    (hf : ∀ a, Keyed ids (f a)) : Keyed ids (p >>= f) := by
  refine (Prog.each_bind _ p.run _).mpr (Prog.each_mono ?_ p.run hp)
  intro result _
  cases result with
  | error error => trivial
  | ok a => exact hf a

theorem keyed_read {f : Mission → Service memory α}
    (h : ∀ mission, mission.id = ids r → Keyed ids (f mission)) :
    Keyed ids (read r >>= f) :=
  ⟨trivial, h⟩

/-- Services that at most search have no key to get wrong. -/
theorem keyed_of_keeps {post : α → Prop} {p : Service memory α}
    (h : Keeps (fun _ => True) (fun c => ∀ id, c.KeyedBy id) post p) : Keyed ids p := by
  unfold Service.Keyed
  unfold Service.Keeps at h
  generalize p.run = q at h
  induction q with
  | pure a => trivial
  | op o next ih =>
      obtain ⟨uses, each⟩ := h
      refine ⟨?_, fun answer _ => ih answer (each answer ?_)⟩
      · cases o with
        | call r c => exact uses.2 _
        | request r c => exact uses.2 _
        | _ => trivial
      · cases o with
        | repository o => cases o <;> simp only [Op.Hands, implies_true]
        | _ => trivial

theorem keyed_callProvider {call : ProviderCall} {handler : Bool → Service memory Ref}
    {proceed : call.Answer → Service memory Ref} (key : call.KeyedBy (ids r))
    (handled : ∀ retryable, Keyed ids (handler retryable))
    (proceeds : ∀ answer, Keyed ids (proceed answer)) :
    Keyed ids (callProvider r call handler proceed) := by
  refine keyed_bind ⟨key, fun _ _ => ⟨key, fun _ _ => ⟨trivial, fun _ _ => trivial⟩⟩⟩ ?_
  intro answer
  cases answer with
  | ok answer => exact proceeds answer
  | error error =>
      cases retryable : error.retryable? with
      | none => simpa only [retryable] using keyed_throw error
      | some flag => simpa only [retryable] using handled flag

theorem keyed_failProviderOperation (providerId operation : String) (retryable : Bool) :
    Keyed ids
      (failProviderOperation inMemoryMissionRepository r providerId operation retryable) :=
  keyed_of_keeps (keeps_failProviderOperation trivial _ _ _)

theorem keyed_concludeMission (target : MissionStatus) (eventType message : String)
    (metadata : List (String × PyValue)) :
    Keyed ids (concludeMission inMemoryMissionRepository r target eventType message metadata) :=
  keyed_of_keeps (keeps_concludeMission trivial _ _ _ _)

theorem keyed_addEvent (eventType message : String) (metadata : List (String × PyValue)) :
    Keyed ids (addEvent (B := memory) r eventType message metadata) :=
  keyed_of_keeps ((keeps_addEvent r (fun _ => True) _ _ _).mpr ⟨trivial, trivial⟩)

theorem keyed_assign (assignment : Assignment) :
    Keyed ids (assign (B := memory) r assignment) :=
  keyed_of_keeps ((keeps_assign r (fun _ => True) _).mpr ⟨trivial, trivial⟩)

theorem keyed_transition (target : MissionStatus) (options : MissionStateMachine.Options) :
    Keyed ids (transition (B := memory) r target options) :=
  keyed_of_keeps ((keeps_transition r (fun _ => True) _ _).mpr ⟨trivial, trivial⟩)

theorem keyed_update : Keyed ids (inMemoryMissionRepository.update r) :=
  keyed_of_keeps ((keeps_update (fun _ => True) r).mpr ⟨trivial, fun _ _ => trivial⟩)

/-- `if c: p` before the rest of a service. -/
theorem keyed_when {c : Prop} [Decidable c] {p : Service memory Unit}
    {rest : Unit → Service memory α} (hp : Keyed ids p) (hrest : Keyed ids (rest ())) :
    Keyed ids (if c then p >>= rest else rest ()) := by
  split
  · exact keyed_bind hp fun _ => hrest
  · exact hrest

theorem keyed_missionConfirmed : Keyed ids (missionConfirmed inMemoryMissionRepository r) :=
  keyed_of_keeps (keeps_missionConfirmed trivial)

theorem keyed_completeMission : Keyed ids (completeMission inMemoryMissionRepository r) :=
  keyed_of_keeps (keeps_completeMission trivial)

theorem keyed_reservationMade (providerId : String) (result : ReservationResult)
    (reservationId : String) :
    Keyed ids
      (reservationMade inMemoryMissionRepository r providerId result reservationId) := by
  refine keyed_bind (keyed_assign _) fun _ => keyed_bind (keyed_addEvent _ _ _) fun _ => ?_
  refine keyed_read fun mission id => ?_
  split
  · exact keyed_concludeMission _ _ _ _
  · split
    · refine keyed_bind (keyed_addEvent _ _ _) fun _ => ?_
      refine keyed_callProvider ?_ (keyed_failProviderOperation _ _) fun confirmation => ?_
      · simp only [ProviderCall.KeyedBy, confirmationIdempotencyKey, id]
      · split
        · exact keyed_concludeMission _ _ _ _
        · exact keyed_bind (keyed_addEvent _ _ _) fun _ => keyed_completeMission
    · exact keyed_completeMission

theorem keyed_reserveBest (providerId : String) (best : ScoredOption) (mission : Mission)
    (id : mission.id = ids r) :
    Keyed ids (reserveBest inMemoryMissionRepository r providerId best mission) := by
  refine keyed_callProvider ?_ (keyed_failProviderOperation _ _) fun result => ?_
  · simp only [ProviderCall.KeyedBy, reservationIdempotencyKey, id]
  · split
    · exact keyed_concludeMission _ _ _ _
    · exact keyed_throw _
    · exact keyed_reservationMade _ _ _

theorem keyed_bestSelected (providerId : String) (isProcessingRun : Bool) (best : ScoredOption) :
    Keyed ids (bestSelected inMemoryMissionRepository r providerId isProcessingRun best) := by
  unfold bestSelected
  refine keyed_when (keyed_transition _ _) (keyed_bind (keyed_assign _) fun _ => ?_)
  refine keyed_bind (keyed_addEvent _ _ _) fun _ => keyed_read fun mission id => ?_
  split
  · exact keyed_concludeMission _ _ _ _
  · refine keyed_when (keyed_transition _ _) ?_
    exact keyed_bind (keyed_addEvent _ _ _) fun _ => keyed_reserveBest _ _ _ id

theorem keyed_optionsFound (providerId : String) (isProcessingRun : Bool)
    (options : List ProviderOption) :
    Keyed ids
      (optionsFound inMemoryMissionRepository r providerId isProcessingRun options) := by
  refine keyed_bind (keyed_addEvent _ _ _) fun _ => keyed_read fun mission _ => ?_
  split
  · exact keyed_concludeMission _ _ _ _
  · exact keyed_bestSelected _ _ _

theorem keyed_participantsFound (providerId : String) (isProcessingRun : Bool)
    (identities : List Identity) :
    Keyed ids
      (participantsFound inMemoryMissionRepository r providerId isProcessingRun identities) := by
  refine keyed_read fun mission _ => ?_
  split
  · exact keyed_concludeMission _ _ _ _
  · refine keyed_bind (keyed_addEvent _ _ _) fun _ => keyed_when (keyed_transition _ _) ?_
    refine keyed_bind (keyed_addEvent _ _ _) fun _ => ?_
    exact keyed_callProvider trivial (keyed_failProviderOperation _ _)
      (keyed_optionsFound _ _)

theorem keyed_startMission (providerId : String) :
    Keyed ids (startMission inMemoryMissionRepository r providerId) := by
  refine keyed_read fun mission _ => keyed_when (keyed_transition _ _) ?_
  exact keyed_bind (keyed_of_keeps (keeps_getParticipants _)) fun _ =>
    keyed_participantsFound _ _ _

theorem keyed_providerResolved (adapter : ProviderAdapter) :
    Keyed ids (providerResolved inMemoryMissionRepository r adapter) := by
  refine keyed_bind (keyed_assign _) fun _ => keyed_read fun mission _ => ?_
  refine keyed_bind (keyed_of_keeps (keeps_fromExcept (fun _ => True) _ fun _ => trivial))
    fun metadata => ?_
  refine keyed_bind (keyed_addEvent _ _ _) fun _ => ?_
  exact keyed_bind keyed_update fun _ => keyed_startMission _

theorem keyed_get {f : Option Ref → Service memory α} {missionId : UUID}
    (missing : Keyed ids (f none)) (found : ∀ r, Keyed ids (f (some r))) :
    Keyed ids (inMemoryMissionRepository.get missionId >>= f) := by
  refine keyed_bind (keyed_of_keeps (keeps_get (fun _ => True) _ trivial fun _ _ => trivial)) ?_
  intro stored
  cases stored with
  | none => exact missing
  | some r => exact found r

theorem keyed_runMission (registry : ProviderRegistry) (missionId : UUID)
    (options : RunOptions) :
    Keyed ids (runMission inMemoryMissionRepository registry missionId options) := by
  refine keyed_get (keyed_throw _) fun r => keyed_read fun mission _ => ?_
  split
  · exact keyed_throw _
  · refine keyed_bind (keyed_of_keeps (keeps_orUtcNow (fun _ => True) _ fun _ => trivial))
      fun now => ?_
    refine keyed_bind (keyed_of_keeps (keeps_expireMissionIfDue trivial now)) fun expired => ?_
    split
    · exact keyed_throw _
    · refine keyed_read fun mission _ => ?_
      split
      · exact keyed_throw _
      · split
        · exact keyed_of_keeps (keeps_providerResolutionFailed trivial _ _)
        · exact keyed_providerResolved _

theorem keyed_confirmMission (registry : ProviderRegistry) (missionId : UUID) :
    Keyed ids (confirmMission inMemoryMissionRepository registry missionId) := by
  refine keyed_get (keyed_throw _) fun r => keyed_read fun mission id => ?_
  split
  · exact keyed_throw _
  · split
    · exact keyed_throw _
    · exact keyed_missionConfirmed
    · split
      · exact keyed_throw _
      · refine keyed_bind (keyed_addEvent _ _ _) fun _ => ?_
        refine keyed_callProvider ?_ (keyed_failProviderOperation _ _) fun confirmation => ?_
        · simp only [ProviderCall.KeyedBy, confirmationIdempotencyKey, id]
        · split
          · exact keyed_concludeMission _ _ _ _
          · exact keyed_bind (keyed_addEvent _ _ _) fun _ => keyed_missionConfirmed

theorem keyed_cancelProviderReservation (registry : ProviderRegistry) (mission : Mission)
    (id : mission.id = ids r) :
    Keyed ids (cancelProviderReservation inMemoryMissionRepository registry r mission) := by
  unfold cancelProviderReservation
  split
  · exact keyed_throw _
  · exact keyed_concludeMission _ _ _ _
  · split
    · exact keyed_throw _
    · refine keyed_bind (keyed_addEvent _ _ _) fun _ => ?_
      refine keyed_callProvider ?_
        (fun _ => keyed_bind (keyed_failProviderOperation _ _ _) fun _ => keyed_pure r)
        fun cancellation => ?_
      · simp only [ProviderCall.KeyedBy, cancellationIdempotencyKey, id]
      · split
        · exact keyed_bind (keyed_concludeMission _ _ _ _) fun _ => keyed_pure r
        · exact keyed_bind (keyed_addEvent _ _ _) fun _ => keyed_concludeMission _ _ _ _

theorem keyed_cancelMission (registry : ProviderRegistry) (missionId : UUID) :
    Keyed ids (cancelMission inMemoryMissionRepository registry missionId) := by
  refine keyed_get (keyed_throw _) fun r => keyed_read fun mission id => ?_
  split
  · exact keyed_throw _
  · split
    · exact keyed_cancelProviderReservation _ _ id
    · exact keyed_concludeMission _ _ _ _

theorem keyed_attempt {p : Service memory α} (h : Keyed ids p) : Keyed ids (attempt p) :=
  (Prog.each_bind _ p.run _).mpr (Prog.each_mono (fun _ _ => trivial) p.run h)

theorem keyed_processClaimedMission (registry : ProviderRegistry) (currentTime : Time)
    (policy : MissionRetryPolicy) (result : DueMissionProcessingResult) :
    Keyed ids
      (processClaimedMission inMemoryMissionRepository registry currentTime policy r result) := by
  refine keyed_read fun mission _ => keyed_bind (keyed_attempt (keyed_runMission _ _ _)) ?_
  intro outcome
  cases outcome with
  | ok updated => exact keyed_of_keeps (keeps_handleFinishedRun trivial _ _ _)
  | error exc =>
      dsimp only
      split
      · exact keyed_throw _
      · exact keyed_of_keeps (keeps_handleFailedRun trivial _ _ _ _ _)

theorem keyed_processClaimedMissions (registry : ProviderRegistry) (currentTime : Time)
    (policy : MissionRetryPolicy) (rs : List Ref) (result : DueMissionProcessingResult) :
    Keyed ids
      (processClaimedMissions inMemoryMissionRepository registry currentTime policy rs
        result) := by
  induction rs generalizing result with
  | nil => exact keyed_pure _
  | cons r rest ih => exact keyed_bind (keyed_processClaimedMission _ _ _ _) ih

theorem keyed_processDueMissions (registry : ProviderRegistry) (currentTime : Time) (limit : Int)
    (policy : MissionRetryPolicy) :
    Keyed ids
      (processDueMissions inMemoryMissionRepository registry currentTime limit policy) := by
  refine keyed_bind (keyed_of_keeps (keeps_mono (fun _ _ => trivial) (keeps_expireDueMissions _ _)))
    fun expired => ?_
  refine keyed_bind (keyed_of_keeps (keeps_claimDue _ _)) fun claimed => ?_
  refine keyed_bind (keyed_of_keeps (keeps_missionIds _ fun _ _ => trivial)) fun expiredIds => ?_
  exact keyed_processClaimedMissions _ _ _ _ _

theorem keyed_command (registry : ProviderRegistry) (command : Command) :
    Keyed ids (command.service inMemoryMissionRepository registry) := by
  have discard : ∀ {α : Type} {p : Service memory α}, Keyed ids p →
      Keyed ids (Command.service.discard p) := fun hp => keyed_bind hp fun _ => keyed_pure ()
  cases command with
  | runMission => exact discard (keyed_runMission _ _ _)
  | confirmMission => exact discard (keyed_confirmMission _ _)
  | cancelMission => exact discard (keyed_cancelMission _ _)
  | pauseMission => exact discard (keyed_of_keeps (keeps_pauseMission _))
  | resumeMission => exact discard (keyed_of_keeps (keeps_resumeMission _))
  | scheduleMission => exact discard (keyed_of_keeps (keeps_scheduleMission _ _ _))
  | updateMission => exact discard (keyed_of_keeps (keeps_updateMission _ _ _))
  | retryMission => exact discard (keyed_of_keeps (keeps_retryMission _ _))
  | expireDue => exact discard (keyed_of_keeps (keeps_expireDueMissions _ _))
  | recoverStaleProcessing => exact discard (keyed_of_keeps (keeps_recoverStaleProcessing _ _ _))
  | processDueMissions => exact discard (keyed_processDueMissions _ _ _ _)

end Walk

/-! Which operations go to a provider. -/

/-- Nothing happens outside, and only claims are added to the trace. -/
structure Unheard (w w' : MemoryWorld σ) : Prop where
  outside : w'.outside = w.outside
  trace : ∃ events, w'.trace = w.trace ++ events ∧ ∀ event ∈ events, event.2.isClaim = true

theorem Unheard.same {w w' : MemoryWorld σ} (outside : w'.outside = w.outside)
    (trace : w'.trace = w.trace) : Unheard w w' :=
  ⟨outside, [], by simp [trace], by simp⟩

theorem Unheard.trans {w₁ w₂ w₃ : MemoryWorld σ} (h : Unheard w₁ w₂) (k : Unheard w₂ w₃) :
    Unheard w₁ w₃ := by
  obtain ⟨first, grown, quiet⟩ := h.trace
  obtain ⟨second, grown', quiet'⟩ := k.trace
  refine ⟨k.outside.trans h.outside, first ++ second, ?_, ?_⟩
  · rw [grown', grown, List.append_assoc]
  · intro event member
    exact (List.mem_append.mp member).elim (quiet event) (quiet' event)

theorem unheard_forEach {body : Ref → MemoryWorld σ → Except PyException Unit × MemoryWorld σ}
    (each : ∀ r w, Unheard w (body r w).2) (selected : List Ref) (w : MemoryWorld σ) :
    Unheard w (forEach body selected w).2 := by
  induction selected generalizing w with
  | nil => exact .same rfl rfl
  | cons r rest ih =>
      have first := each r w
      unfold forEach
      split
      · rename_i raised
        rwa [raised] at first
      · rename_i returned
        rw [returned] at first
        exact first.trans (ih _)

theorem unheard_claim (t : TaskId) (currentTime : Time) (r : Ref) (w : MemoryWorld σ) :
    Unheard w (claim t currentTime r w).2 :=
  ⟨rfl, [_], rfl, by simp [Event.isClaim]⟩

theorem unheard_expire (env : Environment σ) (currentTime : Time) (r : Ref)
    (w : MemoryWorld σ) : Unheard w (expire env currentTime r w).2 := by
  unfold expire
  dsimp only
  split
  · exact .same rfl rfl
  · split <;> exact .same rfl rfl

theorem unheard_recover (env : Environment σ) (currentTime : Time) (r : Ref)
    (w : MemoryWorld σ) : Unheard w (recover env currentTime r w).2 := by
  unfold recover
  dsimp only
  split
  · exact .same rfl rfl
  · obtain ⟨attempts, eq⟩ := updateOpenAttempt_eq
      (w.drawId.setMission r (MissionStateMachine.recoverStale (w.mission r)
        (env.newEventId w.idsDrawn) currentTime).2) _ _
    unfold closeExecutionAttempt
    rw [eq]
    exact .same rfl rfl

theorem unheard_memory (env : Environment σ) (w : MemoryWorld σ) (t : TaskId) (o : MemoryOp) :
    Unheard w (o.exec env t w).2 := by
  cases o with
  | create | get => exact .same rfl rfl
  | update r =>
      simp only [MemoryOp.exec, InMemoryMissionRepository.update]
      split
      · exact .same rfl rfl
      · rename_i synchronized
        obtain ⟨attempts, rfl⟩ := synchronizeAttempt_ok synchronized
        exact .same rfl rfl
  | claimDue currentTime limit =>
      simp only [MemoryOp.exec, InMemoryMissionRepository.claimDue]
      split
      · exact .same rfl rfl
      · exact unheard_forEach (unheard_claim t currentTime) _ w
  | expireDue currentTime limit =>
      simp only [MemoryOp.exec, InMemoryMissionRepository.expireDue]
      split
      · exact .same rfl rfl
      · exact unheard_forEach (unheard_expire env currentTime) _ w
  | recoverStaleProcessing currentTime claimTimeout limit =>
      simp only [MemoryOp.exec, InMemoryMissionRepository.recoverStaleProcessing]
      split
      · exact .same rfl rfl
      · split
        · exact .same rfl rfl
        · split
          · exact .same rfl rfl
          · exact unheard_forEach (unheard_recover env currentTime) _ w

/-- An operation calls a provider, carries a call out, or leaves the providers alone. -/
theorem exec_cases (env : Environment σ) (w : MemoryWorld σ) (t : TaskId) (o : Op memory) :
    (∃ r c, o = .call r c ∧
      ((machine memory env).exec t o w).2 = w.log t (.called (w.mission r).id c)) ∨
    (∃ r c, o = .request r c ∧ ((machine memory env).exec t o w).2 = w.act env t r c) ∨
      Unheard w ((machine memory env).exec t o w).2 := by
  change _ ∨ _ ∨ Unheard w (o.exec env t w).2
  cases o with
  | call r c => exact .inl ⟨r, c, rfl, rfl⟩
  | request r c => exact .inr (.inl ⟨r, c, rfl, rfl⟩)
  | repository o => exact .inr (.inr (unheard_memory env w t o))
  | transition r target options =>
      refine .inr (.inr ?_)
      simp only [Op.exec]
      cases MissionStateMachine.transition (w.mission r) target options <;> exact .same rfl rfl
  | recordEvent r timestamp eventType message metadata =>
      refine .inr (.inr ?_)
      simp only [Op.exec]
      cases (w.mission r).recordEvent (env.newEventId w.idsDrawn) timestamp eventType message
        metadata <;> exact .same rfl rfl
  | _ => exact .inr (.inr (.same rfl rfl))

/-- What holds all along a run from `w`: every pending call has the key of its mission. -/
structure KeyedRun (w : MemoryWorld σ) (c : CommandConfig σ) : Prop where
  ordered : Ordered w c
  ids : ∀ r, (c.shared.mission r).id = (w.mission r).id
  tasks : c.Each (Op.ReadsId fun r => (w.mission r).id) (Op.CallsKeyed fun r => (w.mission r).id)
    fun _ => True

theorem keyedRun_start {w : MemoryWorld σ} (consistent : Consistent w)
    (registry : ProviderRegistry) (commands : TaskId → Command) :
    KeyedRun w (startCommands registry commands w) where
  ordered := ordered_startCommands consistent registry commands
  ids _ := rfl
  tasks t := keyed_command registry (commands t)

variable {env : Environment σ}

theorem KeyedRun.step {w : MemoryWorld σ} {c : CommandConfig σ} (h : KeyedRun w c) (t : TaskId) :
    KeyedRun w (c.step (machine memory env) t) where
  ordered := h.ordered.step t
  ids r := by
    rcases c.step_shared (machine memory env) t with same | ⟨o, performs, same⟩
    · rw [same, h.ids r]
    · rw [same, (h.ordered.operationStep performs).ids r, h.ids r]
  tasks := h.tasks.step (machine memory env) t fun o _ => by
    cases o with
    | read r => exact h.ids r
    | _ => trivial

/-- The calls and answers of the run so far have the keys of their missions. -/
def KeyedTrace (trace : List (TaskId × Event)) : Prop :=
  ∀ entry ∈ trace, entry.2.Keyed

theorem KeyedTrace.append {trace events : List (TaskId × Event)} (h : KeyedTrace trace)
    (k : KeyedTrace events) : KeyedTrace (trace ++ events) :=
  fun entry member => (List.mem_append.mp member).elim (h entry) (k entry)

theorem keyedTrace_of_claims {events : List (TaskId × Event)}
    (claims : ∀ event ∈ events, event.2.isClaim = true) : KeyedTrace events := by
  intro entry member
  obtain ⟨t, event⟩ := entry
  cases event with
  | claimed => trivial
  | _ => cases claims _ member

/-- The call that an operation makes or carries out is the mission's own. -/
theorem KeyedRun.keyedBy {w : MemoryWorld σ} {c : CommandConfig σ} (h : KeyedRun w c)
    {t : TaskId} {r : Ref} {call : ProviderCall}
    (performs : c.Performs (machine memory env) t (.call r call) ∨
      c.Performs (machine memory env) t (.request r call)) :
    call.KeyedBy (c.shared.mission r).id := by
  rw [h.ids r]
  exact performs.elim (h.tasks.performs (machine memory env)) (h.tasks.performs (machine memory env))

theorem KeyedRun.trace_step {w : MemoryWorld σ} {c : CommandConfig σ} (h : KeyedRun w c)
    (keyed : KeyedTrace c.shared.trace) (t : TaskId) :
    KeyedTrace (c.step (machine memory env) t).shared.trace := by
  rcases c.step_shared (machine memory env) t with same | ⟨o, performs, same⟩
  · rwa [same]
  · rw [same]
    rcases exec_cases env c.shared t o with ⟨r, call, rfl, called⟩ | ⟨r, call, rfl, acted⟩ | unheard
    · rw [called]
      exact keyed.append (by simpa [KeyedTrace, Event.Keyed] using h.keyedBy (.inl performs))
    · rw [acted]
      exact keyed.append (by simpa [KeyedTrace, Event.Keyed] using h.keyedBy (.inr performs))
    · obtain ⟨events, grown, claims⟩ := unheard.trace
      rw [grown]
      exact keyed.append (keyedTrace_of_claims claims)

theorem keyedTrace_run {w : MemoryWorld σ} {c : CommandConfig σ} (h : KeyedRun w c)
    (keyed : KeyedTrace c.shared.trace) (sched : List TaskId) :
    KeyedTrace (c.run (machine memory env) sched).shared.trace := by
  induction sched generalizing c with
  | nil => exact keyed
  | cons t rest ih => exact ih (h.step t) (h.trace_step keyed t)

/-- In every run, every provider call and every answer carries the key of its
mission for that operation, whichever command, worker or retry makes the call. -/
theorem provider_calls_keyed (env : Environment σ) (registry : ProviderRegistry)
    (commands : TaskId → Command) (w : MemoryWorld σ) (consistent : Consistent w)
    (start : w.trace = []) (sched : List TaskId) :
    KeyedTrace ((startCommands registry commands w).run (machine memory env) sched).shared.trace :=
  keyedTrace_run (keyedRun_start consistent registry commands)
    (by simp [KeyedTrace, startCommands, start]) sched

/-- Two runs of one mission and its cancellation, interleaved. -/
theorem provider_calls_keyed_sample :
    KeyedTrace ((startCommands Sample.registry
      (fun t => if t < 2 then .runMission ⟨7⟩ {} else .cancelMission ⟨7⟩)
      (initialWorld [Sample.mission] Sample.mission ())).run
        (machine memory (.withProviders (Sample.accepting [Sample.option ⟨1⟩ 100])))
        (List.replicate 30 0 ++ List.replicate 30 1 ++ List.replicate 20 2)).shared.trace :=
  provider_calls_keyed (.withProviders (Sample.accepting [Sample.option ⟨1⟩ 100])) Sample.registry
    (fun t => if t < 2 then .runMission ⟨7⟩ {} else .cancelMission ⟨7⟩)
    (initialWorld [Sample.mission] Sample.mission ()) (consistent_initialWorld _ _ _ (by decide))
    rfl (List.replicate 30 0 ++ List.replicate 30 1 ++ List.replicate 20 2)

end PurchaseAgent
