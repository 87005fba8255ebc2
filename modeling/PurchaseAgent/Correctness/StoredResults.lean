import PurchaseAgent.Api.MissionCommands
import PurchaseAgent.Storage.Memory

/-!
A command leaves the mission it returns in the repository, whatever happens
meanwhile, and no operation removes a mission.
-/

namespace PurchaseAgent

open Cooperative Collections InMemoryMissionRepository

variable {σ : Type} {env : Environment σ}

namespace InMemoryMissionRepository

/-- A mission is stored under the id. -/
def Holds (w : MemoryWorld σ) (id : UUID) : Prop := (w.repository.missions.get? id).isSome

variable {w : MemoryWorld σ} {id : UUID}

theorem holds_store_self (r : Ref) : Holds (store w r) (w.mission r).id := by
  simp [Holds, store]

theorem Holds.store (h : Holds w id) (r : Ref) : Holds (InMemoryMissionRepository.store w r) id := by
  by_cases same : id = (w.mission r).id
  · rw [same]
    exact holds_store_self r
  · simpa only [Holds, InMemoryMissionRepository.store, Dict.get?_set_of_ne _ same] using h

theorem Holds.forEach {body : Ref → MemoryWorld σ → Except PyException Unit × MemoryWorld σ}
    (keeps : ∀ r w, Holds w id → Holds (body r w).2 id) (selected : List Ref) (h : Holds w id) :
    Holds (InMemoryMissionRepository.forEach body selected w).2 id := by
  induction selected generalizing w with
  | nil => exact h
  | cons r rest ih =>
      have first := keeps r w h
      unfold InMemoryMissionRepository.forEach
      split
      · rename_i raised
        rwa [raised] at first
      · rename_i returned
        rw [returned] at first
        exact ih first

theorem Holds.attemptSet (h : Holds w id) (r : Ref) (change : Except PyException Mission) :
    Holds (w.attemptSet r change).2 id := by
  cases change with
  | ok mission => exact h
  | error error => exact h

theorem Holds.updateOpenAttempt (h : Holds w id) (other : UUID)
    (change : MissionExecutionAttempt → MissionExecutionAttempt) :
    Holds (InMemoryMissionRepository.updateOpenAttempt w other change) id := by
  obtain ⟨attempts, eq⟩ := updateOpenAttempt_eq w other change
  rw [eq]
  exact h

theorem Holds.expire (h : Holds w id) (currentTime : Time) (r : Ref) :
    Holds (InMemoryMissionRepository.expire env currentTime r w).2 id := by
  unfold InMemoryMissionRepository.expire
  dsimp only
  split
  · exact h
  · rename_i expired _
    split
    · exact h
    · rename_i recorded _
      have later : Holds (w.drawId.setMission r recorded) id := h
      exact later.store r

theorem Holds.recover (h : Holds w id) (currentTime : Time) (r : Ref) :
    Holds (InMemoryMissionRepository.recover env currentTime r w).2 id := by
  unfold InMemoryMissionRepository.recover
  dsimp only
  split
  · exact h
  · refine Holds.store ?_ r
    unfold closeExecutionAttempt
    exact Holds.updateOpenAttempt (w := w.drawId.setMission r _) h _ _

theorem Holds.update (h : Holds w id) (r : Ref) : Holds (InMemoryMissionRepository.update r w).2 id := by
  unfold InMemoryMissionRepository.update
  split
  · exact h
  · rename_i w' synchronized
    obtain ⟨attempts, rfl⟩ := synchronizeAttempt_ok synchronized
    exact Holds.store h r

/-- Missions are never removed. -/
theorem Holds.exec (h : Holds w id) (t : TaskId) (o : Op memory) :
    Holds (Op.exec env t o w).2 id := by
  cases o with
  | read r => exact h
  | assign r assignment => exact h
  | transition r target options => exact h.attemptSet r _
  | recordEvent r timestamp eventType message metadata =>
      have drawn : Holds w.drawId id := h
      exact drawn.attemptSet r _
  | construct mission => exact h
  | copy r update => exact h
  | utcNow => exact h
  | getIdentity participantId => exact h
  | call r c => exact h
  | request r c => exact h
  | deliver => exact h
  | repository o =>
      cases o with
      | create r => exact h.store r
      | get other => exact h
      | update r => exact h.update r
      | claimDue currentTime limit =>
          show Holds (claimDue t currentTime limit w).2 id
          unfold claimDue
          split
          · exact h
          · refine Holds.forEach (fun r w h => ?_) _ h
            exact Holds.store (w := (setAttempts (w.setMission r _) _ _).log t _) h r
      | expireDue currentTime limit =>
          show Holds (expireDue env currentTime limit w).2 id
          unfold expireDue
          split
          · exact h
          · exact Holds.forEach (fun r w h => h.expire currentTime r) _ h
      | recoverStaleProcessing currentTime claimTimeout limit =>
          show Holds (recoverStaleProcessing env currentTime claimTimeout limit w).2 id
          unfold recoverStaleProcessing
          split
          · exact h
          · split
            · exact h
            · split
              · exact h
              · exact Holds.forEach (fun r w h => h.recover currentTime r) _ h

end InMemoryMissionRepository

/-- Whatever happens meanwhile, the command returns the given mission and this is
stored then. -/
def Stores (env : Environment σ) (t : TaskId) (r : Ref) (p : Service memory Ref) : Prop :=
  ∀ w, (Discipline.anything (machine memory env)).Safe t
    (fun outcome w' => ∀ r', outcome = .ok r' → r' = r ∧ Holds w' (w'.mission r).id) p.run w

namespace Stores
variable {t : TaskId} {r : Ref} {α : Type}

theorem throw (e : PyException) : Stores env t r (throw e) := fun _ _ raised => nomatch raised

theorem bind {x : Service memory α} {f : α → Service memory Ref}
    (h : ∀ a, Stores env t r (f a)) : Stores env t r (x >>= f) := by
  intro w
  have each : x.run.Each (fun _ _ => True) (fun _ => True) fun _ => True :=
    Prog.each_of_mentions _ fun _ _ => trivial
  exact Discipline.safe_seq (Discipline.safe_anything_of_each x.run w each)
    (fun a w' _ => h a w') fun _ _ _ _ raised => nomatch raised

theorem ite {c : Prop} [Decidable c] {p q : Service memory Ref} (hp : Stores env t r p)
    (hq : Stores env t r q) : Stores env t r (if c then p else q) := by
  split
  · exact hp
  · exact hq

/-- The mission is returned anyway. -/
theorem thenReturn {p : Service memory Ref} (h : Stores env t r p) :
    Stores env t r (p >>= fun _ => pure r) := fun w =>
  Discipline.safe_seq (h w)
    (fun _ _ stored _ same => ⟨(Except.ok.inj same).symm, (stored _ rfl).2⟩)
    fun _ _ _ _ raised => nomatch raised

theorem update : Stores env t r (inMemoryMissionRepository.update r) := by
  intro w w' _ _
  refine ⟨trivial, ?_⟩
  show ∀ r', (InMemoryMissionRepository.update r w').1 = .ok r' → r' = r ∧
    Holds (InMemoryMissionRepository.update r w').2
      ((InMemoryMissionRepository.update r w').2.mission r).id
  unfold InMemoryMissionRepository.update
  split
  · exact fun _ raised => nomatch raised
  · rename_i synchronized _
    exact fun r' same => ⟨(Except.ok.inj same).symm, holds_store_self (w := synchronized) r⟩

theorem concludeMission (target : MissionStatus) (eventType message : String)
    (metadata : List (String × PyValue)) :
    Stores env t r (concludeMission inMemoryMissionRepository r target eventType message metadata) :=
  bind fun _ => bind fun _ => update

theorem failProviderOperation (providerId operation : String) (retryable : Bool) :
    Stores env t r
      (failProviderOperation inMemoryMissionRepository r providerId operation retryable) :=
  concludeMission _ _ _ _

theorem callProvider (call : ProviderCall) {handler : Bool → Service memory Ref}
    {proceed : call.Answer → Service memory Ref} (handled : ∀ b, Stores env t r (handler b))
    (proceeded : ∀ answer, Stores env t r (proceed answer)) :
    Stores env t r (callProvider r call handler proceed) := by
  refine bind ?_
  rintro (error | answer)
  · dsimp only
    split
    · exact handled _
    · exact throw error
  · exact proceeded answer

theorem completeMission : Stores env t r (completeMission inMemoryMissionRepository r) :=
  bind fun _ => concludeMission _ _ _ _

theorem reservationMade (providerId : String) (result : ReservationResult)
    (reservationId : String) :
    Stores env t r
      (reservationMade inMemoryMissionRepository r providerId result reservationId) := by
  refine bind fun _ => bind fun _ => bind fun mission => ite (concludeMission _ _ _ _)
    (ite (bind fun _ => callProvider _ (failProviderOperation _ _) fun confirmation => ?_)
      completeMission)
  exact ite (concludeMission _ _ _ _) (bind fun _ => completeMission)

theorem reserveBest (providerId : String) (best : ScoredOption) (mission : Mission) :
    Stores env t r (reserveBest inMemoryMissionRepository r providerId best mission) := by
  refine callProvider _ (failProviderOperation _ _) fun result => ?_
  split
  · exact concludeMission _ _ _ _
  · exact throw _
  · exact reservationMade _ _ _

theorem bestSelected (providerId : String) (isProcessingRun : Bool) (best : ScoredOption) :
    Stores env t r
      (bestSelected inMemoryMissionRepository r providerId isProcessingRun best) := by
  refine ite (bind fun _ => ?_) ?_
  all_goals
    refine bind fun _ => bind fun _ => bind fun mission => ite (concludeMission _ _ _ _) ?_
    exact ite (bind fun _ => bind fun _ => reserveBest _ _ _) (bind fun _ => reserveBest _ _ _)

theorem optionsFound (providerId : String) (isProcessingRun : Bool)
    (options : List ProviderOption) :
    Stores env t r
      (optionsFound inMemoryMissionRepository r providerId isProcessingRun options) := by
  refine bind fun _ => bind fun mission => ?_
  split
  · exact concludeMission _ _ _ _
  · exact bestSelected _ _ _

theorem participantsFound (providerId : String) (isProcessingRun : Bool)
    (identities : List Identity) :
    Stores env t r
      (participantsFound inMemoryMissionRepository r providerId isProcessingRun identities) := by
  refine bind fun mission => ite (concludeMission _ _ _ _) (bind fun _ => ite (bind fun _ => ?_) ?_)
  all_goals
    exact bind fun _ => callProvider _ (failProviderOperation _ _) (optionsFound _ _)

theorem startMission (providerId : String) :
    Stores env t r (startMission inMemoryMissionRepository r providerId) := by
  refine bind fun mission => ite (bind fun _ => ?_) ?_
  all_goals exact bind fun _ => participantsFound _ _ _

theorem providerResolved (adapter : ProviderAdapter) :
    Stores env t r (providerResolved inMemoryMissionRepository r adapter) :=
  bind fun _ => bind fun _ => bind fun _ => bind fun _ => bind fun _ => startMission _

theorem missionConfirmed : Stores env t r (missionConfirmed inMemoryMissionRepository r) :=
  bind fun _ => bind fun _ => bind fun _ => update

theorem missionCancelled : Stores env t r (missionCancelled inMemoryMissionRepository r) :=
  concludeMission _ _ _ _

theorem cancelProviderReservation (registry : ProviderRegistry) (mission : Mission) :
    Stores env t r
      (cancelProviderReservation inMemoryMissionRepository registry r mission) := by
  unfold PurchaseAgent.cancelProviderReservation
  split
  · exact throw _
  · exact missionCancelled
  · split
    · exact throw _
    · refine bind fun _ => callProvider _ (fun b => (failProviderOperation _ _ b).thenReturn)
        fun cancellation => ite ?_ (bind fun _ => missionCancelled)
      exact (concludeMission _ _ _ _).thenReturn

theorem resetForRetry (mission : Mission) (now retryAt : Time) (options : RetryOptions) :
    Stores env t r (resetForRetry inMemoryMissionRepository r mission now retryAt options) :=
  bind fun _ => bind fun _ => bind fun _ => bind fun _ => bind fun _ => bind fun _ => update

end Stores

/-- The command returns a stored mission. -/
def ReturnsStored (env : Environment σ) (t : TaskId) (p : Service memory Ref) : Prop :=
  ∀ w, (Discipline.anything (machine memory env)).Safe t
    (fun outcome w' => ∀ r, outcome = .ok r → Holds w' (w'.mission r).id) p.run w

namespace ReturnsStored
variable {t : TaskId} {α : Type}

theorem of_stores {r : Ref} {p : Service memory Ref} (h : Stores env t r p) :
    ReturnsStored env t p := fun w =>
  Discipline.safe_mono (fun _ _ stored r' same => by
    obtain ⟨rfl, holds⟩ := stored r' same
    exact holds) _ _ (h w)

theorem throw (e : PyException) : ReturnsStored env t (throw e) := fun _ _ raised => nomatch raised

theorem bind {x : Service memory α} {f : α → Service memory Ref}
    (h : ∀ a, ReturnsStored env t (f a)) : ReturnsStored env t (x >>= f) := by
  intro w
  have each : x.run.Each (fun _ _ => True) (fun _ => True) fun _ => True :=
    Prog.each_of_mentions _ fun _ _ => trivial
  exact Discipline.safe_seq (Discipline.safe_anything_of_each x.run w each)
    (fun a w' _ => h a w') fun _ _ _ _ raised => nomatch raised

/-- A mission is loaded first. -/
theorem loaded {x : Service memory (Option Ref)} {f : Ref → Service memory Ref}
    (h : ∀ r, ReturnsStored env t (f r)) :
    ReturnsStored env t (x >>= fun
      | none => MonadExcept.throw PyException.missionNotFoundError
      | some r => f r) := by
  refine bind ?_
  rintro (_ | r)
  · exact throw _
  · exact h r

end ReturnsStored

theorem ReturnsStored.runMission {t : TaskId} (registry : ProviderRegistry) (missionId : UUID)
    (options : RunOptions) :
    ReturnsStored env t (runMission inMemoryMissionRepository registry missionId options) := by
  refine loaded fun r => of_stores (r := r) ?_
  refine .bind fun mission => .ite (.throw _) (.bind fun now => .bind fun expired => .ite (.throw _)
    (.bind fun mission => .ite (.throw _) ?_))
  split
  · exact .bind fun _ => .bind fun _ => .bind fun _ => .throw _
  · exact .providerResolved _

theorem ReturnsStored.confirmMission {t : TaskId} (registry : ProviderRegistry) (missionId : UUID) :
    ReturnsStored env t (confirmMission inMemoryMissionRepository registry missionId) := by
  refine loaded fun r => of_stores (r := r) ?_
  refine .bind fun mission => .ite (.throw _) ?_
  split
  · exact .throw _
  · exact .missionConfirmed
  · split
    · exact .throw _
    · refine .bind fun _ => .callProvider _ (.failProviderOperation _ _) fun confirmation => ?_
      exact .ite (.concludeMission _ _ _ _) (.bind fun _ => .missionConfirmed)

theorem ReturnsStored.cancelMission {t : TaskId} (registry : ProviderRegistry) (missionId : UUID) :
    ReturnsStored env t (cancelMission inMemoryMissionRepository registry missionId) :=
  loaded fun r => of_stores (r := r) (.bind fun _ => .ite (.throw _)
    (.ite (.cancelProviderReservation _ _) .missionCancelled))

theorem ReturnsStored.pauseMission {t : TaskId} (missionId : UUID) :
    ReturnsStored env t (pauseMission inMemoryMissionRepository missionId) :=
  loaded fun r => of_stores (r := r) (.bind fun _ => .ite (.throw _)
    (.bind fun _ => .bind fun _ => .update))

theorem ReturnsStored.resumeMission {t : TaskId} (missionId : UUID) :
    ReturnsStored env t (resumeMission inMemoryMissionRepository missionId) :=
  loaded fun r => of_stores (r := r) (.bind fun _ => .ite (.throw _)
    (.bind fun _ => .bind fun _ => .update))

theorem ReturnsStored.retryMission {t : TaskId} (missionId : UUID) (options : RetryOptions) :
    ReturnsStored env t (retryMission inMemoryMissionRepository missionId options) := by
  refine bind fun now => ?_
  dsimp only
  split
  · exact throw _
  · exact loaded fun r => of_stores (r := r) (.bind fun _ => .ite (.throw _)
      (.ite (.throw _) (.resetForRetry _ _ _ _)))

/-- The service a request calls. -/
def MissionCommandRequest.execute (request : MissionCommandRequest) (registry : ProviderRegistry) :
    Service memory Ref :=
  match request.command with
  | .run => runMission inMemoryMissionRepository registry request.missionId
  | .confirm => confirmMission inMemoryMissionRepository registry request.missionId
  | .cancel => cancelMission inMemoryMissionRepository registry request.missionId
  | .pause => pauseMission inMemoryMissionRepository request.missionId
  | .resume => resumeMission inMemoryMissionRepository request.missionId
  | .retry => retryMission inMemoryMissionRepository request.missionId { retryAt := request.retryAt }

theorem returnsStored_execute {t : TaskId} (request : MissionCommandRequest)
    (registry : ProviderRegistry) : ReturnsStored env t (request.execute registry) := by
  unfold MissionCommandRequest.execute
  split
  · exact .runMission _ _ _
  · exact .confirmMission _ _
  · exact .cancelMission _ _
  · exact .pauseMission _
  · exact .resumeMission _
  · exact .retryMission _ _

end PurchaseAgent
