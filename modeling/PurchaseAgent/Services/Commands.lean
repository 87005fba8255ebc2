import PurchaseAgent.Services.DueMissionProcessor
import PurchaseAgent.Services.MissionCommands
import PurchaseAgent.Storage.Memory

/-!
The service calls a task of the program can be started with, and the references
they work on: with the in-memory repository a service only ever touches mission
objects that the repository handed out.
-/

namespace PurchaseAgent

open Cooperative

/-- The calls that work on the mission objects that are stored. The selection of a provider,
which stores a copy, is not one of them. -/
inductive Command where
  | runMission (missionId : UUID) (options : RunOptions)
  | confirmMission (missionId : UUID)
  | cancelMission (missionId : UUID)
  | pauseMission (missionId : UUID)
  | resumeMission (missionId : UUID)
  | scheduleMission (missionId : UUID) (scheduledAt currentTime : Option Time)
  | updateMission (missionId : UUID) (update : MissionUpdate)
  | retryMission (missionId : UUID) (options : RetryOptions)
  | expireDue (currentTime : Time) (limit : Int)
  | recoverStaleProcessing (currentTime : Time) (claimTimeout : TimeDelta) (limit : Int)
  | processDueMissions (currentTime : Time) (limit : Int) (policy : MissionRetryPolicy)

/-- The coroutine of a call, without its result. -/
def Command.service {B : Backend} (repository : MissionRepository B)
    (registry : ProviderRegistry) : Command → Service B Unit
  | .runMission missionId options =>
      discard (PurchaseAgent.runMission repository registry missionId options)
  | .confirmMission missionId => discard (PurchaseAgent.confirmMission repository registry missionId)
  | .cancelMission missionId => discard (PurchaseAgent.cancelMission repository registry missionId)
  | .pauseMission missionId => discard (PurchaseAgent.pauseMission repository missionId)
  | .resumeMission missionId => discard (PurchaseAgent.resumeMission repository missionId)
  | .scheduleMission missionId scheduledAt currentTime =>
      discard (PurchaseAgent.scheduleMission repository missionId scheduledAt currentTime)
  | .updateMission missionId update =>
      discard (PurchaseAgent.updateMission repository registry missionId update)
  | .retryMission missionId options =>
      discard (PurchaseAgent.retryMission repository missionId options)
  | .expireDue currentTime limit => discard (expireDueMissions repository currentTime limit)
  | .recoverStaleProcessing currentTime claimTimeout limit =>
      discard (repository.recoverStaleProcessing currentTime claimTimeout limit)
  | .processDueMissions currentTime limit policy =>
      discard (PurchaseAgent.processDueMissions repository registry currentTime limit policy)
where
  discard {α : Type} (p : Service B α) : Service B Unit := do
    let _ ← p
    pure ()

def ProviderCall.reserves : ProviderCall → Bool
  | .reserveOption .. => true
  | _ => false

/-- The call can make a reservation. -/
def Command.reserves : Command → Bool
  | .runMission _ _ | .processDueMissions _ _ _ => true
  | _ => false

/-- The operation only touches known objects, makes no new ones and calls the
provider as `calls` says. -/
def Op.Uses (known : Ref → Prop) (calls : ProviderCall → Prop) : Op memory → Prop
  | .read r | .assign r _ | .transition r _ _ | .recordEvent r _ _ _ _ => known r
  | .call r c | .request r c => known r ∧ calls c
  | .construct _ | .copy _ _ => False
  | .utcNow | .getIdentity _ | .deliver => True
  | .repository o =>
      match o with
      | .create _ => False
      | .update r => known r
      | .get _ | .claimDue _ _ | .expireDue _ _ | .recoverStaleProcessing _ _ _ => True

/-- The repository hands out known objects only. -/
def Op.Hands (known : Ref → Prop) : (o : Op memory) → o.Answer → Prop
  | .repository o, answer =>
      match o, answer with
      | .get _, (answer : Option Ref) => ∀ r ∈ answer, known r
      | .update _, (answer : Except PyException Ref) => ∀ r, answer = .ok r → known r
      | .claimDue _ _, (answer : Except PyException (List Ref)) =>
          ∀ rs, answer = .ok rs → ∀ r ∈ rs, known r
      | .expireDue _ _, (answer : Except PyException (List Ref)) =>
          ∀ rs, answer = .ok rs → ∀ r ∈ rs, known r
      | .recoverStaleProcessing _ _ _, (answer : Except PyException (List Ref)) =>
          ∀ rs, answer = .ok rs → ∀ r ∈ rs, known r
      | .create _, _ => True
  | _, _ => True

/-- The service works on known objects and, when it returns, `post` holds. -/
def Service.Keeps {α : Type} (known : Ref → Prop) (calls : ProviderCall → Prop) (post : α → Prop)
    (p : Service memory α) : Prop :=
  p.run.Each (F := signature memory) (Op.Hands known) (Op.Uses known calls)
    fun x => ∀ a, x = .ok a → post a

namespace Service
variable {α β : Type} {known : Ref → Prop} {calls : ProviderCall → Prop}

theorem keeps_mono {post post' : α → Prop} (h : ∀ a, post a → post' a) {p : Service memory α}
    (hp : Keeps known calls post p) : Keeps known calls post' p :=
  Prog.each_mono (fun _ hx a eq => h a (hx a eq)) p.run hp

@[simp] theorem keeps_pure (post : α → Prop) (a : α) :
    Keeps known calls post (pure a : Service memory α) ↔ post a := by
  simp [Keeps]

@[simp] theorem keeps_throw (post : α → Prop) (e : PyException) :
    Keeps known calls post (throw e : Service memory α) := by
  simp [Keeps]

@[simp] theorem keeps_bind (post : β → Prop) (p : Service memory α) (f : α → Service memory β) :
    Keeps known calls post (p >>= f) ↔ Keeps known calls (fun a => Keeps known calls post (f a)) p := by
  refine (Prog.each_bind _ p.run _).trans ⟨Prog.each_mono ?_ p.run, Prog.each_mono ?_ p.run⟩
  · rintro _ h a rfl
    exact h
  · rintro (e | a) h
    · simp [ExceptT.bindCont]
    · exact h a rfl

@[simp] theorem keeps_map (post : β → Prop) (f : α → β) (p : Service memory α) :
    Keeps known calls post (f <$> p) ↔ Keeps known calls (fun a => post (f a)) p := by
  rw [map_eq_pure_bind, keeps_bind]
  simp only [keeps_pure]

@[simp] theorem keeps_ite (post : α → Prop) (c : Prop) [Decidable c] (p q : Service memory α) :
    Keeps known calls post (if c then p else q) ↔
      (c → Keeps known calls post p) ∧ (¬ c → Keeps known calls post q) := by
  split <;> simp_all

@[simp] theorem keeps_attempt (post : Except PyException α → Prop) (p : Service memory α)
    (h : Keeps known calls (fun a => post (.ok a)) p) (raised : ∀ e, post (.error e)) :
    Keeps known calls post (attempt p) := by
  refine (Prog.each_bind _ p.run _).mpr (Prog.each_mono ?_ p.run h)
  rintro (e | a) ok _ ⟨⟩
  · exact raised e
  · exact ok a rfl

theorem keeps_lift (o : Op memory) (post : o.Answer → Prop) :
    Keeps known calls post (lift (Prog.perform (F := signature memory) o)) ↔
      o.Uses known calls ∧ ∀ answer, o.Hands known answer → post answer :=
  ⟨fun h => ⟨h.1, fun answer hands => h.2 answer hands answer rfl⟩,
    fun h => ⟨h.1, by rintro answer hands _ ⟨⟩; exact h.2 answer hands⟩⟩

section Operations
variable (r : Ref)

@[simp] theorem keeps_read (post : Mission → Prop) :
    Keeps known calls post (read r) ↔ known r ∧ ∀ mission, post mission :=
  (keeps_lift (.read r) post).trans (by simp [Op.Uses, Op.Hands])

@[simp] theorem keeps_assign (post : Unit → Prop) (assignment : Assignment) :
    Keeps known calls post (assign r assignment) ↔ known r ∧ post () :=
  ⟨fun h => ⟨h.1, h.2 () trivial () rfl⟩, fun h => ⟨h.1, fun _ _ _ _ => h.2⟩⟩

@[simp] theorem keeps_transition (post : Unit → Prop) (target : MissionStatus)
    (options : MissionStateMachine.Options) :
    Keeps known calls post (transition r target options) ↔ known r ∧ post () :=
  ⟨fun h => ⟨h.1, h.2 (.ok ()) trivial () rfl⟩, fun h => ⟨h.1, fun _ _ _ _ => h.2⟩⟩

@[simp] theorem keeps_utcNow (post : Time → Prop) :
    Keeps known calls post utcNow ↔ ∀ time, post time :=
  (keeps_lift .utcNow post).trans (by simp [Op.Uses, Op.Hands])

@[simp] theorem keeps_orUtcNow (post : Time → Prop) (time : Option Time)
    (h : ∀ time, post time) : Keeps known calls post (orUtcNow time) := by
  cases time with
  | none => simpa [orUtcNow] using h
  | some time => simpa [orUtcNow] using h time

@[simp] theorem keeps_recordEvent (post : Unit → Prop) (timestamp : Time)
    (eventType message : String) (metadata : List (String × PyValue)) :
    Keeps known calls post (recordEvent r timestamp eventType message metadata) ↔ known r ∧ post () :=
  ⟨fun h => ⟨h.1, h.2 (.ok ()) trivial () rfl⟩, fun h => ⟨h.1, fun _ _ _ _ => h.2⟩⟩

@[simp] theorem keeps_addEvent (post : Unit → Prop) (eventType message : String)
    (metadata : List (String × PyValue)) :
    Keeps known calls post (addEvent r eventType message metadata) ↔ known r ∧ post () := by
  simp [addEvent]

@[simp] theorem keeps_getIdentity (post : Option Identity → Prop) (id : UUID)
    (h : ∀ identity, post identity) : Keeps known calls post (getIdentity id) :=
  ⟨trivial, fun _ _ identity _ => h identity⟩

@[simp] theorem keeps_fromExcept (post : α → Prop) (x : Except PyException α)
    (h : ∀ a, post a) : Keeps known calls post (fromExcept x) :=
  fun a _ => h a

@[simp] theorem keeps_provider (call : ProviderCall) (post : call.Answer → Prop)
    (h : known r) (allowed : calls call) (hp : ∀ answer, post answer) :
    Keeps known calls post (provider r call) :=
  ⟨⟨h, allowed⟩, fun _ _ => ⟨⟨h, allowed⟩, fun _ _ => ⟨trivial, fun _ _ answer _ => hp answer⟩⟩⟩

end Operations

section Repository

@[simp] theorem keeps_get (post : Option Ref → Prop) (id : UUID)
    (missing : post none) (found : ∀ r, known r → post (some r)) :
    Keeps known calls post (inMemoryMissionRepository.get id) :=
  (keeps_lift (.repository (.get id)) post).mpr ⟨trivial, fun answer hands => by
    cases answer with
    | none => exact missing
    | some r => exact found r (hands r rfl)⟩

@[simp] theorem keeps_update (post : Ref → Prop) (r : Ref) :
    Keeps known calls post (inMemoryMissionRepository.update r) ↔
      known r ∧ ∀ r', known r' → post r' :=
  ⟨fun h => ⟨h.1, fun r' known => h.2 (.ok r') (by rintro _ ⟨⟩; exact known) r' rfl⟩,
    fun h => ⟨h.1, fun _ hands r' eq => h.2 r' (hands r' eq)⟩⟩

theorem keeps_expireDue (currentTime : Time) (limit : Int) :
    Keeps known calls (fun rs => ∀ r ∈ rs, known r)
      (inMemoryMissionRepository.expireDue currentTime limit) :=
  ⟨trivial, fun _ hands rs eq => hands rs eq⟩

theorem keeps_claimDue (currentTime : Time) (limit : Int) :
    Keeps known calls (fun rs => ∀ r ∈ rs, known r)
      (inMemoryMissionRepository.claimDue currentTime limit) :=
  ⟨trivial, fun _ hands rs eq => hands rs eq⟩

theorem keeps_recoverStaleProcessing (currentTime : Time) (claimTimeout : TimeDelta)
    (limit : Int) :
    Keeps known calls (fun rs => ∀ r ∈ rs, known r)
      (inMemoryMissionRepository.recoverStaleProcessing currentTime claimTimeout limit) :=
  ⟨trivial, fun _ hands rs eq => hands rs eq⟩

end Repository
end Service

open Service

section Walk
variable {known : Ref → Prop} {calls : ProviderCall → Prop} {r : Ref}

/-! Each service works on the objects the repository hands out. -/

theorem keeps_concludeMission (h : known r) (target : MissionStatus) (eventType message : String)
    (metadata : List (String × PyValue)) :
    Keeps known calls known
      (concludeMission inMemoryMissionRepository r target eventType message metadata) := by
  simp [concludeMission, h]

theorem keeps_failProviderOperation (h : known r) (providerId operation : String)
    (retryable : Bool) :
    Keeps known calls known
      (failProviderOperation inMemoryMissionRepository r providerId operation retryable) :=
  keeps_concludeMission h _ _ _ _

theorem keeps_callProvider (h : known r) {call : ProviderCall} (allowed : calls call)
    {handler : Bool → Service memory Ref} {proceed : call.Answer → Service memory Ref}
    (handled : ∀ retryable, Keeps known calls known (handler retryable))
    (proceeds : ∀ answer, Keeps known calls known (proceed answer)) :
    Keeps known calls known (callProvider r call handler proceed) := by
  rw [callProvider, keeps_bind]
  refine keeps_attempt _ _ (keeps_provider r call _ h allowed proceeds) fun error => ?_
  cases retryable : error.retryable? with
  | none => simp [retryable]
  | some retryable => simp [retryable, handled]

theorem keeps_expireMissionIfDue (h : known r) (currentTime : Time) :
    Keeps known calls (fun _ => True)
      (expireMissionIfDue inMemoryMissionRepository r currentTime) := by
  simp only [expireMissionIfDue, keeps_bind, keeps_read]
  refine ⟨h, fun mission => ?_⟩
  split <;> simp [h]

theorem keeps_completeMission (h : known r) :
    Keeps known calls known (completeMission inMemoryMissionRepository r) := by
  simp [completeMission, keeps_concludeMission, h]

theorem keeps_reservationMade (others : ∀ c : ProviderCall, c.reserves = false → calls c)
    (h : known r) (providerId : String) (result : ReservationResult) (reservationId : String) :
    Keeps known calls known
      (reservationMade inMemoryMissionRepository r providerId result reservationId) := by
  simp only [reservationMade, keeps_bind, keeps_assign, keeps_addEvent, keeps_read, h, true_and,
    keeps_ite]
  refine fun mission =>
    ⟨fun _ => keeps_concludeMission h _ _ _ _, fun _ => ⟨fun _ => ?_, fun _ => ?_⟩⟩
  · refine keeps_callProvider h (others _ rfl) (keeps_failProviderOperation h _ _)
      fun confirmation => ?_
    simp [keeps_concludeMission, keeps_completeMission, h]
  · exact keeps_completeMission h

theorem keeps_reserveBest (all : ∀ c, calls c) (h : known r) (providerId : String) (best : ScoredOption)
    (mission : Mission) :
    Keeps known calls known
      (reserveBest inMemoryMissionRepository r providerId best mission) := by
  refine keeps_callProvider h (all _) (keeps_failProviderOperation h _ _) fun result => ?_
  split
  · exact keeps_concludeMission h _ _ _ _
  · simp
  · exact keeps_reservationMade (fun c _ => all c) h _ _ _

theorem keeps_bestSelected (all : ∀ c, calls c) (h : known r) (providerId : String) (isProcessingRun : Bool)
    (best : ScoredOption) :
    Keeps known calls known
      (bestSelected inMemoryMissionRepository r providerId isProcessingRun best) := by
  simp [bestSelected, keeps_reserveBest all, keeps_concludeMission, h]

theorem keeps_optionsFound (all : ∀ c, calls c) (h : known r) (providerId : String) (isProcessingRun : Bool)
    (options : List ProviderOption) :
    Keeps known calls known
      (optionsFound inMemoryMissionRepository r providerId isProcessingRun options) := by
  simp only [optionsFound, keeps_bind, keeps_addEvent, keeps_read, h, true_and]
  intro mission
  split
  · exact keeps_concludeMission h _ _ _ _
  · exact keeps_bestSelected all h _ _ _

theorem keeps_getParticipants (ids : List UUID) :
    Keeps known calls (fun _ => True) (getParticipants ids) := by
  induction ids with
  | nil => simp [getParticipants]
  | cons id rest ih =>
      simp only [getParticipants, keeps_bind]
      refine keeps_getIdentity _ _ fun identity => ?_
      cases identity with
      | none => exact ih
      | some identity => simp [ih]

theorem keeps_participantsFound (all : ∀ c, calls c) (h : known r) (providerId : String) (isProcessingRun : Bool)
    (identities : List Identity) :
    Keeps known calls known
      (participantsFound inMemoryMissionRepository r providerId isProcessingRun identities) := by
  simp only [participantsFound, keeps_bind, keeps_read, keeps_ite, h, true_and]
  refine fun mission => ⟨fun _ => keeps_concludeMission h _ _ _ _, fun _ => ?_⟩
  have proceeds := keeps_callProvider h (all (.searchOptions providerId identities))
    (keeps_failProviderOperation h providerId "search")
    (keeps_optionsFound all h providerId isProcessingRun)
  simp [h, proceeds]

theorem keeps_startMission (all : ∀ c, calls c) (h : known r) (providerId : String) :
    Keeps known calls known (startMission inMemoryMissionRepository r providerId) := by
  have participants : ∀ ids isProcessingRun, Keeps known calls
      (fun identities => Keeps known calls known
        (participantsFound inMemoryMissionRepository r providerId isProcessingRun identities))
      (getParticipants ids) := fun ids isProcessingRun =>
    keeps_mono (fun identities _ => keeps_participantsFound all h _ _ _) (keeps_getParticipants ids)
  simp [startMission, h, participants]

theorem keeps_providerResolved (all : ∀ c, calls c) (h : known r) (adapter : ProviderAdapter) :
    Keeps known calls known (providerResolved inMemoryMissionRepository r adapter) := by
  simp only [providerResolved, keeps_bind, keeps_assign, keeps_read, h, true_and]
  refine fun mission => keeps_fromExcept _ _ fun metadata => ?_
  simp [h, keeps_startMission all]

theorem keeps_providerResolutionFailed (h : known r) (mission : Mission) (error : PyException) :
    Keeps known calls known
      (providerResolutionFailed inMemoryMissionRepository r mission error) := by
  simp [providerResolutionFailed, h]

/-- A service that starts by loading a mission. -/
theorem keeps_load {missionId : UUID} {f : Option Ref → Service memory Ref}
    (missing : Keeps known calls known (f none)) (found : ∀ r, known r → Keeps known calls known (f (some r))) :
    Keeps known calls known (inMemoryMissionRepository.get missionId >>= f) :=
  (keeps_bind _ _ _).mpr (keeps_get _ _ missing found)

theorem keeps_runMission (all : ∀ c, calls c) (registry : ProviderRegistry) (missionId : UUID)
    (options : RunOptions) :
    Keeps known calls known (runMission inMemoryMissionRepository registry missionId options) := by
  refine keeps_load (by simp) fun r h => ?_
  simp only [keeps_bind, keeps_read, keeps_ite, h, true_and]
  refine fun mission => ⟨fun _ => by simp, fun _ => keeps_orUtcNow _ _ fun now => ?_⟩
  refine keeps_mono (fun expired _ => ?_) (keeps_expireMissionIfDue h now)
  refine ⟨fun _ => by simp, fun _ mission => ⟨fun _ => by simp, fun _ => ?_⟩⟩
  split
  · exact keeps_providerResolutionFailed h _ _
  · exact keeps_providerResolved all h _

theorem keeps_missionConfirmed (h : known r) :
    Keeps known calls known (missionConfirmed inMemoryMissionRepository r) := by
  simp [missionConfirmed, h]

theorem keeps_confirmMission (others : ∀ c : ProviderCall, c.reserves = false → calls c)
    (registry : ProviderRegistry) (missionId : UUID) :
    Keeps known calls known (confirmMission inMemoryMissionRepository registry missionId) := by
  refine keeps_load (by simp) fun r h => ?_
  simp only [keeps_bind, keeps_read, keeps_ite, h, true_and]
  refine fun mission => ⟨fun _ => by simp, fun _ => ?_⟩
  split
  · simp
  · exact keeps_missionConfirmed h
  · split
    · simp
    · simp only [keeps_bind, keeps_addEvent, h, true_and]
      refine keeps_callProvider h (others _ rfl) (keeps_failProviderOperation h _ _)
        fun confirmation => ?_
      simp [keeps_concludeMission, keeps_missionConfirmed, h]

theorem keeps_missionCancelled (h : known r) :
    Keeps known calls known (missionCancelled inMemoryMissionRepository r) := by
  exact keeps_concludeMission h _ _ _ _

theorem keeps_cancelProviderReservation
    (others : ∀ c : ProviderCall, c.reserves = false → calls c) (h : known r)
    (registry : ProviderRegistry) (mission : Mission) :
    Keeps known calls known
      (cancelProviderReservation inMemoryMissionRepository registry r mission) := by
  unfold cancelProviderReservation
  split
  · simp
  · exact keeps_missionCancelled h
  · split
    · simp
    · simp only [keeps_bind, keeps_addEvent, h, true_and]
      have failed : ∀ p : Service memory Ref, Keeps known calls known p →
          Keeps known calls known (p >>= fun _ => pure r) := fun p hp =>
        (keeps_bind _ _ _).mpr (keeps_mono (fun _ _ => (keeps_pure _ _).mpr h) hp)
      refine keeps_callProvider h (others _ rfl)
        (fun _ => failed _ (keeps_failProviderOperation h _ _ _)) fun cancellation => ?_
      refine (keeps_ite _ _ _ _).mpr
        ⟨fun _ => failed _ (keeps_concludeMission h _ _ _ _), fun _ => ?_⟩
      simp [keeps_missionCancelled, h]

theorem keeps_cancelMission (others : ∀ c : ProviderCall, c.reserves = false → calls c)
    (registry : ProviderRegistry) (missionId : UUID) :
    Keeps known calls known (cancelMission inMemoryMissionRepository registry missionId) := by
  refine keeps_load (by simp) fun r h => ?_
  simp [h, keeps_cancelProviderReservation others, keeps_missionCancelled]

theorem keeps_pauseMission (missionId : UUID) :
    Keeps known calls known (pauseMission inMemoryMissionRepository missionId) := by
  refine keeps_load (by simp) fun r h => ?_
  simp [h]

theorem keeps_resumeMission (missionId : UUID) :
    Keeps known calls known (resumeMission inMemoryMissionRepository missionId) := by
  refine keeps_load (by simp) fun r h => ?_
  simp [h]

theorem keeps_unscheduleMission (h : known r) (mission : Mission) (now : Time) :
    Keeps known calls known (unscheduleMission inMemoryMissionRepository r mission now) := by
  simp [unscheduleMission, h]

theorem keeps_scheduleMissionAt (h : known r) (mission : Mission) (scheduledAt now : Time) :
    Keeps known calls known
      (scheduleMissionAt inMemoryMissionRepository r mission scheduledAt now) := by
  simp [scheduleMissionAt, h]

theorem keeps_scheduleMission (missionId : UUID) (scheduledAt currentTime : Option Time) :
    Keeps known calls known
      (scheduleMission inMemoryMissionRepository missionId scheduledAt currentTime) := by
  refine (keeps_bind _ _ _).mpr (keeps_orUtcNow _ _ fun now => ?_)
  refine keeps_load (by simp) fun r h => ?_
  simp only [keeps_bind, keeps_read, keeps_ite, h, true_and]
  refine fun mission => ⟨fun _ => by simp, fun _ => ⟨fun _ => by simp [h], fun _ => ?_⟩⟩
  split
  · exact keeps_unscheduleMission h _ _
  · exact keeps_scheduleMissionAt h _ _ _

theorem keeps_assignAll {r : Ref} (h : known r) (assignments : List Assignment) :
    Keeps known calls (fun _ => True) (assignAll (B := memory) r assignments) := by
  induction assignments with
  | nil => simp [assignAll]
  | cons assignment rest ih => simpa [assignAll, h] using ih

theorem keeps_updateMission (registry : ProviderRegistry) (missionId : UUID)
    (update : MissionUpdate) :
    Keeps known calls known
      (updateMission inMemoryMissionRepository registry missionId update) := by
  refine keeps_load (by simp) fun r h => ?_
  simp only [keeps_bind, keeps_read, keeps_ite, h, true_and]
  refine fun mission => ⟨fun _ => by simp, fun _ => ⟨fun _ => by simp, fun _ => ?_⟩⟩
  refine keeps_fromExcept _ _ fun _ => keeps_mono (fun _ _ => ?_) (keeps_assignAll h _)
  simp [h]

theorem keeps_retryMission (missionId : UUID) (options : RetryOptions) :
    Keeps known calls known (retryMission inMemoryMissionRepository missionId options) := by
  refine (keeps_bind _ _ _).mpr (keeps_orUtcNow _ _ fun now => ?_)
  refine (keeps_ite _ _ _ _).mpr ⟨fun _ => by simp, fun _ => ?_⟩
  refine keeps_load (by simp) fun r h => ?_
  simp [resetForRetry, h]

theorem keeps_scheduleAutomaticRetry (h : known r) (currentTime : Time)
    (policy : MissionRetryPolicy) (reason : String) :
    Keeps known calls known
      (scheduleAutomaticRetry inMemoryMissionRepository r currentTime policy reason) := by
  simp only [scheduleAutomaticRetry, keeps_bind, keeps_read, h, true_and]
  exact fun mission => keeps_fromExcept _ _ fun retryAt => keeps_retryMission _ _

theorem keeps_markClaimedMissionFailed (h : known r) (message : String) :
    Keeps known calls known
      (markClaimedMissionFailed inMemoryMissionRepository r message) := by
  simp only [markClaimedMissionFailed, keeps_bind, keeps_read, h, true_and]
  refine fun mission => keeps_get _ _ ?_ fun stored hs => ?_
  · simp [h]
  · simp [hs]

theorem keeps_recordTerminalFailure (h : known r) (currentTime : Time) :
    Keeps known calls known
      (recordTerminalFailure inMemoryMissionRepository r currentTime) := by
  simp [recordTerminalFailure, h]

theorem keeps_handleFailedRun (h : known r) (missionId : UUID) (currentTime : Time)
    (policy : MissionRetryPolicy) (result : DueMissionProcessingResult) (exc : PyException) :
    Keeps known calls (fun _ => True)
      (handleFailedRun inMemoryMissionRepository r missionId currentTime policy result exc) := by
  simp only [handleFailedRun, keeps_bind]
  refine keeps_mono (fun failed hf => ?_) (keeps_markClaimedMissionFailed h _)
  refine (keeps_ite _ _ _ _).mpr ⟨fun _ => ?_, fun _ => by simp⟩
  exact (keeps_bind _ _ _).mpr
    (keeps_mono (fun _ _ => by simp) (keeps_scheduleAutomaticRetry hf _ _ _))

theorem keeps_handleFinishedRun (h : known r) (currentTime : Time)
    (policy : MissionRetryPolicy) (result : DueMissionProcessingResult) :
    Keeps known calls (fun _ => True)
      (handleFinishedRun inMemoryMissionRepository r currentTime policy result) := by
  have retried : ∀ reason, Keeps known calls (fun _ => True)
      (scheduleAutomaticRetry inMemoryMissionRepository r currentTime policy reason) :=
    fun reason => keeps_mono (fun _ _ => trivial) (keeps_scheduleAutomaticRetry h _ _ _)
  have recorded : Keeps known calls (fun _ => True)
      (recordTerminalFailure inMemoryMissionRepository r currentTime) :=
    keeps_mono (fun _ _ => trivial) (keeps_recordTerminalFailure h _)
  simp [handleFinishedRun, h, retried, recorded]

theorem keeps_processClaimedMission (all : ∀ c, calls c) (h : known r) (registry : ProviderRegistry)
    (currentTime : Time) (policy : MissionRetryPolicy) (result : DueMissionProcessingResult) :
    Keeps known calls (fun _ => True)
      (processClaimedMission inMemoryMissionRepository registry currentTime policy r result) := by
  simp only [processClaimedMission, keeps_bind, keeps_read, h, true_and]
  refine fun mission => keeps_attempt _ _
    (keeps_mono (fun updated hu => ?_) (keeps_runMission all _ _ _)) fun exc => ?_
  · exact keeps_handleFinishedRun hu _ _ _
  · simp [keeps_handleFailedRun h]

theorem keeps_processClaimedMissions (all : ∀ c, calls c) (registry : ProviderRegistry) (currentTime : Time)
    (policy : MissionRetryPolicy) (rs : List Ref) (h : ∀ r ∈ rs, known r)
    (result : DueMissionProcessingResult) :
    Keeps known calls (fun _ => True)
      (processClaimedMissions inMemoryMissionRepository registry currentTime policy rs
        result) := by
  induction rs generalizing result with
  | nil => simp [processClaimedMissions]
  | cons r rest ih =>
      simp only [List.mem_cons, forall_eq_or_imp] at h
      simp only [processClaimedMissions, keeps_bind]
      exact keeps_mono (fun result _ => ih h.2 result)
        (keeps_processClaimedMission all h.1 _ _ _ _)

theorem keeps_missionIds (rs : List Ref) (h : ∀ r ∈ rs, known r) :
    Keeps known calls (fun _ => True) (missionIds rs) := by
  induction rs with
  | nil => simp [missionIds]
  | cons r rest ih =>
      simp only [List.mem_cons, forall_eq_or_imp] at h
      simp [missionIds, h.1, ih h.2]

theorem keeps_expireDueMissions (currentTime : Time) (limit : Int) :
    Keeps known calls (fun rs => ∀ r ∈ rs, known r)
      (expireDueMissions inMemoryMissionRepository currentTime limit) := by
  simp [expireDueMissions, keeps_expireDue]

theorem keeps_processDueMissions (all : ∀ c, calls c) (registry : ProviderRegistry) (currentTime : Time)
    (limit : Int) (policy : MissionRetryPolicy) :
    Keeps known calls (fun _ => True)
      (processDueMissions inMemoryMissionRepository registry currentTime limit policy) := by
  simp only [processDueMissions, keeps_bind]
  refine keeps_mono (fun expired he => ?_) (keeps_expireDueMissions _ _)
  refine keeps_mono (fun claimed hc => ?_) (keeps_claimDue _ _)
  exact keeps_mono (fun ids _ => keeps_processClaimedMissions all _ _ _ claimed hc _)
    (keeps_missionIds expired he)

theorem keeps_service (registry : ProviderRegistry) (command : Command)
    (allowed : ∀ c : ProviderCall, (c.reserves = true → command.reserves = true) → calls c) :
    Keeps known calls (fun _ => True) (command.service inMemoryMissionRepository registry) := by
  have discard : ∀ {α : Type} {post : α → Prop} {p : Service memory α}, Keeps known calls post p →
      Keeps known calls (fun _ => True) (Command.service.discard p) := fun hp => by
    simpa [Command.service.discard] using keeps_mono (fun _ _ => trivial) hp
  have others : ∀ c : ProviderCall, c.reserves = false → calls c := fun c quiet =>
    allowed c (by simp [quiet])
  cases command with
  | runMission => exact discard (keeps_runMission (fun c => allowed c fun _ => rfl) _ _ _)
  | confirmMission => exact discard (keeps_confirmMission others _ _)
  | cancelMission => exact discard (keeps_cancelMission others _ _)
  | pauseMission => exact discard (keeps_pauseMission _)
  | resumeMission => exact discard (keeps_resumeMission _)
  | scheduleMission => exact discard (keeps_scheduleMission _ _ _)
  | updateMission => exact discard (keeps_updateMission _ _ _)
  | retryMission => exact discard (keeps_retryMission _ _)
  | expireDue => exact discard (keeps_expireDueMissions _ _)
  | recoverStaleProcessing => exact discard (keeps_recoverStaleProcessing _ _ _)
  | processDueMissions => exact discard (keeps_processDueMissions (fun c => allowed c fun _ => rfl) _ _ _ _)

end Walk
end PurchaseAgent
