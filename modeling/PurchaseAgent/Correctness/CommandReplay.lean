import PurchaseAgent.Correctness.CommandIdempotency
import PurchaseAgent.Correctness.Initial
import PurchaseAgent.Correctness.StoredResults

/-!
Repeated mission commands over the in-memory repository: a request that is sent
again after it has been completed finds its receipt only if `If-Match` still
agrees with the version of the mission, because the version is checked first.
-/

namespace PurchaseAgent

open Cooperative Receipts Collections InMemoryMissionRepository
open InMemoryMissionCommandIdempotencyStore (Api)

variable {σ : Type} {env : Environment σ}

/-- The endpoints differ in what they execute and which exceptions they handle. -/
theorem endpoint_eq (request : MissionCommandRequest) (registry : ProviderRegistry) :
    ∃ handle, ∀ ifMatch,
      { request with ifMatch := ifMatch }.endpoint inMemoryMissionRepository registry =
        missionCommandEndpoint inMemoryMissionRepository request.missionId request.command
          request.idempotencyKey ifMatch (request.execute registry) handle := by
  obtain ⟨command, missionId, idempotencyKey, ifMatch, retryAt⟩ := request
  cases command <;> exact ⟨_, fun _ => rfl⟩

/-- Requests for commands, and whatever else works on the missions. -/
inductive ApiWork where
  | command (request : MissionCommandRequest)
  | other (program : Service memory Unit)

def ApiWork.run (registry : ProviderRegistry) :
    ApiWork → Api (signature memory) (Option (Ref × String))
  | .command request => do
    let response ← request.endpoint inMemoryMissionRepository registry
    pure (some response)
  | .other program => do
    ApiTask.service program
    pure none

abbrev ApiConfig (σ : Type) :=
  Config (Receipts.signature String (UUID × MissionCommandType) UUID (signature memory))
    (Receipts.World String (UUID × MissionCommandType) UUID (MemoryWorld σ))
    (Except ApiException (Option (Ref × String)))

def startApi (registry : ProviderRegistry) (works : TaskId → ApiWork) (inner : MemoryWorld σ) :
    ApiConfig σ where
  shared := ⟨[], inner, []⟩
  tasks t := ((works t).run registry).run
  running := none

/-- The operation only loads a mission. -/
def Op.Loads : Op memory → Prop
  | .read _ | .repository (.get _) => True
  | _ => False

/-- Requests only load, except while they execute; a completed mission is stored. -/
def replayProtocol (env : Environment σ) (works : TaskId → ApiWork) :
    Protocol String (UUID × MissionCommandType) UUID (machine memory env) where
  requests t :=
    match works t with
    | .command request => (request.idempotencyKey, request.missionId, request.command)
    | .other _ => ("", .nil, .run)
  uses t := ∃ request, works t = .command request
  work t o
    | none => (∃ request, works t = .command request) → o.Loads
    | some .begun => True
    | some (.replayed _) | some (.completed _) => o.Loads
    | some (.refused _) | some (.succeeded _) | some .failed | some .aborted => False
  invariant _ := True
  good _ id w := Holds w id
  abortsReplays := False
  keeps _ _ _ _ := trivial
  stable t o _ _ _ _ holds := holds.exec t o

section Program
variable {works : TaskId → ApiWork} {registry : ProviderRegistry} {t : TaskId}
  {request : MissionCommandRequest}
  {w : Receipts.World String (UUID × MissionCommandType) UUID (MemoryWorld σ)}

theorem permits_request (own : works t = .command request) :
    Permits (replayProtocol env works) t inMemoryMissionRepository request.idempotencyKey
      request.missionId request.command (request.execute registry) where
  own := by simp only [replayProtocol, own]
  uses := ⟨request, own⟩
  execution _ := trivial
  replay previous o mentioned := by
    rcases mentioned with rfl | ⟨_, later⟩
    · trivial
    · exact later.elim
  good w := by
    refine Discipline.safe_seq (returnsStored_execute request registry w) ?_
      fun _ _ _ _ _ raised => nomatch raised
    rintro r w' stored _ rfl -
    refine ⟨trivial, ?_⟩
    rintro _ _ ⟨⟩
    exact stored r rfl

/-- `If-Match` can be read. -/
def Readable (ifMatch : Option String) : Prop :=
  ∀ text ∈ ifMatch, ∃ expected, expectedSequence text = some expected ∧ ¬ expected < 0

/-- The check of `If-Match` leaves everything to do. -/
theorem safe_ensureMissionVersion (missionId : UUID) (ifMatch : Option String)
    (h : (replayProtocol env works).Inv w) (fresh : w.stage t = none) :
    ApiTask.Safe (replayProtocol env works) t
      (ensureMissionVersion inMemoryMissionRepository missionId ifMatch)
      (fun outcome w' => (replayProtocol env works).Inv w' ∧ w'.stage t = none ∧
        (outcome = .ok () → Readable ifMatch)) w := by
  have getting : (inMemoryMissionRepository.get missionId).run.Each (F := signature memory)
      (fun _ _ => True) (fun o => (replayProtocol env works).work t o none) fun _ => True :=
    ⟨fun _ => trivial, fun _ _ => trivial⟩
  have reading : ∀ r, (Service.read r).run.Each (F := signature memory) (fun _ _ => True)
      (fun o => (replayProtocol env works).work t o none) fun _ => True :=
    fun r => ⟨fun _ => trivial, fun _ _ => trivial⟩
  unfold ensureMissionVersion
  split
  · exact ⟨h, fresh, fun _ _ none => nomatch none⟩
  · split
    · exact ⟨h, fresh, fun raised => nomatch raised⟩
    · rename_i text _ expected parsed
      split
      · exact ⟨h, fresh, fun raised => nomatch raised⟩
      · rename_i nonneg
        have readable : Readable (some text) := by
          rintro _ ⟨⟩
          exact ⟨expected, parsed, nonneg⟩
        refine ApiTask.safe_seq (ApiTask.safe_service _ h fresh getting) ?_
          fun _ _ ended => ⟨ended.1, ended.2.1, fun raised => nomatch raised⟩
        rintro (_ | r) w₁ ⟨inv, untouched, -⟩
        · exact ⟨inv, untouched, fun raised => nomatch raised⟩
        · refine ApiTask.safe_seq (ApiTask.safe_service _ inv untouched (reading r)) ?_
            fun _ _ ended => ⟨ended.1, ended.2.1, fun raised => nomatch raised⟩
          rintro mission w₂ ⟨inv', untouched', -⟩
          dsimp only
          split
          · exact ⟨inv', untouched', fun raised => nomatch raised⟩
          · exact ⟨inv', untouched', fun _ => readable⟩

/-- A response comes with a finished receipt. -/
def Responds (ifMatch : Option String) (stage : Option (Receipts.Stage UUID)) {α : Type}
    (answer : Except ApiException α) : Prop :=
  ∀ response, answer = .ok response →
    Readable ifMatch ∧ ∃ id, stage.bind Receipts.Stage.result? = some id

theorem Responds.error {ifMatch : Option String} {stage : Option (Receipts.Stage UUID)} {α : Type}
    (e : ApiException) : Responds ifMatch stage (.error e : Except ApiException α) :=
  fun _ impossible => nomatch impossible

theorem safe_endpoint (own : works t = .command request) (h : (replayProtocol env works).Inv w)
    (fresh : w.stage t = none) :
    ApiTask.Safe (replayProtocol env works) t
      (request.endpoint inMemoryMissionRepository registry)
      (fun answer w' => Responds request.ifMatch (w'.stage t) answer) w := by
  obtain ⟨handle, endpoint⟩ := endpoint_eq request registry
  rw [show request.endpoint _ registry = _ from endpoint request.ifMatch]
  refine ApiTask.safe_attempt.mpr (ApiTask.safe_mono (Q := fun answer w' =>
    Responds request.ifMatch (w'.stage t) answer) ?_ ?_)
  · rintro (error | response) w₁ responds
    · dsimp only
      split
      · rename_i impossible
        cases impossible
      · exact .error _
      · exact .error _
      · exact .error _
      · split
        · exact .error _
        · exact .error _
      · exact .error _
    · exact responds
  · refine ApiTask.safe_seq (safe_ensureMissionVersion _ _ h fresh) ?_ fun _ _ _ => .error _
    rintro _ w₁ ⟨inv, untouched, readable⟩
    refine ApiTask.safe_seq (safe_executeIdempotentMissionCommand (permits_request own) inv
      untouched) ?_ fun _ _ _ => .error _
    rintro r w₂ ⟨inv', answers⟩
    obtain ⟨stage, reached, meant, result⟩ : ∃ stage, w₂.stage t = stage ∧
        (∀ o : Op memory, o.Loads → (replayProtocol env works).work t o stage) ∧
          ∃ id, stage.bind Receipts.Stage.result? = some id := by
      cases at_end : w₂.stage t with
      | none =>
          rw [at_end] at answers
          exact answers.elim
      | some stage =>
          rw [at_end] at answers
          refine ⟨_, rfl, ?_⟩
          cases stage with
          | completed result => exact ⟨fun _ loads => loads, _, rfl⟩
          | replayed result => exact ⟨fun _ loads => loads, _, rfl⟩
          | begun => exact answers.elim
          | succeeded id => exact answers.elim
          | failed => exact answers.elim
          | refused reason => cases reason <;> cases answers
          | aborted =>
              obtain ⟨_, impossible⟩ := answers
              cases impossible
    have reading : (Service.read r).run.Each (F := signature memory) (fun _ _ => True)
        (fun o => (replayProtocol env works).work t o stage) fun _ => True :=
      ⟨meant _ trivial, fun _ _ => trivial⟩
    refine ApiTask.safe_seq (ApiTask.safe_service _ inv' reached reading) ?_
      fun _ _ _ => .error _
    rintro mission w₃ ⟨-, at_end, -⟩
    show Responds request.ifMatch (w₃.stage t) _
    rw [at_end]
    exact fun _ _ => ⟨readable rfl, result⟩

/-- What an answer to a request says about the request. -/
def AnswersWork (work : ApiWork) (stage : Option (Receipts.Stage UUID))
    (answer : Except ApiException (Option (Ref × String))) : Prop :=
  ∀ response, answer = .ok (some response) →
    ∃ request, work = .command request ∧ Responds request.ifMatch stage answer

variable (registry) in
theorem safe_work (h : (replayProtocol env works).Inv w) (fresh : w.stage t = none) :
    ApiTask.Safe (replayProtocol env works) t ((works t).run registry)
      (fun answer w' => AnswersWork (works t) (w'.stage t) answer) w := by
  cases own : works t with
  | command request =>
      refine ApiTask.safe_seq (safe_endpoint own h fresh) ?_
        fun e w' _ _ impossible => nomatch impossible
      rintro response w' responds _ ⟨⟩
      refine ⟨request, rfl, ?_⟩
      rintro _ ⟨⟩
      exact responds response rfl
  | other program =>
      have meant : program.run.Each (fun _ _ => True)
          (fun o => (replayProtocol env works).work t o none) fun _ => True := by
        refine Prog.each_of_mentions _ fun o _ => ?_
        rintro ⟨request, impossible⟩
        cases own.symm.trans impossible
      exact ApiTask.safe_seq (ApiTask.safe_service program h fresh meant)
        (fun _ _ _ _ impossible => nomatch impossible) fun _ _ _ _ impossible => nomatch impossible

end Program

/-! The steps of a request that finds its receipt. -/

section Replay
variable {registry : ProviderRegistry} {request : MissionCommandRequest}

abbrev ApiProg :=
  Prog (Receipts.signature String (UUID × MissionCommandType) UUID (signature memory))
    (Except ApiException (Option (Ref × String)))

/-- The version of the loaded mission makes the ETag. -/
def responding (r : Ref) : ApiProg :=
  .op (.inner (.read r)) fun mission => .pure (.ok (some (r, missionEtag mission)))

/-- A replay loads the mission the receipt names. -/
def replaying (id : UUID) : ApiProg :=
  .op (.inner (.repository (.get id))) fun
    | some r => responding r
    | none => .pure (.error .assertionError)

/-- The part of the program that follows the check of `If-Match`. -/
def afterCheck (registry : ProviderRegistry) (request : MissionCommandRequest) : ApiProg :=
  ((ApiWork.command { request with ifMatch := none }).run registry).run

variable (registry request) in
theorem afterCheck_eq : ∃ next, afterCheck registry request =
      .op (.begin request.idempotencyKey (request.missionId, request.command)) next ∧
        ∀ id, next (.ok (some id)) = replaying id := by
  obtain ⟨handle, endpoint⟩ := endpoint_eq request registry
  unfold afterCheck ApiWork.run
  dsimp only
  rw [endpoint]
  refine ⟨_, rfl, fun id => ?_⟩
  exact congrArg (Prog.op _) (funext fun
    | none => rfl
    | some r => rfl)

theorem run_eq_of_absent (absent : request.ifMatch = none) :
    ((ApiWork.command request).run registry).run = afterCheck registry request := by
  obtain ⟨command, missionId, idempotencyKey, ifMatch, retryAt⟩ := request
  subst absent
  rfl

/-- A request goes on after the check of `If-Match` or ends there. -/
theorem run_eq_bind (registry : ProviderRegistry) (request : MissionCommandRequest) :
    ∃ cont : Except ApiException Unit → ApiProg,
      ((ApiWork.command request).run registry).run =
        (ensureMissionVersion inMemoryMissionRepository request.missionId request.ifMatch).run.bind
          cont ∧
      cont (.ok ()) = afterCheck registry request ∧
      ∀ e, ∃ e', cont (.error e) = .pure (.error e') := by
  obtain ⟨handle, endpoint⟩ := endpoint_eq request registry
  have present := endpoint request.ifMatch
  have absent := endpoint none
  unfold afterCheck ApiWork.run
  dsimp only at present ⊢
  rw [present, absent]
  unfold missionCommandEndpoint
  rw [bind_assoc, bind_assoc]
  refine ⟨_, ApiTask.run_attempt_seq _ _ _, ?_, fun e => ?_⟩
  · conv_rhs => rw [ApiTask.run_attempt_seq]
    rfl
  dsimp only
  split
  · rename_i impossible
    cases impossible
  · exact ⟨_, rfl⟩
  · exact ⟨_, rfl⟩
  · exact ⟨_, rfl⟩
  · split
    · exact ⟨_, rfl⟩
    · exact ⟨_, rfl⟩
  · exact ⟨_, rfl⟩

section Loads
variable {α : Type}

theorem run_get (id : UUID) (f : Option Ref → Api (signature memory) α) :
    (ApiTask.service (inMemoryMissionRepository.get id) >>= f).run =
      .op (.inner (.repository (.get id))) fun answer => (f answer).run := rfl

theorem run_read (r : Ref) (f : Mission → Api (signature memory) α) :
    (ApiTask.service (Service.read r) >>= f).run =
      .op (.inner (.read r)) fun mission => (f mission).run := rfl

end Loads

/-- What the check makes of the mission it has loaded. -/
def compareVersion (expected : Int) (mission : Mission) : Except ApiException Unit :=
  if (mission.lastEventSequence : Int) ≠ expected then
    .error (.httpException (missionVersionConflict mission.lastEventSequence expected))
  else .ok ()

/-- The check of a version that can be read loads the mission and compares. -/
theorem check_eq {text : String} {expected : Int} (missionId : UUID)
    (parsed : expectedSequence text = some expected) (nonneg : ¬ expected < 0) :
    (ensureMissionVersion inMemoryMissionRepository missionId (some text)).run =
      (.op (.inner (.repository (.get missionId))) fun
        | none => .pure (.error (.service .missionNotFoundError))
        | some r => .op (.inner (.read r)) fun mission => .pure (compareVersion expected mission) :
        Prog (Receipts.signature String (UUID × MissionCommandType) UUID (signature memory))
          (Except ApiException Unit)) := by
  unfold ensureMissionVersion
  dsimp only
  rw [parsed]
  dsimp only
  rw [if_neg nonneg, run_get]
  refine congrArg _ (funext fun loaded => ?_)
  cases loaded with
  | none => rfl
  | some r =>
      dsimp only
      rw [run_read]
      refine congrArg _ (funext fun mission => ?_)
      unfold compareVersion
      split
      · rfl
      · rfl

/-- The machine of the requests. -/
abbrev apiMachine (env : Environment σ) :=
  Receipts.machine String (UUID × MissionCommandType) UUID (machine memory env)

variable {id : UUID} {c : ApiConfig σ} {t : TaskId} {n : Nat}

/-- Where a request stands that finds its receipt, with the number of operations
still to come. -/
inductive ReplayPoint (registry : ProviderRegistry) (request : MissionCommandRequest) (id : UUID)
    (c : ApiConfig σ) (t : TaskId) : Nat → Prop
  | sent (task : c.tasks t = ((ApiWork.command request).run registry).run)
      (checks : request.ifMatch.isSome) (untouched : c.shared.stage t = none) : ReplayPoint _ _ _ _ _ 5
  | compares (r : Ref) (compare : Mission → ApiProg) (task : c.tasks t = .op (.inner (.read r)) compare)
      (running : c.running = some t)
      (agrees : compare (c.shared.inner.mission r) = afterCheck registry request)
      (untouched : c.shared.stage t = none) : ReplayPoint _ _ _ _ _ 4
  | checked (task : c.tasks t = afterCheck registry request) (untouched : c.shared.stage t = none) :
      ReplayPoint _ _ _ _ _ 3
  | loads (task : c.tasks t = replaying id) (replayed : c.shared.stage t = some (.replayed id)) :
      ReplayPoint _ _ _ _ _ 2
  | responds (r : Ref) (task : c.tasks t = responding r) (running : c.running = some t)
      (found : c.shared.inner.repository.missions.get? id = some r)
      (replayed : c.shared.stage t = some (.replayed id)) : ReplayPoint _ _ _ _ _ 1

/-- The request has been refused or is about to be. -/
def Refused (c : ApiConfig σ) (t : TaskId) : Prop :=
  (∃ e, c.tasks t = .pure (.error e)) ∨
    ∃ r compare, c.tasks t = .op (.inner (.read r)) compare ∧ c.running = some t ∧
      ∃ e, compare (c.shared.inner.mission r) = .pure (.error e)

/-- The answer is the mission that is stored under the id. -/
def Delivers (w : MemoryWorld σ) (id : UUID)
    (answer : Except ApiException (Option (Ref × String))) : Prop :=
  ∃ r, w.repository.missions.get? id = some r ∧ answer = .ok (some (r, missionEtag (w.mission r)))

/-- `If-Match` names the version of the mission. -/
def VersionMatches (request : MissionCommandRequest) (w : MemoryWorld σ) : Prop :=
  ∀ text ∈ request.ifMatch, ∃ r, w.repository.missions.get? request.missionId = some r ∧
    expectedSequence text = some ((w.mission r).lastEventSequence : Int)

/-- Wherever the request loads the mission for the check, the version matches. -/
def MatchesWhenChecked (env : Environment σ) (request : MissionCommandRequest) (replay : TaskId)
    (c : ApiConfig σ) (t : TaskId) : Prop :=
  t = replay → c.shared.stage t = none →
    c.Performs (apiMachine env) t (.inner (.repository (.get request.missionId))) →
      VersionMatches request c.shared.inner

/-- A step of the request that changes neither the receipts nor anything else. -/
def ChangesNothing (env : Environment σ) (replay : TaskId) (c : ApiConfig σ) (t : TaskId) : Prop :=
  t = replay → (c.step (apiMachine env) t).shared.table = c.shared.table ∧
    (c.step (apiMachine env) t).shared.inner = c.shared.inner

theorem Refused.step (h : Refused c t) (other : TaskId) : Refused (c.step (apiMachine env) other) t := by
  rcases h with ⟨e, ended⟩ | ⟨r, compare, task, running, e, refuses⟩
  · exact .inl ⟨e, c.step_ended _ ended other⟩
  · by_cases own : other = t
    · subst own
      obtain ⟨task', -, -⟩ := c.step_own (apiMachine env) task (.inr running) rfl
      exact .inl ⟨e, task'.trans refuses⟩
    · rw [(c.step_other (apiMachine env) own).2 running]
      exact .inr ⟨r, compare, task, running, e, refuses⟩

/-- The steps of other tasks. -/
theorem ReplayPoint.step_other (h : ReplayPoint registry request id c t n) {other : TaskId}
    (differs : other ≠ t) : ReplayPoint registry request id (c.step (apiMachine env) other) t n := by
  obtain ⟨same, holds⟩ := c.step_other (apiMachine env) differs
  have stage : (c.step (apiMachine env) other).shared.stage t = c.shared.stage t := by
    rcases c.step_shared (apiMachine env) other with unchanged | ⟨o, -, performed⟩
    · rw [unchanged]
    · rw [performed]
      exact Protocol.exec_stage_of_ne (Ne.symm differs)
  cases h with
  | sent task checks untouched => exact .sent (same.trans task) checks (stage.trans untouched)
  | compares r compare task running agrees untouched =>
      rw [holds running]
      exact .compares r compare task running agrees untouched
  | checked task untouched => exact .checked (same.trans task) (stage.trans untouched)
  | loads task replayed => exact .loads (same.trans task) (stage.trans replayed)
  | responds r task running found replayed =>
      rw [holds running]
      exact .responds r task running found replayed

/-- The receipt of the request is finished, and the mission it names is stored. -/
def Finished (request : MissionCommandRequest) (id : UUID)
    (w : Receipts.World String (UUID × MissionCommandType) UUID (MemoryWorld σ)) : Prop :=
  w.table.get? request.idempotencyKey = some ⟨(request.missionId, request.command), some id⟩ ∧
    Holds w.inner id

/-- What becomes of a request by one operation. -/
inductive ReplayStep (env : Environment σ) (registry : ProviderRegistry)
    (request : MissionCommandRequest) (id : UUID) (c : ApiConfig σ) (t : TaskId) (n : Nat) : Prop
  | goesOn (m : Nat) (less : m < n) (matched : MatchesWhenChecked env request t c t)
      (point : ReplayPoint registry request id (c.step (apiMachine env) t) t m)
  | delivers (answer : Except ApiException (Option (Ref × String)))
      (matched : MatchesWhenChecked env request t c t)
      (ended : (c.step (apiMachine env) t).tasks t = .pure answer)
      (delivered : Delivers (c.step (apiMachine env) t).shared.inner id answer)
  | refused (early : 2 ≤ n) (mismatch : ¬ MatchesWhenChecked env request t c t)
      (refused : Refused (c.step (apiMachine env) t) t)

/-- A step that performs something else than the load for the check. -/
theorem matchesWhenChecked_of_task {o : Receipts.Op String (UUID × MissionCommandType) UUID
      (signature memory)} {next : o.Answer → ApiProg} (task : c.tasks t = .op o next)
    (other : o ≠ .inner (.repository (.get request.missionId))) :
    MatchesWhenChecked env request t c t := by
  rintro - - ⟨-, -, next', task'⟩
  cases task.symm.trans task'
  exact absurd rfl other

theorem ReplayPoint.step_sent (readable : Readable request.ifMatch)
    (task : c.tasks t = ((ApiWork.command request).run registry).run)
    (checks : request.ifMatch.isSome) (untouched : c.shared.stage t = none) (admits : c.Admits t) :
    ReplayStep env registry request id c t 5 ∧ ChangesNothing env t c t := by
  obtain ⟨text, present⟩ := Option.isSome_iff_exists.mp checks
  obtain ⟨expected, parsed, nonneg⟩ := readable text present
  obtain ⟨cont, program, passed, failed⟩ := run_eq_bind registry request
  rw [program, present, check_eq _ parsed nonneg] at task
  obtain ⟨task', shared, running⟩ := c.step_own (apiMachine env) task admits rfl
  have performs : c.Performs (apiMachine env) t (.inner (.repository (.get request.missionId))) :=
    ⟨admits, rfl, _, task⟩
  have unchanged : (c.step (apiMachine env) t).shared = c.shared := shared
  have answer : ((apiMachine env).exec t (.inner (.repository (.get request.missionId))) c.shared).1 =
    c.shared.inner.repository.missions.get? request.missionId := rfl
  rw [answer] at task' running
  refine ⟨?_, fun _ => by rw [unchanged]; exact ⟨rfl, rfl⟩⟩
  cases found : c.shared.inner.repository.missions.get? request.missionId with
  | none =>
      rw [found] at task'
      refine .refused (by decide) (fun matched => ?_) (.inl ?_)
      · obtain ⟨r, stored, -⟩ := matched rfl untouched performs text present
        cases found.symm.trans stored
      · obtain ⟨e', refused⟩ := failed (.service .missionNotFoundError)
        exact ⟨e', task'.trans refused⟩
  | some r =>
      rw [found] at task' running
      have compares : ∀ outcome, compareVersion expected (c.shared.inner.mission r) = outcome →
          (Prog.pure (compareVersion expected (c.shared.inner.mission r)) :
            Prog (Receipts.signature String (UUID × MissionCommandType) UUID (signature memory))
              (Except ApiException Unit)).bind cont = cont outcome := by
        rintro _ rfl
        rfl
      by_cases same : ((c.shared.inner.mission r).lastEventSequence : Int) = expected
      · refine .goesOn 4 (by decide) (fun _ _ _ => ?_) (.compares r _ task' running ?_ ?_)
        · rintro text' present'
          cases present.symm.trans present'
          exact ⟨r, found, by rw [parsed, same]⟩
        · rw [unchanged]
          exact (compares _ (if_neg (not_not_intro same))).trans passed
        · rw [unchanged]
          exact untouched
      · refine .refused (by decide) (fun matched => ?_) (.inr ⟨r, _, task', running, ?_⟩)
        · obtain ⟨r', stored, version⟩ := matched rfl untouched performs text present
          cases found.symm.trans stored
          exact same (Option.some.inj (version.symm.trans parsed))
        · rw [unchanged]
          obtain ⟨e', refused⟩ := failed (.httpException
            (missionVersionConflict (c.shared.inner.mission r).lastEventSequence expected))
          exact ⟨e', (compares _ (if_pos same)).trans refused⟩

variable (env) in
theorem ReplayPoint.step_own (h : ReplayPoint registry request id c t n)
    (readable : Readable request.ifMatch) (finished : Finished request id c.shared)
    (admits : c.Admits t) :
    ReplayStep env registry request id c t n ∧ ChangesNothing env t c t := by
  cases h with
  | sent task checks untouched => exact step_sent readable task checks untouched admits
  | compares r compare task running agrees untouched =>
      obtain ⟨task', shared, -⟩ := c.step_own (apiMachine env) task admits rfl
      have unchanged : (c.step (apiMachine env) t).shared = c.shared := shared
      refine ⟨.goesOn 3 (by decide) (matchesWhenChecked_of_task task (by simp)) (.checked ?_ ?_), ?_⟩
      · exact task'.trans agrees
      · rw [unchanged]
        exact untouched
      · exact fun _ => by rw [unchanged]; exact ⟨rfl, rfl⟩
  | checked task untouched =>
      obtain ⟨next, program, replays⟩ := afterCheck_eq registry request
      rw [program] at task
      obtain ⟨task', shared, -⟩ := c.step_own (apiMachine env) task admits rfl
      have found : c.shared.table.begin request.idempotencyKey (request.missionId, request.command) =
          (.ok (some id), c.shared.table) := begin_of_finished finished.1
      have answer : ((apiMachine env).exec t (.begin request.idempotencyKey
          (request.missionId, request.command)) c.shared).1 = .ok (some id) :=
        congrArg Prod.fst found
      have begun : (c.step (apiMachine env) t).shared = c.shared.note t (.replayed id) := by
        rw [shared]
        simp only [Receipts.machine, Receipts.exec, found, begunStage]
      rw [answer, replays] at task'
      refine ⟨.goesOn 2 (by decide) (matchesWhenChecked_of_task task (by simp)) (.loads task' ?_), ?_⟩
      · rw [begun]
        exact World.stage_note_self _ _ _
      · exact fun _ => by rw [begun]; exact ⟨rfl, rfl⟩
  | loads task replayed =>
      obtain ⟨task', shared, running⟩ := c.step_own (apiMachine env) task admits rfl
      have unchanged : (c.step (apiMachine env) t).shared = c.shared := shared
      obtain ⟨r, found⟩ := Option.isSome_iff_exists.mp finished.2
      have answer : ((apiMachine env).exec t (.inner (.repository (.get id))) c.shared).1 = some r :=
        found
      rw [answer] at task' running
      refine ⟨.goesOn 1 (by decide) (fun _ untouched => ?_) (.responds r task' running ?_ ?_), ?_⟩
      · cases replayed.symm.trans untouched
      · rw [unchanged]
        exact found
      · rw [unchanged]
        exact replayed
      · exact fun _ => by rw [unchanged]; exact ⟨rfl, rfl⟩
  | responds r task running found replayed =>
      obtain ⟨task', shared, -⟩ := c.step_own (apiMachine env) task admits rfl
      have unchanged : (c.step (apiMachine env) t).shared = c.shared := shared
      refine ⟨.delivers _ (matchesWhenChecked_of_task task (by simp)) task' ⟨r, ?_, ?_⟩, ?_⟩
      · rw [unchanged]
        exact found
      · rw [unchanged]
        rfl
      · exact fun _ => by rw [unchanged]; exact ⟨rfl, rfl⟩

/-- A refused request does nothing more. -/
theorem Refused.changesNothing (h : Refused c t) (other : TaskId) :
    ChangesNothing env t c other := by
  rintro rfl
  rcases h with ⟨e, ended⟩ | ⟨r, compare, task, running, -⟩
  · rcases c.step_cases (apiMachine env) other with same | ⟨o, next, -, -, task, -⟩
    · rw [same]
      exact ⟨rfl, rfl⟩
    · cases ended.symm.trans task
  · obtain ⟨-, shared, -⟩ := c.step_own (apiMachine env) task (.inr running) rfl
    have unchanged : (c.step (apiMachine env) other).shared = c.shared := shared
    rw [unchanged]
    exact ⟨rfl, rfl⟩

/-- What a request comes to that finds its receipt: its answer, its refusal, or
it is still on its way. -/
inductive ReplayRun (env : Environment σ) (registry : ProviderRegistry)
    (request : MissionCommandRequest) (id : UUID) (t : TaskId) (c : ApiConfig σ)
    (sched : List TaskId) : Prop
  | goesOn (n : Nat) (matched : c.Along (apiMachine env) (MatchesWhenChecked env request t) sched)
      (point : ReplayPoint registry request id (c.run (apiMachine env) sched) t n)
  | delivers (moment : List TaskId) (answer : Except ApiException (Option (Ref × String)))
      (matched : c.Along (apiMachine env) (MatchesWhenChecked env request t) sched)
      (before : moment <+: sched)
      (ended : (c.run (apiMachine env) sched).tasks t = .pure answer)
      (delivered : Delivers (c.run (apiMachine env) moment).shared.inner id answer)
  | refused (mismatch : ¬ c.Along (apiMachine env) (MatchesWhenChecked env request t) sched)
      (refused : Refused (c.run (apiMachine env) sched) t)

variable (env request) in
/-- After the answer. -/
theorem delivered_run {answer : Except ApiException (Option (Ref × String))} (sched : List TaskId)
    (ended : c.tasks t = .pure answer) :
    (c.run (apiMachine env) sched).tasks t = .pure answer ∧
      c.Along (apiMachine env) (MatchesWhenChecked env request t) sched ∧
      c.Along (apiMachine env) (ChangesNothing env t) sched := by
  induction sched generalizing c with
  | nil => exact ⟨ended, trivial, trivial⟩
  | cons other rest ih =>
      obtain ⟨stays, matched, quiet⟩ := ih (c.step_ended (apiMachine env) ended other)
      refine ⟨stays, ⟨?_, matched⟩, ⟨?_, quiet⟩⟩
      · rintro rfl - ⟨-, -, next, task⟩
        cases ended.symm.trans task
      · rintro rfl
        rcases c.step_cases (apiMachine env) other with same | ⟨o, next, -, -, task, -⟩
        · rw [same]
          exact ⟨rfl, rfl⟩
        · cases ended.symm.trans task

variable (env) in
theorem Refused.run (h : Refused c t) (sched : List TaskId) :
    Refused (c.run (apiMachine env) sched) t ∧
      c.Along (apiMachine env) (ChangesNothing env t) sched := by
  induction sched generalizing c with
  | nil => exact ⟨h, trivial⟩
  | cons other rest ih =>
      obtain ⟨stays, quiet⟩ := ih (h.step other)
      exact ⟨stays, h.changesNothing other, quiet⟩

theorem ReplayRun.cons {other : TaskId} {rest : List TaskId}
    (matched : MatchesWhenChecked env request t c other)
    (h : ReplayRun env registry request id t (c.step (apiMachine env) other) rest) :
    ReplayRun env registry request id t c (other :: rest) := by
  cases h with
  | goesOn n matched' point => exact .goesOn n ⟨matched, matched'⟩ point
  | delivers moment answer matched' before ended delivered =>
      exact .delivers (other :: moment) answer ⟨matched, matched'⟩
        (List.cons_prefix_cons.mpr ⟨rfl, before⟩) ended delivered
  | refused mismatch refused => exact .refused (fun along => mismatch along.2) refused

/-- Along the run the receipt stays as it is, so the request finds it. -/
theorem ReplayPoint.run (h : ReplayPoint registry request id c t n)
    (readable : Readable request.ifMatch) (sched : List TaskId)
    (finished : c.Along (apiMachine env) (fun c _ => Finished request id c.shared) sched) :
    ReplayRun env registry request id t c sched ∧
      c.Along (apiMachine env) (ChangesNothing env t) sched := by
  induction sched generalizing c n with
  | nil => exact ⟨.goesOn n trivial h, trivial⟩
  | cons other rest ih =>
      obtain ⟨here, later⟩ := finished
      by_cases own : other = t ∧ c.Admits t
      · obtain ⟨rfl, admits⟩ := own
        obtain ⟨step, quiet⟩ := h.step_own env readable here admits
        cases step with
        | goesOn m less matched point =>
            obtain ⟨runs, quiet'⟩ := ih point later
            exact ⟨runs.cons matched, quiet, quiet'⟩
        | delivers answer matched ended delivered =>
            obtain ⟨stays, matched', quiet'⟩ := delivered_run env request rest ended
            exact ⟨.delivers [other] answer ⟨matched, matched'⟩
              (List.cons_prefix_cons.mpr ⟨rfl, List.nil_prefix⟩) stays delivered, quiet, quiet'⟩
        | refused early mismatch refused =>
            obtain ⟨stays, quiet'⟩ := refused.run env rest
            exact ⟨.refused (fun along => mismatch along.1) stays, quiet, quiet'⟩
      · have waits : other = t → c.step (apiMachine env) other = c := fun same =>
          c.step_of_not_admits _ fun admits => own ⟨same, same ▸ admits⟩
        have point : ReplayPoint registry request id (c.step (apiMachine env) other) t n := by
          by_cases same : other = t
          · rwa [waits same]
          · exact h.step_other same
        obtain ⟨runs, quiet⟩ := ih point later
        refine ⟨runs.cons ?_, fun same => ?_, quiet⟩
        · rintro rfl - performs
          exact absurd ⟨rfl, performs.1⟩ own
        · rw [waits same]
          exact ⟨rfl, rfl⟩

theorem ReplayPoint.le (h : ReplayPoint registry request id c t n) : n ≤ 5 := by
  cases h <;> decide

theorem ReplayPoint.going (h : ReplayPoint registry request id c t n)
    (readable : Readable request.ifMatch) : (c.tasks t).finished = false := by
  cases h with
  | sent task checks =>
      obtain ⟨text, present⟩ := Option.isSome_iff_exists.mp checks
      obtain ⟨expected, parsed, nonneg⟩ := readable text present
      obtain ⟨cont, program, -⟩ := run_eq_bind registry request
      rw [task, program, present, check_eq _ parsed nonneg]
      rfl
  | compares r compare task =>
      rw [task]
      rfl
  | checked task =>
      obtain ⟨next, program, -⟩ := afterCheck_eq registry request
      rw [task, program]
      rfl
  | loads task =>
      rw [task]
      rfl
  | responds r task =>
      rw [task]
      rfl

variable (env) in
theorem Refused.ends (h : Refused c t) :
    ∀ k, 1 ≤ k → ((c.run (apiMachine env) (List.replicate k t)).tasks t).finished = true
  | k + 1, _ => by
    have ended : ∃ e, (c.step (apiMachine env) t).tasks t = .pure (.error e) := by
      rcases h with ⟨e, ended⟩ | ⟨r, compare, task, running, e, refuses⟩
      · exact ⟨e, c.step_ended _ ended t⟩
      · exact ⟨e, (c.step_own (apiMachine env) task (.inr running) rfl).1.trans refuses⟩
    obtain ⟨e, ended⟩ := ended
    show (((c.step (apiMachine env) t).run (apiMachine env) (List.replicate k t)).tasks t).finished = true
    rw [(delivered_run env ⟨.run, .nil, "", none, none⟩ _ ended).1]
    rfl

/-- A request ends after as many of its steps. -/
theorem ReplayPoint.ends (readable : Readable request.ifMatch)
    (h : ReplayPoint registry request id c t n) (admits : c.Admits t) (k : Nat) (enough : n ≤ k)
    (finished : c.Along (apiMachine env) (fun c _ => Finished request id c.shared)
      (List.replicate k t)) :
    ((c.run (apiMachine env) (List.replicate k t)).tasks t).finished = true := by
  induction k generalizing c n with
  | zero =>
      obtain rfl := Nat.le_zero.mp enough
      cases h
  | succ k ih =>
      obtain ⟨step, -⟩ := h.step_own env readable finished.1 admits
      cases step with
      | goesOn m less matched point =>
          exact ih point (c.admits_step _ admits) (Nat.le_of_lt_succ (less.trans_le enough)) finished.2
      | delivers answer matched ended delivered =>
          show (((c.step (apiMachine env) t).run (apiMachine env)
            (List.replicate k t)).tasks t).finished = true
          rw [(delivered_run env request _ ended).1]
          rfl
      | refused early mismatch refused =>
          exact refused.ends env k (Nat.le_of_succ_le_succ (early.trans enough))

end Replay

section Interleavings
variable {registry : ProviderRegistry} {works : TaskId → ApiWork} {inner : MemoryWorld σ}
  {request : MissionCommandRequest} {t : TaskId}

variable (env registry works inner) in
/-- A task that was never picked has not begun. -/
theorem untouched_of_not_mem {sched : List TaskId} (later : t ∉ sched) :
    let c := (startApi registry works inner).run (apiMachine env) sched
    c.tasks t = ((works t).run registry).run ∧ c.shared.stage t = none := by
  refine Config.run_induct (apiMachine env) (I := fun c : ApiConfig σ =>
    c.tasks t = ((works t).run registry).run ∧ c.shared.stage t = none)
    (P := fun _ other => other ≠ t) (fun c other fresh differs => ?_) _ sched ⟨rfl, rfl⟩ ?_
  · refine ⟨(c.step_other (apiMachine env) differs).1.trans fresh.1, ?_⟩
    rcases c.step_shared (apiMachine env) other with unchanged | ⟨o, -, performed⟩
    · rw [unchanged]
      exact fresh.2
    · rw [performed]
      exact (Protocol.exec_stage_of_ne (Ne.symm differs)).trans fresh.2
  · refine Config.along_mono _ (fun _ other member => ?_) _ _ (Config.along_mem _ _ _)
    rintro rfl
    exact later member

variable (env registry inner) in
/-- Sent again, a request that has succeeded finds its receipt. -/
theorem finished_along {before : List TaskId} {original : TaskId} {response : Ref × String}
    (first : works original = .command request)
    (succeeded : ((startApi registry works inner).run (apiMachine env) before).tasks original =
      .pure (.ok (some response))) :
    Readable request.ifMatch ∧ ∃ id,
      ((startApi registry works inner).run (apiMachine env) before).shared.table.get?
          request.idempotencyKey = some ⟨(request.missionId, request.command), some id⟩ ∧
        ∀ after, ((startApi registry works inner).run (apiMachine env) before).Along
          (apiMachine env) (fun c _ => Finished request id c.shared) after := by
  have empty : (replayProtocol env works).Inv (startApi registry works inner).shared :=
    Protocol.inv_start trivial
  have along := Protocol.along (fun t => AnswersWork (works t)) empty rfl
    fun t w h fresh => safe_work registry h fresh
  obtain ⟨inv, answers, -⟩ := along before
  obtain ⟨request', own, responds⟩ := answers original _ succeeded response rfl
  cases first.symm.trans own
  obtain ⟨readable, id, result⟩ := responds _ rfl
  obtain ⟨stage, reached, ended⟩ := Option.bind_eq_some_iff.mp result
  have receipt := inv.sound.answers original stage id reached ended
  have requested : (replayProtocol env works).requests original =
      (request.idempotencyKey, request.missionId, request.command) := by
    simp only [replayProtocol, first]
  rw [requested] at receipt
  refine ⟨readable, id, receipt, fun after => ?_⟩
  obtain ⟨-, -, steps⟩ := along (before ++ after)
  refine Config.along_induct (apiMachine env)
    (I := fun c : ApiConfig σ => c.shared.table.get? request.idempotencyKey =
      some ⟨(request.missionId, request.command), some id⟩) ?_ ?_ _ after receipt
    ((Config.along_append _ _ _ _ _).mp steps).2
  · rintro c t stored ⟨inv, allowed⟩
    rcases c.step_shared (apiMachine env) t with unchanged | ⟨o, performs, performed⟩
    · rwa [unchanged]
    · rw [performed]
      exact (inv.exec_sound (allowed o performs)).2 _ _ _ stored
  · rintro c t stored ⟨inv, -⟩
    exact ⟨stored, inv.stored _ _ _ stored⟩

/-- A request is sent again, by any number of tasks, after it has succeeded.
Whatever the others do meanwhile, no step of a replay changes anything, it ends
after five steps, and it answers with the mission its receipt names exactly if
`If-Match` names the version of the mission at the moment it is checked. -/
theorem replay_succeeds_iff (env : Environment σ) (registry : ProviderRegistry)
    (works : TaskId → ApiWork) (inner : MemoryWorld σ) (before after : List TaskId)
    (original : TaskId) (request : MissionCommandRequest) (response : Ref × String)
    (first : works original = .command request)
    (succeeded : ((startApi registry works inner).run (apiMachine env) before).tasks original =
      .pure (.ok (some response))) :
    let sent := (startApi registry works inner).run (apiMachine env) before
    let c := sent.run (apiMachine env) after
    ∃ id, sent.shared.table.get? request.idempotencyKey =
        some ⟨(request.missionId, request.command), some id⟩ ∧
      ∀ replay, works replay = .command request → replay ∉ before →
        sent.Along (apiMachine env) (ChangesNothing env replay) after ∧
        (∀ answer, c.tasks replay = .pure answer →
          ((∃ moment, moment <+: after ∧
              Delivers (sent.run (apiMachine env) moment).shared.inner id answer) ↔
            sent.Along (apiMachine env) (MatchesWhenChecked env request replay) after)) ∧
        (c.running = none →
          ((c.run (apiMachine env) (List.replicate 5 replay)).tasks replay).finished = true) := by
  intro sent c
  obtain ⟨readable, id, receipt, finished⟩ := finished_along env registry inner first
    succeeded
  refine ⟨id, receipt, fun replay again later => ?_⟩
  obtain ⟨fresh, untouched⟩ := untouched_of_not_mem env registry works inner later
  rw [again] at fresh
  obtain ⟨n, point⟩ : ∃ n, ReplayPoint registry request id sent replay n := by
    cases version : request.ifMatch with
    | none => exact ⟨3, .checked (fresh.trans (run_eq_of_absent version)) untouched⟩
    | some text => exact ⟨5, .sent fresh (by rw [version]; rfl) untouched⟩
  obtain ⟨runs, quiet⟩ := point.run readable after (finished after)
  refine ⟨quiet, fun answer ended => ?_, fun idle => ?_⟩
  · cases runs with
    | goesOn n matched going =>
        have unfinished := going.going readable
        rw [ended] at unfinished
        cases unfinished
    | delivers moment answer' matched before ended' delivered =>
        cases ended.symm.trans ended'
        exact ⟨fun _ => matched, fun _ => ⟨moment, before, delivered⟩⟩
    | refused mismatch refused =>
        refine ⟨?_, fun matched => absurd matched mismatch⟩
        rintro ⟨moment, -, r, -, rfl⟩
        rcases refused with ⟨e, ended'⟩ | ⟨r', compare, task, -⟩
        · cases ended.symm.trans ended'
        · cases ended.symm.trans task
  · cases runs with
    | goesOn n matched going =>
        have steps := finished (after ++ List.replicate 5 replay)
        rw [Config.along_append] at steps
        exact going.ends readable (.inl idle) 5 going.le steps.2
    | delivers moment answer matched before ended delivered =>
        rw [(delivered_run env request _ ended).1]
        rfl
    | refused mismatch refused => exact refused.ends env 5 (by decide)

end Interleavings

/-! A mission is cancelled by a request for its version 0, which is sent twice. -/

namespace CancelledTwice

def environment : Environment Unit := .withProviders (Sample.accepting [])

def request : MissionCommandRequest := ⟨.cancel, ⟨7⟩, "key", some "\"0\"", none⟩

def works (_ : TaskId) : ApiWork := .command request

def before : List TaskId := List.replicate 20 0

theorem cancelled : (((startApi Sample.registry works (initialWorld [Sample.mission] Sample.mission
    ())).run (apiMachine environment) before).tasks 0).result? =
      some (.ok (some (0, "\"1\""))) := by decide +kernel

theorem conflicts : ((((startApi Sample.registry works (initialWorld [Sample.mission] Sample.mission
    ())).run (apiMachine environment) before).run (apiMachine environment) [1, 1]).tasks 1).result? =
      some (.error (.httpException (missionVersionConflict 1 0))) := by decide +kernel

end CancelledTwice

/-- The second request is answered with a conflict of versions. -/
theorem cancel_sent_again_conflicts :
    ¬ ∀ (works : TaskId → ApiWork) (before after : List TaskId) (original replay : TaskId)
      (request : MissionCommandRequest) (response : Ref × String) answer,
      works original = .command request → works replay = .command request → replay ∉ before →
      let sent := (startApi Sample.registry works
        (initialWorld [Sample.mission] Sample.mission ())).run (apiMachine CancelledTwice.environment)
          before
      sent.tasks original = .pure (.ok (some response)) →
      (sent.run (apiMachine CancelledTwice.environment) after).tasks replay = .pure answer →
      ∃ mission, answer = .ok (some mission) := by
  intro claim
  obtain ⟨mission, impossible⟩ := claim CancelledTwice.works CancelledTwice.before [1, 1]
    0 1 CancelledTwice.request (0, "\"1\"") (.error (.httpException (missionVersionConflict 1 0)))
    rfl rfl (by decide)
    (Prog.eq_pure_of_result? CancelledTwice.cancelled)
    (Prog.eq_pure_of_result? CancelledTwice.conflicts)
  cases impossible

theorem replay_succeeds_iff_cancelled :
    ((startApi Sample.registry CancelledTwice.works (initialWorld [Sample.mission] Sample.mission
      ())).run (apiMachine CancelledTwice.environment) CancelledTwice.before).Along
        (apiMachine CancelledTwice.environment) (ChangesNothing CancelledTwice.environment 1)
        [1, 1] := by
  have replays := replay_succeeds_iff CancelledTwice.environment Sample.registry
    CancelledTwice.works (initialWorld [Sample.mission] Sample.mission ()) CancelledTwice.before
    [1, 1] 0 CancelledTwice.request (0, "\"1\"") rfl
    (Prog.eq_pure_of_result? CancelledTwice.cancelled)
  obtain ⟨id, -, replays⟩ := replays
  exact (replays 1 rfl (by decide)).1

end PurchaseAgent
