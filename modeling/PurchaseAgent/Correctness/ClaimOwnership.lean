import PurchaseAgent.Correctness.WellFormed

/-!
Ownership of claims among the workers. A batch owns a mission while the mission
is processing under the attempt number the batch claimed. Workers change only
missions they own and missions that are not processing, so as long as recovery
does not take back the claim of a batch that is still running, what a batch owns
stays as it is, and a batch calls the provider for missions it owns only.
-/

namespace PurchaseAgent

open Cooperative InMemoryMissionRepository Service

variable {σ : Type} {env : Environment σ}

/-- The task's own claim of the mission is the live one. -/
def Owned (w : MemoryWorld σ) (t : TaskId) (r : Ref) : Prop :=
  Stored w r ∧ (w.mission r).status = .processing ∧
    (t, Event.claimed (w.mission r).id (w.mission r).executionAttempts) ∈ w.trace

theorem Owned.exclusive {w : MemoryWorld σ} (h : WellFormed env w) {t t' : TaskId} {r : Ref}
    (own : Owned w t r) (own' : Owned w t' r) : t = t' :=
  h.unique t t' _ _ own.2.2 own'.2.2

theorem Owned.evolves {w w' : MemoryWorld σ} (h : Evolves env w w') {t : TaskId} {r : Ref}
    (own : Owned w t r) (status : (w'.mission r).status = (w.mission r).status)
    (attempts : (w'.mission r).executionAttempts = (w.mission r).executionAttempts) :
    Owned w' t r := by
  obtain ⟨stored, id⟩ := h.stored own.1
  refine ⟨stored, status.trans own.2.1, ?_⟩
  rw [id, attempts]
  exact h.trace _ own.2.2

theorem Owned.unchanged {w w' : MemoryWorld σ} (h : Evolves env w w') {t : TaskId} {r : Ref}
    (own : Owned w t r) (same : w'.mission r = w.mission r) : Owned w' t r :=
  own.evolves h (by rw [same]) (by rw [same])

/-- The operation is a recovery for which the mission's claim is stale. -/
def Recovered (o : Op memory) (mission : Mission) : Prop :=
  ∃ currentTime claimTimeout limit,
    o = .repository (.recoverStaleProcessing currentTime claimTimeout limit) ∧
      isStale (currentTime - claimTimeout) mission

/-- What a worker's operation does: it changes missions that are not processing,
missions it owns and missions it recovers, and calls providers for missions it
owns. -/
structure Acts (t : TaskId) (o : Op memory) (w w' : MemoryWorld σ) : Prop where
  objects : ∀ r, w'.mission r = w.mission r ∨ (w.mission r).status ≠ .processing ∨
    Owned w t r ∨ Recovered o (w.mission r)
  calls : ∀ r c, o = .call r c ∨ o = .request r c → Owned w t r

variable (env) in
/-- The workers' discipline: what a task owns stays as it is. -/
def claims : Discipline (machine memory env) where
  rely t w w' := WellFormed env w → Evolves env w w' ∧
    ∀ r, Owned w t r → w'.mission r = w.mission r
  guarantee t o w w' := WellFormed env w → Evolves env w w' ∧ Acts t o w w'
  rely_refl _ _ h := ⟨.refl h, fun _ _ => rfl⟩
  rely_trans t w₁ w₂ w₃ h k wf := by
    obtain ⟨evolves, same⟩ := h wf
    obtain ⟨evolves', same'⟩ := k evolves.wellFormed
    exact ⟨evolves.trans evolves', fun r own =>
      (same' r (own.unchanged evolves (same r own))).trans (same r own)⟩

/-- Whether the mission being worked on is owned or not processing. -/
inductive Hold where
  | owned
  | free

def Hold.On (w : MemoryWorld σ) (t : TaskId) (r : Ref) : Hold → Prop
  | .owned => Owned w t r
  | .free => (w.mission r).status ≠ .processing

variable (env) in
/-- A batch between two missions, with the claims in `rest` still to come. -/
structure Batch (t : TaskId) (rest : List Ref) (w : MemoryWorld σ) : Prop where
  wellFormed : WellFormed env w
  queued : ∀ other ∈ rest, Owned w t other

variable (env) in
/-- A batch at work on the mission `r`. -/
structure At (t : TaskId) (rest : List Ref) (r : Ref) (hold : Hold) (w : MemoryWorld σ) : Prop
    extends Batch env t rest w where
  stored : Stored w r
  held : hold.On w t r
  fresh : r ∉ rest

section Steps
variable {t : TaskId} {rest : List Ref} {r : Ref} {hold : Hold} {w w' : MemoryWorld σ}

theorem Batch.evolves (h : Batch env t rest w) (evolves : Evolves env w w')
    (others : ∀ other ∈ rest, w'.mission other = w.mission other) : Batch env t rest w' :=
  ⟨evolves.wellFormed, fun other member =>
    (h.queued other member).unchanged evolves (others other member)⟩

/-- While the task is suspended it keeps what it owns. -/
theorem Batch.suspended (h : Batch env t rest w) (rely : (claims env).rely t w w') :
    Batch env t rest w' := by
  obtain ⟨evolves, same⟩ := rely h.wellFormed
  exact h.evolves evolves fun other member => same other (h.queued other member)

/-- A stored mission that is not processing is at nobody's disposal. -/
theorem Batch.at_free (h : Batch env t rest w) (stored : Stored w r)
    (free : (w.mission r).status ≠ .processing) : At env t rest r .free w :=
  ⟨h, stored, free, fun member => free (h.queued r member).2.1⟩

theorem At.suspended (h : At env t rest r .owned w) (rely : (claims env).rely t w w') :
    At env t rest r .owned w' := by
  obtain ⟨evolves, same⟩ := rely h.wellFormed
  exact ⟨h.toBatch.suspended rely, (evolves.stored h.stored).1,
    Owned.unchanged evolves h.held (same r h.held), h.fresh⟩

/-- An operation that changes no mission. -/
theorem guarantee_of_same {o : Op memory} (evolves : WellFormed env w → Evolves env w w')
    (objects : ∀ r, w'.mission r = w.mission r)
    (quiet : ∀ r c, ¬ (o = .call r c ∨ o = .request r c)) :
    (claims env).guarantee t o w w' :=
  fun wf => ⟨evolves wf, fun r => .inl (objects r), fun r c same => absurd same (quiet r c)⟩

/-- An operation that changes the mission being worked on. -/
theorem At.guarantee (h : At env t rest r hold w) {o : Op memory}
    (evolves : Evolves env w w') (others : ∀ other, other ≠ r → w'.mission other = w.mission other)
    (quiet : ∀ r c, ¬ (o = .call r c ∨ o = .request r c)) : (claims env).guarantee t o w w' := by
  refine fun _ => ⟨evolves, fun other => ?_, fun r c same => absurd same (quiet r c)⟩
  by_cases same : other = r
  · subst same
    cases hold with
    | owned => exact .inr (.inr (.inl h.held))
    | free => exact .inr (.inl h.held)
  · exact .inl (others other same)

/-- Work goes on after a change of the mission being worked on. -/
theorem At.changed (h : At env t rest r hold w) {hold' : Hold} (evolves : Evolves env w w')
    (others : ∀ other, other ≠ r → w'.mission other = w.mission other)
    (on : hold'.On w' t r) : At env t rest r hold' w' where
  toBatch := h.toBatch.evolves evolves fun other member =>
    others other fun same => h.fresh (same ▸ member)
  stored := (evolves.stored h.stored).1
  held := on
  fresh := h.fresh

/-- A change that leaves status and attempts alone leaves the hold as it is. -/
theorem At.kept (h : At env t rest r hold w) (evolves : Evolves env w w')
    (others : ∀ other, other ≠ r → w'.mission other = w.mission other)
    (status : (w'.mission r).status = (w.mission r).status)
    (attempts : (w'.mission r).executionAttempts = (w.mission r).executionAttempts) :
    At env t rest r hold w' := by
  refine h.changed evolves others ?_
  cases hold with
  | owned => exact Owned.evolves evolves h.held status attempts
  | free => exact fun processing => h.held (status ▸ processing)

end Steps

/-! What the operations of the engine do to the mission at work. -/

section Operations
variable {t : TaskId} {rest : List Ref} {r : Ref} {hold : Hold} {w : MemoryWorld σ} {α : Type}

open Discipline

theorem guarantee_read (t : TaskId) (r : Ref) (w : MemoryWorld σ) :
    (claims env).guarantee t (.read r) w w :=
  guarantee_of_same .refl (fun _ => rfl) (by simp)

theorem read_then {Q : Except PyException α → MemoryWorld σ → Prop}
    {f : Mission → Service memory α} (h : (claims env).Safe t Q (f (w.mission r)).run w) :
    (claims env).Safe t Q (read r >>= f).run w :=
  (safe_run_bind _ _ _ _).mpr ((safe_read (B := memory) w r _).mpr ⟨guarantee_read t r w, h⟩)

theorem At.assign (h : At env t rest r hold w) (assignment : Assignment)
    (notStatus : ∀ status, assignment ≠ .status status) :
    (claims env).Safe t (Returning fun _ => At env t rest r hold)
      (Service.assign r assignment).run w := by
  have evolves : Evolves env w (w.setMission r ((w.mission r).assign assignment)) :=
    evolves_setMission h.wellFormed (extends_assign _ _ assignment)
  have others : ∀ other, other ≠ r →
      (w.setMission r ((w.mission r).assign assignment)).mission other = w.mission other :=
    fun other differs => by simp [differs]
  refine (safe_assign (B := memory) w r _ _).mpr ⟨h.guarantee evolves others (by simp), ?_⟩
  refine h.kept evolves others ?_ ?_ <;> rw [World.mission_setMission] <;> cases assignment <;>
    first
    | rfl
    | exact absurd rfl (notStatus _)

theorem At.recordEvent (h : At env t rest r hold w) (timestamp : Time)
    (eventType message : String) (metadata : List (String × PyValue)) :
    (claims env).Safe t
      (Returning fun _ w' => At env t rest r hold w' ∧ (w'.mission r).executionLog ≠ [])
      (Service.recordEvent r timestamp eventType message metadata).run w := by
  have recorded := Mission.recordEvent_of_fresh (w.mission r) (h.wellFormed.freshFor h.stored)
    timestamp eventType message metadata
  refine (safe_recordEvent (B := memory) w r _ _ _ _ _).mpr ⟨fun mission ok => ?_, fun error raised => ?_⟩
  · obtain rfl := Except.ok.inj (recorded.symm.trans ok)
    have evolves : Evolves env w (w.drawId.setMission r ((w.mission r).append
        ((w.mission r).nextEvent (env.newEventId w.idsDrawn) timestamp eventType message
          metadata))) := evolves_append h.wellFormed rfl rfl rfl rfl
    refine ⟨h.guarantee evolves (fun other differs => by simp [differs]) (by simp), ?_, by simp⟩
    exact h.kept evolves (fun other differs => by simp [differs]) (by simp) (by simp)
  · cases recorded.symm.trans raised

theorem At.addEvent (h : At env t rest r hold w) (eventType message : String)
    (metadata : List (String × PyValue)) :
    (claims env).Safe t
      (Returning fun _ w' => At env t rest r hold w' ∧ (w'.mission r).executionLog ≠ [])
      (Service.addEvent r eventType message metadata).run w := by
  have read : Evolves env w { w with clockReads := w.clockReads + 1 } :=
    evolves_of_extends h.wellFormed rfl le_rfl (fun _ => .refl _ _ _) (.same rfl)
  refine (safe_run_bind _ _ _ _).mpr ((safe_utcNow (B := memory) w _).mpr ⟨?_, ?_⟩)
  · exact guarantee_of_same (fun _ => read) (fun _ => rfl) (by simp)
  · exact (h.kept read (fun _ _ => rfl) rfl rfl).recordEvent _ _ _ _

/-- A claimed mission leaves `processing` by the table. -/
theorem At.transition (h : At env t rest r .owned w) {target : MissionStatus}
    (allowed : target ∈ MissionStateMachine.allowedTransitions .processing) :
    (claims env).Safe t (Returning fun _ => At env t rest r .free)
      (Service.transition r target).run w := by
  have processing : (w.mission r).status = .processing := h.held.2.1
  have moved : MissionStateMachine.transition (w.mission r) target =
      .ok ((w.mission r).withStatus target none) :=
    MissionStateMachine.transition_of_allowed _ (by rwa [processing]) (.inl (by simp [processing]))
  refine (safe_transition (B := memory) w r _ _ _).mpr ⟨fun mission ok => ?_, fun error raised => ?_⟩
  · obtain rfl := Except.ok.inj (moved.symm.trans ok)
    have evolves : Evolves env w (w.setMission r ((w.mission r).withStatus target none)) :=
      evolves_setMission h.wellFormed ⟨rfl, rfl, .inl rfl⟩
    refine ⟨h.guarantee evolves (fun other differs => by simp [differs]) (by simp), ?_⟩
    refine h.changed evolves (fun other differs => by simp [differs]) ?_
    simp only [Hold.On, World.mission_setMission, Mission.withStatus_status]
    rintro rfl
    exact absurd allowed (by decide)
  · cases moved.symm.trans raised

/-- An update of a mission with an event does not raise. -/
theorem safe_update_of_log {P : Ref → MemoryWorld σ → Prop} (h : WellFormed env w)
    (stored : Stored w r) (log : (w.mission r).executionLog ≠ [])
    (post : ∀ w' attempts, (claims env).rely t w w' →
      Evolves env w' (withAttempts w' attempts) → P r (withAttempts w' attempts)) :
    (claims env).Safe t (Returning P) (inMemoryMissionRepository.update r).run w := by
  refine (safe_update w r _).mpr fun w' rely => ?_
  obtain ⟨evolves, -⟩ := rely h
  have stored' := (evolves.stored stored).1
  have log' : (w'.mission r).executionLog ≠ [] := fun empty =>
    log (List.prefix_nil.mp (empty ▸ evolves.logs r))
  obtain ⟨attempts, eq⟩ := (update_of_stored stored').resolve_right fun raised => log' raised.2
  rw [eq]
  have updated := evolves_withAttempts evolves.wellFormed attempts
  exact ⟨guarantee_of_same (fun _ => updated) (fun _ => rfl) (by simp), post w' attempts rely updated⟩

theorem Batch.update (h : Batch env t rest w) (stored : Stored w r)
    (log : (w.mission r).executionLog ≠ []) :
    (claims env).Safe t (Returning fun r' w' => Batch env t rest w' ∧ Stored w' r')
      (inMemoryMissionRepository.update r).run w :=
  safe_update_of_log h.wellFormed stored log fun _ _ rely updated =>
    ⟨(h.suspended rely).evolves updated fun _ _ => rfl,
      (updated.stored ((rely h.wellFormed).1.stored stored).1).1⟩

theorem At.update (h : At env t rest r .owned w) (log : (w.mission r).executionLog ≠ []) :
    (claims env).Safe t (Returning fun _ => At env t rest r .owned)
      (inMemoryMissionRepository.update r).run w :=
  safe_update_of_log h.wellFormed h.stored log fun _ _ rely updated =>
    (h.suspended rely).kept updated (fun _ _ => rfl) rfl rfl

end Operations
end PurchaseAgent
