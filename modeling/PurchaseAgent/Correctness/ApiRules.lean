import PurchaseAgent.Storage.Idempotency

/-!
Rules for coroutines of the API under the protocol of the receipts.
-/

namespace PurchaseAgent

open Cooperative Receipts

variable {K P R S : Type} [DecidableEq K] [DecidableEq P] {F : Signature} {M : Machine F S}
  {p : Protocol K P R M} {t : TaskId} {w : Receipts.World K P R S} {α β : Type}

namespace ApiTask

/-- The weakest precondition of a coroutine of the API. -/
def Safe (p : Protocol K P R M) (t : TaskId) (x : ApiTask K P R F α)
    (Q : Except ApiException α → Receipts.World K P R S → Prop)
    (w : Receipts.World K P R S) : Prop :=
  p.discipline.Safe t Q x.run w

variable {Q : Except ApiException β → Receipts.World K P R S → Prop}

@[simp] theorem safe_pure (a : β) : Safe p t (pure a) Q w ↔ Q (.ok a) w := Iff.rfl

@[simp] theorem safe_throw (e : ApiException) :
    Safe p t (throw e : ApiTask K P R F β) Q w ↔ Q (.error e) w := Iff.rfl

theorem safe_mono {Q' : Except ApiException β → Receipts.World K P R S → Prop}
    {x : ApiTask K P R F β} (h : ∀ r w', Q r w' → Q' r w') (safe : Safe p t x Q w) :
    Safe p t x Q' w :=
  Discipline.safe_mono h x.run w safe

/-- Sequencing, with one intermediate assertion for each outcome. -/
theorem safe_seq {x : ApiTask K P R F α} {f : α → ApiTask K P R F β}
    {A : Except ApiException α → Receipts.World K P R S → Prop}
    (first : Safe p t x A w) (ok : ∀ a w', A (.ok a) w' → Safe p t (f a) Q w')
    (error : ∀ e w', A (.error e) w' → Q (.error e) w') : Safe p t (x >>= f) Q w :=
  Discipline.safe_seq first ok error

/-- Sequencing behind an action that never raises. -/
theorem safe_after {x : ApiTask K P R F Unit} {f : Unit → ApiTask K P R F β}
    {A : Receipts.World K P R S → Prop}
    (first : Safe p t x (fun outcome w' => outcome = .ok () ∧ A w') w)
    (ok : ∀ w', A w' → Safe p t (f ()) Q w') : Safe p t (x >>= f) Q w := by
  refine safe_seq first ?_ ?_
  · intro a w' holds
    exact ok w' holds.2
  · intro e w' holds
    cases holds.1

/-- The handlers see every outcome. -/
theorem safe_attempt {x : ApiTask K P R F α} {f : Except ApiException α → ApiTask K P R F β} :
    Safe p t (attempt x >>= f) Q w ↔ Safe p t x (fun r w' => Safe p t (f r) Q w') w := by
  refine (Discipline.safe_run_bind Q (attempt x) f w).trans
    ((Discipline.safe_bind _ x.run _ w).trans ?_)
  exact ⟨Discipline.safe_mono (fun _ _ h => h) x.run w,
    Discipline.safe_mono (fun _ _ h => h) x.run w⟩

omit [DecidableEq K] [DecidableEq P] in
/-- The handlers after a block that starts with `x`. -/
theorem run_attempt_seq {γ : Type} (x : ApiTask K P R F α) (f : α → ApiTask K P R F β)
    (handlers : Except ApiException β → ApiTask K P R F γ) :
    (attempt (x >>= f) >>= handlers).run = x.run.bind fun
      | .ok a => (attempt (f a) >>= handlers).run
      | .error e => (handlers (.error e)).run := by
  show Prog.bind (Prog.bind (Prog.bind x.run _) _) _ = _
  rw [Prog.bind_assoc', Prog.bind_assoc']
  refine congrArg x.run.bind (funext fun outcome => ?_)
  cases outcome with
  | ok a => exact (Prog.bind_assoc' _ _ _).symm
  | error e => rfl

/-- An operation on the receipts. -/
theorem safe_perform {o : Receipts.Op K P R F} {f : o.Answer → ApiTask K P R F β}
    (h : p.Inv w)
    (step : ∀ w', p.Inv w' → w'.stage t = w.stage t → Kept w w' → p.Allowed t o w' ∧
      (p.Inv (Receipts.exec M t o w').2 →
        Safe p t (f (Receipts.exec M t o w').1) Q
          (Receipts.exec M t o w').2)) :
    Safe p t (perform o >>= f) Q w :=
  Protocol.safe_step h step

/-- What the services raise. -/
def FromService (outcome : Except ApiException α) : Prop :=
  ∀ error, outcome = .error error → ∃ raised, error = .service raised

theorem fromService_mapError (outcome : Except PyException α) :
    FromService (outcome.mapError .service) := by
  cases outcome with
  | error raised =>
      rintro _ ⟨⟩
      exact ⟨raised, rfl⟩
  | ok a => exact fun _ impossible => nomatch impossible

/-- A coroutine without receipts, run where its operations are meant to be. -/
theorem safe_service_ending (work : Task F PyException α) {stage : Option (Receipts.Stage R)}
    {ends : Except PyException α → S → Prop} (h : p.Inv w) (reached : w.stage t = stage)
    (meant : work.run.Each (fun _ _ => True) (fun o => p.work t o stage) fun _ => True)
    (ending : (Discipline.anything M).Safe t ends work.run w.inner) :
    Safe p t (service work) (fun outcome w' => p.Inv w' ∧ w'.stage t = stage ∧
      ∃ result, ends result w'.inner ∧ outcome = result.mapError .service) w :=
  Protocol.safe_embed work.run _ h reached meant ending fun result _ ended inv at_stage _ =>
    ⟨inv, at_stage, result, ended, rfl⟩

theorem safe_service (work : Task F PyException α) {stage : Option (Receipts.Stage R)} (h : p.Inv w)
    (reached : w.stage t = stage)
    (meant : work.run.Each (fun _ _ => True) (fun o => p.work t o stage) fun _ => True) :
    Safe p t (service work) (fun outcome w' => p.Inv w' ∧ w'.stage t = stage ∧
      FromService outcome) w := by
  refine safe_mono ?_ (safe_service_ending work h reached meant
    (Discipline.safe_anything_of_each work.run _ meant))
  rintro _ w' ⟨inv, at_stage, result, -, rfl⟩
  exact ⟨inv, at_stage, fromService_mapError result⟩

/-- The stage after `begin`. -/
def StageAfterBegin (conflict inProgress : ApiException) :
    Except ApiException (Option R) → Option (Receipts.Stage R) → Prop
  | .ok none, stage => stage = some .begun
  | .ok (some result), stage => stage = some (.replayed result)
  | .error error, stage => (error = conflict ∧ stage = some (.refused .conflict)) ∨
      (error = inProgress ∧ stage = some (.refused .inProgress))

theorem safe_begin {conflict inProgress : ApiException} {key : K} {request : P}
    (own : (key, request) = p.requests t) (uses : p.uses t) (h : p.Inv w)
    (fresh : w.stage t = none) :
    Safe p t (begin conflict inProgress key request) (fun result w' => p.Inv w' ∧ Kept w w' ∧
      StageAfterBegin conflict inProgress result (w'.stage t)) w := by
  refine safe_perform h fun w' inv stage kept => ?_
  have allowed : p.Allowed t (.begin key request) w' := ⟨own, uses, stage.trans fresh⟩
  refine ⟨allowed, fun later => ?_⟩
  have reached : (Receipts.exec M t (.begin key request) w').2.stage t =
      some (begunStage (w'.table.begin key request).1) := World.stage_note_self _ _ _
  have answered : (Receipts.exec M t (.begin key request) w').1 =
    (w'.table.begin key request).1 := rfl
  have kept' := kept.trans (inv.exec_sound allowed).2
  rw [answered]
  cases answer : (w'.table.begin key request).1 with
  | error reason =>
      rw [answer] at reached
      cases reason with
      | conflict => exact ⟨later, kept', .inl ⟨rfl, reached⟩⟩
      | inProgress => exact ⟨later, kept', .inr ⟨rfl, reached⟩⟩
  | ok result =>
      rw [answer] at reached
      cases result with
      | none => exact ⟨later, kept', reached⟩
      | some result => exact ⟨later, kept', reached⟩

/-- The stage after work has ended. -/
def leftStage : Option R → Stage R
  | some result => .succeeded result
  | none => .failed

/-- Work ends without a suspension; its result has to be good. -/
theorem safe_left {result : Option R} {f : Unit → ApiTask K P R F β} (h : p.Inv w)
    (working : w.stage t = some .begun)
    (good : ∀ r ∈ result, p.good (p.requests t).1 r w.inner)
    (next : ∀ w', p.Inv w' → w'.stage t = some (leftStage result) → Safe p t (f ()) Q w') :
    Safe p t (left result >>= f) Q w := by
  intro w' same _
  obtain rfl : w' = w := same
  have allowed : p.Allowed t (.left result) w' := ⟨working, good⟩
  refine ⟨fun _ => ⟨allowed, h.exec allowed, fun _ => Protocol.exec_stage_of_ne,
    (h.exec_sound allowed).2⟩, next _ (h.exec allowed) ?_⟩
  cases result with
  | none => exact World.stage_note_self _ _ _
  | some r => exact World.stage_note_self _ _ _

theorem safe_complete {result : R} (h : p.Inv w) (success : w.stage t = some (.succeeded result)) :
    Safe p t (complete (p.requests t).1 result)
      (fun outcome w' => outcome = .ok () ∧ p.Inv w' ∧ w'.stage t = some (.completed result)) w := by
  refine safe_perform h fun w' inv stage _ => ?_
  have reached := stage.trans success
  refine ⟨⟨rfl, reached⟩, fun later => ?_⟩
  have held := inv.sound.held t (.of_stage reached rfl)
  have stored : (Receipts.exec M t (.complete (p.requests t).1 result) w').1 = true := by
    simp only [Receipts.exec, complete_of_held held]
  rw [stored]
  exact ⟨rfl, later, World.stage_note_self _ _ _⟩

/-- A failure is aborted. -/
theorem safe_abort {key : K} {request : P} (own : (key, request) = p.requests t) (h : p.Inv w)
    (failure : w.stage t = some .failed) :
    Safe p t (abort key request : ApiTask K P R F Unit)
      (fun outcome w' => outcome = .ok () ∧ p.Inv w' ∧ w'.stage t = some .aborted) w := by
  refine Protocol.safe_step h fun w' inv stage _ => ?_
  have reached := stage.trans failure
  refine ⟨⟨own, .inl reached⟩, fun later => ⟨rfl, later, (World.stage_note_self _ _ _).trans ?_⟩⟩
  rw [reached]
  rfl

end ApiTask
end PurchaseAgent
