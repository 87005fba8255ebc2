import PurchaseAgent.Services.Runtime

/-!
Rules of the weakest precondition for the operations of a service, for any
backend and any discipline of its tasks. Each says what one operation does to
the world, so that the proof of a service follows its text.
-/

namespace PurchaseAgent

open Cooperative

namespace Service
variable {B : Backend} {σ α β : Type} {env : Environment σ} {D : Discipline (machine B env)}
  {t : TaskId}

/-- An operation that is not awaited happens at once. -/
theorem safe_now {o : Op B} (quiet : o.awaits = false)
    (Q : α → World B.State σ → Prop) (next : o.Answer → Prog (signature B) α)
    (w : World B.State σ) :
    D.Safe t Q (.op o next) w ↔
      D.guarantee t o w (o.exec env t w).2 ∧
        D.Safe t Q (next (o.exec env t w).1) (o.exec env t w).2 := by
  have arrives : ∀ w', D.Arrives t o w w' ↔ w' = w := fun w' => by
    simp [Discipline.Arrives, machine, quiet]
  have ready : ∀ w', (machine B env).ready t o w' = true := fun w' => by
    cases o <;> first | rfl | cases quiet
  simp only [Discipline.safe_op, arrives, ready, true_implies, forall_eq]
  rfl

/-- An operation that is awaited happens in some state the others lead to. -/
theorem safe_later {o : Op B} (awaits : o.awaits = true)
    (Q : α → World B.State σ → Prop) (next : o.Answer → Prog (signature B) α)
    (w : World B.State σ) :
    D.Safe t Q (.op o next) w ↔
      ∀ w', D.rely t w w' → o.ready t w' = true →
        D.guarantee t o w' (o.exec env t w').2 ∧
          D.Safe t Q (next (o.exec env t w').1) (o.exec env t w').2 := by
  have arrives : ∀ w', D.Arrives t o w w' ↔ D.rely t w w' := fun w' => by
    simp [Discipline.Arrives, machine, awaits]
  simp only [Discipline.safe_op, arrives]
  rfl

section Operations
variable (w : World B.State σ) (r : Ref)

@[simp] theorem safe_read (Q : Except PyException Mission → World B.State σ → Prop) :
    D.Safe t Q (read r).run w ↔
      D.guarantee t (.read r) w w ∧ Q (.ok (w.mission r)) w :=
  safe_now rfl Q _ w

@[simp] theorem safe_assign (Q : Except PyException Unit → World B.State σ → Prop)
    (assignment : Assignment) :
    D.Safe t Q (assign r assignment).run w ↔
      D.guarantee t (.assign r assignment) w
          (w.setMission r ((w.mission r).assign assignment)) ∧
        Q (.ok ()) (w.setMission r ((w.mission r).assign assignment)) :=
  safe_now rfl Q _ w

theorem safe_transition (Q : Except PyException Unit → World B.State σ → Prop)
    (target : MissionStatus) (options : MissionStateMachine.Options) :
    D.Safe t Q (transition r target options).run w ↔
      (∀ mission, MissionStateMachine.transition (w.mission r) target options = .ok mission →
        D.guarantee t (.transition r target options) w (w.setMission r mission) ∧
          Q (.ok ()) (w.setMission r mission)) ∧
      (∀ error, MissionStateMachine.transition (w.mission r) target options = .error error →
        D.guarantee t (.transition r target options) w w ∧ Q (.error error) w) := by
  refine (safe_now (o := .transition r target options) rfl Q _ w).trans ?_
  simp only [Op.exec]
  cases MissionStateMachine.transition (w.mission r) target options <;>
    simp [World.attemptSet]

theorem safe_recordEvent (Q : Except PyException Unit → World B.State σ → Prop)
    (timestamp : Time) (eventType message : String) (metadata : List (String × PyValue)) :
    D.Safe t Q (recordEvent r timestamp eventType message metadata).run w ↔
      (∀ mission, (w.mission r).recordEvent (env.newEventId w.idsDrawn) timestamp eventType
          message metadata = .ok mission →
        D.guarantee t (.recordEvent r timestamp eventType message metadata) w
            (w.drawId.setMission r mission) ∧
          Q (.ok ()) (w.drawId.setMission r mission)) ∧
      (∀ error, (w.mission r).recordEvent (env.newEventId w.idsDrawn) timestamp eventType
          message metadata = .error error →
        D.guarantee t (.recordEvent r timestamp eventType message metadata) w w.drawId ∧
          Q (.error error) w.drawId) := by
  refine (safe_now (o := .recordEvent r timestamp eventType message metadata) rfl Q _ w).trans ?_
  simp only [Op.exec]
  cases (w.mission r).recordEvent (env.newEventId w.idsDrawn) timestamp eventType message
    metadata <;> simp [World.attemptSet]

theorem safe_utcNow (Q : Except PyException Time → World B.State σ → Prop) :
    D.Safe t Q (utcNow (B := B)).run w ↔
      D.guarantee t .utcNow w { w with clockReads := w.clockReads + 1 } ∧
        Q (.ok (env.utcNow w.clockReads)) { w with clockReads := w.clockReads + 1 } :=
  safe_now rfl Q _ w

theorem safe_getIdentity (Q : Except PyException (Option Identity) → World B.State σ → Prop)
    (id : UUID) :
    D.Safe t Q (getIdentity (B := B) id).run w ↔
      ∀ w', D.rely t w w' →
        D.guarantee t (.getIdentity id) w' w' ∧ Q (env.identity id w'.outside) w' := by
  refine (safe_later (o := .getIdentity id) rfl Q _ w).trans ?_
  exact ⟨fun h w' rely => h w' rely rfl, fun h w' rely _ => h w' rely⟩

/-- An adapter call is entered at once; the provider acts later, and the answer
arrives later still. -/
theorem safe_provider (call : ProviderCall)
    (Q : Except PyException call.Answer → World B.State σ → Prop) :
    D.Safe t Q (provider r call).run w ↔
      D.guarantee t (.call r call) w (w.log t (.called (w.mission r).id call)) ∧
      ∀ w₁, D.rely t (w.log t (.called (w.mission r).id call)) w₁ →
        D.guarantee t (.request r call) w₁ (w₁.act env t r call) ∧
        ∀ w₂, D.rely t (w₁.act env t r call) w₂ →
          D.guarantee t .deliver w₂ w₂ ∧
          Q (env.handle call (w₁.mission r) w₁.outside).1 w₂ := by
  refine (safe_now (o := .call r call) rfl Q _ w).trans (and_congr_right fun _ => ?_)
  refine (safe_later (o := .request r call) rfl Q _ _).trans (forall_congr' fun w₁ => ?_)
  refine (forall_congr' fun _ => forall_prop_of_true rfl).trans ?_
  refine forall_congr' fun _ => and_congr_right fun _ => ?_
  refine (safe_later (o := .deliver) rfl Q _ _).trans (forall_congr' fun w₂ => ?_)
  exact forall_congr' fun _ => forall_prop_of_true rfl

@[simp] theorem safe_fromExcept (Q : Except PyException α → World B.State σ → Prop)
    (x : Except PyException α) :
    D.Safe t Q (fromExcept (B := B) x).run w ↔ Q x w := Iff.rfl

theorem safe_attempt (Q : Except PyException (Except PyException α) → World B.State σ → Prop)
    (p : Service B α) :
    D.Safe t Q (attempt p).run w ↔ D.Safe t (fun x w' => Q (.ok x) w') p.run w :=
  Discipline.safe_bind Q p.run _ w

end Operations
end Service
end PurchaseAgent
