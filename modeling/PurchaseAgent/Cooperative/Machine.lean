import PurchaseAgent.Cooperative.Program

/-!
Cooperative execution of programs over one shared state. A machine says what an
operation does and at which operations a task may be suspended. Between two
such points a task runs without interruption, so an interleaving is fixed by
the list of tasks the scheduler picks, one operation at a time.
-/

namespace Cooperative

abbrev TaskId := Nat

structure Machine (F : Signature) (S : Type) where
  /-- The operation is a suspension point: other tasks may run before it. -/
  awaits : F.Op → Bool
  /-- The operation can proceed. One that cannot stays pending. -/
  ready : TaskId → F.Op → S → Bool
  exec : TaskId → (o : F.Op) → S → F.Answer o × S

variable {F : Signature} {S α β : Type}

namespace Prog

/-- Run a program to its end with no other task in between. -/
def eval (M : Machine F S) (t : TaskId) : Prog F α → S → α × S
  | .pure a, s => (a, s)
  | .op o next, s => eval M t (next (M.exec t o s).1) (M.exec t o s).2

variable (M : Machine F S) (t : TaskId)

@[simp] theorem eval_pure (a : α) (s : S) : eval M t (Prog.pure a) s = (a, s) := rfl

@[simp] theorem eval_op (o : F.Op) (next : F.Answer o → Prog F α) (s : S) :
    eval M t (Prog.op o next) s = eval M t (next (M.exec t o s).1) (M.exec t o s).2 := rfl

theorem eval_bind (p : Prog F α) (f : α → Prog F β) (s : S) :
    eval M t (p.bind f) s = eval M t (f (eval M t p s).1) (eval M t p s).2 := by
  induction p generalizing s with
  | pure a => rfl
  | op o next ih => simp only [op_bind, eval_op, ih]

/-- The program is finished or stands at a suspension point. -/
def atAwait (M : Machine F S) : Prog F α → Bool
  | .pure _ => true
  | .op o _ => M.awaits o

def finished : Prog F α → Bool
  | .pure _ => true
  | .op _ _ => false

/-- What the program has ended with. -/
def result? : Prog F α → Option α
  | .pure a => some a
  | .op _ _ => none

theorem eq_pure_of_result? {p : Prog F α} {a : α} (h : p.result? = some a) : p = .pure a := by
  cases p with
  | pure b => exact congrArg Prog.pure (Option.some.inj h)
  | op o next => cases h

end Prog

/-- Shared state, the tasks, and the task that holds the control, if one does. -/
structure Config (F : Signature) (S α : Type) where
  shared : S
  tasks : TaskId → Prog F α
  running : Option TaskId

namespace Config
variable (M : Machine F S)

/-- The scheduler may give the control to `t`. -/
def Admits (c : Config F S α) (t : TaskId) : Prop :=
  c.running = none ∨ c.running = some t

instance (c : Config F S α) (t : TaskId) : Decidable (c.Admits t) :=
  inferInstanceAs (Decidable (_ ∨ _))

/-- Task `t` performed `o` and goes on with `p` in state `s`. -/
def resume (c : Config F S α) (t : TaskId) (p : Prog F α) (s : S) : Config F S α where
  shared := s
  tasks := Function.update c.tasks t p
  running := if p.atAwait M then none else some t

/-- One operation of task `t`. A choice the scheduler cannot make, a finished
task and a pending operation that is not ready leave everything unchanged. -/
def step (t : TaskId) (c : Config F S α) : Config F S α :=
  if c.Admits t then
    match c.tasks t with
    | .pure _ => c
    | .op o next =>
      if M.ready t o c.shared then
        c.resume M t (next (M.exec t o c.shared).1) (M.exec t o c.shared).2
      else c
  else c

/-- The configuration after the scheduler made the given choices. -/
def run (c : Config F S α) : List TaskId → Config F S α
  | [] => c
  | t :: rest => (c.step M t).run rest

/-- The operation task `t` performs in its next step, if it performs one. -/
def Performs (c : Config F S α) (t : TaskId) (o : F.Op) : Prop :=
  c.Admits t ∧ M.ready t o c.shared = true ∧ ∃ next, c.tasks t = .op o next

/-- The same as a computation. -/
def pending (c : Config F S α) (t : TaskId) : Option F.Op :=
  match c.tasks t with
  | .pure _ => none
  | .op o _ => if c.Admits t ∧ M.ready t o c.shared = true then some o else none

theorem pending_of_performs {c : Config F S α} {t : TaskId} {o : F.Op} (h : c.Performs M t o) :
    c.pending M t = some o := by
  obtain ⟨admits, ready, next, task⟩ := h
  simp only [pending, task, admits, ready, and_self, if_true]

theorem performs_of_pending {c : Config F S α} {t : TaskId} {o : F.Op}
    (h : c.pending M t = some o) : c.Performs M t o := by
  unfold pending at h
  split at h
  · cases h
  · rename_i next task
    split at h
    · rename_i enabled
      cases h
      exact ⟨enabled.1, enabled.2, next, task⟩
    · cases h

instance decidablePerforms (c : Config F S α) (t : TaskId) (P : F.Op → Prop)
    [∀ o, Decidable (P o)] : Decidable (∀ o, c.Performs M t o → P o) :=
  decidable_of_iff (∀ o, c.pending M t = some o → P o) ⟨fun h o performs =>
    h o (pending_of_performs M performs), fun h o performs => h o (performs_of_pending M performs)⟩

/-- `P` holds of every configuration in which a choice is made, with the choice. -/
def Along (P : Config F S α → TaskId → Prop) (c : Config F S α) : List TaskId → Prop
  | [] => True
  | t :: rest => P c t ∧ Along P (c.step M t) rest

/-- The same for conditions that also concern the choices still to come. -/
def AlongRest (P : Config F S α → TaskId → List TaskId → Prop) (c : Config F S α) :
    List TaskId → Prop
  | [] => True
  | t :: rest => P c t rest ∧ AlongRest P (c.step M t) rest

/-- A condition that implies another along the run. -/
theorem alongRest_mono {P Q : Config F S α → TaskId → List TaskId → Prop}
    (h : ∀ c t rest, P c t rest → Q c t rest) (c : Config F S α) (sched : List TaskId)
    (hp : c.AlongRest M P sched) : c.AlongRest M Q sched := by
  induction sched generalizing c with
  | nil => trivial
  | cons t rest ih => exact ⟨h c t rest hp.1, ih _ hp.2⟩

/-- Conditions that can be checked can be checked along a run. -/
instance decidableAlong (P : Config F S α → TaskId → Prop) [∀ c t, Decidable (P c t)] :
    ∀ (sched : List TaskId) (c : Config F S α), Decidable (c.Along M P sched)
  | [], _ => isTrue trivial
  | t :: rest, c =>
      have := decidableAlong P rest (c.step M t)
      inferInstanceAs (Decidable (P c t ∧ _))

instance decidableAlongRest (P : Config F S α → TaskId → List TaskId → Prop)
    [∀ c t rest, Decidable (P c t rest)] :
    ∀ (sched : List TaskId) (c : Config F S α), Decidable (c.AlongRest M P sched)
  | [], _ => isTrue trivial
  | t :: rest, c =>
      have := decidableAlongRest P rest (c.step M t)
      inferInstanceAs (Decidable (P c t rest ∧ _))

theorem step_of_performs (c : Config F S α) (t : TaskId) (o : F.Op)
    (next : F.Answer o → Prog F α) (admits : c.Admits t) (ready : M.ready t o c.shared = true)
    (task : c.tasks t = .op o next) :
    c.step M t = c.resume M t (next (M.exec t o c.shared).1) (M.exec t o c.shared).2 := by
  simp only [step, admits, if_true, task, ready]

/-- A step performs one operation or changes nothing. -/
theorem step_cases (c : Config F S α) (t : TaskId) :
    c.step M t = c ∨
      ∃ o next, c.Admits t ∧ M.ready t o c.shared = true ∧ c.tasks t = .op o next ∧
        c.step M t =
          c.resume M t (next (M.exec t o c.shared).1) (M.exec t o c.shared).2 := by
  by_cases admits : c.Admits t
  · cases task : c.tasks t with
    | pure a => exact .inl (by simp only [step, admits, if_true, task])
    | op o next =>
        by_cases ready : M.ready t o c.shared = true
        · exact .inr ⟨o, next, admits, ready, rfl,
            step_of_performs M c t o next admits ready task⟩
        · exact .inl (by simp only [step, admits, if_true, task, ready, Bool.false_eq_true, if_false])
  · exact .inl (by simp only [step, admits, if_false])

/-- The task itself after an operation. -/
theorem step_own {c : Config F S α} {t : TaskId} {o : F.Op} {next : F.Answer o → Prog F α}
    (task : c.tasks t = .op o next) (admits : c.Admits t) (ready : M.ready t o c.shared = true) :
    (c.step M t).tasks t = next (M.exec t o c.shared).1 ∧
      (c.step M t).shared = (M.exec t o c.shared).2 ∧
      (c.step M t).running =
        if (next (M.exec t o c.shared).1).atAwait M then none else some t := by
  rw [step_of_performs M c t o next admits ready task]
  exact ⟨Function.update_self _ _ _, rfl, rfl⟩

theorem step_of_not_admits {c : Config F S α} {t : TaskId} (waits : ¬ c.Admits t) :
    c.step M t = c := if_neg waits

/-- A task keeps the control or gives it back. -/
theorem admits_step {c : Config F S α} {t : TaskId} (admits : c.Admits t) :
    (c.step M t).Admits t := by
  rcases c.step_cases M t with same | ⟨o, next, -, -, -, step⟩
  · rwa [same]
  · rw [step]
    unfold Admits resume
    dsimp only
    split
    · exact .inl rfl
    · exact .inr rfl

/-- What has ended stays as it is. -/
theorem step_ended {c : Config F S α} {t : TaskId} {a : α} (ended : c.tasks t = .pure a)
    (other : TaskId) : (c.step M other).tasks t = .pure a := by
  rcases c.step_cases M other with same | ⟨o, next, -, -, task, step⟩
  · rw [same, ended]
  · rw [step]
    have differs : t ≠ other := by
      rintro rfl
      cases ended.symm.trans task
    exact (Function.update_of_ne differs _ _).trans ended

/-- Another task's step leaves a task and its hold on the control alone. -/
theorem step_other {c : Config F S α} {t other : TaskId} (differs : other ≠ t) :
    (c.step M other).tasks t = c.tasks t ∧
      (c.running = some t → c.step M other = c) := by
  refine ⟨?_, fun running => ?_⟩
  · rcases c.step_cases M other with same | ⟨o, next, -, -, task, step⟩
    · rw [same]
    · rw [step]
      exact Function.update_of_ne (Ne.symm differs) _ _
  · refine if_neg ?_
    rintro (idle | own)
    · cases running.symm.trans idle
    · exact differs (Option.some.inj (own.symm.trans running))

@[simp] theorem run_nil (c : Config F S α) : c.run M [] = c := rfl

@[simp] theorem run_cons (c : Config F S α) (t : TaskId) (rest : List TaskId) :
    c.run M (t :: rest) = (c.step M t).run M rest := rfl

theorem run_append (c : Config F S α) (first second : List TaskId) :
    c.run M (first ++ second) = (c.run M first).run M second := by
  induction first generalizing c with
  | nil => rfl
  | cons t rest ih => exact ih (c.step M t)

theorem along_append (P : Config F S α → TaskId → Prop) (c : Config F S α)
    (first second : List TaskId) :
    c.Along M P (first ++ second) ↔ c.Along M P first ∧ (c.run M first).Along M P second := by
  induction first generalizing c with
  | nil => simp [Along]
  | cons t rest ih => simp only [List.cons_append, Along, ih, run_cons, and_assoc]

theorem along_mono {P Q : Config F S α → TaskId → Prop} (h : ∀ c t, P c t → Q c t)
    (c : Config F S α) (sched : List TaskId) (hp : c.Along M P sched) :
    c.Along M Q sched := by
  induction sched generalizing c with
  | nil => trivial
  | cons t rest ih => exact ⟨h c t hp.1, ih _ hp.2⟩

theorem along_and {P Q : Config F S α → TaskId → Prop} (c : Config F S α) (sched : List TaskId)
    (hp : c.Along M P sched) (hq : c.Along M Q sched) :
    c.Along M (fun c t => P c t ∧ Q c t) sched := by
  induction sched generalizing c with
  | nil => trivial
  | cons t rest ih => exact ⟨⟨hp.1, hq.1⟩, ih _ hp.2 hq.2⟩

/-- The choices of a run are among those of the list. -/
theorem along_mem (c : Config F S α) (sched : List TaskId) :
    c.Along M (fun _ t => t ∈ sched) sched := by
  suffices sub : ∀ choices : List TaskId, (∀ t ∈ choices, t ∈ sched) → ∀ c : Config F S α,
      c.Along M (fun _ t => t ∈ sched) choices from sub sched (fun _ => id) c
  intro choices within
  induction choices with
  | nil => exact fun _ => trivial
  | cons t rest ih =>
      exact fun c => ⟨within t List.mem_cons_self,
        ih (fun t' member => within t' (List.mem_cons_of_mem _ member)) _⟩

/-- Invariant rule: what every admitted step preserves holds after the run. -/
theorem run_induct {I : Config F S α → Prop} {P : Config F S α → TaskId → Prop}
    (keep : ∀ c t, I c → P c t → I (c.step M t)) (c : Config F S α) (sched : List TaskId)
    (init : I c) (along : c.Along M P sched) : I (c.run M sched) := by
  induction sched generalizing c with
  | nil => exact init
  | cons t rest ih => exact ih _ (keep c t init along.1) along.2

/-- The invariant also holds wherever a choice is made. -/
theorem along_induct {I : Config F S α → Prop} {P Q : Config F S α → TaskId → Prop}
    (keep : ∀ c t, I c → P c t → I (c.step M t)) (use : ∀ c t, I c → P c t → Q c t)
    (c : Config F S α) (sched : List TaskId) (init : I c) (along : c.Along M P sched) :
    c.Along M Q sched := by
  induction sched generalizing c with
  | nil => trivial
  | cons t rest ih => exact ⟨use c t init along.1, ih _ (keep c t init along.1) along.2⟩

/-- Conditions that agree under an invariant hold along the same runs. -/
theorem along_iff {I : Config F S α → Prop} {P Q : Config F S α → TaskId → Prop}
    (keep : ∀ c t, I c → P c t → I (c.step M t)) (agree : ∀ c t, I c → (P c t ↔ Q c t))
    (c : Config F S α) (sched : List TaskId) (init : I c) :
    c.Along M P sched ↔ c.Along M Q sched := by
  induction sched generalizing c with
  | nil => exact Iff.rfl
  | cons t rest ih =>
      simp only [Along, ← agree c t init]
      exact and_congr_right fun h => ih _ (keep c t init h)

/-- Every task is within `ok` as long as the answers are admissible. -/
def Each (admissible : (o : F.Op) → F.Answer o → Prop) (ok : F.Op → Prop) (post : α → Prop)
    (c : Config F S α) : Prop :=
  ∀ t, (c.tasks t).Each admissible ok post

theorem Each.performs {admissible : (o : F.Op) → F.Answer o → Prop} {ok : F.Op → Prop}
    {post : α → Prop} {c : Config F S α} (each : c.Each admissible ok post) {t : TaskId}
    {o : F.Op} (h : c.Performs M t o) : ok o := by
  obtain ⟨-, -, next, task⟩ := h
  have := each t
  rw [task] at this
  exact this.1

theorem Each.step {admissible : (o : F.Op) → F.Answer o → Prop} {ok : F.Op → Prop}
    {post : α → Prop} {c : Config F S α} (each : c.Each admissible ok post) (t : TaskId)
    (answers : ∀ o, c.Performs M t o → admissible o (M.exec t o c.shared).1) :
    (c.step M t).Each admissible ok post := by
  rcases c.step_cases M t with same | ⟨o, next, admits, ready, task, step⟩
  · rwa [same]
  · rw [step]
    intro other
    have own := each t
    rw [task] at own
    by_cases eq : other = t
    · subst eq
      simpa only [resume, Function.update_self] using own.2 _ (answers o ⟨admits, ready, next, task⟩)
    · simpa only [resume, Function.update_of_ne eq] using each other

/-- A step that performs an operation leaves the state the operation leaves. -/
theorem step_shared (c : Config F S α) (t : TaskId) :
    (c.step M t).shared = c.shared ∨
      ∃ o, c.Performs M t o ∧ (c.step M t).shared = (M.exec t o c.shared).2 := by
  rcases c.step_cases M t with same | ⟨o, next, admits, ready, task, step⟩
  · exact .inl (by rw [same])
  · exact .inr ⟨o, ⟨admits, ready, next, task⟩, by rw [step]; rfl⟩

theorem shared_of_performs {c : Config F S α} {t : TaskId} {o : F.Op} (h : c.Performs M t o) :
    (c.step M t).shared = (M.exec t o c.shared).2 := by
  obtain ⟨admits, ready, next, task⟩ := h
  rw [step_of_performs M c t o next admits ready task]
  rfl

end Config
end Cooperative
