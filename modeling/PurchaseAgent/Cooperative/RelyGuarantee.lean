import PurchaseAgent.Cooperative.Machine

/-!
Rely/guarantee reasoning for cooperative tasks. A task may assume that whatever
the others do while it is suspended stays within its rely, and promises that
each of its own operations stays within its guarantee. `Safe` is the weakest
precondition of a program under such a discipline, and the pool rule composes
safe tasks into any interleaving in which the promises keep the assumptions.
-/

namespace Cooperative

structure Discipline {F : Signature} {S : Type} (M : Machine F S) where
  /-- What may happen to the shared state while the task is suspended. -/
  rely : TaskId → S → S → Prop
  /-- What an operation of the task may do to the shared state. -/
  guarantee : TaskId → F.Op → S → S → Prop
  rely_refl : ∀ t s, rely t s s
  rely_trans : ∀ t s₁ s₂ s₃, rely t s₁ s₂ → rely t s₂ s₃ → rely t s₁ s₃

/-- A program that ends with a value or with an exception. -/
abbrev Task (F : Signature) (ε α : Type) := ExceptT ε (Prog F) α

/-- A coroutine goes on with a value, or ends with an exception. -/
def proceed {ε α β S : Type} (next : α → S → Except ε β × S) :
    Except ε α × S → Except ε β × S
  | (.ok a, s) => next a s
  | (.error error, s) => (.error error, s)

theorem eval_seq {F : Signature} {S ε α β : Type} (M : Machine F S) (t : TaskId)
    (x : Task F ε α) (f : α → Task F ε β) (s : S) :
    (x >>= f).run.eval M t s =
      proceed (fun a s' => (f a).run.eval M t s') (x.run.eval M t s) := by
  have whole : (x >>= f).run = x.run.bind (ExceptT.bindCont f) := rfl
  rw [whole, Prog.eval_bind]
  cases outcome : x.run.eval M t s with
  | mk result s' => cases result <;> rfl

variable {F : Signature} {S α β ε : Type} {M : Machine F S}

namespace Discipline
variable (D : Discipline M)

/-- The states in which an operation reached in `s` can be performed. -/
def Arrives (t : TaskId) (o : F.Op) (s s' : S) : Prop :=
  if M.awaits o then D.rely t s s' else s' = s

/-- Weakest precondition: from `s` on every operation keeps the guarantee, and
`Q` holds as soon as the program is finished. -/
def Safe (t : TaskId) (Q : α → S → Prop) : Prog F α → S → Prop
  | .pure a, s => Q a s
  | .op o next, s =>
      ∀ s', D.Arrives t o s s' → M.ready t o s' = true →
        D.guarantee t o s' (M.exec t o s').2 ∧
        Safe t Q (next (M.exec t o s').1) (M.exec t o s').2

variable {D} {t : TaskId}

@[simp] theorem safe_pure (Q : α → S → Prop) (a : α) (s : S) :
    D.Safe t Q (Prog.pure a) s ↔ Q a s := Iff.rfl

theorem safe_op (Q : α → S → Prop) (o : F.Op) (next : F.Answer o → Prog F α) (s : S) :
    D.Safe t Q (Prog.op o next) s ↔
      ∀ s', D.Arrives t o s s' → M.ready t o s' = true →
        D.guarantee t o s' (M.exec t o s').2 ∧
        D.Safe t Q (next (M.exec t o s').1) (M.exec t o s').2 := Iff.rfl

theorem safe_mono {Q Q' : α → S → Prop} (h : ∀ a s, Q a s → Q' a s)
    (p : Prog F α) (s : S) (hp : D.Safe t Q p s) : D.Safe t Q' p s := by
  induction p generalizing s with
  | pure a => exact h a s hp
  | op o next ih =>
      intro s' arrives ready
      exact ⟨(hp s' arrives ready).1, ih _ _ (hp s' arrives ready).2⟩

theorem safe_bind (Q : β → S → Prop) (p : Prog F α) (f : α → Prog F β) (s : S) :
    D.Safe t Q (p.bind f) s ↔ D.Safe t (fun a s' => D.Safe t Q (f a) s') p s := by
  induction p generalizing s with
  | pure a => rfl
  | op o next ih => simp only [Prog.op_bind, safe_op, ih]

/-- A task at a suspension point stays safe while the others keep its rely. -/
theorem safe_rely {Q : α → S → Prop} {p : Prog F α} {s s' : S}
    (await : ∃ o next, p = .op o next ∧ M.awaits o = true)
    (rely : D.rely t s s') (hp : D.Safe t Q p s) : D.Safe t Q p s' := by
  obtain ⟨o, next, rfl, awaits⟩ := await
  intro s'' arrives ready
  refine hp s'' ?_ ready
  simp only [Arrives, awaits, if_true] at arrives ⊢
  exact D.rely_trans t s s' s'' rely arrives

/-! Rules for programs that may raise. -/

theorem safe_run_bind (Q : Except ε β → S → Prop) (p : Task F ε α) (f : α → Task F ε β) (s : S) :
    D.Safe t Q (p >>= f).run s ↔
      D.Safe t (fun r s' => match r with
        | .ok a => D.Safe t Q (f a).run s'
        | .error e => Q (.error e) s') p.run s := by
  refine (safe_bind Q p.run _ s).trans ⟨safe_mono ?_ p.run s, safe_mono ?_ p.run s⟩
  · rintro (e | a) s' h <;> exact h
  · rintro (e | a) s' h <;> exact h

/-- A postcondition for programs that do not raise. -/
def Returning (P : α → S → Prop) : Except ε α → S → Prop
  | .ok a, s => P a s
  | .error _, _ => False

/-- Sequencing, with one intermediate assertion for each outcome. -/
theorem safe_seq {Q : Except ε β → S → Prop} {R : Except ε α → S → Prop} {p : Task F ε α}
    {f : α → Task F ε β} {s : S} (hp : D.Safe t R p.run s)
    (ok : ∀ a s', R (.ok a) s' → D.Safe t Q (f a).run s')
    (error : ∀ e s', R (.error e) s' → Q (.error e) s') : D.Safe t Q (p >>= f).run s := by
  refine (safe_run_bind Q p f s).mpr (safe_mono ?_ p.run s hp)
  rintro (e | a) s' h
  · exact error e s' h
  · exact ok a s' h

theorem safe_then {Q : Except ε β → S → Prop} {P : α → S → Prop} {p : Task F ε α}
    {f : α → Task F ε β} {s : S} (hp : D.Safe t (Returning P) p.run s)
    (ok : ∀ a s', P a s' → D.Safe t Q (f a).run s') : D.Safe t Q (p >>= f).run s :=
  safe_seq hp ok fun _ _ raised => raised.elim

variable (D) in
/-- Every task that will go on is safe where it stands: the running one in the
current state, the suspended ones in every state their rely leads to, the
finished ones have established their postcondition. -/
def Pool (Q : TaskId → α → S → Prop) (live : TaskId → Prop) (c : Config F S α) : Prop :=
  ∀ t, live t →
    (∀ a, c.tasks t = .pure a → Q t a c.shared) ∧
    (c.running = some t → D.Safe t (Q t) (c.tasks t) c.shared) ∧
    (c.running ≠ some t → (c.tasks t).finished = false →
      ∀ s', D.rely t c.shared s' → D.Safe t (Q t) (c.tasks t) s')

/-- What the operation of one task owes to another that will go on. -/
def Respects (D : Discipline M) (Q : TaskId → α → S → Prop) (live : TaskId → Prop)
    (c : Config F S α) (t : TaskId) (s' : S) : Prop :=
  ∀ other, other ≠ t → live other →
    ((c.tasks other).finished = false → D.rely other c.shared s') ∧
    ∀ a, c.tasks other = .pure a → Q other a c.shared → Q other a s'

variable {Q : TaskId → α → S → Prop} {live : TaskId → Prop} {c : Config F S α}

theorem Pool.guarantee (pool : D.Pool Q live c) {t : TaskId} (going : live t) {o : F.Op}
    (h : c.Performs M t o) : D.guarantee t o c.shared (M.exec t o c.shared).2 := by
  obtain ⟨admits, ready, next, task⟩ := h
  obtain ⟨-, running, suspended⟩ := pool t going
  have safe : D.Safe t (Q t) (c.tasks t) c.shared := by
    rcases admits with idle | own
    · exact suspended (by simp [idle]) (by simp [task, Prog.finished]) _ (D.rely_refl t _)
    · exact running own
  rw [task] at safe
  refine (safe c.shared ?_ ready).1
  unfold Arrives
  split
  · exact D.rely_refl t _
  · rfl

theorem Pool.step {after : TaskId → Prop} (pool : D.Pool Q live c) {t : TaskId} (going : live t)
    (fewer : ∀ other, after other → live other)
    (respects : ∀ o, c.Performs M t o → Respects D Q after c t (M.exec t o c.shared).2) :
    D.Pool Q after (c.step M t) := by
  rcases c.step_cases M t with same | ⟨o, next, admits, ready, task, step⟩
  · rw [same]
    exact fun other later => pool other (fewer other later)
  have performs : c.Performs M t o := ⟨admits, ready, next, task⟩
  obtain ⟨-, running, suspended⟩ := pool t going
  have safe : D.Safe t (Q t) (c.tasks t) c.shared := by
    rcases admits with idle | own
    · exact suspended (by simp [idle]) (by simp [task, Prog.finished]) _ (D.rely_refl t _)
    · exact running own
  rw [task] at safe
  have arrives : D.Arrives t o c.shared c.shared := by
    unfold Arrives
    split
    · exact D.rely_refl t _
    · rfl
  have done := (safe c.shared arrives ready).2
  rw [step]
  intro other later
  by_cases eq : other = t
  · subst eq
    refine ⟨?_, ?_, ?_⟩
    · intro a finished
      simp only [Config.resume, Function.update_self] at finished ⊢
      simpa only [finished, safe_pure] using done
    · intro _
      simpa only [Config.resume, Function.update_self] using done
    · intro notRunning unfinished s' rely
      simp only [Config.resume, Function.update_self] at notRunning unfinished rely ⊢
      refine safe_rely ?_ rely done
      cases shape : next (M.exec other o c.shared).1 with
      | pure a => simp [shape, Prog.finished] at unfinished
      | op o' next' =>
          refine ⟨o', next', rfl, ?_⟩
          by_contra quiet
          simp [shape, Prog.atAwait, quiet] at notRunning
  · have unchanged : (c.resume M t (next (M.exec t o c.shared).1)
        (M.exec t o c.shared).2).tasks other = c.tasks other := by
      simp only [Config.resume, Function.update_of_ne eq]
    obtain ⟨relies, posts⟩ := respects o performs other eq later
    have otherSuspended : c.running ≠ some other := by
      rcases admits with idle | own
      · simp [idle]
      · simpa [own] using fun h => eq h.symm
    have before := pool other (fewer other later)
    refine ⟨?_, ?_, ?_⟩
    · intro a finished
      rw [unchanged] at finished
      exact posts a finished (before.1 a finished)
    · intro runs
      simp only [Config.resume] at runs
      split at runs
      · cases runs
      · exact absurd (Option.some.inj runs).symm eq
    · intro _ unfinished s' rely
      rw [unchanged] at unfinished ⊢
      exact before.2.2 otherSuspended unfinished s'
        (D.rely_trans other _ _ _ (relies unfinished) rely)

/-- The pool rule: if what is admitted along the run makes each operation within
its guarantee respect the tasks that are still to go on, every operation
performed is within its guarantee. The guarantees may also keep an invariant of
the shared state, which the other premise can use. -/
theorem Pool.along {P : Config F S α → TaskId → List TaskId → Prop} {I : S → Prop}
    (keep : ∀ t o s s', I s → D.guarantee t o s s' → I s')
    (interplay : ∀ c t rest o, D.Pool Q (· ∈ t :: rest) c → I c.shared → P c t rest →
      c.Performs M t o → D.guarantee t o c.shared (M.exec t o c.shared).2 →
      Respects D Q (· ∈ rest) c t (M.exec t o c.shared).2)
    (sched : List TaskId) (pool : D.Pool Q (· ∈ sched) c) (inv : I c.shared)
    (along : c.AlongRest M P sched) :
    I (c.run M sched).shared ∧
      c.Along M (fun c t => I c.shared ∧ ∀ o, c.Performs M t o →
        D.guarantee t o c.shared (M.exec t o c.shared).2) sched := by
  induction sched generalizing c with
  | nil => exact ⟨inv, trivial⟩
  | cons t rest ih =>
      obtain ⟨admitted, along⟩ := along
      have guarantees : ∀ o, c.Performs M t o →
          D.guarantee t o c.shared (M.exec t o c.shared).2 := fun o performs =>
        pool.guarantee List.mem_cons_self performs
      have next : I (c.step M t).shared := by
        rcases c.step_shared M t with same | ⟨o, performs, same⟩
        · rwa [same]
        · rw [same]
          exact keep t o _ _ inv (guarantees o performs)
      have stepped := pool.step List.mem_cons_self (fun other => List.mem_cons_of_mem t)
        fun o performs => interplay c t rest o pool inv admitted performs (guarantees o performs)
      obtain ⟨last, later⟩ := ih stepped next along
      exact ⟨last, ⟨inv, guarantees⟩, later⟩

/-- The pool rule for tasks that respect each other whatever is scheduled. -/
theorem Pool.always {I : S → Prop} (keep : ∀ t o s s', I s → D.guarantee t o s s' → I s')
    (interplay : ∀ (c : Config F S α) t o, I c.shared → c.Performs M t o →
      D.guarantee t o c.shared (M.exec t o c.shared).2 →
      Respects D Q (fun _ => True) c t (M.exec t o c.shared).2)
    (sched : List TaskId) (pool : D.Pool Q (fun _ => True) c) (inv : I c.shared) :
    I (c.run M sched).shared ∧ D.Pool Q (fun _ => True) (c.run M sched) ∧
      c.Along M (fun c t => I c.shared ∧ ∀ o, c.Performs M t o →
        D.guarantee t o c.shared (M.exec t o c.shared).2) sched := by
  induction sched generalizing c with
  | nil => exact ⟨inv, pool, trivial⟩
  | cons t rest ih =>
      have guarantees : ∀ o, c.Performs M t o →
          D.guarantee t o c.shared (M.exec t o c.shared).2 := fun o performs =>
        pool.guarantee trivial performs
      have next : I (c.step M t).shared := by
        rcases c.step_shared M t with same | ⟨o, performs, same⟩
        · rwa [same]
        · rw [same]
          exact keep t o _ _ inv (guarantees o performs)
      have stepped := pool.step trivial (fun _ _ => trivial) fun o performs =>
        interplay c t o inv performs (guarantees o performs)
      obtain ⟨last, lastPool, later⟩ := ih stepped next
      exact ⟨last, lastPool, ⟨inv, guarantees⟩, later⟩

/-- The discipline of a task that may find anything at its suspension points. -/
def anything (M : Machine F S) : Discipline M where
  rely _ _ _ := True
  guarantee _ _ _ _ := True
  rely_refl _ _ := trivial
  rely_trans _ _ _ _ _ _ := trivial

/-- From where the program stands now to the state after its operation. -/
theorem safe_anything_op {M : Machine F S} {t : TaskId} {Q : α → S → Prop} {o : F.Op}
    {next : F.Answer o → Prog F α} {s s' : S} (h : (anything M).Safe t Q (.op o next) s)
    (here : (anything M).Arrives t o s s') (ready : M.ready t o s' = true) :
    (anything M).Safe t Q (next (M.exec t o s').1) (M.exec t o s').2 :=
  (h s' here ready).2

/-- What a program ends with whatever the answers are. -/
theorem safe_anything_of_each {M : Machine F S} {t : TaskId} {ok : F.Op → Prop} {ends : α → Prop}
    (p : Prog F α) (s : S) (h : p.Each (fun _ _ => True) ok ends) :
    (anything M).Safe t (fun a _ => ends a) p s := by
  induction p generalizing s with
  | pure a => exact h
  | op o next ih => exact fun s' _ _ => ⟨trivial, ih _ _ (h.2 _ trivial)⟩

/-- The discipline of a task that runs alone. -/
def sequential (M : Machine F S) : Discipline M where
  rely _ s s' := s' = s
  guarantee _ _ _ _ := True
  rely_refl _ _ := rfl
  rely_trans _ _ _ _ h k := k.trans h

theorem arrives_sequential (t : TaskId) (o : F.Op) (s s' : S) :
    (sequential M).Arrives t o s s' ↔ s' = s := by
  unfold Arrives
  split <;> rfl

/-- Running alone, a program satisfies its weakest precondition exactly when
the state it ends in satisfies the postcondition. -/
theorem safe_sequential (ready : ∀ t o s, M.ready t o s = true) (Q : α → S → Prop)
    (p : Prog F α) (s : S) :
    (sequential M).Safe t Q p s ↔ Q (p.eval M t s).1 (p.eval M t s).2 := by
  induction p generalizing s with
  | pure a => rfl
  | op o next ih =>
      simp only [safe_op, arrives_sequential, ready, Prog.eval_op, ← ih]
      exact ⟨fun h => (h s rfl trivial).2, by rintro h s' rfl -; exact ⟨trivial, h⟩⟩

end Discipline
end Cooperative
