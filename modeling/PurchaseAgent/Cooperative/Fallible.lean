import PurchaseAgent.Cooperative.Program

/-!
Programs whose operations can fail. A failure ends the program unless it is
caught; what holds of every run is proved along the program, one bind at a time.
-/

namespace Cooperative

/-- Operations that answer with a value or fail. -/
def Signature.fallible (ε : Type) (Op : Type) (Value : Op → Type) : Signature :=
  ⟨Op, fun o => Except ε (Value o)⟩

def Fallible (F : Signature) (ε α : Type) : Type := ExceptT ε (Prog F) α

namespace Fallible
variable {F : Signature} {ε α β : Type}

instance : Monad (Fallible F ε) := inferInstanceAs (Monad (ExceptT ε (Prog F)))

def throw (error : ε) : Fallible F ε α := ExceptT.mk (.pure (.error error))

def perform {Op : Type} {Value : Op → Type} (o : Op) :
    Fallible (Signature.fallible ε Op Value) ε (Value o) :=
  ExceptT.mk (Prog.perform (F := Signature.fallible ε Op Value) o)

/-- The program, with the failures that `caught` selects answered by `none`. -/
def attempt (caught : ε → Bool) (p : Fallible F ε α) : Fallible F ε (Option α) :=
  ExceptT.mk (Prog.bind p.run fun
    | .ok a => .pure (.ok (some a))
    | .error error => if caught error then .pure (.ok none) else .pure (.error error))

/-- The program, and then the cleanup, whether or not the program has failed. -/
def ensuring (p : Fallible F ε α) (cleanup : Fallible F ε Unit) : Fallible F ε α :=
  ExceptT.mk (Prog.bind p.run fun r => Prog.bind cleanup.run fun
    | .ok _ => .pure r
    | .error error => .pure (.error error))

/-- As long as the answers are admissible, every operation that the program performs
satisfies `ok`, and every value that it ends with satisfies `post`. -/
def Within (admissible : (o : F.Op) → F.Answer o → Prop) (ok : F.Op → Prop) (post : α → Prop)
    (p : Fallible F ε α) : Prop :=
  Prog.Each admissible ok (fun r => ∀ a, r = .ok a → post a) p.run

variable {admissible : (o : F.Op) → F.Answer o → Prop} {ok : F.Op → Prop}

theorem within_pure {post : α → Prop} {a : α} (h : post a) :
    Within admissible ok post (pure a : Fallible F ε α) := by
  intro b same
  obtain rfl := Except.ok.inj same
  exact h

theorem within_throw {post : α → Prop} (error : ε) :
    Within admissible ok post (throw error : Fallible F ε α) := by
  intro a same
  cases same

theorem within_bind {mid : α → Prop} {post : β → Prop} {p : Fallible F ε α}
    {f : α → Fallible F ε β} (first : Within admissible ok mid p)
    (next : ∀ a, mid a → Within admissible ok post (f a)) :
    Within admissible ok post (p >>= f) := by
  change Prog.Each _ _ _ (Prog.bind p.run (ExceptT.bindCont f))
  rw [Prog.each_bind]
  refine Prog.each_mono ?_ p.run first
  intro r ended
  cases r with
  | error error =>
      intro a same
      cases same
  | ok a => exact next a (ended a rfl)

theorem within_mono {post post' : α → Prop} {p : Fallible F ε α} (h : ∀ a, post a → post' a)
    (within : Within admissible ok post p) : Within admissible ok post' p :=
  Prog.each_mono (fun _ ended a same => h a (ended a same)) p.run within

theorem within_perform {Op : Type} {Value : Op → Type}
    {admissible : (o : Op) → Except ε (Value o) → Prop} {ok : Op → Prop} {o : Op}
    (allowed : ok o) :
    Within (F := Signature.fallible ε Op Value) admissible ok (fun a => admissible o (.ok a))
      (perform o : Fallible (Signature.fallible ε Op Value) ε (Value o)) := by
  change Prog.Each (F := Signature.fallible ε Op Value) _ _ _ (Prog.op o _)
  refine ⟨allowed, ?_⟩
  intro answer given a same
  exact same ▸ given

theorem within_attempt {post : α → Prop} {p : Fallible F ε α} (caught : ε → Bool)
    (within : Within admissible ok post p) :
    Within admissible ok (fun a => ∀ b ∈ a, post b) (attempt caught p) := by
  change Prog.Each _ _ _ (Prog.bind p.run _)
  rw [Prog.each_bind]
  refine Prog.each_mono ?_ p.run within
  intro r ended
  cases r with
  | error error =>
      by_cases selected : caught error = true
      · simp only [selected, if_true, Prog.each_pure]
        intro a same
        obtain rfl := Except.ok.inj same
        simp
      · simp only [selected]
        intro a same
        cases same
  | ok a =>
      intro b same
      obtain rfl := Except.ok.inj same
      intro c found
      obtain rfl := Option.some.inj found
      exact ended a rfl

theorem within_ensuring {post : α → Prop} {p : Fallible F ε α} {cleanup : Fallible F ε Unit}
    (within : Within admissible ok post p) (after : Within admissible ok (fun _ => True) cleanup) :
    Within admissible ok post (ensuring p cleanup) := by
  change Prog.Each _ _ _ (Prog.bind p.run _)
  rw [Prog.each_bind]
  refine Prog.each_mono ?_ p.run within
  intro r ended
  rw [Prog.each_bind]
  refine Prog.each_mono ?_ cleanup.run after
  intro cleaned _
  cases cleaned with
  | error error =>
      intro a same
      cases same
  | ok done => exact ended

end Fallible

namespace Prog
variable {F : Signature} {α : Type}

/-- The program with every operation answered, by its number in the run. -/
def answered (oracle : Nat → (o : F.Op) → F.Answer o) : Nat → Prog F α → α
  | _, .pure a => a
  | n, .op o next => answered oracle (n + 1) (next (oracle n o))

/-- The operations of that run with their answers. -/
def performed (oracle : Nat → (o : F.Op) → F.Answer o) :
    Nat → Prog F α → List ((o : F.Op) × F.Answer o)
  | _, .pure _ => []
  | n, .op o next => ⟨o, oracle n o⟩ :: performed oracle (n + 1) (next (oracle n o))

theorem mem_performed (oracle : Nat → (o : F.Op) → F.Answer o) (p : Prog F α) (n : Nat)
    {x : (o : F.Op) × F.Answer o} (member : x ∈ p.performed oracle n) :
    ∃ m, x.2 = oracle m x.1 := by
  induction p generalizing n with
  | pure a => cases member
  | op o next ih =>
      rcases List.mem_cons.1 member with rfl | later
      · exact ⟨n, rfl⟩
      · exact ih (oracle n o) (n + 1) later

/-- The answers of a run are admissible. -/
def Answers (admissible : (o : F.Op) → F.Answer o → Prop)
    (oracle : Nat → (o : F.Op) → F.Answer o) (n : Nat) (p : Prog F α) : Prop :=
  ∀ x ∈ p.performed oracle n, admissible x.1 x.2

variable {admissible : (o : F.Op) → F.Answer o → Prop} {ok : F.Op → Prop} {post : α → Prop}

theorem answered_of_each (p : Prog F α) (each : p.Each (fun _ _ => True) ok post)
    (oracle : Nat → (o : F.Op) → F.Answer o) (n : Nat) : post (p.answered oracle n) := by
  induction p generalizing n with
  | pure a => exact each
  | op o next ih => exact ih (oracle n o) (each.2 _ trivial) (n + 1)

theorem performed_of_each (p : Prog F α) (each : p.Each admissible ok post)
    (oracle : Nat → (o : F.Op) → F.Answer o) (n : Nat) (answers : p.Answers admissible oracle n) :
    ∀ x ∈ p.performed oracle n, ok x.1 := by
  induction p generalizing n with
  | pure a =>
      intro x impossible
      cases impossible
  | op o next ih =>
      intro x member
      have first : admissible o (oracle n o) := answers ⟨o, oracle n o⟩ List.mem_cons_self
      rcases List.mem_cons.1 member with rfl | later
      · exact each.1
      · exact ih (oracle n o) (each.2 _ first) (n + 1)
          (fun x member => answers x (List.mem_cons_of_mem _ member)) x later

end Prog

end Cooperative
