import PurchaseAgent.Cooperative.Fallible

/-!
What the operations of a program may depend on: an operation is judged by all that was
performed before it, with the answers, and the end by the whole history.
-/

namespace Cooperative

/-- An operation with its answer. -/
abbrev Signature.Event (F : Signature) := (o : F.Op) × F.Answer o

namespace Prog
variable {F : Signature} {α β : Type}

/-- After the history every operation satisfies `ok` where it is performed, and the
program ends in a `post`, whatever the answers are. -/
def Along (ok : List F.Event → F.Op → Prop) (post : List F.Event → α → Prop) :
    List F.Event → Prog F α → Prop
  | history, .pure a => post history a
  | history, .op o next =>
    ok history o ∧ ∀ answer, Along ok post (history ++ [⟨o, answer⟩]) (next answer)

variable {ok : List F.Event → F.Op → Prop}

theorem along_mono {post post' : List F.Event → α → Prop}
    (h : ∀ history a, post history a → post' history a) (p : Prog F α) {history : List F.Event}
    (along : Along ok post history p) : Along ok post' history p := by
  induction p generalizing history with
  | pure a => exact h history a along
  | op o next ih => exact ⟨along.1, fun answer => ih answer (along.2 answer)⟩

theorem along_bind (post : List F.Event → β → Prop) (p : Prog F α) (f : α → Prog F β)
    (history : List F.Event) :
    Along ok post history (p.bind f) ↔
      Along ok (fun later a => Along ok post later (f a)) history p := by
  induction p generalizing history with
  | pure a => rfl
  | op o next ih => simp only [op_bind, Along, ih]

variable {post : List F.Event → α → Prop}

/-- What a run performs is judged by what it has performed before. -/
theorem along_performed (p : Prog F α) {history : List F.Event} (along : Along ok post history p)
    (oracle : Nat → (o : F.Op) → F.Answer o) (n : Nat) {front back : List F.Event} {x : F.Event}
    (split : p.performed oracle n = front ++ x :: back) : ok (history ++ front) x.1 := by
  induction p generalizing history n front with
  | pure a => cases front <;> cases split
  | op o next ih =>
      cases front with
      | nil =>
          obtain ⟨rfl, -⟩ := List.cons.inj split
          rw [List.append_nil]
          exact along.1
      | cons first front =>
          obtain ⟨rfl, rest⟩ := List.cons.inj split
          have later := ih (oracle n o) (along.2 _) (n + 1) rest
          rwa [List.append_assoc] at later

theorem along_answered (p : Prog F α) {history : List F.Event} (along : Along ok post history p)
    (oracle : Nat → (o : F.Op) → F.Answer o) (n : Nat) :
    post (history ++ p.performed oracle n) (p.answered oracle n) := by
  induction p generalizing history n with
  | pure a =>
      rw [performed, List.append_nil]
      exact along
  | op o next ih =>
      have later := ih (oracle n o) (along.2 _) (n + 1)
      rwa [List.append_assoc] at later

end Prog

namespace Fallible
variable {ε α β : Type} {F : Signature} {ok : List F.Event → F.Op → Prop}

/-- The same for programs that can fail, whose failures end in no `post`. -/
def Follows (ok : List F.Event → F.Op → Prop) (post : List F.Event → α → Prop)
    (history : List F.Event) (p : Fallible F ε α) : Prop :=
  Prog.Along ok (fun later r => ∀ a, r = .ok a → post later a) history p.run

theorem follows_pure {post : List F.Event → α → Prop} {history : List F.Event} {a : α}
    (h : post history a) : Follows ok post history (pure a : Fallible F ε α) := by
  intro b same
  obtain rfl := Except.ok.inj same
  exact h

theorem follows_throw {post : List F.Event → α → Prop} {history : List F.Event} (error : ε) :
    Follows ok post history (throw error : Fallible F ε α) := by
  intro a same
  cases same

theorem follows_bind {mid : List F.Event → α → Prop} {post : List F.Event → β → Prop}
    {history : List F.Event} {p : Fallible F ε α} {f : α → Fallible F ε β}
    (first : Follows ok mid history p)
    (next : ∀ later a, mid later a → Follows ok post later (f a)) :
    Follows ok post history (p >>= f) := by
  change Prog.Along _ _ _ (Prog.bind p.run (ExceptT.bindCont f))
  rw [Prog.along_bind]
  refine Prog.along_mono ?_ p.run first
  intro later r ended
  cases r with
  | error error =>
      intro a same
      cases same
  | ok a => exact next later a (ended a rfl)

theorem follows_mono {post post' : List F.Event → α → Prop} {history : List F.Event}
    {p : Fallible F ε α} (h : ∀ later a, post later a → post' later a)
    (follows : Follows ok post history p) : Follows ok post' history p :=
  Prog.along_mono (fun later _ ended a same => h later a (ended a same)) p.run follows

variable {Op : Type} {Value : Op → Type}

/-- An operation, and then what goes on with its answer. -/
theorem follows_perform {ok : List (Signature.fallible ε Op Value).Event → Op → Prop}
    {post : List (Signature.fallible ε Op Value).Event → β → Prop}
    {history : List (Signature.fallible ε Op Value).Event} {o : Op}
    {f : Value o → Fallible (Signature.fallible ε Op Value) ε β} (allowed : ok history o)
    (next : ∀ answer, Follows ok post (history ++ [⟨o, .ok answer⟩]) (f answer)) :
    Follows (F := Signature.fallible ε Op Value) ok post history (perform o >>= f) := by
  change Prog.Along (F := Signature.fallible ε Op Value) _ _ _
    (Prog.op o fun answer => Prog.bind (.pure answer) (ExceptT.bindCont f))
  refine ⟨allowed, ?_⟩
  intro answer
  cases answer with
  | error error =>
      intro a same
      cases same
  | ok answer => exact next answer

end Fallible
end Cooperative
