import Mathlib.Logic.Function.Basic

/-!
Programs over an arbitrary signature of primitive operations. A program is the
tree of the operations it performs, branching on their answers, so that one
text can be run to completion, interleaved with others, or inspected operation
by operation. Nothing here fixes what an operation means.
-/

namespace Cooperative

/-- Primitive operations together with the type of each one's answer. -/
structure Signature where
  Op : Type
  Answer : Op → Type

inductive Prog (F : Signature) (α : Type) : Type where
  | pure (a : α) : Prog F α
  | op (o : F.Op) (next : F.Answer o → Prog F α) : Prog F α

namespace Prog
variable {F : Signature} {α β γ : Type}

def bind : Prog F α → (α → Prog F β) → Prog F β
  | .pure a, f => f a
  | .op o next, f => .op o fun answer => (next answer).bind f

instance : Monad (Prog F) where
  pure := .pure
  bind := .bind

@[simp] theorem pure_eq (a : α) : (Pure.pure a : Prog F α) = .pure a := rfl

@[simp] theorem bind_eq (p : Prog F α) (f : α → Prog F β) : (p >>= f) = p.bind f := rfl

@[simp] theorem pure_bind' (a : α) (f : α → Prog F β) : (Prog.pure a).bind f = f a := rfl

@[simp] theorem op_bind (o : F.Op) (next : F.Answer o → Prog F α) (f : α → Prog F β) :
    (Prog.op o next).bind f = .op o fun answer => (next answer).bind f := rfl

theorem bind_pure' (p : Prog F α) : p.bind .pure = p := by
  induction p with
  | pure a => rfl
  | op o next ih => simp only [op_bind, ih]

theorem bind_assoc' (p : Prog F α) (f : α → Prog F β) (g : β → Prog F γ) :
    (p.bind f).bind g = p.bind fun a => (f a).bind g := by
  induction p with
  | pure a => rfl
  | op o next ih => simp only [op_bind, ih]

instance : LawfulMonad (Prog F) :=
  LawfulMonad.mk' _ (fun p => bind_pure' p) (fun _ _ => rfl) (fun p f g => bind_assoc' p f g)

/-- Perform one operation and return its answer. -/
def perform (o : F.Op) : Prog F (F.Answer o) := .op o .pure

/-- Every operation the program can reach satisfies `ok` and every result it can
end with satisfies `post`, whatever the answers are, as long as they are
admissible. -/
def Each (admissible : (o : F.Op) → F.Answer o → Prop) (ok : F.Op → Prop) (post : α → Prop) :
    Prog F α → Prop
  | .pure a => post a
  | .op o next => ok o ∧ ∀ answer, admissible o answer → Each admissible ok post (next answer)

variable {admissible : (o : F.Op) → F.Answer o → Prop} {ok : F.Op → Prop}

@[simp] theorem each_pure (post : α → Prop) (a : α) :
    Each admissible ok post (Prog.pure a : Prog F α) ↔ post a := Iff.rfl

@[simp] theorem each_op (post : α → Prop) (o : F.Op) (next : F.Answer o → Prog F α) :
    Each admissible ok post (Prog.op o next) ↔
      ok o ∧ ∀ answer, admissible o answer → Each admissible ok post (next answer) := Iff.rfl

theorem each_mono {post post' : α → Prop} (h : ∀ a, post a → post' a) (p : Prog F α)
    (hp : Each admissible ok post p) : Each admissible ok post' p := by
  induction p with
  | pure a => exact h a hp
  | op o next ih => exact ⟨hp.1, fun answer adm => ih answer (hp.2 answer adm)⟩

theorem each_bind (post : β → Prop) (p : Prog F α) (f : α → Prog F β) :
    Each admissible ok post (p.bind f) ↔
      Each admissible ok (fun a => Each admissible ok post (f a)) p := by
  induction p with
  | pure a => rfl
  | op o next ih => simp only [op_bind, each_op, ih]

/-- The program can come to perform the operation. -/
def Mentions (o : F.Op) : Prog F α → Prop
  | .pure _ => False
  | .op first next => o = first ∨ ∃ answer, Mentions o (next answer)

theorem each_of_mentions {within : F.Op → Prop} (p : Prog F α)
    (h : ∀ o, p.Mentions o → within o) :
    p.Each (fun _ _ => True) within fun _ => True := by
  induction p with
  | pure a => trivial
  | op o next ih =>
      exact ⟨h o (.inl rfl), fun answer _ => ih answer fun o' later => h o' (.inr ⟨answer, later⟩)⟩

theorem ok_of_mentions {post : α → Prop} {o : F.Op} (p : Prog F α)
    (h : p.Each (fun _ _ => True) ok post) (mentioned : p.Mentions o) : ok o := by
  induction p with
  | pure a => exact mentioned.elim
  | op first next ih =>
      cases mentioned with
      | inl same => exact same ▸ h.1
      | inr later =>
          obtain ⟨answer, later⟩ := later
          exact ih answer (h.2 answer trivial) later

end Prog
end Cooperative
