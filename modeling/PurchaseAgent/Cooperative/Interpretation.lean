import PurchaseAgent.Cooperative.Fallible

/-!
A program over abstract operations, carried out by programs that may fail. A run
in which nothing fails is described by the answers to the abstract operations.
-/

namespace Cooperative.Prog
variable {F G : Signature} {ε α β : Type}

/-- Every operation is carried out by a program of its own. -/
def interpret (handle : (o : F.Op) → Fallible G ε (F.Answer o)) : Prog F α → Fallible G ε α
  | .pure a => Pure.pure a
  | .op o next => handle o >>= fun answer => interpret handle (next answer)

variable (handle : (o : F.Op) → Fallible G ε (F.Answer o))

@[simp] theorem interpret_pure (a : α) :
    interpret handle (Prog.pure a : Prog F α) = (Pure.pure a : Fallible G ε α) := rfl

@[simp] theorem interpret_op (o : F.Op) (next : F.Answer o → Prog F α) :
    interpret handle (Prog.op o next) =
      handle o >>= fun answer => interpret handle (next answer) := rfl

section
variable (oracle : Nat → (o : F.Op) → F.Answer o)

/-- What is made of the result leaves the run as it is. -/
theorem answered_map (f : α → β) (p : Prog F α) (n : Nat) :
    (p.bind fun a => .pure (f a)).answered oracle n = f (p.answered oracle n) := by
  induction p generalizing n with
  | pure a => rfl
  | op o next ih => exact ih (oracle n o) (n + 1)

theorem performed_map (f : α → β) (p : Prog F α) (n : Nat) :
    (p.bind fun a => .pure (f a)).performed oracle n = p.performed oracle n := by
  induction p generalizing n with
  | pure a => rfl
  | op o next ih => exact congrArg (List.cons _) (ih (oracle n o) (n + 1))

end

end Cooperative.Prog
