/-!
# Programs with calls

A program is a finite tree: it ends with a value, or it makes a call and goes on with the answer.
What a call does is up to whoever runs the program. `run` threads a state through a handler, and
`interpret` replaces each call by a program over other calls.
-/
namespace AppServiceOperator

/-- A program over calls `C`, each of which has its own type of answers. -/
inductive Program {C : Type} (Answer : C → Type) (α : Type) where
  | done (a : α)
  | call (c : C) (next : Answer c → Program Answer α)

namespace Program

variable {C D : Type} {Answer : C → Type} {Reply : D → Type} {α β σ : Type}

def bind (f : α → Program Answer β) : Program Answer α → Program Answer β
  | .done a => f a
  | .call c next => .call c fun answer => (next answer).bind f

instance : Monad (Program Answer) where
  pure := .done
  bind p f := p.bind f

/-- The program that makes one call and ends with its answer. -/
def perform (c : C) : Program Answer (Answer c) := .call c .done

/-- The value of a program and the last state, where the handler answers the calls. -/
def run (handler : (c : C) → σ → Answer c × σ) : Program Answer α → σ → α × σ
  | .done a, s => (a, s)
  | .call c next, s => (next (handler c s).1).run handler (handler c s).2

/-- The program with every call carried out by a program over other calls. -/
def interpret (handler : (c : C) → Program Reply (Answer c)) : Program Answer α → Program Reply α
  | .done a => .done a
  | .call c next => (handler c).bind fun answer => (next answer).interpret handler

/-- As `interpret`, with a state of its own for the handler. -/
def interpretWith (handler : (c : C) → σ → Program Reply (Answer c × σ)) :
    Program Answer α → σ → Program Reply (α × σ)
  | .done a, s => .done (a, s)
  | .call c next, s => (handler c s).bind fun r => (next r.1).interpretWith handler r.2

@[simp] theorem pure_eq (a : α) : (pure a : Program Answer α) = .done a := rfl

@[simp] theorem bind_done (a : α) (f : α → Program Answer β) : (done a).bind f = f a := rfl

@[simp] theorem bind_call (c : C) (next : Answer c → Program Answer α) (f : α → Program Answer β) :
    (call c next).bind f = call c fun answer => (next answer).bind f := rfl

@[simp] theorem bind_eq (p : Program Answer α) (f : α → Program Answer β) : (p >>= f) = p.bind f := rfl

theorem bind_pure (p : Program Answer α) : p.bind .done = p := by
  induction p with
  | done => rfl
  | call c next ih => simp only [bind_call, ih]

theorem bind_assoc {γ : Type} (p : Program Answer α) (f : α → Program Answer β) (g : β → Program Answer γ) :
    (p.bind f).bind g = p.bind fun a => (f a).bind g := by
  induction p with
  | done => rfl
  | call c next ih => simp only [bind_call, ih]

instance : LawfulMonad (Program Answer) :=
  LawfulMonad.mk' _ (fun p => bind_pure p) (fun _ _ => rfl) bind_assoc

end Program

end AppServiceOperator
