import Std

/-!
# Programs that await external calls

An asynchronous function is a tree: it finishes with a value, rejects with an
error, or awaits one external call and resumes with its answer. Nothing runs
between two awaits, so the await nodes are exactly the points at which other
work can interleave. A call that fails rejects the whole program: these trees
have no catch node, and a program with one cannot be written here.

The tree is finite along every sequence of answers. It fixes what a program
asks for and in which order; what the calls do and how they answer is supplied
by an environment elsewhere.
-/

namespace Async

/-- A program making calls `Op`, answered in `Answer`, rejecting with `Err`. -/
inductive Program (Op : Type) (Answer : Op → Type) (Err : Type) (α : Type) : Type where
  | done : α → Program Op Answer Err α
  | rejected : Err → Program Op Answer Err α
  | await : (op : Op) → (Answer op → Program Op Answer Err α) → Program Op Answer Err α

namespace Program

variable {Op : Type} {Answer : Op → Type} {Err : Type} {α β : Type}

/-- Continue after a completed program; a rejection skips the continuation. -/
def bind : Program Op Answer Err α → (α → Program Op Answer Err β) → Program Op Answer Err β
  | done value, next => next value
  | rejected error, _ => rejected error
  | await op resume, next => await op (fun answer => bind (resume answer) next)

instance : Monad (Program Op Answer Err) where
  pure := done
  bind := bind

/-- Await a single call and return its answer. -/
def call (op : Op) : Program Op Answer Err (Answer op) := await op done

/-- Lift synchronous code that may throw: it is no await point. -/
def ofExcept : Except Err α → Program Op Answer Err α
  | .ok value => done value
  | .error error => rejected error

@[simp] theorem pure_eq (value : α) : (pure value : Program Op Answer Err α) = done value := rfl

@[simp] theorem done_bind (value : α) (next : α → Program Op Answer Err β) :
    (done value >>= next) = next value := rfl

@[simp] theorem rejected_bind (error : Err) (next : α → Program Op Answer Err β) :
    (rejected error >>= next) = rejected error := rfl

@[simp] theorem await_bind (op : Op) (resume : Answer op → Program Op Answer Err α)
    (next : α → Program Op Answer Err β) :
    (await op resume >>= next) = await op (fun answer => resume answer >>= next) := rfl

@[simp] theorem call_bind (op : Op) (next : Answer op → Program Op Answer Err β) :
    (call op >>= next) = await op next := rfl

@[simp] theorem ofExcept_ok (value : α) :
    (ofExcept (.ok value) : Program Op Answer Err α) = done value := rfl

@[simp] theorem ofExcept_error (error : Err) :
    (ofExcept (.error error) : Program Op Answer Err α) = rejected error := rfl

/-- Finishing a program changes nothing, and the answers of the first program
select the same continuation whether the second is bound before or after. -/
instance : LawfulMonad (Program Op Answer Err) :=
  LawfulMonad.mk' _
    (by
      intro α program
      induction program with
      | done value => rfl
      | rejected error => rfl
      | await op resume inductionHypothesis =>
        exact congrArg (await op) (funext inductionHypothesis))
    (fun _ _ => rfl)
    (by
      intro α β γ program first second
      induction program with
      | done value => rfl
      | rejected error => rfl
      | await op resume inductionHypothesis =>
        exact congrArg (await op) (funext inductionHypothesis))

/-- The call a program is waiting for, or none once it has settled. -/
def pending : Program Op Answer Err α → Option Op
  | await op _ => some op
  | _ => none

/-- A settled program has finished or rejected; it makes no further call. -/
def settled : Program Op Answer Err α → Option (Except Err α)
  | done value => some (.ok value)
  | rejected error => some (.error error)
  | await _ _ => none

end Program

end Async
