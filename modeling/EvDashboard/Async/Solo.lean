import EvDashboard.Async.Program

/-!
# One program against fixed answers

When each call has one predetermined outcome, a program determines the calls it
makes and its final result. Both are computed structurally from the tree, and
both follow the sequencing of programs.

A second reading leaves the answers open: `Obeys` says that a program makes only
permitted calls, whatever admissible answers it receives, and that a returned
value has a stated property. It composes along sequencing and needs no world.

`Owes` is the other direction: whatever admissible answers it receives, a program
makes one of some calls before it returns. One part of a sequence that owes it is
enough, and one iteration of a loop.
-/

namespace Async.Program

variable {Op : Type} {Answer : Op → Type} {Err : Type} {α β : Type}

/-- The calls made against an oracle, in order. The call that fails is the last. -/
def trace (oracle : (op : Op) → Except Err (Answer op)) : Program Op Answer Err α → List Op
  | done _ => []
  | rejected _ => []
  | await op resume => op :: match oracle op with
    | .ok answer => trace oracle (resume answer)
    | .error _ => []

/-- How a program settles against an oracle. A failed call rejects it. -/
def result (oracle : (op : Op) → Except Err (Answer op)) : Program Op Answer Err α → Except Err α
  | done value => .ok value
  | rejected error => .error error
  | await op resume => match oracle op with
    | .ok answer => result oracle (resume answer)
    | .error error => .error error

/-- A settled program has its result against any oracle. -/
theorem settled_result (oracle : (op : Op) → Except Err (Answer op))
    {program : Program Op Answer Err α} (ended : program.settled ≠ none) :
    program.settled = some (program.result oracle) := by
  cases program with
  | done value => rfl
  | rejected error => rfl
  | await op resume => exact absurd rfl ended

/-- Every call made under admissible answers is allowed, and a returned value
satisfies the postcondition. A rejection owes nothing further. -/
def Obeys (admits : (op : Op) → Answer op → Prop) (allowed : Op → Prop) :
    Program Op Answer Err α → (α → Prop) → Prop
  | done value, post => post value
  | rejected _, _ => True
  | await op resume, post => allowed op ∧
      ∀ answer, admits op answer → Obeys admits allowed (resume answer) post

/-- A weaker postcondition holds as well. -/
theorem Obeys.weaken {admits : (op : Op) → Answer op → Prop} {allowed : Op → Prop}
    {program : Program Op Answer Err α} {post weaker : α → Prop}
    (obeyed : Obeys admits allowed program post) (implied : ∀ value, post value → weaker value) :
    Obeys admits allowed program weaker := by
  induction program with
  | done value => exact implied value obeyed
  | rejected error => trivial
  | await op resume inductionHypothesis =>
    exact ⟨obeyed.1, fun answer admitted => inductionHypothesis answer (obeyed.2 answer admitted)⟩

/-- A sequence obeys when its first part establishes what the rest relies on. -/
theorem Obeys.bind {admits : (op : Op) → Answer op → Prop} {allowed : Op → Prop}
    {program : Program Op Answer Err α} {next : α → Program Op Answer Err β}
    {middle : α → Prop} {post : β → Prop}
    (first : Obeys admits allowed program middle)
    (second : ∀ value, middle value → Obeys admits allowed (next value) post) :
    Obeys admits allowed (program >>= next) post := by
  induction program with
  | done value => exact second value first
  | rejected error => trivial
  | await op resume inductionHypothesis =>
    exact ⟨first.1, fun answer admitted => inductionHypothesis answer (first.2 answer admitted)⟩

/-- Synchronous code makes no call; only the value it returns matters. -/
theorem Obeys.ofExcept {admits : (op : Op) → Answer op → Prop} {allowed : Op → Prop}
    {outcome : Except Err α} {post : α → Prop}
    (returned : ∀ value, outcome = .ok value → post value) :
    Obeys admits allowed (ofExcept outcome : Program Op Answer Err α) post := by
  cases outcome with
  | ok value => exact returned value rfl
  | error error => trivial

/-- An obeying program makes only permitted calls against an oracle with admissible
answers. -/
theorem Obeys.trace {admits : (op : Op) → Answer op → Prop} {allowed : Op → Prop}
    {oracle : (op : Op) → Except Err (Answer op)} {program : Program Op Answer Err α}
    {post : α → Prop} (obeyed : Obeys admits allowed program post)
    (admitted : ∀ op answer, oracle op = .ok answer → admits op answer) :
    ∀ op ∈ program.trace oracle, allowed op := by
  induction program with
  | done value => exact fun op member => by cases member
  | rejected error => exact fun op member => by cases member
  | await first resume inductionHypothesis =>
    intro op member
    rw [Program.trace] at member
    rcases List.mem_cons.mp member with rfl | later
    · exact obeyed.1
    · cases answered : oracle first with
      | error error =>
        rw [answered] at later
        cases later
      | ok answer =>
        rw [answered] at later
        exact inductionHypothesis answer (obeyed.2 answer (admitted first answer answered)) op later

/-- Under admissible answers the program makes one of the wanted calls before it returns.
A rejection owes nothing further. -/
def Owes (admits : (op : Op) → Answer op → Prop) (wanted : Op → Prop) :
    Program Op Answer Err α → Prop
  | done _ => False
  | rejected _ => True
  | await op resume => wanted op ∨ ∀ answer, admits op answer → Owes admits wanted (resume answer)

/-- What the first part owes is owed by the sequence. -/
theorem Owes.bind_left {admits : (op : Op) → Answer op → Prop} {wanted : Op → Prop}
    {program : Program Op Answer Err α} {next : α → Program Op Answer Err β}
    (owes : program.Owes admits wanted) : (program >>= next).Owes admits wanted := by
  induction program with
  | done value => exact owes.elim
  | rejected error => trivial
  | await op resume inductionHypothesis =>
    rcases owes with now | later
    · exact Or.inl now
    · exact Or.inr fun answer admitted => inductionHypothesis answer (later answer admitted)

/-- What the second part owes is owed by the sequence, whatever the first returns. -/
theorem Owes.bind_right {admits : (op : Op) → Answer op → Prop} {wanted : Op → Prop}
    (program : Program Op Answer Err α) {next : α → Program Op Answer Err β}
    (owes : ∀ value, (next value).Owes admits wanted) : (program >>= next).Owes admits wanted := by
  induction program with
  | done value => exact owes value
  | rejected error => trivial
  | await op resume inductionHypothesis =>
    exact Or.inr fun answer _ => inductionHypothesis answer

/-- What the iteration for one item owes is owed by the loop. -/
theorem Owes.forM {ι : Type} {admits : (op : Op) → Answer op → Prop} {wanted : Op → Prop}
    {body : ι → Program Op Answer Err PUnit} {items : List ι} {item : ι} (member : item ∈ items)
    (owes : (body item).Owes admits wanted) : (items.forM body).Owes admits wanted := by
  induction items with
  | nil => cases member
  | cons first rest inductionHypothesis =>
    rcases List.mem_cons.mp member with rfl | later
    · exact Owes.bind_left owes
    · exact Owes.bind_right (body first) (fun _ => inductionHypothesis later)

end Async.Program
