import EvDashboard.Async.Program

/-!
# Sequential execution against a service

A service says how a call may end in a given world: with which answer or error,
and in which next world. It is a relation, so a call may fail or succeed at any
attempt. An execution runs one program to its end; the first failed call ends it.

`Ensures` is the weakest precondition of a program, computed along its tree. It
follows sequencing, and a loop over a list is handled by an invariant indexed by
the items still to come. Soundness connects it to the executions, and where calls may
fail without a trace, an execution also ends in every world that a run passes through.
-/

namespace Async

/-- The possible outcomes of a call: its answer or error, and the next world. -/
abbrev Service (Op : Type) (Answer : Op → Type) (Err World : Type) :=
  World → (op : Op) → Except Err (Answer op) → World → Prop

namespace Program

variable {Op : Type} {Answer : Op → Type} {Err World : Type} {α β ι : Type}

/-- A run from the first call to the end of the program. The two settled cases
make no call; an answered call resumes; a refused call ends the run. -/
inductive Executes (service : Service Op Answer Err World) :
    Program Op Answer Err α → World → Except Err α → World → Prop where
  | done (value : α) (world : World) : Executes service (.done value) world (.ok value) world
  | rejected (error : Err) (world : World) :
      Executes service (.rejected error) world (.error error) world
  | answered (op : Op) (resume : Answer op → Program Op Answer Err α) (answer : Answer op)
      (world next final : World) (outcome : Except Err α)
      (served : service world op (.ok answer) next)
      (rest : Executes service (resume answer) next outcome final) :
      Executes service (.await op resume) world outcome final
  | refused (op : Op) (resume : Answer op → Program Op Answer Err α) (error : Err)
      (world next : World) (served : service world op (.error error) next) :
      Executes service (.await op resume) world (.error error) next

/-- The weakest precondition: every way the service may serve the calls ends in
an outcome and a world accepted by the postcondition. -/
def Ensures (service : Service Op Answer Err World) :
    Program Op Answer Err α → (Except Err α → World → Prop) → World → Prop
  | done value, post, world => post (.ok value) world
  | rejected error, post, world => post (.error error) world
  | await op resume, post, world =>
      (∀ answer next, service world op (.ok answer) next →
        Ensures service (resume answer) post next) ∧
      ∀ error next, service world op (.error error) next → post (.error error) next

/-- Soundness: an execution ends where the weakest precondition promises. -/
theorem Ensures.sound {service : Service Op Answer Err World} {program : Program Op Answer Err α}
    {post : Except Err α → World → Prop} {world final : World} {outcome : Except Err α}
    (ensured : Ensures service program post world)
    (executed : Executes service program world outcome final) : post outcome final := by
  induction executed with
  | done value world => exact ensured
  | rejected error world => exact ensured
  | answered op resume answer world next final outcome served rest inductionHypothesis =>
    exact inductionHypothesis (ensured.1 answer next served)
  | refused op resume error world next served => exact ensured.2 error next served

/-- A weaker postcondition is ensured as well. -/
theorem Ensures.weaken {service : Service Op Answer Err World} {program : Program Op Answer Err α}
    {post weaker : Except Err α → World → Prop} {world : World}
    (ensured : Ensures service program post world)
    (implied : ∀ outcome final, post outcome final → weaker outcome final) :
    Ensures service program weaker world := by
  induction program generalizing world with
  | done value => exact implied _ _ ensured
  | rejected error => exact implied _ _ ensured
  | await op resume inductionHypothesis =>
    exact ⟨fun answer next served => inductionHypothesis answer (ensured.1 answer next served),
      fun error next served => implied _ _ (ensured.2 error next served)⟩

/-- Sequencing: the first program must end where the second may start, and its
own rejection is the rejection of the whole. -/
theorem Ensures.bind {service : Service Op Answer Err World} {program : Program Op Answer Err α}
    {next : α → Program Op Answer Err β} {post : Except Err β → World → Prop} {world : World}
    (ensured : Ensures service program (fun outcome middle => match outcome with
      | .ok value => Ensures service (next value) post middle
      | .error error => post (.error error) middle) world) :
    Ensures service (program >>= next) post world := by
  induction program generalizing world with
  | done value => exact ensured
  | rejected error => exact ensured
  | await op resume inductionHypothesis =>
    exact ⟨fun answer following served =>
        inductionHypothesis answer (ensured.1 answer following served),
      ensured.2⟩

/-- The worlds a run passes through: the one it starts in and the one behind each call. -/
inductive Visits (service : Service Op Answer Err World) :
    Program Op Answer Err α → World → World → Prop where
  | here (program : Program Op Answer Err α) (world : World) : Visits service program world world
  | answered (op : Op) (resume : Answer op → Program Op Answer Err α) (answer : Answer op)
      (world next visited : World) (served : service world op (.ok answer) next)
      (rest : Visits service (resume answer) next visited) :
      Visits service (.await op resume) world visited
  | refused (op : Op) (resume : Answer op → Program Op Answer Err α) (error : Err)
      (world next : World) (served : service world op (.error error) next) :
      Visits service (.await op resume) world next

/-- When any call may fail and change nothing, a run may end wherever it passes. -/
theorem Visits.executes {service : Service Op Answer Err World}
    (refuses : ∀ world op, ∃ error, service world op (.error error) world)
    {program : Program Op Answer Err α} {world visited : World}
    (visits : Visits service program world visited) :
    ∃ outcome, Executes service program world outcome visited := by
  induction visits with
  | here program world =>
    cases program with
    | done value => exact ⟨_, .done value world⟩
    | rejected error => exact ⟨_, .rejected error world⟩
    | await op resume =>
      obtain ⟨error, served⟩ := refuses world op
      exact ⟨_, .refused op resume error world world served⟩
  | answered op resume answer world next visited served rest inductionHypothesis =>
    obtain ⟨outcome, executed⟩ := inductionHypothesis
    exact ⟨outcome, .answered op resume answer world next visited outcome served executed⟩
  | refused op resume error world next served =>
    exact ⟨_, .refused op resume error world next served⟩

/-- A service that leaves no call open lets every program run to an end. -/
theorem Executes.total {service : Service Op Answer Err World}
    (responds : ∀ world op, ∃ outcome next, service world op outcome next)
    (program : Program Op Answer Err α) (world : World) :
    ∃ outcome final, Executes service program world outcome final := by
  induction program generalizing world with
  | done value => exact ⟨_, _, .done value world⟩
  | rejected error => exact ⟨_, _, .rejected error world⟩
  | await op resume inductionHypothesis =>
    obtain ⟨outcome, next, served⟩ := responds world op
    cases outcome with
    | error error => exact ⟨_, _, .refused op resume error world next served⟩
    | ok answer =>
      obtain ⟨outcome, final, rest⟩ := inductionHypothesis answer next
      exact ⟨outcome, final, .answered op resume answer world next final outcome served rest⟩

/-- A loop over a list keeps an invariant indexed by the remaining items. Each
iteration either hands the invariant on to the rest or rejects the loop. -/
theorem Ensures.forM {service : Service Op Answer Err World} (items : List ι)
    (body : ι → Program Op Answer Err PUnit) (invariant : List ι → World → Prop)
    {post : Except Err PUnit → World → Prop} {world : World}
    (start : invariant items world)
    (iterate : ∀ item rest before, invariant (item :: rest) before →
      Ensures service (body item) (fun outcome after => match outcome with
        | .ok _ => invariant rest after
        | .error error => post (.error error) after) before)
    (finish : ∀ after, invariant [] after → post (.ok ⟨⟩) after) :
    Ensures service (items.forM body) post world := by
  induction items generalizing world with
  | nil => exact finish world start
  | cons item rest inductionHypothesis =>
    apply Ensures.bind
    apply (iterate item rest world start).weaken
    intro outcome after ended
    cases outcome with
    | ok value => exact inductionHypothesis ended
    | error error => exact ended

end Program

end Async
