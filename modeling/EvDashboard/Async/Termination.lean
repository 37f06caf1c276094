import EvDashboard.Async.Pool
import Mathlib.Logic.Hydra

/-!
# Programs come to an end

A program is finite along every sequence of answers, so it can be continued only finitely
often. The same is true of several programs that are continued one at a time, in any order:
each continuation replaces one program of the collection by a smaller one.
-/

namespace Async

open Relation

variable {Op : Type} {Answer : Op → Type} {Err α : Type}

/-- What a program continues with when its pending call is answered or refused. -/
inductive Program.Continues :
    Program Op Answer Err α → Program Op Answer Err α → Prop where
  | answered (op : Op) (resume : Answer op → Program Op Answer Err α) (answer : Answer op) :
      Continues (resume answer) (.await op resume)
  | refused (op : Op) (resume : Answer op → Program Op Answer Err α) (error : Err) :
      Continues (.rejected error) (.await op resume)

/-- No program can be continued forever. -/
theorem Program.continues_wellFounded :
    WellFounded (Program.Continues : Program Op Answer Err α → Program Op Answer Err α → Prop) := by
  refine ⟨fun program => ?_⟩
  induction program with
  | done value => exact ⟨_, nofun⟩
  | rejected error => exact ⟨_, nofun⟩
  | await op resume inductionHypothesis =>
    refine ⟨_, fun next continues => ?_⟩
    cases continues with
    | answered _ _ answer => exact inductionHypothesis answer
    | refused error => exact ⟨_, nofun⟩

/-- Replacing one component of a list by a smaller one makes the list smaller. -/
theorem cutExpand_replaced {Component : Type} {smaller : Component → Component → Prop}
    (before after : List Component) {component next : Component}
    (replaced : smaller next component) :
    CutExpand smaller ((before ++ next :: after : List Component) : Multiset Component)
      ((before ++ component :: after : List Component) : Multiset Component) := by
  have moved (middle : Component) :
      ((before ++ middle :: after : List Component) : Multiset Component) =
        {middle} + ((before ++ after : List Component) : Multiset Component) :=
    Multiset.coe_eq_coe.mpr List.perm_middle
  rw [moved, moved]
  exact cutExpand_single_add replaced _

/-- The programs of a pool. -/
def Pool.programs {Party : Type} (tasks : Pool.Tasks Op Answer Err Party α) :
    Multiset (Program Op Answer Err α) :=
  (tasks.map Prod.snd : List (Program Op Answer Err α))

/-- A step of a pool makes one of its programs smaller. -/
theorem Pool.Step.continues {Party World : Type} {service : Party → Service Op Answer Err World}
    {tasks next : Pool.Tasks Op Answer Err Party α} {world after : World}
    (step : Pool.Step service (fun _ _ => False) tasks world next after) :
    CutExpand Program.Continues (Pool.programs next) (Pool.programs tasks) := by
  unfold Pool.programs
  cases step with
  | answered before later party op resume answer world next served =>
    rw [List.map_append, List.map_append]
    exact cutExpand_replaced _ _ (.answered op resume answer)
  | refused before later party op resume error world next served =>
    rw [List.map_append, List.map_append]
    exact cutExpand_replaced _ _ (.refused op resume error)
  | moved tasks world next move => exact move.elim

/-- A pool with a program that has not settled can take a step, if no call is left open. -/
theorem Pool.unsettled_step {Party World : Type} {service : Party → Service Op Answer Err World}
    (responds : ∀ party world op, ∃ outcome next, service party world op outcome next)
    {tasks : Pool.Tasks Op Answer Err Party α} {task : Party × Program Op Answer Err α}
    (member : task ∈ tasks) (unsettled : task.2.settled = none) (world : World) :
    ∃ next after, Pool.Step service (fun _ _ => False) tasks world next after := by
  obtain ⟨before, later, rfl⟩ := List.append_of_mem member
  obtain ⟨party, program⟩ := task
  cases program with
  | done value => cases unsettled
  | rejected error => cases unsettled
  | await op resume =>
    obtain ⟨outcome, after, served⟩ := responds party world op
    cases outcome with
    | ok answer => exact ⟨_, _, .answered _ _ _ _ _ answer _ _ served⟩
    | error error => exact ⟨_, _, .refused _ _ _ _ _ error _ _ served⟩

/-- A pool that takes a step has a program that has not settled. -/
theorem Pool.Step.unsettled {Party World : Type} {service : Party → Service Op Answer Err World}
    {tasks next : Pool.Tasks Op Answer Err Party α} {world after : World}
    (step : Pool.Step service (fun _ _ => False) tasks world next after) :
    ∃ task ∈ tasks, task.2.settled = none := by
  cases step with
  | answered before later party op resume answer world next served =>
    exact ⟨_, List.mem_append_right _ List.mem_cons_self, rfl⟩
  | refused before later party op resume error world next served =>
    exact ⟨_, List.mem_append_right _ List.mem_cons_self, rfl⟩
  | moved tasks world next move => exact move.elim

/-- Where steps cannot be taken forever, they can be taken until none is left. -/
theorem exists_rest {State : Type} {step : State → State → Prop}
    (ends : WellFounded (fun next state => step state next)) (state : State) :
    ∃ rest, ReflTransGen step state rest ∧ ∀ next, ¬ step rest next := by
  obtain ⟨rest, reached, least⟩ := ends.has_min {last | ReflTransGen step state last}
    ⟨state, .refl⟩
  exact ⟨rest, reached, fun next stepped => least next (reached.tail stepped) stepped⟩

end Async
