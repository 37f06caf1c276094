import Std

/-!
# Runs of a guarded transition function

A machine is a partial step function: an event that is not enabled in a state
has no successor. A run performs a list of events, all of them enabled. What
one step preserves, a run preserves; if preservation needs a condition on the
state before a step, the run must meet that condition at every step.
-/

namespace Transition

variable {State Event : Type}

/-- Perform events in order; none if one of them is not enabled. -/
def run (step : State → Event → Option State) : State → List Event → Option State
  | state, [] => some state
  | state, event :: events => (step state event).bind (fun next => run step next events)

/-- Every event satisfies the condition in the state it is performed in. -/
def Meets (step : State → Event → Option State) (condition : State → Event → Prop) :
    State → List Event → Prop
  | _, [] => True
  | state, event :: events => condition state event ∧
      ∀ next, step state event = some next → Meets step condition next events

/-- A run of at least one event is its first step and a run from there. -/
theorem run_cons {step : State → Event → Option State} {state final : State} {event : Event}
    {events : List Event} (ran : run step state (event :: events) = some final) :
    ∃ next, step state event = some next ∧ run step next events = some final :=
  Option.bind_eq_some_iff.mp ran

/-- A step and a run from where it ends are a run. -/
theorem run_step {step : State → Event → Option State} {state next final : State} {event : Event}
    {events : List Event} (stepped : step state event = some next)
    (rest : run step next events = some final) : run step state (event :: events) = some final :=
  Option.bind_eq_some_iff.mpr ⟨next, stepped, rest⟩

/-- A run and a step from where it ends are a run. -/
theorem run_snoc {step : State → Event → Option State} {state middle final : State}
    {events : List Event} {event : Event} (ran : run step state events = some middle)
    (last : step middle event = some final) : run step state (events ++ [event]) = some final := by
  induction events generalizing state with
  | nil =>
    obtain rfl := Option.some.inj ran
    exact run_step last rfl
  | cons first events inductionHypothesis =>
    obtain ⟨next, stepped, rest⟩ := run_cons ran
    exact run_step stepped (inductionHypothesis rest)

/-- Events that satisfy the condition in every state make any run meet it. -/
theorem Meets.always {step : State → Event → Option State} {condition : State → Event → Prop}
    {events : List Event} (always : ∀ event ∈ events, ∀ state, condition state event)
    (start : State) : Meets step condition start events := by
  induction events generalizing start with
  | nil => trivial
  | cons event events inductionHypothesis =>
    exact ⟨always event List.mem_cons_self start, fun next _ =>
      inductionHypothesis (fun other member => always other (List.mem_cons_of_mem _ member)) next⟩

/-- A step that preserves the invariant under a condition gives a run that
preserves it, if the run meets the condition throughout. -/
theorem Meets.invariant {step : State → Event → Option State} {condition : State → Event → Prop}
    (invariant : State → Prop)
    (preserved : ∀ state event next, invariant state → condition state event →
      step state event = some next → invariant next)
    {start final : State} {events : List Event} (holds : invariant start)
    (meets : Meets step condition start events) (ran : run step start events = some final) :
    invariant final := by
  induction events generalizing start with
  | nil => exact Option.some.inj ran ▸ holds
  | cons event events inductionHypothesis =>
    obtain ⟨next, stepped, rest⟩ := run_cons ran
    exact inductionHypothesis (preserved start event next holds meets.1 stepped)
      (meets.2 next stepped) rest

/-- A step that always preserves the invariant gives a run that does. -/
theorem run_invariant {step : State → Event → Option State} (invariant : State → Prop)
    (preserved : ∀ state event next, invariant state → step state event = some next →
      invariant next)
    {start final : State} {events : List Event} (holds : invariant start)
    (ran : run step start events = some final) : invariant final := by
  induction events generalizing start with
  | nil => exact Option.some.inj ran ▸ holds
  | cons event events inductionHypothesis =>
    obtain ⟨next, stepped, rest⟩ := run_cons ran
    exact inductionHypothesis (preserved start event next holds stepped) rest

/-- A condition that decides, in states satisfying an invariant, whether a step keeps
a property: a run meets it exactly when the property holds after every part of the
run. -/
theorem meets_iff {step : State → Event → Option State} {condition : State → Event → Prop}
    {invariant property : State → Prop}
    (enabled : ∀ state event, invariant state → property state →
      ∃ next, step state event = some next)
    (kept : ∀ state event next, invariant state → step state event = some next → invariant next)
    (exact : ∀ state event next, invariant state → property state →
      step state event = some next → (property next ↔ condition state event))
    {start : State} (holds : invariant start) (initially : property start) (events : List Event) :
    Meets step condition start events ↔
      ∀ taken final, taken <+: events → run step start taken = some final → property final := by
  induction events generalizing start with
  | nil =>
    constructor
    · intro _ taken final part ran
      rw [List.prefix_nil.mp part] at ran
      exact Option.some.inj ran ▸ initially
    · intro _
      trivial
  | cons event events inductionHypothesis =>
    constructor
    · rintro ⟨met, later⟩ taken final part ran
      cases taken with
      | nil => exact Option.some.inj ran ▸ initially
      | cons first rest =>
        obtain ⟨rfl, shorter⟩ := List.cons_prefix_cons.mp part
        obtain ⟨next, stepped, ran⟩ := run_cons ran
        have good : property next := (exact start first next holds initially stepped).mpr met
        have stillHolds : invariant next := kept start first next holds stepped
        exact (inductionHypothesis stillHolds good).mp (later next stepped) rest final shorter ran
    · intro everywhere
      have good (next : State) (stepped : step start event = some next) : property next := by
        apply everywhere [event] next (List.cons_prefix_cons.mpr ⟨rfl, List.nil_prefix⟩)
        simp only [run, stepped, Option.bind_some]
      constructor
      · obtain ⟨next, stepped⟩ := enabled start event holds initially
        exact (exact start event next holds initially stepped).mp (good next stepped)
      · intro next stepped
        apply (inductionHypothesis (kept start event next holds stepped) (good next stepped)).mpr
        intro taken final part ran
        apply everywhere (event :: taken) final (List.cons_prefix_cons.mpr ⟨rfl, part⟩)
        simp only [run, stepped, Option.bind_some, ran]

/-- A component of a list of components stands between two parts of the list.
Erasing it leaves the parts, changing it changes nothing else. -/
theorem located_split {Component : Type} {components : List Component} {position : Nat}
    {component : Component} (located : components[position]? = some component) :
    ∃ before after, components = before ++ component :: after ∧
      components.eraseIdx position = before ++ after ∧
      ∀ change, components.modify position change = before ++ change component :: after := by
  induction components generalizing position with
  | nil => cases located
  | cons first rest inductionHypothesis =>
    cases position with
    | zero =>
      obtain rfl := Option.some.inj located
      exact ⟨[], rest, rfl, rfl, fun _ => rfl⟩
    | succ position =>
      obtain ⟨before, after, whole, erased, changed⟩ := inductionHypothesis located
      refine ⟨first :: before, after, ?_, ?_, fun change => ?_⟩
      · rw [whole, List.cons_append]
      · rw [List.eraseIdx_cons_succ, erased, List.cons_append]
      · rw [List.modify_succ_cons, changed, List.cons_append]

end Transition
