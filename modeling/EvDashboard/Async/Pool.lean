import EvDashboard.Async.Solo
import EvDashboard.Async.Execution

/-!
# Interleaved programs

A pool holds programs of several parties over one shared world. A step performs
the pending call of any unsettled program, or lets the world move by itself.
Steps interleave in any order, and nothing is assumed about fairness.

Three laws cover what the pool's users need. Guarded calls keep an invariant of
the world. Under one fixed oracle for each party the calls made and the calls
still to make are together a permutation of the solo traces, so a settled pool
made exactly its programs' own calls. And a view of the world that only some of
the parties touch is the same when the others never existed.
-/

namespace Async.Pool

variable {Op : Type} {Answer : Op → Type} {Err Party World View α : Type}

/-- Programs in progress, each with the party it runs for. -/
abbrev Tasks (Op : Type) (Answer : Op → Type) (Err Party α : Type) :=
  List (Party × Program Op Answer Err α)

/-- One step at any position of the pool, or a move of the world alone. -/
inductive Step (service : Party → Service Op Answer Err World) (moves : World → World → Prop) :
    Tasks Op Answer Err Party α → World → Tasks Op Answer Err Party α → World → Prop where
  | answered (before after : Tasks Op Answer Err Party α) (party : Party) (op : Op)
      (resume : Answer op → Program Op Answer Err α) (answer : Answer op) (world next : World)
      (served : service party world op (.ok answer) next) :
      Step service moves (before ++ (party, .await op resume) :: after) world
        (before ++ (party, resume answer) :: after) next
  | refused (before after : Tasks Op Answer Err Party α) (party : Party) (op : Op)
      (resume : Answer op → Program Op Answer Err α) (error : Err) (world next : World)
      (served : service party world op (.error error) next) :
      Step service moves (before ++ (party, .await op resume) :: after) world
        (before ++ (party, .rejected error) :: after) next
  | moved (tasks : Tasks Op Answer Err Party α) (world next : World) (move : moves world next) :
      Step service moves tasks world tasks next

/-- Any number of steps, in any interleaving. -/
inductive Run (service : Party → Service Op Answer Err World) (moves : World → World → Prop) :
    Tasks Op Answer Err Party α → World → Tasks Op Answer Err Party α → World → Prop where
  | done (tasks : Tasks Op Answer Err Party α) (world : World) :
      Run service moves tasks world tasks world
  | step {tasks middle final : Tasks Op Answer Err Party α} {world between last : World}
      (first : Step service moves tasks world middle between)
      (rest : Run service moves middle between final last) :
      Run service moves tasks world final last

/-- Runs compose. -/
theorem Run.append {service : Party → Service Op Answer Err World} {moves : World → World → Prop}
    {tasks middle final : Tasks Op Answer Err Party α} {world between last : World}
    (first : Run service moves tasks world middle between)
    (second : Run service moves middle between final last) :
    Run service moves tasks world final last := by
  induction first with
  | done tasks world => exact second
  | step head rest inductionHypothesis => exact .step head (inductionHypothesis second)

section Guarded

variable {service : Party → Service Op Answer Err World} {moves : World → World → Prop}
  {admits : Party → (op : Op) → Answer op → Prop} {allowed : Party → Op → Prop}

/-- Each program of the pool makes only calls allowed to its party. -/
def Guarded (admits : Party → (op : Op) → Answer op → Prop) (allowed : Party → Op → Prop)
    (tasks : Tasks Op Answer Err Party α) : Prop :=
  ∀ task ∈ tasks, task.2.Obeys (admits task.1) (allowed task.1) (fun _ => True)

/-- The pending call of a guarded pool is allowed, and its admissible answers
leave the rest of the program guarded. -/
theorem Guarded.pending {before after : Tasks Op Answer Err Party α} {party : Party} {op : Op}
    {resume : Answer op → Program Op Answer Err α}
    (guarded : Guarded admits allowed (before ++ (party, .await op resume) :: after)) :
    allowed party op ∧ ∀ answer, admits party op answer →
      (resume answer).Obeys (admits party) (allowed party) (fun _ => True) :=
  guarded (party, .await op resume) (by simp)

/-- Replacing one program by a guarded one keeps the pool guarded. -/
theorem Guarded.replace {before after : Tasks Op Answer Err Party α} {party : Party}
    {old new : Program Op Answer Err α}
    (guarded : Guarded admits allowed (before ++ (party, old) :: after))
    (obeyed : new.Obeys (admits party) (allowed party) (fun _ => True)) :
    Guarded admits allowed (before ++ (party, new) :: after) := by
  intro task member
  rcases List.mem_append.mp member with early | late
  · exact guarded task (List.mem_append_left _ early)
  · rcases List.mem_cons.mp late with same | later
    · subst same
      exact obeyed
    · exact guarded task (List.mem_append_right _ (List.mem_cons_of_mem _ later))

/-- One step of a guarded pool keeps the world's invariant and the guards, if
every allowed call keeps the invariant and is answered admissibly. -/
theorem Step.guarded {tasks next : Tasks Op Answer Err Party α} {world after : World}
    (step : Step service moves tasks world next after) (invariant : World → Prop)
    (calls : ∀ party before op outcome following, invariant before → allowed party op →
      service party before op outcome following →
        invariant following ∧ ∀ answer, outcome = .ok answer → admits party op answer)
    (alone : ∀ before following, invariant before → moves before following → invariant following)
    (kept : invariant world) (guarded : Guarded admits allowed tasks) :
    invariant after ∧ Guarded admits allowed next := by
  cases step with
  | answered before later party op resume answer world following served =>
    obtain ⟨permitted, resumed⟩ := guarded.pending
    obtain ⟨stillKept, admitted⟩ := calls party world op _ after kept permitted served
    exact ⟨stillKept, guarded.replace (resumed answer (admitted answer rfl))⟩
  | refused before later party op resume error world following served =>
    obtain ⟨stillKept, _⟩ := calls party world op _ after kept guarded.pending.1 served
    exact ⟨stillKept, guarded.replace trivial⟩
  | moved tasks world following move => exact ⟨alone world after kept move, guarded⟩

/-- The invariant and the guards hold along a whole run. -/
theorem Run.guarded {tasks final : Tasks Op Answer Err Party α} {world last : World}
    (run : Run service moves tasks world final last) (invariant : World → Prop)
    (calls : ∀ party before op outcome following, invariant before → allowed party op →
      service party before op outcome following →
        invariant following ∧ ∀ answer, outcome = .ok answer → admits party op answer)
    (alone : ∀ before following, invariant before → moves before following → invariant following)
    (kept : invariant world) (guarded : Guarded admits allowed tasks) :
    invariant last ∧ Guarded admits allowed final := by
  induction run with
  | done tasks world => exact ⟨kept, guarded⟩
  | step first rest inductionHypothesis =>
    obtain ⟨stillKept, stillGuarded⟩ := first.guarded invariant calls alone kept guarded
    exact inductionHypothesis stillKept stillGuarded

end Guarded

section Oracle

variable (oracle : Party → (op : Op) → Except Err (Answer op))

/-- A service that answers from each party's oracle and records every call. -/
def recorded : Party → Service Op Answer Err (List (Party × Op)) :=
  fun party log op outcome next => outcome = oracle party op ∧ next = log ++ [(party, op)]

/-- The calls the pool's programs would still make, each tagged with its party. -/
def remaining (tasks : Tasks Op Answer Err Party α) : List (Party × Op) :=
  tasks.flatMap (fun task => (task.2.trace (oracle task.1)).map (Prod.mk task.1))

/-- How each program of the pool would settle if run alone from here. -/
def results (tasks : Tasks Op Answer Err Party α) : List (Party × Except Err α) :=
  tasks.map (fun task => (task.1, task.2.result (oracle task.1)))

theorem remaining_split (before after : Tasks Op Answer Err Party α)
    (task : Party × Program Op Answer Err α) :
    remaining oracle (before ++ task :: after) =
      remaining oracle before ++
        ((task.2.trace (oracle task.1)).map (Prod.mk task.1) ++ remaining oracle after) := by
  simp only [remaining, List.flatMap_append, List.flatMap_cons]

/-- A recorded call moves from the remaining ones to the log: together they stay
a permutation of what they were, and no program's settlement changes. -/
theorem Step.accounted {tasks next : Tasks Op Answer Err Party α} {log after : List (Party × Op)}
    (step : Step (recorded oracle) (fun _ _ => False) tasks log next after) :
    (log ++ remaining oracle tasks).Perm (after ++ remaining oracle next) ∧
      results oracle tasks = results oracle next := by
  have moved (early late rest : List (Party × Op)) (entry : Party × Op) :
      (log ++ (early ++ ((entry :: rest) ++ late))).Perm
        (log ++ [entry] ++ (early ++ (rest ++ late))) := by
    rw [List.append_assoc log [entry]]
    exact List.Perm.append_left log List.perm_middle
  cases step with
  | answered before later party op resume answer log following served =>
    obtain ⟨answered, rfl⟩ := served
    constructor
    · simp only [remaining_split, Program.trace, ← answered, List.map_cons]
      exact moved _ _ _ _
    · simp only [results, List.map_append, List.map_cons, Program.result, ← answered]
  | refused before later party op resume error log following served =>
    obtain ⟨failed, rfl⟩ := served
    constructor
    · simp only [remaining_split, Program.trace, ← failed, List.map_cons]
      exact moved _ _ _ _
    · simp only [results, List.map_append, List.map_cons, Program.result, ← failed]
  | moved tasks log following move => exact move.elim

/-- The accounting holds along a whole run. -/
theorem Run.accounted {tasks final : Tasks Op Answer Err Party α} {log last : List (Party × Op)}
    (run : Run (recorded oracle) (fun _ _ => False) tasks log final last) :
    (log ++ remaining oracle tasks).Perm (last ++ remaining oracle final) ∧
      results oracle tasks = results oracle final := by
  induction run with
  | done tasks log => exact ⟨List.Perm.refl _, rfl⟩
  | step first rest inductionHypothesis =>
    exact ⟨first.accounted.1.trans inductionHypothesis.1,
      first.accounted.2.trans inductionHypothesis.2⟩

/-- An oracle answers every call, so every pool has a run that settles it. The
induction is on the calls that remain. -/
theorem settles (tasks : Tasks Op Answer Err Party α) (log : List (Party × Op)) :
    ∃ final entries, Run (recorded oracle) (fun _ _ => False) tasks log final entries ∧
      ∀ task ∈ final, task.2.settled ≠ none := by
  generalize size : (remaining oracle tasks).length = count
  induction count using Nat.strongRecOn generalizing tasks log with
  | ind count inductionHypothesis =>
    by_cases done : ∀ task ∈ tasks, task.2.settled ≠ none
    · exact ⟨tasks, log, .done tasks log, done⟩
    · simp only [Classical.not_forall, Decidable.not_not] at done
      obtain ⟨⟨party, program⟩, member, waiting⟩ := done
      obtain ⟨before, after, rfl⟩ := List.append_of_mem member
      cases program with
      | done value => cases waiting
      | rejected error => cases waiting
      | await op resume =>
        have taken : ∃ next, Step (recorded oracle) (fun _ _ => False)
            (before ++ (party, .await op resume) :: after) log next (log ++ [(party, op)]) := by
          cases answered : oracle party op with
          | ok answer => exact ⟨_, .answered _ _ _ _ _ answer _ _ ⟨answered.symm, rfl⟩⟩
          | error error => exact ⟨_, .refused _ _ _ _ _ error _ _ ⟨answered.symm, rfl⟩⟩
        obtain ⟨next, step⟩ := taken
        have accounted := (step.accounted oracle).1.length_eq
        simp only [List.length_append, List.length_singleton] at accounted
        obtain ⟨final, entries, rest, settled⟩ :=
          inductionHypothesis (remaining oracle next).length (by omega) next _ rfl
        exact ⟨final, entries, .step step rest, settled⟩

/-- A settled pool has no call left to make. -/
theorem settled_remaining (tasks : Tasks Op Answer Err Party α)
    (settled : ∀ task ∈ tasks, task.2.settled ≠ none) : remaining oracle tasks = [] := by
  apply List.flatMap_eq_nil_iff.mpr
  intro task member
  have ended : task.2.settled ≠ none := settled task member
  cases program : task.2 with
  | done value => rfl
  | rejected error => rfl
  | await op resume => exact absurd (by rw [program]; rfl) ended

/-- Once every program has settled, the log is a permutation of the solo traces,
and each program has settled as it would alone. -/
theorem Run.settled {tasks final : Tasks Op Answer Err Party α} {log : List (Party × Op)}
    (run : Run (recorded oracle) (fun _ _ => False) tasks [] final log)
    (settled : ∀ task ∈ final, task.2.settled ≠ none) :
    log.Perm (remaining oracle tasks) ∧ results oracle tasks = results oracle final := by
  obtain ⟨accounted, same⟩ := run.accounted oracle
  rw [settled_remaining oracle final settled] at accounted
  simp only [List.nil_append, List.append_nil] at accounted
  exact ⟨accounted.symm, same⟩

end Oracle

section Views

variable {service : Party → Service Op Answer Err World}
  {admits : Party → (op : Op) → Answer op → Prop} {allowed : Party → Op → Prop}
  {kept : Party → Bool} {view : World → View}

/-- The programs of the parties that are kept, in pool order. -/
def restrict (kept : Party → Bool) (tasks : Tasks Op Answer Err Party α) :
    Tasks Op Answer Err Party α :=
  tasks.filter (fun task => kept task.1)

theorem restrict_split (before after : Tasks Op Answer Err Party α)
    (task : Party × Program Op Answer Err α) (keep : kept task.1 = true) :
    restrict kept (before ++ task :: after) =
      restrict kept before ++ task :: restrict kept after := by
  simp [restrict, keep]

theorem restrict_dropped (before after : Tasks Op Answer Err Party α)
    (task : Party × Program Op Answer Err α) (drop : kept task.1 = false) :
    restrict kept (before ++ task :: after) = restrict kept before ++ restrict kept after := by
  simp [restrict, drop]

/-- What isolates the kept parties: allowed calls of the others leave the view
alone, and allowed calls of the kept ones depend on the world only through it. -/
structure Isolated (service : Party → Service Op Answer Err World)
    (admits : Party → (op : Op) → Answer op → Prop) (allowed : Party → Op → Prop)
    (kept : Party → Bool) (view : World → View) : Prop where
  answers : ∀ party world op outcome next, allowed party op →
    service party world op outcome next → ∀ answer, outcome = .ok answer → admits party op answer
  hidden : ∀ party world op outcome next, kept party = false → allowed party op →
    service party world op outcome next → view next = view world
  visible : ∀ party world other op outcome next, kept party = true → allowed party op →
    view world = view other → service party world op outcome next →
    ∃ following, service party other op outcome following ∧ view next = view following

/-- A step of a kept party is the same step without the others; a step of any
other party is invisible. -/
theorem Step.projected (isolated : Isolated service admits allowed kept view)
    {tasks next : Tasks Op Answer Err Party α} {world after other : World}
    (step : Step service (fun _ _ => False) tasks world next after)
    (guarded : Guarded admits allowed tasks) (same : view world = view other) :
    ∃ final, Run service (fun _ _ => False) (restrict kept tasks) other (restrict kept next) final ∧
      view after = view final := by
  cases step with
  | answered before later party op resume answer world following served =>
    cases keep : kept party with
    | true =>
      obtain ⟨final, matched, agree⟩ := isolated.visible party world other op _ after keep
        guarded.pending.1 same served
      refine ⟨final, ?_, agree⟩
      rw [restrict_split _ _ _ keep, restrict_split _ _ _ keep]
      exact .step (.answered _ _ _ _ _ _ _ _ matched) (.done _ _)
    | false =>
      have hidden := isolated.hidden party world op _ after keep guarded.pending.1 served
      refine ⟨other, ?_, hidden.trans same⟩
      rw [restrict_dropped _ _ _ keep, restrict_dropped _ _ _ keep]
      exact .done _ _
  | refused before later party op resume error world following served =>
    cases keep : kept party with
    | true =>
      obtain ⟨final, matched, agree⟩ := isolated.visible party world other op _ after keep
        guarded.pending.1 same served
      refine ⟨final, ?_, agree⟩
      rw [restrict_split _ _ _ keep, restrict_split _ _ _ keep]
      exact .step (.refused _ _ _ _ _ _ _ _ matched) (.done _ _)
    | false =>
      have hidden := isolated.hidden party world op _ after keep guarded.pending.1 served
      refine ⟨other, ?_, hidden.trans same⟩
      rw [restrict_dropped _ _ _ keep, restrict_dropped _ _ _ keep]
      exact .done _ _
  | moved tasks world following move => exact move.elim

/-- Guards hold along a run whose calls are answered admissibly. -/
theorem Step.stays_guarded (isolated : Isolated service admits allowed kept view)
    {tasks next : Tasks Op Answer Err Party α} {world after : World}
    (step : Step service (fun _ _ => False) tasks world next after)
    (guarded : Guarded admits allowed tasks) : Guarded admits allowed next :=
  (step.guarded (fun _ => True)
    (fun party before op outcome following _ permitted served =>
      ⟨trivial, isolated.answers party before op outcome following permitted served⟩)
    (fun _ _ _ _ => trivial) trivial guarded).2

/-- Removing the other parties leaves a run of the kept ones with the same view. -/
theorem Run.projected (isolated : Isolated service admits allowed kept view)
    {tasks final : Tasks Op Answer Err Party α} {world last other : World}
    (run : Run service (fun _ _ => False) tasks world final last)
    (guarded : Guarded admits allowed tasks) (same : view world = view other) :
    ∃ ending,
      Run service (fun _ _ => False) (restrict kept tasks) other (restrict kept final) ending ∧
      view last = view ending := by
  induction run generalizing other with
  | done tasks world => exact ⟨other, .done _ _, same⟩
  | step first rest inductionHypothesis =>
    obtain ⟨middle, projected, agree⟩ := first.projected isolated guarded same
    obtain ⟨ending, continued, agreed⟩ :=
      inductionHypothesis (first.stays_guarded isolated guarded) agree
    exact ⟨ending, projected.append continued, agreed⟩

/-- A step of the kept parties alone is a step of the whole pool. -/
theorem Step.lifted (isolated : Isolated service admits allowed kept view)
    {tasks alone next : Tasks Op Answer Err Party α} {world after other : World}
    (step : Step service (fun _ _ => False) alone other next after)
    (restricted : restrict kept tasks = alone) (guarded : Guarded admits allowed tasks)
    (same : view other = view world) :
    ∃ whole final, Step service (fun _ _ => False) tasks world whole final ∧
      restrict kept whole = next ∧ view after = view final := by
  have locate (before later : Tasks Op Answer Err Party α) (task : Party × Program Op Answer Err α)
      (split : restrict kept tasks = before ++ task :: later) :
      ∃ early late, tasks = early ++ task :: late ∧ kept task.1 = true ∧
        restrict kept early = before ∧ restrict kept late = later := by
    obtain ⟨early, rest, whole, earlier, others⟩ := List.filter_eq_append_iff.mp split
    obtain ⟨skipped, late, shape, dropped, keep, following⟩ := List.filter_eq_cons_iff.mp others
    refine ⟨early ++ skipped, late, ?_, keep, ?_, following⟩
    · rw [whole, shape, List.append_assoc]
    · have none : skipped.filter (fun task => kept task.1) = [] :=
        List.filter_eq_nil_iff.mpr dropped
      rw [restrict, List.filter_append, none, List.append_nil]
      exact earlier
  cases step with
  | answered before later party op resume answer other following served =>
    obtain ⟨early, late, rfl, keep, rfl, rfl⟩ := locate before later _ restricted
    obtain ⟨final, matched, agree⟩ := isolated.visible party other world op _ after keep
      guarded.pending.1 same served
    exact ⟨early ++ (party, resume answer) :: late, final, .answered _ _ _ _ _ _ _ _ matched,
      restrict_split _ _ _ keep, agree⟩
  | refused before later party op resume error other following served =>
    obtain ⟨early, late, rfl, keep, rfl, rfl⟩ := locate before later _ restricted
    obtain ⟨final, matched, agree⟩ := isolated.visible party other world op _ after keep
      guarded.pending.1 same served
    exact ⟨early ++ (party, .rejected error) :: late, final, .refused _ _ _ _ _ _ _ _ matched,
      restrict_split _ _ _ keep, agree⟩
  | moved tasks other following move => exact move.elim

/-- Any run of the kept parties alone occurs, with the same view, in a run of the
whole pool: the others may simply not have been scheduled yet. -/
theorem Run.lifted (isolated : Isolated service admits allowed kept view)
    {tasks alone final : Tasks Op Answer Err Party α} {world last other : World}
    (run : Run service (fun _ _ => False) alone other final last)
    (restricted : restrict kept tasks = alone) (guarded : Guarded admits allowed tasks)
    (same : view other = view world) :
    ∃ whole ending, Run service (fun _ _ => False) tasks world whole ending ∧
      restrict kept whole = final ∧ view last = view ending := by
  induction run generalizing tasks world with
  | done alone other => exact ⟨tasks, world, .done _ _, restricted, same⟩
  | step first rest inductionHypothesis =>
    obtain ⟨middle, between, taken, matched, agree⟩ := first.lifted isolated restricted guarded same
    obtain ⟨whole, ending, continued, matching, agreed⟩ :=
      inductionHypothesis matched (taken.stays_guarded isolated guarded) agree
    exact ⟨whole, ending, .step taken continued, matching, agreed⟩

end Views

end Async.Pool
