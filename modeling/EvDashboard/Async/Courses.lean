import EvDashboard.Async.Pool

/-!
# The courses of an interleaved run

Every program of a pool takes its own course: it makes calls, each of which ends in some
way and leaves marks on the shared world. Read program by program, a run is nothing but
these courses, so that it can be looked at from two sides. What the world amounts to is a
relation between it and the marks of all courses, in any order. What a course may leave
depends on its program alone, and is computed along the program's tree.
-/

namespace Async

/-- A call that was made, how it ended, and the marks it left. -/
structure Entry (Op : Type) (Answer : Op → Type) (Err Mark : Type) where
  op : Op
  outcome : Except Err (Answer op)
  marks : List Mark

namespace Program

variable {Op : Type} {Answer : Op → Type} {Err Mark : Type} {α β : Type}

/-- The calls on the way from a program to what is left of it. -/
inductive Follows : Program Op Answer Err α → List (Entry Op Answer Err Mark) →
    Program Op Answer Err α → Prop where
  | here (program : Program Op Answer Err α) : Follows program [] program
  | answered (op : Op) (resume : Answer op → Program Op Answer Err α) (answer : Answer op)
      (marks : List Mark) (history : List (Entry Op Answer Err Mark))
      (left : Program Op Answer Err α) (rest : Follows (resume answer) history left) :
      Follows (.await op resume) (⟨op, .ok answer, marks⟩ :: history) left
  | refused (op : Op) (resume : Answer op → Program Op Answer Err α) (error : Err)
      (marks : List Mark) :
      Follows (.await op resume) [⟨op, .error error, marks⟩] (.rejected error)

/-- Wherever a program stops, the marks it left until then and its settlement, if it has
settled, meet the postcondition, provided that every call ended as noted. -/
def Leaves (noted : Entry Op Answer Err Mark → Prop) :
    Program Op Answer Err α → (List Mark → Option (Except Err α) → Prop) → Prop
  | done value, post => post [] (some (.ok value))
  | rejected error, post => post [] (some (.error error))
  | await op resume, post => post [] none ∧
      (∀ answer marks, noted ⟨op, .ok answer, marks⟩ →
        Leaves noted (resume answer) (fun more ended => post (marks ++ more) ended)) ∧
      ∀ error marks, noted ⟨op, .error error, marks⟩ → post marks (some (.error error))

variable {noted : Entry Op Answer Err Mark → Prop}

/-- Soundness: a program stops where the precondition promises. -/
theorem Leaves.sound {program left : Program Op Answer Err α}
    {post : List Mark → Option (Except Err α) → Prop} {history : List (Entry Op Answer Err Mark)}
    (leaves : program.Leaves noted post) (follows : program.Follows history left)
    (all : ∀ entry ∈ history, noted entry) :
    post (history.flatMap Entry.marks) left.settled := by
  induction follows generalizing post with
  | here program =>
    cases program with
    | done value => exact leaves
    | rejected error => exact leaves
    | await op resume => exact leaves.1
  | answered op resume answer marks history left rest inductionHypothesis =>
    have first : noted ⟨op, .ok answer, marks⟩ := all _ List.mem_cons_self
    exact inductionHypothesis (leaves.2.1 answer marks first)
      (fun entry member => all entry (List.mem_cons_of_mem _ member))
  | refused op resume error marks =>
    rw [List.flatMap_cons, List.flatMap_nil, List.append_nil]
    exact leaves.2.2 error marks (all _ List.mem_cons_self)

/-- A weaker postcondition is met as well. -/
theorem Leaves.weaken {program : Program Op Answer Err α}
    {post weaker : List Mark → Option (Except Err α) → Prop} (leaves : program.Leaves noted post)
    (implied : ∀ marks ended, post marks ended → weaker marks ended) :
    program.Leaves noted weaker := by
  induction program generalizing post weaker with
  | done value => exact implied _ _ leaves
  | rejected error => exact implied _ _ leaves
  | await op resume inductionHypothesis =>
    refine ⟨implied _ _ leaves.1, ?_, ?_⟩
    · intro answer marks first
      exact inductionHypothesis answer (leaves.2.1 answer marks first)
        (fun more ended => implied _ _)
    · intro error marks last
      exact implied _ _ (leaves.2.2 error marks last)

/-- Sequencing: behind the marks of the first program come those of the second. -/
theorem Leaves.bind {program : Program Op Answer Err α} {next : α → Program Op Answer Err β}
    {post : List Mark → Option (Except Err β) → Prop}
    (leaves : program.Leaves noted (fun marks ended => match ended with
      | none => post marks none
      | some (.error error) => post marks (some (.error error))
      | some (.ok value) =>
        (next value).Leaves noted (fun more ending => post (marks ++ more) ending))) :
    (program >>= next).Leaves noted post := by
  induction program generalizing post with
  | done value => exact leaves
  | rejected error => exact leaves
  | await op resume inductionHypothesis =>
    refine ⟨leaves.1, ?_, leaves.2.2⟩
    intro answer marks first
    apply inductionHypothesis answer
    refine (leaves.2.1 answer marks first).weaken ?_
    intro more ended holds
    rcases ended with _ | error | value
    · exact holds
    · exact holds
    · simpa only [List.append_assoc] using holds

/-- What a loop over a list leaves, given what each iteration may leave: an iteration that
has not returned is the last, and behind one that has come the others. -/
def Looped {ι : Type} (each : ι → List Mark → Option (Except Err PUnit) → Prop) :
    List ι → List Mark → Option (Except Err PUnit) → Prop
  | [], marks, ended => marks = [] ∧ ended = some (.ok ⟨⟩)
  | item :: rest, marks, ended => (each item marks ended ∧ ended ≠ some (.ok ⟨⟩)) ∨
      ∃ first more, marks = first ++ more ∧ each item first (some (.ok ⟨⟩)) ∧
        Looped each rest more ended

/-- A loop leaves what its iterations leave. -/
theorem Leaves.forM {ι : Type} (items : List ι) (body : ι → Program Op Answer Err PUnit)
    {each : ι → List Mark → Option (Except Err PUnit) → Prop}
    (iterate : ∀ item ∈ items, (body item).Leaves noted (each item)) :
    (items.forM body).Leaves noted (Looped each items) := by
  induction items with
  | nil => exact ⟨rfl, rfl⟩
  | cons item rest inductionHypothesis =>
    have others := inductionHypothesis (fun other member =>
      iterate other (List.mem_cons_of_mem _ member))
    apply Leaves.bind
    refine (iterate item List.mem_cons_self).weaken ?_
    intro marks ended left
    rcases ended with _ | error | value
    · exact Or.inl ⟨left, fun same => by cases same⟩
    · exact Or.inl ⟨left, fun same => by cases same⟩
    · exact others.weaken (fun more ending looped => Or.inr ⟨marks, more, rfl, left, looped⟩)

end Program

namespace Pool

variable {Op : Type} {Answer : Op → Type} {Err Party World Mark α : Type}

/-- What one program of a pool did for its party. -/
structure Course (Op : Type) (Answer : Op → Type) (Err Party Mark α : Type) where
  party : Party
  program : Program Op Answer Err α
  history : List (Entry Op Answer Err Mark)
  left : Program Op Answer Err α
  follows : program.Follows history left

namespace Course

/-- Where the course began. -/
def begun (course : Course Op Answer Err Party Mark α) : Party × Program Op Answer Err α :=
  (course.party, course.program)

/-- Where it has got. -/
def now (course : Course Op Answer Err Party Mark α) : Party × Program Op Answer Err α :=
  (course.party, course.left)

/-- The marks it left. -/
def marks (course : Course Op Answer Err Party Mark α) : List Mark :=
  course.history.flatMap Entry.marks

/-- A program that has made no call. -/
def unmoved (task : Party × Program Op Answer Err α) : Course Op Answer Err Party Mark α :=
  ⟨task.1, task.2, [], task.2, .here _⟩

end Course

/-- How calls are noted and what the marks amount to. Every call leaves marks with which
the tally goes on; the order of the marks does not matter; and what was noted once stays
as it was noted. -/
structure Tallied (service : Party → Service Op Answer Err World) (moves : World → World → Prop)
    (noted : World → Party → Entry Op Answer Err Mark → Prop)
    (tally : World → List Mark → Prop) : Prop where
  shuffled : ∀ world marks other, List.Perm marks other → tally world marks → tally world other
  served : ∀ party world op outcome next marks, tally world marks →
    service party world op outcome next →
      ∃ left, noted next party ⟨op, outcome, left⟩ ∧ tally next (marks ++ left)
  kept : ∀ party world op outcome next, service party world op outcome next →
    ∀ other entry, noted world other entry → noted next other entry
  moved : ∀ world next marks, moves world next → tally world marks → tally next marks
  stays : ∀ world next, moves world next →
    ∀ party entry, noted world party entry → noted next party entry

variable {service : Party → Service Op Answer Err World} {moves : World → World → Prop}
  {noted : World → Party → Entry Op Answer Err Mark → Prop} {tally : World → List Mark → Prop}

/-- What was noted stays noted along a run. -/
theorem Tallied.keeps (tallied : Tallied service moves noted tally)
    {tasks final : Tasks Op Answer Err Party α} {world last : World}
    (run : Run service moves tasks world final last) {party : Party}
    {entry : Entry Op Answer Err Mark} (holds : noted world party entry) :
    noted last party entry := by
  induction run with
  | done tasks world => exact holds
  | step first rest inductionHypothesis =>
    apply inductionHypothesis
    cases first with
    | answered before after party op resume answer world next served =>
      exact tallied.kept _ _ _ _ _ served _ _ holds
    | refused before after party op resume error world next served =>
      exact tallied.kept _ _ _ _ _ served _ _ holds
    | moved tasks world next move => exact tallied.stays _ _ move _ _ holds

/-- One more call in front of the course at some position. -/
theorem extended {before after : Tasks Op Answer Err Party α} {party : Party}
    {first next : Program Op Answer Err α} {entry : Entry Op Answer Err Mark}
    {courses : List (Course Op Answer Err Party Mark α)}
    (ahead : ∀ history left, next.Follows history left → first.Follows (entry :: history) left)
    (begun : courses.map Course.begun = before ++ (party, next) :: after) :
    ∃ longer : List (Course Op Answer Err Party Mark α),
      longer.map Course.begun = before ++ (party, first) :: after ∧
      longer.map Course.now = courses.map Course.now ∧
      (entry.marks ++ courses.flatMap Course.marks).Perm (longer.flatMap Course.marks) ∧
      ∀ kept : Party → Entry Op Answer Err Mark → Prop, kept party entry →
        (∀ course ∈ courses, ∀ made ∈ course.history, kept course.party made) →
        ∀ course ∈ longer, ∀ made ∈ course.history, kept course.party made := by
  obtain ⟨early, rest, rfl, earlier, others⟩ := List.map_eq_append_iff.mp begun
  obtain ⟨⟨owner, program, history, left, follows⟩, late, rfl, same, later⟩ :=
    List.map_eq_cons_iff.mp others
  cases same
  refine ⟨early ++ ⟨owner, first, entry :: history, left, ahead _ _ follows⟩ :: late,
    ?_, ?_, ?_, ?_⟩
  · rw [List.map_append, List.map_cons, earlier, later]
    rfl
  · simp only [List.map_append, List.map_cons, Course.now]
  · simp only [List.flatMap_append, List.flatMap_cons, Course.marks, List.append_assoc]
    exact List.perm_append_comm_assoc _ _ _
  · intro kept new all course member made among
    rcases List.mem_append.mp member with early' | late'
    · exact all course (List.mem_append_left _ early') made among
    · rcases List.mem_cons.mp late' with rfl | later'
      · rcases List.mem_cons.mp among with rfl | old
        · exact new
        · exact all _ (List.mem_append_right _ List.mem_cons_self) made old
      · exact all course (List.mem_append_right _ (List.mem_cons_of_mem _ later')) made among

/-- A run is the collection of its courses: they begin with the programs at the start of
the run and have got to the programs at its end, all their calls ended as noted, and the
tally takes in exactly their marks. -/
theorem Run.courses (tallied : Tallied service moves noted tally)
    {tasks final : Tasks Op Answer Err Party α} {world last : World} {marks : List Mark}
    (run : Run service moves tasks world final last) (tallies : tally world marks) :
    ∃ courses : List (Course Op Answer Err Party Mark α),
      courses.map Course.begun = tasks ∧ courses.map Course.now = final ∧
      (∀ course ∈ courses, ∀ entry ∈ course.history, noted last course.party entry) ∧
      tally last (marks ++ courses.flatMap Course.marks) := by
  induction run generalizing marks with
  | done tasks world =>
    refine ⟨tasks.map Course.unmoved, ?_, ?_, ?_, ?_⟩
    · rw [List.map_map]
      exact List.map_id tasks
    · rw [List.map_map]
      exact List.map_id tasks
    · intro course member entry made
      obtain ⟨task, _, rfl⟩ := List.mem_map.mp member
      cases made
    · have none : (tasks.map Course.unmoved).flatMap Course.marks = ([] : List Mark) := by
        apply List.flatMap_eq_nil_iff.mpr
        intro course member
        obtain ⟨task, _, rfl⟩ := List.mem_map.mp member
        rfl
      rw [none, List.append_nil]
      exact tallies
  | step first rest inductionHypothesis =>
    cases first with
    | answered before after party op resume answer world next served =>
      obtain ⟨left, fresh, further⟩ := tallied.served _ _ _ _ _ _ tallies served
      obtain ⟨courses, begun, now, all, total⟩ := inductionHypothesis further
      have ahead (history : List (Entry Op Answer Err Mark)) (remains : Program Op Answer Err α)
          (follows : (resume answer).Follows history remains) :
          (Program.await op resume).Follows (⟨op, .ok answer, left⟩ :: history) remains :=
        .answered op resume answer left history remains follows
      obtain ⟨longer, started, same, marked, kept⟩ := extended ahead begun
      refine ⟨longer, started, same.trans now, ?_, ?_⟩
      · exact kept _ (tallied.keeps rest fresh) all
      · refine tallied.shuffled _ _ _ ?_ total
        rw [List.append_assoc]
        exact marked.append_left marks
    | refused before after party op resume error world next served =>
      obtain ⟨left, fresh, further⟩ := tallied.served _ _ _ _ _ _ tallies served
      obtain ⟨courses, begun, now, all, total⟩ := inductionHypothesis further
      have ahead (history : List (Entry Op Answer Err Mark)) (remains : Program Op Answer Err α)
          (follows : (Program.rejected error).Follows history remains) :
          (Program.await op resume).Follows (⟨op, .error error, left⟩ :: history) remains := by
        cases follows
        exact .refused op resume error left
      obtain ⟨longer, started, same, marked, kept⟩ := extended ahead begun
      refine ⟨longer, started, same.trans now, ?_, ?_⟩
      · exact kept _ (tallied.keeps rest fresh) all
      · refine tallied.shuffled _ _ _ ?_ total
        rw [List.append_assoc]
        exact marked.append_left marks
    | moved tasks world next move =>
      obtain ⟨courses, begun, now, all, total⟩ :=
        inductionHypothesis (tallied.moved _ _ _ move tallies)
      exact ⟨courses, begun, now, all, total⟩

/-- Every course leaves what its program may leave, and the tally takes in the marks of
all of them. -/
theorem Run.leaves (tallied : Tallied service moves noted tally)
    {tasks final : Tasks Op Answer Err Party α} {world last : World} {marks : List Mark}
    (run : Run service moves tasks world final last) (tallies : tally world marks)
    {post : Party → List Mark → Option (Except Err α) → Prop}
    (leaves : ∀ task ∈ tasks, task.2.Leaves (noted last task.1) (post task.1)) :
    ∃ courses : List (Course Op Answer Err Party Mark α),
      courses.map Course.begun = tasks ∧ courses.map Course.now = final ∧
      (∀ course ∈ courses, post course.party course.marks course.left.settled) ∧
      tally last (marks ++ courses.flatMap Course.marks) := by
  obtain ⟨courses, begun, now, all, total⟩ := run.courses tallied tallies
  refine ⟨courses, begun, now, ?_, total⟩
  intro course member
  have among : course.begun ∈ tasks := begun ▸ List.mem_map_of_mem member
  exact (leaves course.begun among).sound course.follows (all course member)

end Pool

end Async
