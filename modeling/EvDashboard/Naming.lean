import Std

/-!
# Holders of exclusive names

Holders claim names and release them. A claim closes its name to every other holder,
and perhaps to the claiming one as well; a release opens the name again. A holder that
claims a second name does not release the first one, which is then stranded: nobody
holds it, and whoever it is closed to will never claim it.

Whom a claim shuts out is a parameter. The laws are that no two holders ever hold one
name, that a stranded name stays stranded, and that no other names are closed but the
held and the stranded ones.
-/

namespace Naming

variable {Holder Name : Type}

/-- The name each holder has, and to whom a name is closed. -/
structure Names (Holder Name : Type) where
  holds : Holder → Option Name
  closed : Name → Holder → Prop

/-- What happens in one step. -/
inductive Event (Holder Name : Type) where
  | claim (holder : Holder) (name : Name)
  | release (holder : Holder) (name : Name)
  | idle

/-- A claim needs an open name and closes it to those that the holder shuts out. A
release needs a held name and opens it. Other holders and other names are not affected. -/
inductive Step (shuts : Holder → Holder → Prop) :
    Names Holder Name → Event Holder Name → Names Holder Name → Prop where
  | claim {before after : Names Holder Name} (holder : Holder) (name : Name)
      (admitted : ¬before.closed name holder) (held : after.holds holder = some name)
      (shut : ∀ other, shuts holder other → after.closed name other)
      (others : ∀ other, other ≠ holder → after.holds other = before.holds other)
      (names : ∀ different, different ≠ name →
        ∀ other, after.closed different other ↔ before.closed different other) :
      Step shuts before (.claim holder name) after
  | release {before after : Names Holder Name} (holder : Holder) (name : Name)
      (held : before.holds holder = some name) (gone : after.holds holder = none)
      (opened : ∀ other, ¬after.closed name other)
      (others : ∀ other, other ≠ holder → after.holds other = before.holds other)
      (names : ∀ different, different ≠ name →
        ∀ other, after.closed different other ↔ before.closed different other) :
      Step shuts before (.release holder name) after
  | idle {state : Names Holder Name} : Step shuts state .idle state

/-- A held name is closed to those its holder shuts out, and has no second holder. -/
structure Exclusive (shuts : Holder → Holder → Prop) (state : Names Holder Name) : Prop where
  closed : ∀ holder name, state.holds holder = some name →
    ∀ other, shuts holder other → state.closed name other
  sole : ∀ holder name, state.holds holder = some name →
    ∀ other, other ≠ holder → state.holds other ≠ some name

/-- Nobody holds the name, and it is closed to all but the exempt holders. -/
structure Stranded (exempt : Holder → Prop) (state : Names Holder Name) (name : Name) : Prop where
  unheld : ∀ holder, state.holds holder ≠ some name
  closed : ∀ holder, ¬exempt holder → state.closed name holder

/-- The name that an event strands: the one its holder had until then. -/
def Event.strands (state : Names Holder Name) : Event Holder Name → List Name
  | claim holder _ => (state.holds holder).toList
  | _ => []

/-- A name is closed when it is held or one of the lost ones, and these nobody holds. -/
structure Accounted (state : Names Holder Name) (lost : List Name) : Prop where
  closed : ∀ name other, state.closed name other ↔
    (∃ holder, state.holds holder = some name) ∨ name ∈ lost
  unheld : ∀ name ∈ lost, ∀ holder, state.holds holder ≠ some name

variable {shuts : Holder → Holder → Prop} {before after : Names Holder Name}
  {event : Event Holder Name}

/-- Every step keeps names exclusive, when a holder shuts out all others. -/
theorem Step.exclusive (step : Step shuts before event after)
    (separate : ∀ holder other, other ≠ holder → shuts holder other)
    (exclusive : Exclusive shuts before) : Exclusive shuts after := by
  cases step with
  | claim holder name admitted held shut others names =>
    -- Whoever holds the claimed name would have closed it to the claiming holder.
    have different (other : Holder) (distinct : other ≠ holder) :
        before.holds other ≠ some name := fun has =>
      admitted (exclusive.closed other name has holder (separate other holder (Ne.symm distinct)))
    constructor
    · intro other kept has
      by_cases same : other = holder
      · subst same
        obtain rfl := Option.some.inj (held.symm.trans has)
        exact shut
      · rw [others other same] at has
        have elsewhere : kept ≠ name := fun equal => different other same (equal ▸ has)
        intro third shutOut
        exact (names kept elsewhere third).mpr (exclusive.closed other kept has third shutOut)
    · intro other kept has third distinct
      by_cases same : other = holder
      · subst same
        obtain rfl := Option.some.inj (held.symm.trans has)
        rw [others third distinct]
        exact different third distinct
      · rw [others other same] at has
        by_cases claims : third = holder
        · subst claims
          rw [held]
          intro equal
          exact different other same (Option.some.inj equal ▸ has)
        · rw [others third claims]
          exact exclusive.sole other kept has third distinct
  | release holder name held gone opened others names =>
    have remaining (other : Holder) (kept : Name) (has : after.holds other = some kept) :
        before.holds other = some kept ∧ kept ≠ name := by
      have distinct : other ≠ holder := by
        rintro rfl
        rw [gone] at has
        cases has
      rw [others other distinct] at has
      refine ⟨has, ?_⟩
      rintro rfl
      exact exclusive.sole holder kept held other distinct has
    constructor
    · intro other kept has third shutOut
      obtain ⟨had, elsewhere⟩ := remaining other kept has
      exact (names kept elsewhere third).mpr (exclusive.closed other kept had third shutOut)
    · intro other kept has third distinct again
      exact exclusive.sole other kept (remaining other kept has).1 third distinct
        (remaining third kept again).1
  | idle => exact exclusive

/-- A stranded name stays stranded unless an exempt holder claims it. -/
theorem Step.stranded {exempt : Holder → Prop} {name : Name} (step : Step shuts before event after)
    (spared : ∀ holder, exempt holder → event ≠ .claim holder name)
    (stranded : Stranded exempt before name) : Stranded exempt after name := by
  cases step with
  | claim holder claimed admitted held shut others names =>
    have elsewhere : name ≠ claimed := by
      rintro rfl
      by_cases free : exempt holder
      · exact spared holder free rfl
      · exact admitted (stranded.closed holder free)
    constructor
    · intro other has
      by_cases same : other = holder
      · subst same
        exact elsewhere (Option.some.inj (has.symm.trans held))
      · rw [others other same] at has
        exact stranded.unheld other has
    · intro other free
      exact (names name elsewhere other).mpr (stranded.closed other free)
  | release holder released held gone opened others names =>
    have elsewhere : name ≠ released := by
      rintro rfl
      exact stranded.unheld holder held
    constructor
    · intro other has
      by_cases same : other = holder
      · subst same
        rw [gone] at has
        cases has
      · rw [others other same] at has
        exact stranded.unheld other has
    · intro other free
      exact (names name elsewhere other).mpr (stranded.closed other free)
  | idle => exact stranded

/-- A holder that claims a second name strands its first one, except for those it did
not shut out. -/
theorem Step.strands {holder : Holder} {old name : Name}
    (step : Step shuts before (.claim holder name) after)
    (exclusive : Exclusive shuts before) (has : before.holds holder = some old)
    (different : old ≠ name) : Stranded (fun other => ¬shuts holder other) after old := by
  cases step with
  | claim _ _ admitted held shut others names =>
    constructor
    · intro other again
      by_cases same : other = holder
      · subst same
        exact different (Option.some.inj (again.symm.trans held))
      · rw [others other same] at again
        exact exclusive.sole holder old has other same again
    · intro other spared
      exact (names old different other).mpr
        (exclusive.closed holder old has other (Classical.not_not.mp spared))

/-- When a claim shuts out everybody, the claiming holder included, then no names are
closed but the held ones and those that earlier claims stranded. -/
theorem Step.accounted {lost : List Name} (step : Step shuts before event after)
    (everybody : ∀ holder other, shuts holder other) (exclusive : Exclusive shuts before)
    (accounted : Accounted before lost) :
    Accounted after (lost ++ event.strands before) := by
  cases step with
  | claim holder name admitted held shut others names =>
    have unclaimed : ∀ other, before.holds other ≠ some name := fun other has =>
      admitted ((accounted.closed name holder).mpr (Or.inl ⟨other, has⟩))
    have unlost : name ∉ lost := fun member =>
      admitted ((accounted.closed name holder).mpr (Or.inr member))
    simp only [Event.strands]
    constructor
    · intro other third
      simp only [List.mem_append, Option.mem_toList]
      by_cases same : other = name
      · subst same
        exact iff_of_true (shut third (everybody holder third)) (Or.inl ⟨holder, held⟩)
      · rw [names other same third, accounted.closed other third]
        constructor
        · rintro (⟨keeper, has⟩ | member)
          · by_cases claims : keeper = holder
            · exact Or.inr (Or.inr (claims ▸ has))
            · exact Or.inl ⟨keeper, (others keeper claims).trans has⟩
          · exact Or.inr (Or.inl member)
        · rintro (⟨keeper, has⟩ | member | had)
          · by_cases claims : keeper = holder
            · exact absurd (Option.some.inj ((claims ▸ has).symm.trans held)) same
            · exact Or.inl ⟨keeper, (others keeper claims).symm.trans has⟩
          · exact Or.inr member
          · exact Or.inl ⟨holder, had⟩
    · intro other member keeper has
      simp only [List.mem_append, Option.mem_toList] at member
      by_cases claims : keeper = holder
      · subst claims
        obtain rfl := Option.some.inj (has.symm.trans held)
        exact member.elim unlost (unclaimed keeper)
      · rw [others keeper claims] at has
        rcases member with earlier | had
        · exact accounted.unheld other earlier keeper has
        · exact exclusive.sole holder other had keeper claims has
  | release holder name held gone opened others names =>
    simp only [Event.strands, List.append_nil]
    constructor
    · intro other third
      by_cases same : other = name
      · subst same
        refine iff_of_false (opened third) ?_
        rintro (⟨keeper, has⟩ | member)
        · by_cases releases : keeper = holder
          · subst releases
            rw [gone] at has
            cases has
          · rw [others keeper releases] at has
            exact exclusive.sole holder other held keeper releases has
        · exact accounted.unheld other member holder held
      · rw [names other same third, accounted.closed other third]
        constructor
        · rintro (⟨keeper, has⟩ | member)
          · have releases : keeper ≠ holder := by
              rintro rfl
              exact same (Option.some.inj (has.symm.trans held))
            exact Or.inl ⟨keeper, (others keeper releases).trans has⟩
          · exact Or.inr member
        · rintro (⟨keeper, has⟩ | member)
          · have releases : keeper ≠ holder := by
              rintro rfl
              rw [gone] at has
              cases has
            exact Or.inl ⟨keeper, (others keeper releases).symm.trans has⟩
          · exact Or.inr member
    · intro other member keeper has
      by_cases releases : keeper = holder
      · subst releases
        rw [gone] at has
        cases has
      · exact accounted.unheld other member keeper ((others keeper releases).symm.trans has)
  | idle => simpa only [Event.strands, List.append_nil] using accounted

end Naming
