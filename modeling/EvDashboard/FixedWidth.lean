import Std

/-!
# Concatenations of fields of fixed width

An encoding of fixed width needs no lengths. At either end of a concatenation it can be
told from what it stands next to, and a list of values can be read back from their
concatenated encodings. Two such lists in a row cannot: only the list they make up
together can be read back.
-/

namespace FixedWidth

variable {Value Symbol : Type}

/-- Every value has an encoding of its own, and all of them have one width. -/
structure Fixed (encode : Value → List Symbol) (width : Nat) : Prop where
  width : ∀ value, (encode value).length = width
  injective : ∀ left right, encode left = encode right → left = right

variable {encode : Value → List Symbol} {width : Nat}

/-- A field at the front can be told from the rest. -/
theorem Fixed.front (fixed : Fixed encode width) {left right : Value}
    {restLeft restRight : List Symbol}
    (same : encode left ++ restLeft = encode right ++ restRight) :
    left = right ∧ restLeft = restRight := by
  have widths : (encode left).length = (encode right).length := by
    rw [fixed.width, fixed.width]
  obtain ⟨fields, rests⟩ := List.append_inj same widths
  exact ⟨fixed.injective _ _ fields, rests⟩

/-- So can a field at the back. -/
theorem Fixed.back (fixed : Fixed encode width) {left right : Value}
    {restLeft restRight : List Symbol}
    (same : restLeft ++ encode left = restRight ++ encode right) :
    restLeft = restRight ∧ left = right := by
  have widths : (encode left).length = (encode right).length := by
    rw [fixed.width, fixed.width]
  obtain ⟨rests, fields⟩ := List.append_inj' same widths
  exact ⟨rests, fixed.injective _ _ fields⟩

/-- The width of a list of fields. -/
theorem Fixed.length_flatMap (fixed : Fixed encode width) (values : List Value) :
    (values.flatMap encode).length = width * values.length := by
  induction values with
  | nil => simp
  | cons value values inductionHypothesis =>
    rw [List.flatMap_cons, List.length_append, inductionHypothesis, fixed.width, List.length_cons,
      Nat.mul_succ, Nat.add_comm]

/-- A list of fields can be read back. -/
theorem Fixed.flatMap_injective (fixed : Fixed encode width) (positive : 0 < width)
    {left right : List Value} (same : left.flatMap encode = right.flatMap encode) :
    left = right := by
  induction left generalizing right with
  | nil =>
    have none : width * right.length = 0 := by
      rw [← fixed.length_flatMap, ← same]
      rfl
    have empty : right.length = 0 := (Nat.mul_eq_zero.mp none).resolve_left (by omega)
    exact (List.length_eq_zero_iff.mp empty).symm
  | cons value values inductionHypothesis =>
    cases right with
    | nil =>
      have lengths := congrArg List.length same
      rw [fixed.length_flatMap, fixed.length_flatMap] at lengths
      have some : 0 < width * (value :: values).length :=
        Nat.mul_pos positive (Nat.succ_pos values.length)
      rw [lengths, List.length_nil, Nat.mul_zero] at some
      cases some
    | cons other others =>
      rw [List.flatMap_cons, List.flatMap_cons] at same
      obtain ⟨rfl, rests⟩ := fixed.front same
      rw [inductionHypothesis rests]

/-- Two lists of fields in a row can be read back as one list only. -/
theorem Fixed.flatMap_append_iff (fixed : Fixed encode width) (positive : 0 < width)
    {first second third fourth : List Value} :
    first.flatMap encode ++ second.flatMap encode = third.flatMap encode ++ fourth.flatMap encode ↔
      first ++ second = third ++ fourth := by
  rw [← List.flatMap_append, ← List.flatMap_append]
  constructor
  · exact fixed.flatMap_injective positive
  · intro same
    rw [same]

end FixedWidth
