import Mathlib.Algebra.Order.Field.Rat
import Mathlib.Tactic.NormNum

/-!
# Reading a number off the front of a text

`parseFloat` skips white space and takes the longest prefix of the rest that is a
numeric literal; what follows the prefix is ignored. A literal is an optional sign and
either `Infinity` or decimal digits, with an optional fraction and an optional exponent.

The literals are given twice: by a grammar, and by a reader that accepts exactly the
texts of the grammar. Numbers are taken by their exact value.
-/

namespace JavaScript

/-- A number, by its exact value. -/
inductive Number where
  | nan
  | infinite (negative : Bool)
  | finite (value : ℚ)

/-- The product with a positive factor, taken by its exact value, too. -/
def Number.times : Number → ℚ → Number
  | .finite value, factor => .finite (value * factor)
  | number, _ => number

/-- The number that decimal digits denote. -/
def digitsValue (digits : List Char) : Nat :=
  digits.foldl (fun total digit => 10 * total + (digit.toNat - '0'.toNat)) 0

/-- The value of a decimal: the digits before and behind the point, scaled. -/
def decimalValue (negative : Bool) (whole fraction : List Char) (exponent : Int) : ℚ :=
  (if negative then -1 else 1) * (digitsValue (whole ++ fraction) : ℚ) *
    10 ^ (exponent - fraction.length)

/-- An optional sign. -/
inductive SignText : Bool → List Char → Prop where
  | absent : SignText false []
  | plus : SignText false ['+']
  | minus : SignText true ['-']

/-- An optional point with the digits behind it, perhaps none. -/
inductive FractionText : List Char → List Char → Prop where
  | absent : FractionText [] []
  | point (digits : List Char) (decimal : digits.all Char.isDigit = true) :
      FractionText digits ('.' :: digits)

/-- An exponent of which a sign and a number of digits are given. -/
def exponentValue (negative : Bool) (digits : List Char) : Int :=
  if negative then -(digitsValue digits : Int) else digitsValue digits

/-- An optional exponent. -/
inductive ExponentText : Int → List Char → Prop where
  | absent : ExponentText 0 []
  | present (letter : Char) (negative : Bool) (sign digits : List Char)
      (marks : letter = 'e' ∨ letter = 'E') (signed : SignText negative sign)
      (some : digits ≠ []) (decimal : digits.all Char.isDigit = true) :
      ExponentText (exponentValue negative digits) (letter :: (sign ++ digits))

/-- The texts that are numeric literals, with the numbers they denote. At least one
digit stands before or behind the point. -/
inductive LiteralText : Number → List Char → Prop where
  | infinity (negative : Bool) (sign : List Char) (signed : SignText negative sign) :
      LiteralText (.infinite negative) (sign ++ "Infinity".toList)
  | decimal (negative : Bool) (sign whole fraction point : List Char) (exponent : Int)
      (tail : List Char) (signed : SignText negative sign)
      (decimal : whole.all Char.isDigit = true) (pointed : FractionText fraction point)
      (some : whole ++ fraction ≠ []) (scaled : ExponentText exponent tail) :
      LiteralText (.finite (decimalValue negative whole fraction exponent))
        (sign ++ (whole ++ (point ++ tail)))

/-- Split off an optional sign. -/
def readSign : List Char → Bool × List Char
  | '+' :: rest => (false, rest)
  | '-' :: rest => (true, rest)
  | rest => (false, rest)

/-- Split off an optional point with the digits behind it. -/
def readFraction : List Char → List Char × List Char
  | '.' :: rest => (rest.takeWhile Char.isDigit, rest.dropWhile Char.isDigit)
  | rest => ([], rest)

/-- Read an exponent that ends with the text. -/
def readExponent : List Char → Option Int
  | [] => some 0
  | letter :: rest =>
    if letter = 'e' ∨ letter = 'E' then
      let (negative, digits) := readSign rest
      if digits ≠ [] ∧ digits.all Char.isDigit = true then some (exponentValue negative digits)
      else none
    else none

/-- Read a literal behind its sign. -/
def readUnsigned (negative : Bool) (text : List Char) : Option Number :=
  if text = "Infinity".toList then some (.infinite negative)
  else
    let whole := text.takeWhile Char.isDigit
    let (fraction, tail) := readFraction (text.dropWhile Char.isDigit)
    if whole ++ fraction = [] then none
    else (readExponent tail).map
      (fun exponent => .finite (decimalValue negative whole fraction exponent))

/-- Read a text that is one literal. -/
def readLiteral (text : List Char) : Option Number :=
  let (negative, unsigned) := readSign text
  readUnsigned negative unsigned

/-- The longest prefix of at most `bound` characters that is a literal. -/
def longestLiteral (text : List Char) : Nat → Option Number
  | 0 => none
  | bound + 1 => match readLiteral (text.take (bound + 1)) with
    | some number => some number
    | none => longestLiteral text bound

/-- White space and line ends. -/
def isWhiteSpace (character : Char) : Bool :=
  [0x09, 0x0A, 0x0B, 0x0C, 0x0D, 0x20, 0xA0, 0x1680, 0x2028, 0x2029, 0x202F, 0x205F, 0x3000,
    0xFEFF].contains character.toNat || (0x2000 ≤ character.toNat && character.toNat ≤ 0x200A)

/-- A text without its leading white space. -/
def trimStart (text : String) : List Char := text.toList.dropWhile isWhiteSpace

/-- `parseFloat(text)`. -/
def parseFloat (text : String) : Number :=
  (longestLiteral (trimStart text) (trimStart text).length).getD .nan

/-- A prefix that is a literal, and longer than every other such prefix. -/
def Leads (text : List Char) (number : Number) : Prop :=
  ∃ front rest, text = front ++ rest ∧ LiteralText number front ∧
    ∀ other more denoted, text = other ++ more → LiteralText denoted other →
      other.length ≤ front.length

/-- A text that is empty or begins with an allowed character. -/
def Begins (text : List Char) (allowed : Char → Prop) : Prop :=
  ∀ first more, text = first :: more → allowed first

/-- Digits in front of a stop are what is taken. -/
theorem take_digits {digits rest : List Char} (decimal : digits.all Char.isDigit = true)
    (stops : Begins rest (fun first => first.isDigit = false)) :
    (digits ++ rest).takeWhile Char.isDigit = digits ∧
      (digits ++ rest).dropWhile Char.isDigit = rest := by
  have each := List.all_eq_true.mp decimal
  rw [List.takeWhile_append_of_pos each, List.dropWhile_append_of_pos each]
  cases rest with
  | nil => exact ⟨List.append_nil _, rfl⟩
  | cons first more =>
    have other : first.isDigit = false := stops first more rfl
    simp only [List.takeWhile_cons, List.dropWhile_cons, other, Bool.false_eq_true, if_false,
      List.append_nil, and_self]

/-- A text is the digits it begins with and the rest. -/
theorem split_digits (text : List Char) : (text.takeWhile Char.isDigit).all Char.isDigit = true ∧
    text = text.takeWhile Char.isDigit ++ text.dropWhile Char.isDigit :=
  ⟨List.all_takeWhile, List.takeWhile_append_dropWhile.symm⟩

/-- The sign that is split off is one of the grammar. -/
theorem readSign_sound (text : List Char) :
    ∃ sign, SignText (readSign text).1 sign ∧ text = sign ++ (readSign text).2 := by
  unfold readSign
  split
  · exact ⟨['+'], .plus, rfl⟩
  · exact ⟨['-'], .minus, rfl⟩
  · exact ⟨[], .absent, rfl⟩

/-- A sign in front of what is none is split off. -/
theorem readSign_complete {negative : Bool} {sign rest : List Char}
    (signed : SignText negative sign)
    (unsigned : Begins rest (fun first => first ≠ '+' ∧ first ≠ '-')) :
    readSign (sign ++ rest) = (negative, rest) := by
  cases signed with
  | plus => rfl
  | minus => rfl
  | absent =>
    rw [List.nil_append]
    unfold readSign
    split
    · rename_i more
      exact absurd rfl (unsigned '+' more rfl).1
    · rename_i more
      exact absurd rfl (unsigned '-' more rfl).2
    · rfl

/-- Neither a digit nor the point is a sign. -/
theorem unsigned {character : Char} (shown : character.isDigit = true ∨ character = '.') :
    character ≠ '+' ∧ character ≠ '-' := by
  rcases shown with digit | rfl
  · constructor
    · rintro rfl
      revert digit
      decide
    · rintro rfl
      revert digit
      decide
  · decide

/-- Digits begin with no sign. -/
theorem digits_unsigned {digits : List Char} (decimal : digits.all Char.isDigit = true) :
    Begins digits (fun first => first ≠ '+' ∧ first ≠ '-') := by
  rintro first more rfl
  exact unsigned (Or.inl (List.all_eq_true.mp decimal first List.mem_cons_self))

/-- The fraction that is split off is one of the grammar. -/
theorem readFraction_sound (text : List Char) : ∃ point,
    FractionText (readFraction text).1 point ∧ text = point ++ (readFraction text).2 := by
  unfold readFraction
  split
  · rename_i rest
    obtain ⟨decimal, whole⟩ := split_digits rest
    exact ⟨_, .point _ decimal, congrArg ('.' :: ·) whole⟩
  · exact ⟨[], .absent, rfl⟩

/-- A fraction in front of an exponent is split off. -/
theorem readFraction_complete {fraction point tail : List Char}
    (pointed : FractionText fraction point)
    (stops : Begins tail (fun first => first.isDigit = false ∧ first ≠ '.')) :
    readFraction (point ++ tail) = (fraction, tail) := by
  cases pointed with
  | point digits decimal =>
    obtain ⟨taken, left⟩ :=
      take_digits decimal (fun first more begins => (stops first more begins).1)
    show ((fraction ++ tail).takeWhile Char.isDigit, (fraction ++ tail).dropWhile Char.isDigit) = _
    rw [taken, left]
  | absent =>
    rw [List.nil_append]
    unfold readFraction
    split
    · rename_i more
      exact absurd rfl (stops '.' more rfl).2
    · rfl

/-- An exponent is read exactly when the grammar has it. -/
theorem readExponent_iff {tail : List Char} {exponent : Int} :
    readExponent tail = some exponent ↔ ExponentText exponent tail := by
  constructor
  · intro read
    cases tail with
    | nil =>
      cases read
      exact .absent
    | cons letter rest =>
      obtain ⟨sign, signed, whole⟩ := readSign_sound rest
      by_cases marks : letter = 'e' ∨ letter = 'E'
      · by_cases digits : (readSign rest).2 ≠ [] ∧ (readSign rest).2.all Char.isDigit = true
        · simp only [readExponent, marks, if_true, digits, not_false_eq_true, and_self, ne_eq,
            Option.some.injEq] at read
          have text : letter :: rest = letter :: (sign ++ (readSign rest).2) :=
            congrArg (letter :: ·) whole
          rw [← read, text]
          exact .present letter _ sign _ marks signed digits.1 digits.2
        · simp only [readExponent, marks, if_true, digits, if_false, reduceCtorEq] at read
      · simp only [readExponent, marks, if_false, reduceCtorEq] at read
  · intro scaled
    cases scaled with
    | absent => rfl
    | present letter negative sign digits marks signed some decimal =>
      have read := readSign_complete signed (digits_unsigned decimal)
      simp only [readExponent, marks, if_true, read, ne_eq, some, not_false_eq_true, decimal,
        and_self]

/-- An exponent begins with its letter. -/
theorem ExponentText.begins {exponent : Int} {tail : List Char}
    (scaled : ExponentText exponent tail) :
    Begins tail (fun first => first.isDigit = false ∧ first ≠ '.') := by
  cases scaled with
  | absent => exact fun _ _ empty => nomatch empty
  | present letter negative sign digits marks signed some decimal =>
    intro first more begins
    obtain rfl := (List.cons.inj begins).1
    rcases marks with rfl | rfl
    · decide
    · decide

/-- A decimal behind its sign begins with a digit or the point. -/
theorem decimal_begins {whole fraction point tail : List Char}
    (decimal : whole.all Char.isDigit = true) (pointed : FractionText fraction point)
    (some : whole ++ fraction ≠ []) :
    Begins (whole ++ (point ++ tail)) (fun first => first.isDigit = true ∨ first = '.') := by
  intro first more begins
  cases whole with
  | cons digit digits =>
    obtain rfl := (List.cons.inj begins).1
    exact Or.inl (List.all_eq_true.mp decimal _ List.mem_cons_self)
  | nil =>
    cases pointed with
    | absent => exact absurd rfl some
    | point => exact Or.inr (List.cons.inj begins).1.symm

/-- A literal behind its sign is read only if the grammar has it. -/
theorem readUnsigned_sound {negative : Bool} {sign text : List Char} {number : Number}
    (signed : SignText negative sign) (read : readUnsigned negative text = some number) :
    LiteralText number (sign ++ text) := by
  unfold readUnsigned at read
  split at read
  · rename_i infinity
    cases read
    rw [infinity]
    exact .infinity negative sign signed
  · obtain ⟨decimal, whole⟩ := split_digits text
    obtain ⟨point, pointed, rest⟩ := readFraction_sound (text.dropWhile Char.isDigit)
    dsimp only at read
    split at read
    · cases read
    · rename_i some
      obtain ⟨exponent, scaled, rfl⟩ := Option.map_eq_some_iff.mp read
      have parts : sign ++ text = sign ++ (text.takeWhile Char.isDigit ++
          (point ++ (readFraction (text.dropWhile Char.isDigit)).2)) :=
        congrArg (sign ++ ·) (whole.trans (congrArg (text.takeWhile Char.isDigit ++ ·) rest))
      rw [parts]
      exact .decimal negative sign _ _ point exponent _ signed decimal pointed some
        (readExponent_iff.mp scaled)

/-- A decimal of the grammar is read behind its sign. -/
theorem readUnsigned_decimal {negative : Bool} {whole fraction point tail : List Char}
    {exponent : Int} (decimal : whole.all Char.isDigit = true)
    (pointed : FractionText fraction point) (some : whole ++ fraction ≠ [])
    (scaled : ExponentText exponent tail) :
    readUnsigned negative (whole ++ (point ++ tail)) =
      Option.some (.finite (decimalValue negative whole fraction exponent)) := by
  have begins := @decimal_begins _ _ _ tail decimal pointed some
  have other : whole ++ (point ++ tail) ≠ "Infinity".toList := by
    intro infinity
    rcases begins 'I' _ infinity with digit | point
    · revert digit
      decide
    · revert point
      decide
  have stops : Begins (point ++ tail) (fun first => first.isDigit = false) := by
    intro first more begins
    cases pointed with
    | absent => exact (scaled.begins first more begins).1
    | point digits decimal =>
      obtain rfl := (List.cons.inj begins).1
      decide
  obtain ⟨taken, left⟩ := take_digits decimal stops
  unfold readUnsigned
  rw [if_neg other]
  simp only [taken, left, readFraction_complete pointed scaled.begins, some, if_false,
    readExponent_iff.mpr scaled, Option.map_some]

/-- The reader accepts exactly the texts of the grammar. -/
theorem readLiteral_iff {text : List Char} {number : Number} :
    readLiteral text = some number ↔ LiteralText number text := by
  constructor
  · intro read
    obtain ⟨sign, signed, whole⟩ := readSign_sound text
    rw [whole]
    exact readUnsigned_sound signed read
  · intro literal
    cases literal with
    | infinity negative sign signed =>
      have unsigned : Begins "Infinity".toList (fun first => first ≠ '+' ∧ first ≠ '-') := by
        intro first more begins
        obtain rfl := (List.cons.inj begins).1
        decide
      unfold readLiteral
      rw [readSign_complete signed unsigned]
      exact if_pos rfl
    | decimal negative sign whole fraction point exponent tail signed decimal pointed some scaled =>
      have begins := @decimal_begins _ _ _ tail decimal pointed some
      unfold readLiteral
      rw [readSign_complete signed (fun first more split => unsigned (begins first more split))]
      exact readUnsigned_decimal decimal pointed some scaled

/-- The empty text is no literal. -/
theorem LiteralText.nonempty {number : Number} {text : List Char}
    (literal : LiteralText number text) : text ≠ [] := by
  rintro rfl
  have read : readLiteral [] = some number := readLiteral_iff.mpr literal
  cases read

/-- What is found within a bound is a literal prefix, and no longer one is within it. -/
theorem longestLiteral_some {text : List Char} {bound : Nat} {number : Number}
    (found : longestLiteral text bound = some number) :
    ∃ size ≤ bound, LiteralText number (text.take size) ∧
      ∀ larger denoted, size < larger → larger ≤ bound →
        ¬LiteralText denoted (text.take larger) := by
  induction bound with
  | zero => cases found
  | succ bound inductionHypothesis =>
    cases read : readLiteral (text.take (bound + 1)) with
    | some denoted =>
      simp only [longestLiteral, read, Option.some.injEq] at found
      subst found
      refine ⟨bound + 1, Nat.le_refl _, readLiteral_iff.mp read, ?_⟩
      intro larger other longer within
      omega
    | none =>
      simp only [longestLiteral, read] at found
      obtain ⟨size, within, literal, longest⟩ := inductionHypothesis found
      refine ⟨size, Nat.le_succ_of_le within, literal, ?_⟩
      intro larger denoted longer inside other
      rcases Nat.eq_or_lt_of_le inside with rfl | smaller
      · rw [readLiteral_iff.mpr other] at read
        cases read
      · exact longest larger denoted longer (Nat.le_of_lt_succ smaller) other

/-- When nothing is found, no prefix within the bound is a literal. -/
theorem longestLiteral_none {text : List Char} {bound : Nat}
    (missing : longestLiteral text bound = none) (size : Nat) (within : size ≤ bound)
    (denoted : Number) : ¬LiteralText denoted (text.take size) := by
  induction bound with
  | zero =>
    obtain rfl := Nat.le_zero.mp within
    exact fun literal => literal.nonempty rfl
  | succ bound inductionHypothesis =>
    cases read : readLiteral (text.take (bound + 1)) with
    | some found =>
      simp only [longestLiteral, read, reduceCtorEq] at missing
    | none =>
      simp only [longestLiteral, read] at missing
      rcases Nat.eq_or_lt_of_le within with rfl | smaller
      · intro literal
        rw [readLiteral_iff.mpr literal] at read
        cases read
      · exact inductionHypothesis missing (Nat.le_of_lt_succ smaller)

/-- A text has one longest literal, and it denotes one number. -/
theorem Leads.unique {text : List Char} {left right : Number} (first : Leads text left)
    (second : Leads text right) : left = right := by
  obtain ⟨front, rest, split, literal, longest⟩ := first
  obtain ⟨other, more, divided, denoted, largest⟩ := second
  have sizes : front.length = other.length :=
    Nat.le_antisymm (largest front rest left split literal)
      (longest other more right divided denoted)
  obtain ⟨rfl, _⟩ := List.append_inj (split.symm.trans divided) sizes
  have read := readLiteral_iff.mpr literal
  rw [readLiteral_iff.mpr denoted] at read
  exact (Option.some.inj read).symm

/-- What is found in the whole text leads it. -/
theorem longestLiteral_leads {text : List Char} {number : Number}
    (found : longestLiteral text text.length = some number) : Leads text number := by
  obtain ⟨size, within, literal, longest⟩ := longestLiteral_some found
  refine ⟨_, _, (List.take_append_drop size text).symm, literal, ?_⟩
  intro other more denoted split denotes
  have inside : other.length ≤ text.length := by
    rw [split, List.length_append]
    omega
  rw [List.length_take, Nat.min_eq_left within]
  by_contra longer
  apply longest other.length denoted (Nat.lt_of_not_le longer) inside
  rw [split, List.take_left]
  exact denotes

/-- Where nothing is found, nothing leads the text. -/
theorem Leads.found {text : List Char} {number : Number} (leads : Leads text number) :
    longestLiteral text text.length = some number := by
  cases found : longestLiteral text text.length with
  | none =>
    obtain ⟨front, rest, split, literal, _⟩ := leads
    have within : front.length ≤ text.length := by
      rw [split, List.length_append]
      omega
    apply absurd literal
    have missing := longestLiteral_none found front.length within number
    rwa [split, List.take_left] at missing
  | some denoted => rw [(longestLiteral_leads found).unique leads]

/-- A number is returned exactly when it is that of the longest literal prefix. -/
theorem parseFloat_finite_iff {text : String} {value : ℚ} :
    parseFloat text = .finite value ↔ Leads (trimStart text) (.finite value) := by
  constructor
  · intro parsed
    cases found : longestLiteral (trimStart text) (trimStart text).length with
    | none =>
      rw [parseFloat, found, Option.getD_none] at parsed
      cases parsed
    | some number =>
      rw [parseFloat, found, Option.getD_some] at parsed
      exact parsed ▸ longestLiteral_leads found
  · intro leads
    rw [parseFloat, leads.found, Option.getD_some]

/-- A decimal numeral without a sign or an exponent, and its value. Digits stand before
or behind the point, at most `places` of them behind it. -/
def Numeral (places : Nat) (text : String) (amount : ℚ) : Prop :=
  ∃ whole fraction point, text.toList = whole ++ point ∧ whole.all Char.isDigit = true ∧
    FractionText fraction point ∧ whole ++ fraction ≠ [] ∧ fraction.length ≤ places ∧
    amount = decimalValue false whole fraction 0

/-- A digit is no white space, nor is the point. -/
theorem visible {character : Char} (shown : character.isDigit = true ∨ character = '.') :
    isWhiteSpace character = false := by
  rcases shown with digit | rfl
  · have range : 48 ≤ character.toNat ∧ character.toNat ≤ 57 := by
      simpa [Char.isDigit, UInt32.le_iff_toNat_le] using digit
    obtain ⟨lower, upper⟩ := range
    simp only [isWhiteSpace, List.contains_eq_mem, List.mem_cons, List.not_mem_nil, or_false,
      Bool.or_eq_false_iff, decide_eq_false_iff_not, Bool.and_eq_false_iff, not_or]
    omega
  · decide

/-- A numeral is the literal that leads itself. -/
theorem Numeral.leads {places : Nat} {text : String} {amount : ℚ}
    (numeral : Numeral places text amount) : Leads (trimStart text) (.finite amount) := by
  obtain ⟨whole, fraction, point, spelled, decimal, pointed, some, _, rfl⟩ := numeral
  have begins := @decimal_begins _ _ _ [] decimal pointed some
  rw [List.append_nil, ← spelled] at begins
  have untrimmed : trimStart text = text.toList := by
    unfold trimStart
    cases characters : text.toList with
    | nil => rfl
    | cons first more =>
      have shown : isWhiteSpace first = false := visible (begins first more characters)
      rw [List.dropWhile_cons_of_neg (by rw [shown]; exact Bool.false_ne_true)]
  rw [untrimmed]
  refine ⟨text.toList, [], (List.append_nil _).symm, ?_, ?_⟩
  · have literal := LiteralText.decimal false [] whole fraction point 0 [] .absent decimal pointed
      some .absent
    rwa [List.append_nil, List.nil_append, ← spelled] at literal
  · intro other more denoted split _
    rw [split, List.length_append]
    omega

/-- A numeral is read as its value. -/
theorem Numeral.parsed {places : Nat} {text : String} {amount : ℚ}
    (numeral : Numeral places text amount) : parseFloat text = .finite amount :=
  parseFloat_finite_iff.mpr numeral.leads

/-- Scaled by its places a numeral is a natural number. -/
theorem Numeral.scaled {places : Nat} {text : String} {amount : ℚ}
    (numeral : Numeral places text amount) :
    ∃ units : Nat, (units : ℚ) = amount * 10 ^ places := by
  obtain ⟨whole, fraction, point, _, _, _, _, short, rfl⟩ := numeral
  refine ⟨digitsValue (whole ++ fraction) * 10 ^ (places - fraction.length), ?_⟩
  have power : (10 : ℚ) ^ places = 10 ^ (places - fraction.length) * 10 ^ fraction.length := by
    rw [← pow_add, Nat.sub_add_cancel short]
  have positive : (10 : ℚ) ^ fraction.length ≠ 0 := pow_ne_zero _ (by norm_num)
  have cancelled : ((10 : ℚ) ^ fraction.length)⁻¹ *
      (10 ^ (places - fraction.length) * 10 ^ fraction.length) =
        10 ^ (places - fraction.length) := by
    rw [mul_comm, mul_assoc, mul_inv_cancel₀ positive, mul_one]
  rw [decimalValue, power, zero_sub, zpow_neg, zpow_natCast, mul_assoc, cancelled]
  push_cast
  rw [one_mul]

end JavaScript
