import Std

/-!
# JSON values and `JSON.parse`

The parser works in two passes, each a fold that is structural in its input. A
lexer reads one character at a time and emits tokens; a push-down machine reads
one token at a time, keeping the enclosing arrays and objects on a stack. The
accepted grammar is that of ECMAScript: only space, tab, line feed and carriage
return separate tokens, numbers have no leading zero and no bare point, control
characters in strings are refused, and the last of two equal keys wins.

Text is a sequence of Unicode scalar values. An escaped surrogate pair denotes
one scalar value; an unpaired surrogate escape, which has none, is replaced by
U+FFFD, as happens to it whenever it leaves the runtime as UTF-8.
-/

namespace JavaScript

/-- A parsed value. A number is its exact decimal value, `mantissa * 10 ^ exponent`;
an object keeps its fields in the order of the text, repeated keys included. -/
inductive Json where
  | null
  | boolean (value : Bool)
  | number (mantissa exponent : Int)
  | string (value : String)
  | array (items : List Json)
  | object (fields : List (String × Json))

namespace Json

/-- A number literal yields zero when it lies closer to zero than to the least
positive double, `2 ^ -1074`; the tie rounds to even, that is, to zero. -/
def roundsToZero (mantissa exponent : Int) : Bool :=
  mantissa == 0 || (exponent < 0 && mantissa.natAbs * Nat.pow 2 1075 ≤ Nat.pow 10 exponent.natAbs)

/-- The Boolean coercion of a value; an absent one is `undefined`. -/
def truthy : Option Json → Bool
  | none => false
  | some .null => false
  | some (.boolean value) => value
  | some (.number mantissa exponent) => !roundsToZero mantissa exponent
  | some (.string value) => value ≠ ""
  | some (.array _) => true
  | some (.object _) => true

/-- The own field of an object under a key: the last one written. -/
def field (fields : List (String × Json)) (key : String) : Option Json :=
  fields.reverse.lookup key

inductive Token where
  | leftBrace
  | rightBrace
  | leftBracket
  | rightBracket
  | colon
  | comma
  | literal (value : Json)

/-- Two escaped surrogates in sequence form one scalar value. -/
def joinSurrogates (high low : Nat) : Nat :=
  0x10000 + (high - 0xD800) * 0x400 + (low - 0xDC00)

def isHigh (unit : Nat) : Bool := 0xD800 ≤ unit && unit < 0xDC00

def isLow (unit : Nat) : Bool := 0xDC00 ≤ unit && unit < 0xE000

/-- A scalar value as a character; a lone surrogate becomes U+FFFD. -/
def scalar (unit : Nat) : Char :=
  if isHigh unit || isLow unit then Char.ofNat 0xFFFD else Char.ofNat unit

/-- The characters denoted by scalar values and escaped UTF-16 code units. -/
def decodeUnits : List Nat → List Char
  | [] => []
  | high :: low :: rest =>
    if isHigh high && isLow low then Char.ofNat (joinSurrogates high low) :: decodeUnits rest
    else scalar high :: decodeUnits (low :: rest)
  | [unit] => [scalar unit]

/-- The value of decimal digits, most significant first. -/
def decimal (digits : List Char) : Nat :=
  digits.foldl (fun value digit => 10 * value + (digit.toNat - '0'.toNat)) 0

/-- Digits after a mandatory first one: `none` if there is none. -/
def someDigits (text : List Char) : Option (List Char × List Char) :=
  let digits := text.takeWhile Char.isDigit
  if digits.isEmpty then none else some (digits, text.dropWhile Char.isDigit)

/-- The integer part admits no leading zero. -/
def integerPart (text : List Char) : Option (List Char × List Char) := do
  let (digits, rest) ← someDigits text
  if digits.head? = some '0' && digits.length ≠ 1 then none else some (digits, rest)

def fractionPart : List Char → Option (List Char × List Char)
  | '.' :: rest => someDigits rest
  | rest => some ([], rest)

def exponentPart : List Char → Option Int
  | [] => some 0
  | letter :: rest =>
    if letter = 'e' || letter = 'E' then
      let (negative, digits) := match rest with
        | '-' :: digits => (true, digits)
        | '+' :: digits => (false, digits)
        | digits => (false, digits)
      match someDigits digits with
      | some (digits, []) => some (if negative then -(decimal digits : Int) else decimal digits)
      | _ => none
    else none

/-- A complete number literal, or none if the characters do not form one. -/
def numberLiteral (text : List Char) : Option Json := do
  let (negative, unsigned) := match text with
    | '-' :: unsigned => (true, unsigned)
    | unsigned => (false, unsigned)
  let (integer, rest) ← integerPart unsigned
  let (fraction, rest) ← fractionPart rest
  let exponent ← exponentPart rest
  let magnitude : Int := decimal (integer ++ fraction)
  some (.number (if negative then -magnitude else magnitude) (exponent - fraction.length))

def wordLiteral (letters : List Char) : Option Json :=
  if letters = "null".toList then some .null
  else if letters = "true".toList then some (.boolean true)
  else if letters = "false".toList then some (.boolean false)
  else none

/-- Where the lexer stands between two characters. Texts are kept reversed. -/
inductive Lexer where
  | between
  | word (letters : List Char)
  | digits (characters : List Char)
  | text (units : List Nat)
  | escape (units : List Nat)
  | unicode (units : List Nat) (value count : Nat)

def isSpace (character : Char) : Bool :=
  character = ' ' || character = '\t' || character = '\n' || character = '\r'

def isNumeric (character : Char) : Bool :=
  character.isDigit || character = '-' || character = '+' || character = '.' ||
    character = 'e' || character = 'E'

def hexDigit (character : Char) : Option Nat :=
  if character.isDigit then some (character.toNat - '0'.toNat)
  else if 'a' ≤ character && character ≤ 'f' then some (character.toNat - 'a'.toNat + 10)
  else if 'A' ≤ character && character ≤ 'F' then some (character.toNat - 'A'.toNat + 10)
  else none

/-- The unit a one-letter escape stands for. -/
def simpleEscape (character : Char) : Option Nat :=
  match character with
  | '"' => some 0x22
  | '\\' => some 0x5C
  | '/' => some 0x2F
  | 'b' => some 0x08
  | 'f' => some 0x0C
  | 'n' => some 0x0A
  | 'r' => some 0x0D
  | 't' => some 0x09
  | _ => none

/-- A character outside any literal: it starts one, is a token or is skipped. -/
def startToken (character : Char) (tokens : List Token) : Option (Lexer × List Token) :=
  if isSpace character then some (.between, tokens)
  else match character with
    | '\x7b' => some (.between, .leftBrace :: tokens)
    | '\x7d' => some (.between, .rightBrace :: tokens)
    | '[' => some (.between, .leftBracket :: tokens)
    | ']' => some (.between, .rightBracket :: tokens)
    | ':' => some (.between, .colon :: tokens)
    | ',' => some (.between, .comma :: tokens)
    | '"' => some (.text [], tokens)
    | _ =>
      if character.isDigit || character = '-' then some (.digits [character], tokens)
      else if character.isLower then some (.word [character], tokens)
      else none

/-- Read one character. Numbers and words end at the first foreign character,
which is then read as the start of the next token. -/
def lexStep : Lexer × List Token → Char → Option (Lexer × List Token)
  | (.between, tokens), character => startToken character tokens
  | (.word letters, tokens), character =>
    if character.isLower then some (.word (character :: letters), tokens)
    else do startToken character (.literal (← wordLiteral letters.reverse) :: tokens)
  | (.digits characters, tokens), character =>
    if isNumeric character then some (.digits (character :: characters), tokens)
    else do startToken character (.literal (← numberLiteral characters.reverse) :: tokens)
  | (.text units, tokens), character =>
    if character = '"' then
      some (.between, .literal (.string (String.ofList (decodeUnits units.reverse))) :: tokens)
    else if character = '\\' then some (.escape units, tokens)
    else if character.toNat < 0x20 then none
    else some (.text (character.toNat :: units), tokens)
  | (.escape units, tokens), character =>
    if character = 'u' then some (.unicode units 0 0, tokens)
    else (simpleEscape character).map (fun unit => (.text (unit :: units), tokens))
  | (.unicode units value count, tokens), character => do
    let unit := 16 * value + (← hexDigit character)
    if count = 3 then some (.text (unit :: units), tokens)
    else some (.unicode units unit (count + 1), tokens)

/-- At the end of the text a word or number is complete; a string is not. -/
def lexEnd : Lexer × List Token → Option (List Token)
  | (.between, tokens) => some tokens.reverse
  | (.word letters, tokens) => do some (.literal (← wordLiteral letters.reverse) :: tokens).reverse
  | (.digits characters, tokens) => do
    some (.literal (← numberLiteral characters.reverse) :: tokens).reverse
  | _ => none

/-- All tokens of a text, or none if some part of it is no token. -/
def tokenize (text : List Char) : Option (List Token) := do
  lexEnd (← text.foldlM lexStep (.between, []))

/-- An enclosing array or object whose next value is being read. Its earlier
items or fields are kept reversed. -/
inductive Frame where
  | array (items : List Json)
  | object (fields : List (String × Json)) (key : String)

/-- What the machine may read next, inside the enclosing frames. -/
inductive Reader where
  | value (stack : List Frame)
  | firstItem (stack : List Frame)
  | firstKey (stack : List Frame)
  | nextKey (fields : List (String × Json)) (stack : List Frame)
  | colon (fields : List (String × Json)) (key : String) (stack : List Frame)
  | afterItem (items : List Json) (stack : List Frame)
  | afterField (fields : List (String × Json)) (stack : List Frame)
  | finished (value : Json)

/-- A complete value returns to the frame around it. -/
def reduce (value : Json) : List Frame → Reader
  | [] => .finished value
  | .array items :: stack => .afterItem (value :: items) stack
  | .object fields key :: stack => .afterField ((key, value) :: fields) stack

def readValue (stack : List Frame) : Token → Option Reader
  | .literal value => some (reduce value stack)
  | .leftBracket => some (.firstItem stack)
  | .leftBrace => some (.firstKey stack)
  | _ => none

def readStep : Reader → Token → Option Reader
  | .value stack, token => readValue stack token
  | .firstItem stack, .rightBracket => some (reduce (.array []) stack)
  | .firstItem stack, token => readValue (.array [] :: stack) token
  | .firstKey stack, .rightBrace => some (reduce (.object []) stack)
  | .firstKey stack, .literal (.string key) => some (.colon [] key stack)
  | .nextKey fields stack, .literal (.string key) => some (.colon fields key stack)
  | .colon fields key stack, .colon => some (.value (.object fields key :: stack))
  | .afterItem items stack, .comma => some (.value (.array items :: stack))
  | .afterItem items stack, .rightBracket => some (reduce (.array items.reverse) stack)
  | .afterField fields stack, .comma => some (.nextKey fields stack)
  | .afterField fields stack, .rightBrace => some (reduce (.object fields.reverse) stack)
  | _, _ => none

/-- `JSON.parse`: none stands for the `SyntaxError` it throws. -/
def parse (text : String) : Option Json := do
  match ← (← tokenize text.toList).foldlM readStep (.value []) with
  | .finished value => some value
  | _ => none

end Json

end JavaScript
