import EvDashboard.JavaScript.Json

/-!
# The runtime operations applied to parsed messages

Reading a field, splitting a string and concatenating an element that may be
missing are the partial operations applied to a parsed value. Field access
throws on `null` alone; a method call throws on every value that lacks the
method, and no parsed value but a string has `split`.
-/

namespace JavaScript

/-- What synchronous code throws, or an awaited call rejects with. -/
inductive Exception where
  | syntaxError
  | typeError
  | error (message : String)
deriving DecidableEq

/-- What synchronous code returned passed through its first step. -/
theorem returned_through {α β : Type} {first : Except Exception α}
    {next : α → Except Exception β} {result : β} (returned : (first >>= next) = .ok result) :
    ∃ value, first = .ok value ∧ next value = .ok result := by
  cases first with
  | error exception => cases returned
  | ok value => exact ⟨value, rfl, returned⟩

/-- `JSON.parse` throws a `SyntaxError` on a text that is not JSON. -/
def parseJson (text : String) : Except Exception Json :=
  match Json.parse text with
  | some value => .ok value
  | none => .error .syntaxError

/-- `value.key`, for a key that no built-in prototype defines: `undefined` on
every value without such a field, and a `TypeError` on `null`. -/
def property (value : Json) (key : String) : Except Exception (Option Json) :=
  match value with
  | .null => .error .typeError
  | .object fields => .ok (Json.field fields key)
  | _ => .ok none

/-- The parts between the separators, empty ones included. -/
def splitText (text : String) (separator : Char) : List String :=
  (text.toList.splitOn separator).map String.ofList

/-- `value.split(separator)`: only a string has the method. -/
def split (value : Option Json) (separator : Char) : Except Exception (List String) :=
  match value with
  | some (.string text) => .ok (splitText text separator)
  | _ => .error .typeError

/-- An element as it appears in a concatenation; a missing one reads `undefined`. -/
def element (parts : List String) (index : Nat) : String := parts[index]?.getD "undefined"

/-- Splitting after a separator-free part yields that part first. -/
theorem splitText_cons (separator : Char) (first rest : String)
    (free : separator ∉ first.toList) :
    splitText (first ++ (String.singleton separator ++ rest)) separator =
      first :: splitText rest separator := by
  have characters : (first ++ (String.singleton separator ++ rest)).toList =
      first.toList ++ separator :: rest.toList := by
    simp only [String.toList_append, String.toList_singleton, List.cons_append, List.nil_append]
  rw [splitText, characters, List.splitOn_append_cons_self_of_not_mem free]
  simp only [splitText, List.map_cons, String.ofList_toList]

/-- A text without the separator is its own only part. -/
theorem splitText_single (separator : Char) (text : String) (free : separator ∉ text.toList) :
    splitText text separator = [text] := by
  rw [splitText, List.splitOn_eq_singleton free]
  simp only [List.map_cons, List.map_nil, String.ofList_toList]

end JavaScript
