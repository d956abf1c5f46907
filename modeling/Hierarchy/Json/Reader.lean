/-!
# Reading values from JSON text

A reader takes one value off the front of a text.  It goes from left to right and reports
the first thing that is wrong: the text is no JSON, or it is JSON but not the value asked
for, or it ends too early.
-/

set_option autoImplicit false

namespace Hierarchy.Json

inductive Failure where
  /-- The text is not JSON, or something follows the value. -/
  | malformed
  /-- There is a value, but of another kind or out of range. -/
  | mismatch
  /-- The text ends before the value does. -/
  | truncated
  deriving DecidableEq, Repr

def isBlank (c : Char) : Bool := c == ' ' || c == '\n' || c == '\t' || c == '\r'

def skipBlanks (cs : List Char) : List Char := cs.dropWhile isBlank

theorem length_skipBlanks_le (cs : List Char) : (skipBlanks cs).length ≤ cs.length :=
  (List.dropWhile_suffix isBlank).length_le

theorem length_lt_of_skipBlanks_eq_cons {cs rest : List Char} {c : Char}
    (split : skipBlanks cs = c :: rest) : rest.length < cs.length := by
  have noLonger := length_skipBlanks_le cs
  rw [split, List.length_cons] at noLonger
  omega

/-- Takes one value off the front of a text, which gets shorter. -/
structure Reader (α : Type) where
  run : List Char → Except Failure (α × List Char)
  shrinks : ∀ {cs : List Char} {value : α} {rest : List Char},
    run cs = .ok (value, rest) → rest.length < cs.length

namespace Reader

variable {α β : Type}

def convert (reader : Reader α) (f : α → Except Failure β) : Reader β where
  run cs :=
    match reader.run cs with
    | .error e => .error e
    | .ok (value, rest) => (f value).map (·, rest)
  shrinks := by
    intro cs value rest success
    cases inner : reader.run cs with
    | error e => simp [inner] at success
    | ok pair =>
        cases converted : f pair.1 with
        | error e => simp [inner, converted, Except.map] at success
        | ok result =>
            simp [inner, converted, Except.map] at success
            exact success.2 ▸ reader.shrinks inner

def map (f : α → β) (reader : Reader α) : Reader β := reader.convert fun x => .ok (f x)

def front? (reader : Reader α) (cs : List Char) : Option α :=
  match reader.run cs with
  | .ok (value, _) => some value
  | .error _ => none

def readAll (reader : Reader α) (cs : List Char) : Except Failure α :=
  match reader.run cs with
  | .error e => .error e
  | .ok (value, rest) => if (skipBlanks rest).isEmpty then .ok value else .error .malformed

theorem readAll_map (f : α → β) (reader : Reader α) (cs : List Char) :
    (reader.map f).readAll cs = (reader.readAll cs).map f := by
  simp only [readAll, map, convert]
  cases reader.run cs with
  | error e => rfl
  | ok pair => by_cases atEnd : (skipBlanks pair.2).isEmpty <;> simp [atEnd, Except.map]

end Reader

end Hierarchy.Json
