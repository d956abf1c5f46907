import Hierarchy.Locator.Basic
import Hierarchy.Text.Lines
import Hierarchy.Text.Quoted

/-!
# Reading locators

A written locator is a list of names with single slashes between them, and possibly one in
front; a slash alone is the root.  A name is one or more characters other than slash, hash
and blanks.  `read` takes the longest written locator at the front of a text and hands back
the rest, or tells what is missing there; `parse` wants nothing else but blanks around one.
-/

set_option autoImplicit false

namespace Hierarchy

/-- A text that should have been a locator, blanks around it aside, and its line. -/
structure InvalidLocator where
  line : Nat
  text : String
  deriving DecidableEq, Repr

def InvalidLocator.message (e : InvalidLocator) : String :=
  s!"invalid locator on line {e.line}: " ++ Text.quoted e.text

namespace Locator

/-- Slashes separate names, a hash starts a comment, and blanks surround locators. -/
def isNameChar (c : Char) : Bool := c != '/' && c != '#' && !Text.isBlank c

def nameAt (cs : List Char) : List Char := cs.takeWhile isNameChar

def afterName (cs : List Char) : List Char := cs.dropWhile isNameChar

theorem nameAt_append_afterName (cs : List Char) : nameAt cs ++ afterName cs = cs :=
  List.takeWhile_append_dropWhile

theorem length_afterName_le (cs : List Char) : (afterName cs).length ≤ cs.length := by
  have whole := congrArg List.length (nameAt_append_afterName cs)
  rw [List.length_append] at whole
  omega

/-- The names at the front that have a single slash before them, and what follows.  A slash
without a name after it is left. -/
def moreNames (cs : List Char) : List (List Char) × List Char :=
  match cs with
  | '/' :: rest =>
      if (nameAt rest).isEmpty then ([], cs)
      else
        let further := moreNames (afterName rest)
        (nameAt rest :: further.1, further.2)
  | _ => ([], cs)
termination_by cs.length
decreasing_by
  have := length_afterName_le rest
  simp only [List.length_cons]
  omega

def dropSlash : List Char → List Char
  | '/' :: rest => rest
  | cs => cs

inductive Wanted where
  | name
  | slash
  deriving DecidableEq, Repr

structure Missing where
  wanted : Wanted
  rest : List Char
  deriving DecidableEq, Repr

/-- The names at the front, a slash before the first one being optional, and what follows. -/
def readNames (cs : List Char) : Except Missing (Locator String × List Char) :=
  if (nameAt (dropSlash cs)).isEmpty then .error ⟨.name, dropSlash cs⟩
  else
    let further := moreNames (afterName (dropSlash cs))
    .ok (⟨(nameAt (dropSlash cs) :: further.1).map String.ofList⟩, further.2)

def readSlash : List Char → Except Missing (Locator String × List Char)
  | '/' :: rest => .ok (root, rest)
  | cs => .error ⟨.slash, cs⟩

/-- The longest written locator at the front, and what follows it.  A slash alone is tried
last, so that is what a text without a locator lacks. -/
def read (cs : List Char) : Except Missing (Locator String × List Char) :=
  match readNames cs with
  | .ok found => .ok found
  | .error _ => readSlash cs

def read? (cs : List Char) : Option (Locator String × List Char) := (read cs).toOption

/-- The locator that a whole text is, blanks around it aside; the empty text is the root. -/
def parseChars (cs : List Char) : Except InvalidLocator (Locator String) :=
  let body := Text.trim cs
  if body.isEmpty then .ok root
  else
    match read? body with
    | some (l, []) => .ok l
    | _ => .error ⟨1, String.ofList body⟩

def parse (s : String) : Except InvalidLocator (Locator String) := parseChars s.toList

end Locator

end Hierarchy
