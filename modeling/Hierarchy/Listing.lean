import Hierarchy.Region.Edit
import Hierarchy.Locator.Parse
import Hierarchy.Text.Lines

/-!
# Listings

A listing is a text with at most one locator to the line.  Spaces and tabs around it do not
count, and a hash starts a comment.  Reading stops at the first line that is anything else
and reports it; blank lines and comments count towards line numbers.
-/

set_option autoImplicit false

namespace Hierarchy.Listing

def isSpacing (c : Char) : Bool := c == ' ' || c == '\t'

def isLineRest : List Char → Bool
  | [] => true
  | c :: _ => c == '#'

/-- What a line holds: perhaps a locator.  `none` if the line is not well formed. -/
def parseLine (line : List Char) : Option (Option (Locator String)) :=
  let body := line.dropWhile isSpacing
  match Locator.read? body with
  | some (l, rest) => if isLineRest (rest.dropWhile isSpacing) then some (some l) else none
  | none => if isLineRest body then some none else none

def parseLines (number : Nat) : List (List Char) → Except InvalidLocator (List (Locator String))
  | [] => .ok []
  | line :: rest =>
      match parseLine line with
      | none => .error ⟨number, String.ofList (Text.trim line)⟩
      | some found =>
          match parseLines (number + 1) rest with
          | .error e => .error e
          | .ok more => .ok (found.toList ++ more)

def parseChars (cs : List Char) : Except InvalidLocator (List (Locator String)) :=
  parseLines 1 (Text.lines cs)

def parse (s : String) : Except InvalidLocator (List (Locator String)) :=
  parseChars s.toList

def parseRegion (s : String) : Except InvalidLocator (Region String) :=
  (parse s).map Region.ofList

def parsing (s : String) (ls : List (Locator String)) : Event :=
  .parsed ls.length (Text.lines s.toList).length

end Hierarchy.Listing
