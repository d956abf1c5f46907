import Hierarchy.Json.Value
import Hierarchy.Locator.Basic
import Hierarchy.Text.Quoted

/-!
# Writing locators

The text of a locator joins the tokens by a delimiter, which is a slash in its plain text
(`display_eq_delimited`), and the inspection lists them quoted.  As JSON a locator is the
list of its tokens, and several locators are a list of such lists.
-/

set_option autoImplicit false

namespace Hierarchy

/-! ## Tokens -/

class Token (α : Type) where
  text : α → List Char
  /-- The token so written that it can be told from any other. -/
  inspect : α → List Char

instance : Token String where
  text s := s.toList
  inspect s := Text.quote s.toList

instance : Token Int64 where
  text n := (toString n.toInt).toList
  inspect n := (toString n.toInt).toList

namespace Locator

section Text

variable {α : Type} [Token α]

/-! ## Text -/

def join (delimiter : List Char) (l : Locator α) : List Char :=
  List.intercalate delimiter (l.tokens.map Token.text)

def delimited (l : Locator α) (delimiter : String) : String :=
  String.ofList (l.join delimiter.toList)

/-- Tokens of which the first has the given number, with a slash before each but number 0. -/
def shownFrom (number : Nat) : List α → List Char
  | [] => []
  | token :: rest =>
      (if 0 < number then ['/'] else []) ++ Token.text token ++ shownFrom (number + 1) rest

def shown (l : Locator α) : List Char := shownFrom 0 l.tokens

def display (l : Locator α) : String := String.ofList l.shown

theorem append_shownFrom (front : List Char) {number : Nat} (later : 0 < number)
    (tokens : List α) :
    front ++ shownFrom number tokens =
      List.intercalate ['/'] (front :: tokens.map Token.text) := by
  induction tokens generalizing front number with
  | nil => rw [shownFrom, List.append_nil, List.map_nil, List.intercalate_singleton]
  | cons token rest ih =>
      rw [shownFrom, if_pos later, List.append_assoc, ih _ (Nat.succ_pos number), List.map_cons,
        List.intercalate_cons_cons, List.append_assoc]

theorem shown_eq_join (l : Locator α) : l.shown = l.join ['/'] := by
  obtain ⟨tokens⟩ := l
  cases tokens with
  | nil => rfl
  | cons token rest =>
      -- nothing goes before the first token, and a slash before each of the others
      rw [shown, shownFrom, if_neg (Nat.lt_irrefl 0), List.nil_append,
        append_shownFrom _ (Nat.succ_pos 0), join, List.map_cons]

theorem display_eq_delimited (l : Locator α) : l.display = l.delimited "/" := by
  rw [display, delimited, shown_eq_join]
  rfl

def inspectAt (style : Text.Layout) (depth : Nat) (l : Locator α) : List Char :=
  style.bracket depth "Locator[".toList [']'] (l.tokens.map Token.inspect)

def inspect (l : Locator α) (style : Text.Layout) : String :=
  String.ofList (l.inspectAt style 0)

end Text

section Json

variable {α : Type} [Json.Codec α]

/-! ## JSON -/

def writeJson (style : Text.Layout) (depth : Nat) (l : Locator α) : List Char :=
  Json.writeList style depth (l.tokens.map Json.Codec.write)

def toJson (l : Locator α) (style : Text.Layout) : String :=
  String.ofList (l.writeJson style 0)

def writeJsonList (style : Text.Layout) (ls : List (Locator α)) : List Char :=
  Json.writeList style 0 (ls.map (·.writeJson style 1))

def jsonReader : Json.Reader (Locator α) :=
  (Json.list Json.Codec.reader).map (⟨·⟩)

def jsonListReader : Json.Reader (List (Locator α)) := Json.list jsonReader

def ofJson (s : String) : Except Json.Failure (Locator α) :=
  jsonReader.readAll s.toList

end Json

end Locator

end Hierarchy
