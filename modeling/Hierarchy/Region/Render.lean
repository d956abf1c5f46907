import Hierarchy.Locator.Render
import Hierarchy.Region.Edit

/-!
# Writing regions

A region is shown as the list of its members in braces.  The root is written `/` there, so
that a region holding everything looks different from one holding nothing.  As JSON a
region is the list of its members too, and any list of locators can be read as a region,
the one they cover together.
-/

set_option autoImplicit false

namespace Hierarchy.Region

section Text

variable {α : Type} [Token α]

/-! ## Text -/

def memberText (l : Locator α) : List Char :=
  if l.isRoot then ['/'] else l.shown

def display (r : Region α) : String :=
  String.ofList
    ('\x7b' :: List.intercalate [',', ' '] (r.toList.map memberText) ++ ['\x7d'])

def inspect (r : Region α) (style : Text.Layout) : String :=
  String.ofList (style.bracket 0 ['\x7b'] ['\x7d'] (r.toList.map (·.inspectAt style 1)))

end Text

section Json

variable {α : Type} [Json.Codec α]

/-! ## JSON -/

def toJson (r : Region α) (style : Text.Layout) : String :=
  String.ofList (Locator.writeJsonList style r.toList)

variable [DecidableEq α] [Ord α]

def jsonReader : Json.Reader (Region α) :=
  Locator.jsonListReader.map ofList

def ofJson (s : String) : Except Json.Failure (Region α) :=
  jsonReader.readAll s.toList

/-- The reports on reading a region: its locators are flattened as soon as their list has
been read, whatever may follow it. -/
def ofJsonEvents (α : Type) [Json.Codec α] [DecidableEq α] [Ord α] (s : String) :
    List Event :=
  match (Locator.jsonListReader (α := α)).front? s.toList with
  | some ls => [flattening ls]
  | none => []

end Json

end Hierarchy.Region
