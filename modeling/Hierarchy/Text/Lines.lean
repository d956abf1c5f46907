/-!
# Blanks, lines and layouts

The White_Space property of Unicode, and taking such characters off both ends of a text.

A line ends at a line feed, or at a carriage return that a line feed follows.  A carriage
return of its own is an ordinary character.  What follows the last line end is a line too,
unless it is empty, so the empty text has no lines.

A list of items between brackets is laid out on one line or over several.  Over several lines
every item has a line of its own, indented by its depth, and the closing bracket stands as
deep as the line that opened the list.  An empty list is just its brackets.
-/

set_option autoImplicit false

namespace Hierarchy.Text

/-! ## Blanks -/

/-- The White_Space property. -/
def isBlank (c : Char) : Bool :=
  let n := c.toNat
  (0x09 ≤ n && n ≤ 0x0d) || n == 0x20 || n == 0x85 || n == 0xa0 || n == 0x1680 ||
    (0x2000 ≤ n && n ≤ 0x200a) || n == 0x2028 || n == 0x2029 || n == 0x202f ||
    n == 0x205f || n == 0x3000

/-- The characters from the first to the last that is not dropped by `p`. -/
def stripEnds (p : Char → Bool) (cs : List Char) : List Char :=
  ((cs.dropWhile p).reverse.dropWhile p).reverse

def trim (cs : List Char) : List Char := stripEnds isBlank cs

theorem dropWhile_eq_self {p : Char → Bool} {cs : List Char}
    (first : ∀ c, cs.head? = some c → p c = false) : cs.dropWhile p = cs := by
  cases cs with
  | nil => rfl
  | cons c cs => exact List.dropWhile_cons_of_neg (by simp [first c rfl])

theorem stripEnds_eq_self_of_ends {p : Char → Bool} {cs : List Char}
    (first : ∀ c, cs.head? = some c → p c = false)
    (last : ∀ c, cs.getLast? = some c → p c = false) : stripEnds p cs = cs := by
  rw [← List.head?_reverse] at last
  rw [stripEnds, dropWhile_eq_self first, dropWhile_eq_self last, List.reverse_reverse]

theorem stripEnds_eq_self {p : Char → Bool} {cs : List Char} (none : ∀ c ∈ cs, p c = false) :
    stripEnds p cs = cs := by
  apply stripEnds_eq_self_of_ends
  · intro c first
    exact none c (List.mem_of_head? first)
  · intro c last
    exact none c (List.mem_of_getLast? last)

theorem stripEnds_append {p : Char → Bool} {front back : List Char} (cs : List Char)
    (before : ∀ c ∈ front, p c = true) (behind : ∀ c ∈ back, p c = true) :
    stripEnds p (front ++ (cs ++ back)) = stripEnds p cs := by
  have gone : back.dropWhile p = [] := by
    rw [← List.append_nil back, List.dropWhile_append_of_pos behind]
    rfl
  have goneReversed : ∀ c ∈ back.reverse, p c = true := by simpa using behind
  rw [stripEnds, stripEnds, List.dropWhile_append_of_pos before, List.dropWhile_append]
  by_cases empty : (cs.dropWhile p).isEmpty = true
  · rw [if_pos empty, gone, List.isEmpty_iff.1 empty]
  · rw [if_neg empty, List.reverse_append, List.dropWhile_append_of_pos goneReversed]

/-- What is stripped off stood at the ends. -/
theorem exists_eq_append_stripEnds (p : Char → Bool) (cs : List Char) :
    ∃ front back, cs = front ++ (stripEnds p cs ++ back) ∧ (∀ c ∈ front, p c = true) ∧
      ∀ c ∈ back, p c = true := by
  refine ⟨cs.takeWhile p, ((cs.dropWhile p).reverse.takeWhile p).reverse, ?_, ?_, ?_⟩
  · rw [stripEnds, ← List.reverse_append, List.takeWhile_append_dropWhile, List.reverse_reverse,
      List.takeWhile_append_dropWhile]
  · intro c inside
    exact List.all_eq_true.1 List.all_takeWhile c inside
  · intro c inside
    exact List.all_eq_true.1 List.all_takeWhile c (List.mem_reverse.1 inside)

/-! ## Lines -/

def prependToLine (c : Char) : List (List Char) → List (List Char)
  | [] => [[c]]
  | line :: rest => (c :: line) :: rest

def lines : List Char → List (List Char)
  | [] => []
  | '\r' :: '\n' :: rest => [] :: lines rest
  | c :: rest => if c = '\n' then [] :: lines rest else prependToLine c (lines rest)

def unlines (texts : List String) : String := String.join (texts.map (· ++ "\n"))

example : lines "a\nb\r\n\nc".toList = ["a".toList, "b".toList, [], "c".toList] := by
  decide

example : lines "a\rb\r\r\nc\r".toList = ["a\rb\r".toList, "c\r".toList] := by
  decide

/-! ## Layouts -/

structure Layout where
  /-- Between two items. -/
  separator : List Char
  /-- Spaces per level, if every item has a line of its own. -/
  indent? : Option Nat
  /-- After the last item. -/
  final : List Char
  deriving DecidableEq, Repr

namespace Layout

def inspect : Layout := ⟨[',', ' '], none, []⟩

def inspectTall : Layout := ⟨[','], some 4, [',']⟩

def lineBreak (style : Layout) (depth : Nat) : List Char :=
  match style.indent? with
  | none => []
  | some width => '\n' :: List.replicate (width * depth) ' '

def items (style : Layout) (depth : Nat) : List (List Char) → List Char
  | [] => []
  | [last] => style.lineBreak depth ++ last
  | item :: rest =>
      style.lineBreak depth ++ item ++ style.separator ++ style.items depth rest

def bracket (style : Layout) (depth : Nat) (opening closing : List Char)
    (content : List (List Char)) : List Char :=
  if content.isEmpty then opening ++ closing
  else
    opening ++ style.items (depth + 1) content ++ style.final ++ style.lineBreak depth ++
      closing

end Layout

end Hierarchy.Text
