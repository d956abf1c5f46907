/-!
# Control sequences

A text may hold sequences that a terminal obeys and does not show: an escape character and
what belongs to it.  `plain` is the text without them, and without the control characters
that lay out nothing.

A blank control character shows wherever a sequence could still be interrupted, and so does
all that follows it, until a character comes that does not show: there the sequence goes on.
What is left is in the order of the text (`plain_sublist`), and a text of characters that
show is left as it is (`plain_eq_self`).
-/

set_option autoImplicit false

namespace Hierarchy.Text

namespace ControlSequence

inductive Reading where
  /-- No sequence is open. -/
  | outside
  /-- The escape character has been read. -/
  | escape
  /-- An escape sequence, up to its final character. -/
  | escapeIntermediate
  /-- A sequence that `ESC [` opens, up to its final character. -/
  | control
  /-- A device string, which `ESC P` opens. -/
  | device
  /-- A device string in its parameters. -/
  | deviceParameters
  /-- A device string in its intermediate characters. -/
  | deviceIntermediate
  /-- The body of a string that a string terminator ends. -/
  | body
  /-- A command to the system, which `ESC ]` opens and a bell ends. -/
  | command
  deriving DecidableEq, Repr

def isIntermediate (c : Char) : Bool := 0x20 ≤ c.toNat && c.toNat < 0x30

def isParameter (c : Char) : Bool := 0x30 ≤ c.toNat && c.toNat < 0x40

/-- Parameters of this kind come first or not at all. -/
def isPrivateParameter (c : Char) : Bool := 0x3c ≤ c.toNat && c.toNat < 0x40

def isFinal (c : Char) : Bool := 0x40 ≤ c.toNat && c.toNat < 0x7f

/-- The string terminator is the byte 0x9c, also where it is part of a character. -/
def holdsTerminator (c : Char) : Bool := (String.utf8EncodeChar c).contains 0x9c

def Reading.advance (c : Char) : Reading → Reading
  | .outside => .outside
  | .escape =>
      match c with
      | '[' => .control
      | ']' => .command
      | 'P' => .device
      | 'X' | '^' | '_' => .body
      | c =>
          if isIntermediate c then .escapeIntermediate
          else if isParameter c || isFinal c then .outside
          else .escape
  | .escapeIntermediate =>
      if isParameter c || isFinal c then .outside else .escapeIntermediate
  | .control => if isFinal c then .outside else .control
  | .device =>
      if isIntermediate c then .deviceIntermediate
      else if isParameter c then .deviceParameters
      else if isFinal c then .body
      else .device
  | .deviceParameters =>
      if isIntermediate c then .deviceIntermediate
      else if isPrivateParameter c || isFinal c then .body
      else .deviceParameters
  | .deviceIntermediate =>
      if isParameter c || isFinal c then .body else .deviceIntermediate
  | .body => if holdsTerminator c then .outside else .body
  | .command => if c = '\x07' then .outside else .command

/-- An escape character opens a sequence anywhere, and two control characters give up the one
that is open. -/
def Reading.next (r : Reading) (c : Char) : Reading :=
  if c = '\x1b' then .escape
  else if c = '\x18' || c = '\x1a' then .outside
  else r.advance c

def isBlankControl (c : Char) : Bool := c == '\t' || c == '\n' || c == '\x0c' || c == '\r'

def Reading.shows (r : Reading) (c : Char) : Bool :=
  match r with
  | .outside => (0x20 ≤ c.toNat && c != '\x7f') || isBlankControl c
  | .escape | .escapeIntermediate | .control => isBlankControl c
  | .device | .deviceParameters | .deviceIntermediate | .body | .command => false

/-- What shows, from some point on.  While characters show, a sequence that is still open
waits for the next one that does not, or is given up at one beyond ASCII. -/
def plainFrom (r : Reading) (showing : Bool) : List Char → List Char
  | [] => []
  | c :: rest =>
      if (if showing then Reading.outside else r).shows c then
        c :: plainFrom (if c.toNat < 0x80 then r else .outside) true rest
      else plainFrom (r.next c) false rest

theorem plainFrom_sublist (r : Reading) (showing : Bool) (cs : List Char) :
    (plainFrom r showing cs).Sublist cs := by
  induction cs generalizing r showing with
  | nil => exact List.Sublist.slnil
  | cons c rest ih =>
      unfold plainFrom
      by_cases shown : (if showing then Reading.outside else r).shows c = true
      · rw [if_pos shown]
        exact (ih _ _).cons_cons c
      · rw [if_neg shown]
        exact (ih _ _).cons c

theorem plainFrom_eq_self (showing : Bool) (cs : List Char)
    (shown : ∀ c ∈ cs, Reading.outside.shows c = true) :
    plainFrom .outside showing cs = cs := by
  induction cs generalizing showing with
  | nil => rfl
  | cons c rest ih =>
      have first : Reading.outside.shows c = true := shown c (List.mem_cons_self ..)
      have others : ∀ d ∈ rest, Reading.outside.shows d = true :=
        fun d member => shown d (List.mem_cons_of_mem c member)
      simp [plainFrom, first, ih true others]

end ControlSequence

def plain (cs : List Char) : List Char := ControlSequence.plainFrom .outside false cs

theorem plain_sublist (cs : List Char) : (plain cs).Sublist cs :=
  ControlSequence.plainFrom_sublist .outside false cs

theorem plain_eq_self (cs : List Char)
    (visible : ∀ c ∈ cs, ControlSequence.Reading.outside.shows c = true) : plain cs = cs :=
  ControlSequence.plainFrom_eq_self false cs visible

example : plain "\x1b[38;5;9ma\x1b[0m \x1b]0;t\x07b\x1bPq\x1b\\c".toList = "a bc".toList := by
  decide +kernel

example : plain "a\x1b[1\nb\x01mc".toList = "a\nbc".toList := by decide +kernel

end Hierarchy.Text
