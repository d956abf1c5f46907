import Hierarchy.Locator.Parse
import Hierarchy.Text.ControlSequence

/-!
# Arguments of the dump command

Arguments are read from left to right.  An option's value may be part of the same argument
or be the next one, and it is settled only when the next argument has turned up: an unknown
option is reported before a bad value in front of it.  After `--` nothing is an option.
-/

set_option autoImplicit false

namespace Hierarchy.Dump

inductive Slot where
  | path
  | fixture
  | overlaps
  | covers
  | json
  | delimiter
  | help
  deriving DecidableEq, Repr

def Slot.label : Slot → String
  | .path => "[LOCATORS]"
  | .fixture => "--fixture <NAME>"
  | .overlaps => "--intersects <LOCATOR>"
  | .covers => "--contains <LOCATOR>"
  | .json => "--json"
  | .delimiter => "--delimiter <DELIMITER>"
  | .help => "--help"

def Slot.ofName? : String → Option Slot
  | "fixture" => some .fixture
  | "intersects" => some .overlaps
  | "contains" => some .covers
  | "json" => some .json
  | "delimiter" => some .delimiter
  | "help" => some .help
  | _ => none

def Slot.ofLetter? : Char → Option Slot
  | 'f' => some .fixture
  | 'i' => some .overlaps
  | 'c' => some .covers
  | 'd' => some .delimiter
  | 'h' => some .help
  | _ => none

def Slot.takesValue : Slot → Bool
  | .json | .help => false
  | .path | .fixture | .overlaps | .covers | .delimiter => true

inductive UsageError where
  | nothingToRead
  | unexpectedArgument (argument : String)
  | missingValue (slot : Slot)
  | unexpectedValue (value : String) (slot : Slot)
  | invalidValue (value : String) (slot : Slot) (cause : InvalidLocator)
  | repeated (slot : Slot)
  deriving DecidableEq, Repr

/-- What was given, as it is shown again: a terminal must not obey it. -/
def echo (argument : String) : String := String.ofList (Text.plain argument.toList)

def UsageError.message : UsageError → String
  | .nothingToRead => "Provide a locator list path or --fixture <name>"
  | .unexpectedArgument argument => s!"error: unexpected argument '{echo argument}' found"
  | .missingValue slot =>
      s!"error: a value is required for '{slot.label}' but none was supplied"
  | .unexpectedValue value slot =>
      s!"error: unexpected value '{echo value}' for '{slot.label}' found; no more were expected"
  | .invalidValue value slot cause =>
      s!"error: invalid value '{echo value}' for '{slot.label}': {cause.message}"
  | .repeated slot =>
      s!"error: the argument '{slot.label}' cannot be used multiple times"

structure Options where
  path? : Option String
  fixture? : Option String
  /-- Locators to check for an overlap, in their order on the command line. -/
  overlaps : List (Locator String)
  /-- Locators to check for being covered, in their order on the command line. -/
  covers : List (Locator String)
  json : Bool
  delimiter? : Option String
  deriving DecidableEq, Repr

def Options.none : Options := ⟨.none, .none, [], [], false, .none⟩

def Options.delimiter (o : Options) : String := o.delimiter?.getD "/"

namespace Arguments

inductive Pending where
  | nothing
  /-- An option that still waits for its value. -/
  | wanted (slot : Slot)
  | given (slot : Slot) (value : String)
  deriving DecidableEq, Repr

structure Progress where
  options : Options
  pending : Pending
  /-- Has the path turned up? -/
  hasPath : Bool
  /-- Are options over? -/
  onlyPaths : Bool
  deriving DecidableEq, Repr

def Progress.start : Progress := ⟨.none, .nothing, false, false⟩

inductive Stop where
  | help
  | usage (e : UsageError)
  deriving DecidableEq, Repr

def locatorOf (slot : Slot) (value : String) : Except Stop (Locator String) :=
  match Locator.parse value with
  | .ok l => .ok l
  | .error cause => .error (.usage (.invalidValue value slot cause))

def assign (o : Options) (slot : Slot) (value : String) : Except Stop Options :=
  match slot with
  | .path =>
      if value.isEmpty then .error (.usage (.missingValue .path))
      else .ok { o with path? := some value }
  | .fixture =>
      if o.fixture?.isSome then .error (.usage (.repeated .fixture))
      else .ok { o with fixture? := some value }
  | .overlaps => do
      let l ← locatorOf slot value
      return { o with overlaps := o.overlaps ++ [l] }
  | .covers => do
      let l ← locatorOf slot value
      return { o with covers := o.covers ++ [l] }
  | .delimiter =>
      if o.delimiter?.isSome then .error (.usage (.repeated .delimiter))
      else .ok { o with delimiter? := some value }
  | .json =>
      if o.json then .error (.usage (.repeated .json)) else .ok { o with json := true }
  | .help => .error .help

def settle (p : Progress) : Except Stop Progress :=
  match p.pending with
  | .nothing => .ok p
  | .wanted slot => .error (.usage (.missingValue slot))
  | .given slot value => do
      let options ← assign p.options slot value
      return { p with options, pending := .nothing }

def follow (p : Progress) (next : Pending) : Except Stop Progress := do
  let p ← settle p
  return { p with pending := next }

def takeOption (p : Progress) (slot : Slot) (value? : Option String) :
    Except Stop Progress :=
  match value? with
  | some value =>
      if slot.takesValue then do
        let p ← follow p (.given slot value)
        settle p
      else .error (.usage (.unexpectedValue value slot))
  | none =>
      if slot.takesValue then follow p (.wanted slot)
      else do
        let p ← follow p (.given slot "")
        settle p

def splitAtEquals (cs : List Char) : List Char × Option (List Char) :=
  match cs.dropWhile (· ≠ '=') with
  | [] => (cs, none)
  | _ :: value => (cs.takeWhile (· ≠ '='), some value)

def takeLong (p : Progress) (body : List Char) : Except Stop Progress :=
  let (name, value?) := splitAtEquals body
  match Slot.ofName? (String.ofList name) with
  | some slot => takeOption p slot (value?.map String.ofList)
  | none => .error (.usage (.unexpectedArgument ("--" ++ String.ofList name)))

def takeShort (p : Progress) (letter : Char) (rest : List Char) : Except Stop Progress :=
  match Slot.ofLetter? letter with
  | some slot =>
      if slot.takesValue then
        match rest with
        | [] => takeOption p slot none
        | '=' :: value => takeOption p slot (some (String.ofList value))
        | value => takeOption p slot (some (String.ofList value))
      else takeOption p slot none
  | none => .error (.usage (.unexpectedArgument ("-" ++ String.ofList [letter])))

def takeValue (p : Progress) (argument : String) : Except Stop Progress :=
  match p.pending, p.onlyPaths with
  | .wanted slot, false => .ok { p with pending := .given slot argument }
  | _, _ =>
      if p.hasPath then .error (.usage (.unexpectedArgument argument))
      else do
        let p ← follow p (.given .path argument)
        return { p with hasPath := true }

def take (p : Progress) (argument : String) : Except Stop Progress :=
  if p.onlyPaths then takeValue p argument
  else
    match argument.toList with
    | ['-', '-'] => .ok { p with onlyPaths := true }
    | '-' :: '-' :: body => takeLong p body
    | '-' :: letter :: rest => takeShort p letter rest
    | _ => takeValue p argument

def read (arguments : List String) : Except Stop Options := do
  let p ← arguments.foldlM take .start
  let p ← settle p
  return p.options

end Arguments

end Hierarchy.Dump
