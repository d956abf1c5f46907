import Hierarchy.Dump.Arguments
import Hierarchy.Fixtures
import Hierarchy.Listing
import Hierarchy.Locator.Render
import Hierarchy.Region.Render
import Hierarchy.Text.Lines

/-!
# The dump command

The command turns a listing into a region, writes the region out and answers questions
about it.  Everything but reading the file is decided here: from the arguments comes a
`Plan`, and from the contents of the file it names comes the `Outcome`.  How the file is
read is left to whoever performs the plan.  Whether usage is wrong is a matter of the
arguments alone, and nothing is written to the standard output unless all goes well.
-/

set_option autoImplicit false

namespace Hierarchy.Dump

structure Outcome where
  exit : Nat
  stdout : String
  stderr : String
  deriving DecidableEq, Repr

def help : String :=
  Text.unlines [
    "Flatten a locator list into a minimal locator set and dump it",
    "",
    "Usage: locset-dump-bin [OPTIONS] [LOCATORS]",
    "",
    "Arguments:",
    "  [LOCATORS]  Path to a locator list (one `/`-separated locator per line)",
    "",
    "Options:",
    "  -f, --fixture <NAME>         Use a bundled fixture name instead of a path (reads from repo fixtures/)",
    "  -i, --intersects <LOCATOR>   Report whether the set intersects this locator (repeatable)",
    "  -c, --contains <LOCATOR>     Report whether the set covers this locator (repeatable)",
    "      --json                   Print the set as JSON instead of one locator per line",
    "  -d, --delimiter <DELIMITER>  Delimiter used between elements in text output [default: /]",
    "  -h, --help                   Print help"]

inductive Source where
  | bundled (name : String)
  | file (path : String)
  deriving DecidableEq, Repr

/-- The path to read, the bundled listings being in the directory `bundled`. -/
def Source.path (bundled : String) : Source → String
  | .bundled name => pathIn bundled name
  | .file path => path

inductive Plan where
  | done (outcome : Outcome)
  | report (source : Source) (options : Options)

def misuse (e : UsageError) : Outcome := ⟨2, "", e.message ++ "\n"⟩

/-- What the arguments ask for.  A bundled listing goes before a path. -/
def plan (arguments : List String) : Plan :=
  match Arguments.read arguments with
  | .error .help => .done ⟨0, help, ""⟩
  | .error (.usage e) => .done (misuse e)
  | .ok options =>
      match options.fixture?, options.path? with
      | some name, _ => .report (.bundled name) options
      | none, some path => .report (.file path) options
      | none, none => .done (misuse .nothingToRead)

/-! ## Reports -/

/-- A member on its line.  The root has no tokens and is written as a delimiter. -/
def memberLine (delimiter : String) (l : Locator String) : String :=
  if l.isRoot then delimiter else l.delimited delimiter

def dumpText (delimiter : String) (r : Region String) : String :=
  Text.unlines (r.toList.map (memberLine delimiter))

def dump (options : Options) (r : Region String) : String :=
  if options.json then r.toJson Json.tall ++ "\n" else dumpText options.delimiter r

def verdictLine (question : String) (l : Locator String) (answer : Bool) : String :=
  s!"{question} {l.display}: {answer}"

def verdicts (options : Options) (r : Region String) : List String :=
  options.overlaps.map (fun l => verdictLine "intersects" l (r.overlaps l)) ++
    options.covers.map fun l => verdictLine "contains" l (r.covers l)

def report (path : String) (options : Options) (contents : Except ReadError String) :
    Outcome :=
  match contents with
  | .error e => ⟨1, "", s!"failed to read {path}: {e.message}\n"⟩
  | .ok text =>
      match Listing.parseRegion text with
      | .error e => ⟨1, "", s!"Parse error: {e.message}\n"⟩
      | .ok r => ⟨0, dump options r ++ Text.unlines (verdicts options r), ""⟩

/-- The command with `readText` as its way to read a file. -/
def perform {m : Type → Type} [Monad m] (bundled : String)
    (readText : String → m (Except ReadError String)) (arguments : List String) : m Outcome :=
  match plan arguments with
  | .done outcome => return outcome
  | .report source options => do
      let path := source.path bundled
      return report path options (← readText path)

def run (arguments : List String) (files : Files) : Outcome :=
  (perform (m := Id) files.bundled files.readText arguments).run

end Hierarchy.Dump
