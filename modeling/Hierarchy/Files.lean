import Hierarchy.Locator.Basic

/-!
# Files

All that a program learns of files is what reading gives at each path, and `Files` is that
and nothing else.  A tree of directories is one case.  Files and directories are themselves
places in a hierarchy: a directory is a place that some file lies below.  A path is followed
name by name, `.` and `..` included, and the first name that leads nowhere decides what is
reported.
-/

set_option autoImplicit false

namespace Hierarchy

inductive ReadError where
  | missing
  | notDirectory
  | isDirectory
  | nameTooLong
  /-- The bytes are not UTF-8. -/
  | notText
  /-- Any other reason the system gives. -/
  | system (reason : String)
  deriving DecidableEq, Repr

def ReadError.message : ReadError → String
  | .missing => "No such file or directory (os error 2)"
  | .notDirectory => "Not a directory (os error 20)"
  | .isDirectory => "Is a directory (os error 21)"
  | .nameTooLong => "File name too long (os error 36)"
  | .notText => "stream did not contain valid UTF-8"
  | .system reason => reason

def textOfBytes (bytes : ByteArray) : Except ReadError String :=
  match String.fromUTF8? bytes with
  | some text => .ok text
  | none => .error .notText

theorem textOfBytes_eq_ok_iff {bytes : ByteArray} {text : String} :
    textOfBytes bytes = .ok text ↔ bytes = text.toUTF8 := by
  rw [textOfBytes, String.fromUTF8?]
  by_cases valid : bytes.IsValidUTF8
  · rw [dif_pos valid]
    constructor
    · intro same
      cases same
      rfl
    · rintro rfl
      rfl
  · rw [dif_neg valid]
    constructor
    · exact fun failed => nomatch failed
    · rintro rfl
      exact absurd text.isValidUTF8 valid

/-- The path of `name` in a directory; an absolute name stands for itself. -/
def pathIn (directory name : String) : String :=
  if name.startsWith "/" then name
  else if directory.isEmpty || directory.endsWith "/" then directory ++ name
  else s!"{directory}/{name}"

structure Files where
  /-- The path of the directory that holds the bundled listings. -/
  bundled : String
  readBytes : String → Except ReadError ByteArray

namespace Files

def readText (files : Files) (path : String) : Except ReadError String :=
  match files.readBytes path with
  | .error e => .error e
  | .ok bytes => textOfBytes bytes

theorem readText_eq_ok_iff {files : Files} {path text : String} :
    files.readText path = .ok text ↔ files.readBytes path = .ok text.toUTF8 := by
  rw [readText]
  cases files.readBytes path with
  | error e =>
      constructor
      · exact fun failed => nomatch failed
      · exact fun failed => nomatch failed
  | ok bytes => rw [textOfBytes_eq_ok_iff, Except.ok.injEq]

end Files

structure FileTree where
  /-- Where relative paths start. -/
  home : Locator String
  files : List (Locator String × Except ReadError ByteArray)

namespace FileTree

def file? (t : FileTree) (l : Locator String) : Option (Except ReadError ByteArray) :=
  (t.files.find? fun file => file.1 == l).map (·.2)

/-- Does anything, or the start of relative paths, lie at or below the place? -/
def isDirectory (t : FileTree) (l : Locator String) : Bool :=
  l.isPrefixOf t.home || t.files.any fun file => l.isPrefixOf file.1 && l != file.1

/-- The longest name that an entry of a directory can have, in bytes. -/
def nameLimit : Nat := 255

/-- No path has as many bytes as this. -/
def pathLimit : Nat := 4096

def step (t : FileTree) (place : Locator String) (name : String) :
    Except ReadError (Locator String) :=
  if !t.isDirectory place then .error .notDirectory
  else if name = "." then .ok place
  else if name = ".." then .ok place.dropLast
  else if nameLimit < name.utf8ByteSize then .error .nameTooLong
  else if t.isDirectory (place.push name) || (t.file? (place.push name)).isSome then
    .ok (place.push name)
  else .error .missing

/-- The names in a path; a slash at its end asks for a directory. -/
def names (path : String) : List String :=
  (path.splitOn "/").filter (· ≠ "") ++ if path.endsWith "/" then ["."] else []

def resolve (t : FileTree) (path : String) : Except ReadError (Locator String) :=
  if path.isEmpty then .error .missing
  else if pathLimit ≤ path.utf8ByteSize then .error .nameTooLong
  else (names path).foldlM t.step (if path.startsWith "/" then .root else t.home)

def readBytes (t : FileTree) (path : String) : Except ReadError ByteArray :=
  match t.resolve path with
  | .error e => .error e
  | .ok place =>
      match t.file? place with
      | some contents => contents
      | none => .error .isDirectory

end FileTree

end Hierarchy
