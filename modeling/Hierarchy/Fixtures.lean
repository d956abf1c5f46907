import Hierarchy.Files
import Hierarchy.Text.Lines

/-!
# Bundled listings

Listings that come with the program, in a directory of their own, to try it on and to test
it with.
-/

set_option autoImplicit false

namespace Hierarchy

namespace Fixtures

def absorbRoot : String := Text.unlines [
  "# A single \"everything changed\" entry collapses the set.",
  "primvars/color",
  "points",
  "/",
  "xform/matrix",
  "instancedBy/paths"]

def deep : String := Text.unlines [
  "# Locators longer than the usual handful of elements, and more members than",
  "# fit in a small set.",
  "a/b/c/d/e/f/g/h",
  "a/b/c/d/e/f/g/i",
  "a/b/c/d/e/f/x",
  "a/b/c/d/y",
  "a/b/c/d/e/f/g",
  "b/1",
  "b/2",
  "b/3",
  "b/4",
  "b/5",
  "b/6",
  "b/7",
  "b/8",
  "b/9",
  "b/10",
  "c/d/e/f/g/h/i/j/k",
  "c/d/e/f"]

def disjoint : String := Text.unlines [
  "# Siblings that share leading characters but not elements never merge.",
  "points",
  "pointsX",
  "points_rest",
  "primvars/st",
  "primvars/st0",
  "primvars/st_indices",
  "visibility"]

def meshDirty : String := Text.unlines [
  "# Dirty locators reported for a deforming, recolored mesh over a few frames.",
  "primvars/points/primvarValue",
  "primvars/normals/primvarValue",
  "primvars/displayColor/primvarValue",
  "primvars/displayColor/interpolation",
  "xform/matrix",
  "extent/min",
  "extent/max",
  "",
  "# frame 2: the whole extent and the deformer's points",
  "extent",
  "primvars/points",
  "mesh/topology/faceVertexCounts",
  "mesh/topology/faceVertexIndices",
  "  visibility   # toggled by the animator",
  "",
  "# frame 3: topology rebuilt",
  "mesh/topology",
  "materialBindings/allPurpose",
  "materialBindings/preview",
  "primvars/displayOpacity"]

def minimal : String := Text.unlines [
  "# The canonical redundancy case: points/x is already covered by points.",
  "points",
  "points/x",
  "primvars"]

def all : List (String × String) := [
  ("absorb-root.locators", absorbRoot),
  ("deep.locators", deep),
  ("disjoint.locators", disjoint),
  ("mesh-dirty.locators", meshDirty),
  ("minimal.locators", minimal)]

/-- What the directory of the bundled listings is called, wherever it was put. -/
def root : String := "<fixtures>"

/-- A directory `name` in which relative paths start, and the bundled listings apart from it. -/
def tree (name : String) (files : List (String × ByteArray)) : FileTree where
  home := ⟨[name]⟩
  files :=
    (files.map fun (path, bytes) => (⟨name :: path.splitOn "/"⟩, .ok bytes)) ++
      all.map fun (path, text) => (⟨["repository", "fixtures", path]⟩, .ok text.toUTF8)

def located (path : String) : String :=
  match (root ++ "/").toList.isPrefixOf? path.toList with
  | some rest => "/repository/fixtures/" ++ String.ofList rest
  | none => path

structure Unreadable where
  path : String
  cause : ReadError
  deriving DecidableEq, Repr

def Unreadable.message (e : Unreadable) : String :=
  s!"Failed to read fixture file {e.path}: {e.cause.message}"

def loadFrom (files : Files) (path : String) : Except Unreadable String :=
  (files.readText path).mapError (⟨path, ·⟩)

end Fixtures

/-- These files in a directory, and the bundled listings as they are shipped. -/
def Files.directory (name : String) (files : List (String × ByteArray)) : Files where
  bundled := Fixtures.root
  readBytes path := (Fixtures.tree name files).readBytes (Fixtures.located path)

def Fixtures.load (name : String) (files : Files := .directory "work" []) :
    Except Unreadable String :=
  loadFrom files (pathIn files.bundled name)

end Hierarchy
