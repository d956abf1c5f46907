import Hierarchy.Bisect
import Hierarchy.Locator.Basic

/-!
# Regions

A region is a union of subtrees, given by the locators at their roots.  Of two nested
subtrees only the outer one is kept, and the members stand in increasing order, so every
region that the operations here build has one representation.

A locator covering `l` sorts directly before the place of `l`, and the locators below `l`
form a run that starts there.  Each question therefore takes one bisection and a look at
the neighbours.
-/

set_option autoImplicit false

namespace Hierarchy

universe u

/-- A union of subtrees: the roots of the outermost ones, in increasing order. -/
structure Region (α : Type u) where
  members : Array (Locator α)
  deriving DecidableEq, Hashable, Repr

namespace Region

variable {α : Type u}

def empty : Region α := ⟨#[]⟩

instance : EmptyCollection (Region α) := ⟨empty⟩

instance : Inhabited (Region α) := ⟨empty⟩

def singleton (l : Locator α) : Region α := ⟨#[l]⟩

def size (r : Region α) : Nat := r.members.size

def isEmpty (r : Region α) : Bool := r.members.isEmpty

def toList (r : Region α) : List (Locator α) := r.members.toList

@[simp] theorem toList_empty : (empty : Region α).toList = [] := rfl

@[simp] theorem toList_singleton (l : Locator α) : (singleton l).toList = [l] := rfl

@[simp] theorem length_toList (r : Region α) : r.toList.length = r.size := rfl

theorem eq_iff_toList_eq {a b : Region α} : a = b ↔ a.toList = b.toList := by
  cases a
  cases b
  simp [toList, Array.toList_inj]

@[simp] theorem isEmpty_iff {r : Region α} : r.isEmpty = true ↔ r.toList = [] := by
  simp [isEmpty, toList]

section Order

variable [Ord α]

def sorted (ls : List (Locator α)) : List (Locator α) :=
  ls.mergeSort fun a b => (compare a b).isLE

def rank (r : Region α) (l : Locator α) : Nat :=
  Bisect.lowerBound r.members fun member => (compare member l).isLT

theorem rank_le_size (r : Region α) (l : Locator α) : r.rank l ≤ r.members.size :=
  Bisect.lowerBound_le_size _ _

end Order

section Prune

variable [DecidableEq α]

/-- Drops every locator below the one kept before it, `kept` having just been kept. -/
def pruneAfter (kept : Locator α) : List (Locator α) → List (Locator α)
  | [] => []
  | l :: rest =>
      if kept.isPrefixOf l then pruneAfter kept rest else l :: pruneAfter l rest

/-- Drops from an increasing list every locator below an earlier one. -/
def prune : List (Locator α) → List (Locator α)
  | [] => []
  | l :: rest => l :: pruneAfter l rest

theorem pruneAfter_sublist (kept : Locator α) (ls : List (Locator α)) :
    (pruneAfter kept ls).Sublist ls := by
  induction ls generalizing kept with
  | nil => exact List.Sublist.refl _
  | cons l rest ih =>
      rw [pruneAfter]
      split
      · exact (ih kept).cons l
      · exact (ih l).cons_cons l

theorem prune_sublist (ls : List (Locator α)) : (prune ls).Sublist ls := by
  cases ls with
  | nil => exact List.Sublist.refl _
  | cons l rest => exact (pruneAfter_sublist l rest).cons_cons l

end Prune

variable [DecidableEq α] [Ord α]

/-- The union of the subtrees at `ls`. -/
def ofList (ls : List (Locator α)) : Region α := ⟨(prune (sorted ls)).toArray⟩

/-! ## Looking up a locator -/

def before? (r : Region α) (l : Locator α) : Option (Locator α) :=
  if positive : 0 < r.rank l then
    have inside : r.rank l - 1 < r.members.size := by
      have := r.rank_le_size l
      omega
    some r.members[r.rank l - 1]
  else none

/-- The first member that is not before `l`: `l` itself if it is a member. -/
def from? (r : Region α) (l : Locator α) : Option (Locator α) :=
  r.members[r.rank l]?

/-- Does the region hold the whole subtree at `l`? -/
def covers (r : Region α) (l : Locator α) : Bool :=
  r.from? l == some l || (r.before? l).any (·.isPrefixOf l)

/-- Does the region hold anything of the subtree at `l`? -/
def overlaps (r : Region α) (l : Locator α) : Bool :=
  r.covers l || (r.from? l).any (l.isPrefixOf ·)

/-- The members in the subtree at `l`: a run that starts at the place of `l`. -/
def under (r : Region α) (l : Locator α) : Array (Locator α) :=
  (r.members.extract (r.rank l) r.members.size).takeWhile (l.isPrefixOf ·)

/-- Do the regions share anything?  The smaller one is walked, the larger one searched. -/
def meets (a b : Region α) : Bool :=
  if a.size ≤ b.size then a.members.any (b.overlaps ·) else b.members.any (a.overlaps ·)

/-! ## Changing a region -/

/-- Adds the subtree at `l`; the members in it give way to `l`. -/
def insert (r : Region α) (l : Locator α) : Region α :=
  if r.covers l then r
  else
    ⟨r.members.extract 0 (r.rank l) ++ #[l] ++
      r.members.extract (r.rank l + (r.under l).size) r.members.size⟩

def extend (r : Region α) (ls : List (Locator α)) : Region α :=
  ofList (r.toList ++ ls)

def union (a b : Region α) : Region α :=
  if b.isEmpty then a else if a.isEmpty then b else a.extend b.toList

instance : Union (Region α) := ⟨union⟩

/-- What the region holds of the subtree at `l`. -/
def restrict (r : Region α) (l : Locator α) : Region α :=
  if r.covers l then singleton l else ⟨r.under l⟩

def rebase (r : Region α) (source target : Locator α) : Region α :=
  ofList (r.toList.map (·.rebase source target))

/-! ## The members after each operation -/

@[simp] theorem toList_ofList (ls : List (Locator α)) :
    (ofList ls).toList = prune (sorted ls) := rfl

theorem mem_of_mem_ofList {ls : List (Locator α)} {l : Locator α}
    (member : l ∈ (ofList ls).toList) : l ∈ ls :=
  (List.mergeSort_perm ls _).mem_iff.1 ((prune_sublist _).subset member)

theorem size_ofList_le (ls : List (Locator α)) : (ofList ls).size ≤ ls.length := by
  have pruned := (prune_sublist (sorted ls)).length_le
  have permuted := (List.mergeSort_perm ls fun a b => (compare a b).isLE).length_eq
  rw [← length_toList, toList_ofList]
  exact Nat.le_trans pruned (Nat.le_of_eq permuted)

theorem toList_under (r : Region α) (l : Locator α) :
    (r.under l).toList = (r.toList.drop (r.rank l)).takeWhile (l.isPrefixOf ·) := by
  cases r with
  | mk members =>
      rcases members with ⟨ls⟩
      simp [under, toList, List.take_of_length_le]

theorem toList_insert (r : Region α) (l : Locator α) :
    (r.insert l).toList =
      if r.covers l then r.toList
      else
        r.toList.take (r.rank l) ++
          l :: r.toList.drop (r.rank l + (r.under l).size) := by
  rw [insert]
  split
  · rfl
  · simp [toList, List.take_of_length_le]

theorem toList_restrict (r : Region α) (l : Locator α) :
    (r.restrict l).toList = if r.covers l then [l] else (r.under l).toList := by
  rw [restrict]
  split <;> rfl

end Region

end Hierarchy
