import Hierarchy.Proofs.Locator.Extent
import Hierarchy.Region.Basic

/-!
# Sorting and pruning

Sorting a list of locators puts each one before those below it, and one pass that compares
every locator with the one kept last then drops whatever is covered.  The outcome is
canonical (`canonical_ofList`) and covers what the list did (`extent_ofList`), so it holds
the outermost locators of the list (`outermost_ofList`).
-/

set_option autoImplicit false

namespace Hierarchy.Region

open Locator

universe u

variable {α : Type u} [DecidableEq α]

/-! ## Pruning -/

theorem extent_pruneAfter (kept : Locator α) (ls : List (Locator α)) :
    extent (kept :: pruneAfter kept ls) = extent (kept :: ls) := by
  induction ls generalizing kept with
  | nil => rfl
  | cons l rest ih =>
      by_cases covered : kept.isPrefixOf l = true
      · have absorbed : subtree l ⊆ subtree kept := subtree_subset_subtree_iff.2 covered
        rw [pruneAfter, if_pos covered, ih kept]
        rw [extent_cons, extent_cons kept, extent_cons l, ← Set.union_assoc]
        rw [Set.union_eq_left.2 absorbed]
      · rw [pruneAfter, if_neg covered, extent_cons, ih l, ← extent_cons]

theorem extent_prune (ls : List (Locator α)) : extent (prune ls) = extent ls := by
  cases ls with
  | nil => rfl
  | cons l rest => exact extent_pruneAfter l rest

theorem pruneAfter_eq_self {kept : Locator α} {ls : List (Locator α)}
    (scattered : Scattered (kept :: ls)) : pruneAfter kept ls = ls := by
  induction ls generalizing kept with
  | nil => rfl
  | cons l rest ih =>
      obtain ⟨fromKept, fromTail⟩ := List.pairwise_cons.1 scattered
      have apart := fromKept l List.mem_cons_self
      rw [Locator.overlaps, Bool.or_eq_false_iff] at apart
      rw [pruneAfter, if_neg (by simp [apart.2]), ih fromTail]

theorem prune_eq_self {ls : List (Locator α)} (scattered : Scattered ls) : prune ls = ls := by
  cases ls with
  | nil => rfl
  | cons l rest => rw [prune, pruneAfter_eq_self scattered]

section Order

variable [Ord α]

/-! ## Sorting -/

omit [DecidableEq α] in
theorem perm_sorted (ls : List (Locator α)) : (sorted ls).Perm ls :=
  List.mergeSort_perm ls _

omit [DecidableEq α] in
@[simp] theorem mem_sorted {ls : List (Locator α)} {l : Locator α} :
    l ∈ sorted ls ↔ l ∈ ls :=
  List.mem_mergeSort

variable [Std.TransOrd α]

omit [DecidableEq α] in
theorem pairwise_sorted (ls : List (Locator α)) :
    (sorted ls).Pairwise fun a b => (compare a b).isLE = true := by
  refine List.pairwise_mergeSort ?_ ?_ ls
  · intro a b c
    exact Std.TransOrd.isLE_trans
  · intro a b
    rw [Bool.or_eq_true]
    cases comparison : compare a b with
    | lt => exact Or.inl rfl
    | eq => exact Or.inl rfl
    | gt => exact Or.inr (Ordering.isLE_of_eq_lt (Std.OrientedCmp.lt_of_gt comparison))

variable [Std.LawfulEqOrd α]

/-! ## Canonicity -/

theorem pairwise_apart_pruneAfter (kept : Locator α) (ls : List (Locator α))
    (ordered : (kept :: ls).Pairwise fun a b => (compare a b).isLE = true) :
    (kept :: pruneAfter kept ls).Pairwise Apart := by
  induction ls generalizing kept with
  | nil => exact List.pairwise_singleton Apart kept
  | cons l rest ih =>
      obtain ⟨fromKept, fromTail⟩ := List.pairwise_cons.1 ordered
      by_cases covered : kept.isPrefixOf l = true
      · rw [pruneAfter, if_pos covered]
        refine ih kept (List.pairwise_cons.2 ⟨?_, (List.pairwise_cons.1 fromTail).2⟩)
        intro m listed
        exact fromKept m (List.mem_cons_of_mem l listed)
      · rw [pruneAfter, if_neg covered]
        have tailApart := ih l fromTail
        have next : Apart kept l := apart_of_isLE (fromKept l List.mem_cons_self) covered
        refine List.pairwise_cons.2 ⟨?_, tailApart⟩
        intro m listed
        -- being apart from the next one kept is enough
        rcases List.mem_cons.1 listed with rfl | later
        · exact next
        · exact next.trans ((List.pairwise_cons.1 tailApart).1 m later)

theorem canonical_prune {ls : List (Locator α)}
    (ordered : ls.Pairwise fun a b => (compare a b).isLE = true) :
    Canonical (prune ls) := by
  rw [canonical_iff_pairwise]
  cases ls with
  | nil => exact List.Pairwise.nil
  | cons l rest => exact pairwise_apart_pruneAfter l rest ordered

theorem canonical_ofList (ls : List (Locator α)) : Canonical (ofList ls).toList :=
  canonical_prune (pairwise_sorted ls)

omit [Std.TransOrd α] [Std.LawfulEqOrd α] in
@[simp] theorem extent_ofList (ls : List (Locator α)) :
    extent (ofList ls).toList = extent ls := by
  rw [toList_ofList, extent_prune]
  exact extent_congr fun _ => mem_sorted

omit [Std.TransOrd α] [Std.LawfulEqOrd α] in
theorem toList_ofList_eq_nil_iff {ls : List (Locator α)} : (ofList ls).toList = [] ↔ ls = [] := by
  rw [← not_iff_not, ← Ne, ← Ne, ← extent_nonempty_iff, extent_ofList, extent_nonempty_iff]

omit [Std.TransOrd α] [Std.LawfulEqOrd α] in
theorem perm_ofList {ls : List (Locator α)} (scattered : Scattered ls) :
    (ofList ls).toList.Perm ls := by
  rw [toList_ofList, prune_eq_self (scattered.perm (perm_sorted ls).symm)]
  exact perm_sorted ls

theorem outermost_ofList (ls : List (Locator α)) : Outermost ls (ofList ls).toList :=
  (canonical_ofList ls).outermost (fun _ => mem_of_mem_ofList) (extent_ofList ls)

theorem eq_ofList_of_extent_eq {r : Region α} {ls : List (Locator α)}
    (canonical : Canonical r.toList) (same : extent r.toList = extent ls) :
    r = ofList ls := by
  rw [eq_iff_toList_eq]
  exact canonical.eq_of_extent_eq (canonical_ofList ls) (same.trans (extent_ofList ls).symm)

end Order

end Hierarchy.Region
