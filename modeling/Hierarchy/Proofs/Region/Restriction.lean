import Hierarchy.Proofs.Region.Coverage
import Hierarchy.Proofs.Region.Sharing

/-!
# Restriction among the other operations

A restriction may be a single locator, a run of members or nothing, while a union is sorted
and an insertion spliced in.  Still the order in which these are done does not matter
(`restrict_laws`): each leaves a canonical region, and what that region covers is put
together from extents and subtrees by union and intersection.
-/

set_option autoImplicit false

namespace Hierarchy.Region

open Locator

universe u

variable {α : Type u} [DecidableEq α] [Ord α] [Std.TransOrd α] [Std.LawfulEqOrd α]

/-! ## Unions -/

theorem restrict_union {a b : Region α} (aCanonical : Canonical a.toList)
    (bCanonical : Canonical b.toList) (l : Locator α) :
    (a.union b).restrict l = (a.restrict l).union (b.restrict l) := by
  have together := canonical_union aCanonical bCanonical
  have aInside := canonical_restrict aCanonical l
  have bInside := canonical_restrict bCanonical l
  apply (eq_iff_extent_eq (canonical_restrict together l) (canonical_union aInside bInside)).2
  rw [extent_restrict together, extent_union, extent_union, extent_restrict aCanonical,
    extent_restrict bCanonical, Set.union_inter_distrib_right]

/-! ## Restrictions of restrictions -/

section One

variable {r : Region α} (canonical : Canonical r.toList)

include canonical

theorem extent_restrict_restrict (l m : Locator α) :
    extent ((r.restrict l).restrict m).toList = extent r.toList ∩ (subtree l ∩ subtree m) := by
  rw [extent_restrict (canonical_restrict canonical l), extent_restrict canonical,
    Set.inter_assoc]

theorem canonical_restrict_restrict (l m : Locator α) :
    Canonical ((r.restrict l).restrict m).toList :=
  canonical_restrict (canonical_restrict canonical l) m

theorem restrict_comm (l m : Locator α) :
    (r.restrict l).restrict m = (r.restrict m).restrict l := by
  apply (eq_iff_extent_eq (canonical_restrict_restrict canonical l m)
    (canonical_restrict_restrict canonical m l)).2
  rw [extent_restrict_restrict canonical, extent_restrict_restrict canonical,
    Set.inter_comm (subtree l)]

theorem restrict_restrict_of_isPrefixOf {l m : Locator α} (below : l.isPrefixOf m = true) :
    (r.restrict l).restrict m = r.restrict m := by
  have nested := subtree_subset_subtree_iff.2 below
  apply (eq_iff_extent_eq (canonical_restrict_restrict canonical l m)
    (canonical_restrict canonical m)).2
  rw [extent_restrict_restrict canonical, extent_restrict canonical,
    Set.inter_eq_right.2 nested]

theorem restrict_restrict_of_apart {l m : Locator α} (apart : l.overlaps m = false) :
    (r.restrict l).restrict m = .empty := by
  apply (eq_iff_extent_eq (canonical_restrict_restrict canonical l m) canonical_empty).2
  rw [extent_restrict_restrict canonical, subtree_inter_subtree_eq_empty apart,
    Set.inter_empty, toList_empty, extent_nil]

/-! ## Insertions -/

/-- Of an inserted subtree, a restriction keeps what the two subtrees share. -/
theorem extent_restrict_insert (y l : Locator α) :
    extent ((r.insert y).restrict l).toList =
      extent (r.restrict l).toList ∪ subtree y ∩ subtree l := by
  rw [extent_restrict (canonical_insert canonical y), extent_insert canonical,
    extent_restrict canonical, Set.union_inter_distrib_right]

theorem restrict_insert_eq_insert {y l part : Locator α}
    (shared : subtree y ∩ subtree l = subtree part) :
    (r.insert y).restrict l = (r.restrict l).insert part := by
  have inside := canonical_restrict canonical l
  apply (eq_iff_extent_eq (canonical_restrict (canonical_insert canonical y) l)
    (canonical_insert inside part)).2
  rw [extent_restrict_insert canonical, extent_insert inside, shared]

theorem restrict_insert_of_apart {y l : Locator α} (apart : y.overlaps l = false) :
    (r.insert y).restrict l = r.restrict l := by
  apply (eq_iff_extent_eq (canonical_restrict (canonical_insert canonical y) l)
    (canonical_restrict canonical l)).2
  rw [extent_restrict_insert canonical, subtree_inter_subtree_eq_empty apart, Set.union_empty]

end One

/-- Restriction distributes over union, and restrictions commute; the deeper one of two
nested restrictions is enough, and two that do not overlap leave nothing.  Of an inserted
locator a restriction keeps the locator or the place restricted to, whichever is deeper,
and nothing if the two do not overlap. -/
theorem restrict_laws {a b : Region α} (aReachable : a.Reachable) (bReachable : b.Reachable)
    (l m y : Locator α) :
    (a.union b).restrict l = (a.restrict l).union (b.restrict l) ∧
      (a.restrict l).restrict m = (a.restrict m).restrict l ∧
      (l.isPrefixOf m = true → (a.restrict l).restrict m = a.restrict m) ∧
      (l.overlaps m = false → (a.restrict l).restrict m = .empty) ∧
      (l.isPrefixOf y = true → (a.insert y).restrict l = (a.restrict l).insert y) ∧
      (y.isPrefixOf l = true → (a.insert y).restrict l = (a.restrict l).insert l) ∧
      (y.overlaps l = false → (a.insert y).restrict l = a.restrict l) := by
  have canonical := aReachable.canonical
  refine ⟨restrict_union canonical bReachable.canonical l, restrict_comm canonical l m,
    restrict_restrict_of_isPrefixOf canonical, restrict_restrict_of_apart canonical, ?_, ?_,
    restrict_insert_of_apart canonical⟩
  · intro below
    have nested := subtree_subset_subtree_iff.2 below
    exact restrict_insert_eq_insert canonical (Set.inter_eq_left.2 nested)
  · intro above
    have nested := subtree_subset_subtree_iff.2 above
    exact restrict_insert_eq_insert canonical (Set.inter_eq_right.2 nested)

theorem restrict_laws_of_overlapping :
    ((ofList [⟨["a", "x"]⟩, ⟨["b"]⟩] : Region String).union (ofList [⟨["a"]⟩])).restrict
          ⟨["a", "y"]⟩ = singleton ⟨["a", "y"]⟩ ∧
      ((ofList [⟨["a", "x"]⟩, ⟨["b"]⟩] : Region String).restrict ⟨["a"]⟩).restrict ⟨["b"]⟩ =
        .empty ∧
      ((ofList [⟨["a", "x"]⟩, ⟨["b"]⟩] : Region String).restrict root).restrict ⟨["a"]⟩ =
        singleton ⟨["a", "x"]⟩ ∧
      ((ofList [⟨["a", "x"]⟩, ⟨["b"]⟩] : Region String).insert ⟨["a", "x", "z"]⟩).restrict
          ⟨["a"]⟩ = singleton ⟨["a", "x"]⟩ ∧
      ((ofList [⟨["a", "x"]⟩, ⟨["b"]⟩] : Region String).insert ⟨["a"]⟩).restrict
          ⟨["a", "y"]⟩ = singleton ⟨["a", "y"]⟩ ∧
      ((ofList [⟨["a", "x"]⟩, ⟨["b"]⟩] : Region String).insert ⟨["c"]⟩).restrict ⟨["b"]⟩ =
        singleton ⟨["b"]⟩ := by
  have reachable := reachable_ofList ([⟨["a", "x"]⟩, ⟨["b"]⟩] : List (Locator String))
  have other := reachable_ofList ([⟨["a"]⟩] : List (Locator String))
  obtain ⟨union, _, _, _, _, above, _⟩ :=
    restrict_laws reachable other ⟨["a", "y"]⟩ root ⟨["a"]⟩
  obtain ⟨_, _, _, disjoint, below, _⟩ :=
    restrict_laws reachable other ⟨["a"]⟩ ⟨["b"]⟩ ⟨["a", "x", "z"]⟩
  obtain ⟨_, _, deeper, _⟩ := restrict_laws reachable other root ⟨["a"]⟩ root
  obtain ⟨_, _, _, _, _, _, apart⟩ := restrict_laws reachable other ⟨["b"]⟩ root ⟨["c"]⟩
  refine ⟨union.trans ?_, disjoint (by decide), (deeper (by decide)).trans ?_,
    (below (by decide)).trans ?_, (above (by decide)).trans ?_, (apart (by decide)).trans ?_⟩
  all_goals cbv

end Hierarchy.Region
