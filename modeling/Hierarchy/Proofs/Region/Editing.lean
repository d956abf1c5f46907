import Hierarchy.Proofs.Region.Flatten
import Hierarchy.Proofs.Region.Lookup

/-!
# What each operation keeps and covers

Each operation builds its members in a way of its own: in place, from a run, by sorting.
Here every one is shown to lead from canonical regions to a canonical region, and those
that add subtrees to cover exactly what was covered before and what was added.
-/

set_option autoImplicit false

namespace Hierarchy.Region

open Locator

universe u

variable {α : Type u} [DecidableEq α] [Ord α] [Std.TransOrd α] [Std.LawfulEqOrd α]

theorem canonical_empty : Canonical (empty : Region α).toList :=
  canonical_iff_pairwise.2 List.Pairwise.nil

theorem canonical_singleton (l : Locator α) : Canonical (singleton l).toList :=
  canonical_iff_pairwise.2 (List.pairwise_singleton Apart l)

/-! ## Insertion -/

omit [Std.TransOrd α] [Std.LawfulEqOrd α] in
theorem insert_eq_self {r : Region α} {l : Locator α} (covered : r.covers l = true) :
    r.insert l = r := by
  rw [insert, if_pos covered]

theorem SplitAt.toList_insert_eq {r : Region α} {l : Locator α}
    {before after : List (Locator α)} (split : r.SplitAt l before after)
    (increasing : Increasing r.toList) (uncovered : ¬r.covers l = true) :
    (r.insert l).toList = before ++ l :: after.filter (!l.isPrefixOf ·) := by
  have runSize : (r.under l).size = (after.takeWhile (l.isPrefixOf ·)).length := by
    rw [← split.toList_under_eq, Array.length_toList]
  rw [toList_insert, if_neg uncovered, split.rank_eq, runSize, split.toList_eq,
    List.take_left, List.drop_length_add_append, drop_length_takeWhile,
    (run_eq_filter (split.after_increasing increasing) split.le).2]

theorem canonical_insert {r : Region α} (canonical : Canonical r.toList) (l : Locator α) :
    Canonical (r.insert l).toList := by
  by_cases covered : r.covers l = true
  · rw [insert_eq_self covered]
    exact canonical
  · obtain ⟨before, after, split⟩ := exists_splitAt canonical.increasing l
    have apart := canonical_iff_pairwise.1 canonical
    rw [split.toList_eq] at apart
    obtain ⟨beforeApart, afterApart, across⟩ := List.pairwise_append.1 apart
    rw [split.toList_insert_eq canonical.increasing covered, canonical_iff_pairwise]
    refine List.pairwise_append.2 ⟨beforeApart, List.pairwise_cons.2 ⟨?_, ?_⟩, ?_⟩
    · intro m listed
      obtain ⟨late, outside⟩ := List.mem_filter.1 listed
      exact apart_of_isLE (split.le m late) (by simpa using outside)
    · exact afterApart.sublist List.filter_sublist
    · intro m early k listed
      rcases List.mem_cons.1 listed with rfl | kept
      · refine ⟨split.lt m early, Bool.eq_false_iff.2 ?_⟩
        intro above
        have member : m ∈ r.toList := split.toList_eq ▸ List.mem_append_left after early
        exact covered ((covers_iff canonical).2 ⟨m, member, above⟩)
      · exact across m early k (List.mem_of_mem_filter kept)

theorem extent_insert {r : Region α} (canonical : Canonical r.toList) (l : Locator α) :
    extent (r.insert l).toList = extent r.toList ∪ subtree l := by
  by_cases covered : r.covers l = true
  · rw [insert_eq_self covered]
    have inside := subtree_subset_extent_iff.2 ((covers_iff canonical).1 covered)
    exact (Set.union_eq_left.2 inside).symm
  · obtain ⟨before, after, split⟩ := exists_splitAt canonical.increasing l
    rw [split.toList_insert_eq canonical.increasing covered, split.toList_eq, extent_append,
      extent_cons_filter, extent_cons, extent_append, Set.union_assoc,
      Set.union_comm (extent after)]

/-! ## Extension and union -/

theorem canonical_extend (r : Region α) (ls : List (Locator α)) :
    Canonical (r.extend ls).toList :=
  canonical_ofList (r.toList ++ ls)

omit [Std.TransOrd α] [Std.LawfulEqOrd α] in
theorem extent_extend (r : Region α) (ls : List (Locator α)) :
    extent (r.extend ls).toList = extent r.toList ∪ extent ls := by
  rw [extend, extent_ofList, extent_append]

theorem canonical_union {a b : Region α} (aCanonical : Canonical a.toList)
    (bCanonical : Canonical b.toList) : Canonical (a.union b).toList := by
  by_cases bEmpty : b.isEmpty = true
  · rw [union, if_pos bEmpty]
    exact aCanonical
  · by_cases aEmpty : a.isEmpty = true
    · rw [union, if_neg bEmpty, if_pos aEmpty]
      exact bCanonical
    · rw [union, if_neg bEmpty, if_neg aEmpty]
      exact canonical_extend a b.toList

omit [Std.TransOrd α] [Std.LawfulEqOrd α] in
theorem extent_union (a b : Region α) :
    extent (a.union b).toList = extent a.toList ∪ extent b.toList := by
  by_cases bEmpty : b.isEmpty = true
  · rw [union, if_pos bEmpty, isEmpty_iff.1 bEmpty, extent_nil, Set.union_empty]
  · by_cases aEmpty : a.isEmpty = true
    · rw [union, if_neg bEmpty, if_pos aEmpty, isEmpty_iff.1 aEmpty, extent_nil,
        Set.empty_union]
    · rw [union, if_neg bEmpty, if_neg aEmpty, extent_extend]

theorem union_ofList (ls ks : List (Locator α)) :
    (ofList ls).union (ofList ks) = ofList (ls ++ ks) := by
  apply eq_ofList_of_extent_eq (canonical_union (canonical_ofList ls) (canonical_ofList ks))
  rw [extent_union, extent_ofList, extent_ofList, extent_append]

/-! ## Restriction and rebasing -/

theorem canonical_restrict {r : Region α} (canonical : Canonical r.toList) (l : Locator α) :
    Canonical (r.restrict l).toList := by
  rw [toList_restrict]
  by_cases covered : r.covers l = true
  · rw [if_pos covered]
    exact canonical_singleton l
  · rw [if_neg covered, toList_under_eq_filter canonical.increasing]
    exact canonical.sublist List.filter_sublist

theorem canonical_rebase (r : Region α) (source target : Locator α) :
    Canonical (r.rebase source target).toList :=
  canonical_ofList _

end Hierarchy.Region
