import Hierarchy.Proofs.Region.History

/-!
# What a region shares

Two regions meet where their extents do.  `meets` walks the smaller region and searches the
larger one, and this shortcut finds a common place whenever there is one
(`meets_iff_extents_meet`), so it does not matter which region is asked about which.
Restricting a region to a subtree leaves exactly the part of its extent that lies in the
subtree (`extent_restrict`).
-/

set_option autoImplicit false

namespace Hierarchy.Region

open Locator

universe u

variable {α : Type u} [DecidableEq α] [Ord α] [Std.TransOrd α] [Std.LawfulEqOrd α]

/-! ## Regions that meet -/

theorem any_overlaps_iff (a : Region α) {b : Region α} (bCanonical : Canonical b.toList) :
    a.members.any (b.overlaps ·) = true ↔ (extent a.toList ∩ extent b.toList).Nonempty := by
  rw [Array.any_eq_true', extent_inter_nonempty_iff]
  constructor
  · rintro ⟨m, member, found⟩
    obtain ⟨k, kListed, shared⟩ := (overlaps_iff bCanonical).1 found
    exact ⟨m, Array.mem_toList_iff.2 member, k, kListed, overlaps_comm k m ▸ shared⟩
  · rintro ⟨m, member, k, kListed, shared⟩
    refine ⟨m, Array.mem_toList_iff.1 member, (overlaps_iff bCanonical).2 ⟨k, kListed, ?_⟩⟩
    rw [overlaps_comm]
    exact shared

theorem meets_iff_extents_meet {a b : Region α} (aCanonical : Canonical a.toList)
    (bCanonical : Canonical b.toList) :
    a.meets b = true ↔ (extent a.toList ∩ extent b.toList).Nonempty := by
  by_cases smaller : a.size ≤ b.size
  · rw [meets, if_pos smaller]
    exact any_overlaps_iff a bCanonical
  · rw [meets, if_neg smaller, Set.inter_comm]
    exact any_overlaps_iff b aCanonical

/-- Regions meet if they cover a common place, and that is so if a member of one overlaps
a member of the other; it does not matter which of them is the smaller one. -/
theorem meets_iff_common_place {a b : Region α} (aReachable : a.Reachable)
    (bReachable : b.Reachable) :
    (a.meets b = true ↔ ∃ x, a.covers x = true ∧ b.covers x = true) ∧
      ((∃ x, a.covers x = true ∧ b.covers x = true) ↔
        ∃ m ∈ a.toList, ∃ k ∈ b.toList, m.overlaps k = true) ∧
      a.meets b = b.meets a := by
  have aCanonical := aReachable.canonical
  have bCanonical := bReachable.canonical
  have common : (extent a.toList ∩ extent b.toList).Nonempty ↔
      ∃ x, a.covers x = true ∧ b.covers x = true := by
    refine exists_congr fun x => ?_
    rw [Set.mem_inter_iff, covers_iff aCanonical, covers_iff bCanonical]
  refine ⟨?_, ?_, ?_⟩
  · rw [meets_iff_extents_meet aCanonical bCanonical, common]
  · rw [← common, extent_inter_nonempty_iff]
  · rw [Bool.eq_iff_iff, meets_iff_extents_meet aCanonical bCanonical,
      meets_iff_extents_meet bCanonical aCanonical, Set.inter_comm]

theorem meets_iff_common_place_of_sizes :
    (ofList [⟨["a"]⟩, ⟨["b"]⟩, ⟨["c"]⟩] : Region String).meets
        (ofList [⟨["d"]⟩, ⟨["c", "e"]⟩]) = true ∧
      (ofList [⟨["d"]⟩, ⟨["c", "e"]⟩] : Region String).meets
        (ofList [⟨["a"]⟩, ⟨["b"]⟩, ⟨["c"]⟩]) = true ∧
      ¬∃ x, (ofList [⟨["a"]⟩, ⟨["b"]⟩] : Region String).covers x = true ∧
        (ofList [⟨["d"]⟩, ⟨["c", "e"]⟩]).covers x = true := by
  obtain ⟨shared, members, symmetric⟩ :=
    meets_iff_common_place (reachable_ofList [⟨["a"]⟩, ⟨["b"]⟩, ⟨["c"]⟩])
      (reachable_ofList ([⟨["d"]⟩, ⟨["c", "e"]⟩] : List (Locator String)))
  have apart := (meets_iff_common_place (reachable_ofList [⟨["a"]⟩, ⟨["b"]⟩])
    (reachable_ofList ([⟨["d"]⟩, ⟨["c", "e"]⟩] : List (Locator String)))).1
  have found : (ofList [⟨["a"]⟩, ⟨["b"]⟩, ⟨["c"]⟩] : Region String).meets
      (ofList [⟨["d"]⟩, ⟨["c", "e"]⟩]) = true := by
    refine shared.2 ⟨⟨["c", "e"]⟩, ?_, ?_⟩ <;> cbv
  refine ⟨found, symmetric ▸ found, ?_⟩
  rw [← apart]
  cbv
  decide

/-! ## Restriction -/

theorem extent_restrict {r : Region α} (canonical : Canonical r.toList) (l : Locator α) :
    extent (r.restrict l).toList = extent r.toList ∩ subtree l := by
  rw [toList_restrict]
  by_cases covered : r.covers l = true
  · have inside := subtree_subset_extent_iff.2 ((covers_iff canonical).1 covered)
    rw [if_pos covered, extent_cons, extent_nil, Set.union_empty, Set.inter_eq_right.2 inside]
  · rw [if_neg covered, toList_under_eq_filter canonical.increasing]
    ext x
    simp only [Set.mem_inter_iff, mem_extent, mem_subtree, List.mem_filter]
    constructor
    · rintro ⟨m, ⟨listed, below⟩, above⟩
      exact ⟨⟨m, listed, above⟩, isPrefixOf_trans below above⟩
    · rintro ⟨⟨m, listed, above⟩, within⟩
      refine ⟨m, ⟨listed, ?_⟩, above⟩
      -- were `m` above `l` instead, it would cover `l`
      rcases isPrefixOf_or_isPrefixOf above within with ml | lm
      · exact absurd ((covers_iff canonical).2 ⟨m, listed, ml⟩) covered
      · exact lm

theorem restrict_nonempty_iff {r : Region α} (canonical : Canonical r.toList) (l : Locator α) :
    (r.restrict l).isEmpty = false ↔ r.overlaps l = true := by
  rw [← Bool.not_eq_true, isEmpty_iff, ← Ne, ← extent_nonempty_iff, extent_restrict canonical,
    overlaps_iff canonical, exists_overlaps_iff]
  exact Iff.rfl

/-- A restricted region covers what the region covers in the subtree and nothing else, and
it is empty only if the region holds nothing of the subtree. -/
theorem covers_restrict_iff {r : Region α} (reachable : r.Reachable) (l : Locator α) :
    (∀ x, (r.restrict l).covers x = true ↔ r.covers x = true ∧ l.isPrefixOf x = true) ∧
      ((r.restrict l).isEmpty = false ↔ r.overlaps l = true) := by
  have canonical := reachable.canonical
  refine ⟨?_, restrict_nonempty_iff canonical l⟩
  intro x
  rw [covers_iff (canonical_restrict canonical l), covers_iff canonical,
    extent_restrict canonical, Set.mem_inter_iff, mem_subtree]

theorem covers_restrict_iff_of_run :
    ((ofList [⟨["a"]⟩, ⟨["b", "x"]⟩, ⟨["b", "y"]⟩] : Region String).restrict ⟨["b"]⟩).covers
        ⟨["b", "y", "z"]⟩ = true ∧
      ¬((ofList [⟨["a"]⟩, ⟨["b", "x"]⟩, ⟨["b", "y"]⟩] : Region String).restrict ⟨["b"]⟩).covers
        ⟨["a"]⟩ = true ∧
      ((ofList [⟨["a"]⟩, ⟨["b", "x"]⟩, ⟨["b", "y"]⟩] : Region String).restrict
        ⟨["b"]⟩).isEmpty = false := by
  obtain ⟨covers, nonempty⟩ := covers_restrict_iff
    (reachable_ofList [⟨["a"]⟩, ⟨["b", "x"]⟩, ⟨["b", "y"]⟩]) (⟨["b"]⟩ : Locator String)
  refine ⟨(covers _).2 ⟨?_, by decide⟩, ?_, nonempty.2 ?_⟩
  · cbv
  · intro inside
    exact absurd ((covers _).1 inside).2 (by decide)
  · cbv

end Hierarchy.Region
