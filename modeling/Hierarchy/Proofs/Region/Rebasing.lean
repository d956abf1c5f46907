import Hierarchy.Proofs.Locator.Rebasing
import Hierarchy.Proofs.Region.History

/-!
# Moving a part of a region

Rebasing moves the members under one place to another place, and the result is sorted and
pruned again.  Whether the source and the target overlap, and what the members that stay
cover, makes no difference to what is covered afterwards (`mem_extent_rebase`), unless a
member lies above the source: that member covers all there is to move, so the region stays
as it is (`rebase_eq_self`).  If nothing that stays overlaps the target, no members are
merged and the move can be undone (`rebase_to_free_target`).
-/

set_option autoImplicit false

namespace Hierarchy.Region

open Locator

universe u

variable {α : Type u} [DecidableEq α] [Ord α]

theorem mem_extent_rebase {r : Region α} {source : Locator α}
    (noneAbove : ∀ m ∈ r.toList, m.isPrefixOf source = true → m = source)
    (target x : Locator α) :
    x ∈ extent (r.rebase source target).toList ↔
      (x ∈ extent r.toList ∧ source.isPrefixOf x = false) ∨
        (target.isPrefixOf x = true ∧ x.rebase target source ∈ extent r.toList) := by
  rw [rebase, extent_ofList, mem_extent_map_rebase, exists_outside_iff noneAbove]
  refine or_congr_right (and_congr_right ?_)
  intro underTarget
  exact exists_inside_iff noneAbove (isPrefixOf_rebase underTarget source)

variable [Std.TransOrd α] [Std.LawfulEqOrd α]

theorem rebase_eq_self {r : Region α} (canonical : Canonical r.toList) {m source : Locator α}
    (member : m ∈ r.toList) (above : m.isPrefixOf source = true) (strict : m ≠ source)
    (target : Locator α) : r.rebase source target = r := by
  have stays : ∀ k ∈ r.toList, k.rebase source target = k := by
    intro k listed
    refine rebase_of_not_isPrefixOf target (Bool.eq_false_iff.2 ?_)
    intro below
    -- `m` covers all below the source, so `k` is `m` and the source lies between the two
    have same : m = k := canonical.minimal m member k listed (isPrefixOf_trans above below)
    subst same
    exact strict (isPrefixOf_antisymm above below)
  rw [rebase, List.map_congr_left stays, List.map_id']
  exact (eq_ofList_of_extent_eq canonical rfl).symm

/-- A member strictly above the source keeps the region as it is.  Otherwise the region
covers afterwards what it did outside the source, and under the target what it did at the
corresponding places under the source. -/
theorem covers_rebase_iff {r : Region α} (reachable : r.Reachable) (source target : Locator α) :
    ((∃ m ∈ r.toList, m.isPrefixOf source = true ∧ m ≠ source) →
        r.rebase source target = r) ∧
      ((¬∃ m ∈ r.toList, m.isPrefixOf source = true ∧ m ≠ source) → ∀ x,
        (r.rebase source target).covers x = true ↔
          (r.covers x = true ∧ source.isPrefixOf x = false) ∨
            (target.isPrefixOf x = true ∧ r.covers (x.rebase target source) = true)) := by
  have canonical := reachable.canonical
  constructor
  · rintro ⟨m, member, above, strict⟩
    exact rebase_eq_self canonical member above strict target
  · intro none x
    have noneAbove : ∀ m ∈ r.toList, m.isPrefixOf source = true → m = source := by
      intro m member above
      by_contra strict
      exact none ⟨m, member, above, strict⟩
    rw [covers_iff (canonical_rebase r source target), covers_iff canonical,
      covers_iff canonical]
    exact mem_extent_rebase noneAbove target x

theorem covers_rebase_iff_of_target_in_source :
    (ofList [⟨["b", "c"]⟩, ⟨["a"]⟩] : Region String).rebase ⟨["a", "x"]⟩ ⟨["b"]⟩ =
        ofList [⟨["b", "c"]⟩, ⟨["a"]⟩] ∧
      ((ofList [⟨["b", "c"]⟩, ⟨["a"]⟩] : Region String).rebase ⟨["b"]⟩ ⟨["b", "c"]⟩).covers
        ⟨["b", "c", "c", "d"]⟩ = true ∧
      ¬((ofList [⟨["b", "c"]⟩, ⟨["a"]⟩] : Region String).rebase ⟨["b"]⟩ ⟨["b", "c"]⟩).covers
        ⟨["b", "c"]⟩ = true := by
  have members : (ofList [⟨["b", "c"]⟩, ⟨["a"]⟩] : Region String).toList =
      [⟨["a"]⟩, ⟨["b", "c"]⟩] := by cbv
  have reachable := reachable_ofList ([⟨["b", "c"]⟩, ⟨["a"]⟩] : List (Locator String))
  have covers := (covers_rebase_iff reachable ⟨["b"]⟩ ⟨["b", "c"]⟩).2 (by
    rw [members]
    decide)
  refine ⟨(covers_rebase_iff reachable ⟨["a", "x"]⟩ ⟨["b"]⟩).1 ?_, ?_, ?_⟩
  · rw [members]
    exact ⟨⟨["a"]⟩, by decide, by decide, by decide⟩
  · refine (covers _).2 (Or.inr ⟨by decide, ?_⟩)
    cbv
  · rw [covers]
    rintro (⟨_, outside⟩ | ⟨_, inside⟩)
    · exact absurd outside (by decide)
    · have notCovered : (ofList [⟨["b", "c"]⟩, ⟨["a"]⟩] : Region String).covers
          ((⟨["b", "c"]⟩ : Locator String).rebase ⟨["b", "c"]⟩ ⟨["b"]⟩) = false := by cbv
      rw [notCovered] at inside
      contradiction

/-! ## To a free target -/

section FreeTarget

variable {r : Region α} {source target : Locator α}
  (free : ∀ m ∈ r.toList, source.isPrefixOf m = false → m.overlaps target = false)

include free

theorem perm_rebase (canonical : Canonical r.toList) :
    (r.rebase source target).toList.Perm (r.toList.map (·.rebase source target)) :=
  perm_ofList (scattered_map_rebase free canonical.scattered)

theorem size_rebase (canonical : Canonical r.toList) :
    (r.rebase source target).size = r.size := by
  have sameLength := (perm_rebase free canonical).length_eq
  rwa [List.length_map, length_toList, length_toList] at sameLength

theorem rebase_rebase (canonical : Canonical r.toList) :
    (r.rebase source target).rebase target source = r := by
  have permuted := (perm_rebase free canonical).map (·.rebase target source)
  rw [map_rebase_rebase free] at permuted
  symm
  apply eq_ofList_of_extent_eq canonical
  apply extent_congr
  intro l
  exact permuted.mem_iff.symm

end FreeTarget

/-- A region moves to a target that none of the members which stay overlaps without losing
a member, and moving back restores it.  Whatever the target, no members are gained, and
none are left only of the empty region. -/
theorem rebase_to_free_target :
    (∀ r : Region α, r.Reachable → ∀ source target : Locator α,
      (∀ m ∈ r.toList, source.isPrefixOf m = false → m.overlaps target = false) →
        (r.rebase source target).size = r.size ∧
          (r.rebase source target).rebase target source = r) ∧
      ∀ (r : Region α) (source target : Locator α),
        (r.rebase source target).size ≤ r.size ∧
          ((r.rebase source target).isEmpty = true ↔ r.isEmpty = true) := by
  constructor
  · intro r reachable source target free
    exact ⟨size_rebase free reachable.canonical, rebase_rebase free reachable.canonical⟩
  · intro r source target
    constructor
    · have bound := size_ofList_le (r.toList.map (·.rebase source target))
      rwa [List.length_map, length_toList] at bound
    · rw [isEmpty_iff, isEmpty_iff, rebase, toList_ofList_eq_nil_iff, List.map_eq_nil_iff]

theorem rebase_to_free_target_in_source :
    (ofList [⟨["c"]⟩, ⟨["a", "y"]⟩, ⟨["a"]⟩] : Region String).size = 2 ∧
      ((ofList [⟨["c"]⟩, ⟨["a", "y"]⟩, ⟨["a"]⟩] : Region String).rebase ⟨["a"]⟩
        ⟨["a", "b"]⟩).size = 2 ∧
      ((ofList [⟨["c"]⟩, ⟨["a", "y"]⟩, ⟨["a"]⟩] : Region String).rebase ⟨["a"]⟩
        ⟨["a", "b"]⟩).rebase ⟨["a", "b"]⟩ ⟨["a"]⟩ = ofList [⟨["a"]⟩, ⟨["c"]⟩] ∧
      ((ofList [⟨["c"]⟩, ⟨["a"]⟩] : Region String).rebase ⟨["a"]⟩ root).size ≤ 2 := by
  have members : (ofList [⟨["c"]⟩, ⟨["a", "y"]⟩, ⟨["a"]⟩] : Region String) =
      ⟨#[⟨["a"]⟩, ⟨["c"]⟩]⟩ := by cbv
  have sorted : (ofList [⟨["a"]⟩, ⟨["c"]⟩] : Region String) = ⟨#[⟨["a"]⟩, ⟨["c"]⟩]⟩ := by cbv
  obtain ⟨size, back⟩ := rebase_to_free_target.1 _
    (reachable_ofList ([⟨["c"]⟩, ⟨["a", "y"]⟩, ⟨["a"]⟩] : List (Locator String)))
    ⟨["a"]⟩ ⟨["a", "b"]⟩ (by rw [members]; decide)
  have smaller := (rebase_to_free_target.2
    (ofList [⟨["c"]⟩, ⟨["a"]⟩] : Region String) ⟨["a"]⟩ root).1
  have two : (ofList [⟨["c"]⟩, ⟨["a", "y"]⟩, ⟨["a"]⟩] : Region String).size = 2 := by
    rw [members]
    rfl
  refine ⟨two, size.trans two, back.trans (members.trans sorted.symm), smaller.trans ?_⟩
  exact size_ofList_le _

end Hierarchy.Region
