import Hierarchy.Proofs.Region.History

/-!
# What a region covers

The two lookups of a region answer for every locator that the region was ever made of.
Coverage is all there is to a region: regions that cover the same are equal, and the union
of two regions is the least region that covers what either of them does.
-/

set_option autoImplicit false

namespace Hierarchy.Region

open Locator

universe u

variable {α : Type u} [DecidableEq α] [Ord α] [Std.TransOrd α] [Std.LawfulEqOrd α]

/-! ## Lookups against a scan -/

theorem covers_ofList_iff {ls : List (Locator α)} {x : Locator α} :
    (ofList ls).covers x = true ↔ ∃ l ∈ ls, l.isPrefixOf x = true := by
  rw [covers_iff (canonical_ofList ls), extent_ofList, mem_extent]

theorem overlaps_ofList_iff {ls : List (Locator α)} {x : Locator α} :
    (ofList ls).overlaps x = true ↔ ∃ l ∈ ls, l.overlaps x = true := by
  rw [overlaps_iff (canonical_ofList ls), exists_overlaps_iff, extent_ofList,
    exists_overlaps_iff]

theorem covers_ofList (ls : List (Locator α)) (x : Locator α) :
    (ofList ls).covers x = ls.any fun l => l.isPrefixOf x := by
  rw [Bool.eq_iff_iff, covers_ofList_iff, List.any_eq_true]

theorem overlaps_ofList (ls : List (Locator α)) (x : Locator α) :
    (ofList ls).overlaps x = ls.any fun l => l.overlaps x := by
  rw [Bool.eq_iff_iff, overlaps_ofList_iff, List.any_eq_true]

/-- Both lookups give the answer of a scan over all locators that were listed, and of a
scan over all members. -/
theorem lookups_eq_scan :
    (∀ (ls : List (Locator α)) (x : Locator α),
      ((ofList ls).covers x = true ↔ ∃ l ∈ ls, l.isPrefixOf x = true) ∧
        ((ofList ls).overlaps x = true ↔ ∃ l ∈ ls, l.overlaps x = true)) ∧
      ∀ r : Region α, r.Reachable → ∀ x : Locator α,
        (r.covers x = true ↔ ∃ m ∈ r.toList, m.isPrefixOf x = true) ∧
          (r.overlaps x = true ↔ ∃ m ∈ r.toList, m.overlaps x = true) := by
  constructor
  · intro ls x
    exact ⟨covers_ofList_iff, overlaps_ofList_iff⟩
  · intro r reachable x
    exact ⟨covers_iff reachable.canonical, overlaps_iff reachable.canonical⟩

theorem lookups_eq_scan_of_listed :
    (ofList [⟨["a", "b"]⟩, ⟨["a"]⟩, ⟨["c", "d"]⟩] : Region String).covers ⟨["a", "x"]⟩ = true ∧
      (singleton ⟨["c", "d"]⟩ : Region String).overlaps ⟨["c"]⟩ = true ∧
      ¬(singleton ⟨["c", "d"]⟩ : Region String).covers ⟨["c"]⟩ = true := by
  have reachable : (singleton ⟨["c", "d"]⟩ : Region String).Reachable :=
    .edit (.single ⟨["c", "d"]⟩) .empty (fun _ given => nomatch given)
  obtain ⟨covers, overlaps⟩ := lookups_eq_scan.2 _ reachable ⟨["c"]⟩
  refine ⟨(lookups_eq_scan.1 _ _).1.2 ⟨⟨["a"]⟩, by simp, by decide⟩, ?_, ?_⟩
  · exact overlaps.2 ⟨⟨["c", "d"]⟩, by simp, by decide⟩
  · rw [covers, toList_singleton]
    decide

/-! ## Coverage determines a region -/

theorem extent_subset_iff_covers {ls : List (Locator α)} {r : Region α}
    (canonical : Canonical r.toList) :
    extent ls ⊆ extent r.toList ↔ ∀ l ∈ ls, r.covers l = true := by
  simp only [extent_subset_iff, covers_iff canonical]

theorem eq_iff_extent_eq {a b : Region α} (aCanonical : Canonical a.toList)
    (bCanonical : Canonical b.toList) : a = b ↔ extent a.toList = extent b.toList := by
  constructor
  · rintro rfl
    rfl
  · intro same
    exact eq_iff_toList_eq.2 (aCanonical.eq_of_extent_eq bCanonical same)

theorem ofList_eq_ofList_iff {ls ks : List (Locator α)} :
    ofList ls = ofList ks ↔ extent ls = extent ks := by
  rw [eq_iff_extent_eq (canonical_ofList ls) (canonical_ofList ks), extent_ofList, extent_ofList]

theorem eq_iff_covers_eq {a b : Region α} (aCanonical : Canonical a.toList)
    (bCanonical : Canonical b.toList) : a = b ↔ ∀ x, a.covers x = b.covers x := by
  rw [eq_iff_extent_eq aCanonical bCanonical, Set.ext_iff]
  simp only [Bool.eq_iff_iff, covers_iff aCanonical, covers_iff bCanonical]

theorem union_eq_right_iff {a b : Region α} (aCanonical : Canonical a.toList)
    (bCanonical : Canonical b.toList) :
    a.union b = b ↔ ∀ m ∈ a.toList, b.covers m = true := by
  rw [eq_iff_extent_eq (canonical_union aCanonical bCanonical) bCanonical, extent_union,
    Set.union_eq_right, extent_subset_iff_covers bCanonical]

/-- Regions are equal if they cover the same, and `union` is the least upper bound in the
order of coverage, which is antisymmetric. -/
theorem covers_determines_and_union_lub {a b : Region α} (aReachable : a.Reachable)
    (bReachable : b.Reachable) :
    (a = b ↔ ∀ x, a.covers x = b.covers x) ∧
      (∀ c : Region α, c.Reachable →
        ((∀ m ∈ (a.union b).toList, c.covers m = true) ↔
          (∀ m ∈ a.toList, c.covers m = true) ∧ ∀ m ∈ b.toList, c.covers m = true)) ∧
      (a.union b = b ↔ ∀ m ∈ a.toList, b.covers m = true) ∧
      ((∀ m ∈ a.toList, b.covers m = true) → (∀ m ∈ b.toList, a.covers m = true) →
        a = b) := by
  have aCanonical := aReachable.canonical
  have bCanonical := bReachable.canonical
  refine ⟨eq_iff_covers_eq aCanonical bCanonical, ?_, union_eq_right_iff aCanonical bCanonical,
    ?_⟩
  · intro c cReachable
    have cCanonical := cReachable.canonical
    rw [← extent_subset_iff_covers cCanonical, ← extent_subset_iff_covers cCanonical,
      ← extent_subset_iff_covers cCanonical, extent_union, Set.union_subset_iff]
  · intro aInB bInA
    rw [← extent_subset_iff_covers bCanonical] at aInB
    rw [← extent_subset_iff_covers aCanonical] at bInA
    exact (eq_iff_extent_eq aCanonical bCanonical).2 (aInB.antisymm bInA)

theorem covers_determines_and_union_lub_of_nested :
    (∀ m ∈ (ofList [⟨["a", "x"]⟩, ⟨["b"]⟩] : Region String).toList,
        (ofList [⟨["b"]⟩, ⟨["a"]⟩]).covers m = true) ∧
      (ofList [⟨["a", "x"]⟩, ⟨["b"]⟩] : Region String).union (ofList [⟨["b"]⟩, ⟨["a"]⟩]) =
        ofList [⟨["b"]⟩, ⟨["a"]⟩] ∧
      (ofList [⟨["a", "x"]⟩, ⟨["b"]⟩] : Region String) ≠ ofList [⟨["b"]⟩, ⟨["a"]⟩] := by
  obtain ⟨extensional, _, absorbed, _⟩ :=
    covers_determines_and_union_lub (reachable_ofList [⟨["a", "x"]⟩, ⟨["b"]⟩])
      (reachable_ofList ([⟨["b"]⟩, ⟨["a"]⟩] : List (Locator String)))
  have members : (ofList [⟨["a", "x"]⟩, ⟨["b"]⟩] : Region String).toList =
      [⟨["a", "x"]⟩, ⟨["b"]⟩] := by cbv
  have inside : ∀ m ∈ (ofList [⟨["a", "x"]⟩, ⟨["b"]⟩] : Region String).toList,
      (ofList [⟨["b"]⟩, ⟨["a"]⟩]).covers m = true := by
    rw [members]
    simp only [List.mem_cons, List.not_mem_nil, or_false, forall_eq_or_imp, forall_eq]
    constructor <;> cbv
  refine ⟨inside, absorbed.2 inside, ?_⟩
  intro same
  have outside : (ofList [⟨["a", "x"]⟩, ⟨["b"]⟩] : Region String).covers ⟨["a"]⟩ ≠
      (ofList [⟨["b"]⟩, ⟨["a"]⟩]).covers ⟨["a"]⟩ := by cbv; decide
  exact outside (extensional.1 same ⟨["a"]⟩)

end Hierarchy.Region
