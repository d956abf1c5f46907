import Hierarchy.Proofs.Locator.Meet
import Mathlib.Logic.ExistsUnique

/-!
# All subtrees look alike

Rebasing exchanges the way down to the source for the way down to the target and keeps what
lies behind it.  So it maps the subtree at the source one to one onto the subtree at the
target, the way back being to rebase from the target to the source, and it keeps whatever
depends on the places within the subtree only: prefixes, the sorting order, common prefixes
and going further down (`rebase_isomorphism`).
-/

set_option autoImplicit false

namespace Hierarchy.Locator

universe u

variable {α : Type u} [DecidableEq α] {source a b : Locator α}

/-! ## One locator -/

section One

variable (below : source.isPrefixOf a = true)

include below

theorem isPrefixOf_rebase (target : Locator α) :
    target.isPrefixOf (a.rebase source target) = true := by
  obtain ⟨inner, rfl⟩ := isPrefixOf_iff.1 below
  rw [rebase_append]
  exact isPrefixOf_append target inner

theorem rebase_rebase_of_isPrefixOf (target : Locator α) :
    (a.rebase source target).rebase target source = a := by
  obtain ⟨inner, rfl⟩ := isPrefixOf_iff.1 below
  rw [rebase_append, rebase_append]

theorem append_rebase (target rest : Locator α) :
    (a ++ rest).rebase source target = a.rebase source target ++ rest := by
  obtain ⟨inner, rfl⟩ := isPrefixOf_iff.1 below
  rw [append_assoc, rebase_append, rebase_append, append_assoc]

end One

/-- Every place under the target stems from one place under the source. -/
theorem existsUnique_rebase_eq (source : Locator α) {target y : Locator α}
    (under : target.isPrefixOf y = true) :
    ∃! x, source.isPrefixOf x = true ∧ x.rebase source target = y := by
  refine ⟨y.rebase target source, ?_, ?_⟩
  · exact ⟨isPrefixOf_rebase under source, rebase_rebase_of_isPrefixOf under source⟩
  · intro x stems
    obtain ⟨below, moved⟩ := stems
    rw [← moved, rebase_rebase_of_isPrefixOf below]

/-! ## Two locators -/

section Two

variable (aBelow : source.isPrefixOf a = true) (bBelow : source.isPrefixOf b = true)

include aBelow bBelow

theorem rebase_isPrefixOf_rebase_iff (target : Locator α) :
    (a.rebase source target).isPrefixOf (b.rebase source target) = true ↔
      a.isPrefixOf b = true := by
  obtain ⟨aInner, rfl⟩ := isPrefixOf_iff.1 aBelow
  obtain ⟨bInner, rfl⟩ := isPrefixOf_iff.1 bBelow
  rw [rebase_append, rebase_append, isPrefixOf_append_append_iff, isPrefixOf_append_append_iff]

theorem commonPrefix_rebase_rebase (target : Locator α) :
    (a.rebase source target).commonPrefix (b.rebase source target) =
      (a.commonPrefix b).rebase source target := by
  obtain ⟨aInner, rfl⟩ := isPrefixOf_iff.1 aBelow
  obtain ⟨bInner, rfl⟩ := isPrefixOf_iff.1 bBelow
  rw [commonPrefix_append_append, rebase_append, rebase_append, rebase_append,
    commonPrefix_append_append]

variable [Ord α] [Std.TransOrd α]

theorem compare_rebase_rebase (target : Locator α) :
    compare (a.rebase source target) (b.rebase source target) = compare a b := by
  obtain ⟨aInner, rfl⟩ := isPrefixOf_iff.1 aBelow
  obtain ⟨bInner, rfl⟩ := isPrefixOf_iff.1 bBelow
  rw [rebase_append, rebase_append, compare_append_append, compare_append_append]

/-- Rebasing maps the subtree at the source one to one onto the subtree at the target, is
undone by rebasing back, and keeps prefixes, the order, common prefixes and what is put
behind a locator.  Locators outside the source stay. -/
theorem rebase_isomorphism (target : Locator α) :
    target.isPrefixOf (a.rebase source target) = true ∧
      (a.rebase source target).rebase target source = a ∧
      (∀ y, target.isPrefixOf y = true →
        ∃! x, source.isPrefixOf x = true ∧ x.rebase source target = y) ∧
      ((b.rebase source target).isPrefixOf (a.rebase source target) = true ↔
        b.isPrefixOf a = true) ∧
      compare (a.rebase source target) (b.rebase source target) = compare a b ∧
      (a.rebase source target).commonPrefix (b.rebase source target) =
        (a.commonPrefix b).rebase source target ∧
      (∀ c, (a ++ c).rebase source target = a.rebase source target ++ c) ∧
      ∀ x, source.isPrefixOf x = false → x.rebase source target = x := by
  refine ⟨isPrefixOf_rebase aBelow target, rebase_rebase_of_isPrefixOf aBelow target, ?_,
    rebase_isPrefixOf_rebase_iff bBelow aBelow target, compare_rebase_rebase aBelow bBelow target,
    commonPrefix_rebase_rebase aBelow bBelow target, append_rebase aBelow target, ?_⟩
  · intro y under
    exact existsUnique_rebase_eq source under
  · intro x outside
    exact rebase_of_not_isPrefixOf target outside

end Two

theorem rebase_isomorphism_to_deeper_target :
    ((⟨["a", "b"]⟩ : Locator String).rebase ⟨["a"]⟩ ⟨["x", "y"]⟩).rebase ⟨["x", "y"]⟩ ⟨["a"]⟩ =
        ⟨["a", "b"]⟩ ∧
      (∃! x, (⟨["a"]⟩ : Locator String).isPrefixOf x = true ∧
        x.rebase ⟨["a"]⟩ ⟨["x", "y"]⟩ = ⟨["x", "y"]⟩) ∧
      compare ((⟨["a", "b"]⟩ : Locator String).rebase ⟨["a"]⟩ ⟨["x", "y"]⟩)
        ((⟨["a", "c"]⟩ : Locator String).rebase ⟨["a"]⟩ ⟨["x", "y"]⟩) = .lt ∧
      ((⟨["a", "b"]⟩ : Locator String).rebase ⟨["a"]⟩ ⟨["x", "y"]⟩).commonPrefix
        ((⟨["a", "c"]⟩ : Locator String).rebase ⟨["a"]⟩ ⟨["x", "y"]⟩) = ⟨["x", "y"]⟩ ∧
      (⟨["x"]⟩ : Locator String).rebase ⟨["a"]⟩ ⟨["x", "y"]⟩ = ⟨["x"]⟩ := by
  have aBelow : (⟨["a"]⟩ : Locator String).isPrefixOf ⟨["a", "b"]⟩ = true := by decide
  have bBelow : (⟨["a"]⟩ : Locator String).isPrefixOf ⟨["a", "c"]⟩ = true := by decide
  obtain ⟨_, back, onto, _, order, common, _, outside⟩ :=
    rebase_isomorphism aBelow bBelow ⟨["x", "y"]⟩
  refine ⟨back, onto _ (by decide), order.trans (by decide), common.trans (by decide), ?_⟩
  exact outside _ (by decide)

end Hierarchy.Locator
