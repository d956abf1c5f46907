/-!
# Bisection

Finding the place of a key in an array whose elements are partitioned: first those below
the key, then those at or above it.  `lowerBound` returns the number of elements below, in
logarithmically many looks, and `lowerBound_eq_of_partition` says that any index splitting
the array that way is the one it returns.
-/

set_option autoImplicit false

namespace Hierarchy.Bisect

universe u

variable {α : Type u}

/-- Narrows `[lo, hi)`: everything before `lo` is below the key, nothing from `hi` on is. -/
def search (xs : Array α) (below : α → Bool) (lo hi : Nat) (bound : hi ≤ xs.size) : Nat :=
  if nonempty : lo < hi then
    have inside : lo + (hi - lo) / 2 < xs.size := by omega
    if below xs[lo + (hi - lo) / 2] then
      search xs below (lo + (hi - lo) / 2 + 1) hi bound
    else
      search xs below lo (lo + (hi - lo) / 2) (by omega)
  else lo
termination_by hi - lo

def lowerBound (xs : Array α) (below : α → Bool) : Nat :=
  search xs below 0 xs.size (Nat.le_refl _)

theorem search_le (xs : Array α) (below : α → Bool) (lo hi : Nat) (bound : hi ≤ xs.size)
    (ordered : lo ≤ hi) : search xs below lo hi bound ≤ hi := by
  fun_induction search xs below lo hi bound with
  | case1 lo hi bound nonempty inside isBelow ih => exact ih (by omega)
  | case2 lo hi bound nonempty inside isBelow ih =>
      have narrowed := ih (by omega)
      omega
  | case3 lo hi bound empty => exact ordered

theorem lowerBound_le_size (xs : Array α) (below : α → Bool) :
    lowerBound xs below ≤ xs.size :=
  search_le xs below 0 xs.size (Nat.le_refl _) (Nat.zero_le _)

theorem search_eq_of_partition (xs : Array α) (below : α → Bool) (lo hi : Nat)
    (bound : hi ≤ xs.size) (cut : Nat) (cutLow : lo ≤ cut) (cutHigh : cut ≤ hi)
    (before : ∀ i (h : i < xs.size), i < cut → below xs[i] = true)
    (after : ∀ i (h : i < xs.size), cut ≤ i → below xs[i] = false) :
    search xs below lo hi bound = cut := by
  fun_induction search xs below lo hi bound with
  | case1 lo hi bound nonempty inside isBelow ih =>
      refine ih ?_ cutHigh
      by_cases past : lo + (hi - lo) / 2 < cut
      · omega
      · rw [after _ inside (by omega)] at isBelow
        simp at isBelow
  | case2 lo hi bound nonempty inside notBelow ih =>
      refine ih cutLow ?_
      by_cases past : lo + (hi - lo) / 2 < cut
      · exact absurd (before _ inside past) notBelow
      · omega
  | case3 lo hi bound empty => omega

/-- An index that splits the array at the key is the one bisection finds. -/
theorem lowerBound_eq_of_partition (xs : Array α) (below : α → Bool) (cut : Nat)
    (cutHigh : cut ≤ xs.size)
    (before : ∀ i (h : i < xs.size), i < cut → below xs[i] = true)
    (after : ∀ i (h : i < xs.size), cut ≤ i → below xs[i] = false) :
    lowerBound xs below = cut :=
  search_eq_of_partition xs below 0 xs.size (Nat.le_refl _) cut (Nat.zero_le _) cutHigh
    before after

end Hierarchy.Bisect
