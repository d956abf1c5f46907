import Hierarchy.Proofs.Locator.Extent
import Hierarchy.Region.Basic

/-!
# Looking up a locator by bisection

A locator splits increasing members into those before its place and those from it on, and
bisection finds the split (`SplitAt.rank_eq`).  A member that covers the locator can only
be the last one before the split or the first one after it, and the members below the
locator are a run at the start of the second part.  So what a look at the neighbours says
of one or two members is true of all of them (`covers_iff`, `overlaps_iff`), and the run
holds every member below the locator (`toList_under_eq_filter`).
-/

set_option autoImplicit false

namespace Hierarchy.Region

open Locator

universe u

variable {α : Type u} [Ord α] [Std.TransOrd α]

/-! ## The split at a locator -/

/-- The members of `r` are `before`, which come before `l`, and then `after`, which do not. -/
structure SplitAt (r : Region α) (l : Locator α) (before after : List (Locator α)) : Prop where
  toList_eq : r.toList = before ++ after
  lt : ∀ m ∈ before, compare m l = .lt
  le : ∀ m ∈ after, (compare l m).isLE = true

private theorem exists_partition (l : Locator α) (ls : List (Locator α))
    (increasing : Increasing ls) :
    ∃ before after, ls = before ++ after ∧ (∀ m ∈ before, compare m l = .lt) ∧
      ∀ m ∈ after, (compare l m).isLE = true := by
  induction ls with
  | nil => exact ⟨[], [], rfl, by simp, by simp⟩
  | cons m rest ih =>
      obtain ⟨mFirst, restIncreasing⟩ := List.pairwise_cons.1 increasing
      by_cases less : compare m l = .lt
      · obtain ⟨before, after, rfl, lt, le⟩ := ih restIncreasing
        refine ⟨m :: before, after, rfl, ?_, le⟩
        intro k listed
        rcases List.mem_cons.1 listed with rfl | earlier
        · exact less
        · exact lt k earlier
      · have reached : (compare l m).isLE = true := by
          rw [Std.OrientedOrd.eq_swap, Ordering.isLE_swap]
          exact Ordering.isGE_iff_ne_lt.2 less
        refine ⟨[], m :: rest, rfl, by simp, ?_⟩
        intro k listed
        rcases List.mem_cons.1 listed with rfl | later
        · exact reached
        · exact Std.TransOrd.isLE_trans reached (Ordering.isLE_of_eq_lt (mFirst k later))

theorem exists_splitAt {r : Region α} (increasing : Increasing r.toList) (l : Locator α) :
    ∃ before after, r.SplitAt l before after := by
  obtain ⟨before, after, toList_eq, lt, le⟩ := exists_partition l r.toList increasing
  exact ⟨before, after, toList_eq, lt, le⟩

omit [Std.TransOrd α] in
theorem SplitAt.after_increasing {r : Region α} {l : Locator α}
    {before after : List (Locator α)} (split : r.SplitAt l before after)
    (increasing : Increasing r.toList) : Increasing after := by
  rw [split.toList_eq] at increasing
  exact (List.pairwise_append.1 increasing).2.1

theorem SplitAt.rank_eq {r : Region α} {l : Locator α} {before after : List (Locator α)}
    (split : r.SplitAt l before after) : r.rank l = before.length := by
  rcases r with ⟨⟨members⟩⟩
  obtain ⟨rfl, lt, le⟩ := split
  refine Bisect.lowerBound_eq_of_partition _ _ _ ?_ ?_ ?_
  · simp
  · intro i inside early
    have less := lt before[i] (List.getElem_mem early)
    simp [List.getElem_append_left early, less]
  · intro i inside late
    have bound : i - before.length < after.length := by simp at inside; omega
    have notLess := Std.OrientedCmp.not_lt_of_isLE (le _ (List.getElem_mem bound))
    rw [← Bool.not_eq_true, Ordering.isLT_iff_eq_lt]
    simpa [List.getElem_append_right late] using notLess

omit [Std.TransOrd α] in
private theorem before?_eq_getElem? (r : Region α) (l : Locator α) :
    r.before? l = if 0 < r.rank l then r.toList[r.rank l - 1]? else none := by
  rw [before?]
  by_cases positive : 0 < r.rank l
  · have inside : r.rank l - 1 < r.members.size := by
      have := r.rank_le_size l
      omega
    rw [dif_pos positive, if_pos positive, toList, Array.getElem?_toList,
      Array.getElem?_eq_getElem inside]
  · rw [dif_neg positive, if_neg positive]

theorem SplitAt.before?_eq {r : Region α} {l : Locator α} {before after : List (Locator α)}
    (split : r.SplitAt l before after) : r.before? l = before.getLast? := by
  rw [before?_eq_getElem?, split.rank_eq, split.toList_eq, List.getLast?_eq_getElem?]
  by_cases positive : 0 < before.length
  · rw [if_pos positive, List.getElem?_append_left (by omega)]
  · have empty : before = [] := List.eq_nil_of_length_eq_zero (by omega)
    rw [if_neg positive, empty, List.getElem?_nil]

theorem SplitAt.from?_eq {r : Region α} {l : Locator α} {before after : List (Locator α)}
    (split : r.SplitAt l before after) : r.from? l = after.head? := by
  rw [from?, ← Array.getElem?_toList, ← toList, split.rank_eq, split.toList_eq,
    List.getElem?_append_right (Nat.le_refl _), Nat.sub_self, List.head?_eq_getElem?]

variable [DecidableEq α] [Std.LawfulEqOrd α]

/-! ## The run below a locator -/

omit [Ord α] [Std.TransOrd α] [DecidableEq α] [Std.LawfulEqOrd α] in
theorem drop_length_takeWhile (p : Locator α → Bool) (ls : List (Locator α)) :
    ls.drop (ls.takeWhile p).length = ls.dropWhile p := by
  have parts : (ls.takeWhile p ++ ls.dropWhile p).drop (ls.takeWhile p).length = ls.dropWhile p :=
    List.drop_left
  rwa [List.takeWhile_append_dropWhile] at parts

omit [Std.LawfulEqOrd α] in
theorem SplitAt.toList_under_eq {r : Region α} {l : Locator α}
    {before after : List (Locator α)} (split : r.SplitAt l before after) :
    (r.under l).toList = after.takeWhile (l.isPrefixOf ·) := by
  rw [toList_under, split.rank_eq, split.toList_eq, List.drop_left]

private theorem not_isPrefixOf_of_left {l m : Locator α} {rest : List (Locator α)}
    (reached : (compare l m).isLE = true) (left : ¬l.isPrefixOf m = true)
    (mFirst : ∀ k ∈ rest, compare m k = .lt) : ∀ k ∈ rest, ¬l.isPrefixOf k = true := by
  intro k later below
  exact left (isPrefixOf_of_between reached (Ordering.isLE_of_eq_lt (mFirst k later)) below)

theorem run_eq_filter {l : Locator α} {ls : List (Locator α)} (increasing : Increasing ls)
    (reached : ∀ m ∈ ls, (compare l m).isLE = true) :
    ls.takeWhile (l.isPrefixOf ·) = ls.filter (l.isPrefixOf ·) ∧
      ls.dropWhile (l.isPrefixOf ·) = ls.filter (!l.isPrefixOf ·) := by
  induction ls with
  | nil => exact ⟨rfl, rfl⟩
  | cons m rest ih =>
      obtain ⟨mFirst, restIncreasing⟩ := List.pairwise_cons.1 increasing
      obtain ⟨taken, dropped⟩ :=
        ih restIncreasing fun k later => reached k (List.mem_cons_of_mem m later)
      by_cases below : l.isPrefixOf m = true
      · rw [List.takeWhile_cons_of_pos below, List.dropWhile_cons_of_pos below, taken, dropped]
        simp [below]
      -- an increasing list that has left the subtree at `l` does not come back to it
      · have gone := not_isPrefixOf_of_left (reached m List.mem_cons_self) below mFirst
        rw [List.takeWhile_cons_of_neg below, List.dropWhile_cons_of_neg below]
        constructor
        · rw [List.filter_cons_of_neg below, List.filter_eq_nil_iff.2 gone]
        · rw [List.filter_eq_self.2]
          intro k listed
          rcases List.mem_cons.1 listed with rfl | later
          · simpa using below
          · simpa using gone k later

omit [Std.LawfulEqOrd α] in
private theorem filter_eq_nil_of_lt {l : Locator α} {ls : List (Locator α)}
    (lt : ∀ m ∈ ls, compare m l = .lt) : ls.filter (l.isPrefixOf ·) = [] := by
  rw [List.filter_eq_nil_iff]
  intro m listed
  exact Bool.eq_false_iff.1 (isPrefixOf_eq_false_of_lt (lt m listed))

theorem toList_under_eq_filter {r : Region α} (increasing : Increasing r.toList)
    (l : Locator α) : (r.under l).toList = r.toList.filter (l.isPrefixOf ·) := by
  obtain ⟨before, after, split⟩ := exists_splitAt increasing l
  rw [split.toList_under_eq, split.toList_eq, List.filter_append, filter_eq_nil_of_lt split.lt,
    (run_eq_filter (split.after_increasing increasing) split.le).1, List.nil_append]

/-! ## The neighbours of a locator -/

omit [Ord α] [Std.TransOrd α] [Std.LawfulEqOrd α] [DecidableEq α] in
private theorem any_head?_iff {p : Locator α → Bool} {ls : List (Locator α)} :
    ls.head?.any p = true ↔ ls.takeWhile p ≠ [] := by
  cases ls with
  | nil => simp
  | cons m rest => by_cases holds : p m = true <;> simp [holds]

theorem any_from?_iff {r : Region α} (increasing : Increasing r.toList) {l : Locator α} :
    (r.from? l).any (l.isPrefixOf ·) = true ↔ ∃ m ∈ r.toList, l.isPrefixOf m = true := by
  obtain ⟨before, after, split⟩ := exists_splitAt increasing l
  rw [split.from?_eq, any_head?_iff, ← split.toList_under_eq,
    toList_under_eq_filter increasing, Ne, List.filter_eq_nil_iff]
  simp

omit [Std.LawfulEqOrd α] [DecidableEq α] in
private theorem head?_eq_of_mem {l : Locator α} {after : List (Locator α)}
    (increasing : Increasing after) (reached : ∀ k ∈ after, (compare l k).isLE = true)
    (listed : l ∈ after) : after.head? = some l := by
  cases after with
  | nil => cases listed
  | cons first rest =>
      rcases List.mem_cons.1 listed with rfl | later
      · rfl
      · have less := (List.pairwise_cons.1 increasing).1 l later
        exact absurd (reached first List.mem_cons_self) (Std.OrientedCmp.not_isLE_of_lt less)

omit [DecidableEq α] in
/-- Bisection hits a locator just in case it is a member. -/
theorem SplitAt.from?_eq_some_iff {r : Region α} {l : Locator α}
    {before after : List (Locator α)} (split : r.SplitAt l before after)
    (increasing : Increasing r.toList) : r.from? l = some l ↔ l ∈ r.toList := by
  rw [split.from?_eq]
  constructor
  · intro found
    exact split.toList_eq ▸ List.mem_append_right before (List.mem_of_mem_head? found)
  · intro member
    rw [split.toList_eq] at member
    rcases List.mem_append.1 member with early | late
    · exact absurd rfl (ne_of_compare_eq_lt (split.lt l early))
    · exact head?_eq_of_mem (split.after_increasing increasing) split.le late

/-- The member before the place of `l` covers `l` just in case one other than `l` does. -/
theorem any_before?_iff {r : Region α} (canonical : Canonical r.toList) {l : Locator α} :
    (r.before? l).any (·.isPrefixOf l) = true ↔
      ∃ m ∈ r.toList, m ≠ l ∧ m.isPrefixOf l = true := by
  obtain ⟨before, after, split⟩ := exists_splitAt canonical.increasing l
  have passed : ∀ m ∈ before, (compare m l).isLE = true := by
    intro m early
    exact Ordering.isLE_of_eq_lt (split.lt m early)
  rw [split.toList_eq] at canonical ⊢
  have beforeCanonical := canonical.sublist (List.sublist_append_left before after)
  rw [split.before?_eq, beforeCanonical.any_getLast?_iff passed]
  constructor
  · rintro ⟨m, early, above⟩
    exact ⟨m, List.mem_append_left after early, ne_of_compare_eq_lt (split.lt m early), above⟩
  · rintro ⟨m, listed, differs, above⟩
    rcases List.mem_append.1 listed with early | late
    · exact ⟨m, early, above⟩
    · exact absurd (eq_of_isPrefixOf_of_isLE above (split.le m late)) differs

theorem covers_iff {r : Region α} (canonical : Canonical r.toList) {l : Locator α} :
    r.covers l = true ↔ l ∈ extent r.toList := by
  obtain ⟨before, after, split⟩ := exists_splitAt canonical.increasing l
  rw [covers, Bool.or_eq_true, beq_iff_eq, split.from?_eq_some_iff canonical.increasing,
    any_before?_iff canonical]
  constructor
  · rintro (member | ⟨m, listed, _, above⟩)
    · exact mem_extent_of_mem member
    · exact ⟨m, listed, above⟩
  · rintro ⟨m, listed, above⟩
    by_cases same : m = l
    · exact Or.inl (same ▸ listed)
    · exact Or.inr ⟨m, listed, same, above⟩

theorem overlaps_iff {r : Region α} (canonical : Canonical r.toList) {l : Locator α} :
    r.overlaps l = true ↔ ∃ m ∈ r.toList, m.overlaps l = true := by
  rw [overlaps, Bool.or_eq_true, covers_iff canonical, any_from?_iff canonical.increasing,
    mem_extent, ← exists_or]
  refine exists_congr fun m => ?_
  rw [← and_or_left, Locator.overlaps_iff, or_comm]

end Hierarchy.Region
