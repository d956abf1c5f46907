import Hierarchy.Proofs.Locator.Meet
import Hierarchy.Proofs.Region.History

/-!
# A look at the neighbours is enough

The places below a locator stand together in the sorting order.  So among increasing
members the one directly before a locator speaks for all that come before it, and the run
that starts at its place holds all that lie below it.  Pruning, which compares a locator
with the one kept last, drops it just in case anything read before covers it
(`prune_append_singleton`).
-/

set_option autoImplicit false

namespace Hierarchy.Region

open Locator

universe u

variable {α : Type u} [DecidableEq α]

/-! ## One more locator to prune -/

private theorem pruneAfter_append_singleton (kept : Locator α) (ls : List (Locator α))
    (l : Locator α) :
    kept :: pruneAfter kept (ls ++ [l]) =
      if (kept :: pruneAfter kept ls).getLast?.any (·.isPrefixOf l) then
        kept :: pruneAfter kept ls
      else kept :: pruneAfter kept ls ++ [l] := by
  induction ls generalizing kept with
  | nil =>
      rw [List.nil_append, pruneAfter, pruneAfter, pruneAfter, List.getLast?_singleton,
        Option.any_some]
      split <;> rfl
  | cons m rest ih =>
      rw [List.cons_append]
      by_cases covered : kept.isPrefixOf m = true
      · rw [pruneAfter, if_pos covered, pruneAfter, if_pos covered]
        exact ih kept
      · -- `m` is kept, and whoever comes last comes after `kept`
        rw [pruneAfter, if_neg covered, pruneAfter, if_neg covered, List.getLast?_cons_cons, ih m]
        split <;> rfl

theorem prune_append_singleton_eq (ls : List (Locator α)) (l : Locator α) :
    prune (ls ++ [l]) =
      if (prune ls).getLast?.any (·.isPrefixOf l) then prune ls else prune ls ++ [l] := by
  cases ls with
  | nil => rfl
  | cons first rest => exact pruneAfter_append_singleton first rest l

variable [Ord α] [Std.TransOrd α] [Std.LawfulEqOrd α]

/-- In increasing order, the locator kept last covers the next one if any earlier one does. -/
theorem prune_append_singleton {ls : List (Locator α)} {l : Locator α}
    (ordered : (ls ++ [l]).Pairwise fun a b => (compare a b).isLE = true) :
    prune (ls ++ [l]) =
      if ls.any (·.isPrefixOf l) then prune ls else prune ls ++ [l] := by
  obtain ⟨lsOrdered, _, passed⟩ := List.pairwise_append.1 ordered
  have keptPassed : ∀ m ∈ prune ls, (compare m l).isLE = true := by
    intro m kept
    exact passed m ((prune_sublist ls).subset kept) l List.mem_cons_self
  have speaks : (prune ls).getLast?.any (·.isPrefixOf l) = ls.any (·.isPrefixOf l) := by
    rw [Bool.eq_iff_iff, (canonical_prune lsOrdered).any_getLast?_iff keptPassed, extent_prune,
      mem_extent, List.any_eq_true]
  rw [prune_append_singleton_eq, speaks]

/-! ## Three locators in order, and the neighbours of one -/

/-- Of three locators in order, the outer two share the shorter one of what each shares with
the middle one, and the places below a locator are the run of the order that starts at it.
So the member before the place of a locator tells whether another member covers it, the
members from that place on begin with those below it, and pruning an increasing list drops
a locator just in case any earlier one covers it. -/
theorem prefixes_follow_order {a b c : Locator α} (ab : (compare a b).isLE = true)
    (bc : (compare b c).isLE = true) :
    a.commonPrefix c = shorter (a.commonPrefix b) (b.commonPrefix c) ∧
      a.commonPrefix c = shorter (b.commonPrefix c) (a.commonPrefix b) ∧
      (∀ p x : Locator α, p.isPrefixOf x = true ↔
        (compare p x).isLE = true ∧ ∃ y, (compare x y).isLE = true ∧ p.isPrefixOf y = true) ∧
      (∀ r : Region α, r.Reachable → ∀ l : Locator α,
        ((r.before? l).any (·.isPrefixOf l) = true ↔
            ∃ m ∈ r.toList, m ≠ l ∧ m.isPrefixOf l = true) ∧
          ((r.from? l).any (l.isPrefixOf ·) = true ↔ ∃ m ∈ r.toList, l.isPrefixOf m = true) ∧
          (r.under l).toList = r.toList.filter (l.isPrefixOf ·)) ∧
      ∀ (ls : List (Locator α)) (l : Locator α),
        (ls ++ [l]).Pairwise (fun first second => (compare first second).isLE = true) →
          prune (ls ++ [l]) =
            if ls.any (·.isPrefixOf l) then prune ls else prune ls ++ [l] := by
  have shared := commonPrefix_eq_shorter ab bc
  have either :=
    shorter_comm (commonPrefix_isPrefixOf_right a b) (commonPrefix_isPrefixOf_left b c)
  refine ⟨shared, shared.trans either, fun _ _ => isPrefixOf_iff_between, ?_,
    fun _ _ => prune_append_singleton⟩
  intro r reachable l
  have canonical := reachable.canonical
  exact ⟨any_before?_iff canonical, any_from?_iff canonical.increasing,
    toList_under_eq_filter canonical.increasing l⟩

/-- The member that covers `p/b` stands directly before it, since the one between them was
dropped, and the run below `q` ends where `r` begins. -/
theorem prefixes_follow_order_of_nested_and_apart :
    let r : Region String := .ofList [⟨["q", "y"]⟩, ⟨["p", "a"]⟩, ⟨["r"]⟩, ⟨["p"]⟩, ⟨["q", "x"]⟩]
    shorter ((⟨["p", "a"]⟩ : Locator String).commonPrefix ⟨["p", "b"]⟩)
        ((⟨["p", "b"]⟩ : Locator String).commonPrefix ⟨["p", "b", "c"]⟩) = ⟨["p"]⟩ ∧
      (⟨["p"]⟩ : Locator String).isPrefixOf ⟨["p", "b"]⟩ = true ∧
      (r.before? ⟨["p", "b"]⟩).any (·.isPrefixOf ⟨["p", "b"]⟩) = true ∧
      (r.under ⟨["q"]⟩).toList = [⟨["q", "x"]⟩, ⟨["q", "y"]⟩] ∧
      prune ([⟨["p"]⟩, ⟨["p", "a"]⟩] ++ [⟨["p", "b"]⟩] : List (Locator String)) = [⟨["p"]⟩] := by
  intro r
  have members : r.toList = [⟨["p"]⟩, ⟨["q", "x"]⟩, ⟨["q", "y"]⟩, ⟨["r"]⟩] := by cbv
  obtain ⟨common, _, between, neighbours, pruned⟩ :=
    prefixes_follow_order (a := (⟨["p", "a"]⟩ : Locator String)) (b := ⟨["p", "b"]⟩)
      (c := ⟨["p", "b", "c"]⟩) (by decide) (by decide)
  obtain ⟨above, _, _⟩ := neighbours r (reachable_ofList _) ⟨["p", "b"]⟩
  obtain ⟨_, _, run⟩ := neighbours r (reachable_ofList _) ⟨["q"]⟩
  refine ⟨common.symm.trans (by decide), ?_, ?_, ?_, ?_⟩
  · exact (between _ _).2 ⟨by decide, ⟨["p", "b", "c"]⟩, by decide, by decide⟩
  · exact above.2 ⟨⟨["p"]⟩, by simp [members], by decide, by decide⟩
  · rw [run, members]
    decide
  · rw [pruned _ _ (by decide)]
    decide

end Hierarchy.Region
