import Hierarchy.Proofs.Locator.Prefix

/-!
# The deepest place above two locators

Prefixes order the locators partially, with the root below all others, and any two locators
have a greatest lower bound in that order, their common prefix (`isPrefixOf_commonPrefix_iff`).
The scan that finds it is looked at once, for the prefixes of its outcome.  Since a locator
is determined by its prefixes, all other laws follow from those of conjunction.

Of three locators in the sorting order, the outer two share the shorter one of what each of
them shares with the one between (`commonPrefix_eq_shorter`).
-/

set_option autoImplicit false

namespace Hierarchy.Locator

universe u

variable {α : Type u} [DecidableEq α]

/-! ## The greatest lower bound -/

theorem prefix_sharedTokens_iff {p xs ys : List α} :
    p <+: sharedTokens xs ys ↔ p <+: xs ∧ p <+: ys := by
  induction p generalizing xs ys with
  | nil => simp
  | cons token p ih =>
      cases xs with
      | nil => simp [sharedTokens]
      | cons x xs =>
          cases ys with
          | nil => simp [sharedTokens]
          | cons y ys =>
              rw [sharedTokens]
              by_cases same : x = y
              · subst same
                rw [if_pos rfl, List.cons_prefix_cons, List.cons_prefix_cons,
                  List.cons_prefix_cons, ih, and_and_left]
              · -- no token begins both lists
                rw [if_neg same, List.cons_prefix_cons, List.cons_prefix_cons]
                have apart : ¬(token = x ∧ token = y) := by
                  intro both
                  exact same (both.1.symm.trans both.2)
                simp only [List.prefix_nil, reduceCtorEq, false_iff]
                intro both
                exact apart ⟨both.1.1, both.2.1⟩

theorem isPrefixOf_commonPrefix_iff {p a b : Locator α} :
    p.isPrefixOf (a.commonPrefix b) = true ↔ p.isPrefixOf a = true ∧ p.isPrefixOf b = true := by
  rw [isPrefixOf_iff_tokens, isPrefixOf_iff_tokens, isPrefixOf_iff_tokens]
  exact prefix_sharedTokens_iff

theorem commonPrefix_isPrefixOf_left (a b : Locator α) :
    (a.commonPrefix b).isPrefixOf a = true :=
  (isPrefixOf_commonPrefix_iff.1 (isPrefixOf_refl _)).1

theorem commonPrefix_isPrefixOf_right (a b : Locator α) :
    (a.commonPrefix b).isPrefixOf b = true :=
  (isPrefixOf_commonPrefix_iff.1 (isPrefixOf_refl _)).2

private theorem sharedTokens_append_append (p a b : List α) :
    sharedTokens (p ++ a) (p ++ b) = p ++ sharedTokens a b := by
  induction p with
  | nil => rfl
  | cons token p ih =>
      rw [List.cons_append, List.cons_append, sharedTokens, if_pos rfl, ih, List.cons_append]

theorem commonPrefix_append_append (p a b : Locator α) :
    (p ++ a).commonPrefix (p ++ b) = p ++ a.commonPrefix b :=
  eq_iff_tokens_eq.2 (sharedTokens_append_append p.tokens a.tokens b.tokens)

/-! ## Laws of the meet -/

/-- Locators with the same prefixes are equal. -/
theorem eq_of_isPrefixOf_iff {a b : Locator α}
    (same : ∀ p : Locator α, p.isPrefixOf a = true ↔ p.isPrefixOf b = true) : a = b := by
  apply isPrefixOf_antisymm
  · exact (same a).1 (isPrefixOf_refl a)
  · exact (same b).2 (isPrefixOf_refl b)

theorem commonPrefix_comm (a b : Locator α) : a.commonPrefix b = b.commonPrefix a := by
  apply eq_of_isPrefixOf_iff
  intro p
  rw [isPrefixOf_commonPrefix_iff, isPrefixOf_commonPrefix_iff, and_comm]

theorem commonPrefix_assoc (a b c : Locator α) :
    (a.commonPrefix b).commonPrefix c = a.commonPrefix (b.commonPrefix c) := by
  apply eq_of_isPrefixOf_iff
  intro p
  simp only [isPrefixOf_commonPrefix_iff, and_assoc]

theorem commonPrefix_eq_left_iff {a b : Locator α} :
    a.commonPrefix b = a ↔ a.isPrefixOf b = true := by
  constructor
  · intro same
    rw [← same]
    exact commonPrefix_isPrefixOf_right a b
  · intro above
    apply isPrefixOf_antisymm (commonPrefix_isPrefixOf_left a b)
    exact isPrefixOf_commonPrefix_iff.2 ⟨isPrefixOf_refl a, above⟩

theorem commonPrefix_eq_right_iff {a b : Locator α} :
    a.commonPrefix b = b ↔ b.isPrefixOf a = true := by
  rw [commonPrefix_comm, commonPrefix_eq_left_iff]

theorem commonPrefix_self (a : Locator α) : a.commonPrefix a = a :=
  commonPrefix_eq_left_iff.2 (isPrefixOf_refl a)

theorem overlaps_iff_commonPrefix_eq {a b : Locator α} :
    a.overlaps b = true ↔ a.commonPrefix b = a ∨ a.commonPrefix b = b := by
  rw [commonPrefix_eq_left_iff, commonPrefix_eq_right_iff, overlaps_iff, or_comm]

/-- Prefixes are a partial order with the root at the bottom, in which `p` is below `l` if
one can go down from `p` to `l`, and then in one way.  Its meets are the common prefixes,
and two locators overlap if they have a common bound above, or if one of them is their
meet. -/
theorem prefix_order_has_meets (a b c p : Locator α) :
    a.isPrefixOf a = true ∧
      (a.isPrefixOf b = true → b.isPrefixOf c = true → a.isPrefixOf c = true) ∧
      (a.isPrefixOf b = true → b.isPrefixOf a = true → a = b) ∧
      root.isPrefixOf a = true ∧
      (p.isPrefixOf a = true ↔ ∃ rest, a = p ++ rest) ∧
      (∀ rest other, a = p ++ rest → a = p ++ other → rest = other) ∧
      (p.isPrefixOf (a.commonPrefix b) = true ↔
        p.isPrefixOf a = true ∧ p.isPrefixOf b = true) ∧
      a.commonPrefix b = b.commonPrefix a ∧
      (a.commonPrefix b).commonPrefix c = a.commonPrefix (b.commonPrefix c) ∧
      a.commonPrefix a = a ∧
      (a.overlaps b = true ↔ ∃ x, a.isPrefixOf x = true ∧ b.isPrefixOf x = true) ∧
      (a.overlaps b = true ↔ a.commonPrefix b = a ∨ a.commonPrefix b = b) := by
  have unique : ∀ rest other, a = p ++ rest → a = p ++ other → rest = other := by
    intro rest other reached also
    exact append_cancel_left (reached.symm.trans also)
  exact ⟨isPrefixOf_refl a, isPrefixOf_trans, isPrefixOf_antisymm, root_isPrefixOf a,
    isPrefixOf_iff, unique, isPrefixOf_commonPrefix_iff, commonPrefix_comm a b,
    commonPrefix_assoc a b c, commonPrefix_self a, overlaps_iff_exists_below,
    overlaps_iff_commonPrefix_eq⟩

theorem prefix_order_has_meets_of_siblings :
    (⟨["a"]⟩ : Locator String).isPrefixOf ⟨["a", "b", "c"]⟩ = true ∧
      (⟨["a"]⟩ ++ ⟨["b"]⟩ : Locator String) = ⟨["a", "b"]⟩ ∧
      (∀ rest, (⟨["a", "b"]⟩ : Locator String) = ⟨["a"]⟩ ++ rest → rest = ⟨["b"]⟩) ∧
      (⟨["a", "b"]⟩ : Locator String).commonPrefix ⟨["a", "c", "b"]⟩ = ⟨["a"]⟩ ∧
      ¬(⟨["a", "b"]⟩ : Locator String).overlaps ⟨["a", "c", "b"]⟩ = true := by
  obtain ⟨_, trans, _⟩ :=
    prefix_order_has_meets (⟨["a"]⟩ : Locator String) ⟨["a", "b"]⟩ ⟨["a", "b", "c"]⟩ root
  obtain ⟨_, _, antisymm, _⟩ :=
    prefix_order_has_meets (⟨["a"]⟩ ++ ⟨["b"]⟩ : Locator String) ⟨["a", "b"]⟩ root root
  obtain ⟨_, _, _, _, _, unique, _, _, _, _, _, overlaps⟩ :=
    prefix_order_has_meets (⟨["a", "b"]⟩ : Locator String) ⟨["a", "c", "b"]⟩ root ⟨["a"]⟩
  refine ⟨trans (by decide) (by decide), antisymm (by decide) (by decide), ?_, by decide, ?_⟩
  · intro rest reached
    exact unique rest ⟨["b"]⟩ reached (by decide)
  · rw [overlaps]
    decide

/-! ## Three locators in order -/

def shorter (a b : Locator α) : Locator α := if a.size ≤ b.size then a else b

/-- Two places above the same one share the upper one of them. -/
theorem shorter_eq_commonPrefix {p q l : Locator α} (pl : p.isPrefixOf l = true)
    (ql : q.isPrefixOf l = true) : shorter p q = p.commonPrefix q := by
  by_cases short : p.size ≤ q.size
  · rw [shorter, if_pos short, commonPrefix_eq_left_iff.2 (isPrefixOf_of_size_le pl ql short)]
  · have upper : q.isPrefixOf p = true := isPrefixOf_of_size_le ql pl (Nat.le_of_not_le short)
    rw [shorter, if_neg short, commonPrefix_eq_right_iff.2 upper]

/-- Two places above the same one are equal if they are as long. -/
theorem shorter_comm {p q l : Locator α} (pl : p.isPrefixOf l = true)
    (ql : q.isPrefixOf l = true) : shorter p q = shorter q p := by
  rw [shorter_eq_commonPrefix pl ql, commonPrefix_comm, shorter_eq_commonPrefix ql pl]

section Between

variable [Ord α] [Std.TransOrd α] [Std.LawfulEqOrd α] {a b c : Locator α}

/-- The places below `p` are an uninterrupted run of the sorting order, and `p` is the first
of them. -/
theorem isPrefixOf_iff_between {p x : Locator α} :
    p.isPrefixOf x = true ↔
      (compare p x).isLE = true ∧ ∃ y, (compare x y).isLE = true ∧ p.isPrefixOf y = true := by
  constructor
  · intro above
    exact ⟨isLE_of_isPrefixOf above, x, Std.ReflOrd.isLE_rfl, above⟩
  · rintro ⟨low, y, high, above⟩
    exact isPrefixOf_of_between low high above

variable (ab : (compare a b).isLE = true) (bc : (compare b c).isLE = true)

include ab bc

/-- What lies above the outer two lies above the one between them. -/
theorem commonPrefix_of_between :
    a.commonPrefix c = (a.commonPrefix b).commonPrefix (b.commonPrefix c) := by
  apply eq_of_isPrefixOf_iff
  intro p
  simp only [isPrefixOf_commonPrefix_iff]
  constructor
  · rintro ⟨pa, pc⟩
    have first : (compare p b).isLE = true :=
      Std.TransOrd.isLE_trans (isLE_of_isPrefixOf pa) ab
    have pb : p.isPrefixOf b = true := isPrefixOf_of_between first bc pc
    exact ⟨⟨pa, pb⟩, pb, pc⟩
  · rintro ⟨⟨pa, _⟩, _, pc⟩
    exact ⟨pa, pc⟩

theorem commonPrefix_eq_shorter :
    a.commonPrefix c = shorter (a.commonPrefix b) (b.commonPrefix c) := by
  rw [commonPrefix_of_between ab bc]
  exact (shorter_eq_commonPrefix (commonPrefix_isPrefixOf_right a b)
    (commonPrefix_isPrefixOf_left b c)).symm

end Between

end Hierarchy.Locator
