import Hierarchy.Locator.Basic

/-!
# The prefix order against the sorting order

Two orders live on locators: the prefixes of one locator form a chain, and all locators
are sorted token by token.  A prefix sorts before what it is a prefix of, and the locators
below a place form an uninterrupted run of the sorting order that starts at that place
(`isPrefixOf_of_between`).
-/

set_option autoImplicit false

namespace Hierarchy.Locator

universe u

variable {α : Type u} [DecidableEq α]

/-! ## Prefixes -/

omit [DecidableEq α] in
@[simp] theorem append_root (l : Locator α) : l ++ root = l :=
  eq_iff_tokens_eq.2 (List.append_nil l.tokens)

omit [DecidableEq α] in
theorem append_assoc (a b c : Locator α) : a ++ b ++ c = a ++ (b ++ c) :=
  eq_iff_tokens_eq.2 (List.append_assoc a.tokens b.tokens c.tokens)

omit [DecidableEq α] in
theorem append_cancel_left {p a b : Locator α} (same : p ++ a = p ++ b) : a = b :=
  eq_iff_tokens_eq.2 (List.append_cancel_left (eq_iff_tokens_eq.1 same))

theorem root_isPrefixOf (l : Locator α) : (root : Locator α).isPrefixOf l = true :=
  isPrefixOf_append root l

@[simp] theorem isPrefixOf_refl (l : Locator α) : l.isPrefixOf l = true :=
  isPrefixOf_iff.2 ⟨root, (append_root l).symm⟩

theorem isPrefixOf_iff_tokens {p l : Locator α} :
    p.isPrefixOf l = true ↔ p.tokens <+: l.tokens :=
  List.isPrefixOf_iff_prefix

theorem isPrefixOf_trans {p q l : Locator α} (upper : p.isPrefixOf q = true)
    (lower : q.isPrefixOf l = true) : p.isPrefixOf l = true := by
  rw [isPrefixOf_iff_tokens] at upper lower ⊢
  exact upper.trans lower

theorem isPrefixOf_antisymm {a b : Locator α} (ab : a.isPrefixOf b = true)
    (ba : b.isPrefixOf a = true) : a = b := by
  rw [isPrefixOf_iff_tokens] at ab ba
  exact eq_iff_tokens_eq.2 (ab.eq_of_length_le ba.length_le)

theorem isPrefixOf_or_isPrefixOf {p q l : Locator α} (pl : p.isPrefixOf l = true)
    (ql : q.isPrefixOf l = true) : p.isPrefixOf q = true ∨ q.isPrefixOf p = true := by
  simp only [isPrefixOf_iff_tokens] at pl ql ⊢
  exact List.prefix_or_prefix_of_prefix pl ql

theorem isPrefixOf_of_size_le {p q l : Locator α} (pl : p.isPrefixOf l = true)
    (ql : q.isPrefixOf l = true) (short : p.size ≤ q.size) : p.isPrefixOf q = true := by
  rw [isPrefixOf_iff_tokens] at pl ql ⊢
  exact List.prefix_of_prefix_length_le pl ql short

theorem overlaps_iff {a b : Locator α} :
    a.overlaps b = true ↔ b.isPrefixOf a = true ∨ a.isPrefixOf b = true := by
  rw [overlaps, Bool.or_eq_true]

theorem overlaps_comm (a b : Locator α) : a.overlaps b = b.overlaps a :=
  Bool.or_comm _ _

/-- Two places overlap if something lies below both of them. -/
theorem overlaps_iff_exists_below {a b : Locator α} :
    a.overlaps b = true ↔ ∃ x, a.isPrefixOf x = true ∧ b.isPrefixOf x = true := by
  rw [overlaps_iff]
  constructor
  · rintro (ba | ab)
    · exact ⟨a, isPrefixOf_refl a, ba⟩
    · exact ⟨b, ab, isPrefixOf_refl b⟩
  · rintro ⟨x, ax, bx⟩
    exact isPrefixOf_or_isPrefixOf bx ax

theorem isPrefixOf_append_append_iff {p a b : Locator α} :
    (p ++ a).isPrefixOf (p ++ b) = true ↔ a.isPrefixOf b = true := by
  rw [isPrefixOf_iff_tokens, isPrefixOf_iff_tokens]
  exact List.prefix_append_right_inj p.tokens

theorem overlaps_append_append (p a b : Locator α) :
    (p ++ a).overlaps (p ++ b) = a.overlaps b := by
  rw [Bool.eq_iff_iff]
  simp only [overlaps_iff, isPrefixOf_append_append_iff]

/-- What overlaps a place overlaps everything above it. -/
theorem overlaps_of_isPrefixOf {a p x : Locator α} (above : p.isPrefixOf x = true)
    (shared : a.overlaps x = true) : a.overlaps p = true := by
  obtain ⟨y, ay, xy⟩ := overlaps_iff_exists_below.1 shared
  exact overlaps_iff_exists_below.2 ⟨y, ay, isPrefixOf_trans above xy⟩

/-! ## Prefixes in the sorting order -/

section Order

variable [Ord α] [Std.TransOrd α] [Std.LawfulEqOrd α]

omit [DecidableEq α] [Std.LawfulEqOrd α] in
private theorem compare_tokens_append_append (p a b : List α) :
    compare (p ++ a) (p ++ b) = compare a b := by
  induction p with
  | nil => rfl
  | cons token p ih =>
      rw [List.cons_append, List.cons_append, List.compare_cons_cons, Std.ReflOrd.compare_self]
      exact ih

omit [DecidableEq α] [Std.LawfulEqOrd α] in
theorem compare_append_append (p a b : Locator α) :
    compare (p ++ a) (p ++ b) = compare a b :=
  compare_tokens_append_append p.tokens a.tokens b.tokens

omit [Std.LawfulEqOrd α] in
theorem isLE_of_isPrefixOf {p l : Locator α} (above : p.isPrefixOf l = true) :
    (compare p l).isLE = true := by
  obtain ⟨rest, rfl⟩ := isPrefixOf_iff.1 above
  have first : (compare root rest).isLE = true := List.isLE_compare_nil_left
  rwa [← compare_append_append p, append_root] at first

/-- Nothing above a place comes after it. -/
theorem eq_of_isPrefixOf_of_isLE {p l : Locator α} (above : p.isPrefixOf l = true)
    (reached : (compare l p).isLE = true) : p = l :=
  Std.LawfulEqOrd.eq_of_compare
    (Std.OrientedCmp.isLE_antisymm (isLE_of_isPrefixOf above) reached)

omit [DecidableEq α] in
private theorem prefix_of_between {p x y : List α} (low : (compare p x).isLE = true)
    (high : (compare x y).isLE = true) (above : p <+: y) : p <+: x := by
  induction p generalizing x y with
  | nil => exact List.nil_prefix
  | cons a p ih =>
      obtain ⟨rest, rfl⟩ := above
      cases x with
      | nil => simp [List.compare_cons_nil] at low
      | cons b x =>
          rw [List.compare_cons_cons, Ordering.isLE_then_iff_and] at low
          rw [List.cons_append, List.compare_cons_cons, Ordering.isLE_then_iff_and] at high
          -- `b` lies between two copies of `a`
          have squeezed : compare a b = .eq := Std.OrientedCmp.isLE_antisymm low.1 high.1
          have same : a = b := Std.LawfulEqOrd.eq_of_compare squeezed
          subst same
          have noGap : compare a a ≠ .lt := by simp
          have inner : p <+: x :=
            ih (low.2.resolve_left noGap) (high.2.resolve_left noGap) ⟨rest, rfl⟩
          exact List.cons_prefix_cons.2 ⟨rfl, inner⟩

/-- What lies between a place and something below it lies below it as well. -/
theorem isPrefixOf_of_between {p x y : Locator α} (low : (compare p x).isLE = true)
    (high : (compare x y).isLE = true) (above : p.isPrefixOf y = true) :
    p.isPrefixOf x = true := by
  rw [isPrefixOf_iff_tokens] at above ⊢
  exact prefix_of_between low high above

end Order

end Hierarchy.Locator
