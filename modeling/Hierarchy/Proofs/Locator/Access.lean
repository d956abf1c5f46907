import Hierarchy.Proofs.Access

/-!
# Parts of locators, with every access checked

The operations that cut a locator, by positions that are computed beforehand: one less than
the size, a count of equal tokens, the size of another locator.  The computed parts lie
within the locator, so each operation yields the same as the one without checks.  Only
asking for an element can fail, and it does if the locator is not that deep.
-/

set_option autoImplicit false

namespace Hierarchy.Locator

open Access (Fault)

universe u

variable {α : Type u}

/-! ## Elements -/

theorem get?_eq_none_iff {l : Locator α} {i : Nat} : l.get? i = none ↔ l.size ≤ i :=
  List.getElem?_eq_none_iff

theorem element_eq_error_iff {l : Locator α} {i : Nat} {e : OutOfRange} :
    l.element i = .error e ↔ l.size ≤ i ∧ e = ⟨l.size, i⟩ := by
  rw [element, ← get?_eq_none_iff]
  cases l.get? i with
  | none => simp [eq_comm]
  | some token => simp

/-! ## Either end -/

def dropLastChecked (l : Locator α) : Except Fault (Locator α) := do
  let kept ← Access.slice l.tokens 0 (l.size - 1)
  return ⟨kept⟩

def tailChecked (l : Locator α) : Except Fault (Locator α) :=
  match Access.suffix l.tokens 1 with
  | .ok kept => .ok ⟨kept⟩
  | .error _ => .ok root

theorem dropLastChecked_eq_ok (l : Locator α) : l.dropLastChecked = .ok l.dropLast := by
  have inside : l.size - 1 ≤ l.tokens.length := Nat.sub_le _ _
  rw [dropLastChecked, Access.slice_zero_of_le inside, dropLast, List.dropLast_eq_take]
  rfl

theorem tailChecked_eq_ok (l : Locator α) : l.tailChecked = .ok l.tail := by
  obtain ⟨tokens⟩ := l
  cases tokens with
  | nil => rfl
  | cons token rest =>
      have inside : 1 ≤ (token :: rest).length := Nat.succ_pos _
      rw [tailChecked, Access.suffix_of_le inside]
      rfl

/-! ## Prefixes -/

section Prefix

variable [DecidableEq α]

def commonPrefixChecked (a b : Locator α) : Except Fault (Locator α) := do
  let same := (a.tokens.zip b.tokens).takeWhile fun pair => pair.1 = pair.2
  let shared ← Access.slice a.tokens 0 same.length
  return ⟨shared⟩

def rebaseChecked (l source target : Locator α) : Except Fault (Locator α) := do
  if source.isPrefixOf l then
    let inner ← Access.suffix l.tokens source.size
    return ⟨target.tokens ++ inner⟩
  else return l

theorem sharedTokens_eq_take (xs ys : List α) :
    sharedTokens xs ys =
      xs.take ((xs.zip ys).takeWhile fun pair => pair.1 = pair.2).length := by
  induction xs generalizing ys with
  | nil => rfl
  | cons x xs ih =>
      cases ys with
      | nil => rfl
      | cons y ys =>
          rw [sharedTokens, List.zip_cons_cons]
          by_cases same : x = y
          · rw [if_pos same, List.takeWhile_cons_of_pos (by simpa using same), List.length_cons,
              List.take_succ_cons, ih]
          · rw [if_neg same, List.takeWhile_cons_of_neg (by simpa using same), List.length_nil,
              List.take_zero]

theorem commonPrefixChecked_eq_ok (a b : Locator α) :
    a.commonPrefixChecked b = .ok (a.commonPrefix b) := by
  have counted : ((a.tokens.zip b.tokens).takeWhile fun pair => pair.1 = pair.2).length ≤
      (a.tokens.zip b.tokens).length := (List.takeWhile_sublist _).length_le
  rw [List.length_zip] at counted
  have inside := Nat.le_trans counted (Nat.min_le_left _ _)
  rw [commonPrefixChecked, commonPrefix, sharedTokens_eq_take, Access.slice_zero_of_le inside]
  rfl

theorem rebaseChecked_eq_ok (l source target : Locator α) :
    l.rebaseChecked source target = .ok (l.rebase source target) := by
  by_cases below : source.isPrefixOf l = true
  · obtain ⟨inner, rfl⟩ := isPrefixOf_iff.1 below
    rw [rebase_append, rebaseChecked, if_pos below, tokens_append, size, Access.suffix_append]
    rfl
  · rw [rebaseChecked, if_neg below, rebase_of_not_isPrefixOf target (by simpa using below)]
    rfl

end Prefix

end Hierarchy.Locator
