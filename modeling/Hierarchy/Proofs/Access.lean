import Hierarchy.Locator.Basic

/-!
# Checked access to sequences

A sequence refuses to be read or changed outside of it.  Here every such access comes with
its check: at one position, or for the part from one position up to another.  The lemmas
say which accesses pass and what they yield.
-/

set_option autoImplicit false

namespace Hierarchy.Access

universe u

inductive Fault where
  | position (e : OutOfRange)
  /-- What lies from `start` up to `stop` is no part of a sequence of that size. -/
  | part (size start stop : Nat)
  deriving DecidableEq, Repr

variable {β : Type u}

def get (xs : List β) (i : Nat) : Except Fault β :=
  match xs[i]? with
  | some x => .ok x
  | none => .error (.position ⟨xs.length, i⟩)

def slice (xs : List β) (start stop : Nat) : Except Fault (List β) :=
  if start ≤ stop ∧ stop ≤ xs.length then .ok ((xs.take stop).drop start)
  else .error (.part xs.length start stop)

def suffix (xs : List β) (start : Nat) : Except Fault (List β) := slice xs start xs.length

def insert (xs : List β) (i : Nat) (x : β) : Except Fault (List β) :=
  if i ≤ xs.length then .ok (xs.insertIdx i x) else .error (.position ⟨xs.length, i⟩)

def set (xs : List β) (i : Nat) (x : β) : Except Fault (List β) :=
  if i < xs.length then .ok (xs.set i x) else .error (.position ⟨xs.length, i⟩)

def drain (xs : List β) (start stop : Nat) : Except Fault (List β) :=
  if start ≤ stop ∧ stop ≤ xs.length then .ok (xs.take start ++ xs.drop stop)
  else .error (.part xs.length start stop)

/-! ## What passes -/

theorem get_eq_ok_iff {xs : List β} {i : Nat} {x : β} : get xs i = .ok x ↔ xs[i]? = some x := by
  rw [get]
  cases xs[i]? with
  | none => simp
  | some y => simp

theorem slice_of_le {xs : List β} {start stop : Nat} (ordered : start ≤ stop)
    (inside : stop ≤ xs.length) : slice xs start stop = .ok ((xs.take stop).drop start) :=
  if_pos ⟨ordered, inside⟩

theorem slice_zero_of_le {xs : List β} {stop : Nat} (inside : stop ≤ xs.length) :
    slice xs 0 stop = .ok (xs.take stop) := by
  rw [slice_of_le (Nat.zero_le stop) inside, List.drop_zero]

theorem suffix_of_le {xs : List β} {start : Nat} (inside : start ≤ xs.length) :
    suffix xs start = .ok (xs.drop start) := by
  rw [suffix, slice_of_le inside (Nat.le_refl _), List.take_length]

theorem suffix_append (before after : List β) :
    suffix (before ++ after) before.length = .ok after := by
  rw [suffix_of_le (by simp), List.drop_left]

theorem insert_append (before after : List β) (x : β) :
    insert (before ++ after) before.length x = .ok (before ++ x :: after) := by
  have placed : (before ++ after).insertIdx before.length x = before ++ x :: after := by
    induction before with
    | nil => rfl
    | cons first before ih =>
        rw [List.cons_append, List.length_cons, List.insertIdx_succ_cons, ih, List.cons_append]
  rw [insert, if_pos (by simp), placed]

theorem set_append (before after : List β) (x y : β) :
    set (before ++ y :: after) before.length x = .ok (before ++ x :: after) := by
  rw [set, if_pos (by simp)]
  simp

/-- Takes out elements behind the one at the end of `before`. -/
theorem drain_append {before after : List β} {x : β} {n : Nat} (some : 0 < n)
    (inside : n ≤ (x :: after).length) :
    drain (before ++ x :: after) (before.length + 1) (before.length + n) =
      .ok (before ++ x :: (x :: after).drop n) := by
  have size : (before ++ x :: after).length = before.length + (x :: after).length :=
    List.length_append
  rw [drain, if_pos ⟨by omega, by omega⟩, List.take_length_add_append,
    List.drop_length_add_append, List.take_succ_cons, List.take_zero, List.append_assoc,
    List.singleton_append]

end Hierarchy.Access
