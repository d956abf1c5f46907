/-!
# Locators

A locator names a place in a hierarchy by the tokens on the way down from the root.  A
token may be anything, so the empty locator is the root and `""` is a token like any other.

Locators are ordered token by token, a locator coming before those below it.  The relation
that matters most is `isPrefixOf`: the subtree at `l` lies in the subtree at `p` exactly
when `p` is a prefix of `l` (`isPrefixOf_iff`).
-/

set_option autoImplicit false

namespace Hierarchy

universe u

/-- A place in the hierarchy: the tokens from the root down to it. -/
structure Locator (α : Type u) where
  tokens : List α
  deriving DecidableEq, Hashable, Repr

structure OutOfRange where
  size : Nat
  index : Nat
  deriving DecidableEq, Repr

def OutOfRange.message (e : OutOfRange) : String :=
  s!"index out of bounds: the len is {e.size} but the index is {e.index}"

namespace Locator

variable {α : Type u}

def root : Locator α := ⟨[]⟩

instance : EmptyCollection (Locator α) := ⟨root⟩

instance : Inhabited (Locator α) := ⟨root⟩

instance [Ord α] : Ord (Locator α) := ⟨fun a b => compare a.tokens b.tokens⟩

/-! ## Looking at the tokens -/

def size (l : Locator α) : Nat := l.tokens.length

def isRoot (l : Locator α) : Bool := l.tokens.isEmpty

def get? (l : Locator α) (i : Nat) : Option α := l.tokens[i]?

def element (l : Locator α) (i : Nat) : Except OutOfRange α :=
  match l.get? i with
  | some token => .ok token
  | none => .error ⟨l.size, i⟩

def first [Inhabited α] (l : Locator α) : α := l.tokens.headD default

def last [Inhabited α] (l : Locator α) : α := l.tokens.getLastD default

/-! ## Changing either end -/

/-- Puts `token` in the place of the last token; the root has none and stays. -/
def setLast (l : Locator α) (token : α) : Locator α :=
  if l.isRoot then l else ⟨l.tokens.dropLast ++ [token]⟩

def dropLast (l : Locator α) : Locator α := ⟨l.tokens.dropLast⟩

def tail (l : Locator α) : Locator α := ⟨l.tokens.tail⟩

def push (l : Locator α) (token : α) : Locator α := ⟨l.tokens ++ [token]⟩

def drop (l : Locator α) (n : Nat) : Locator α := ⟨l.tokens.drop n⟩

def cons (token : α) (l : Locator α) : Locator α := ⟨token :: l.tokens⟩

def append (a b : Locator α) : Locator α := ⟨a.tokens ++ b.tokens⟩

instance : Append (Locator α) := ⟨append⟩

/-! ## Prefixes -/

section Prefix

variable [DecidableEq α]

/-- Does `l` lie in the subtree at `p`? -/
def isPrefixOf (p l : Locator α) : Bool := p.tokens.isPrefixOf l.tokens

/-- Is one of the two places in the subtree of the other? -/
def overlaps (a b : Locator α) : Bool := b.isPrefixOf a || a.isPrefixOf b

def sharedTokens : List α → List α → List α
  | x :: xs, y :: ys => if x = y then x :: sharedTokens xs ys else []
  | _, _ => []

/-- The deepest place that both `a` and `b` lie below. -/
def commonPrefix (a b : Locator α) : Locator α := ⟨sharedTokens a.tokens b.tokens⟩

/-- Moves `l` from the subtree at `source` to the subtree at `target`; a locator that is
not under `source` stays. -/
def rebase (l source target : Locator α) : Locator α :=
  if source.isPrefixOf l then target ++ l.drop source.size else l

end Prefix

/-! ## Elementary laws -/

@[simp] theorem tokens_root : (root : Locator α).tokens = [] := rfl

@[simp] theorem tokens_append (a b : Locator α) :
    (a ++ b).tokens = a.tokens ++ b.tokens := rfl

theorem eq_iff_tokens_eq {a b : Locator α} : a = b ↔ a.tokens = b.tokens := by
  cases a
  cases b
  simp

instance [Ord α] [Std.TransOrd α] : Std.TransOrd (Locator α) where
  eq_swap := Std.OrientedOrd.eq_swap (α := List α)
  isLE_trans := Std.TransOrd.isLE_trans (α := List α)

instance [Ord α] [Std.LawfulEqOrd α] : Std.LawfulEqOrd (Locator α) where
  eq_of_compare h := eq_iff_tokens_eq.2 (Std.LawfulEqOrd.eq_of_compare h)
  compare_self := Std.ReflOrd.compare_self (α := List α)

section Prefix

variable [DecidableEq α]

/-- A prefix is what can be gone down from to reach the locator. -/
theorem isPrefixOf_iff {p l : Locator α} :
    p.isPrefixOf l = true ↔ ∃ rest, l = p ++ rest := by
  rw [isPrefixOf, List.isPrefixOf_iff_prefix]
  constructor
  · rintro ⟨rest, h⟩
    exact ⟨⟨rest⟩, eq_iff_tokens_eq.2 h.symm⟩
  · rintro ⟨rest, rfl⟩
    exact ⟨rest.tokens, rfl⟩

@[simp] theorem isPrefixOf_append (p rest : Locator α) :
    p.isPrefixOf (p ++ rest) = true :=
  isPrefixOf_iff.2 ⟨rest, rfl⟩

theorem rebase_append (source target rest : Locator α) :
    (source ++ rest).rebase source target = target ++ rest := by
  simp [rebase, drop, size]

theorem rebase_of_not_isPrefixOf {source l : Locator α} (target : Locator α)
    (outside : source.isPrefixOf l = false) : l.rebase source target = l := by
  simp [rebase, outside]

end Prefix

end Locator

end Hierarchy
