import Hierarchy.Region.Basic

/-!
# Edits of a region

Every way of getting from one region to the next is an `Edit`.  A history is a list of
edits, `Edit.run` its outcome and `Edit.log` the reports on it; `Region.Reachable` says
that a region is the outcome of some history.  Edits that sort and prune a whole list of
locators report it; the others, which change a region in place or find nothing to merge,
are silent.  Listings report how much they hold.
-/

set_option autoImplicit false

namespace Hierarchy

universe u

/-! ## Reports -/

inductive Event where
  /-- A list of `before` locators was sorted and pruned to the `after` members of a region. -/
  | flattened (before after : Nat)
  /-- A listing of `lines` lines held `locators` locators. -/
  | parsed (locators lines : Nat)
  deriving DecidableEq, Repr

inductive Event.Level where
  | trace
  | debug
  deriving DecidableEq, Repr

namespace Event

def level : Event → Level
  | .flattened _ _ => .trace
  | .parsed _ _ => .debug

def message : Event → String
  | .flattened before after =>
      s!"flattened locator set from {before} to {after} members"
  | .parsed locators lines => s!"parsed {locators} locators from {lines} lines"

end Event

/-! ## Edits -/

inductive Edit (α : Type u) where
  | clear
  | single (l : Locator α)
  | collect (ls : List (Locator α))
  | replace (r : Region α)
  | insert (l : Locator α)
  | extend (ls : List (Locator α))
  | merge (r : Region α)
  /-- Merge the region into `r`, and go on with that. -/
  | mergeInto (r : Region α)
  | restrict (l : Locator α)
  | rebase (source target : Locator α)
  deriving Repr

namespace Region

variable {α : Type u} [DecidableEq α] [Ord α]

def flattening (ls : List (Locator α)) : Event := .flattened ls.length (ofList ls).size

/-- The reports on `a.union b`: nothing is sorted if either region is empty. -/
def unionEvents (a b : Region α) : List Event :=
  if b.isEmpty || a.isEmpty then [] else [flattening (a.toList ++ b.toList)]

end Region

namespace Edit

variable {α : Type u}

def operands : Edit α → List (Region α)
  | .replace other | .merge other | .mergeInto other => [other]
  | .clear | .single _ | .collect _ | .insert _ | .extend _ | .restrict _ | .rebase _ _ => []

variable [DecidableEq α] [Ord α]

def apply (r : Region α) : Edit α → Region α
  | .clear => .empty
  | .single l => .singleton l
  | .collect ls => .ofList ls
  | .replace other => other
  | .insert l => r.insert l
  | .extend ls => r.extend ls
  | .merge other => r.union other
  | .mergeInto other => other.union r
  | .restrict l => r.restrict l
  | .rebase source target => r.rebase source target

def events (r : Region α) : Edit α → List Event
  | .collect ls => [Region.flattening ls]
  | .extend ls => [Region.flattening (r.toList ++ ls)]
  | .merge other => Region.unionEvents r other
  | .mergeInto other => Region.unionEvents other r
  | .rebase source target =>
      [Region.flattening (r.toList.map (·.rebase source target))]
  | .clear | .single _ | .replace _ | .insert _ | .restrict _ => []

def run (r : Region α) : List (Edit α) → Region α
  | [] => r
  | edit :: history => run (edit.apply r) history

def log (r : Region α) : List (Edit α) → List Event
  | [] => []
  | edit :: history => edit.events r ++ log (edit.apply r) history

end Edit

/-- The regions that edits build from nothing, with operands that are built so too. -/
inductive Region.Reachable {α : Type u} [DecidableEq α] [Ord α] : Region α → Prop where
  | empty : Reachable .empty
  | edit {r : Region α} (edit : Edit α) :
      Reachable r → (∀ operand ∈ edit.operands, Reachable operand) →
        Reachable (edit.apply r)

end Hierarchy
