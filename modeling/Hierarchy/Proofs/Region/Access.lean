import Hierarchy.Proofs.Locator.Access
import Hierarchy.Proofs.Region.History

/-!
# Looking at members and moving them, with every access checked

The questions and changes that begin with a search for a locator.  The search answers with
a position, and from there all goes by positions: the member before it, the run from it on,
the room for a new member, the members that give way.  In a region that edits have built,
every one of these accesses lies within the members, whatever the answer, and the outcome
is that of the operation without checks.
-/

set_option autoImplicit false

namespace Hierarchy.Region

open Locator
open Access (Fault)

variable {α : Type} [DecidableEq α] [Ord α]

/-! ## Searching -/

inductive Position where
  /-- The locator is the member at `index`. -/
  | here (index : Nat)
  /-- The locator is no member, and would have to be put in before the one at `index`. -/
  | gap (index : Nat)
  deriving DecidableEq, Repr

inductive Located (r : Region α) (l : Locator α) : Position → Prop where
  | here {i : Nat} : r.toList[i]? = some l → Located r l (.here i)
  | gap {before after : List (Locator α)} :
      r.SplitAt l before after → l ∉ r.toList → Located r l (.gap before.length)

def search (r : Region α) (l : Locator α) : Position :=
  if r.from? l = some l then .here (r.rank l) else .gap (r.rank l)

/-! ## Operations by position -/

/-- Does the member before position `i` cover `l`?  There is none before the first. -/
def coveredBefore (r : Region α) (l : Locator α) (i : Nat) : Except Fault Bool :=
  if 0 < i then do
    let m ← Access.get r.toList (i - 1)
    return m.isPrefixOf l
  else return false

def coversAt (r : Region α) (l : Locator α) : Position → Except Fault Bool
  | .here _ => return true
  | .gap i => r.coveredBefore l i

def overlapsAt (r : Region α) (l : Locator α) : Position → Except Fault Bool
  | .here _ => return true
  | .gap i => do
      if ← r.coveredBefore l i then return true
      else return r.toList[i]?.any (l.isPrefixOf ·)

/-- Puts in `l` before position `i`, where the members below it begin: in a place of its own
if there are none, and otherwise in that of the first one while the others are taken out. -/
def placeAt (r : Region α) (l : Locator α) (i : Nat) : Except Fault (List (Locator α)) := do
  let late ← Access.suffix r.toList i
  let covered := (late.takeWhile (l.isPrefixOf ·)).length
  if covered = 0 then Access.insert r.toList i l
  else
    let replaced ← Access.set r.toList i l
    Access.drain replaced (i + 1) (i + covered)

def insertAt (r : Region α) (l : Locator α) : Position → Except Fault (List (Locator α))
  | .here _ => return r.toList
  | .gap i => do
      if ← r.coveredBefore l i then return r.toList
      else r.placeAt l i

def restrictAt (r : Region α) (l : Locator α) : Position → Except Fault (List (Locator α))
  | .here _ => return [l]
  | .gap i => do
      if ← r.coveredBefore l i then return [l]
      else
        let late ← Access.suffix r.toList i
        return late.takeWhile (l.isPrefixOf ·)

def meetsBySearch (a b : Region α) : Except Fault Bool :=
  if a.size ≤ b.size then a.toList.anyM fun l => b.overlapsAt l (b.search l)
  else b.toList.anyM fun l => a.overlapsAt l (a.search l)

variable [Std.TransOrd α] [Std.LawfulEqOrd α]

/-! ## The search is right -/

theorem located_search {r : Region α} (increasing : Increasing r.toList) (l : Locator α) :
    r.Located l (r.search l) := by
  obtain ⟨before, after, split⟩ := exists_splitAt increasing l
  rw [search]
  by_cases found : r.from? l = some l
  · rw [if_pos found]
    exact .here ((Array.getElem?_toList).trans found)
  · rw [if_neg found, split.rank_eq]
    exact .gap split fun member => found ((split.from?_eq_some_iff increasing).2 member)

/-! ## Every access passes -/

theorem covers_of_found {r : Region α} {l : Locator α} {i : Nat} (canonical : Canonical r.toList)
    (found : r.toList[i]? = some l) : r.covers l = true :=
  (covers_iff canonical).2 (mem_extent_of_mem (List.mem_of_getElem? found))

theorem SplitAt.coveredBefore_eq_ok {r : Region α} {l : Locator α}
    {before after : List (Locator α)} (split : r.SplitAt l before after)
    (increasing : Increasing r.toList) (missing : l ∉ r.toList) :
    r.coveredBefore l before.length = .ok (r.covers l) := by
  have notFound : (r.from? l == some l) = false := by
    rw [beq_eq_false_iff_ne, Ne, split.from?_eq_some_iff increasing]
    exact missing
  rw [coveredBefore, covers, notFound, Bool.false_or, split.before?_eq, split.toList_eq]
  rcases List.eq_nil_or_concat before with rfl | ⟨earlier, last, rfl⟩
  · rfl
  · have read : Access.get (earlier.concat last ++ after) ((earlier.concat last).length - 1) =
        .ok last := by
      rw [Access.get_eq_ok_iff]
      simp
    rw [if_pos (by simp), read, List.concat_eq_append, List.getLast?_concat]
    rfl

theorem coversAt_eq_ok {r : Region α} {l : Locator α} {position : Position}
    (canonical : Canonical r.toList) (located : r.Located l position) :
    r.coversAt l position = .ok (r.covers l) := by
  cases located with
  | here found =>
      rw [covers_of_found canonical found]
      rfl
  | gap split missing => exact split.coveredBefore_eq_ok canonical.increasing missing

theorem overlapsAt_eq_ok {r : Region α} {l : Locator α} {position : Position}
    (canonical : Canonical r.toList) (located : r.Located l position) :
    r.overlapsAt l position = .ok (r.overlaps l) := by
  cases located with
  | here found =>
      rw [overlaps, covers_of_found canonical found]
      rfl
  | @gap before after split missing =>
      have next : r.toList[before.length]? = r.from? l := by
        rw [from?, split.rank_eq, toList, Array.getElem?_toList]
      rw [overlapsAt, split.coveredBefore_eq_ok canonical.increasing missing, overlaps, next]
      cases r.covers l with
      | true => rfl
      | false => rfl

omit [Std.TransOrd α] [Std.LawfulEqOrd α] in
theorem SplitAt.placeAt_eq_ok {r : Region α} {l : Locator α} {before after : List (Locator α)}
    (split : r.SplitAt l before after) :
    r.placeAt l before.length = .ok (before ++ l :: after.dropWhile (l.isPrefixOf ·)) := by
  rw [placeAt, split.toList_eq, Access.suffix_append]
  change (if (after.takeWhile (l.isPrefixOf ·)).length = 0 then _ else _) = _
  cases after with
  | nil => exact Access.insert_append before [] l
  | cons first rest =>
      by_cases below : l.isPrefixOf first = true
      · -- `first` makes room, and those behind it are taken out
        have bound : (rest.takeWhile (l.isPrefixOf ·)).length ≤ rest.length :=
          (List.takeWhile_sublist _).length_le
        have inside : (rest.takeWhile (l.isPrefixOf ·)).length + 1 ≤ (l :: rest).length :=
          Nat.succ_le_succ bound
        rw [List.takeWhile_cons_of_pos below, List.dropWhile_cons_of_pos below, List.length_cons,
          if_neg (Nat.succ_ne_zero _), Access.set_append]
        refine (Access.drain_append (Nat.succ_pos _) inside).trans ?_
        rw [List.drop_succ_cons, drop_length_takeWhile]
      · rw [List.takeWhile_cons_of_neg below, List.dropWhile_cons_of_neg below, List.length_nil,
          if_pos rfl]
        exact Access.insert_append before (first :: rest) l

theorem insertAt_eq_ok {r : Region α} {l : Locator α} {position : Position}
    (canonical : Canonical r.toList) (located : r.Located l position) :
    r.insertAt l position = .ok (r.insert l).toList := by
  cases located with
  | here found =>
      rw [insert_eq_self (covers_of_found canonical found)]
      rfl
  | @gap before after split missing =>
      rw [insertAt, split.coveredBefore_eq_ok canonical.increasing missing, split.placeAt_eq_ok]
      by_cases covered : r.covers l = true
      · rw [insert_eq_self covered, covered]
        rfl
      · rw [split.toList_insert_eq canonical.increasing covered,
          ← (run_eq_filter (split.after_increasing canonical.increasing) split.le).2,
          Bool.eq_false_iff.2 covered]
        rfl

theorem restrictAt_eq_ok {r : Region α} {l : Locator α} {position : Position}
    (canonical : Canonical r.toList) (located : r.Located l position) :
    r.restrictAt l position = .ok (r.restrict l).toList := by
  cases located with
  | here found =>
      rw [toList_restrict, covers_of_found canonical found]
      rfl
  | @gap before after split missing =>
      rw [restrictAt, split.coveredBefore_eq_ok canonical.increasing missing, toList_restrict,
        split.toList_under_eq, split.toList_eq, Access.suffix_append]
      cases r.covers l with
      | true => rfl
      | false => rfl

theorem meetsBySearch_eq_ok {a b : Region α} (aCanonical : Canonical a.toList)
    (bCanonical : Canonical b.toList) : a.meetsBySearch b = .ok (a.meets b) := by
  have each {r : Region α} (canonical : Canonical r.toList) :
      (fun l => r.overlapsAt l (r.search l)) = fun l => pure (r.overlaps l) := by
    funext l
    exact overlapsAt_eq_ok canonical (located_search canonical.increasing l)
  rw [meetsBySearch, meets, each aCanonical, each bCanonical, List.anyM_pure, List.anyM_pure,
    toList, toList, Array.any_toList, Array.any_toList]
  by_cases smaller : a.size ≤ b.size
  · rw [if_pos smaller, if_pos smaller]
    rfl
  · rw [if_neg smaller, if_neg smaller]
    rfl

/-! ## Nothing but asking for an element fails -/

/-- In a region that edits have built a search is right, and whenever it is, every access
that follows passes.  So does every access that cuts a locator.  Only an element can be
refused, and then `get?` has none either. -/
theorem accesses_in_range :
    (∀ r : Region α, r.Reachable → ∀ l : Locator α,
        r.Located l (r.search l) ∧
          ∀ position, r.Located l position →
            r.insertAt l position = .ok (r.insert l).toList ∧
              r.overlapsAt l position = .ok (r.overlaps l) ∧
              r.coversAt l position = .ok (r.covers l) ∧
              r.restrictAt l position = .ok (r.restrict l).toList) ∧
      (∀ a b : Region α, a.Reachable → b.Reachable → a.meetsBySearch b = .ok (a.meets b)) ∧
      ∀ l : Locator α,
        l.dropLastChecked = .ok l.dropLast ∧
          l.tailChecked = .ok l.tail ∧
          (∀ other, l.commonPrefixChecked other = .ok (l.commonPrefix other)) ∧
          (∀ source target, l.rebaseChecked source target = .ok (l.rebase source target)) ∧
          ∀ i, ((∃ e, l.element i = .error e) ↔ l.size ≤ i) ∧
            (l.size ≤ i ↔ l.get? i = none) := by
  refine ⟨?region, ?regions, ?locator⟩
  case region =>
    intro r reachable l
    have canonical := reachable.canonical
    refine ⟨located_search canonical.increasing l, fun position located => ?_⟩
    exact ⟨insertAt_eq_ok canonical located, overlapsAt_eq_ok canonical located,
      coversAt_eq_ok canonical located, restrictAt_eq_ok canonical located⟩
  case regions =>
    intro a b aReachable bReachable
    exact meetsBySearch_eq_ok aReachable.canonical bReachable.canonical
  case locator =>
    intro l
    refine ⟨l.dropLastChecked_eq_ok, l.tailChecked_eq_ok, l.commonPrefixChecked_eq_ok,
      l.rebaseChecked_eq_ok, fun i => ⟨?_, get?_eq_none_iff.symm⟩⟩
    constructor
    · rintro ⟨e, failed⟩
      exact (element_eq_error_iff.1 failed).1
    · intro beyond
      exact ⟨⟨l.size, i⟩, element_eq_error_iff.2 ⟨beyond, rfl⟩⟩

/-- A search before the first member and one behind the last, the first of them with a run
that gives way. -/
theorem accesses_in_range_at_both_ends :
    let r : Region String := .ofList [⟨["b", "x"]⟩, ⟨["b", "y"]⟩, ⟨["b", "z"]⟩, ⟨["d"]⟩]
    r.search ⟨["b"]⟩ = .gap 0 ∧
      r.insertAt ⟨["b"]⟩ (.gap 0) = .ok [⟨["b"]⟩, ⟨["d"]⟩] ∧
      r.search ⟨["d", "e"]⟩ = .gap 4 ∧
      r.restrictAt ⟨["d", "e"]⟩ (.gap 4) = .ok [⟨["d", "e"]⟩] ∧
      r.meetsBySearch (.singleton ⟨["c"]⟩) = .ok false := by
  intro r
  have reachable : r.Reachable := reachable_ofList _
  have other : (singleton ⟨["c"]⟩ : Region String).Reachable :=
    .edit (.single _) .empty (fun _ listed => nomatch listed)
  have front : r.search ⟨["b"]⟩ = .gap 0 := by cbv
  have rear : r.search ⟨["d", "e"]⟩ = .gap 4 := by cbv
  have inserted : (r.insert ⟨["b"]⟩).toList = [⟨["b"]⟩, ⟨["d"]⟩] := by cbv
  have restricted : (r.restrict ⟨["d", "e"]⟩).toList = [⟨["d", "e"]⟩] := by cbv
  have apart : r.meets (.singleton ⟨["c"]⟩) = false := by cbv
  obtain ⟨region, regions, -⟩ := accesses_in_range (α := String)
  refine ⟨front, ?_, rear, ?_, ?_⟩
  · obtain ⟨located, passes⟩ := region r reachable ⟨["b"]⟩
    rw [← inserted]
    exact (passes (.gap 0) (front ▸ located)).1
  · obtain ⟨located, passes⟩ := region r reachable ⟨["d", "e"]⟩
    rw [← restricted]
    exact (passes (.gap 4) (rear ▸ located)).2.2.2
  · rw [← apart]
    exact regions r _ reachable other

end Hierarchy.Region
