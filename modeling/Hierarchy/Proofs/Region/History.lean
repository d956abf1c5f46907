import Hierarchy.Listing
import Hierarchy.Proofs.Region.Editing
import Hierarchy.Region.Render
import Mathlib

/-!
# Histories of a region

Every edit leads from canonical regions to a canonical one, so all regions that a program
can come by are canonical, whatever mixture of edits and texts they stem from.  A history
that only adds subtrees covers what its start and its additions cover together, and since
that determines a canonical region, nothing else about the history matters
(`run_outermost`).
-/

set_option autoImplicit false

namespace Hierarchy

open Locator

universe u

namespace Edit

variable {α : Type u}

def Adds : Edit α → Prop
  | .insert _ | .extend _ | .merge _ | .mergeInto _ => True
  | .clear | .single _ | .collect _ | .replace _ | .restrict _ | .rebase _ _ => False

def supplied : Edit α → List (Locator α)
  | .insert l => [l]
  | .extend ls => ls
  | .merge other | .mergeInto other => other.toList
  | .clear | .single _ | .collect _ | .replace _ | .restrict _ | .rebase _ _ => []

variable [DecidableEq α] [Ord α]

/-- The history consists of additions, the regions merged being outcomes of histories too. -/
def Adding (history : List (Edit α)) : Prop :=
  ∀ edit ∈ history, edit.Adds ∧ ∀ operand ∈ edit.operands, operand.Reachable

variable [Std.TransOrd α] [Std.LawfulEqOrd α]

/-! ## One edit -/

theorem canonical_apply {r : Region α} {edit : Edit α} (canonical : Canonical r.toList)
    (operands : ∀ operand ∈ edit.operands, Canonical operand.toList) :
    Canonical (edit.apply r).toList := by
  cases edit with
  | clear => exact Region.canonical_empty
  | single l => exact Region.canonical_singleton l
  | collect ls => exact Region.canonical_ofList ls
  | replace other => exact operands other List.mem_cons_self
  | insert l => exact Region.canonical_insert canonical l
  | extend ls => exact Region.canonical_extend r ls
  | merge other =>
      exact Region.canonical_union canonical (operands other List.mem_cons_self)
  | mergeInto other =>
      exact Region.canonical_union (operands other List.mem_cons_self) canonical
  | restrict l => exact Region.canonical_restrict canonical l
  | rebase source target => exact Region.canonical_rebase r source target

theorem extent_apply {r : Region α} {edit : Edit α} (canonical : Canonical r.toList)
    (adds : edit.Adds) :
    extent (edit.apply r).toList = extent (r.toList ++ edit.supplied) := by
  rw [extent_append]
  cases edit with
  | insert l =>
      rw [apply, Region.extent_insert canonical, supplied, extent_cons, extent_nil,
        Set.union_empty]
  | extend ls => exact Region.extent_extend r ls
  | merge other => exact Region.extent_union r other
  | mergeInto other =>
      rw [apply, Region.extent_union, supplied, Set.union_comm]
  | clear | single l | collect ls | replace other | restrict l | rebase source target =>
      exact adds.elim

end Edit

/-! ## Whole histories -/

section Run

variable {α : Type u} [DecidableEq α] [Ord α] [Std.TransOrd α] [Std.LawfulEqOrd α]

theorem Region.Reachable.canonical {r : Region α} (reachable : r.Reachable) :
    Canonical r.toList := by
  induction reachable with
  | empty => exact Region.canonical_empty
  | edit edit _ _ start operands => exact Edit.canonical_apply start operands

omit [Std.TransOrd α] [Std.LawfulEqOrd α] in
theorem Region.reachable_ofList (ls : List (Locator α)) : (Region.ofList ls).Reachable :=
  .edit (.collect ls) .empty (fun _ listed => nomatch listed)

theorem Region.Reachable.ofList_toList {r : Region α} (reachable : r.Reachable) :
    Region.ofList r.toList = r :=
  (eq_ofList_of_extent_eq reachable.canonical rfl).symm

/-- Histories reach every canonical region and no other one. -/
theorem Region.reachable_iff_canonical {r : Region α} : r.Reachable ↔ Canonical r.toList := by
  constructor
  · exact Reachable.canonical
  · intro canonical
    rw [eq_ofList_of_extent_eq canonical rfl]
    exact reachable_ofList r.toList

namespace Edit

omit [Std.TransOrd α] [Std.LawfulEqOrd α] in
theorem Adding.tail {edit : Edit α} {history : List (Edit α)}
    (adding : Adding (edit :: history)) : Adding history :=
  fun later listed => adding later (List.mem_cons_of_mem edit listed)

omit [Std.TransOrd α] [Std.LawfulEqOrd α] in
theorem reachable_run {r : Region α} {history : List (Edit α)} (reachable : r.Reachable)
    (adding : Adding history) : (run r history).Reachable := by
  induction history generalizing r with
  | nil => exact reachable
  | cons edit history ih =>
      have next : (edit.apply r).Reachable :=
        .edit edit reachable (adding edit List.mem_cons_self).2
      exact ih next adding.tail

theorem extent_run {r : Region α} {history : List (Edit α)} (reachable : r.Reachable)
    (adding : Adding history) :
    extent (run r history).toList = extent (r.toList ++ history.flatMap supplied) := by
  induction history generalizing r with
  | nil => simp [run]
  | cons edit history ih =>
      obtain ⟨adds, operands⟩ := adding edit List.mem_cons_self
      have next : (edit.apply r).Reachable := .edit edit reachable operands
      rw [run, ih next adding.tail, extent_append, extent_apply reachable.canonical adds,
        ← extent_append, List.flatMap_cons, List.append_assoc]

theorem run_eq_ofList {r : Region α} {history : List (Edit α)} (reachable : r.Reachable)
    (adding : Adding history) :
    run r history = Region.ofList (r.toList ++ history.flatMap supplied) :=
  Region.eq_ofList_of_extent_eq (reachable_run reachable adding).canonical
    (extent_run reachable adding)

/-- A history of additions ends with the outermost of the locators that it started from or
was supplied with, so histories with the same locators have the same end. -/
theorem run_outermost {r : Region α} {history : List (Edit α)} (reachable : r.Reachable)
    (adding : Adding history) :
    Outermost (r.toList ++ history.flatMap supplied) (run r history).toList ∧
      ∀ (other : Region α) (otherHistory : List (Edit α)), other.Reachable →
        Adding otherHistory →
        (∀ l, l ∈ r.toList ++ history.flatMap supplied ↔
          l ∈ other.toList ++ otherHistory.flatMap supplied) →
        run r history = run other otherHistory := by
  rw [run_eq_ofList reachable adding]
  refine ⟨Region.outermost_ofList _, ?_⟩
  intro other otherHistory otherReachable otherAdding same
  rw [run_eq_ofList otherReachable otherAdding]
  refine Region.eq_ofList_of_extent_eq (Region.canonical_ofList _) ?_
  rw [Region.extent_ofList, extent_congr same]

theorem run_outermost_mixed :
    Outermost [⟨["a", "b"]⟩, ⟨["c"]⟩, ⟨["d"]⟩, ⟨["a"]⟩, ⟨["c", "x"]⟩, ⟨["d"]⟩]
        [⟨["a"]⟩, ⟨["c"]⟩, ⟨["d"]⟩] ∧
      run (.ofList [⟨["a", "b"]⟩, ⟨["c"]⟩])
          [.insert ⟨["d"]⟩, .merge (.singleton ⟨["a"]⟩), .mergeInto (.singleton ⟨["c", "x"]⟩),
            .extend [⟨["d"]⟩]] =
        run (.empty : Region String)
          [.extend [⟨["d"]⟩, ⟨["c", "x"]⟩, ⟨["c"]⟩, ⟨["a"]⟩, ⟨["a", "b"]⟩]] := by
  have single (l : Locator String) : (Region.singleton l).Reachable :=
    .edit (.single l) .empty (fun _ listed => nomatch listed)
  have adding : Adding (α := String) [.insert ⟨["d"]⟩, .merge (.singleton ⟨["a"]⟩),
      .mergeInto (.singleton ⟨["c", "x"]⟩), .extend [⟨["d"]⟩]] := by
    simp [Adding, Adds, operands, single]
  have extending : Adding (α := String)
      [.extend [⟨["d"]⟩, ⟨["c", "x"]⟩, ⟨["c"]⟩, ⟨["a"]⟩, ⟨["a", "b"]⟩]] := by
    simp [Adding, Adds, operands]
  have start : (Region.ofList [⟨["a", "b"]⟩, ⟨["c"]⟩] : Region String).toList =
      [⟨["a", "b"]⟩, ⟨["c"]⟩] := by cbv
  obtain ⟨outermost, same⟩ :=
    run_outermost (Region.reachable_ofList [⟨["a", "b"]⟩, ⟨["c"]⟩]) adding
  constructor
  · have members : (run (.ofList [⟨["a", "b"]⟩, ⟨["c"]⟩]) [.insert ⟨["d"]⟩,
        .merge (.singleton ⟨["a"]⟩), .mergeInto (.singleton ⟨["c", "x"]⟩),
        .extend [⟨["d"]⟩]] : Region String).toList = [⟨["a"]⟩, ⟨["c"]⟩, ⟨["d"]⟩] := by cbv
    rw [members, start] at outermost
    exact outermost
  · refine same _ _ .empty extending ?_
    intro l
    rw [start]
    simp [supplied]
    tauto

end Edit

end Run

/-! ## Regions that stem from texts -/

/-- The regions that a program can come by: nothing, a JSON text or a listing that is
accepted, and the outcome of any edit whose operands are such regions too. -/
inductive Region.Obtained : {α : Type} → [DecidableEq α] → [Ord α] → Region α → Prop where
  | empty {α : Type} [DecidableEq α] [Ord α] : Obtained (.empty : Region α)
  | ofJson {α : Type} [DecidableEq α] [Ord α] [Json.Codec α] {s : String} {r : Region α} :
      Region.ofJson s = .ok r → Obtained r
  | parse {s : String} {r : Region String} : Listing.parseRegion s = .ok r → Obtained r
  | edit {α : Type} [DecidableEq α] [Ord α] {r : Region α} (edit : Edit α) :
      Obtained r → (∀ operand ∈ edit.operands, Obtained operand) → Obtained (edit.apply r)

private theorem exists_of_map_eq_ok {ε β γ : Type} {f : β → γ} {result : Except ε β} {c : γ}
    (success : result.map f = .ok c) : ∃ b, f b = c := by
  cases result with
  | error e => cases success
  | ok b => exact ⟨b, Except.ok.inj success⟩

theorem Region.Obtained.reachable {α : Type} [DecidableEq α] [Ord α] {r : Region α}
    (obtained : r.Obtained) : r.Reachable := by
  induction obtained with
  | empty => exact .empty
  | ofJson success =>
      rw [Region.ofJson, Region.jsonReader, Json.Reader.readAll_map] at success
      obtain ⟨ls, rfl⟩ := exists_of_map_eq_ok success
      exact Region.reachable_ofList ls
  | parse success =>
      obtain ⟨ls, rfl⟩ := exists_of_map_eq_ok success
      exact Region.reachable_ofList ls
  | edit edit _ _ start operands => exact .edit edit start operands

/-- However a region was come by, its members are increasing and none covers another. -/
theorem Region.increasing_and_minimal_of_obtained {α : Type} [DecidableEq α] [Ord α]
    [Std.TransOrd α] [Std.LawfulEqOrd α] {r : Region α} (obtained : r.Obtained) :
    r.toList.Pairwise (fun a b => compare a b = .lt) ∧
      ∀ a ∈ r.toList, ∀ b ∈ r.toList, a.isPrefixOf b = true → a = b := by
  have canonical := obtained.reachable.canonical
  exact ⟨canonical.increasing, canonical.minimal⟩

theorem Region.increasing_and_minimal_of_two_texts :
    Listing.parseRegion "x/y\nb/c # d\nx\n" = .ok ⟨#[⟨["b", "c"]⟩, ⟨["x"]⟩]⟩ ∧
      Region.ofJson "[[\"b\"]]" = .ok (⟨#[⟨["b"]⟩]⟩ : Region String) ∧
      [⟨["a"]⟩, ⟨["x"]⟩].Pairwise (fun a b : Locator String => compare a b = .lt) ∧
      ∀ a ∈ ([⟨["a"]⟩, ⟨["x"]⟩] : List (Locator String)), ∀ b ∈ [⟨["a"]⟩, ⟨["x"]⟩],
        a.isPrefixOf b = true → a = b := by
  have listed : Listing.parseRegion "x/y\nb/c # d\nx\n" =
      .ok ⟨#[⟨["b", "c"]⟩, ⟨["x"]⟩]⟩ := by cbv
  have read : Region.ofJson "[[\"b\"]]" = .ok (⟨#[⟨["b"]⟩]⟩ : Region String) := by cbv
  have merged : (Edit.apply ⟨#[⟨["b", "c"]⟩, ⟨["x"]⟩]⟩
      (.merge (⟨#[⟨["b"]⟩]⟩ : Region String))).Obtained := by
    refine .edit _ (.parse listed) ?_
    intro operand given
    rw [List.mem_singleton.1 given]
    exact .ofJson read
  have rebased : (Edit.apply (Edit.apply ⟨#[⟨["b", "c"]⟩, ⟨["x"]⟩]⟩
      (.merge (⟨#[⟨["b"]⟩]⟩ : Region String))) (.rebase ⟨["b"]⟩ ⟨["a"]⟩)).Obtained := by
    refine .edit _ merged ?_
    intro operand given
    exact absurd given List.not_mem_nil
  have canonical := Region.increasing_and_minimal_of_obtained rebased
  have members : (Edit.apply (Edit.apply ⟨#[⟨["b", "c"]⟩, ⟨["x"]⟩]⟩
      (.merge (⟨#[⟨["b"]⟩]⟩ : Region String))) (.rebase ⟨["b"]⟩ ⟨["a"]⟩)).toList =
        [⟨["a"]⟩, ⟨["x"]⟩] := by cbv
  rw [members] at canonical
  exact ⟨listed, read, canonical⟩

end Hierarchy
