import Hierarchy.Proofs.Listing.Acceptance
import Hierarchy.Proofs.Locator.Longest
import Hierarchy.Proofs.Text.Joined
import Hierarchy.Region.Edit
import Hierarchy.Region.Render
import Mathlib

/-!
# What the text of a region tells

Names hold no blanks, so the blanks in the text of a region whose tokens are names are
those behind the commas that separate its members.  What stands between two blanks, a comma
aside, is a written form of a member, and so the text tells the region, although names may
hold commas and braces themselves (`display_eq_iff_of_named`).

Of other tokens the text can tell less.  In particular the empty braces stand for nothing
at all and for the place below the root whose token is empty, and a slash in braces is the
text of three regions (`display_eq_braces_iff`).
-/

set_option autoImplicit false

namespace Hierarchy.Region

open Locator

theorem toList_display {α : Type} [Token α] (r : Region α) :
    r.display.toList =
      '\x7b' :: (List.intercalate [',', ' '] (r.toList.map memberText) ++ ['\x7d']) := by
  rw [display, String.toList_ofList, List.cons_append]

/-! ## Regions of names -/

theorem written_memberText {l : Locator String} (named : l.Named) :
    Written (memberText l) l := by
  rw [memberText, shown_eq_join]
  exact named.written_join_or_slash

theorem forall₂_written_memberText {ls : List (Locator String)} (named : ∀ l ∈ ls, l.Named) :
    List.Forall₂ Written (ls.map memberText) ls := by
  rw [List.forall₂_map_left_iff, List.forall₂_same]
  intro l listed
  exact written_memberText (named l listed)

theorem eq_of_map_memberText_eq {ls ks : List (Locator String)} (lsNamed : ∀ l ∈ ls, l.Named)
    (ksNamed : ∀ k ∈ ks, k.Named) (same : ls.map memberText = ks.map memberText) : ls = ks := by
  have unique : Relator.RightUnique Written := fun _ _ _ => Written.unique
  have lsWritten := forall₂_written_memberText lsNamed
  rw [same] at lsWritten
  exact unique.forall₂ lsWritten (forall₂_written_memberText ksNamed)

theorem memberText_of_named {ls : List (Locator String)} (named : ∀ l ∈ ls, l.Named) :
    (∀ t ∈ ls.map memberText, ' ' ∉ t) ∧ [] ∉ ls.map memberText := by
  constructor
  · intro t listed blank
    obtain ⟨l, member, rfl⟩ := List.mem_map.1 listed
    have visible := (written_memberText (named l member)).not_blank ' ' blank
    exact absurd visible (by decide)
  · intro listed
    obtain ⟨l, member, empty⟩ := List.mem_map.1 listed
    exact (written_memberText (named l member)).ne_nil empty

theorem eq_of_display_eq {a b : Region String} (aNamed : ∀ l ∈ a.toList, l.Named)
    (bNamed : ∀ l ∈ b.toList, l.Named) (same : a.display = b.display) : a = b := by
  rw [← String.toList_inj, toList_display, toList_display, List.cons_inj_right,
    List.append_cancel_right_eq] at same
  obtain ⟨aFree, aNonempty⟩ := memberText_of_named aNamed
  obtain ⟨bFree, bNonempty⟩ := memberText_of_named bNamed
  have noBlank : ' ' ∉ [','] := by decide
  have texts := Text.eq_of_intercalate_eq noBlank aFree bFree aNonempty bNonempty same
  exact eq_iff_toList_eq.2 (eq_of_map_memberText_eq aNamed bNamed texts)

/-- Regions whose tokens are names have the same text just in case they are equal.  The
regions read from listings are of this kind. -/
theorem display_eq_iff_of_named :
    (∀ a b : Region String, (∀ l ∈ a.toList, l.Named) → (∀ l ∈ b.toList, l.Named) →
      (a.display = b.display ↔ a = b)) ∧
      ∀ (s : String) (r : Region String), Listing.parseRegion s = .ok r →
        ∀ l ∈ r.toList, l.Named := by
  constructor
  · intro a b aNamed bNamed
    constructor
    · exact eq_of_display_eq aNamed bNamed
    · rintro rfl
      rfl
  · intro s r accepted l member
    exact Listing.named_of_parseRegion accepted member

theorem display_eq_iff_of_named_with_commas :
    Listing.parseRegion "a,\n\x7d/,b\n" = .ok ⟨#[⟨["a,"]⟩, ⟨["\x7d", ",b"]⟩]⟩ ∧
      Listing.parseRegion "a\n,\x7d/,b\n" = .ok ⟨#[⟨[",\x7d", ",b"]⟩, ⟨["a"]⟩]⟩ ∧
      (⟨#[⟨["a,"]⟩, ⟨["\x7d", ",b"]⟩]⟩ : Region String).display = "\x7ba,, \x7d/,b\x7d" ∧
      (⟨#[⟨[",\x7d", ",b"]⟩, ⟨["a"]⟩]⟩ : Region String).display ≠ "\x7ba,, \x7d/,b\x7d" := by
  have accepted : Listing.parseRegion "a,\n\x7d/,b\n" = .ok ⟨#[⟨["a,"]⟩, ⟨["\x7d", ",b"]⟩]⟩ := by
    cbv
  have otherAccepted : Listing.parseRegion "a\n,\x7d/,b\n" =
      .ok ⟨#[⟨[",\x7d", ",b"]⟩, ⟨["a"]⟩]⟩ := by cbv
  have text : (⟨#[⟨["a,"]⟩, ⟨["\x7d", ",b"]⟩]⟩ : Region String).display =
      "\x7ba,, \x7d/,b\x7d" := by decide +kernel
  refine ⟨accepted, otherAccepted, text, ?_⟩
  rw [← text, Ne, display_eq_iff_of_named.1 _ _ (display_eq_iff_of_named.2 _ _ otherAccepted)
    (display_eq_iff_of_named.2 _ _ accepted)]
  decide

/-! ## Regions of any texts -/

theorem memberText_cons (token : String) (rest : List String) :
    memberText ⟨token :: rest⟩ =
      List.intercalate ['/'] (token.toList :: rest.map String.toList) := by
  have below : (⟨token :: rest⟩ : Locator String).isRoot ≠ true := by simp [isRoot]
  rw [memberText, if_neg below, shown_eq_join]
  rfl

theorem memberText_eq_nil_iff {l : Locator String} : memberText l = [] ↔ l = ⟨[""]⟩ := by
  obtain ⟨tokens⟩ := l
  cases tokens with
  | nil => decide
  | cons token rest =>
      have short : ([] : List Char).length < ['/'].length := by decide
      rw [memberText_cons, Text.intercalate_eq_iff_of_short short]
      simp

theorem memberText_eq_slash_iff {l : Locator String} :
    memberText l = ['/'] ↔ l = root ∨ l = ⟨["/"]⟩ ∨ l = ⟨["", ""]⟩ := by
  obtain ⟨tokens⟩ := l
  match tokens with
  | [] => decide
  | [token] =>
      have slash : "/".toList = ['/'] := by simp
      rw [memberText_cons, List.map_nil, List.intercalate_singleton, ← slash, String.toList_inj]
      simp [root]
  | [first, second] =>
      rw [memberText_cons, List.map_cons, List.map_nil, List.intercalate_cons_cons,
        List.intercalate_singleton]
      simp [root, List.append_eq_cons_iff]
  | first :: second :: third :: rest =>
      -- the tokens may be empty, but there are two slashes
      have long : memberText ⟨first :: second :: third :: rest⟩ ≠ ['/'] := by
        intro same
        have sizes := congrArg List.length same
        simp only [memberText_cons, List.map_cons, List.intercalate_cons_cons, List.length_append,
          List.length_singleton] at sizes
        omega
      simp [long, root]

theorem display_eq_iff_of_short (r : Region String) {inner : List Char}
    (short : inner.length < [',', ' '].length) :
    r.display = String.ofList ('\x7b' :: (inner ++ ['\x7d'])) ↔
      (r.toList = [] ∧ inner = []) ∨ ∃ l, r.toList = [l] ∧ memberText l = inner := by
  rw [← String.toList_inj, toList_display, String.toList_ofList, List.cons_inj_right,
    List.append_cancel_right_eq, Text.intercalate_eq_iff_of_short short, List.map_eq_nil_iff,
    List.map_eq_singleton_iff]

/-- The empty braces are the text of the region without members, and of the one whose only
member is the place with the empty token.  A slash in braces is the text of the region that
holds everything, and of two others of one member each. -/
theorem display_eq_braces_iff (r : Region String) :
    (r.display = "\x7b\x7d" ↔ r.toList = [] ∨ r.toList = [⟨[""]⟩]) ∧
      (r.display = "\x7b/\x7d" ↔
        r.toList = [root] ∨ r.toList = [⟨["/"]⟩] ∨ r.toList = [⟨["", ""]⟩]) := by
  have noneShort : ([] : List Char).length < [',', ' '].length := by decide
  have slashShort : ['/'].length < [',', ' '].length := by decide
  constructor
  · refine (display_eq_iff_of_short r noneShort).trans ?_
    simp only [memberText_eq_nil_iff, and_true, exists_eq_right]
  · refine (display_eq_iff_of_short r slashShort).trans ?_
    simp only [memberText_eq_slash_iff, reduceCtorEq, and_false, false_or, and_or_left, exists_or,
      exists_eq_right]

/-- Some regions that hold something look like nothing, and some like everything. -/
theorem display_of_empty_tokens :
    (singleton ⟨[""]⟩ : Region String).Reachable ∧
      (singleton ⟨[""]⟩ : Region String).toList ≠ [] ∧
      (singleton ⟨[""]⟩ : Region String).display = "\x7b\x7d" ∧
      (singleton ⟨["", ""]⟩ : Region String).Reachable ∧
      (singleton ⟨["", ""]⟩ : Region String).toList ≠ [root] ∧
      (singleton ⟨["", ""]⟩ : Region String).display = "\x7b/\x7d" := by
  have reachable (l : Locator String) : (singleton l).Reachable :=
    .edit (.single l) .empty (fun _ listed => nomatch listed)
  refine ⟨reachable _, by decide, by decide +kernel, reachable _, by decide, by decide +kernel⟩

end Hierarchy.Region
