import Hierarchy.Proofs.Listing.OneLine
import Mathlib.Data.List.Forall2

/-!
# The layout of a listing

The same line contents can be written down in many ways: spaces and tabs may stand at either
end of a line, and a line feed may have a carriage return before it.  None of this reaches
the outcome, be it the locators or the report on a line (`parse_of_laidOut`).  Leaving out
comments may at most change the text in a report, and neither the locators nor the number
of the line reported.
-/

set_option autoImplicit false

namespace Hierarchy.Listing

open Locator

/-- `padded` is `line` with any spaces and tabs around it. -/
def Padded (line padded : List Char) : Prop :=
  ∃ before after, IsSpacing before ∧ IsSpacing after ∧ padded = before ++ (line ++ after)

/-- The text has these line contents, each with any spaces and tabs around it and with an
end of either kind. -/
inductive LaidOut : List (List Char) → List Char → Prop where
  | nil : LaidOut [] []
  | feed {line padded rest : List Char} {ls : List (List Char)} :
      Padded line padded → LaidOut ls rest → LaidOut (line :: ls) (padded ++ '\n' :: rest)
  | returnFeed {line padded rest : List Char} {ls : List (List Char)} :
      Padded line padded → LaidOut ls rest →
        LaidOut (line :: ls) (padded ++ '\r' :: '\n' :: rest)

/-- `kept` is `line`, possibly without everything from the first hash on. -/
def CommentCut (line kept : List Char) : Prop :=
  kept = line ∨ kept = line.takeWhile (· != '#')

/-! ## One line -/

theorem Padded.refl (line : List Char) : Padded line line :=
  ⟨[], [], List.forall_mem_nil _, List.forall_mem_nil _, (List.append_nil line).symm⟩

theorem parseLine_eq_of_body_eq {line other : List Char} (same : body line = body other) :
    parseLine line = parseLine other := by
  apply Option.ext
  intro found
  rw [parseLine_eq_some_iff, parseLine_eq_some_iff]
  cases found with
  | none => rw [lineForm_none_iff, lineForm_none_iff, same]
  | some l => rw [lineForm_some_iff, lineForm_some_iff, same]

theorem body_takeWhile (line : List Char) : body (line.takeWhile (· != '#')) = body line := by
  rw [body, List.takeWhile_idem, body]

/-- Spaces and tabs behind a comment belong to the comment. -/
theorem Comment.exists_eq_append {comment after : List Char} (isComment : Comment comment)
    (afterSpacing : IsSpacing after) :
    ∃ between rest, IsSpacing between ∧ Comment rest ∧ comment ++ after = between ++ rest := by
  cases isComment with
  | missing => exact ⟨after, [], afterSpacing, .missing, (List.append_nil after).symm⟩
  | hash cs => exact ⟨[], '#' :: (cs ++ after), List.forall_mem_nil _, .hash _, rfl⟩

theorem Padded.body_eq {line padded : List Char} (pads : Padded line padded) :
    body padded = body line := by
  obtain ⟨before, after, beforeSpacing, afterSpacing, rfl⟩ := pads
  obtain ⟨between, rest, betweenSpacing, isComment, behind⟩ :=
    (comment_dropWhile line).exists_eq_append afterSpacing
  have noHash : ∀ c ∈ line.takeWhile (· != '#'), c ≠ '#' := by
    intro c inside
    simpa using List.mem_takeWhile_imp inside
  have parts : line ++ after = line.takeWhile (· != '#') ++ (between ++ rest) := by
    rw [← behind, ← List.append_assoc, List.takeWhile_append_dropWhile]
  rw [parts, body_append beforeSpacing noHash betweenSpacing isComment, body]

theorem Padded.trim_eq {line padded : List Char} (pads : Padded line padded) :
    Text.trim padded = Text.trim line := by
  obtain ⟨before, after, beforeSpacing, afterSpacing, rfl⟩ := pads
  exact Text.stripEnds_append line beforeSpacing.isBlank afterSpacing.isBlank

theorem CommentCut.body_eq {line kept : List Char} (cuts : CommentCut line kept) :
    body kept = body line := by
  obtain rfl | rfl := cuts
  · rfl
  · exact body_takeWhile line

/-! ## All lines -/

theorem mapError_parseLines_cons {β : Type} (look : InvalidLocator → β) (number : Nat)
    (line : List Char) (rest : List (List Char)) :
    (parseLines number (line :: rest)).mapError look =
      match parseLine line with
      | none => .error (look ⟨number, String.ofList (Text.trim line)⟩)
      | some found => ((parseLines (number + 1) rest).mapError look).map (found.toList ++ ·) := by
  rw [parseLines]
  cases parseLine line with
  | none => rfl
  | some found =>
      cases parseLines (number + 1) rest with
      | error e => rfl
      | ok more => rfl

/-- The lines hold the same, and `look` cannot tell the reports on them apart. -/
def Alike {β : Type} (look : InvalidLocator → β) (line other : List Char) : Prop :=
  parseLine line = parseLine other ∧
    ∀ number, look ⟨number, String.ofList (Text.trim line)⟩ =
      look ⟨number, String.ofList (Text.trim other)⟩

theorem mapError_parseLines_congr {β : Type} {look : InvalidLocator → β} {number : Nat}
    {ls ks : List (List Char)} (alike : List.Forall₂ (Alike look) ls ks) :
    (parseLines number ls).mapError look = (parseLines number ks).mapError look := by
  induction alike generalizing number with
  | nil => rfl
  | cons first _ ih =>
      obtain ⟨sameFound, sameReport⟩ := first
      rw [mapError_parseLines_cons, mapError_parseLines_cons, sameFound, sameReport, ih]

theorem Padded.alike {line padded : List Char} (pads : Padded line padded) :
    Alike id line padded := by
  refine ⟨parseLine_eq_of_body_eq pads.body_eq.symm, ?_⟩
  intro number
  rw [pads.trim_eq]

theorem CommentCut.alike {line kept : List Char} (cuts : CommentCut line kept) :
    Alike InvalidLocator.line line kept :=
  ⟨parseLine_eq_of_body_eq cuts.body_eq.symm, fun _ => rfl⟩

theorem parseLines_padded {number : Nat} {ls padded : List (List Char)}
    (pads : List.Forall₂ Padded ls padded) : parseLines number padded = parseLines number ls := by
  have whole (result : Except InvalidLocator (List (Locator String))) :
      result.mapError id = result := by
    cases result with
    | error e => rfl
    | ok found => rfl
  have same := @mapError_parseLines_congr _ id number _ _ (pads.imp fun _ _ => Padded.alike)
  rw [whole, whole] at same
  exact same.symm

/-! ## The whole listing -/

theorem Padded.not_mem {line padded : List Char} {c : Char} (pads : Padded line padded)
    (solid : isSpacing c = false) (outside : c ∉ line) : c ∉ padded := by
  obtain ⟨before, after, beforeSpacing, afterSpacing, rfl⟩ := pads
  intro inside
  rcases List.mem_append.1 inside with early | later
  · exact beforeSpacing.not_mem solid early
  · rcases List.mem_append.1 later with middle | late
    · exact outside middle
    · exact afterSpacing.not_mem solid late

/-- Neither kind of line end begins in the line. -/
def Unbroken (line : List Char) : Prop := '\n' ∉ line ∧ '\r' ∉ line

theorem LaidOut.exists_padded {ls : List (List Char)} {text : List Char} (laid : LaidOut ls text)
    (unbroken : ∀ line ∈ ls, Unbroken line) :
    ∃ padded, Text.HasLines text padded ∧ List.Forall₂ Padded ls padded := by
  induction laid with
  | nil => exact ⟨[], .nil, .nil⟩
  | feed pads _ ih =>
      obtain ⟨first, others⟩ := List.forall_mem_cons.1 unbroken
      obtain ⟨padded, has, further⟩ := ih others
      refine ⟨_, .feed (pads.not_mem (by decide) first.1) ?_ has, .cons pads further⟩
      intro endsInReturn
      exact pads.not_mem (by decide) first.2 (List.mem_of_getLast? endsInReturn)
  | returnFeed pads _ ih =>
      obtain ⟨first, others⟩ := List.forall_mem_cons.1 unbroken
      obtain ⟨padded, has, further⟩ := ih others
      exact ⟨_, .returnFeed (pads.not_mem (by decide) first.1) has, .cons pads further⟩

theorem LaidOut.parse_eq {ls : List (List Char)} {s : String} (laid : LaidOut ls s.toList)
    (unbroken : ∀ line ∈ ls, Unbroken line) : parse s = parseLines 1 ls := by
  obtain ⟨padded, has, pads⟩ := laid.exists_padded unbroken
  rw [parse, parseChars, ← has.eq_lines, parseLines_padded pads]

theorem laidOut_unlines (ls : List (List Char)) :
    LaidOut ls (Text.unlines (ls.map String.ofList)).toList := by
  induction ls with
  | nil => exact .nil
  | cons line ls ih =>
      rw [List.map_cons, Text.toList_unlines_cons, String.toList_ofList]
      exact .feed (Padded.refl line) ih

theorem CommentCut.unbroken {line kept : List Char} (cuts : CommentCut line kept)
    (unbroken : Unbroken line) : Unbroken kept := by
  obtain rfl | rfl := cuts
  · exact unbroken
  · have part := (line.takeWhile_sublist (· != '#')).subset
    exact ⟨fun inside => unbroken.1 (part inside), fun inside => unbroken.2 (part inside)⟩

theorem unbroken_of_forall₂_commentCut {ls kept : List (List Char)}
    (cuts : List.Forall₂ CommentCut ls kept) (unbroken : ∀ line ∈ ls, Unbroken line) :
    ∀ line ∈ kept, Unbroken line := by
  induction cuts with
  | nil => exact List.forall_mem_nil _
  | cons first _ ih =>
      obtain ⟨firstUnbroken, others⟩ := List.forall_mem_cons.1 unbroken
      exact List.forall_mem_cons.2 ⟨first.unbroken firstUnbroken, ih others⟩

/-- However line contents are laid out, the outcome is that of the lines with a line feed
behind each.  If comments are left out too, the locators are the same, or a report comes
from the same line. -/
theorem parse_of_laidOut {ls : List (List Char)}
    (unbroken : ∀ line ∈ ls, '\n' ∉ line ∧ '\r' ∉ line) :
    (∀ s, LaidOut ls s.toList → parse s = parse (Text.unlines (ls.map String.ofList))) ∧
      ∀ kept s, List.Forall₂ CommentCut ls kept → LaidOut kept s.toList →
        (parse s).mapError InvalidLocator.line =
          (parse (Text.unlines (ls.map String.ofList))).mapError InvalidLocator.line := by
  have plain := (laidOut_unlines ls).parse_eq unbroken
  constructor
  · intro s laid
    rw [laid.parse_eq unbroken, plain]
  · intro kept s cuts laid
    rw [laid.parse_eq (unbroken_of_forall₂_commentCut cuts unbroken), plain]
    exact (mapError_parseLines_congr (cuts.imp fun _ _ => CommentCut.alike)).symm

theorem parse_of_laidOut_with_bad_line :
    parse " a/b # c\t\r\n\tx y#z\n" = parse "a/b # c\nx y#z\n" ∧
      parse "a/b # c\nx y#z\n" = .error ⟨2, "x y#z"⟩ ∧
      (parse "\ta/b # c\nx y\r\n").mapError InvalidLocator.line = .error 2 := by
  have unbroken : ∀ line ∈ ["a/b # c".toList, "x y#z".toList], '\n' ∉ line ∧ '\r' ∉ line := by
    decide +kernel
  have plain : Text.unlines (["a/b # c".toList, "x y#z".toList].map String.ofList) =
      "a/b # c\nx y#z\n" := by decide +kernel
  have laid : LaidOut ["a/b # c".toList, "x y#z".toList] " a/b # c\t\r\n\tx y#z\n".toList :=
    @LaidOut.returnFeed _ " a/b # c\t".toList _ _
      ⟨[' '], ['\t'], by simp [IsSpacing], by simp [IsSpacing], by decide +kernel⟩
      (@LaidOut.feed _ "\tx y#z".toList _ _
        ⟨['\t'], [], by simp [IsSpacing], by simp [IsSpacing], by decide +kernel⟩ .nil)
  have cuts : List.Forall₂ CommentCut ["a/b # c".toList, "x y#z".toList]
      ["a/b # c".toList, "x y".toList] :=
    .cons (Or.inl rfl) (.cons (Or.inr (by decide +kernel)) .nil)
  have shorter : LaidOut ["a/b # c".toList, "x y".toList] "\ta/b # c\nx y\r\n".toList :=
    @LaidOut.feed _ "\ta/b # c".toList _ _
      ⟨['\t'], [], by simp [IsSpacing], by simp [IsSpacing], by decide +kernel⟩
      (@LaidOut.returnFeed _ "x y".toList _ _ (Padded.refl _) .nil)
  obtain ⟨sameOutcome, sameLine⟩ := parse_of_laidOut unbroken
  have failure : parse "a/b # c\nx y#z\n" = .error ⟨2, "x y#z"⟩ := by decide +kernel
  refine ⟨(sameOutcome _ laid).trans (congrArg parse plain), failure, ?_⟩
  rw [sameLine _ _ cuts shorter, plain, failure]
  rfl

end Hierarchy.Listing
