import Hierarchy.Proofs.Listing.Acceptance
import Hierarchy.Proofs.Locator.Reading

/-!
# A listing of one line

All that counts in a line is its `body`, which has neither the comment nor the spaces and
tabs around it: an empty body holds no locator, and any other one must be a written form
(`lineForm_some_iff`).  The parser of single locators reads written forms too.  It differs
in that it takes an empty text for the root and passes over blanks of every kind at the
ends, so the two agree on a body that is not empty and has no blanks there
(`parse_of_one_line`).
-/

set_option autoImplicit false

namespace Hierarchy.Listing

open Locator

/-- The line up to a comment, without the spaces and tabs at the ends. -/
def body (line : List Char) : List Char :=
  Text.stripEnds isSpacing (line.takeWhile (· != '#'))

/-! ## The body of a line -/

theorem isBlank_of_isSpacing {c : Char} (spacing : isSpacing c = true) :
    Text.isBlank c = true := by
  rcases isSpacing_iff.1 spacing with rfl | rfl
  · decide
  · decide

theorem IsSpacing.isBlank {cs : List Char} (spacing : IsSpacing cs) :
    ∀ c ∈ cs, Text.isBlank c = true := by
  intro c inside
  exact isBlank_of_isSpacing (isSpacing_forall_iff.1 spacing c inside)

theorem takeWhile_comment_append {front comment : List Char} (noHash : ∀ c ∈ front, c ≠ '#')
    (isComment : Comment comment) : (front ++ comment).takeWhile (· != '#') = front := by
  have stays : ∀ c ∈ front, (c != '#') = true := by
    intro c inside
    simpa using noHash c inside
  rw [List.takeWhile_append_of_pos stays]
  cases isComment with
  | missing => exact List.append_nil front
  | hash cs => exact List.append_nil front

theorem body_append {before text between comment : List Char} (beforeSpacing : IsSpacing before)
    (noHash : ∀ c ∈ text, c ≠ '#') (betweenSpacing : IsSpacing between)
    (isComment : Comment comment) :
    body (before ++ (text ++ (between ++ comment))) = Text.stripEnds isSpacing text := by
  have front : ∀ c ∈ before ++ (text ++ between), c ≠ '#' := by
    rintro c inside rfl
    rcases List.mem_append.1 inside with early | later
    · exact beforeSpacing.not_mem (by decide) early
    · rcases List.mem_append.1 later with middle | late
      · exact noHash '#' middle rfl
      · exact betweenSpacing.not_mem (by decide) late
  rw [body, ← List.append_assoc text, ← List.append_assoc before,
    takeWhile_comment_append front isComment]
  exact Text.stripEnds_append text (isSpacing_forall_iff.1 beforeSpacing)
    (isSpacing_forall_iff.1 betweenSpacing)

theorem comment_dropWhile (line : List Char) : Comment (line.dropWhile (· != '#')) := by
  induction line with
  | nil => exact .missing
  | cons c line ih =>
      by_cases isHash : c = '#'
      · rw [isHash, List.dropWhile_cons_of_neg (by decide)]
        exact .hash line
      · rw [List.dropWhile_cons_of_pos (by simpa using isHash)]
        exact ih

theorem exists_around_body (line : List Char) :
    ∃ before between comment, IsSpacing before ∧ IsSpacing between ∧ Comment comment ∧
      line = before ++ (body line ++ (between ++ comment)) := by
  obtain ⟨before, between, parts, beforeSpacing, betweenSpacing⟩ :=
    Text.exists_eq_append_stripEnds isSpacing (line.takeWhile (· != '#'))
  refine ⟨before, between, line.dropWhile (· != '#'), isSpacing_forall_iff.2 beforeSpacing,
    isSpacing_forall_iff.2 betweenSpacing, comment_dropWhile line, ?_⟩
  rw [body, ← List.append_assoc (Text.stripEnds _ _), ← List.append_assoc before, ← parts,
    List.takeWhile_append_dropWhile]

/-! ## The forms of a line -/

theorem lineForm_none_iff {line : List Char} : LineForm line none ↔ body line = [] := by
  constructor
  · intro form
    cases form with
    | blank beforeSpacing betweenSpacing comment =>
        exact body_append beforeSpacing (List.forall_mem_nil _) betweenSpacing comment
  · intro empty
    obtain ⟨before, between, comment, beforeSpacing, betweenSpacing, isComment, whole⟩ :=
      exists_around_body line
    rw [whole, empty, List.nil_append]
    exact .blank beforeSpacing betweenSpacing isComment

theorem lineForm_some_iff {line : List Char} {l : Locator String} :
    LineForm line (some l) ↔ Written (body line) l := by
  constructor
  · intro form
    cases form with
    | locator beforeSpacing written betweenSpacing comment =>
        rw [body_append beforeSpacing written.not_hash betweenSpacing comment,
          Text.stripEnds_eq_self]
        · exact written
        · intro c inside
          refine Bool.eq_false_iff.2 ?_
          intro spacing
          have blank := isBlank_of_isSpacing spacing
          rw [written.not_blank c inside] at blank
          contradiction
  · intro written
    obtain ⟨before, between, comment, beforeSpacing, betweenSpacing, isComment, whole⟩ :=
      exists_around_body line
    rw [whole]
    exact .locator beforeSpacing written betweenSpacing isComment

/-- A text is a written form if it is read as that locator, not empty and free of blanks
at the ends. -/
theorem written_iff_parseChars {text : List Char} {l : Locator String} :
    Written text l ↔ text ≠ [] ∧ (∀ c, text.head? = some c → Text.isBlank c = false) ∧
      (∀ c, text.getLast? = some c → Text.isBlank c = false) ∧
        Locator.parseChars text = .ok l := by
  constructor
  · intro written
    refine ⟨written.ne_nil, ?_, ?_, ?_⟩
    · intro c first
      exact written.not_blank c (List.mem_of_head? first)
    · intro c last
      exact written.not_blank c (List.mem_of_getLast? last)
    · rw [parseChars_eq_ok_iff, Text.trim, Text.stripEnds_eq_self written.not_blank]
      exact Or.inr written
  · intro read
    obtain ⟨nonempty, first, last, success⟩ := read
    rw [parseChars_eq_ok_iff, Text.trim, Text.stripEnds_eq_self_of_ends first last] at success
    rcases success with ⟨empty, _⟩ | written
    · exact absurd empty nonempty
    · exact written

/-! ## The whole listing -/

theorem parseChars_of_one_line {cs : List Char} (oneLine : '\n' ∉ cs) :
    parseChars cs =
      match parseLine cs with
      | none => .error ⟨1, String.ofList (Text.trim cs)⟩
      | some found => .ok found.toList := by
  cases cs with
  | nil => rfl
  | cons c cs =>
      have single := (Text.HasLines.last (List.cons_ne_nil c cs) oneLine).eq_lines
      rw [parseChars, ← single, parseLines]
      cases parseLine (c :: cs) with
      | none => rfl
      | some found => exact congrArg Except.ok (List.append_nil _)

theorem parseChars_eq_ok_nil_iff {cs : List Char} (oneLine : '\n' ∉ cs) :
    parseChars cs = .ok [] ↔ body cs = [] := by
  rw [← lineForm_none_iff, ← parseLine_eq_some_iff, parseChars_of_one_line oneLine]
  cases parseLine cs with
  | none => simp
  | some found => simp

theorem parseChars_eq_ok_singleton_iff {cs : List Char} (oneLine : '\n' ∉ cs)
    {l : Locator String} : parseChars cs = .ok [l] ↔ Written (body cs) l := by
  rw [← lineForm_some_iff, ← parseLine_eq_some_iff, parseChars_of_one_line oneLine]
  cases parseLine cs with
  | none => simp
  | some found => simp

/-- A listing of one line holds no locator if nothing but spacing is left of it without the
comment.  It holds a locator if what is left, free of spacing at the ends, is not empty,
has no blanks there and is read as this locator by itself.  Any other line is reported. -/
theorem parse_of_one_line {s : String} (oneLine : '\n' ∉ s.toList) :
    (parse s = .ok [] ↔ body s.toList = []) ∧
      (∀ l, parse s = .ok [l] ↔
        body s.toList ≠ [] ∧
          (∀ c, (body s.toList).head? = some c → Text.isBlank c = false) ∧
          (∀ c, (body s.toList).getLast? = some c → Text.isBlank c = false) ∧
          Locator.parse (String.ofList (body s.toList)) = .ok l) ∧
      (parse s = .ok [] ∨ (∃ l, parse s = .ok [l]) ∨
        parse s = .error ⟨1, String.ofList (Text.trim s.toList)⟩) := by
  refine ⟨parseChars_eq_ok_nil_iff oneLine, ?_, ?_⟩
  · intro l
    rw [Locator.parse, String.toList_ofList, ← written_iff_parseChars]
    exact parseChars_eq_ok_singleton_iff oneLine
  · rw [parse, parseChars_of_one_line oneLine]
    cases parseLine s.toList with
    | none => exact Or.inr (Or.inr rfl)
    | some found =>
        cases found with
        | none => exact Or.inl rfl
        | some l => exact Or.inr (Or.inl ⟨l, rfl⟩)

theorem parse_of_one_line_with_blank :
    parse "\t/a/b  # c" = .ok [⟨["a", "b"]⟩] ∧ parse " \t#/a" = .ok [] ∧
      Locator.parse "\u00a0a" = .ok ⟨["a"]⟩ ∧
      parse " \u00a0a#" = .error ⟨1, "a#"⟩ := by
  have form : body "\t/a/b  # c".toList = "/a/b".toList := by decide +kernel
  have empty : body " \t#/a".toList = [] := by decide +kernel
  have blank : body " \u00a0a#".toList = "\u00a0a".toList := by decide +kernel
  refine ⟨?_, ?_, by decide +kernel, ?_⟩
  · refine ((parse_of_one_line (by decide)).2.1 _).2 ?_
    rw [form]
    refine ⟨by decide, ?_, ?_, by decide +kernel⟩
    · intro c first
      cases first
      decide
    · intro c last
      cases last
      decide
  · exact (parse_of_one_line (by decide)).1.2 empty
  · obtain ⟨nothing, single, outcome⟩ :=
      parse_of_one_line (show '\n' ∉ " \u00a0a#".toList by decide)
    rw [blank] at nothing single
    rcases outcome with read | ⟨l, read⟩ | failure
    · exact absurd (nothing.1 read) (by decide)
    · -- the blank at the start of the body is no spacing
      have first := ((single l).1 read).2.1 '\u00a0' (by decide)
      exact absurd first (by decide)
    · rw [failure]
      decide +kernel

end Hierarchy.Listing
