import Hierarchy.Listing
import Hierarchy.Proofs.Locator.Reading
import Hierarchy.Proofs.Text.Lines
import Mathlib.Data.List.ReduceOption

/-!
# What a listing may be

`LineForm` is the grammar of a line: spaces and tabs around a locator that may be missing,
and a comment that may be missing.  Reading a line finds the only locator that the grammar
allows (`parseLine_eq_some_iff`), so a listing is accepted if all of its lines have that
form, and otherwise the first line that has not is reported (`parse_iff_wellFormed_lines`).
-/

set_option autoImplicit false

namespace Hierarchy.Listing

open Locator

def IsSpacing (cs : List Char) : Prop := ∀ c ∈ cs, c = ' ' ∨ c = '\t'

/-- A comment goes on to the end of the line; there need not be one. -/
inductive Comment : List Char → Prop where
  | missing : Comment []
  | hash (cs : List Char) : Comment ('#' :: cs)

/-- The line holds that locator, or is well formed without one. -/
inductive LineForm : List Char → Option (Locator String) → Prop where
  | blank {before between comment : List Char} :
      IsSpacing before → IsSpacing between → Comment comment →
        LineForm (before ++ (between ++ comment)) none
  | locator {before text between comment : List Char} {l : Locator String} :
      IsSpacing before → Written text l → IsSpacing between → Comment comment →
        LineForm (before ++ (text ++ (between ++ comment))) (some l)

def WellFormed (line : List Char) : Prop := ∃ found, LineForm line found

/-! ## Around a locator -/

theorem isSpacing_iff {c : Char} : isSpacing c = true ↔ c = ' ' ∨ c = '\t' := by
  simp [isSpacing]

theorem isSpacing_forall_iff {cs : List Char} :
    IsSpacing cs ↔ ∀ c ∈ cs, isSpacing c = true := by
  simp only [IsSpacing, isSpacing_iff]

theorem IsSpacing.not_mem {cs : List Char} {c : Char} (spacing : IsSpacing cs)
    (solid : isSpacing c = false) : c ∉ cs := by
  intro inside
  rw [isSpacing_forall_iff.1 spacing c inside] at solid
  contradiction

theorem isSpacing_takeWhile (cs : List Char) : IsSpacing (cs.takeWhile isSpacing) := by
  apply isSpacing_forall_iff.2
  intro c inside
  exact List.mem_takeWhile_imp inside

theorem dropWhile_isSpacing_append {before rest : List Char} (spacing : IsSpacing before) :
    (before ++ rest).dropWhile isSpacing = rest.dropWhile isSpacing :=
  List.dropWhile_append_of_pos (isSpacing_forall_iff.1 spacing)

theorem isLineRest_iff {cs : List Char} : isLineRest cs = true ↔ Comment cs := by
  cases cs with
  | nil => exact ⟨fun _ => .missing, fun _ => rfl⟩
  | cons c cs =>
      rw [isLineRest, beq_iff_eq]
      constructor
      · rintro rfl
        exact .hash cs
      · intro comment
        cases comment
        rfl

theorem Comment.dropWhile_isSpacing {cs : List Char} (comment : Comment cs) :
    cs.dropWhile isSpacing = cs := by
  cases comment with
  | missing => rfl
  | hash cs => exact List.dropWhile_cons_of_neg (by decide)

theorem Comment.read?_eq_none {cs : List Char} (comment : Comment cs) :
    read? cs = none := by
  cases comment with
  | missing => exact Locator.read?_eq_none rfl fun _ starts => nomatch starts
  | hash cs =>
      have noSlash : ∀ rest, '#' :: cs ≠ '/' :: rest := by
        intro rest starts
        exact absurd (List.cons.inj starts).1 (by decide)
      refine Locator.read?_eq_none ?_ noSlash
      rw [dropSlash_of_not_slash noSlash]
      exact (closes_cons (by decide) (by decide) cs).noName

theorem closes_of_comment {between comment : List Char} (spacing : IsSpacing between)
    (isComment : Comment comment) : Closes (between ++ comment) := by
  cases between with
  | nil =>
      cases isComment with
      | missing => exact closes_nil
      | hash cs => exact closes_cons (by decide) (by decide) cs
  | cons c between =>
      rcases spacing c List.mem_cons_self with rfl | rfl
      · exact closes_cons (by decide) (by decide) _
      · exact closes_cons (by decide) (by decide) _

theorem dropWhile_isSpacing_written {text rest : List Char} {l : Locator String}
    (written : Written text l) : (text ++ rest).dropWhile isSpacing = text ++ rest := by
  obtain ⟨c, more, rfl, starts⟩ := written.exists_cons
  refine List.dropWhile_cons_of_neg ?_
  rw [isSpacing_iff]
  rintro (rfl | rfl)
  · exact absurd starts (by decide)
  · exact absurd starts (by decide)

/-! ## One line -/

theorem LineForm.parseLine_eq {line : List Char} {found : Option (Locator String)}
    (form : LineForm line found) : parseLine line = some found := by
  cases form with
  | blank beforeSpacing betweenSpacing comment =>
      rw [parseLine, dropWhile_isSpacing_append beforeSpacing,
        dropWhile_isSpacing_append betweenSpacing, comment.dropWhile_isSpacing,
        comment.read?_eq_none]
      exact if_pos (isLineRest_iff.2 comment)
  | locator beforeSpacing written betweenSpacing comment =>
      -- neither blanks nor a hash go on with a locator, so the reader stops before them
      have closes := closes_of_comment betweenSpacing comment
      have rest := isLineRest_iff.2 comment
      rw [← comment.dropWhile_isSpacing, ← dropWhile_isSpacing_append betweenSpacing] at rest
      rw [parseLine, dropWhile_isSpacing_append beforeSpacing,
        dropWhile_isSpacing_written written, read?_append written closes]
      exact if_pos rest

theorem lineForm_of_parseLine {line : List Char} {found : Option (Locator String)}
    (success : parseLine line = some found) : LineForm line found := by
  have whole : line.takeWhile isSpacing ++ line.dropWhile isSpacing = line :=
    List.takeWhile_append_dropWhile
  rw [← whole]
  cases reading : read? (line.dropWhile isSpacing) with
  | none =>
      simp only [parseLine, reading] at success
      split at success
      case isTrue rest =>
        cases success
        exact @LineForm.blank _ [] _ (isSpacing_takeWhile line) (fun _ inside => nomatch inside)
          (isLineRest_iff.1 rest)
      case isFalse => contradiction
  | some taken =>
      obtain ⟨l, after⟩ := taken
      obtain ⟨text, written, body⟩ := written_of_read? reading
      simp only [parseLine, reading] at success
      split at success
      case isTrue rest =>
        cases success
        rw [body, ← @List.takeWhile_append_dropWhile _ isSpacing after]
        exact .locator (isSpacing_takeWhile line) written (isSpacing_takeWhile after)
          (isLineRest_iff.1 rest)
      case isFalse => contradiction

/-- A line is read if the grammar derives it, and then for the locator that it holds. -/
theorem parseLine_eq_some_iff {line : List Char} {found : Option (Locator String)} :
    parseLine line = some found ↔ LineForm line found := by
  constructor
  · exact lineForm_of_parseLine
  · exact LineForm.parseLine_eq

theorem parseLine_eq_none_iff {line : List Char} :
    parseLine line = none ↔ ¬WellFormed line := by
  simp only [WellFormed, ← parseLine_eq_some_iff, ← Option.ne_none_iff_exists', not_not]

/-! ## All lines -/

theorem parseLines_eq_ok {number : Nat} {ls : List (List Char)}
    {found : List (Option (Locator String))} (forms : List.Forall₂ LineForm ls found) :
    parseLines number ls = .ok found.reduceOption := by
  induction forms generalizing number with
  | nil => rfl
  | @cons line first ls found form _ ih =>
      rw [parseLines, form.parseLine_eq]
      simp only [ih]
      cases first with
      | none => rfl
      | some l => rfl

theorem parseLines_eq_error {number : Nat} {before after : List (List Char)} {line : List Char}
    (earlier : ∀ l ∈ before, WellFormed l) (bad : ¬WellFormed line) :
    parseLines number (before ++ line :: after) =
      .error ⟨number + before.length, String.ofList (Text.trim line)⟩ := by
  induction before generalizing number with
  | nil =>
      rw [List.nil_append, parseLines, parseLine_eq_none_iff.2 bad]
      rfl
  | cons first before ih =>
      obtain ⟨⟨found, form⟩, later⟩ := List.forall_mem_cons.1 earlier
      rw [List.cons_append, parseLines, form.parseLine_eq]
      simp only [ih later]
      rw [List.length_cons, Nat.add_assoc, Nat.add_comm 1]

theorem exists_forms_iff {ls : List (List Char)} :
    (∃ found, List.Forall₂ LineForm ls found) ↔ ∀ l ∈ ls, WellFormed l := by
  induction ls with
  | nil => exact ⟨fun _ => List.forall_mem_nil _, fun _ => ⟨[], .nil⟩⟩
  | cons line ls ih =>
      rw [List.forall_mem_cons, ← ih]
      constructor
      · rintro ⟨_, forms⟩
        cases forms with
        | cons form forms => exact ⟨⟨_, form⟩, _, forms⟩
      · rintro ⟨⟨first, form⟩, found, forms⟩
        exact ⟨first :: found, .cons form forms⟩

theorem forms_or_first_bad (ls : List (List Char)) :
    (∀ l ∈ ls, WellFormed l) ∨
      ∃ before line after, ls = before ++ line :: after ∧ (∀ l ∈ before, WellFormed l) ∧
        ¬WellFormed line := by
  induction ls with
  | nil => exact Or.inl (List.forall_mem_nil _)
  | cons first ls ih =>
      by_cases form : WellFormed first
      · rcases ih with later | ⟨before, line, after, rfl, earlier, bad⟩
        · exact Or.inl (List.forall_mem_cons.2 ⟨form, later⟩)
        · refine Or.inr ⟨first :: before, line, after, rfl, ?_, bad⟩
          exact List.forall_mem_cons.2 ⟨form, earlier⟩
      · exact Or.inr ⟨[], first, ls, rfl, List.forall_mem_nil _, form⟩

theorem parseLines_eq_ok_iff {number : Nat} {ls : List (List Char)} {r : List (Locator String)} :
    parseLines number ls = .ok r ↔
      ∃ found, List.Forall₂ LineForm ls found ∧ r = found.reduceOption := by
  constructor
  · intro success
    rcases forms_or_first_bad ls with each | ⟨before, line, after, rfl, earlier, bad⟩
    · obtain ⟨found, forms⟩ := exists_forms_iff.2 each
      rw [parseLines_eq_ok forms] at success
      exact ⟨found, forms, (Except.ok.inj success).symm⟩
    · rw [parseLines_eq_error earlier bad] at success
      contradiction
  · rintro ⟨found, forms, rfl⟩
    exact parseLines_eq_ok forms

theorem parseLines_eq_error_iff {number : Nat} {ls : List (List Char)} {e : InvalidLocator} :
    parseLines number ls = .error e ↔
      ∃ before line after, ls = before ++ line :: after ∧ (∀ l ∈ before, WellFormed l) ∧
        ¬WellFormed line ∧ e = ⟨number + before.length, String.ofList (Text.trim line)⟩ := by
  constructor
  · intro failure
    rcases forms_or_first_bad ls with each | ⟨before, line, after, rfl, earlier, bad⟩
    · obtain ⟨found, forms⟩ := exists_forms_iff.2 each
      rw [parseLines_eq_ok forms] at failure
      contradiction
    · rw [parseLines_eq_error earlier bad] at failure
      exact ⟨before, line, after, rfl, earlier, bad, (Except.error.inj failure).symm⟩
  · rintro ⟨before, line, after, rfl, earlier, bad, rfl⟩
    exact parseLines_eq_error earlier bad

theorem exists_parseLines_eq_ok_iff {number : Nat} {ls : List (List Char)} :
    (∃ r, parseLines number ls = .ok r) ↔ ∀ l ∈ ls, WellFormed l := by
  constructor
  · rintro ⟨r, success⟩
    obtain ⟨found, forms, _⟩ := parseLines_eq_ok_iff.1 success
    exact exists_forms_iff.1 ⟨found, forms⟩
  · intro each
    obtain ⟨found, forms⟩ := exists_forms_iff.2 each
    exact ⟨found.reduceOption, parseLines_eq_ok forms⟩

theorem parseRegion_eq_ok_iff {s : String} {r : Region String} :
    parseRegion s = .ok r ↔ ∃ ls, parse s = .ok ls ∧ Region.ofList ls = r := by
  rw [parseRegion]
  cases parse s with
  | error e => simp [Except.map]
  | ok ls => simp [Except.map]

/-! ## What a listing may hold -/

theorem LineForm.named {line : List Char} {l : Locator String}
    (form : LineForm line (some l)) : l.Named := by
  cases form with
  | locator _ written _ _ => exact written.named

theorem named_of_mem_forms {lines : List (List Char)} {found : List (Option (Locator String))}
    {l : Locator String} (forms : List.Forall₂ LineForm lines found)
    (listed : some l ∈ found) : l.Named := by
  induction forms with
  | nil => cases listed
  | cons form _ ih =>
      rcases List.mem_cons.1 listed with rfl | later
      · exact form.named
      · exact ih later

theorem named_of_mem_parse {s : String} {ls : List (Locator String)} {l : Locator String}
    (accepted : parse s = .ok ls) (listed : l ∈ ls) : l.Named := by
  obtain ⟨found, forms, rfl⟩ := parseLines_eq_ok_iff.1 accepted
  exact named_of_mem_forms forms (List.reduceOption_mem_iff.1 listed)

theorem named_of_parseRegion {s : String} {r : Region String} {l : Locator String}
    (accepted : parseRegion s = .ok r) (member : l ∈ r.toList) : l.Named := by
  obtain ⟨ls, parsed, rfl⟩ := parseRegion_eq_ok_iff.1 accepted
  exact named_of_mem_parse parsed (Region.mem_of_mem_ofList member)

/-! ## Acceptance -/

/-- A listing is accepted if each of its lines is well formed, and then for the locators of
the lines that hold one, in order.  Otherwise the first line that is not well formed is
reported with its number, counted from one, and without the blanks around it. -/
theorem parse_iff_wellFormed_lines (s : String) :
    (∀ ls, Text.HasLines s.toList ls ↔ ls = Text.lines s.toList) ∧
      ((∃ r, parse s = .ok r) ↔ ∀ line ∈ Text.lines s.toList, WellFormed line) ∧
      (∀ r, parse s = .ok r ↔
        ∃ found, List.Forall₂ LineForm (Text.lines s.toList) found ∧
          r = found.reduceOption) ∧
      ∀ e, parse s = .error e ↔
        ∃ before line after, Text.lines s.toList = before ++ line :: after ∧
          (∀ earlier ∈ before, WellFormed earlier) ∧ ¬WellFormed line ∧
          e = ⟨before.length + 1, String.ofList (Text.trim line)⟩ := by
  refine ⟨fun ls => Text.hasLines_iff, exists_parseLines_eq_ok_iff,
    fun r => parseLines_eq_ok_iff, ?_⟩
  intro e
  simp only [Nat.add_comm _ 1]
  exact parseLines_eq_error_iff

example : parse "# comment\r\n\n  a/b \t# note\n/\na//b \n" = .error ⟨5, "a//b"⟩ := by
  cbv

end Hierarchy.Listing
