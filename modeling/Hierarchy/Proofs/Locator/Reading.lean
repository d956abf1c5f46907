import Hierarchy.Locator.Render
import Hierarchy.Proofs.Locator.Written

/-!
# Reading a locator back from its text

The text of a locator whose tokens are names is one of its written forms, the one without
a slash in front, so parsing finds the locator again.  Parsing yields no other locators,
and it loses nothing but the blanks around a written form and that slash: tokens that are
empty or hold a slash, a hash or a blank never come back (`parse_display_iff_named`).
-/

set_option autoImplicit false

namespace Hierarchy.Locator

/-- Every token can stand in a written form as it is. -/
def Named (l : Locator String) : Prop := ∀ t ∈ l.tokens, IsName t.toList

theorem named_root : Named root := fun _ listed => nomatch listed

theorem named_iff_of_names {names : List (List Char)} :
    Named ⟨names.map String.ofList⟩ ↔ ∀ n ∈ names, IsName n := by
  simp [Named]

/-! ## The text of a locator -/

theorem intercalate_slash (name : List Char) (more : List (List Char)) :
    List.intercalate ['/'] (name :: more) = name ++ slashed more := by
  induction more generalizing name with
  | nil => rw [List.intercalate_singleton, slashed_nil, List.append_nil]
  | cons next more ih =>
      rw [List.intercalate_cons_cons, ih, slashed_cons, List.append_assoc]
      rfl

theorem join_slash_names (name : List Char) (more : List (List Char)) :
    join ['/'] ⟨(name :: more).map String.ofList⟩ = name ++ slashed more := by
  have texts : ((name :: more).map String.ofList).map Token.text = name :: more := by
    simp [Token.text, Function.comp_def]
  rw [join, texts, intercalate_slash]

theorem Written.named {text : List Char} {l : Locator String} (written : Written text l) :
    Named l := by
  cases written with
  | slash => exact named_root
  | names nameValid moreValid =>
      exact named_iff_of_names.2 (List.forall_mem_cons.2 ⟨nameValid, moreValid⟩)
  | slashNames nameValid moreValid =>
      exact named_iff_of_names.2 (List.forall_mem_cons.2 ⟨nameValid, moreValid⟩)

theorem Written.join_eq_dropSlash {text : List Char} {l : Locator String}
    (written : Written text l) : l.join ['/'] = dropSlash text := by
  cases written with
  | slash => rfl
  | names nameValid moreValid =>
      rw [join_slash_names, dropSlash_append nameValid]
  | slashNames nameValid moreValid => rw [join_slash_names, dropSlash]

theorem Named.written_join {l : Locator String} (named : Named l) (below : l ≠ root) :
    Written (l.join ['/']) l := by
  obtain ⟨tokens⟩ := l
  cases tokens with
  | nil => exact absurd rfl below
  | cons t ts =>
      obtain ⟨first, others⟩ := List.forall_mem_cons.1 named
      have parts : t :: ts = (t.toList :: ts.map String.toList).map String.ofList := by
        simp [Function.comp_def]
      rw [parts, join_slash_names]
      exact .names first (List.forall_mem_map.2 others)

theorem isRoot_iff {l : Locator String} : l.isRoot = true ↔ l = root := by
  simp [isRoot, eq_iff_tokens_eq]

/-- A locator of names is written as its text, but for the root, which takes a slash. -/
theorem Named.written_join_or_slash {l : Locator String} (named : Named l) :
    Written (if l.isRoot then ['/'] else l.join ['/']) l := by
  by_cases top : l.isRoot = true
  · rw [if_pos top, isRoot_iff.1 top]
    exact .slash
  · rw [if_neg top]
    exact named.written_join (isRoot_iff.not.1 top)

/-! ## The parser against the grammar -/

theorem Written.not_blank {text : List Char} {l : Locator String} (written : Written text l) :
    ∀ c ∈ text, Text.isBlank c = false := by
  intro c inside
  rcases written.eq_slash_or_isNameChar c inside with rfl | inName
  · decide
  · exact (isNameChar_iff.1 inName).2.2

theorem Written.not_hash {text : List Char} {l : Locator String} (written : Written text l) :
    ∀ c ∈ text, c ≠ '#' := by
  intro c inside
  rcases written.eq_slash_or_isNameChar c inside with rfl | inName
  · decide
  · exact (isNameChar_iff.1 inName).2.1

theorem Written.ne_nil {text : List Char} {l : Locator String} (written : Written text l) :
    text ≠ [] := by
  obtain ⟨c, rest, starts, _⟩ := written.exists_cons
  exact starts ▸ List.cons_ne_nil c rest

theorem read?_eq_some_nil_iff {text : List Char} {l : Locator String} :
    read? text = some (l, []) ↔ Written text l := by
  constructor
  · intro success
    obtain ⟨front, written, whole⟩ := written_of_read? success
    rw [whole, List.append_nil]
    exact written
  · intro written
    have success := read?_append written closes_nil
    rwa [List.append_nil] at success

/-- A text is a locator if, without the blanks around it, it is a written form of that
locator or is empty. -/
theorem parseChars_eq_ok_iff {cs : List Char} {l : Locator String} :
    parseChars cs = .ok l ↔ (Text.trim cs = [] ∧ l = root) ∨ Written (Text.trim cs) l := by
  by_cases empty : Text.trim cs = []
  · have notWritten : ¬Written [] l := fun written => written.ne_nil rfl
    simp [parseChars, empty, notWritten, eq_comm]
  · rw [← read?_eq_some_nil_iff, parseChars]
    simp only [List.isEmpty_iff, empty, if_false, false_and, false_or]
    split
    case h_1 found reading => simp [reading]
    case h_2 other => simpa using other l

theorem parseChars_join {l : Locator String} (named : Named l) :
    parseChars (l.join ['/']) = .ok l := by
  rw [parseChars_eq_ok_iff]
  by_cases top : l = root
  · subst top
    exact Or.inl ⟨rfl, rfl⟩
  · have written := named.written_join top
    rw [Text.trim, Text.stripEnds_eq_self written.not_blank]
    exact Or.inr written

theorem named_of_parseChars {cs : List Char} {l : Locator String}
    (success : parseChars cs = .ok l) :
    Named l ∧ l.join ['/'] = dropSlash (Text.trim cs) := by
  rcases parseChars_eq_ok_iff.1 success with ⟨empty, rfl⟩ | written
  · exact ⟨named_root, by rw [empty]; rfl⟩
  · exact ⟨written.named, written.join_eq_dropSlash⟩

theorem toList_display (l : Locator String) : l.display.toList = l.join ['/'] := by
  rw [display, String.toList_ofList, shown_eq_join]

/-- A locator is read back from its text if all its tokens are names, and not otherwise.
Every text that is read as a locator is the text of that locator, apart from the blanks
around it and a slash in front. -/
theorem parse_display_iff_named :
    (∀ l : Locator String, parse l.display = .ok l ↔ Named l) ∧
      ∀ (s : String) (l : Locator String), parse s = .ok l →
        Named l ∧ l.display = String.ofList (dropSlash (Text.trim s.toList)) := by
  constructor
  · intro l
    rw [parse, toList_display]
    constructor
    · intro success
      exact (named_of_parseChars success).1
    · exact parseChars_join
  · intro s l success
    obtain ⟨named, text⟩ := named_of_parseChars success
    refine ⟨named, ?_⟩
    rw [← String.toList_inj, toList_display, String.toList_ofList]
    exact text

theorem parse_display_iff_named_of_slash :
    parse "\u3000/a/b\t" = .ok ⟨["a", "b"]⟩ ∧ Named ⟨["a", "b"]⟩ ∧
      display (⟨["a", "b"]⟩ : Locator String) = "a/b" ∧
      display (⟨["", "a"]⟩ : Locator String) = "/a" ∧ parse "/a" ≠ .ok ⟨["", "a"]⟩ := by
  have success : parse "\u3000/a/b\t" = .ok ⟨["a", "b"]⟩ := by decide +kernel
  obtain ⟨named, text⟩ := parse_display_iff_named.2 _ _ success
  have emptyToken : display (⟨["", "a"]⟩ : Locator String) = "/a" := by decide +kernel
  refine ⟨success, named, text, emptyToken, ?_⟩
  rw [← emptyToken, Ne, parse_display_iff_named.1]
  intro allNames
  exact (allNames "" List.mem_cons_self).1 rfl

end Hierarchy.Locator
