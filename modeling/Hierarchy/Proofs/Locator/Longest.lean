import Hierarchy.Proofs.Locator.Reading

/-!
# The longest written form

The reader decides by what comes next, the slash in front, the first name, each further
slash, and never goes back over a name.  All the same it finds the longest written form
at the front of a text: with whatever form the text starts, the reader leaves no more
than what follows that form (`exists_read?_append`).  Where there is no form to find, it
stops at the very start and misses a slash there (`read_eq_ok_or_missing`).
-/

set_option autoImplicit false

namespace Hierarchy.Locator

structure LongestForm (cs text : List Char) (l : Locator String) : Prop where
  written : Written text l
  front : text <+: cs
  longest : ∀ other m, Written other m → other <+: cs → other.length ≤ text.length

/-! ## What is left behind names -/

theorem nameAt_append_ne_nil {name : List Char} (valid : IsName name) (rest : List Char) :
    nameAt (name ++ rest) ≠ [] := by
  rw [nameAt, List.takeWhile_append_of_pos (isName_iff.1 valid).2]
  exact List.append_ne_nil_of_left_ne_nil valid.1 _

theorem afterName_append_eq {name : List Char} (valid : IsName name) (rest : List Char) :
    afterName (name ++ rest) = afterName rest :=
  List.dropWhile_append_of_pos (isName_iff.1 valid).2

theorem afterName_slash (cs : List Char) : afterName ('/' :: cs) = '/' :: cs :=
  List.dropWhile_cons_of_neg (by decide)

theorem length_moreNames_le (cs : List Char) : (moreNames cs).2.length ≤ cs.length := by
  have whole := congrArg List.length (slashed_moreNames_append cs)
  rw [List.length_append] at whole
  omega

/-- The names may end within a name of the text, and the reader goes on to its end. -/
theorem length_moreNames_slashed_append_le {names : List (List Char)}
    (valid : ∀ n ∈ names, IsName n) (rest : List Char) :
    (moreNames (afterName (slashed names ++ rest))).2.length ≤ rest.length := by
  induction names with
  | nil => exact (length_moreNames_le _).trans (length_afterName_le rest)
  | cons name names ih =>
      obtain ⟨nameValid, restValid⟩ := List.forall_mem_cons.1 valid
      have found : ¬(nameAt (name ++ (slashed names ++ rest))).isEmpty = true := by
        simpa using nameAt_append_ne_nil nameValid _
      rw [slashed_cons, List.cons_append, List.append_assoc, afterName_slash, moreNames,
        if_neg found, afterName_append_eq nameValid]
      exact ih restValid

/-! ## What the reader leaves -/

theorem exists_read?_of_dropSlash_eq {cs name rest : List Char} {more : List (List Char)}
    (body : dropSlash cs = name ++ (slashed more ++ rest)) (nameValid : IsName name)
    (moreValid : ∀ n ∈ more, IsName n) :
    ∃ l left, read? cs = some (l, left) ∧ left.length ≤ rest.length := by
  have found : nameAt (dropSlash cs) ≠ [] := by
    rw [body]
    exact nameAt_append_ne_nil nameValid _
  refine ⟨_, _, read?_of_name found, ?_⟩
  rw [body, afterName_append_eq nameValid]
  exact length_moreNames_slashed_append_le moreValid rest

theorem exists_read?_slash (rest : List Char) :
    ∃ l left, read? ('/' :: rest) = some (l, left) ∧ left.length ≤ rest.length := by
  by_cases stops : nameAt rest = []
  · exact ⟨root, rest, read?_slash stops, Nat.le_refl _⟩
  · have found : nameAt (dropSlash ('/' :: rest)) ≠ [] := stops
    have noNames : ∀ n ∈ ([] : List (List Char)), IsName n := List.forall_mem_nil _
    exact ⟨_, _, read?_of_name found, length_moreNames_slashed_append_le noNames rest⟩

/-- Behind a written form the reader leaves what follows the form, or less. -/
theorem exists_read?_append {text : List Char} {m : Locator String} (written : Written text m)
    (rest : List Char) :
    ∃ l left, read? (text ++ rest) = some (l, left) ∧ left.length ≤ rest.length := by
  cases written with
  | slash => exact exists_read?_slash rest
  | names nameValid moreValid =>
      apply exists_read?_of_dropSlash_eq _ nameValid moreValid
      rw [List.append_assoc, dropSlash_append nameValid]
  | slashNames nameValid moreValid =>
      apply exists_read?_of_dropSlash_eq _ nameValid moreValid
      rw [List.cons_append, dropSlash, List.append_assoc]

/-! ## The two outcomes -/

theorem read?_eq_some_iff {cs : List Char} {found : Locator String × List Char} :
    read? cs = some found ↔ read cs = .ok found := by
  rw [read?]
  cases read cs with
  | ok other => simp [Except.toOption]
  | error missing => simp [Except.toOption]

theorem read_eq_ok_or_missing (cs : List Char) :
    (∃ found, read cs = .ok found) ∨ read cs = .error ⟨.slash, cs⟩ := by
  by_cases noName : nameAt (dropSlash cs) = []
  · rcases not_slash_or_eq_cons cs with noSlash | ⟨rest, rfl⟩
    · exact Or.inr (read_eq_error noName noSlash)
    · exact Or.inl ⟨_, read?_eq_some_iff.1 (read?_slash noName)⟩
  · exact Or.inl ⟨_, read?_eq_some_iff.1 (read?_of_name noName)⟩

theorem Written.unique {text : List Char} {l m : Locator String} (lWritten : Written text l)
    (mWritten : Written text m) : l = m := by
  rw [← read?_eq_some_nil_iff] at lWritten mWritten
  rw [lWritten] at mWritten
  exact (Prod.mk.inj (Option.some.inj mWritten)).1

theorem longestForm_of_read? {cs rest : List Char} {l : Locator String}
    (success : read? cs = some (l, rest)) : ∃ text, LongestForm cs text l ∧ cs = text ++ rest := by
  obtain ⟨text, written, whole⟩ := written_of_read? success
  refine ⟨text, ⟨written, ⟨rest, whole.symm⟩, ?_⟩, whole⟩
  intro other m otherWritten front
  obtain ⟨behind, otherWhole⟩ := front
  obtain ⟨found, left, again, bound⟩ := exists_read?_append otherWritten behind
  rw [otherWhole, success] at again
  cases again
  have sizes := congrArg List.length (otherWhole.trans whole)
  simp only [List.length_append] at sizes
  omega

theorem LongestForm.read?_eq {rest text : List Char} {l : Locator String}
    (form : LongestForm (text ++ rest) text l) : read? (text ++ rest) = some (l, rest) := by
  obtain ⟨m, left, success, _⟩ := exists_read?_append form.written rest
  obtain ⟨found, foundForm, whole⟩ := longestForm_of_read? success
  -- each of the two forms is as long as the other one
  have shorter := form.longest found m foundForm.written foundForm.front
  have longer := foundForm.longest text l form.written form.front
  obtain ⟨same, sameRest⟩ := List.append_inj whole (Nat.le_antisymm longer shorter)
  subst same
  rw [success, sameRest, form.written.unique foundForm.written]

theorem exists_read_eq_ok_iff {cs : List Char} :
    (∃ found, read cs = .ok found) ↔ ∃ text l, Written text l ∧ text <+: cs := by
  constructor
  · intro success
    obtain ⟨⟨l, rest⟩, success⟩ := success
    obtain ⟨text, form, _⟩ := longestForm_of_read? (read?_eq_some_iff.2 success)
    exact ⟨text, l, form.written, form.front⟩
  · intro starts
    obtain ⟨text, l, written, rest, whole⟩ := starts
    obtain ⟨m, left, success, _⟩ := exists_read?_append written rest
    rw [whole] at success
    exact ⟨_, read?_eq_some_iff.1 success⟩

/-- A text with a written form at its front is read, and then the longest such form is
taken off it, for the locator that it is a form of.  Any other text is refused, and then
a slash is missing at its start. -/
theorem read_longest_form (cs : List Char) :
    ((∃ found, read cs = .ok found) ↔ ∃ text l, Written text l ∧ text <+: cs) ∧
      (∀ l rest, read cs = .ok (l, rest) ↔
        ∃ text, LongestForm cs text l ∧ cs = text ++ rest) ∧
      ∀ missing, read cs = .error missing ↔
        missing = ⟨.slash, cs⟩ ∧ ¬∃ text l, Written text l ∧ text <+: cs := by
  refine ⟨exists_read_eq_ok_iff, ?_, ?_⟩
  · intro l rest
    rw [← read?_eq_some_iff]
    constructor
    · exact longestForm_of_read?
    · intro split
      obtain ⟨text, form, rfl⟩ := split
      exact form.read?_eq
  · intro missing
    rw [← exists_read_eq_ok_iff]
    rcases read_eq_ok_or_missing cs with ⟨found, success⟩ | failure
    · simp [success]
    · simp [failure, eq_comm]

example : read "/a/b//c".toList = .ok (⟨["a", "b"]⟩, "//c".toList) := by decide +kernel

example : read "/#".toList = .ok (root, ['#']) := by decide +kernel

end Hierarchy.Locator
