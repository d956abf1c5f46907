import Hierarchy.Locator.Parse
import Mathlib.Data.List.TakeWhile

/-!
# The written forms of a locator

`Written` is the grammar of locators, given by its three forms.  The reader takes a written
form off the front of a text and nothing else (`written_of_read?`), and wherever what
follows a written form could not make it longer, the reader finds just this form
(`read?_append`).
-/

set_option autoImplicit false

namespace Hierarchy.Locator

def IsName (cs : List Char) : Prop :=
  cs ≠ [] ∧ ∀ c ∈ cs, c ≠ '/' ∧ c ≠ '#' ∧ Text.isBlank c = false

def slashed (names : List (List Char)) : List Char := names.flatMap ('/' :: ·)

inductive Written : List Char → Locator String → Prop where
  | slash : Written ['/'] root
  | names {name : List Char} {more : List (List Char)} :
      IsName name → (∀ n ∈ more, IsName n) →
        Written (name ++ slashed more) ⟨(name :: more).map String.ofList⟩
  | slashNames {name : List Char} {more : List (List Char)} :
      IsName name → (∀ n ∈ more, IsName n) →
        Written ('/' :: (name ++ slashed more)) ⟨(name :: more).map String.ofList⟩

/-- A written form that ends before `rest` does not go on there. -/
structure Closes (rest : List Char) : Prop where
  noName : nameAt rest = []
  noSlashedName : ∀ cs, rest = '/' :: cs → nameAt cs = []

@[simp] theorem slashed_nil : slashed [] = [] := rfl

@[simp] theorem slashed_cons (name : List Char) (names : List (List Char)) :
    slashed (name :: names) = '/' :: (name ++ slashed names) := rfl

/-! ## Single names -/

theorem isNameChar_iff {c : Char} :
    isNameChar c = true ↔ c ≠ '/' ∧ c ≠ '#' ∧ Text.isBlank c = false := by
  simp [isNameChar, and_assoc]

theorem isName_iff {cs : List Char} :
    IsName cs ↔ cs ≠ [] ∧ ∀ c ∈ cs, isNameChar c = true := by
  simp only [IsName, isNameChar_iff]

theorem nameAt_append {name rest : List Char} (valid : IsName name) (stops : nameAt rest = []) :
    nameAt (name ++ rest) = name := by
  rw [nameAt, List.takeWhile_append_of_pos (isName_iff.1 valid).2, ← nameAt, stops,
    List.append_nil]

theorem afterName_append {name rest : List Char} (valid : IsName name)
    (stops : nameAt rest = []) : afterName (name ++ rest) = rest := by
  have whole := nameAt_append_afterName (name ++ rest)
  rw [nameAt_append valid stops] at whole
  exact List.append_cancel_left whole

theorem isName_nameAt {cs : List Char} (found : nameAt cs ≠ []) : IsName (nameAt cs) := by
  refine isName_iff.2 ⟨found, ?_⟩
  intro c inside
  exact List.mem_takeWhile_imp inside

theorem nameAt_slash (cs : List Char) : nameAt ('/' :: cs) = [] := by
  simp [nameAt, isNameChar]

theorem dropSlash_of_not_slash {cs : List Char} (noSlash : ∀ rest, cs ≠ '/' :: rest) :
    dropSlash cs = cs :=
  dropSlash.eq_2 cs noSlash

theorem not_slash_or_eq_cons (cs : List Char) :
    (∀ rest, cs ≠ '/' :: rest) ∨ ∃ rest, cs = '/' :: rest := by
  by_cases slash : ∃ rest, cs = '/' :: rest
  · exact Or.inr slash
  · exact Or.inl fun rest starts => slash ⟨rest, starts⟩

theorem dropSlash_append {name : List Char} (valid : IsName name) (rest : List Char) :
    dropSlash (name ++ rest) = name ++ rest := by
  cases name with
  | nil => exact absurd rfl valid.1
  | cons c name =>
      have noSlash := (valid.2 c List.mem_cons_self).1
      exact dropSlash_of_not_slash fun more starts => noSlash (List.cons.inj starts).1

/-! ## Names with slashes between them -/

theorem closes_nil : Closes [] :=
  ⟨rfl, fun _ starts => nomatch starts⟩

theorem closes_cons {c : Char} (noName : isNameChar c = false) (noSlash : c ≠ '/')
    (rest : List Char) : Closes (c :: rest) where
  noName := List.takeWhile_cons_of_neg (by simp [noName])
  noSlashedName := fun _ starts => absurd (List.cons.inj starts).1 noSlash

theorem nameAt_slashed_append (names : List (List Char)) {rest : List Char}
    (stops : nameAt rest = []) : nameAt (slashed names ++ rest) = [] := by
  cases names with
  | nil => exact stops
  | cons name names => exact nameAt_slash _

theorem moreNames_of_closes {rest : List Char} (closes : Closes rest) :
    moreNames rest = ([], rest) := by
  fun_cases moreNames rest with
  | case1 cs empty => rfl
  | case2 cs found => exact absurd (closes.noSlashedName cs rfl) (by simpa using found)
  | case3 noSlash => rfl

theorem moreNames_slashed_append {names : List (List Char)} {rest : List Char}
    (valid : ∀ n ∈ names, IsName n) (closes : Closes rest) :
    moreNames (slashed names ++ rest) = (names, rest) := by
  induction names with
  | nil => exact moreNames_of_closes closes
  | cons name names ih =>
      obtain ⟨nameValid, restValid⟩ := List.forall_mem_cons.1 valid
      -- a name ends at the slash of the next one, and the last name ends before `rest`
      have stops := nameAt_slashed_append names closes.noName
      have nonempty : name.isEmpty = false := by simpa using nameValid.1
      rw [slashed_cons, List.cons_append, List.append_assoc, moreNames,
        nameAt_append nameValid stops, afterName_append nameValid stops, ih restValid, nonempty]
      rfl

theorem slashed_moreNames_append (cs : List Char) :
    slashed (moreNames cs).1 ++ (moreNames cs).2 = cs := by
  fun_induction moreNames cs with
  | case1 rest empty => rfl
  | case2 rest found further ih =>
      rw [slashed_cons, List.cons_append, List.append_assoc, ih, nameAt_append_afterName]
  | case3 cs noSlash => rfl

theorem isName_of_mem_moreNames {cs n : List Char} (listed : n ∈ (moreNames cs).1) :
    IsName n := by
  fun_induction moreNames cs with
  | case1 rest empty => exact absurd listed List.not_mem_nil
  | case2 rest found further ih =>
      rcases List.mem_cons.1 listed with rfl | later
      · exact isName_nameAt (by simpa using found)
      · exact ih later
  | case3 cs noSlash => exact absurd listed List.not_mem_nil

/-! ## The reader against the grammar -/

theorem read?_of_name {cs : List Char} (found : nameAt (dropSlash cs) ≠ []) :
    read? cs = some
      (⟨(nameAt (dropSlash cs) :: (moreNames (afterName (dropSlash cs))).1).map String.ofList⟩,
        (moreNames (afterName (dropSlash cs))).2) := by
  rw [read?, read, readNames, if_neg (by simpa using found)]
  rfl

theorem read_of_noName {cs : List Char} (noName : nameAt (dropSlash cs) = []) :
    read cs = readSlash cs := by
  rw [read, readNames, if_pos (by simpa using noName)]

theorem read?_slash {rest : List Char} (stops : nameAt rest = []) :
    read? ('/' :: rest) = some (root, rest) := by
  rw [read?, @read_of_noName ('/' :: rest) stops]
  rfl

theorem read_eq_error {cs : List Char} (noName : nameAt (dropSlash cs) = [])
    (noSlash : ∀ rest, cs ≠ '/' :: rest) : read cs = .error ⟨.slash, cs⟩ := by
  rw [read_of_noName noName, readSlash.eq_2 cs noSlash]

theorem read?_eq_none {cs : List Char} (noName : nameAt (dropSlash cs) = [])
    (noSlash : ∀ rest, cs ≠ '/' :: rest) : read? cs = none := by
  rw [read?, read_eq_error noName noSlash]
  rfl

theorem read?_of_dropSlash_eq {cs name rest : List Char} {more : List (List Char)}
    (body : dropSlash cs = name ++ slashed more ++ rest) (nameValid : IsName name)
    (moreValid : ∀ n ∈ more, IsName n) (closes : Closes rest) :
    read? cs = some (⟨(name :: more).map String.ofList⟩, rest) := by
  have stops := nameAt_slashed_append more closes.noName
  rw [List.append_assoc] at body
  have first : nameAt (dropSlash cs) = name := by rw [body, nameAt_append nameValid stops]
  have others : moreNames (afterName (dropSlash cs)) = (more, rest) := by
    rw [body, afterName_append nameValid stops, moreNames_slashed_append moreValid closes]
  rw [read?_of_name (first ▸ nameValid.1), first, others]

theorem read?_append {text rest : List Char} {l : Locator String} (written : Written text l)
    (closes : Closes rest) : read? (text ++ rest) = some (l, rest) := by
  cases written with
  | slash =>
      exact read?_slash closes.noName
  | names nameValid moreValid =>
      refine read?_of_dropSlash_eq ?_ nameValid moreValid closes
      rw [List.append_assoc, dropSlash_append nameValid]
  | slashNames nameValid moreValid =>
      exact read?_of_dropSlash_eq rfl nameValid moreValid closes

theorem written_of_read? {cs rest : List Char} {l : Locator String}
    (success : read? cs = some (l, rest)) : ∃ text, Written text l ∧ cs = text ++ rest := by
  by_cases found : nameAt (dropSlash cs) = []
  · rcases not_slash_or_eq_cons cs with noSlash | ⟨inner, rfl⟩
    · rw [read?_eq_none found noSlash] at success
      contradiction
    · have stops : nameAt inner = [] := found
      rw [read?_slash stops] at success
      cases success
      exact ⟨['/'], .slash, rfl⟩
  · rw [read?_of_name found] at success
    cases success
    have nameValid : IsName (nameAt (dropSlash cs)) := isName_nameAt found
    have moreValid : ∀ n ∈ (moreNames (afterName (dropSlash cs))).1, IsName n :=
      fun n => isName_of_mem_moreNames
    have body : nameAt (dropSlash cs) ++ slashed (moreNames (afterName (dropSlash cs))).1 ++
        (moreNames (afterName (dropSlash cs))).2 = dropSlash cs := by
      rw [List.append_assoc, slashed_moreNames_append, nameAt_append_afterName]
    rcases not_slash_or_eq_cons cs with noSlash | ⟨inner, rfl⟩
    · refine ⟨_, .names nameValid moreValid, ?_⟩
      rw [body, dropSlash_of_not_slash noSlash]
    · refine ⟨_, .slashNames nameValid moreValid, ?_⟩
      rw [List.cons_append, body, dropSlash]

theorem eq_slash_or_isNameChar_of_mem_slashed {names : List (List Char)}
    (valid : ∀ n ∈ names, IsName n) {c : Char} (inside : c ∈ slashed names) :
    c = '/' ∨ isNameChar c = true := by
  obtain ⟨n, listed, found⟩ := List.mem_flatMap.1 inside
  rcases List.mem_cons.1 found with slash | inName
  · exact Or.inl slash
  · exact Or.inr ((isName_iff.1 (valid n listed)).2 c inName)

/-- A written form consists of slashes and of characters that names are made of. -/
theorem Written.eq_slash_or_isNameChar {text : List Char} {l : Locator String}
    (written : Written text l) : ∀ c ∈ text, c = '/' ∨ isNameChar c = true := by
  have body {name : List Char} {more : List (List Char)} (nameValid : IsName name)
      (moreValid : ∀ n ∈ more, IsName n) :
      ∀ c ∈ name ++ slashed more, c = '/' ∨ isNameChar c = true := by
    intro c inside
    rcases List.mem_append.1 inside with first | later
    · exact Or.inr ((isName_iff.1 nameValid).2 c first)
    · exact eq_slash_or_isNameChar_of_mem_slashed moreValid later
  cases written with
  | slash => exact List.forall_mem_singleton.2 (Or.inl rfl)
  | names nameValid moreValid => exact body nameValid moreValid
  | slashNames nameValid moreValid =>
      exact List.forall_mem_cons.2 ⟨Or.inl rfl, body nameValid moreValid⟩

theorem Written.exists_cons {text : List Char} {l : Locator String} (written : Written text l) :
    ∃ c rest, text = c :: rest ∧ (c = '/' ∨ isNameChar c = true) := by
  cases written with
  | slash => exact ⟨'/', [], rfl, Or.inl rfl⟩
  | slashNames nameValid moreValid => exact ⟨'/', _, rfl, Or.inl rfl⟩
  | @names name more nameValid moreValid =>
      cases name with
      | nil => exact absurd rfl nameValid.1
      | cons c name =>
          exact ⟨c, _, rfl, Or.inr ((isName_iff.1 nameValid).2 c List.mem_cons_self)⟩

end Hierarchy.Locator
