import Hierarchy.Proofs.Dump.Arguments

/-!
# Requests for help

A request for help is answered on the spot, so whatever follows it does not matter and
whatever goes before it does: that must be read with success, the last value included, and
options must not be over.  No other arguments are answered with help (`read_eq_help_iff`),
for no request ever waits to be settled.
-/

set_option autoImplicit false

namespace Hierarchy.Dump

namespace Arguments

/-- The long name stands alone; nothing that follows the letter is looked at. -/
def AsksHelp (argument : String) : Prop :=
  argument = "--help" ∨ ∃ rest, argument.toList = '-' :: 'h' :: rest

/-- Help is asked for behind arguments that spell settings which fit together. -/
def HelpWanted (arguments : List String) : Prop :=
  ∃ front argument back, arguments = front ++ argument :: back ∧ AsksHelp argument ∧
    "--" ∉ front ∧ ∃ given o, Spells front given ∧ (valuesOf .path given).length ≤ 1 ∧
      Extends .none given o

/-! ## What waits is never a request -/

def Pending.Unhelped : Pending → Prop
  | .nothing => True
  | .wanted slot => slot ≠ .help
  | .given slot _ => slot ≠ .help

theorem ne_help_of_takesValue {slot : Slot} (takes : slot.takesValue = true) : slot ≠ .help := by
  rintro rfl
  contradiction

section Steps

variable {p next : Progress} {argument : String}

theorem Step.unhelped (step : Step p argument next) (unhelped : p.pending.Unhelped) :
    next.pending.Unhelped := by
  cases step with
  | path => exact nofun
  | single => trivial
  | name _ takes => exact ne_help_of_takesValue takes
  | value _ wanted =>
      rw [wanted] at unhelped
      exact unhelped
  | dashes => exact unhelped

theorem Step.onlyPaths (step : Step p argument next) (option : argument ≠ "--") :
    next.onlyPaths = p.onlyPaths := by
  cases step with
  | dashes => exact absurd rfl option
  | _ => rfl

theorem bind_eq_help_iff {α β : Type} {x : Except Stop α} {f : α → Except Stop β} :
    (x >>= f) = .error .help ↔ x = .error .help ∨ ∃ a, x = .ok a ∧ f a = .error .help := by
  cases x with
  | error stop => simp [bind, Except.bind]
  | ok a => simp [bind, Except.bind]

theorem assign_eq_help_iff {o : Options} {slot : Slot} {value : String} :
    assign o slot value = .error .help ↔ slot = .help := by
  cases slot with
  | overlaps =>
      cases parsed : Locator.parse value with
      | ok l => simp [assign_overlaps parsed]
      | error cause => simp [assign_of_parse_eq_error o (Or.inl rfl) parsed]
  | covers =>
      cases parsed : Locator.parse value with
      | ok l => simp [assign_covers parsed]
      | error cause => simp [assign_of_parse_eq_error o (Or.inr rfl) parsed]
  | help => simp [assign]
  | _ =>
      rw [assign]
      split <;> simp

theorem settle_eq_help_iff :
    settle p = .error .help ↔ ∃ value, p.pending = .given .help value := by
  obtain ⟨o, pending, hasPath, onlyPaths⟩ := p
  cases pending with
  | nothing => simp [settle]
  | wanted slot => simp [settle]
  | given slot value =>
      simp [settle, bind_eq_help_iff, assign_eq_help_iff, pure, Except.pure]

theorem settle_ne_help (unhelped : p.pending.Unhelped) : settle p ≠ .error .help := by
  rw [Ne, settle_eq_help_iff]
  rintro ⟨value, waits⟩
  rw [waits] at unhelped
  exact unhelped rfl

theorem follow_ne_help (unhelped : p.pending.Unhelped) (pending : Pending) :
    follow p pending ≠ .error .help := by
  simp [follow, bind_eq_help_iff, settle_ne_help unhelped, pure, Except.pure]

theorem settle_follow_eq_help_iff (unhelped : p.pending.Unhelped) {slot : Slot} {value : String} :
    (follow p (.given slot value) >>= settle) = .error .help ↔
      slot = .help ∧ ∃ settled, settle p = .ok settled := by
  rw [bind_eq_help_iff, or_iff_right (follow_ne_help unhelped _)]
  simp only [follow, bind_eq_ok_iff, settle_eq_help_iff]
  constructor
  · rintro ⟨_, ⟨settled, done, same⟩, other, waits⟩
    cases same
    cases waits
    exact ⟨rfl, settled, done⟩
  · rintro ⟨rfl, settled, done⟩
    exact ⟨_, ⟨settled, done, rfl⟩, value, rfl⟩

theorem takeValue_ne_help (unhelped : p.pending.Unhelped) :
    takeValue p argument ≠ .error .help := by
  rw [takeValue]
  split
  · simp
  · split
    · simp
    · simp [bind_eq_help_iff, follow_ne_help unhelped, pure, Except.pure]

theorem takeOption_eq_help_iff (unhelped : p.pending.Unhelped) {slot : Slot}
    {value? : Option String} :
    takeOption p slot value? = .error .help ↔
      slot = .help ∧ value? = none ∧ ∃ settled, settle p = .ok settled := by
  cases takes : slot.takesValue with
  | true =>
      have other := ne_help_of_takesValue takes
      cases value? with
      | some value =>
          rw [takeOption, if_pos takes]
          simp [settle_follow_eq_help_iff unhelped, other]
      | none => simp [takeOption, takes, follow_ne_help unhelped, other]
  | false =>
      cases value? with
      | some value => simp [takeOption, takes]
      | none =>
          have opened : takeOption p slot none = follow p (.given slot "") >>= settle := by
            simp [takeOption, takes]
          rw [opened, settle_follow_eq_help_iff unhelped]
          simp

theorem eq_help_of_ofName? {name : String} (known : Slot.ofName? name = some .help) :
    name = "help" := by
  unfold Slot.ofName? at known
  split at known <;> first | rfl | contradiction

theorem eq_h_of_ofLetter? {letter : Char} (known : Slot.ofLetter? letter = some .help) :
    letter = 'h' := by
  unfold Slot.ofLetter? at known
  split at known <;> first | rfl | contradiction

theorem asksHelp_of_takeLong (unhelped : p.pending.Unhelped) {body : List Char}
    (starts : argument.toList = '-' :: '-' :: body) (asked : takeLong p body = .error .help) :
    AsksHelp argument ∧ ∃ settled, settle p = .ok settled := by
  rcases splitAtEquals_cases body with alone | ⟨name, value, rfl, split⟩
  · cases known : Slot.ofName? (String.ofList body) with
    | none => simp [takeLong, alone, known] at asked
    | some slot =>
        simp only [takeLong, alone, known, takeOption_eq_help_iff unhelped] at asked
        obtain ⟨rfl, _, settled⟩ := asked
        refine ⟨Or.inl ?_, settled⟩
        have named := congrArg String.toList (eq_help_of_ofName? known)
        rw [String.toList_ofList] at named
        rw [← String.toList_inj, starts, named]
        rfl
  · cases known : Slot.ofName? (String.ofList name) with
    | none => simp [takeLong, split, known] at asked
    | some slot => simp [takeLong, split, known, takeOption_eq_help_iff unhelped] at asked

theorem takeShort_eq_help_iff (unhelped : p.pending.Unhelped) {letter : Char}
    {rest : List Char} :
    takeShort p letter rest = .error .help ↔
      letter = 'h' ∧ ∃ settled, settle p = .ok settled := by
  cases known : Slot.ofLetter? letter with
  | none =>
      have other : letter ≠ 'h' := by
        rintro rfl
        contradiction
      simp [takeShort, known, other]
  | some slot =>
      cases takes : slot.takesValue with
      | true =>
          have other := ne_help_of_takesValue takes
          have otherLetter : letter ≠ 'h' := by
            rintro rfl
            cases known
            contradiction
          simp only [takeShort, known, takes, if_true, otherLetter, false_and, iff_false]
          split <;> simp [takeOption_eq_help_iff unhelped, other]
      | false =>
          cases eq_help_of_ofLetter? known takes
          have opened : takeShort p letter rest = takeOption p .help none := by
            simp [takeShort, known, takes]
          rw [opened, takeOption_eq_help_iff unhelped]
          simp [eq_h_of_ofLetter? known]

/-- Help is asked for by two kinds of argument, and given once what waits can be settled. -/
theorem take_eq_help_iff (options : p.onlyPaths = false) (unhelped : p.pending.Unhelped) :
    take p argument = .error .help ↔
      AsksHelp argument ∧ ∃ settled, settle p = .ok settled := by
  constructor
  · intro asked
    rw [take, options] at asked
    split at asked
    case isTrue ended => contradiction
    case isFalse =>
      split at asked
      case h_1 => cases asked
      case h_2 body _ starts => exact asksHelp_of_takeLong unhelped starts asked
      case h_3 letter rest _ _ starts =>
        obtain ⟨rfl, settled⟩ := (takeShort_eq_help_iff unhelped).1 asked
        exact ⟨Or.inr ⟨rest, starts⟩, settled⟩
      case h_4 => exact absurd asked (takeValue_ne_help unhelped)
  · rintro ⟨rfl | ⟨rest, starts⟩, settled⟩
    · have names : Names "--help".toList .help none := @Names.long "help".toList .help rfl
      rw [take_of_names options names]
      exact (takeOption_eq_help_iff unhelped).2 ⟨rfl, rfl, settled⟩
    · rw [take_short options (by decide) starts]
      exact (takeShort_eq_help_iff unhelped).2 ⟨rfl, settled⟩

theorem finish_cons_eq_help_iff {rest : List String} :
    finish p (argument :: rest) = .error .help ↔
      take p argument = .error .help ∨
        ∃ next, take p argument = .ok next ∧ finish next rest = .error .help := by
  simp only [finish, List.foldlM_cons, bind_assoc]
  exact bind_eq_help_iff

theorem exists_finish_nil_iff :
    (∃ o, finish p [] = .ok o) ↔ ∃ settled, settle p = .ok settled := by
  have opened : finish p [] = settle p >>= fun settled => .ok settled.options := rfl
  simp only [opened, bind_eq_ok_iff]
  constructor
  · rintro ⟨_, settled, done, _⟩
    exact ⟨settled, done⟩
  · rintro ⟨settled, done⟩
    exact ⟨_, settled, done, rfl⟩

end Steps

theorem finish_nil_ne_help {p : Progress} (unhelped : p.pending.Unhelped) :
    finish p [] ≠ .error .help := by
  have opened : finish p [] = settle p >>= fun settled => .ok settled.options := rfl
  simp [opened, bind_eq_help_iff, settle_ne_help unhelped]

/-- After the two dashes everything is a path. -/
theorem finish_onlyPaths_ne_help {paths : List String} {p : Progress} (ended : p.onlyPaths = true)
    (unhelped : p.pending.Unhelped) : finish p paths ≠ .error .help := by
  induction paths generalizing p with
  | nil => exact finish_nil_ne_help unhelped
  | cons path rest ih =>
      rw [Ne, finish_cons_eq_help_iff, take_of_onlyPaths ended]
      rintro (asked | ⟨next, taken, asked⟩)
      · exact takeValue_ne_help unhelped asked
      · obtain ⟨_, _, _, _, _, rfl⟩ := (takeValue_path_eq_ok_iff (Or.inl ended)).1 taken
        have noRequest : Slot.path ≠ .help := by decide
        exact ih (p := { p with options := _, pending := .given .path path, hasPath := true })
          ended noRequest asked

/-! ## Whole command lines -/

theorem finish_eq_help_iff {arguments : List String} {p : Progress} (options : p.onlyPaths = false)
    (unhelped : p.pending.Unhelped) :
    finish p arguments = .error .help ↔
      ∃ front argument back, arguments = front ++ argument :: back ∧ AsksHelp argument ∧
        "--" ∉ front ∧ ∃ o, finish p front = .ok o := by
  induction arguments generalizing p with
  | nil => simp [finish_nil_ne_help unhelped]
  | cons first rest ih =>
      rw [finish_cons_eq_help_iff, take_eq_help_iff options unhelped]
      constructor
      · rintro (⟨asks, settled, done⟩ | ⟨next, taken, asked⟩)
        · exact ⟨[], first, rest, rfl, asks, List.not_mem_nil, exists_finish_nil_iff.2 ⟨_, done⟩⟩
        · have step := step_of_take options taken
          by_cases dashes : first = "--"
          · subst dashes
            cases (take_dashes options).symm.trans taken
            exact absurd asked (finish_onlyPaths_ne_help rfl unhelped)
          · obtain ⟨front, argument, back, rfl, asks, noDashes, o, success⟩ :=
              (ih ((step.onlyPaths dashes).trans options) (step.unhelped unhelped)).1 asked
            refine ⟨first :: front, argument, back, rfl, asks, ?_, o,
              finish_cons_eq_ok_iff.2 ⟨next, taken, success⟩⟩
            rw [List.mem_cons, not_or]
            exact ⟨Ne.symm dashes, noDashes⟩
      · rintro ⟨front, argument, back, parts, asks, noDashes, o, success⟩
        cases front with
        | nil =>
            cases parts
            exact Or.inl ⟨asks, exists_finish_nil_iff.1 ⟨o, success⟩⟩
        | cons head front =>
            cases parts
            rw [List.mem_cons, not_or] at noDashes
            obtain ⟨dashes, noDashes⟩ := noDashes
            obtain ⟨next, taken, success⟩ := finish_cons_eq_ok_iff.1 success
            have step := step_of_take options taken
            refine Or.inr ⟨next, taken, (ih ((step.onlyPaths (Ne.symm dashes)).trans options)
              (step.unhelped unhelped)).2 ?_⟩
            exact ⟨front, argument, back, rfl, asks, noDashes, o, success⟩

theorem read_eq_help_iff {arguments : List String} :
    read arguments = .error .help ↔ HelpWanted arguments := by
  have opened (arguments : List String) : read arguments = finish .start arguments := rfl
  have nothing : Progress.start.pending.Unhelped := trivial
  rw [opened, finish_eq_help_iff rfl nothing, HelpWanted]
  simp only [← opened, read_eq_ok_iff, @exists_comm Options]

end Arguments

end Hierarchy.Dump
