import Hierarchy.Proofs.Dump.Settings
import Mathlib.Data.List.TakeWhile

/-!
# Single arguments of the dump command

An argument is a value or names an option, in one of five forms, and anything else but `--`
is refused.  `Step` says what one argument does to the state of the reading: the state is
no more than the options so far and the settings that wait, so there is one case for each
kind of argument (`step_of_take`, `take_of_step`).
-/

set_option autoImplicit false

namespace Hierarchy.Dump

namespace Arguments

/-! ## The grammar -/

/-- The argument is no option: it does not start with a dash, or is nothing else. -/
def IsValue (argument : String) : Prop := argument = "-" ∨ argument.toList.head? ≠ some '-'

/-- The argument names an option, and perhaps carries its value.  What follows a letter is
the value unless the option takes none. -/
inductive Names : List Char → Slot → Option (List Char) → Prop where
  | long {name : List Char} {slot : Slot} :
      Slot.ofName? (String.ofList name) = some slot → Names ('-' :: '-' :: name) slot none
  | longWith {name value : List Char} {slot : Slot} :
      Slot.ofName? (String.ofList name) = some slot →
        Names ('-' :: '-' :: (name ++ '=' :: value)) slot (some value)
  | short {letter : Char} {slot : Slot} :
      Slot.ofLetter? letter = some slot → Names ['-', letter] slot none
  | shortWith {letter : Char} {value : List Char} {slot : Slot} :
      Slot.ofLetter? letter = some slot → slot.takesValue = true → value ≠ [] →
        value.head? ≠ some '=' → Names ('-' :: letter :: value) slot (some value)
  | shortEquals {letter : Char} {value : List Char} {slot : Slot} :
      Slot.ofLetter? letter = some slot → slot.takesValue = true →
        Names ('-' :: letter :: '=' :: value) slot (some value)

inductive Gives (argument : String) : Setting → Prop where
  | flag : Names argument.toList .json none → Gives argument (.json, "")
  | attached {value : List Char} {slot : Slot} :
      Names argument.toList slot (some value) → slot.takesValue = true →
        Gives argument (slot, String.ofList value)

/-! ## Single arguments -/

theorem of_ofName?_eq_some {name : List Char} {slot : Slot}
    (known : Slot.ofName? (String.ofList name) = some slot) : name ≠ [] ∧ '=' ∉ name := by
  generalize text : String.ofList name = s at known
  have letters : name = s.toList := by rw [← text, String.toList_ofList]
  rw [letters]
  unfold Slot.ofName? at known
  split at known <;> first | decide | contradiction

theorem ne_dash_of_ofLetter? {letter : Char} {slot : Slot}
    (known : Slot.ofLetter? letter = some slot) : letter ≠ '-' := by
  rintro rfl
  contradiction

/-- No letter stands for a flag but the one for help. -/
theorem eq_help_of_ofLetter? {letter : Char} {slot : Slot}
    (known : Slot.ofLetter? letter = some slot) (noValue : slot.takesValue = false) :
    slot = .help := by
  unfold Slot.ofLetter? at known
  split at known <;> cases known <;> first | rfl | contradiction

theorem Names.ne_path {cs : List Char} {slot : Slot} {value? : Option (List Char)}
    (names : Names cs slot value?) : slot ≠ .path := by
  rintro rfl
  have noName (s : String) : Slot.ofName? s ≠ some .path := by
    unfold Slot.ofName?
    split <;> decide
  have noLetter (c : Char) : Slot.ofLetter? c ≠ some .path := by
    unfold Slot.ofLetter?
    split <;> decide
  cases names with
  | long known => exact noName _ known
  | longWith known => exact noName _ known
  | short known => exact noLetter _ known
  | shortWith known => exact noLetter _ known
  | shortEquals known => exact noLetter _ known

theorem Gives.ne_path {argument : String} {setting : Setting} (gives : Gives argument setting) :
    setting.1 ≠ .path := by
  cases gives with
  | flag names => exact names.ne_path
  | attached names _ => exact names.ne_path

theorem splitAtEquals_of_not_mem {name : List Char} (noEquals : '=' ∉ name) :
    splitAtEquals name = (name, none) := by
  have none : name.dropWhile (· ≠ '=') = [] := by
    refine List.dropWhile_eq_nil_iff.2 ?_
    intro c inside
    simpa using ne_of_mem_of_not_mem inside noEquals
  rw [splitAtEquals, none]

theorem splitAtEquals_append {name : List Char} (noEquals : '=' ∉ name) (value : List Char) :
    splitAtEquals (name ++ '=' :: value) = (name, some value) := by
  have others : ∀ c ∈ name, decide (c ≠ '=') = true := by
    intro c inside
    simpa using ne_of_mem_of_not_mem inside noEquals
  rw [splitAtEquals, List.dropWhile_append_of_pos others, List.takeWhile_append_of_pos others]
  simp

theorem splitAtEquals_cases (body : List Char) :
    splitAtEquals body = (body, none) ∨
      ∃ name value, body = name ++ '=' :: value ∧ splitAtEquals body = (name, some value) := by
  by_cases found : '=' ∈ body
  · obtain ⟨name, value, rfl, noEquals⟩ := List.eq_append_cons_of_mem found
    exact Or.inr ⟨name, value, rfl, splitAtEquals_append noEquals value⟩
  · exact Or.inl (splitAtEquals_of_not_mem found)

section Take

variable {p next : Progress} {argument : String}

theorem take_of_onlyPaths (ended : p.onlyPaths = true) :
    take p argument = takeValue p argument := by
  rw [take, if_pos ended]

theorem take_of_isValue (value : IsValue argument) : take p argument = takeValue p argument := by
  cases ended : p.onlyPaths with
  | true => exact take_of_onlyPaths ended
  | false =>
      rcases value with rfl | noDash
      · rw [take, ended]
        rfl
      · rw [take, ended]
        split
        · contradiction
        · split <;> simp_all

theorem take_dashes (options : p.onlyPaths = false) :
    take p "--" = .ok { p with onlyPaths := true } := by
  rw [take, options]
  rfl

theorem take_long (options : p.onlyPaths = false) {body : List Char} (nonempty : body ≠ [])
    (starts : argument.toList = '-' :: '-' :: body) : take p argument = takeLong p body := by
  cases body with
  | nil => contradiction
  | cons c rest =>
      rw [take, options, starts]
      rfl

theorem take_short (options : p.onlyPaths = false) {letter : Char} {rest : List Char}
    (noDash : letter ≠ '-') (starts : argument.toList = '-' :: letter :: rest) :
    take p argument = takeShort p letter rest := by
  rw [take, options, starts]
  split
  · contradiction
  · split <;> simp_all

theorem take_of_names (options : p.onlyPaths = false) {slot : Slot} {value? : Option (List Char)}
    (names : Names argument.toList slot value?) :
    take p argument = takeOption p slot (value?.map String.ofList) := by
  generalize starts : argument.toList = cs at names
  cases names with
  | long known =>
      obtain ⟨nonempty, noEquals⟩ := of_ofName?_eq_some known
      rw [take_long options nonempty starts, takeLong, splitAtEquals_of_not_mem noEquals]
      simp only [known]
  | @longWith name value slot known =>
      have noEquals := (of_ofName?_eq_some known).2
      have nonempty : name ++ '=' :: value ≠ [] := by simp
      rw [take_long options nonempty starts, takeLong, splitAtEquals_append noEquals]
      simp only [known]
  | short known =>
      rw [take_short options (ne_dash_of_ofLetter? known) starts, takeShort]
      simp [known]
  | shortWith known takes nonempty noEquals =>
      rw [take_short options (ne_dash_of_ofLetter? known) starts, takeShort]
      simp only [known, takes, if_true]
      split
      · contradiction
      · simp at noEquals
      · rfl
  | shortEquals known takes =>
      rw [take_short options (ne_dash_of_ofLetter? known) starts, takeShort]
      simp [known, takes]

theorem names_of_takeLong {body : List Char} (success : takeLong p body = .ok next) :
    ∃ slot value?, Names ('-' :: '-' :: body) slot value? := by
  rcases splitAtEquals_cases body with alone | ⟨name, value, rfl, split⟩
  · cases known : Slot.ofName? (String.ofList body) with
    | none => simp [takeLong, alone, known] at success
    | some slot => exact ⟨slot, none, .long known⟩
  · cases known : Slot.ofName? (String.ofList name) with
    | none => simp [takeLong, split, known] at success
    | some slot => exact ⟨slot, some value, .longWith known⟩

theorem takeOption_help {value? : Option String} : takeOption p .help value? ≠ .ok next := by
  intro success
  cases value? with
  | some value => cases success
  | none =>
      obtain ⟨waiting, o, _, set, _⟩ := settle_follow_eq_ok_iff.1 success
      obtain ⟨mid, _, asked⟩ := assignAll_append.1 set
      cases assignAll_singleton.1 asked

theorem names_of_takeShort {letter : Char} {rest : List Char}
    (success : takeShort p letter rest = .ok next) :
    ∃ slot value?, Names ('-' :: letter :: rest) slot value? := by
  cases known : Slot.ofLetter? letter with
  | none => simp [takeShort, known] at success
  | some slot =>
      cases takes : slot.takesValue with
      | false =>
          cases eq_help_of_ofLetter? known takes
          rw [takeShort, known] at success
          have asked : takeOption p .help none = .ok next := success
          exact absurd asked takeOption_help
      | true =>
          cases rest with
          | nil => exact ⟨slot, none, .short known⟩
          | cons c value =>
              by_cases equals : c = '='
              · subst equals
                exact ⟨slot, some value, .shortEquals known takes⟩
              · have other : (c :: value).head? ≠ some '=' := by simpa using equals
                exact ⟨slot, some (c :: value),
                  .shortWith known takes (List.cons_ne_nil c value) other⟩

/-- Whatever is neither a value nor an option is an error. -/
theorem isValue_or_names_of_take (options : p.onlyPaths = false)
    (success : take p argument = .ok next) :
    IsValue argument ∨ argument = "--" ∨
      ∃ slot value?, Names argument.toList slot value? := by
  rw [take, options] at success
  split at success
  · contradiction
  · split at success
    case h_1 starts => exact Or.inr (Or.inl (String.toList_inj.1 starts))
    case h_2 body nonempty starts => exact Or.inr (Or.inr (starts ▸ names_of_takeLong success))
    case h_3 letter rest noDash starts =>
      exact Or.inr (Or.inr (starts ▸ names_of_takeShort success))
    case h_4 notDashes notLong notShort =>
      refine Or.inl ?_
      cases split : argument.toList with
      | nil => exact Or.inr (by simp [split])
      | cons c rest =>
          by_cases dash : c = '-'
          · subst dash
            cases rest with
            | nil => exact Or.inl (String.toList_inj.1 split)
            | cons letter rest => exact absurd split (notShort letter rest)
          · exact Or.inr (by simp [split, dash])

end Take

/-! ## Steps -/

inductive Step (p : Progress) : String → Progress → Prop where
  | path {argument : String} {waiting : List Setting} {o : Options} :
      IsValue argument → p.hasPath = false → p.pending.settings? = some waiting →
        assignAll p.options waiting = .ok o →
        Step p argument { p with options := o, pending := .given .path argument, hasPath := true }
  | single {argument : String} {setting : Setting} {waiting : List Setting} {o : Options} :
      Gives argument setting → p.pending.settings? = some waiting →
        assignAll p.options (waiting ++ [setting]) = .ok o →
        Step p argument { p with options := o, pending := .nothing }
  | name {argument : String} {slot : Slot} {waiting : List Setting} {o : Options} :
      Names argument.toList slot none → slot.takesValue = true →
        p.pending.settings? = some waiting → assignAll p.options waiting = .ok o →
        Step p argument { p with options := o, pending := .wanted slot }
  | value {argument : String} {slot : Slot} :
      IsValue argument → p.pending = .wanted slot →
        Step p argument { p with pending := .given slot argument }
  | dashes : Step p "--" { p with onlyPaths := true }

theorem takeValue_wanted {p : Progress} {slot : Slot} (options : p.onlyPaths = false)
    (wanted : p.pending = .wanted slot) (argument : String) :
    takeValue p argument = .ok { p with pending := .given slot argument } := by
  rw [takeValue, options, wanted]

theorem takeValue_path_eq_ok_iff {p next : Progress} {argument : String}
    (path : p.onlyPaths = true ∨ ∀ slot, p.pending ≠ .wanted slot) :
    takeValue p argument = .ok next ↔ p.hasPath = false ∧
      ∃ waiting o, p.pending.settings? = some waiting ∧ assignAll p.options waiting = .ok o ∧
        next = { p with options := o, pending := .given .path argument, hasPath := true } := by
  have opened : takeValue p argument =
      if p.hasPath then .error (.usage (.unexpectedArgument argument))
      else do
        let p ← follow p (.given .path argument)
        return { p with hasPath := true } := by
    rw [takeValue]
    split
    case h_1 slot wanted options =>
      have running : p.onlyPaths ≠ true := by simp [options]
      exact absurd wanted (path.resolve_left running slot)
    case h_2 => rfl
  rw [opened]
  cases had : p.hasPath with
  | true => simp
  | false =>
      simp only [Bool.false_eq_true, if_false, true_and, bind_eq_ok_iff]
      constructor
      · rintro ⟨_, followed, same⟩
        obtain ⟨waiting, o, complete, set, rfl⟩ := follow_eq_ok_iff.1 followed
        exact ⟨waiting, o, complete, set, (Except.ok.inj same).symm⟩
      · rintro ⟨waiting, o, complete, set, rfl⟩
        exact ⟨_, follow_eq_ok_iff.2 ⟨waiting, o, complete, set, rfl⟩, rfl⟩

theorem step_of_takeOption {p next : Progress} {argument : String} {slot : Slot}
    {value? : Option (List Char)} (names : Names argument.toList slot value?)
    (success : takeOption p slot (value?.map String.ofList) = .ok next) : Step p argument next := by
  cases takes : slot.takesValue with
  | true =>
      cases value? with
      | some value =>
          rw [Option.map_some, takeOption, if_pos takes] at success
          obtain ⟨waiting, o, complete, set, rfl⟩ := settle_follow_eq_ok_iff.1 success
          exact .single (.attached names takes) complete set
      | none =>
          rw [Option.map_none, takeOption, if_pos takes] at success
          obtain ⟨waiting, o, complete, set, rfl⟩ := follow_eq_ok_iff.1 success
          exact .name names takes complete set
  | false =>
      cases slot with
      | json =>
          cases value? with
          | some value => cases success
          | none =>
              obtain ⟨waiting, o, complete, set, rfl⟩ := settle_follow_eq_ok_iff.1 success
              exact .single (.flag names) complete set
      | help => exact absurd success takeOption_help
      | _ => contradiction

theorem step_of_take {p next : Progress} {argument : String} (options : p.onlyPaths = false)
    (success : take p argument = .ok next) : Step p argument next := by
  rcases isValue_or_names_of_take options success with value | rfl | ⟨slot, value?, names⟩
  · rw [take_of_isValue value] at success
    by_cases waits : ∃ slot, p.pending = .wanted slot
    · obtain ⟨slot, wanted⟩ := waits
      rw [takeValue_wanted options wanted] at success
      cases success
      exact .value value wanted
    · obtain ⟨noPath, waiting, o, complete, set, rfl⟩ :=
        (takeValue_path_eq_ok_iff (Or.inr (not_exists.1 waits))).1 success
      exact .path value noPath complete set
  · rw [take_dashes options] at success
    cases success
    exact .dashes
  · rw [take_of_names options names] at success
    exact step_of_takeOption names success

theorem take_of_step {p next : Progress} {argument : String} (step : Step p argument next)
    (options : p.onlyPaths = false) : take p argument = .ok next := by
  cases step with
  | path value noPath complete set =>
      rw [take_of_isValue value]
      refine (takeValue_path_eq_ok_iff (Or.inr ?_)).2 ⟨noPath, _, _, complete, set, rfl⟩
      intro slot wanted
      rw [wanted] at complete
      cases complete
  | single gives complete set =>
      cases gives with
      | flag names =>
          rw [take_of_names options names]
          exact settle_follow_eq_ok_iff.2 ⟨_, _, complete, set, rfl⟩
      | attached names takes =>
          rw [take_of_names options names, Option.map_some, takeOption, if_pos takes]
          exact settle_follow_eq_ok_iff.2 ⟨_, _, complete, set, rfl⟩
  | name names takes complete set =>
      rw [take_of_names options names, Option.map_none, takeOption, if_pos takes]
      exact follow_eq_ok_iff.2 ⟨_, _, complete, set, rfl⟩
  | value value wanted => rw [take_of_isValue value, takeValue_wanted options wanted]
  | dashes => exact take_dashes options

end Arguments

end Hierarchy.Dump
