import Hierarchy.Proofs.Dump.Spelling

/-!
# Command lines of the dump command

A command line is a sequence of settings, each spelt by one argument or by two, and after
`--` every argument is a path.  It is read with success just in case the settings that it
spells fit together and there is one path among them at most (`read_eq_ok_iff`).
-/

set_option autoImplicit false

namespace Hierarchy.Dump

namespace Arguments

inductive Spells : List String → List Setting → Prop where
  | nil : Spells [] []
  | path {argument : String} {rest : List String} {given : List Setting} :
      IsValue argument → Spells rest given →
        Spells (argument :: rest) ((.path, argument) :: given)
  | single {argument : String} {setting : Setting} {rest : List String} {given : List Setting} :
      Gives argument setting → Spells rest given → Spells (argument :: rest) (setting :: given)
  | pair {argument value : String} {slot : Slot} {rest : List String} {given : List Setting} :
      Names argument.toList slot none → slot.takesValue = true → IsValue value →
        Spells rest given → Spells (argument :: value :: rest) ((slot, value) :: given)
  | dashes (paths : List String) : Spells ("--" :: paths) (paths.map (Slot.path, ·))

/-! ## One argument after the other -/

def finish (p : Progress) (arguments : List String) : Except Stop Options := do
  let p ← arguments.foldlM take p
  let p ← settle p
  return p.options

theorem finish_nil_eq_ok_iff {p : Progress} {o : Options} :
    finish p [] = .ok o ↔
      ∃ waiting, p.pending.settings? = some waiting ∧ assignAll p.options waiting = .ok o := by
  have opened : finish p [] = settle p >>= fun p => .ok p.options := rfl
  rw [opened, bind_eq_ok_iff]
  constructor
  · rintro ⟨_, settled, same⟩
    obtain ⟨waiting, next, complete, set, rfl⟩ := settle_eq_ok_iff.1 settled
    cases same
    exact ⟨waiting, complete, set⟩
  · rintro ⟨waiting, complete, set⟩
    exact ⟨_, settle_eq_ok_iff.2 ⟨waiting, o, complete, set, rfl⟩, rfl⟩

theorem finish_cons_eq_ok_iff {p : Progress} {argument : String} {rest : List String}
    {o : Options} :
    finish p (argument :: rest) = .ok o ↔
      ∃ next, take p argument = .ok next ∧ finish next rest = .ok o := by
  simp only [finish, List.foldlM_cons, bind_assoc]
  exact bind_eq_ok_iff

theorem finish_onlyPaths_eq_ok_iff {p : Progress} (ended : p.onlyPaths = true)
    {paths : List String} {o : Options} :
    finish p paths = .ok o ↔ p.hasPath.toNat + paths.length ≤ 1 ∧
      ∃ waiting, p.pending.settings? = some waiting ∧
        assignAll p.options (waiting ++ paths.map (Slot.path, ·)) = .ok o := by
  induction paths generalizing p with
  | nil => simp [finish_nil_eq_ok_iff, Bool.toNat_le]
  | cons path rest ih =>
      have afterFirst (mid : Options) :=
        @ih { p with options := mid, pending := .given .path path, hasPath := true } ended
      rw [finish_cons_eq_ok_iff]
      simp only [take_of_onlyPaths ended, takeValue_path_eq_ok_iff (Or.inl ended)]
      constructor
      · rintro ⟨_, ⟨noPath, waiting, mid, complete, set, rfl⟩, finished⟩
        obtain ⟨few, _, single, setRest⟩ := (afterFirst mid).1 finished
        cases single
        refine ⟨?_, waiting, complete, assignAll_append.2 ⟨mid, set, setRest⟩⟩
        simp only [Bool.toNat_true] at few
        simp only [noPath, Bool.toNat_false, List.length_cons]
        omega
      · rintro ⟨few, waiting, complete, set⟩
        obtain ⟨mid, setFirst, setRest⟩ := assignAll_append.1 set
        rw [List.length_cons] at few
        have noPath : p.hasPath = false := by
          rw [← Bool.toNat_eq_zero]
          omega
        have none : true.toNat + rest.length ≤ 1 := by
          rw [Bool.toNat_true]
          omega
        exact ⟨_, ⟨noPath, waiting, mid, complete, setFirst, rfl⟩,
          (afterFirst mid).2 ⟨none, _, rfl, setRest⟩⟩

/-! ## What fits -/

/-- One path at most is among the settings, or none if there was one before. -/
def Fits (hasPath : Bool) (given : List Setting) : Prop :=
  hasPath.toNat + (valuesOf .path given).length ≤ 1

theorem fits_path_cons {hasPath : Bool} {path : String} {given : List Setting} :
    Fits hasPath ((.path, path) :: given) ↔ hasPath = false ∧ Fits true given := by
  rw [Fits, valuesOf_cons, if_pos rfl, List.length_cons, ← Bool.toNat_eq_zero, Fits,
    Bool.toNat_true]
  omega

theorem fits_cons_of_ne {hasPath : Bool} {setting : Setting} {given : List Setting}
    (noPath : setting.1 ≠ .path) : Fits hasPath (setting :: given) ↔ Fits hasPath given := by
  obtain ⟨slot, value⟩ := setting
  rw [Fits, valuesOf_cons, if_neg noPath, Fits]

/-! ## Success -/

theorem finish_of_spells {arguments : List String} {given : List Setting}
    (spells : Spells arguments given) {p : Progress} (options : p.onlyPaths = false)
    (fits : Fits p.hasPath given) {waiting : List Setting}
    (complete : p.pending.settings? = some waiting) {o : Options}
    (set : assignAll p.options (waiting ++ given) = .ok o) : finish p arguments = .ok o := by
  -- what waits is assigned with the next argument, before the setting that it spells
  induction spells generalizing p waiting with
  | nil =>
      rw [List.append_nil] at set
      exact finish_nil_eq_ok_iff.2 ⟨waiting, complete, set⟩
  | path value _ ih =>
      obtain ⟨noPath, fitsRest⟩ := fits_path_cons.1 fits
      obtain ⟨mid, setWaiting, setRest⟩ := assignAll_append.1 set
      have taken := take_of_step (.path value noPath complete setWaiting) options
      exact finish_cons_eq_ok_iff.2 ⟨_, taken, ih options fitsRest rfl setRest⟩
  | single gives _ ih =>
      have fitsRest := (fits_cons_of_ne gives.ne_path).1 fits
      rw [← List.singleton_append, ← List.append_assoc] at set
      obtain ⟨mid, setWaiting, setRest⟩ := assignAll_append.1 set
      have taken := take_of_step (.single gives complete setWaiting) options
      exact finish_cons_eq_ok_iff.2 ⟨_, taken, ih options fitsRest rfl setRest⟩
  | pair names takes isValue _ ih =>
      have fitsRest := (fits_cons_of_ne names.ne_path).1 fits
      obtain ⟨mid, setWaiting, setRest⟩ := assignAll_append.1 set
      have named := take_of_step (.name names takes complete setWaiting) options
      refine finish_cons_eq_ok_iff.2 ⟨_, named, finish_cons_eq_ok_iff.2 ?_⟩
      exact ⟨_, take_of_step (.value isValue rfl) options,
        ih options fitsRest rfl setRest⟩
  | dashes paths =>
      rw [Fits, valuesOf_paths] at fits
      have taken := take_of_step .dashes options
      exact finish_cons_eq_ok_iff.2 ⟨_, taken,
        (finish_onlyPaths_eq_ok_iff rfl).2 ⟨fits, waiting, complete, set⟩⟩

/-- The arguments that are left lead to `o`: they spell settings that fit, and an option that
lacks its value finds it first. -/
inductive Completes (p : Progress) (o : Options) : List String → Prop where
  | settled {arguments : List String} {waiting given : List Setting} :
      p.pending.settings? = some waiting → Spells arguments given → Fits p.hasPath given →
        assignAll p.options (waiting ++ given) = .ok o → Completes p o arguments
  | wanted {slot : Slot} {value : String} {rest : List String} {given : List Setting} :
      p.pending = .wanted slot → IsValue value → Spells rest given → Fits p.hasPath given →
        assignAll p.options ((slot, value) :: given) = .ok o → Completes p o (value :: rest)

theorem completes_of_finish {arguments : List String} {p : Progress} {o : Options}
    (success : finish p arguments = .ok o) (options : p.onlyPaths = false) :
    Completes p o arguments := by
  -- a step leaves its setting waiting, so both the state and what waits in it vary
  induction arguments generalizing p with
  | nil =>
      obtain ⟨waiting, complete, set⟩ := finish_nil_eq_ok_iff.1 success
      refine .settled complete .nil (Bool.toNat_le _) ?_
      rw [List.append_nil]
      exact set
  | cons argument rest ih =>
      obtain ⟨next, taken, finished⟩ := finish_cons_eq_ok_iff.1 success
      cases step_of_take options taken with
      | path value noPath complete set =>
          cases ih finished options with
          | settled single spells fits setRest =>
              cases single
              exact .settled complete (.path value spells) (fits_path_cons.2 ⟨noPath, fits⟩)
                (assignAll_append.2 ⟨_, set, setRest⟩)
          | wanted waits => cases waits
      | single gives complete set =>
          cases ih finished options with
          | settled none spells fits setRest =>
              cases none
              refine .settled complete (.single gives spells)
                ((fits_cons_of_ne gives.ne_path).2 fits) ?_
              rw [← List.singleton_append, ← List.append_assoc]
              exact assignAll_append.2 ⟨_, set, setRest⟩
          | wanted waits => cases waits
      | name names takes complete set =>
          cases ih finished options with
          | settled none => cases none
          | wanted waits isValue spells fits setRest =>
              cases waits
              exact .settled complete (.pair names takes isValue spells)
                ((fits_cons_of_ne names.ne_path).2 fits) (assignAll_append.2 ⟨_, set, setRest⟩)
      | value isValue waits =>
          cases ih finished options with
          | settled single spells fits set =>
              cases single
              exact .wanted waits isValue spells fits set
          | wanted waits => cases waits
      | dashes =>
          obtain ⟨few, waiting, complete, set⟩ := (finish_onlyPaths_eq_ok_iff rfl).1 finished
          refine .settled complete (.dashes rest) ?_ set
          rw [Fits, valuesOf_paths]
          exact few

/-- The arguments are read with success just in case they spell settings that fit. -/
theorem read_eq_ok_iff {arguments : List String} {o : Options} :
    read arguments = .ok o ↔
      ∃ given, Spells arguments given ∧ (valuesOf .path given).length ≤ 1 ∧
        Extends .none given o := by
  have opened : read arguments = finish .start arguments := rfl
  have noPath (given : List Setting) :
      Fits Progress.start.hasPath given ↔ (valuesOf .path given).length ≤ 1 := by
    rw [Fits, Progress.start, Bool.toNat_false, Nat.zero_add]
  rw [opened]
  constructor
  · intro success
    cases completes_of_finish success rfl with
    | settled none spells fits set =>
        cases none
        exact ⟨_, spells, (noPath _).1 fits, assignAll_eq_ok_iff.1 set⟩
    | wanted waits => cases waits
  · rintro ⟨given, spells, fits, extended⟩
    exact finish_of_spells spells rfl ((noPath given).2 fits) rfl (assignAll_eq_ok_iff.2 extended)

end Arguments

end Hierarchy.Dump
