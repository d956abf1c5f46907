import Hierarchy.Dump.Arguments
import Mathlib.Tactic.MkIffOfInductiveProp

/-!
# Settings of the dump command

A setting is a slot with its value.  Settings are assigned one after the other, which
succeeds just in case they fit together (`assignAll_eq_ok_iff`): every option that stands
alone is given once, and what has to be a locator can be parsed.  While arguments are read
the last setting waits, and what settles it is the same assignment.
-/

set_option autoImplicit false

namespace Hierarchy.Dump

/-- A slot with the value that it is given; a flag is given the empty text. -/
abbrev Setting := Slot × String

namespace Arguments

/-- What a slot is given, in the order of the settings. -/
def valuesOf (slot : Slot) (given : List Setting) : List String :=
  (given.filter (·.1 = slot)).map (·.2)

/-- The options `next` are `o` with the settings added: nothing that stands alone is given
twice, and all that has to be a locator is one. -/
@[mk_iff]
structure Extends (o : Options) (given : List Setting) (next : Options) : Prop where
  path : next.path? = (valuesOf .path given).getLast?.or o.path?
  noEmptyPath : "" ∉ valuesOf .path given
  fixture : next.fixture?.toList = o.fixture?.toList ++ valuesOf .fixture given
  overlaps : next.overlaps.map .ok =
    o.overlaps.map .ok ++ (valuesOf .overlaps given).map Locator.parse
  covers : next.covers.map .ok = o.covers.map .ok ++ (valuesOf .covers given).map Locator.parse
  json : next.json.toNat = o.json.toNat + (valuesOf .json given).length
  delimiter : next.delimiter?.toList = o.delimiter?.toList ++ valuesOf .delimiter given
  noHelp : valuesOf .help given = []

/-! ## One after the other -/

theorem bind_eq_ok_iff {α β : Type} {x : Except Stop α} {f : α → Except Stop β} {b : β} :
    (x >>= f) = .ok b ↔ ∃ a, x = .ok a ∧ f a = .ok b := by
  cases x with
  | error stop =>
      constructor
      · exact fun failed => nomatch failed
      · rintro ⟨_, failed, _⟩
        cases failed
  | ok a =>
      constructor
      · exact fun result => ⟨a, rfl, result⟩
      · rintro ⟨_, same, result⟩
        cases same
        exact result

def assignAll (o : Options) (given : List Setting) : Except Stop Options :=
  given.foldlM (fun o setting => assign o setting.1 setting.2) o

theorem assignAll_cons {o next : Options} {setting : Setting} {given : List Setting} :
    assignAll o (setting :: given) = .ok next ↔
      ∃ mid, assign o setting.1 setting.2 = .ok mid ∧ assignAll mid given = .ok next := by
  rw [assignAll, List.foldlM_cons, bind_eq_ok_iff]
  rfl

theorem assignAll_singleton {o next : Options} {setting : Setting} :
    assignAll o [setting] = .ok next ↔ assign o setting.1 setting.2 = .ok next := by
  rw [assignAll_cons]
  exact ⟨fun ⟨_, set, rest⟩ => Except.ok.inj rest ▸ set, fun set => ⟨next, set, rfl⟩⟩

theorem assignAll_append {o next : Options} {first second : List Setting} :
    assignAll o (first ++ second) = .ok next ↔
      ∃ mid, assignAll o first = .ok mid ∧ assignAll mid second = .ok next := by
  rw [assignAll, List.foldlM_append, bind_eq_ok_iff]
  rfl

theorem valuesOf_cons (slot other : Slot) (value : String) (given : List Setting) :
    valuesOf slot ((other, value) :: given) =
      if other = slot then value :: valuesOf slot given else valuesOf slot given := by
  by_cases same : other = slot
  · simp [valuesOf, same]
  · simp [valuesOf, same]

theorem valuesOf_paths (paths : List String) :
    valuesOf .path (paths.map (Slot.path, ·)) = paths := by
  simp [valuesOf, List.filter_map, Function.comp_def]

theorem toList_inj {α : Type} {a b : Option α} : a.toList = b.toList ↔ a = b := by
  cases a <;> cases b <;> simp

theorem toList_ne_cons_cons {α : Type} (o : Option α) (a b : α) (rest : List α) :
    o.toList ≠ a :: b :: rest := by
  cases o <;> simp

theorem toNat_inj {a b : Bool} : a.toNat = b.toNat ↔ a = b := by
  cases a <;> cases b <;> decide

theorem toNat_ne_one_add_succ (b : Bool) (n : Nat) : b.toNat ≠ 1 + (n + 1) := by
  have bound := b.toNat_le
  omega

theorem map_ok_ne_append_error (next before : List (Locator String)) (cause : InvalidLocator)
    (rest : List (Except InvalidLocator (Locator String))) :
    next.map Except.ok ≠ before.map Except.ok ++ Except.error cause :: rest := by
  intro same
  have inside : Except.error cause ∈ next.map Except.ok := by simp [same]
  simp at inside

theorem map_ok_inj {next o : List (Locator String)} :
    next.map Except.ok = (o.map Except.ok : List (Except InvalidLocator _)) ↔ next = o :=
  List.map_inj_right fun _ _ => Except.ok.inj

theorem extends_nil {o next : Options} : Extends o [] next ↔ o = next := by
  constructor
  · rintro ⟨path, _, fixture, overlaps, covers, json, delimiter, _⟩
    obtain ⟨path?, fixture?, os, cs, flag, delimiter?⟩ := next
    simp_all [valuesOf, toList_inj, toNat_inj, map_ok_inj]
  · rintro rfl
    constructor <;> simp [valuesOf]

theorem assign_overlaps {o : Options} {value : String} {l : Locator String}
    (parsed : Locator.parse value = .ok l) :
    assign o .overlaps value = .ok { o with overlaps := o.overlaps ++ [l] } := by
  rw [assign, locatorOf, parsed]
  rfl

theorem assign_covers {o : Options} {value : String} {l : Locator String}
    (parsed : Locator.parse value = .ok l) :
    assign o .covers value = .ok { o with covers := o.covers ++ [l] } := by
  rw [assign, locatorOf, parsed]
  rfl

theorem assign_of_parse_eq_error (o : Options) {slot : Slot}
    (question : slot = .overlaps ∨ slot = .covers) {value : String} {cause : InvalidLocator}
    (refused : Locator.parse value = .error cause) :
    assign o slot value = .error (.usage (.invalidValue value slot cause)) := by
  rcases question with rfl | rfl
  · rw [assign, locatorOf, refused]
    rfl
  · rw [assign, locatorOf, refused]
    rfl

theorem extends_cons {o next : Options} {slot : Slot} {value : String} {given : List Setting} :
    Extends o ((slot, value) :: given) next ↔
      ∃ mid, assign o slot value = .ok mid ∧ Extends mid given next := by
  -- each slot adds to one field alone, and succeeds just in case that field lets it
  cases slot with
  | path =>
      by_cases empty : value = ""
      · simp [assign, empty, extends_iff, valuesOf_cons]
      · have last : ((value :: valuesOf .path given).getLast?).or o.path? =
            ((valuesOf .path given).getLast?).or (some value) := by
          simp [List.getLast?_cons]
        simp [assign, empty, Ne.symm empty, extends_iff, valuesOf_cons, last]
  | fixture =>
      cases set : o.fixture? with
      | none => simp [assign, set, extends_iff, valuesOf_cons]
      | some first => simp [assign, set, extends_iff, valuesOf_cons, toList_ne_cons_cons]
  | overlaps =>
      cases parsed : Locator.parse value with
      | ok l => simp [assign_overlaps parsed, parsed, extends_iff, valuesOf_cons]
      | error cause =>
          have refused := assign_of_parse_eq_error o (Or.inl rfl) parsed
          simp [refused, parsed, extends_iff, valuesOf_cons, map_ok_ne_append_error]
  | covers =>
      cases parsed : Locator.parse value with
      | ok l => simp [assign_covers parsed, parsed, extends_iff, valuesOf_cons]
      | error cause =>
          have refused := assign_of_parse_eq_error o (Or.inr rfl) parsed
          simp [refused, parsed, extends_iff, valuesOf_cons, map_ok_ne_append_error]
  | json =>
      cases set : o.json with
      | false => simp [assign, set, extends_iff, valuesOf_cons, Nat.add_comm 1]
      | true => simp [assign, set, extends_iff, valuesOf_cons, toNat_ne_one_add_succ]
  | delimiter =>
      cases set : o.delimiter? with
      | none => simp [assign, set, extends_iff, valuesOf_cons]
      | some first => simp [assign, set, extends_iff, valuesOf_cons, toList_ne_cons_cons]
  | help => simp [assign, extends_iff, valuesOf_cons]

theorem assignAll_eq_ok_iff {o next : Options} {given : List Setting} :
    assignAll o given = .ok next ↔ Extends o given next := by
  induction given generalizing o with
  | nil =>
      rw [extends_nil]
      exact Except.ok.injEq o next ▸ Iff.rfl
  | cons setting rest ih =>
      obtain ⟨slot, value⟩ := setting
      rw [assignAll_cons, extends_cons]
      exact exists_congr fun mid => and_congr_right fun _ => ih

/-! ## What waits -/

/-- The settings that wait, unless an option still lacks its value. -/
def Pending.settings? : Pending → Option (List Setting)
  | .nothing => some []
  | .wanted _ => none
  | .given slot value => some [(slot, value)]

theorem settle_eq_ok_iff {p next : Progress} :
    settle p = .ok next ↔ ∃ waiting o, p.pending.settings? = some waiting ∧
      assignAll p.options waiting = .ok o ∧
      next = { p with options := o, pending := .nothing } := by
  obtain ⟨o, pending, hasPath, onlyPaths⟩ := p
  cases pending with
  | nothing =>
      constructor
      · intro same
        exact ⟨[], o, rfl, rfl, (Except.ok.inj same).symm⟩
      · rintro ⟨_, _, none, set, rfl⟩
        cases none
        cases set
        rfl
  | wanted slot =>
      constructor
      · exact fun failed => nomatch failed
      · rintro ⟨_, _, none, _⟩
        cases none
  | given slot value =>
      simp only [Pending.settings?, Option.some.injEq, exists_and_left, exists_eq_left',
        assignAll_singleton]
      simp only [settle, bind_eq_ok_iff]
      exact exists_congr fun o => and_congr_right fun _ => Except.ok.injEq _ next ▸ eq_comm

theorem follow_eq_ok_iff {p next : Progress} {pending : Pending} :
    follow p pending = .ok next ↔ ∃ waiting o, p.pending.settings? = some waiting ∧
      assignAll p.options waiting = .ok o ∧ next = { p with options := o, pending } := by
  rw [follow, bind_eq_ok_iff]
  constructor
  · rintro ⟨_, settled, same⟩
    obtain ⟨waiting, o, complete, set, rfl⟩ := settle_eq_ok_iff.1 settled
    exact ⟨waiting, o, complete, set, (Except.ok.inj same).symm⟩
  · rintro ⟨waiting, o, complete, set, rfl⟩
    exact ⟨_, settle_eq_ok_iff.2 ⟨waiting, o, complete, set, rfl⟩, rfl⟩

theorem settle_follow_eq_ok_iff {p next : Progress} {slot : Slot} {value : String} :
    (follow p (.given slot value) >>= settle) = .ok next ↔
      ∃ waiting o, p.pending.settings? = some waiting ∧
        assignAll p.options (waiting ++ [(slot, value)]) = .ok o ∧
        next = { p with options := o, pending := .nothing } := by
  simp only [bind_eq_ok_iff, assignAll_append]
  constructor
  · rintro ⟨mid, followed, settled⟩
    obtain ⟨waiting, o, complete, set, rfl⟩ := follow_eq_ok_iff.1 followed
    obtain ⟨_, last, single, setLast, rfl⟩ := settle_eq_ok_iff.1 settled
    cases single
    exact ⟨waiting, last, complete, ⟨o, set, setLast⟩, rfl⟩
  · rintro ⟨waiting, last, complete, ⟨o, set, setLast⟩, rfl⟩
    exact ⟨_, follow_eq_ok_iff.2 ⟨waiting, o, complete, set, rfl⟩,
      settle_eq_ok_iff.2 ⟨[(slot, value)], last, rfl, setLast, rfl⟩⟩

end Arguments

end Hierarchy.Dump
