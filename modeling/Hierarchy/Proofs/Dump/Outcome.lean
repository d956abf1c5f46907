import Hierarchy.Proofs.Dump.Help
import Hierarchy.Proofs.Dump.NormalForm

/-!
# The outcome of the dump command

Whether usage is wrong is settled by the arguments.  If it is not, the command prints the
help or reports on one listing, and there it can fail for two reasons: the bytes of the file
are no text, or the text is no listing.  A report that succeeds is what the command prints
without its questions, and then the answers; they are those of a scan over the listing, for
flattening does not change which places are covered (`run_outcome`).
-/

set_option autoImplicit false

namespace Hierarchy.Dump

/-! ## The listing that is asked for -/

/-- A bundled listing goes before a path. -/
def Options.source? (o : Options) : Option Source :=
  match o.fixture?, o.path? with
  | .some name, _ => .some (.bundled name)
  | .none, .some path => .some (.file path)
  | .none, .none => .none

def Source.bytes (files : Files) (source : Source) : Except ReadError ByteArray :=
  files.readBytes (source.path files.bundled)

def Source.contents (files : Files) (source : Source) : Except ReadError String :=
  files.readText (source.path files.bundled)

theorem Source.contents_eq_ok_iff {source : Source} {files : Files} {text : String} :
    source.contents files = .ok text ↔ source.bytes files = .ok text.toUTF8 :=
  Files.readText_eq_ok_iff

/-- The source has the bytes of a listing that holds `ls`. -/
def Source.Lists (source : Source) (files : Files) (ls : List (Locator String)) : Prop :=
  ∃ text, source.bytes files = .ok text.toUTF8 ∧ Listing.parse text = .ok ls

/-- The source cannot be read as UTF-8, or its text is no listing. -/
def Source.Rejected (source : Source) (files : Files) : Prop :=
  (∀ text : String, source.bytes files ≠ .ok text.toUTF8) ∨
    ∃ text e, source.bytes files = .ok text.toUTF8 ∧ Listing.parse text = .error e

theorem Source.rejected_or_lists (source : Source) (files : Files) :
    source.Rejected files ∨ ∃ ls, source.Lists files ls := by
  by_cases readable : ∃ text : String, source.bytes files = .ok text.toUTF8
  · obtain ⟨text, read⟩ := readable
    cases parsed : Listing.parse text with
    | error e => exact Or.inl (Or.inr ⟨text, e, read, parsed⟩)
    | ok ls => exact Or.inr ⟨ls, text, read, parsed⟩
  · exact Or.inl (Or.inl (not_exists.1 readable))

/-! ## Plans -/

structure Asks (arguments : List String) (given : List Setting) (o : Options)
    (source : Source) : Prop where
  spells : Arguments.Spells arguments given
  onePath : (Arguments.valuesOf .path given).length ≤ 1
  options : Arguments.Extends .none given o
  source : o.source? = some source

theorem plan_of_read {arguments : List String} {o : Options}
    (success : Arguments.read arguments = .ok o) :
    plan arguments = match o.source? with
      | some source => .report source o
      | none => .done (misuse .nothingToRead) := by
  rw [plan, success]
  obtain ⟨path?, fixture?, _, _, _, _⟩ := o
  cases fixture? with
  | some name => rfl
  | none =>
      cases path? with
      | some path => rfl
      | none => rfl

theorem Asks.plan_eq {arguments : List String} {given : List Setting} {o : Options}
    {source : Source} (asks : Asks arguments given o source) :
    plan arguments = .report source o := by
  have success : Arguments.read arguments = .ok o :=
    Arguments.read_eq_ok_iff.2 ⟨given, asks.spells, asks.onePath, asks.options⟩
  rw [plan_of_read success, asks.source]

theorem plan_of_helpWanted {arguments : List String}
    (helpWanted : Arguments.HelpWanted arguments) : plan arguments = .done ⟨0, help, ""⟩ := by
  rw [plan, Arguments.read_eq_help_iff.2 helpWanted]

theorem plan_cases (arguments : List String) :
    Arguments.HelpWanted arguments ∨ (∃ e, plan arguments = .done (misuse e)) ∨
      ∃ given o source, Asks arguments given o source := by
  cases outcome : Arguments.read arguments with
  | error stop =>
      cases stop with
      | help => exact Or.inl (Arguments.read_eq_help_iff.1 outcome)
      | usage e => exact Or.inr (Or.inl ⟨e, by rw [plan, outcome]⟩)
  | ok o =>
      refine Or.inr ?_
      cases asked : o.source? with
      | none => exact Or.inl ⟨.nothingToRead, by rw [plan_of_read outcome, asked]⟩
      | some source =>
          obtain ⟨given, spells, onePath, options⟩ := Arguments.read_eq_ok_iff.1 outcome
          exact Or.inr ⟨given, o, source, spells, onePath, options, asked⟩

theorem run_of_done {arguments : List String} {outcome : Outcome}
    (planned : plan arguments = .done outcome) (files : Files) :
    run arguments files = outcome := by
  rw [run, perform, planned]
  rfl

/-- Where reading has no effects, the command has none either. -/
theorem perform_pure {m : Type → Type} [Monad m] [LawfulMonad m] (arguments : List String)
    (files : Files) :
    perform (m := m) files.bundled (fun path => pure (files.readText path)) arguments =
      pure (run arguments files) := by
  rw [run, perform, perform]
  cases plan arguments with
  | done outcome => rfl
  | report source options => exact pure_bind _ _

theorem Asks.run_eq {arguments : List String} {given : List Setting} {o : Options}
    {source : Source} (asks : Asks arguments given o source) (files : Files) :
    run arguments files = report (source.path files.bundled) o (source.contents files) := by
  rw [run, perform, asks.plan_eq]
  rfl

/-! ## Reports -/

theorem report_of_rejected {source : Source} {files : Files} (rejected : source.Rejected files)
    (path : String) (o : Options) :
    ∃ stderr, report path o (source.contents files) = ⟨1, "", stderr⟩ := by
  rcases rejected with unreadable | ⟨text, e, read, refused⟩
  · cases contents : source.contents files with
    | error e => exact ⟨_, rfl⟩
    | ok text => exact absurd (Source.contents_eq_ok_iff.1 contents) (unreadable text)
  · rw [Source.contents_eq_ok_iff.2 read]
    simp only [report, Listing.parseRegion, refused, Except.map]
    exact ⟨_, rfl⟩

/-- The answers to all questions by a scan over all that is listed. -/
def answers (o : Options) (ls : List (Locator String)) : List String :=
  o.overlaps.map (fun l => verdictLine "intersects" l (ls.any fun m => m.overlaps l)) ++
    o.covers.map fun l => verdictLine "contains" l (ls.any fun m => m.isPrefixOf l)

theorem verdicts_ofList (o : Options) (ls : List (Locator String)) :
    verdicts o (Region.ofList ls) = answers o ls := by
  simp only [verdicts, answers, Region.overlaps_ofList, Region.covers_ofList]

theorem report_of_lists {source : Source} {files : Files} {ls : List (Locator String)}
    (lists : source.Lists files ls) (path : String) (o : Options) :
    report path o (source.contents files) =
      ⟨0, dump o (Region.ofList ls) ++ Text.unlines (answers o ls), ""⟩ := by
  obtain ⟨text, read, listed⟩ := lists
  rw [Source.contents_eq_ok_iff.2 read, ← verdicts_ofList]
  simp only [report, Listing.parseRegion, listed, Except.map]

theorem report_exit_eq_one_iff {path : String} {source : Source} {files : Files} {o : Options} :
    (report path o (source.contents files)).exit = 1 ↔ source.Rejected files := by
  constructor
  · intro failed
    refine (source.rejected_or_lists files).resolve_right ?_
    rintro ⟨ls, lists⟩
    rw [report_of_lists lists] at failed
    cases failed
  · intro rejected
    obtain ⟨stderr, failed⟩ := report_of_rejected rejected path o
    rw [failed]

/-! ## One stream -/

def Outcome.OneStream (outcome : Outcome) : Prop :=
  (outcome.exit ≠ 0 → outcome.stdout = "") ∧ (outcome.exit = 0 → outcome.stderr = "")

theorem oneStream_of_exit_eq_zero (stdout : String) : Outcome.OneStream ⟨0, stdout, ""⟩ :=
  ⟨fun failed => absurd rfl failed, fun _ => rfl⟩

theorem oneStream_of_exit_ne_zero {exit : Nat} (failed : exit ≠ 0) (stderr : String) :
    Outcome.OneStream ⟨exit, "", stderr⟩ :=
  ⟨fun _ => rfl, fun success => absurd success failed⟩

theorem report_oneStream (path : String) (source : Source) (o : Options) (files : Files) :
    (report path o (source.contents files)).OneStream := by
  rcases source.rejected_or_lists files with rejected | ⟨ls, lists⟩
  · obtain ⟨stderr, failed⟩ := report_of_rejected rejected path o
    rw [failed]
    exact oneStream_of_exit_ne_zero Nat.one_ne_zero stderr
  · rw [report_of_lists lists]
    exact oneStream_of_exit_eq_zero _

theorem report_exit_ne_two (path : String) (source : Source) (o : Options) (files : Files) :
    (report path o (source.contents files)).exit ≠ 2 := by
  rcases source.rejected_or_lists files with rejected | ⟨ls, lists⟩
  · obtain ⟨stderr, failed⟩ := report_of_rejected rejected path o
    rw [failed]
    exact (Nat.succ_ne_self 1).symm
  · rw [report_of_lists lists]
    exact Nat.zero_ne_add_one 1

theorem run_oneStream (arguments : List String) (files : Files) :
    (run arguments files).OneStream := by
  rcases plan_cases arguments with helpWanted | ⟨e, misused⟩ | ⟨given, o, source, asks⟩
  · rw [run_of_done (plan_of_helpWanted helpWanted)]
    exact oneStream_of_exit_eq_zero help
  · rw [run_of_done misused]
    exact oneStream_of_exit_ne_zero (Nat.succ_ne_zero 1) _
  · rw [asks.run_eq]
    exact report_oneStream _ source o files

theorem run_exit_eq_two_iff {arguments : List String} {files : Files} :
    (run arguments files).exit = 2 ↔ ∃ e, plan arguments = .done (misuse e) := by
  constructor
  · intro failed
    rcases plan_cases arguments with helpWanted | misused | ⟨given, o, source, asks⟩
    · rw [run_of_done (plan_of_helpWanted helpWanted)] at failed
      cases failed
    · exact misused
    · rw [asks.run_eq] at failed
      exact absurd failed (report_exit_ne_two _ source o files)
  · rintro ⟨e, misused⟩
    rw [run_of_done misused, misuse]

/-! ## Without the questions -/

def Slot.isQuestion (slot : Slot) : Bool := slot = .overlaps || slot = .covers

def withoutQuestions (given : List Setting) : List Setting :=
  given.filter fun setting => !setting.1.isQuestion

def Options.withoutQuestions (o : Options) : Options := { o with overlaps := [], covers := [] }

theorem withoutQuestions_cons (setting : Setting) (given : List Setting) :
    withoutQuestions (setting :: given) =
      if setting.1.isQuestion then withoutQuestions given
      else setting :: withoutQuestions given := by
  cases question : setting.1.isQuestion with
  | true => simp [withoutQuestions, question]
  | false => simp [withoutQuestions, question]

theorem valuesOf_withoutQuestions (slot : Slot) (given : List Setting) :
    Arguments.valuesOf slot (withoutQuestions given) =
      if slot.isQuestion then [] else Arguments.valuesOf slot given := by
  rw [Arguments.valuesOf, withoutQuestions, List.filter_filter]
  cases question : slot.isQuestion with
  | true =>
      rw [if_pos rfl, List.map_eq_nil_iff, List.filter_eq_nil_iff]
      rintro ⟨other, value⟩ _
      by_cases same : other = slot <;> simp [same, question]
  | false =>
      refine congrArg (List.map _) (List.filter_congr ?_)
      rintro ⟨other, value⟩ _
      by_cases same : other = slot <;> simp [same, question]

/-- An option that asks a question can be left out, together with its value. -/
theorem exists_spells_withoutQuestions {arguments : List String} {given : List Setting}
    (spells : Arguments.Spells arguments given) :
    ∃ fewer, fewer.Sublist arguments ∧ Arguments.Spells fewer (withoutQuestions given) := by
  induction spells with
  | nil => exact ⟨[], .slnil, .nil⟩
  | @path argument rest given value _ ih =>
      obtain ⟨fewer, sublist, spells⟩ := ih
      exact ⟨argument :: fewer, sublist.cons_cons argument, .path value spells⟩
  | @single argument setting rest given gives _ ih =>
      obtain ⟨fewer, sublist, spells⟩ := ih
      rw [withoutQuestions_cons]
      split
      · exact ⟨fewer, sublist.cons argument, spells⟩
      · exact ⟨argument :: fewer, sublist.cons_cons argument, .single gives spells⟩
  | @pair argument value slot rest given names takes isValue _ ih =>
      obtain ⟨fewer, sublist, spells⟩ := ih
      rw [withoutQuestions_cons]
      split
      · exact ⟨fewer, (sublist.cons value).cons argument, spells⟩
      · exact ⟨argument :: value :: fewer, (sublist.cons_cons value).cons_cons argument,
          .pair names takes isValue spells⟩
  | dashes paths =>
      have kept : withoutQuestions (paths.map (Slot.path, ·)) = paths.map (Slot.path, ·) := by
        refine List.filter_eq_self.2 ?_
        intro setting inside
        obtain ⟨path, _, rfl⟩ := List.mem_map.1 inside
        rfl
      rw [kept]
      exact ⟨"--" :: paths, .refl _, .dashes paths⟩

theorem Asks.withoutQuestions {arguments fewer : List String} {given : List Setting}
    {o : Options} {source : Source} (asks : Asks arguments given o source)
    (spells : Arguments.Spells fewer (withoutQuestions given)) :
    Asks fewer (Dump.withoutQuestions given) o.withoutQuestions source where
  spells := spells
  onePath := by
    rw [valuesOf_withoutQuestions]
    exact asks.onePath
  options := by
    obtain ⟨path, noEmptyPath, fixture, _, _, json, delimiter, noHelp⟩ := asks.options
    constructor <;> rw [valuesOf_withoutQuestions] <;> first | assumption | rfl
  source := asks.source

theorem report_withoutQuestions {source : Source} {files : Files}
    {ls : List (Locator String)} (lists : source.Lists files ls) (path : String) (o : Options) :
    report path o.withoutQuestions (source.contents files) =
      ⟨0, dump o (Region.ofList ls), ""⟩ := by
  have unasked : answers o.withoutQuestions ls = [] := rfl
  have nothing : Text.unlines [] = "" := rfl
  rw [report_of_lists lists, unasked, nothing, String.append_empty]
  rfl

/-! ## The outcome -/

/-- What is printed goes to one stream, and the exit code says to which.  Usage is wrong
whatever the files are, and help is given whatever they are.  Else some listing is asked
for, and the command fails just in case that one is rejected.  If it is not, the command
prints what it prints without its questions, and then the answers by a scan over the
listing, each group in the order of the arguments. -/
theorem run_outcome (arguments : List String) (files : Files) :
    ((run arguments files).exit ≠ 0 → (run arguments files).stdout = "") ∧
      ((run arguments files).exit = 0 → (run arguments files).stderr = "") ∧
      (∀ others, (run arguments others).exit = 2 ↔ (run arguments files).exit = 2) ∧
      (Arguments.HelpWanted arguments → run arguments files = ⟨0, help, ""⟩) ∧
      ((run arguments files).exit ≠ 2 → ¬Arguments.HelpWanted arguments →
        ∃ given o source, Asks arguments given o source ∧
          ((run arguments files).exit = 1 ↔ source.Rejected files) ∧
          ∀ ls, source.Lists files ls → ∃ fewer, fewer.Sublist arguments ∧
            Arguments.Spells fewer (withoutQuestions given) ∧
            run fewer files = ⟨0, dump o (Region.ofList ls), ""⟩ ∧
            run arguments files =
              ⟨0, dump o (Region.ofList ls) ++ Text.unlines (answers o ls), ""⟩) := by
  refine ⟨(run_oneStream arguments files).1, (run_oneStream arguments files).2, ?_, ?_, ?_⟩
  · intro others
    rw [run_exit_eq_two_iff, run_exit_eq_two_iff]
  · intro helpWanted
    exact run_of_done (plan_of_helpWanted helpWanted) files
  · intro used unhelped
    rcases plan_cases arguments with helpWanted | misused | ⟨given, o, source, asks⟩
    · exact absurd helpWanted unhelped
    · exact absurd (run_exit_eq_two_iff.2 misused) used
    · refine ⟨given, o, source, asks, ?_, ?_⟩
      · rw [asks.run_eq]
        exact report_exit_eq_one_iff
      · intro ls lists
        obtain ⟨fewer, sublist, spells⟩ := exists_spells_withoutQuestions asks.spells
        refine ⟨fewer, sublist, spells, ?_, ?_⟩
        · rw [(asks.withoutQuestions spells).run_eq, report_withoutQuestions lists]
        · rw [asks.run_eq, report_of_lists lists]

def oneListing (text : String) : Files where
  bundled := "/fixtures"
  readBytes path := if path = "/home/list" then .ok text.toUTF8 else .error .missing

/-- The name of a bundled listing is a whole path here, and so names any file. -/
theorem run_outcome_of_interleaved_questions :
    (run ["-cb/c", "--fixture=/home/list", "-ia", "--json", "-c", "a"]
        (oneListing "b\na/b # deep\n")).exit ≠ 2 ∧
      ∃ fewer printed,
        fewer.Sublist ["-cb/c", "--fixture=/home/list", "-ia", "--json", "-c", "a"] ∧
        run fewer (oneListing "b\na/b # deep\n") =
          ⟨0, printed, ""⟩ ∧
        run ["-cb/c", "--fixture=/home/list", "-ia", "--json", "-c", "a"]
            (oneListing "b\na/b # deep\n") =
          ⟨0, printed ++ "intersects a: true\ncontains b/c: true\ncontains a: false\n",
            ""⟩ := by
  have read : Arguments.read ["-cb/c", "--fixture=/home/list", "-ia", "--json", "-c", "a"] =
      .ok ⟨none, some "/home/list", [⟨["a"]⟩], [⟨["b", "c"]⟩, ⟨["a"]⟩], true, none⟩ := by
    decide +kernel
  have unhelped : ¬Arguments.HelpWanted
      ["-cb/c", "--fixture=/home/list", "-ia", "--json", "-c", "a"] := by
    rw [← Arguments.read_eq_help_iff, read]
    exact fun failed => nomatch failed
  have lists : (Source.bundled "/home/list").Lists
      (oneListing "b\na/b # deep\n") [⟨["b"]⟩, ⟨["a", "b"]⟩] :=
    ⟨"b\na/b # deep\n", by decide +kernel, by cbv⟩
  have used : (run ["-cb/c", "--fixture=/home/list", "-ia", "--json", "-c", "a"]
      (oneListing "b\na/b # deep\n")).exit ≠ 2 := by
    rw [Ne, run_exit_eq_two_iff, plan_of_read read]
    rintro ⟨e, misused⟩
    cases misused
  refine ⟨used, ?_⟩
  obtain ⟨_, _, _, _, answered⟩ := run_outcome
    ["-cb/c", "--fixture=/home/list", "-ia", "--json", "-c", "a"]
    (oneListing "b\na/b # deep\n")
  obtain ⟨given, o, source, asks, _, success⟩ := answered used unhelped
  have planned := asks.plan_eq
  rw [plan_of_read read] at planned
  cases planned
  obtain ⟨fewer, sublist, _, plain, full⟩ := success _ lists
  exact ⟨fewer, _, sublist, plain, full⟩

end Hierarchy.Dump
