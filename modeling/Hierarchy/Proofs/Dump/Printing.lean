import Hierarchy.Proofs.Dump.Outcome
import Hierarchy.Proofs.Locator.Delimited
import Hierarchy.Proofs.Text.Joined

/-!
# What the dump command prints

As JSON the members are printed as a text that is read back as their region, and otherwise
one to the line, with the delimiter that the arguments give.  Where no token holds that
delimiter nothing is lost: two files are printed alike just in case they cover the same
places (`run_eq_iff_extent_eq`).  With the usual delimiter and without questions what is
printed is a listing in normal form, whichever file it comes from (`run_normal_form`).
-/

set_option autoImplicit false

namespace Hierarchy.Dump

open Locator

variable {arguments : List String} {given : List Setting} {o : Options} {source : Source}
  {files others : Files} {ls ks : List (Locator String)}

/-! ## Options by what is given -/

def delimiterOf (given : List Setting) : String :=
  (Arguments.valuesOf .delimiter given).headD "/"

theorem Asks.delimiter_eq (asks : Asks arguments given o source) :
    o.delimiter = delimiterOf given := by
  have set := asks.options.delimiter
  rw [Options.none, Option.toList_none, List.nil_append] at set
  rw [Options.delimiter, delimiterOf, ← set]
  cases o.delimiter? with
  | none => rfl
  | some delimiter => rfl

theorem Asks.json_eq_false_iff (asks : Asks arguments given o source) :
    o.json = false ↔ Arguments.valuesOf .json given = [] := by
  have set := asks.options.json
  rw [Options.none, Bool.toNat_false, Nat.zero_add] at set
  rw [← Bool.toNat_eq_zero, set, List.length_eq_zero_iff]

theorem Asks.answers_eq_nil (asks : Asks arguments given o source)
    (noOverlaps : Arguments.valuesOf .overlaps given = [])
    (noCovers : Arguments.valuesOf .covers given = []) : answers o ls = [] := by
  have overlaps := asks.options.overlaps
  have covers := asks.options.covers
  rw [noOverlaps] at overlaps
  rw [noCovers] at covers
  simp [Options.none] at overlaps covers
  simp [answers, overlaps, covers]

/-! ## Members and answers -/

/-- As JSON the members take part of the output that is a JSON text of their region. -/
theorem Asks.run_json (asks : Asks arguments given o source) (lists : source.Lists files ls)
    (wanted : Arguments.valuesOf .json given ≠ []) :
    ∃ json, run arguments files = ⟨0, json ++ "\n" ++ Text.unlines (answers o ls), ""⟩ ∧
      Region.ofJson json = .ok (Region.ofList ls) := by
  have chosen : o.json = true := by
    rw [← Bool.not_eq_false, asks.json_eq_false_iff]
    exact wanted
  refine ⟨(Region.ofList ls).toJson Json.tall, ?_, ?_⟩
  · rw [asks.run_eq, report_of_lists lists, dump, if_pos chosen]
  · rw [Region.toJson, Region.ofJson_writeJsonList Json.isJsonLayout_tall,
      (Region.reachable_ofList ls).ofList_toList]

/-- Without JSON there is a line for each member and one for each question. -/
theorem Asks.run_text (asks : Asks arguments given o source) (lists : source.Lists files ls)
    (unwanted : Arguments.valuesOf .json given = []) :
    run arguments files =
      ⟨0, Text.unlines ((Region.ofList ls).toList.map (memberLine (delimiterOf given)) ++
        answers o ls), ""⟩ := by
  have chosen : ¬o.json = true := by
    rw [Bool.not_eq_true]
    exact asks.json_eq_false_iff.2 unwanted
  rw [asks.run_eq, report_of_lists lists, dump, if_neg chosen, asks.delimiter_eq, dumpText,
    Text.unlines_append]

/-! ## Members told apart by their lines -/

def Free (c : Char) (ls : List (Locator String)) : Prop := ∀ l ∈ ls, ∀ t ∈ l.tokens, c ∉ t.toList

/-- What the line of a member splits into.  The line of the root is a delimiter alone. -/
def lineTokens (l : Locator String) : List String := if l.isRoot then ["", ""] else l.tokens

section Lines

variable {c : Char} {l k : Locator String}

theorem memberLine_singleton (c : Char) (l : Locator String) :
    memberLine (String.singleton c) l = delimited ⟨lineTokens l⟩ (String.singleton c) := by
  by_cases top : l.isRoot = true
  · rw [memberLine, if_pos top, lineTokens, if_pos top, delimited_eq_intercalate,
      texts_of_string, String.intercalate_cons_cons, String.intercalate_singleton,
      String.empty_append, String.append_empty]
  · rw [memberLine, if_neg top, lineTokens, if_neg top]

theorem split_memberLine (free : ∀ t ∈ l.tokens, c ∉ t.toList) :
    ((memberLine (String.singleton c) l).split c).toList.map (·.copy) = lineTokens l := by
  rw [memberLine_singleton]
  by_cases top : l.isRoot = true
  · rw [lineTokens, if_pos top]
    exact split_delimited (l := ⟨["", ""]⟩) (by decide) (by simp)
  · rw [lineTokens, if_neg top]
    exact split_delimited (isRoot_iff.not.1 top) free

/-- Only the line of the root has an empty part. -/
theorem empty_mem_lineTokens_iff (named : l.Named) : "" ∈ lineTokens l ↔ l.isRoot = true := by
  by_cases top : l.isRoot = true
  · simp [lineTokens, top]
  · rw [lineTokens, if_neg top]
    have noEmpty : "" ∉ l.tokens := fun listed => (named "" listed).1 rfl
    exact iff_of_false noEmpty top

theorem eq_of_memberLine_eq (lNamed : l.Named) (kNamed : k.Named)
    (lFree : ∀ t ∈ l.tokens, c ∉ t.toList) (kFree : ∀ t ∈ k.tokens, c ∉ t.toList)
    (same : memberLine (String.singleton c) l = memberLine (String.singleton c) k) : l = k := by
  have parts : lineTokens l = lineTokens k := by
    rw [← split_memberLine lFree, same, split_memberLine kFree]
  have roots : l.isRoot = true ↔ k.isRoot = true := by
    rw [← empty_mem_lineTokens_iff lNamed, parts, empty_mem_lineTokens_iff kNamed]
  by_cases top : l.isRoot = true
  · rw [isRoot_iff.1 top, isRoot_iff.1 (roots.1 top)]
  · rw [lineTokens, if_neg top, lineTokens, if_neg (roots.not.1 top)] at parts
    exact eq_iff_tokens_eq.2 parts

theorem eq_or_visible_of_mem_memberLine (named : l.Named) {x : Char}
    (inside : x ∈ (memberLine (String.singleton c) l).toList) :
    x = c ∨ Text.isBlank x = false := by
  by_cases top : l.isRoot = true
  · rw [memberLine, if_pos top] at inside
    exact Or.inl (by simpa using inside)
  · rw [memberLine, if_neg top, delimited, String.toList_ofList] at inside
    obtain between | ⟨text, listed, held⟩ := Text.mem_of_mem_intercalate inside
    · exact Or.inl (by simpa using between)
    · obtain ⟨t, member, rfl⟩ := List.mem_map.1 listed
      exact Or.inr ((named t member).2 x held).2.2

end Lines

def Lined (c : Char) (line : String) (l : Locator String) : Prop :=
  line = memberLine (String.singleton c) l ∧ l.Named ∧ ∀ t ∈ l.tokens, c ∉ t.toList

theorem rightUnique_lined (c : Char) : Relator.RightUnique (Lined c) := by
  rintro line l k ⟨rfl, lNamed, lFree⟩ ⟨same, kNamed, kFree⟩
  exact eq_of_memberLine_eq lNamed kNamed lFree kFree same

theorem lined_members {c : Char} {r : Region String} (named : ∀ l ∈ r.toList, l.Named)
    (free : Free c r.toList) :
    List.Forall₂ (Lined c) (r.toList.map (memberLine (String.singleton c))) r.toList := by
  rw [List.forall₂_map_left_iff, List.forall₂_same]
  intro l member
  exact ⟨rfl, named l member, free l member⟩

theorem lines_dumpText {c : Char} (noFeed : c ≠ '\n') (noReturn : c ≠ '\r') {r : Region String}
    (named : ∀ l ∈ r.toList, l.Named) :
    Text.lines (dumpText (String.singleton c) r).toList =
      (r.toList.map (memberLine (String.singleton c))).map String.toList := by
  refine Text.lines_unlines ?_
  intro line listed
  obtain ⟨l, member, rfl⟩ := List.mem_map.1 listed
  have characters {x : Char} := @eq_or_visible_of_mem_memberLine c l (named l member) x
  constructor
  · intro feed
    rcases characters feed with same | visible
    · exact noFeed same.symm
    · exact absurd visible (by decide)
  · intro last
    rcases characters (List.mem_of_getLast? last) with same | visible
    · exact noReturn same.symm
    · exact absurd visible (by decide)

theorem eq_of_dumpText_eq {c : Char} (noFeed : c ≠ '\n') (noReturn : c ≠ '\r')
    {a b : Region String} (aNamed : ∀ l ∈ a.toList, l.Named) (bNamed : ∀ l ∈ b.toList, l.Named)
    (aFree : Free c a.toList) (bFree : Free c b.toList)
    (same : dumpText (String.singleton c) a = dumpText (String.singleton c) b) : a = b := by
  have lines := lines_dumpText noFeed noReturn aNamed
  rw [same, lines_dumpText noFeed noReturn bNamed] at lines
  have texts := (List.map_inj_right fun _ _ => String.toList_inj.1).1 lines
  have lined := lined_members bNamed bFree
  rw [texts] at lined
  exact Region.eq_iff_toList_eq.2 ((rightUnique_lined c).forall₂ (lined_members aNamed aFree) lined)

/-! ## Files told apart by what is printed -/

theorem Source.Lists.named (lists : source.Lists files ls) :
    ∀ l ∈ (Region.ofList ls).toList, l.Named := by
  intro l member
  obtain ⟨text, _, listed⟩ := lists
  exact Listing.named_of_mem_parse listed (Region.mem_of_mem_ofList member)

theorem Source.Lists.accepted (lists : source.Lists files ls) :
    ∃ text, Listing.parseRegion text = .ok (Region.ofList ls) := by
  obtain ⟨text, _, listed⟩ := lists
  exact ⟨text, Listing.parseRegion_eq_ok_iff.2 ⟨ls, listed, rfl⟩⟩

/-- The form in which the members are printed loses nothing: it is JSON, or the delimiter is a
character that is part of no token and ends no line. -/
def Lossless (given : List Setting) (ls : List (Locator String)) : Prop :=
  Arguments.valuesOf .json given ≠ [] ∨
    ∃ c, delimiterOf given = String.singleton c ∧ c ≠ '\n' ∧ c ≠ '\r' ∧ Free c ls

theorem ofList_eq_of_json_eq (asks : Asks arguments given o source)
    (unasked : ∀ listed, answers o listed = []) (wanted : Arguments.valuesOf .json given ≠ [])
    (lists : source.Lists files ls) (otherLists : source.Lists others ks)
    (same : run arguments files = run arguments others) :
    Region.ofList ls = Region.ofList ks := by
  obtain ⟨json, printed, back⟩ := asks.run_json lists wanted
  obtain ⟨otherJson, otherPrinted, otherBack⟩ := asks.run_json otherLists wanted
  rw [printed, otherPrinted, unasked, unasked] at same
  have texts : json = otherJson := by simpa [Text.unlines] using same
  rw [texts, otherBack] at back
  exact (Except.ok.inj back).symm

theorem ofList_eq_of_text_eq (asks : Asks arguments given o source)
    (unasked : ∀ listed, answers o listed = []) (unwanted : Arguments.valuesOf .json given = [])
    {c : Char} (delimiter : delimiterOf given = String.singleton c) (noFeed : c ≠ '\n')
    (noReturn : c ≠ '\r') (free : Free c (ls ++ ks)) (lists : source.Lists files ls)
    (otherLists : source.Lists others ks) (same : run arguments files = run arguments others) :
    Region.ofList ls = Region.ofList ks := by
  rw [asks.run_text lists unwanted, asks.run_text otherLists unwanted, unasked, unasked,
    List.append_nil, List.append_nil, delimiter] at same
  refine eq_of_dumpText_eq noFeed noReturn lists.named otherLists.named ?_ ?_
    (congrArg Outcome.stdout same)
  · intro l member
    exact free l (List.mem_append_left ks (Region.mem_of_mem_ofList member))
  · intro l member
    exact free l (List.mem_append_right ls (Region.mem_of_mem_ofList member))

/-- Without questions, what is printed for two files is the same just in case their listings
cover the same places. -/
theorem run_eq_iff_extent_eq (asks : Asks arguments given o source)
    (noOverlaps : Arguments.valuesOf .overlaps given = [])
    (noCovers : Arguments.valuesOf .covers given = []) (lists : source.Lists files ls)
    (otherLists : source.Lists others ks) (lossless : Lossless given (ls ++ ks)) :
    run arguments files = run arguments others ↔ extent ls = extent ks := by
  have unasked (listed : List (Locator String)) : answers o listed = [] :=
    asks.answers_eq_nil noOverlaps noCovers
  rw [← Region.ofList_eq_ofList_iff]
  constructor
  · intro same
    by_cases unwanted : Arguments.valuesOf .json given = []
    · obtain ⟨c, delimiter, noFeed, noReturn, free⟩ := lossless.resolve_left (absurd unwanted)
      exact ofList_eq_of_text_eq asks unasked unwanted delimiter noFeed noReturn free lists
        otherLists same
    · exact ofList_eq_of_json_eq asks unasked unwanted lists otherLists same
  · intro same
    rw [asks.run_eq, asks.run_eq, report_of_lists lists, report_of_lists otherLists, same, unasked,
      unasked]

/-! ## The usual form -/

def Bare (given : List Setting) : Prop :=
  ∀ setting ∈ given, setting.1 = .path ∨ setting.1 = .fixture

theorem Bare.valuesOf_eq_nil (bare : Bare given) (slot : Slot)
    (noPath : slot ≠ .path) (noFixture : slot ≠ .fixture) :
    Arguments.valuesOf slot given = [] := by
  rw [Arguments.valuesOf, List.map_eq_nil_iff, List.filter_eq_nil_iff]
  intro setting listed
  rcases bare setting listed with same | same <;> simp [same, noPath.symm, noFixture.symm]

theorem Asks.withJson (asks : Asks arguments given o source)
    (unwanted : Arguments.valuesOf .json given = []) :
    Asks ("--json" :: arguments) ((.json, "") :: given) { o with json := true } source where
  spells := .single (.flag (@Arguments.Names.long "json".toList .json rfl)) asks.spells
  onePath := asks.onePath
  options := by
    obtain ⟨path, noEmptyPath, fixture, overlaps, covers, _, delimiter, noHelp⟩ := asks.options
    refine ⟨path, noEmptyPath, fixture, overlaps, covers, ?_, delimiter, noHelp⟩
    rw [Arguments.valuesOf_cons, if_pos rfl, unwanted]
    rfl
  source := asks.source

/-- Where nothing is given but the listing to read, what is printed is a listing of the same
region, and the command prints it again for every file that holds it.  What is printed for
another listing is the same just in case that one covers the same places, and with JSON asked
for as well, what is printed is read as the region too. -/
theorem run_normal_form (asks : Asks arguments given o source) (bare : Bare given)
    (lists : source.Lists files ls) :
    ∃ d, run arguments files = ⟨0, d, ""⟩ ∧ Listing.parseRegion d = .ok (Region.ofList ls) ∧
      (∀ others, source.bytes others = .ok d.toUTF8 → run arguments others = ⟨0, d, ""⟩) ∧
      (∀ others ks, source.Lists others ks →
        (run arguments others = ⟨0, d, ""⟩ ↔ extent ls = extent ks)) ∧
      ∃ json, run ("--json" :: arguments) files = ⟨0, json ++ "\n", ""⟩ ∧
        Region.ofJson json = .ok (Region.ofList ls) := by
  have noOverlaps := bare.valuesOf_eq_nil .overlaps nofun nofun
  have noCovers := bare.valuesOf_eq_nil .covers nofun nofun
  have noJson := bare.valuesOf_eq_nil .json nofun nofun
  have slash : delimiterOf given = "/" := by
    rw [delimiterOf, bare.valuesOf_eq_nil .delimiter nofun nofun]
    rfl
  have printed {others : Files} {ks : List (Locator String)} (held : source.Lists others ks) :
      run arguments others = ⟨0, dumpText "/" (Region.ofList ks), ""⟩ := by
    rw [asks.run_text held noJson, asks.answers_eq_nil noOverlaps noCovers, List.append_nil,
      slash, dumpText]
  obtain ⟨text, accepted⟩ := lists.accepted
  refine ⟨_, printed lists, parseRegion_dumpText accepted, ?_, ?_, ?_⟩
  · intro others held
    have again : source.Lists others (Region.ofList ls).toList :=
      ⟨_, held, parse_dumpText lists.named⟩
    rw [printed again, (Region.reachable_ofList ls).ofList_toList]
  · intro others ks held
    obtain ⟨otherText, otherAccepted⟩ := held.accepted
    rw [printed held, Outcome.mk.injEq, dumpText_eq_iff accepted otherAccepted,
      Region.ofList_eq_ofList_iff]
    simp
  · have wanted : Arguments.valuesOf .json ((.json, "") :: given) ≠ [] := by
      simp [Arguments.valuesOf_cons]
    obtain ⟨json, output, back⟩ := (asks.withJson noJson).run_json lists wanted
    rw [(asks.withJson noJson).answers_eq_nil noOverlaps noCovers] at output
    refine ⟨json, ?_, back⟩
    rw [output, Text.unlines, List.map_nil, String.join_nil, String.append_empty]

end Hierarchy.Dump
