import Hierarchy.Dump.Run
import Hierarchy.Proofs.Listing.Acceptance
import Hierarchy.Proofs.Locator.Reading
import Hierarchy.Proofs.Region.Coverage
import Hierarchy.Proofs.Region.Json

/-!
# The dump of a listing is a listing in normal form

The command writes the members of a region in such a way that each line is a written form
of its member, the root included.  So what it prints for a listing is a listing again, and
holds the same region: printing that one changes nothing, and two listings are printed
alike just in case they cover the same places (`dump_normal_form`).
-/

set_option autoImplicit false

namespace Hierarchy

open Locator

/-! ## Listings with a written form to the line -/

theorem Listing.lineForm_of_written {text : List Char} {l : Locator String}
    (written : Written text l) : Listing.LineForm text (some l) := by
  have noSpacing : Listing.IsSpacing [] := fun _ inside => nomatch inside
  simpa using LineForm.locator noSpacing written noSpacing .missing

theorem Listing.forms_of_written {texts : List String} {ls : List (Locator String)}
    (written : List.Forall₂ (fun t l => Written t.toList l) texts ls) :
    List.Forall₂ Listing.LineForm (texts.map String.toList) (ls.map some) := by
  rw [List.forall₂_map_left_iff, List.forall₂_map_right_iff]
  exact written.imp fun _ _ => lineForm_of_written

theorem Listing.closed_of_written {texts : List String} {ls : List (Locator String)}
    (written : List.Forall₂ (fun t l => Written t.toList l) texts ls) :
    ∀ t ∈ texts, '\n' ∉ t.toList ∧ t.toList.getLast? ≠ some '\r' := by
  induction written with
  | nil => exact List.forall_mem_nil _
  | cons first _ ih =>
      refine List.forall_mem_cons.2 ⟨⟨?_, ?_⟩, ih⟩
      · intro feed
        exact absurd (first.not_blank _ feed) (by decide)
      · intro last
        exact absurd (first.not_blank _ (List.mem_of_getLast? last)) (by decide)

theorem Listing.parse_unlines {texts : List String} {ls : List (Locator String)}
    (written : List.Forall₂ (fun t l => Written t.toList l) texts ls) :
    Listing.parse (Text.unlines texts) = .ok ls := by
  have found : (ls.map some).reduceOption = ls := by simp [List.reduceOption]
  rw [parse, parseChars, Text.lines_unlines (closed_of_written written),
    parseLines_eq_ok (forms_of_written written), found]

namespace Dump

theorem written_memberLine {l : Locator String} (named : l.Named) :
    Written (memberLine "/" l).toList l := by
  have text : (memberLine "/" l).toList = if l.isRoot then ['/'] else l.join ['/'] := by
    simp [memberLine, apply_ite String.toList, delimited]
  rw [text]
  exact named.written_join_or_slash

theorem parse_dumpText {r : Region String} (named : ∀ l ∈ r.toList, l.Named) :
    Listing.parse (dumpText "/" r) = .ok r.toList := by
  refine Listing.parse_unlines ?_
  rw [List.forall₂_map_left_iff, List.forall₂_same]
  intro l listed
  exact written_memberLine (named l listed)

structure Options.Plain (o : Options) : Prop where
  json : o.json = false
  delimiter : o.delimiter = "/"
  overlaps : o.overlaps = []
  covers : o.covers = []

theorem report_plain {o : Options} (plain : o.Plain) (path : String) {s : String}
    {r : Region String} (accepted : Listing.parseRegion s = .ok r) :
    report path o (.ok s) = ⟨0, dumpText "/" r, ""⟩ := by
  have noVerdicts : verdicts o r = [] := by
    rw [verdicts, plain.overlaps, plain.covers]
    rfl
  simp [report, accepted, dump, plain.json, plain.delimiter, noVerdicts, Text.unlines]

theorem report_json {o : Options} (plain : o.Plain) (path : String) {s : String}
    {r : Region String} (accepted : Listing.parseRegion s = .ok r) :
    report path { o with json := true } (.ok s) = ⟨0, r.toJson Json.tall ++ "\n", ""⟩ := by
  have noVerdicts : verdicts { o with json := true } r = [] := by
    rw [verdicts, plain.overlaps, plain.covers]
    rfl
  simp [report, accepted, dump, noVerdicts, Text.unlines]

theorem parseRegion_dumpText {s : String} {r : Region String}
    (accepted : Listing.parseRegion s = .ok r) :
    Listing.parseRegion (dumpText "/" r) = .ok r := by
  have parsed := parse_dumpText fun l => Listing.named_of_parseRegion accepted (l := l)
  obtain ⟨ls, _, rfl⟩ := Listing.parseRegion_eq_ok_iff.1 accepted
  refine Listing.parseRegion_eq_ok_iff.2 ⟨_, parsed, ?_⟩
  exact (Region.reachable_ofList ls).ofList_toList

theorem dumpText_eq_iff {s t : String} {a b : Region String}
    (sAccepted : Listing.parseRegion s = .ok a) (tAccepted : Listing.parseRegion t = .ok b) :
    dumpText "/" b = dumpText "/" a ↔ a = b := by
  constructor
  · intro same
    have again := parseRegion_dumpText sAccepted
    rw [← same, parseRegion_dumpText tAccepted] at again
    exact (Except.ok.inj again).symm
  · rintro rfl
    rfl

/-- What is printed for a listing, without questions and in the usual form, is a listing of
the same region, which is printed without a change.  Two listings are printed alike just in
case their locators cover the same places, and what is printed as JSON is read as the
region too. -/
theorem dump_normal_form {o : Options} (plain : o.Plain) (path : String) {s : String}
    {r : Region String} (accepted : Listing.parseRegion s = .ok r) :
    ∃ d, report path o (.ok s) = ⟨0, d, ""⟩ ∧ Listing.parseRegion d = .ok r ∧
      report path o (.ok d) = ⟨0, d, ""⟩ ∧
      (∀ (other : String) (k : Region String), Listing.parseRegion other = .ok k →
        ∃ ls ks, Listing.parse s = .ok ls ∧ Listing.parse other = .ok ks ∧
          ((report path o (.ok other)).stdout = d ↔ extent ls = extent ks)) ∧
      Region.ofJson (report path { o with json := true } (.ok s)).stdout = .ok r := by
  have again := parseRegion_dumpText accepted
  refine ⟨dumpText "/" r, report_plain plain path accepted, again,
    report_plain plain path again, ?_, ?_⟩
  · intro other k otherAccepted
    rw [report_plain plain path otherAccepted, dumpText_eq_iff accepted otherAccepted]
    obtain ⟨ls, parsed, rfl⟩ := Listing.parseRegion_eq_ok_iff.1 accepted
    obtain ⟨ks, otherParsed, rfl⟩ := Listing.parseRegion_eq_ok_iff.1 otherAccepted
    exact ⟨ls, ks, parsed, otherParsed, Region.ofList_eq_ofList_iff⟩
  · obtain ⟨ls, _, rfl⟩ := Listing.parseRegion_eq_ok_iff.1 accepted
    rw [report_json plain path accepted]
    have feed : Json.IsBlanks "\n".toList := by simp [Json.IsBlanks, Json.isBlank]
    rw [Region.toJson, Region.ofJson_writeJsonList_append Json.isJsonLayout_tall _ feed,
      (Region.reachable_ofList ls).ofList_toList]

theorem dump_normal_form_of_two_listings :
    (report "list" .none (.ok "b/c # x\r\n/b\na/\u3042")).stdout = "a/\u3042\nb\n" ∧
      Listing.parseRegion "a/\u3042\nb\n" =
        Listing.parseRegion "b/c # x\r\n/b\na/\u3042" ∧
      (report "list" .none (.ok "b\n/ # all\n")).stdout ≠ "a/\u3042\nb\n" := by
  have plain : Options.none.Plain := ⟨rfl, rfl, rfl, rfl⟩
  have accepted : Listing.parseRegion "b/c # x\r\n/b\na/\u3042" =
      .ok ⟨#[⟨["a", "\u3042"]⟩, ⟨["b"]⟩]⟩ := by cbv
  have otherAccepted : Listing.parseRegion "b\n/ # all\n" = .ok ⟨#[root]⟩ := by cbv
  have printed : report "list" .none (.ok "b/c # x\r\n/b\na/\u3042") =
      ⟨0, "a/\u3042\nb\n", ""⟩ := by cbv
  have listed : Listing.parse "b/c # x\r\n/b\na/\u3042" =
      .ok [⟨["b", "c"]⟩, ⟨["b"]⟩, ⟨["a", "\u3042"]⟩] := by cbv
  have otherListed : Listing.parse "b\n/ # all\n" = .ok [⟨["b"]⟩, root] := by cbv
  obtain ⟨d, result, again, _, alike, _⟩ := dump_normal_form plain "list" accepted
  have text : d = "a/\u3042\nb\n" := congrArg Outcome.stdout (result.symm.trans printed)
  subst text
  refine ⟨congrArg Outcome.stdout printed, again.trans accepted.symm, ?_⟩
  obtain ⟨ls, ks, parsed, otherParsed, samePlaces⟩ := alike _ _ otherAccepted
  rw [Ne, samePlaces, Except.ok.inj (parsed.symm.trans listed),
    Except.ok.inj (otherParsed.symm.trans otherListed)]
  intro same
  -- only the second listing covers the root
  have inside : root ∈ extent [⟨["b"]⟩, (root : Locator String)] :=
    mem_extent_of_mem (by simp)
  rw [← same, mem_extent] at inside
  exact absurd inside (by decide)

end Dump

end Hierarchy
