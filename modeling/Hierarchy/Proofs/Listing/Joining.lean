import Hierarchy.Proofs.Listing.Acceptance
import Hierarchy.Proofs.Region.Editing

/-!
# Listings that were put together

A listing behind another one that ends where a line does starts a line of its own, and
reading the two together is reading one after the other (`parse_append`).  The only trace
of the first one in the report on the second is in the line number, which counts the lines
of both.
-/

set_option autoImplicit false

namespace Hierarchy

def InvalidLocator.down (e : InvalidLocator) (count : Nat) : InvalidLocator :=
  ⟨e.line + count, e.text⟩

namespace Listing

theorem parseLines_add (number count : Nat) (ls : List (List Char)) :
    parseLines (number + count) ls = (parseLines number ls).mapError (·.down count) := by
  induction ls generalizing number with
  | nil => rfl
  | cons line ls ih =>
      rw [parseLines, parseLines, Nat.add_right_comm, ih]
      cases parseLine line with
      | none => rfl
      | some found =>
          cases parseLines (number + 1) ls with
          | error e => rfl
          | ok more => rfl

theorem parseLines_append (number : Nat) (ls ks : List (List Char)) :
    parseLines number (ls ++ ks) =
      (parseLines number ls).bind fun found =>
        (parseLines (number + ls.length) ks).map (found ++ ·) := by
  induction ls generalizing number with
  | nil =>
      rw [List.nil_append, List.length_nil, Nat.add_zero]
      cases parseLines number ks with
      | error e => rfl
      | ok more => rfl
  | cons line ls ih =>
      rw [List.cons_append, parseLines, parseLines, ih, List.length_cons, Nat.add_comm ls.length,
        Nat.add_assoc]
      cases parseLine line with
      | none => rfl
      | some found =>
          cases parseLines (number + 1) ls with
          | error e => rfl
          | ok more =>
              cases parseLines (number + (1 + ls.length)) ks with
              | error e => rfl
              | ok further => exact congrArg Except.ok (List.append_assoc _ _ _).symm

theorem parse_append_eq {a : String} (closed : Text.Closed a.toList) (b : String) :
    parse (a ++ b) =
      (parse a).bind fun ls =>
        ((parse b).mapError (·.down (Text.lines a.toList).length)).map (ls ++ ·) := by
  rw [parse, parseChars, String.toList_append, Text.lines_append_of_closed closed,
    parseLines_append, parseLines_add]
  rfl

theorem parseRegion_append {a b : String} {r t : Region String} (closed : Text.Closed a.toList)
    (aAccepted : parseRegion a = .ok r) (bAccepted : parseRegion b = .ok t) :
    parseRegion (a ++ b) = .ok (r.union t) := by
  obtain ⟨ls, aParsed, rfl⟩ := parseRegion_eq_ok_iff.1 aAccepted
  obtain ⟨ks, bParsed, rfl⟩ := parseRegion_eq_ok_iff.1 bAccepted
  rw [Region.union_ofList]
  apply parseRegion_eq_ok_iff.2
  refine ⟨ls ++ ks, ?_, rfl⟩
  rw [parse_append_eq closed, aParsed, bParsed]
  rfl

/-- Two listings, of which the first one is empty or ends in a line feed, are read together
as one by one: the first failure is reported, one in the second listing with the lines of
the first one counted too, and otherwise all locators are found in order.  The region of
the two is then the union of their regions. -/
theorem parse_append {a : String} (closed : a.toList = [] ∨ a.toList.getLast? = some '\n')
    (b : String) :
    (∀ e, parse a = .error e → parse (a ++ b) = .error e) ∧
      (∀ ls e, parse a = .ok ls → parse b = .error e →
        parse (a ++ b) = .error ⟨e.line + (Text.lines a.toList).length, e.text⟩) ∧
      (∀ ls ks, parse a = .ok ls → parse b = .ok ks → parse (a ++ b) = .ok (ls ++ ks)) ∧
      ∀ r t, parseRegion a = .ok r → parseRegion b = .ok t →
        parseRegion (a ++ b) = .ok (r.union t) := by
  rw [parse_append_eq closed]
  refine ⟨?_, ?_, ?_, ?_⟩
  · intro e failure
    rw [failure]
    rfl
  · intro ls e success failure
    rw [success, failure]
    rfl
  · intro ls ks aParsed bParsed
    rw [aParsed, bParsed]
    rfl
  · intro r t aAccepted bAccepted
    exact parseRegion_append closed aAccepted bAccepted

theorem parse_append_after_return_feed :
    parse "x/y\r\n# c\n\nb c\n" = .error ⟨4, "b c"⟩ ∧
      parse "x/y\r\n# c\n/x" = .ok [⟨["x", "y"]⟩, ⟨["x"]⟩] ∧
      parse "b c\n/x" = .error ⟨1, "b c"⟩ ∧
      parseRegion "x/y\r\n# c\n/x" = .ok (.union ⟨#[⟨["x", "y"]⟩]⟩ ⟨#[⟨["x"]⟩]⟩) := by
  have closed : Text.Closed "x/y\r\n# c\n".toList := Or.inr (by decide +kernel)
  have badClosed : Text.Closed "b c\n".toList := Or.inr (by decide +kernel)
  have first : parse "x/y\r\n# c\n" = .ok [⟨["x", "y"]⟩] := by decide +kernel
  have region : parseRegion "x/y\r\n# c\n" = .ok ⟨#[⟨["x", "y"]⟩]⟩ := by decide +kernel
  refine ⟨?_, ?_, ?_, ?_⟩
  · exact (parse_append closed "\nb c\n").2.1 _ ⟨2, "b c"⟩ first (by decide +kernel)
  · exact (parse_append closed "/x").2.2.1 _ [⟨["x"]⟩] first (by decide +kernel)
  · exact (parse_append badClosed "/x").1 ⟨1, "b c"⟩ (by decide +kernel)
  · exact (parse_append closed "/x").2.2.2 _ ⟨#[⟨["x"]⟩]⟩ region (by decide +kernel)

end Listing

end Hierarchy
