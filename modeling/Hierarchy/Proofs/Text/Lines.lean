import Hierarchy.Text.Lines

/-!
# Where lines end

`HasLines` says how a text falls into lines without saying how to find them: every line is
free of line feeds and, but for the last one, followed by its end.  A text falls into lines
in one way only, and `lines` finds it (`hasLines_iff`).  What stands behind a text that ends
where a line does falls into lines of its own (`lines_append_of_closed`).
-/

set_option autoImplicit false

namespace Hierarchy.Text

/-- The text falls into these lines.  A carriage return before a line feed belongs to the
end of the line, and the last line may lack an end, but then it is not empty. -/
inductive HasLines : List Char → List (List Char) → Prop where
  | nil : HasLines [] []
  | last {line : List Char} : line ≠ [] → '\n' ∉ line → HasLines line [line]
  | feed {line rest : List Char} {ls : List (List Char)} :
      '\n' ∉ line → line.getLast? ≠ some '\r' → HasLines rest ls →
        HasLines (line ++ '\n' :: rest) (line :: ls)
  | returnFeed {line rest : List Char} {ls : List (List Char)} :
      '\n' ∉ line → HasLines rest ls → HasLines (line ++ '\r' :: '\n' :: rest) (line :: ls)

/-! ## Putting characters in front of the first line -/

theorem lines_cons {c : Char} {rest : List Char} (inside : c ≠ '\n')
    (apart : c = '\r' → rest.head? ≠ some '\n') :
    lines (c :: rest) = prependToLine c (lines rest) := by
  have noEnd : ∀ more, c = '\r' → rest = '\n' :: more → False := by
    intro more isReturn starts
    exact apart isReturn (by rw [starts, List.head?_cons])
  rw [lines.eq_3 c rest noEnd, if_neg inside]

theorem foldr_prependToLine_cons (cs line : List Char) (ls : List (List Char)) :
    cs.foldr prependToLine (line :: ls) = (cs ++ line) :: ls := by
  induction cs with
  | nil => rfl
  | cons c cs ih => rw [List.foldr_cons, ih, prependToLine, List.cons_append]

theorem foldr_prependToLine_nil {cs : List Char} (nonempty : cs ≠ []) :
    cs.foldr prependToLine [] = [cs] := by
  induction cs with
  | nil => exact absurd rfl nonempty
  | cons c cs ih =>
      cases cs with
      | nil => rfl
      | cons d cs => rw [List.foldr_cons, ih (List.cons_ne_nil d cs), prependToLine]

theorem lines_append {line rest : List Char} (noFeed : '\n' ∉ line)
    (apart : line.getLast? = some '\r' → rest.head? ≠ some '\n') :
    lines (line ++ rest) = line.foldr prependToLine (lines rest) := by
  induction line with
  | nil => rfl
  | cons c line ih =>
      obtain ⟨inside, noFeedAfter⟩ := List.ne_and_not_mem_of_not_mem_cons noFeed
      rw [List.cons_append, lines_cons (Ne.symm inside), List.foldr_cons, ih noFeedAfter]
      · intro endsInReturn
        refine apart ?_
        rw [List.getLast?_cons, endsInReturn, Option.getD_some]
      · intro isReturn
        cases line with
        | nil => exact apart (by rw [isReturn, List.getLast?_singleton])
        | cons d line =>
            intro startsWithFeed
            have isFeed : d = '\n' := Option.some.inj startsWithFeed
            exact noFeedAfter (isFeed ▸ List.mem_cons_self)

/-! ## Lines are found -/

theorem HasLines.cons {c : Char} {cs : List Char} {ls : List (List Char)} (inside : c ≠ '\n')
    (apart : c = '\r' → cs.head? ≠ some '\n') (has : HasLines cs ls) :
    HasLines (c :: cs) (prependToLine c ls) := by
  cases has with
  | nil => exact .last (List.cons_ne_nil c []) (by simpa using Ne.symm inside)
  | last nonempty noFeed =>
      exact .last (List.cons_ne_nil c cs) (List.not_mem_cons_of_ne_of_not_mem (Ne.symm inside) noFeed)
  | @feed line rest ls noFeed noReturn has =>
      refine .feed (List.not_mem_cons_of_ne_of_not_mem (Ne.symm inside) noFeed) ?_ has
      cases line with
      | nil =>
          intro isReturn
          exact apart (Option.some.inj isReturn) rfl
      | cons d line => rwa [List.getLast?_cons_cons]
  | returnFeed noFeed has =>
      exact .returnFeed (List.not_mem_cons_of_ne_of_not_mem (Ne.symm inside) noFeed) has

theorem hasLines_lines (cs : List Char) : HasLines cs (lines cs) := by
  fun_induction lines cs with
  | case1 => exact .nil
  | case2 rest ih => exact @HasLines.returnFeed [] rest _ List.not_mem_nil ih
  | case3 rest notReturn ih =>
      exact @HasLines.feed [] rest _ List.not_mem_nil (by simp) ih
  | case4 c rest notEnd inside ih =>
      refine ih.cons inside ?_
      intro isReturn starts
      obtain ⟨more, rfl⟩ := List.head?_eq_some_iff.1 starts
      exact notEnd more isReturn rfl

theorem HasLines.eq_lines {cs : List Char} {ls : List (List Char)} (has : HasLines cs ls) :
    ls = lines cs := by
  induction has with
  | nil => rfl
  | @last line nonempty noFeed =>
      -- nothing follows, so the line is put in front of no line at all
      have whole := @lines_append line [] noFeed (by simp)
      rw [List.append_nil] at whole
      rw [whole, lines, foldr_prependToLine_nil nonempty]
  | @feed line rest ls noFeed noReturn _ ih =>
      rw [lines_append noFeed fun isReturn => absurd isReturn noReturn, lines, if_pos rfl,
        foldr_prependToLine_cons, List.append_nil, ih]
      simp
  | @returnFeed line rest ls noFeed _ ih =>
      rw [lines_append noFeed (by simp), lines, foldr_prependToLine_cons, List.append_nil, ih]

theorem hasLines_iff {cs : List Char} {ls : List (List Char)} :
    HasLines cs ls ↔ ls = lines cs := by
  constructor
  · exact HasLines.eq_lines
  · rintro rfl
    exact hasLines_lines cs

/-! ## Texts that end where a line does -/

/-- The text ends where a line does, so that what is put behind it starts a new line. -/
def Closed (cs : List Char) : Prop := cs = [] ∨ cs.getLast? = some '\n'

theorem closed_of_append_feed {front rest : List Char} (closed : Closed (front ++ '\n' :: rest)) :
    Closed rest := by
  cases rest with
  | nil => exact Or.inl rfl
  | cons c rest =>
      rcases closed with empty | endsInFeed
      · exact absurd empty (List.append_ne_nil_of_right_ne_nil _ (List.cons_ne_nil _ _))
      · rw [List.getLast?_append, List.getLast?_cons_cons, List.getLast?_cons, Option.some_or,
          ← List.getLast?_cons] at endsInFeed
        exact Or.inr endsInFeed

theorem HasLines.append {front back : List Char} {ls ks : List (List Char)}
    (has : HasLines front ls) (closed : Closed front) (backHas : HasLines back ks) :
    HasLines (front ++ back) (ls ++ ks) := by
  induction has with
  | nil => exact backHas
  | last nonempty noFeed =>
      rcases closed with empty | endsInFeed
      · exact absurd empty nonempty
      · exact absurd (List.mem_of_getLast? endsInFeed) noFeed
  | feed noFeed noReturn _ ih =>
      rw [List.append_assoc]
      exact .feed noFeed noReturn (ih (closed_of_append_feed closed))
  | @returnFeed line rest ls noFeed _ ih =>
      rw [List.append_assoc]
      rw [List.append_cons] at closed
      exact .returnFeed noFeed (ih (closed_of_append_feed closed))

theorem lines_append_of_closed {front : List Char} (closed : Closed front) (back : List Char) :
    lines (front ++ back) = lines front ++ lines back :=
  ((hasLines_lines front).append closed (hasLines_lines back)).eq_lines.symm

/-! ## Lines that were put together -/

theorem unlines_append (first second : List String) :
    unlines (first ++ second) = unlines first ++ unlines second := by
  rw [unlines, List.map_append, String.join_append]
  rfl

theorem toList_unlines_cons (text : String) (texts : List String) :
    (unlines (text :: texts)).toList = text.toList ++ '\n' :: (unlines texts).toList := by
  simp [unlines]

theorem hasLines_unlines {texts : List String}
    (closed : ∀ t ∈ texts, '\n' ∉ t.toList ∧ t.toList.getLast? ≠ some '\r') :
    HasLines (unlines texts).toList (texts.map String.toList) := by
  induction texts with
  | nil => exact .nil
  | cons text texts ih =>
      obtain ⟨⟨noFeed, noReturn⟩, others⟩ := List.forall_mem_cons.1 closed
      rw [toList_unlines_cons, List.map_cons]
      exact .feed noFeed noReturn (ih others)

theorem lines_unlines {texts : List String}
    (closed : ∀ t ∈ texts, '\n' ∉ t.toList ∧ t.toList.getLast? ≠ some '\r') :
    lines (unlines texts).toList = texts.map String.toList :=
  (hasLines_unlines closed).eq_lines.symm

end Hierarchy.Text
