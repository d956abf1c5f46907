import Hierarchy.Proofs.Json.Reader
import Mathlib.Data.List.Forall2

/-!
# JSON lists are read back

A list is read back from its text if each of its items is, whether it is written on one line
or over several: between items there is a comma and perhaps blanks (`Reads.list`).
-/

set_option autoImplicit false

namespace Hierarchy.Json

/-! ## The text of a list -/

structure IsJsonLayout (style : Text.Layout) : Prop where
  separator : style.separator = [',']
  final : style.final = []

theorem isJsonLayout_compact : IsJsonLayout compact := ⟨rfl, rfl⟩

theorem isJsonLayout_tall : IsJsonLayout tall := ⟨rfl, rfl⟩

theorem isBlanks_lineBreak (style : Text.Layout) (depth : Nat) :
    IsBlanks (style.lineBreak depth) := by
  unfold Text.Layout.lineBreak
  split
  · exact isBlanks_nil
  · intro c inside
    rcases List.mem_cons.1 inside with rfl | space
    · decide
    · rw [List.eq_of_mem_replicate space]
      decide

def furtherItems (style : Text.Layout) (depth : Nat) (texts : List (List Char)) : List Char :=
  texts.flatMap fun text => ',' :: (style.lineBreak depth ++ text)

theorem items_cons {style : Text.Layout} (json : IsJsonLayout style) (depth : Nat)
    (text : List Char) (texts : List (List Char)) :
    style.items depth (text :: texts) =
      style.lineBreak depth ++ (text ++ furtherItems style depth texts) := by
  induction texts generalizing text with
  | nil => simp [Text.Layout.items, furtherItems]
  | cons next texts ih =>
      simp [Text.Layout.items, ih, furtherItems, json.separator]

/-! ## Reading its items -/

section List

variable {α : Type} {item : Reader α}

theorem itemsAfter_closing {before : List Char} (blanks : IsBlanks before) (rest : List Char) :
    itemsAfter item (before ++ ']' :: rest) = .ok ([], rest) := by
  have closing : skipBlanks (before ++ ']' :: rest) = ']' :: rest := skipBlanks_append blanks _
  rw [itemsAfter]
  split <;> simp_all

theorem itemsAfter_comma {before text left rest : List Char} {value : α} {values : List α}
    (blanks : IsBlanks before) (reads : Reads item text value) (ends : EndsValue left)
    (following : itemsAfter item left = .ok (values, rest)) :
    itemsAfter item (',' :: (before ++ (text ++ left))) = .ok (value :: values, rest) := by
  obtain ⟨c, cs, next, notClosing⟩ := reads.starts.skipBlanks_eq_cons blanks left
  have found := reads.run_eq blanks ends
  have comma : skipBlanks (',' :: (before ++ (text ++ left))) =
      ',' :: (before ++ (text ++ left)) := rfl
  rw [itemsAfter]
  split
  case h_3 tail split =>
    obtain rfl := (List.cons.inj (comma.symm.trans split)).2
    simp only [next]
    split
    case h_1 empty => contradiction
    case h_2 closing => exact absurd (List.cons.inj closing).1 notClosing
    case h_3 =>
      split
      case h_1 e failed =>
        rw [found] at failed
        contradiction
      case h_2 first after success =>
        rw [found] at success
        cases success
        simp only [following]
  all_goals simp_all

theorem items_item {before text left rest : List Char} {value : α} {values : List α}
    (blanks : IsBlanks before) (reads : Reads item text value) (ends : EndsValue left)
    (following : itemsAfter item left = .ok (values, rest)) :
    items item (before ++ (text ++ left)) = .ok (value :: values, rest) := by
  obtain ⟨c, cs, next, notClosing⟩ := reads.starts.skipBlanks_eq_cons blanks left
  rw [items, next]
  split
  case h_1 empty => contradiction
  case h_2 closing => exact absurd (List.cons.inj closing).1 notClosing
  case h_3 => simp only [reads.run_eq blanks ends, following]

theorem endsValue_furtherItems (style : Text.Layout) (depth : Nat) (texts : List (List Char))
    {before : List Char} (blanks : IsBlanks before) (rest : List Char) :
    EndsValue (furtherItems style depth texts ++ (before ++ ']' :: rest)) := by
  cases texts with
  | nil =>
      rw [furtherItems, List.flatMap_nil, List.nil_append]
      exact endsValue_blanks_append blanks (endsValue_cons (Or.inr (Or.inl rfl)) rest)
  | cons text texts => exact endsValue_cons (Or.inl rfl) _

theorem itemsAfter_furtherItems {style : Text.Layout} {depth : Nat} {texts : List (List Char)}
    {values : List α} (reads : List.Forall₂ (Reads item) texts values) {before : List Char}
    (blanks : IsBlanks before) (rest : List Char) :
    itemsAfter item (furtherItems style depth texts ++ (before ++ ']' :: rest)) =
      .ok (values, rest) := by
  induction reads with
  | nil => exact itemsAfter_closing blanks rest
  | @cons text value texts values first _ ih =>
      have ends := endsValue_furtherItems style depth texts blanks rest
      have comma := itemsAfter_comma (isBlanks_lineBreak style depth) first ends ih
      simpa [furtherItems] using comma

theorem Reads.list {style : Text.Layout} (json : IsJsonLayout style) (depth : Nat)
    {texts : List (List Char)} {values : List α}
    (reads : List.Forall₂ (Reads item) texts values) :
    Reads (list item) (writeList style depth texts) values := by
  cases reads with
  | nil => exact .afterBlanks ⟨'[', [']'], rfl, by decide, by decide⟩ fun rest _ => rfl
  | @cons text value texts values first others =>
      have opened : writeList style depth (text :: texts) =
          '[' :: (style.lineBreak (depth + 1) ++ (text ++
            (furtherItems style (depth + 1) texts ++ (style.lineBreak depth ++ [']'])))) := by
        simp [writeList, Text.Layout.bracket, items_cons json, json.final]
      rw [opened]
      refine .afterBlanks ⟨'[', _, rfl, by decide, by decide⟩ ?_
      intro rest _
      have closing := isBlanks_lineBreak style depth
      have read := items_item (isBlanks_lineBreak style (depth + 1)) first
        (endsValue_furtherItems style (depth + 1) texts closing rest)
        (itemsAfter_furtherItems others closing rest)
      simpa [listAt] using read

end List

end Hierarchy.Json
