import Hierarchy.Locator.Render

/-!
# Splitting a locator's text again

The text of a locator puts the delimiter between its tokens, empty ones included.  The text
with a delimiter of choice is what a single pass over the tokens writes, and the plain text
is the one with slashes.  As long as no token holds the delimiter, splitting the text at it gives the tokens
back, so different locators have different texts (`delimited_splits_back`).
-/

set_option autoImplicit false

namespace Hierarchy.Locator

section Texts

variable {α : Type} [Token α]

def texts (l : Locator α) : List String :=
  l.tokens.map fun token => String.ofList (Token.text token)

theorem texts_cons (token : α) (tokens : List α) :
    texts ⟨token :: tokens⟩ = String.ofList (Token.text token) :: texts ⟨tokens⟩ := rfl

theorem texts_append (a b : Locator α) : (a ++ b).texts = a.texts ++ b.texts :=
  List.map_append

theorem texts_ne_nil {l : Locator α} (below : l ≠ root) : l.texts ≠ [] := by
  intro noTexts
  exact below (eq_iff_tokens_eq.2 (List.map_eq_nil_iff.1 noTexts))

theorem texts_of_string (l : Locator String) : l.texts = l.tokens := by
  simp [texts, Token.text]

theorem delimited_eq_intercalate (l : Locator α) (delimiter : String) :
    l.delimited delimiter = delimiter.intercalate l.texts := by
  rw [← String.toList_inj, delimited, String.toList_ofList, String.toList_intercalate, join]
  simp [texts, Function.comp_def]

theorem delimited_append {a b : Locator α} (delimiter : String) (aBelow : a ≠ root)
    (bBelow : b ≠ root) :
    (a ++ b).delimited delimiter = a.delimited delimiter ++ delimiter ++ b.delimited delimiter := by
  simp only [delimited_eq_intercalate, texts_append]
  exact String.intercalate_append_of_ne_nil (texts_ne_nil aBelow) (texts_ne_nil bBelow)

/-! ## One pass over the tokens -/

/-- Writes tokens behind `out`, the first of them having the given number.  The delimiter
goes before each token but the one with number 0. -/
def writeFrom (delimiter : String) (number : Nat) (out : String) : List α → String
  | [] => out
  | token :: rest =>
      let separated := if 0 < number then out ++ delimiter else out
      writeFrom delimiter (number + 1) (separated ++ String.ofList (Token.text token)) rest

def write (delimiter : String) (l : Locator α) : String := writeFrom delimiter 0 "" l.tokens

theorem writeFrom_of_pos (delimiter : String) {number : Nat} (later : 0 < number) (out : String)
    (tokens : List α) :
    writeFrom delimiter number out tokens = delimiter.intercalate (out :: texts ⟨tokens⟩) := by
  induction tokens generalizing number out with
  | nil => exact String.intercalate_singleton.symm
  | cons token rest ih =>
      rw [writeFrom, if_pos later, ih (Nat.succ_pos number), texts_cons,
        String.intercalate_cons_cons, String.intercalate_cons_append]

theorem delimited_eq_write (l : Locator α) (delimiter : String) :
    l.delimited delimiter = l.write delimiter := by
  rw [delimited_eq_intercalate, write]
  obtain ⟨tokens⟩ := l
  cases tokens with
  | nil => exact String.intercalate_nil
  | cons token rest =>
      rw [writeFrom, if_neg (Nat.lt_irrefl 0), writeFrom_of_pos delimiter (Nat.succ_pos 0),
        texts_cons, String.empty_append]

end Texts

/-! ## Splitting -/

theorem split_delimited {c : Char} {l : Locator String} (below : l ≠ root)
    (free : ∀ t ∈ l.tokens, c ∉ t.toList) :
    ((l.delimited (String.singleton c)).split c).toList.map (·.copy) = l.tokens := by
  have nonempty := texts_ne_nil below
  rw [texts_of_string] at nonempty
  rw [delimited_eq_intercalate, texts_of_string, String.toList_split_intercalate free,
    if_neg nonempty]

/-- Splitting a text at its delimiter gives the tokens back if none of them holds it, and so
tells such locators apart.  The text of a place reached through another is the text of the
other, a delimiter, and the text of the rest; the plain text is the one with slashes. -/
theorem delimited_splits_back :
    (∀ (c : Char) (l : Locator String), l ≠ root → (∀ t ∈ l.tokens, c ∉ t.toList) →
      ((l.delimited (String.singleton c)).split c).toList.map (·.copy) = l.tokens ∧
        ∀ k : Locator String, k ≠ root → (∀ t ∈ k.tokens, c ∉ t.toList) →
          (l.delimited (String.singleton c) = k.delimited (String.singleton c) ↔ l = k)) ∧
      ∀ {α : Type} [Token α],
        (∀ (delimiter : String) (a b : Locator α), a ≠ root → b ≠ root →
          (a ++ b).delimited delimiter =
            a.delimited delimiter ++ delimiter ++ b.delimited delimiter) ∧
        ∀ l : Locator α, l.display = l.delimited "/" ∧
          ∀ delimiter, l.delimited delimiter = l.write delimiter := by
  refine ⟨?_, ?_⟩
  · intro c l below free
    refine ⟨split_delimited below free, ?_⟩
    intro k kBelow kFree
    constructor
    · intro same
      have pieces := split_delimited kBelow kFree
      rw [← same, split_delimited below free] at pieces
      exact eq_iff_tokens_eq.2 pieces
    · rintro rfl
      rfl
  · intro α _
    refine ⟨fun delimiter a b => delimited_append delimiter, ?_⟩
    intro l
    exact ⟨display_eq_delimited l, delimited_eq_write l⟩

theorem delimited_splits_back_of_empty_tokens :
    delimited (⟨["", "a/b", "", ""]⟩ : Locator String) (String.singleton ',') = ",a/b,," ∧
      (",a/b,,".split ',').toList.map (·.copy) = ["", "a/b", "", ""] ∧
      delimited (⟨["a/b", "", "", ""]⟩ : Locator String) (String.singleton ',') ≠ ",a/b,," ∧
      delimited (⟨["a"]⟩ ++ ⟨["", "b"]⟩ : Locator String) ", " = "a" ++ ", " ++ ", b" := by
  have text : delimited (⟨["", "a/b", "", ""]⟩ : Locator String) (String.singleton ',') =
      ",a/b,," := by decide +kernel
  have free : ∀ t ∈ ["", "a/b", "", ""], ',' ∉ t.toList := by decide
  have otherFree : ∀ t ∈ ["a/b", "", "", ""], ',' ∉ t.toList := by decide
  obtain ⟨pieces, alike⟩ := delimited_splits_back.1 ',' ⟨["", "a/b", "", ""]⟩ (by decide) free
  have joined := (delimited_splits_back.2 (α := String)).1 ", " ⟨["a"]⟩ ⟨["", "b"]⟩ (by decide)
    (by decide)
  rw [text] at pieces
  refine ⟨text, pieces, ?_, joined⟩
  rw [← text, ne_comm, Ne, alike ⟨["a/b", "", "", ""]⟩ (by decide) otherFree]
  decide

end Hierarchy.Locator
