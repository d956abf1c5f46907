import Hierarchy.Json.Value

/-!
# What a reader finds in its place

A written value is followed by more text: the rest of a list, blanks, or nothing.  `Reads`
says that a reader finds the value wherever its text stands between such neighbours and
stops right behind it.  This is what readers built from others keep, and a codec is lawful
if it holds of everything that the codec writes.
-/

set_option autoImplicit false

namespace Hierarchy.Json

def IsBlanks (cs : List Char) : Prop := ∀ c ∈ cs, isBlank c = true

instance (cs : List Char) : Decidable (IsBlanks cs) :=
  inferInstanceAs (Decidable (∀ c ∈ cs, isBlank c = true))

/-- What may come after a value: no character that could go on with a number. -/
def EndsValue (rest : List Char) : Prop :=
  ∀ c ∈ rest.head?, c = ',' ∨ c = ']' ∨ isBlank c = true

def StartsValue (text : List Char) : Prop :=
  ∃ c cs, text = c :: cs ∧ isBlank c = false ∧ c ≠ ']'

/-- Wherever the text stands, the reader finds the value there and stops behind it. -/
structure Reads {α : Type} (reader : Reader α) (text : List Char) (value : α) : Prop where
  starts : StartsValue text
  run_eq : ∀ {before rest : List Char}, IsBlanks before → EndsValue rest →
    reader.run (before ++ (text ++ rest)) = .ok (value, rest)

theorem isBlanks_nil : IsBlanks [] := fun _ inside => nomatch inside

theorem skipBlanks_append {before : List Char} (blanks : IsBlanks before) (cs : List Char) :
    skipBlanks (before ++ cs) = skipBlanks cs :=
  List.dropWhile_append_of_pos blanks

theorem skipBlanks_eq_nil {cs : List Char} (blanks : IsBlanks cs) : skipBlanks cs = [] := by
  have skipped := skipBlanks_append blanks []
  rwa [List.append_nil] at skipped

theorem StartsValue.skipBlanks_append {text : List Char} (starts : StartsValue text)
    (rest : List Char) : skipBlanks (text ++ rest) = text ++ rest := by
  obtain ⟨c, cs, rfl, visible, _⟩ := starts
  exact List.dropWhile_cons_of_neg (by simp [visible])

theorem StartsValue.skipBlanks_eq_cons {text : List Char} (starts : StartsValue text)
    {before : List Char} (blanks : IsBlanks before) (rest : List Char) :
    ∃ c cs, skipBlanks (before ++ (text ++ rest)) = c :: cs ∧ c ≠ ']' := by
  rw [Json.skipBlanks_append blanks, starts.skipBlanks_append]
  obtain ⟨c, cs, rfl, _, notClosing⟩ := starts
  exact ⟨c, cs ++ rest, rfl, notClosing⟩

theorem endsValue_of_isBlanks {cs : List Char} (blanks : IsBlanks cs) : EndsValue cs :=
  fun c first => Or.inr (Or.inr (blanks c (List.mem_of_mem_head? first)))

theorem endsValue_cons {c : Char} (ends : c = ',' ∨ c = ']' ∨ isBlank c = true)
    (rest : List Char) : EndsValue (c :: rest) := by
  intro d first
  cases first
  exact ends

theorem endsValue_blanks_append {before rest : List Char} (blanks : IsBlanks before)
    (ends : EndsValue rest) : EndsValue (before ++ rest) := by
  cases before with
  | nil => exact ends
  | cons c before => exact endsValue_cons (Or.inr (Or.inr (blanks c List.mem_cons_self))) _

namespace Reads

variable {α β : Type}

theorem afterBlanks {run : List Char → Except Failure (α × List Char)}
    {shrinks : ∀ {cs : List Char} {value : α} {rest : List Char},
      run cs = .ok (value, rest) → rest.length < cs.length}
    {text : List Char} {value : α} (starts : StartsValue text)
    (run_eq : ∀ rest, EndsValue rest → run (text ++ rest) = .ok (value, rest)) :
    Reads (Json.afterBlanks run shrinks) text value where
  starts := starts
  run_eq := by
    intro before rest blanks ends
    rw [Json.afterBlanks]
    simp only
    rw [Json.skipBlanks_append blanks, starts.skipBlanks_append]
    exact run_eq rest ends

theorem convert {reader : Reader α} {f : α → Except Failure β} {text : List Char} {value : α}
    {result : β} (reads : Reads reader text value) (converts : f value = .ok result) :
    Reads (reader.convert f) text result where
  starts := reads.starts
  run_eq := by
    intro before rest blanks ends
    simp only [Reader.convert, reads.run_eq blanks ends, converts, Except.map]

theorem map {reader : Reader α} {text : List Char} {value : α} (reads : Reads reader text value)
    (f : α → β) : Reads (reader.map f) text (f value) :=
  reads.convert rfl

theorem readAll {reader : Reader α} {text : List Char} {value : α}
    (reads : Reads reader text value) {rest : List Char} (blanks : IsBlanks rest) :
    reader.readAll (text ++ rest) = .ok value := by
  have run := reads.run_eq isBlanks_nil (endsValue_of_isBlanks blanks)
  rw [List.nil_append] at run
  simp [Reader.readAll, run, skipBlanks_eq_nil blanks]

end Reads

class LawfulCodec (α : Type) [Codec α] : Prop where
  reads (value : α) : Reads Codec.reader (Codec.write value) value

end Hierarchy.Json
