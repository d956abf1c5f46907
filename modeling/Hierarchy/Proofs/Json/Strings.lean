import Hierarchy.Proofs.Json.Reader

/-!
# JSON strings are read back

Every character is written in a way that the reader undoes, be it as it is, by a letter or
by its number, so a string of any characters is read back from its written form.
-/

set_option autoImplicit false

namespace Hierarchy.Json

namespace Strings

/-! ## One character at the front -/

theorem chars_backslash {cs left more rest : List Char} {c : Char}
    (found : escaped.run cs = .ok (c, left)) (following : chars left = .ok (more, rest)) :
    chars ('\\' :: cs) = .ok (c :: more, rest) := by
  rw [chars]
  split
  case h_1 e failed => rw [found] at failed; contradiction
  case h_2 d after success =>
    rw [found] at success
    cases success
    simp [following]

theorem chars_literal {c : Char} {cs more rest : List Char} (noQuote : c ≠ '"')
    (noBackslash : c ≠ '\\') (visible : ¬c.toNat < 0x20)
    (following : chars cs = .ok (more, rest)) : chars (c :: cs) = .ok (c :: more, rest) := by
  rw [chars.eq_4 c cs noQuote noBackslash, if_neg visible, following]

/-! ## Characters written by their number -/

theorem hexUnit?_of_lt : ∀ n < 0x20,
    hexUnit? '0' '0' (Nat.digitChar (n / 16)) (Nat.digitChar (n % 16)) = some n := by
  decide

theorem length_le_utf8ByteSize (cs : List Char) :
    cs.length ≤ (String.ofList cs).utf8ByteSize := by
  induction cs with
  | nil => exact Nat.zero_le _
  | cons c cs ih =>
      have one := c.utf8Size_pos
      rw [String.ofList_cons, String.utf8ByteSize_append, String.utf8ByteSize_singleton,
        List.length_cons]
      omega

theorem unit_run {a b c d : Char} {n : Nat} (number : hexUnit? a b c d = some n)
    (rest : List Char) : unit.run (a :: b :: c :: d :: rest) = .ok (n, rest) := by
  have long : ¬(String.ofList ((a :: b :: c :: d :: rest).take 4)).utf8ByteSize < 4 :=
    Nat.not_lt.2 (length_le_utf8ByteSize [a, b, c, d])
  simp only [unit, if_neg long, number]

theorem numbered_run {a b c d : Char} {n : Nat} (number : hexUnit? a b c d = some n)
    (low : n < 0xd800) (rest : List Char) :
    numbered.run (a :: b :: c :: d :: rest) = .ok (Char.ofNat n, rest) := by
  simp only [numbered, unit_run number]
  rw [if_neg (by omega), if_neg (by omega)]

/-! ## All characters -/

theorem chars_escapeChar_append (c : Char) {cs more rest : List Char}
    (following : chars cs = .ok (more, rest)) :
    chars (escapeChar c ++ cs) = .ok (c :: more, rest) := by
  unfold escapeChar
  split
  case h_8 noQuote noBackslash _ _ _ _ _ =>
    split
    case isTrue control =>
      have number := hexUnit?_of_lt c.toNat control
      refine chars_backslash ?_ following
      refine (numbered_run number (by omega) cs).trans ?_
      rw [Char.ofNat_toNat]
    case isFalse visible => exact chars_literal noQuote noBackslash visible following
  all_goals exact chars_backslash rfl following

theorem chars_flatMap_append (cs rest : List Char) :
    chars (cs.flatMap escapeChar ++ '"' :: rest) = .ok (cs, rest) := by
  induction cs with
  | nil => rw [List.flatMap_nil, List.nil_append, chars]
  | cons c cs ih =>
      rw [List.flatMap_cons, List.append_assoc]
      exact chars_escapeChar_append c ih

end Strings

theorem reads_string (cs : List Char) : Reads string (Strings.write cs) cs := by
  refine .afterBlanks ⟨'"', _, rfl, by decide, by decide⟩ ?_
  intro rest _
  rw [Strings.write, List.cons_append, List.cons_append, List.append_assoc]
  exact Strings.chars_flatMap_append cs rest

instance : LawfulCodec String where
  reads s := by
    have read := (reads_string s.toList).map String.ofList
    rwa [String.ofList_toList] at read

end Hierarchy.Json
