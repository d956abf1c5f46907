import Hierarchy.Proofs.Json.Reader

/-!
# JSON integers are read back

The digits of a natural number have no superfluous zero and, as long as the number fits
into 64 bits, are all taken in.  So an integer between the two extremes is read back from
its decimal form, the extremes included (`Number.read_append`).
-/

set_option autoImplicit false

namespace Hierarchy.Json

namespace Number

/-- A number that is written before this text ends there. -/
def EndsNumber (rest : List Char) : Prop :=
  ∀ c ∈ rest.head?, c.isDigit = false ∧ c ≠ '.' ∧ c ≠ 'e' ∧ c ≠ 'E'

/-! ## Taking digits in -/

theorem le_ofDigitChars (digits : List Char) (start : Nat) :
    start ≤ Nat.ofDigitChars 10 digits start := by
  induction digits generalizing start with
  | nil => exact Nat.le_refl start
  | cons c digits ih =>
      have later := ih (10 * start + (c.toNat - '0'.toNat))
      rw [Nat.ofDigitChars] at later ⊢
      rw [List.foldl_cons]
      omega

theorem foldl_before (digits : List Char) (start : Nat)
    (fits : Nat.ofDigitChars 10 digits start < significandLimit) :
    digits.foldl Digits.before ⟨start, 0, false⟩ =
      ⟨Nat.ofDigitChars 10 digits start, 0, false⟩ := by
  induction digits generalizing start with
  | nil => rfl
  | cons c digits ih =>
      have whole : Nat.ofDigitChars 10 (c :: digits) start =
          Nat.ofDigitChars 10 digits (start * 10 + digitValue c) := by
        rw [Nat.mul_comm]
        rfl
      rw [whole] at fits ⊢
      have small : ¬significandLimit ≤ start * 10 + digitValue c :=
        Nat.not_le.2 (Nat.lt_of_le_of_lt (le_ofDigitChars digits _) fits)
      have taken : Digits.before ⟨start, 0, false⟩ c = ⟨start * 10 + digitValue c, 0, false⟩ := by
        simp [Digits.before, small]
      rw [List.foldl_cons, taken, ih _ fits]

theorem someDigits_append {digits rest : List Char} (nonempty : digits ≠ [])
    (isDigit : ∀ c ∈ digits, c.isDigit = true) (ends : EndsNumber rest) :
    someDigits (digits ++ rest) = .ok (digits, rest) := by
  have stops : rest.takeWhile Char.isDigit = [] := by
    cases rest with
    | nil => rfl
    | cons c rest => exact List.takeWhile_cons_of_neg (by simp [(ends c rfl).1])
  have stays : rest.dropWhile Char.isDigit = rest := by
    cases rest with
    | nil => rfl
    | cons c rest => exact List.dropWhile_cons_of_neg (by simp [(ends c rfl).1])
  cases digits with
  | nil => exact absurd rfl nonempty
  | cons c digits =>
      have first := isDigit c List.mem_cons_self
      rw [List.cons_append, someDigits, if_pos first, ← List.cons_append,
        List.takeWhile_append_of_pos isDigit, List.dropWhile_append_of_pos isDigit, stops, stays,
        List.append_nil]

/-! ## The digits of a number -/

theorem exists_toDigits_eq_cons (n : Nat) :
    ∃ c cs, Nat.toDigits 10 n = c :: cs ∧ c.isDigit = true := by
  obtain ⟨c, cs, split⟩ := List.exists_cons_of_ne_nil (Nat.toDigits_ne_nil (n := n) (b := 10))
  have first : c ∈ Nat.toDigits 10 n := split ▸ List.mem_cons_self
  exact ⟨c, cs, split, Nat.isDigit_of_mem_toDigits (by decide) (by decide) first⟩

theorem eq_zero_of_head?_toDigits (n : Nat) (zero : (Nat.toDigits 10 n).head? = some '0') :
    n = 0 := by
  induction n using Nat.strongRecOn with
  | ind n ih =>
      rw [Nat.toDigits_eq_if (by decide)] at zero
      by_cases single : n < 10
      · rw [if_pos single] at zero
        have digits : ∀ m < 10, Nat.digitChar m = '0' → m = 0 := by decide
        exact digits n single (Option.some.inj zero)
      · obtain ⟨c, cs, split, _⟩ := exists_toDigits_eq_cons (n / 10)
        rw [if_neg single, split] at zero
        have smaller := ih (n / 10) (by omega) (split ▸ zero)
        omega

theorem wholeDigits_of_head? {cs : List Char} (noZero : cs.head? ≠ some '0') :
    wholeDigits cs = someDigits cs :=
  wholeDigits.eq_2 cs fun _ _ starts => noZero (starts ▸ rfl)

theorem wholeDigits_toDigits_append (n : Nat) {rest : List Char} (ends : EndsNumber rest) :
    wholeDigits (Nat.toDigits 10 n ++ rest) = .ok (Nat.toDigits 10 n, rest) := by
  have isDigit : ∀ c ∈ Nat.toDigits 10 n, c.isDigit = true :=
    fun c => Nat.isDigit_of_mem_toDigits (by decide) (by decide)
  have read := someDigits_append Nat.toDigits_ne_nil isDigit ends
  by_cases zero : n = 0
  · subst zero
    rw [Nat.toDigits_zero] at read ⊢
    cases rest with
    | nil => exact read
    | cons c rest => simp [wholeDigits, (ends c rfl).1]
  · rw [wholeDigits_of_head?, read]
    intro starts
    obtain ⟨c, cs, split, _⟩ := exists_toDigits_eq_cons n
    rw [split] at starts
    exact zero (eq_zero_of_head?_toDigits n (split ▸ starts))

/-! ## Whole numbers -/

theorem fromPoint_of_ends (negative : Bool) (n : Nat) {rest : List Char} (ends : EndsNumber rest) :
    fromPoint negative ⟨n, 0, false⟩ rest =
      if negative then
        if n = 0 ∨ 0x8000000000000000 < n then .ok (.other, rest)
        else .ok (.integer (-(n : Int)), rest)
      else .ok (.integer n, rest) := by
  unfold fromPoint
  split
  case h_1 => exact absurd rfl (ends '.' rfl).2.1
  case h_2 => exact absurd rfl (ends 'e' rfl).2.2.1
  case h_3 => exact absurd rfl (ends 'E' rfl).2.2.2
  case h_4 => simp

theorem unsigned_toDigits_append (negative : Bool) {n : Nat} (fits : n < significandLimit)
    {rest : List Char} (ends : EndsNumber rest) :
    unsigned negative (Nat.toDigits 10 n ++ rest) = fromPoint negative ⟨n, 0, false⟩ rest := by
  have value : Nat.ofDigitChars 10 (Nat.toDigits 10 n) 0 = n :=
    Nat.ofDigitChars_toDigits (by decide) (by decide)
  have taken := foldl_before (Nat.toDigits 10 n) 0 (by rwa [value])
  rw [value] at taken
  rw [unsigned, wholeDigits_toDigits_append n ends]
  simp only [Digits.none, taken]

theorem toList_toString_ofNat (n : Nat) :
    (toString (Int.ofNat n)).toList = Nat.toDigits 10 n :=
  String.toList_ofList

theorem toList_toString_negSucc (n : Nat) :
    (toString (Int.negSucc n)).toList = '-' :: Nat.toDigits 10 (n + 1) := by
  have text : toString (Int.negSucc n) = "-" ++ toString (n + 1) := rfl
  rw [text, String.toList_append]
  exact congrArg ('-' :: ·) String.toList_ofList

theorem exists_toString_eq_cons (n : Int) :
    ∃ c cs, (toString n).toList = c :: cs ∧ isStart c = true := by
  cases n with
  | ofNat n =>
      obtain ⟨c, cs, split, digit⟩ := exists_toDigits_eq_cons n
      exact ⟨c, cs, (toList_toString_ofNat n).trans split, by simp [isStart, digit]⟩
  | negSucc n => exact ⟨'-', _, toList_toString_negSucc n, by decide⟩

/-- An integer that fits into 64 bits is read back from its decimal form. -/
theorem read_append {n : Int} (low : Int64.minValue.toInt ≤ n) (high : n ≤ Int64.maxValue.toInt)
    {rest : List Char} (ends : EndsNumber rest) :
    read ((toString n).toList ++ rest) = .ok (.integer n, rest) := by
  have lowest : Int64.minValue.toInt = -0x8000000000000000 := by decide
  have highest : Int64.maxValue.toInt = 0x7fffffffffffffff := by decide
  have limit : significandLimit = 0x10000000000000000 := by decide
  cases n with
  | ofNat n =>
      have fits : n < significandLimit := by
        rw [Int.ofNat_eq_natCast] at high
        omega
      have noMinus : ∀ more, Nat.toDigits 10 n ++ rest ≠ '-' :: more := by
        intro more starts
        obtain ⟨c, cs, split, digit⟩ := exists_toDigits_eq_cons n
        rw [split] at starts
        rw [(List.cons.inj starts).1] at digit
        exact absurd digit (by decide)
      rw [toList_toString_ofNat, read.eq_2 _ noMinus, unsigned_toDigits_append false fits ends,
        fromPoint_of_ends false n ends]
      rfl
  | negSucc n =>
      have inRange : ¬(n + 1 = 0 ∨ 0x8000000000000000 < n + 1) := by omega
      rw [toList_toString_negSucc, List.cons_append, read,
        unsigned_toDigits_append true (by omega) ends, fromPoint_of_ends true (n + 1) ends,
        if_pos rfl, if_neg inRange]
      rfl

theorem endsNumber_of_endsValue {rest : List Char} (ends : EndsValue rest) : EndsNumber rest := by
  intro c first
  have cases : c = ',' ∨ c = ']' ∨ c = ' ' ∨ c = '\n' ∨ c = '\t' ∨ c = '\r' := by
    simpa [isBlank, or_assoc] using ends c first
  rcases cases with rfl | rfl | rfl | rfl | rfl | rfl <;> decide

theorem startsValue_of_isStart {c : Char} (start : isStart c = true) (cs : List Char) :
    StartsValue (c :: cs) := by
  refine ⟨c, cs, rfl, Bool.eq_false_iff.2 ?_, ?_⟩
  · intro blank
    have cases : c = ' ' ∨ c = '\n' ∨ c = '\t' ∨ c = '\r' := by
      simpa [isBlank, or_assoc] using blank
    rcases cases with rfl | rfl | rfl | rfl <;> exact absurd start (by decide)
  · rintro rfl
    exact absurd start (by decide)

end Number

theorem reads_int64 (n : Int64) : Reads int64 (toString n.toInt).toList n := by
  have low := n.minValue_le_toInt
  have high := n.toInt_le
  obtain ⟨c, cs, split, start⟩ := Number.exists_toString_eq_cons n.toInt
  have readsNumber : Reads number (toString n.toInt).toList (.integer n.toInt) := by
    refine .afterBlanks (split ▸ Number.startsValue_of_isStart start cs) ?_
    intro rest ends
    have read := Number.read_append low high (Number.endsNumber_of_endsValue ends)
    rw [split, List.cons_append] at read ⊢
    rw [numberAt, if_pos start, read]
  refine readsNumber.convert ?_
  rw [int64OfNumber, if_pos ⟨low, high⟩, Int64.ofInt_toInt]

instance : LawfulCodec Int64 where
  reads := reads_int64

end Hierarchy.Json
