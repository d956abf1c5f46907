import Hierarchy.Json.Reader

/-!
# JSON numbers

A number is read as an integer if it is written as one, fits into 64 bits with its sign
and is not `-0`; any other number only has to be well formed and not too large for a double.
Of the digits, only those count that keep the significand below 2^64; of the others, those
before the point still shift the rest.
-/

set_option autoImplicit false

namespace Hierarchy.Json

inductive Number where
  | integer (n : Int)
  | other
  deriving DecidableEq, Repr

namespace Number

def digitValue (c : Char) : Nat := c.toNat - '0'.toNat

/-- The digits taken in so far: `significand * 10 ^ scale`, and whether any was left out. -/
structure Digits where
  significand : Nat
  scale : Int
  full : Bool
  deriving DecidableEq, Repr

def significandLimit : Nat := 1 <<< 64

namespace Digits

def none : Digits := ⟨0, 0, false⟩

def before (d : Digits) (c : Char) : Digits :=
  if d.full || significandLimit ≤ d.significand * 10 + digitValue c then
    ⟨d.significand, d.scale + 1, true⟩
  else ⟨d.significand * 10 + digitValue c, d.scale, false⟩

def after (d : Digits) (c : Char) : Digits :=
  if d.full || significandLimit ≤ d.significand * 10 + digitValue c then
    ⟨d.significand, d.scale, true⟩
  else ⟨d.significand * 10 + digitValue c, d.scale - 1, false⟩

/-- After the point there is room again for digits that fit. -/
def pastPoint (d : Digits) : Digits := ⟨d.significand, d.scale, false⟩

end Digits

/-- The natural number of at most 53 significant bits that is nearest; ties go to even. -/
def roundToDouble (n : Nat) : Nat :=
  let spare := n.log2 + 1 - 53
  let quotient := n >>> spare
  let remainder := n - quotient <<< spare
  let half := 1 <<< (spare - 1)
  if spare = 0 then n
  else if half < remainder ∨ (remainder = half ∧ quotient % 2 = 1) then
    (quotient + 1) <<< spare
  else quotient <<< spare

def isTooLarge (significand : Nat) (scale : Int) : Bool :=
  significand != 0 && 0 ≤ scale &&
    (308 < scale ||
      1 <<< 1024 ≤
        roundToDouble (roundToDouble significand * roundToDouble (Nat.pow 10 scale.toNat)))

/-- A number that is not written as an integer, or does not fit as one. -/
def otherOf (significand : Nat) (scale : Int) (rest : List Char) :
    Except Failure (Number × List Char) :=
  if isTooLarge significand scale then .error .malformed else .ok (.other, rest)

def someDigits (cs : List Char) : Except Failure (List Char × List Char) :=
  match cs with
  | [] => .error .truncated
  | c :: _ =>
      if c.isDigit then .ok (cs.takeWhile Char.isDigit, cs.dropWhile Char.isDigit)
      else .error .malformed

def wholeDigits (cs : List Char) : Except Failure (List Char × List Char) :=
  match cs with
  | '0' :: c :: rest => if c.isDigit then .error .malformed else .ok (['0'], c :: rest)
  | _ => someDigits cs

def exponentDigits (negative : Bool) (cs : List Char) : Except Failure (Int × List Char) :=
  match someDigits cs with
  | .error e => .error e
  | .ok (digits, rest) =>
      let size : Nat := digits.foldl (fun n c => n * 10 + digitValue c) 0
      .ok (if negative then -(size : Int) else size, rest)

def exponent (cs : List Char) : Except Failure (Int × List Char) :=
  match cs with
  | '-' :: rest => exponentDigits true rest
  | '+' :: rest => exponentDigits false rest
  | _ => exponentDigits false cs

def shifted (d : Digits) (cs : List Char) : Except Failure (Number × List Char) :=
  match exponent cs with
  | .error e => .error e
  | .ok (shift, rest) => otherOf d.significand (d.scale + shift) rest

def fromExponent (d : Digits) (cs : List Char) : Except Failure (Number × List Char) :=
  match cs with
  | 'e' :: rest => shifted d rest
  | 'E' :: rest => shifted d rest
  | _ => otherOf d.significand d.scale cs

def fromPoint (negative : Bool) (d : Digits) (cs : List Char) :
    Except Failure (Number × List Char) :=
  match cs with
  | '.' :: rest =>
      match someDigits rest with
      | .error e => .error e
      | .ok (digits, rest) => fromExponent (digits.foldl Digits.after d.pastPoint) rest
  | 'e' :: _ | 'E' :: _ => fromExponent d cs
  | _ =>
      if d.full then otherOf d.significand d.scale cs
      else if negative then
        if d.significand = 0 ∨ 0x8000000000000000 < d.significand then .ok (.other, cs)
        else .ok (.integer (-(d.significand : Int)), cs)
      else .ok (.integer d.significand, cs)

def unsigned (negative : Bool) (cs : List Char) : Except Failure (Number × List Char) :=
  match wholeDigits cs with
  | .error e => .error e
  | .ok (digits, rest) => fromPoint negative (digits.foldl Digits.before .none) rest

def isStart (c : Char) : Bool := c == '-' || c.isDigit

def read (cs : List Char) : Except Failure (Number × List Char) :=
  match cs with
  | '-' :: rest => unsigned true rest
  | _ => unsigned false cs

/-! ## Reading makes the text shorter -/

theorem length_lt_of_someDigits {cs digits rest : List Char}
    (success : someDigits cs = .ok (digits, rest)) : rest.length < cs.length := by
  cases cs with
  | nil => simp [someDigits] at success
  | cons c tail =>
      by_cases isDigit : c.isDigit = true
      · simp only [someDigits, isDigit, if_true, Except.ok.injEq, Prod.mk.injEq] at success
        rw [← success.2, List.dropWhile_cons_of_pos isDigit, List.length_cons]
        have := (List.dropWhile_suffix Char.isDigit : tail.dropWhile _ <:+ tail).length_le
        omega
      · simp [someDigits, isDigit] at success

theorem length_lt_of_wholeDigits {cs digits rest : List Char}
    (success : wholeDigits cs = .ok (digits, rest)) : rest.length < cs.length := by
  unfold wholeDigits at success
  split at success
  · split at success
    · simp at success
    · simp only [Except.ok.injEq, Prod.mk.injEq] at success
      simp [← success.2]
  · exact length_lt_of_someDigits success

theorem length_lt_of_exponentDigits {negative : Bool} {cs rest : List Char} {n : Int}
    (success : exponentDigits negative cs = .ok (n, rest)) : rest.length < cs.length := by
  unfold exponentDigits at success
  cases inner : someDigits cs with
  | error e => simp [inner] at success
  | ok pair =>
      simp only [inner, Except.ok.injEq, Prod.mk.injEq] at success
      rw [← success.2]
      exact length_lt_of_someDigits inner

theorem length_lt_of_exponent {cs rest : List Char} {n : Int}
    (success : exponent cs = .ok (n, rest)) : rest.length < cs.length := by
  unfold exponent at success
  split at success
  · have shorter := length_lt_of_exponentDigits success
    simp only [List.length_cons]
    omega
  · have shorter := length_lt_of_exponentDigits success
    simp only [List.length_cons]
    omega
  · exact length_lt_of_exponentDigits success

theorem eq_of_otherOf {significand : Nat} {scale : Int} {cs rest : List Char} {n : Number}
    (success : otherOf significand scale cs = .ok (n, rest)) : rest = cs := by
  unfold otherOf at success
  split at success
  · simp at success
  · simp only [Except.ok.injEq, Prod.mk.injEq] at success
    exact success.2.symm

theorem length_lt_of_shifted {d : Digits} {cs rest : List Char} {n : Number}
    (success : shifted d cs = .ok (n, rest)) : rest.length < cs.length := by
  unfold shifted at success
  cases inner : exponent cs with
  | error e => simp [inner] at success
  | ok pair =>
      simp only [inner] at success
      rw [eq_of_otherOf success]
      exact length_lt_of_exponent inner

theorem length_le_of_fromExponent {d : Digits} {cs rest : List Char} {n : Number}
    (success : fromExponent d cs = .ok (n, rest)) : rest.length ≤ cs.length := by
  unfold fromExponent at success
  split at success
  · have shorter := length_lt_of_shifted success
    simp only [List.length_cons]
    omega
  · have shorter := length_lt_of_shifted success
    simp only [List.length_cons]
    omega
  · exact Nat.le_of_eq (congrArg List.length (eq_of_otherOf success))

theorem length_le_of_fromPoint {negative : Bool} {d : Digits} {cs rest : List Char}
    {n : Number} (success : fromPoint negative d cs = .ok (n, rest)) :
    rest.length ≤ cs.length := by
  unfold fromPoint at success
  split at success
  · rename_i tail
    cases inner : someDigits tail with
    | error e => simp [inner] at success
    | ok pair =>
        have shorter := length_lt_of_someDigits inner
        simp only [inner] at success
        have further := length_le_of_fromExponent success
        simp only [List.length_cons]
        omega
  · exact length_le_of_fromExponent success
  · exact length_le_of_fromExponent success
  · split at success
    · exact Nat.le_of_eq (congrArg List.length (eq_of_otherOf success))
    · split at success
      · split at success <;>
          (simp only [Except.ok.injEq, Prod.mk.injEq] at success; simp [← success.2])
      · simp only [Except.ok.injEq, Prod.mk.injEq] at success
        simp [← success.2]

theorem length_lt_of_unsigned {negative : Bool} {cs rest : List Char} {n : Number}
    (success : unsigned negative cs = .ok (n, rest)) : rest.length < cs.length := by
  unfold unsigned at success
  cases inner : wholeDigits cs with
  | error e => simp [inner] at success
  | ok pair =>
      have shorter := length_lt_of_wholeDigits inner
      simp only [inner] at success
      have further := length_le_of_fromPoint success
      omega

theorem length_lt_of_read {cs rest : List Char} {n : Number}
    (success : read cs = .ok (n, rest)) : rest.length < cs.length := by
  unfold read at success
  split at success
  · have shorter := length_lt_of_unsigned success
    simp only [List.length_cons]
    omega
  · exact length_lt_of_unsigned success

end Number

end Hierarchy.Json
