import Hierarchy.Json.Number
import Hierarchy.Json.Strings
import Hierarchy.Text.Lines

/-!
# JSON values

Readers of strings, 64-bit integers and lists.  Where a value of another kind stands, as
much of it is read as is needed to tell what is wrong: a list or an object is recognised by
its bracket, anything else is read to its end and may turn out to be no JSON at all.

A codec writes values as JSON and reads them back.  Texts are strings, 64-bit integers are
numbers, and a list of values can be written on one line or over several.
-/

set_option autoImplicit false

namespace Hierarchy.Json

/-- The failure of a word at which JSON has a constant: not JSON, or not what is wanted. -/
def refuseWord : List Char → List Char → Failure
  | [], _ => .mismatch
  | _ :: _, [] => .truncated
  | c :: word, d :: rest => if c = d then refuseWord word rest else .malformed

def refuse (cs : List Char) : Failure :=
  match cs with
  | [] => .truncated
  | 'n' :: rest => refuseWord ['u', 'l', 'l'] rest
  | 't' :: rest => refuseWord ['r', 'u', 'e'] rest
  | 'f' :: rest => refuseWord ['a', 'l', 's', 'e'] rest
  | '[' :: _ => .mismatch
  | '\x7b' :: _ => .mismatch
  | '"' :: rest =>
      match Strings.chars rest with
      | .error e => e
      | .ok _ => .mismatch
  | c :: _ =>
      if Number.isStart c then
        match Number.read cs with
        | .error e => e
        | .ok _ => .mismatch
      else .malformed

def afterBlanks {α : Type} (run : List Char → Except Failure (α × List Char))
    (shrinks : ∀ {cs : List Char} {value : α} {rest : List Char},
      run cs = .ok (value, rest) → rest.length < cs.length) : Reader α where
  run cs := run (skipBlanks cs)
  shrinks := by
    intro cs value rest success
    have shorter := shrinks success
    have noLonger := length_skipBlanks_le cs
    omega

/-! ## Strings and integers -/

def stringAt (cs : List Char) : Except Failure (List Char × List Char) :=
  match cs with
  | '"' :: rest => Strings.chars rest
  | _ => .error (refuse cs)

theorem length_lt_of_stringAt {cs value rest : List Char}
    (success : stringAt cs = .ok (value, rest)) : rest.length < cs.length := by
  unfold stringAt at success
  split at success
  · have shorter := Strings.length_lt_of_chars success
    simp only [List.length_cons]
    omega
  · simp at success

def string : Reader (List Char) := afterBlanks stringAt length_lt_of_stringAt

def numberAt (cs : List Char) : Except Failure (Number × List Char) :=
  match cs with
  | [] => .error (refuse cs)
  | c :: _ => if Number.isStart c then Number.read cs else .error (refuse cs)

theorem length_lt_of_numberAt {cs rest : List Char} {n : Number}
    (success : numberAt cs = .ok (n, rest)) : rest.length < cs.length := by
  unfold numberAt at success
  split at success
  · simp at success
  · split at success
    · exact Number.length_lt_of_read success
    · simp at success

def number : Reader Number := afterBlanks numberAt length_lt_of_numberAt

def int64OfNumber : Number → Except Failure Int64
  | .integer n =>
      if Int64.minValue.toInt ≤ n ∧ n ≤ Int64.maxValue.toInt then .ok (Int64.ofInt n)
      else .error .mismatch
  | .other => .error .mismatch

def int64 : Reader Int64 := number.convert int64OfNumber

/-! ## Lists -/

section List

variable {α : Type}

def itemsAfter (item : Reader α) (cs : List Char) : Except Failure (List α × List Char) :=
  match comma : skipBlanks cs with
  | [] => .error .truncated
  | ']' :: rest => .ok ([], rest)
  | ',' :: rest =>
      have := length_lt_of_skipBlanks_eq_cons comma
      match skipBlanks rest with
      | [] => .error .truncated
      | ']' :: _ => .error .malformed
      | _ =>
          match found : item.run rest with
          | .error e => .error e
          | .ok (value, rest) =>
              have := item.shrinks found
              match itemsAfter item rest with
              | .error e => .error e
              | .ok (values, rest) => .ok (value :: values, rest)
  | _ => .error .malformed
termination_by cs.length

def items (item : Reader α) (cs : List Char) : Except Failure (List α × List Char) :=
  match skipBlanks cs with
  | [] => .error .truncated
  | ']' :: rest => .ok ([], rest)
  | _ =>
      match item.run cs with
      | .error e => .error e
      | .ok (value, rest) =>
          match itemsAfter item rest with
          | .error e => .error e
          | .ok (values, rest) => .ok (value :: values, rest)

def listAt (item : Reader α) (cs : List Char) : Except Failure (List α × List Char) :=
  match cs with
  | '[' :: rest => items item rest
  | _ => .error (refuse cs)

theorem length_lt_of_itemsAfter {item : Reader α} {cs rest : List Char} {values : List α}
    (success : itemsAfter item cs = .ok (values, rest)) : rest.length < cs.length := by
  fun_induction itemsAfter item cs generalizing values rest with
  | case1 => simp at success
  | case2 cs tail closing =>
      simp only [Except.ok.injEq, Prod.mk.injEq] at success
      exact success.2 ▸ length_lt_of_skipBlanks_eq_cons closing
  | case3 => simp at success
  | case4 => simp at success
  | case5 => simp at success
  | case6 => simp at success
  | case7 cs tail comma first value left found shorter others final inner nonempty notClosed ih =>
      simp only [Except.ok.injEq, Prod.mk.injEq] at success
      have further := ih inner
      rw [← success.2]
      omega
  | case8 => simp at success

theorem length_lt_of_items {item : Reader α} {cs rest : List Char} {values : List α}
    (success : items item cs = .ok (values, rest)) : rest.length < cs.length := by
  unfold items at success
  split at success
  · simp at success
  · rename_i closing
    simp only [Except.ok.injEq, Prod.mk.injEq] at success
    exact success.2 ▸ length_lt_of_skipBlanks_eq_cons closing
  · cases found : item.run cs with
    | error e => simp [found] at success
    | ok pair =>
        have first := item.shrinks found
        cases inner : itemsAfter item pair.2 with
        | error e => simp [found, inner] at success
        | ok others =>
            have further := length_lt_of_itemsAfter inner
            simp only [found, inner, Except.ok.injEq, Prod.mk.injEq] at success
            rw [← success.2]
            omega

theorem length_lt_of_listAt {item : Reader α} {cs rest : List Char} {values : List α}
    (success : listAt item cs = .ok (values, rest)) : rest.length < cs.length := by
  unfold listAt at success
  split at success
  · have shorter := length_lt_of_items success
    simp only [List.length_cons]
    omega
  · simp at success

def list (item : Reader α) : Reader (List α) :=
  afterBlanks (listAt item) length_lt_of_listAt

end List

/-! ## Codecs -/

class Codec (α : Type) where
  write : α → List Char
  reader : Reader α

instance : Codec String where
  write s := Strings.write s.toList
  reader := string.map String.ofList

instance : Codec Int64 where
  write n := (toString n.toInt).toList
  reader := int64

def compact : Text.Layout := ⟨[','], none, []⟩

def tall : Text.Layout := ⟨[','], some 2, []⟩

def writeList (style : Text.Layout) (depth : Nat) (items : List (List Char)) : List Char :=
  style.bracket depth ['['] [']'] items

end Hierarchy.Json
