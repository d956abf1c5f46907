import Hierarchy.Json.Reader

/-!
# JSON strings

Written, a string escapes the quote, the backslash and the characters below U+0020, and
nothing else.  Read, it may escape any character, those beyond U+FFFF by two units that
belong together.
-/

set_option autoImplicit false

namespace Hierarchy.Json.Strings

/-! ## Writing -/

def escapeChar (c : Char) : List Char :=
  match c with
  | '"' => ['\\', '"']
  | '\\' => ['\\', '\\']
  | '\x08' => ['\\', 'b']
  | '\t' => ['\\', 't']
  | '\n' => ['\\', 'n']
  | '\x0c' => ['\\', 'f']
  | '\r' => ['\\', 'r']
  | c =>
      if c.toNat < 0x20 then
        ['\\', 'u', '0', '0', Nat.digitChar (c.toNat / 16), Nat.digitChar (c.toNat % 16)]
      else [c]

def write (cs : List Char) : List Char := '"' :: cs.flatMap escapeChar ++ ['"']

/-! ## Reading -/

def hexDigit? (c : Char) : Option Nat :=
  if '0' ≤ c ∧ c ≤ '9' then some (c.toNat - '0'.toNat)
  else if 'a' ≤ c ∧ c ≤ 'f' then some (c.toNat - 'a'.toNat + 10)
  else if 'A' ≤ c ∧ c ≤ 'F' then some (c.toNat - 'A'.toNat + 10)
  else none

def hexUnit? (a b c d : Char) : Option Nat := do
  let a ← hexDigit? a
  let b ← hexDigit? b
  let c ← hexDigit? c
  let d ← hexDigit? d
  return ((a * 16 + b) * 16 + c) * 16 + d

/-- Four hexadecimal digits.  The text counts as too short for them by its bytes. -/
def unit : Reader Nat where
  run cs :=
    if (String.ofList (cs.take 4)).utf8ByteSize < 4 then .error .truncated
    else
      match cs with
      | a :: b :: c :: d :: rest =>
          match hexUnit? a b c d with
          | some n => .ok (n, rest)
          | none => .error .malformed
      | _ => .error .malformed
  shrinks := by
    intro cs value rest success
    split at success
    · simp at success
    · split at success
      · split at success
        · simp only [Except.ok.injEq, Prod.mk.injEq] at success
          simp only [← success.2, List.length_cons]
          omega
        · simp at success
      · simp at success

/-- The second half of a character beyond U+FFFF, written as a unit of its own. -/
def lowUnit : Reader Nat where
  run
    | [] | ['\\'] => .error .truncated
    | '\\' :: 'u' :: cs =>
        match unit.run cs with
        | .error e => .error e
        | .ok (n, rest) =>
            if 0xdc00 ≤ n ∧ n ≤ 0xdfff then .ok (n, rest) else .error .malformed
    | _ => .error .malformed
  shrinks := by
    intro cs value rest success
    split at success
    · simp at success
    · simp at success
    · rename_i tail
      cases inner : unit.run tail with
      | error e => simp [inner] at success
      | ok pair =>
          have shorter := unit.shrinks inner
          simp only [inner] at success
          split at success
          · simp only [Except.ok.injEq, Prod.mk.injEq] at success
            simp only [← success.2, List.length_cons]
            omega
          · simp at success
    · simp at success

/-- The character that a unit stands for, together with the next one if it takes two. -/
def numbered : Reader Char where
  run cs :=
    match unit.run cs with
    | .error e => .error e
    | .ok (n, rest) =>
        if 0xdc00 ≤ n ∧ n ≤ 0xdfff then .error .malformed
        else if 0xd800 ≤ n ∧ n ≤ 0xdbff then
          match lowUnit.run rest with
          | .error e => .error e
          | .ok (low, rest) =>
              .ok (Char.ofNat (0x10000 + (n - 0xd800) * 0x400 + (low - 0xdc00)), rest)
        else .ok (Char.ofNat n, rest)
  shrinks := by
    intro cs value rest success
    cases inner : unit.run cs with
    | error e => simp [inner] at success
    | ok pair =>
        have shorter := unit.shrinks inner
        simp only [inner] at success
        split at success
        · simp at success
        · split at success
          · cases second : lowUnit.run pair.2 with
            | error e => simp [second] at success
            | ok other =>
                have further := lowUnit.shrinks second
                simp only [second, Except.ok.injEq, Prod.mk.injEq] at success
                simp only [← success.2]
                omega
          · simp only [Except.ok.injEq, Prod.mk.injEq] at success
            simp only [← success.2]
            omega

def lettered? : Char → Option Char
  | '"' => some '"'
  | '\\' => some '\\'
  | '/' => some '/'
  | 'b' => some '\x08'
  | 'f' => some '\x0c'
  | 'n' => some '\n'
  | 'r' => some '\r'
  | 't' => some '\t'
  | _ => none

def escaped : Reader Char where
  run
    | [] => .error .truncated
    | 'u' :: rest => numbered.run rest
    | letter :: rest =>
        match lettered? letter with
        | some c => .ok (c, rest)
        | none => .error .malformed
  shrinks := by
    intro cs value rest success
    split at success
    · simp at success
    · have shorter := numbered.shrinks success
      simp only [List.length_cons]
      omega
    · split at success
      · simp only [Except.ok.injEq, Prod.mk.injEq] at success
        simp [← success.2]
      · simp at success

def chars (cs : List Char) : Except Failure (List Char × List Char) :=
  match cs with
  | [] => .error .truncated
  | '"' :: rest => .ok ([], rest)
  | '\\' :: rest =>
      match found : escaped.run rest with
      | .error e => .error e
      | .ok (c, rest) =>
          have := escaped.shrinks found
          match chars rest with
          | .error e => .error e
          | .ok (more, rest) => .ok (c :: more, rest)
  | c :: rest =>
      if c.toNat < 0x20 then .error .malformed
      else
        match chars rest with
        | .error e => .error e
        | .ok (more, rest) => .ok (c :: more, rest)
termination_by cs.length
decreasing_by
  · simp only [List.length_cons]
    omega
  · simp

theorem length_lt_of_chars {cs more rest : List Char} (success : chars cs = .ok (more, rest)) :
    rest.length < cs.length := by
  fun_induction chars cs generalizing more rest with
  | case1 => simp at success
  | case2 tail =>
      simp only [Except.ok.injEq, Prod.mk.injEq] at success
      simp [← success.2]
  | case3 => simp at success
  | case4 => simp at success
  | case5 tail c left found shorter tailChars final inner ih =>
      simp only [Except.ok.injEq, Prod.mk.injEq] at success
      have further := ih inner
      simp only [← success.2, List.length_cons]
      omega
  | case6 => simp at success
  | case7 => simp at success
  | case8 c tail notQuote notBackslash printable tailChars final inner ih =>
      simp only [Except.ok.injEq, Prod.mk.injEq] at success
      have further := ih inner
      simp only [← success.2, List.length_cons]
      omega

end Hierarchy.Json.Strings
