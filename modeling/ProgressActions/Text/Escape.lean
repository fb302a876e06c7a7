/-!
# Payloads of action specs

A payload may be wrapped in one pair of equal quotes, and spells control characters by backslash
escapes. The quotes come off first, before any escape is read.
-/

namespace ProgressActions.Text

/-- One wrapping pair of single or of double quotes is removed. -/
def stripQuotes : List Char → List Char
  | [] => []
  | first :: rest =>
    if (first = '"' ∨ first = '\'') ∧ rest.getLast? = some first then rest.dropLast
    else first :: rest

/-- The character that a one-letter escape names. -/
def namedEscape : Char → Option Char
  | '\\' => some '\\'
  | 'a' => some '\x07'
  | 'b' => some '\x08'
  | 'f' => some '\x0c'
  | 'n' => some '\n'
  | 'r' => some '\x0d'
  | 't' => some '\t'
  | 'v' => some '\x0b'
  | '?' => some '?'
  | _ => none

def isOctalDigit (c : Char) : Bool := '0' ≤ c && c ≤ '7'

/-- The value of an octal numeral, the most significant digit first. -/
def octalValue (digits : List Char) : Nat :=
  digits.foldl (fun value c ↦ 8 * value + (c.toNat - 48)) 0

/-- An octal escape has as many of the next three characters as are octal digits. -/
def octalRun (text : List Char) : List Char :=
  (text.take 3).takeWhile isOctalDigit

/-- The character of an octal escape: the low eight bits of its value, as a Latin-1 character. -/
def octalChar (digits : List Char) : Char :=
  Char.ofNat (octalValue digits % 256)

/--
Backslash escapes are resolved from left to right. An escape that is not known keeps its backslash,
and so does a backslash at the very end.
-/
def resolveEscapes : List Char → List Char
  | [] => []
  | '\\' :: next :: rest =>
    match namedEscape next with
    | some c => c :: resolveEscapes rest
    | none =>
      if isOctalDigit next then
        let run := octalRun (next :: rest)
        octalChar run :: resolveEscapes (rest.drop (run.length - 1))
      else
        '\\' :: next :: resolveEscapes rest
  | c :: rest => c :: resolveEscapes rest
termination_by text => text.length
decreasing_by all_goals simp only [List.length_drop, List.length_cons]; omega

/-- The text that a payload stands for. -/
def unquote (text : List Char) : List Char :=
  resolveEscapes (stripQuotes text)

@[simp] theorem resolveEscapes_nil : resolveEscapes [] = [] := by
  simp [resolveEscapes]

/-- A character other than the backslash stands for itself. -/
theorem resolveEscapes_cons_of_ne {c : Char} (h : c ≠ '\\') (rest : List Char) :
    resolveEscapes (c :: rest) = c :: resolveEscapes rest := by
  rw [resolveEscapes]
  intro next tail hc
  exact absurd hc h

/-- A backslash that ends the text stands for itself. -/
theorem resolveEscapes_lone_backslash : resolveEscapes ['\\'] = ['\\'] := by
  simp [resolveEscapes]

end ProgressActions.Text
