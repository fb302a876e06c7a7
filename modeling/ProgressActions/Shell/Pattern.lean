import ProgressActions.Octets

/-!
# Patterns of texts

A pattern stands for texts of the same form: a star for any text, a question mark for any character,
and brackets for one of several characters. A backslash makes the next character stand for itself.
-/

namespace ProgressActions.Shell

inductive Glyph where
  | char (c : Char)
  /-- A character that stands for itself. -/
  | hidden (c : Char)
  /-- A quotation mark stood here. -/
  | mark
  deriving DecidableEq, Repr

namespace Glyph

def text : List Glyph → Octets
  | .char c :: rest => c :: text rest
  | .hidden c :: rest => c :: text rest
  | .mark :: rest => text rest
  | [] => []

/-- The pattern that glyphs spell. A character that is hidden gets a backslash, unless there is one in
front of it already. -/
def pattern (escapes : Bool) : List Glyph → Octets
  | .char c :: rest => c :: pattern (c != '\\') rest
  | .hidden c :: rest => if escapes then '\\' :: c :: pattern true rest else c :: pattern true rest
  | .mark :: rest => pattern true rest
  | [] => []

@[simp] theorem text_append (first second : List Glyph) :
    text (first ++ second) = text first ++ text second := by
  induction first with
  | nil => rfl
  | cons g rest ih => cases g <;> simp [text, ih]

end Glyph

namespace Pattern

def isOfClass (name : String) (c : Char) : Bool :=
  let printable := 32 < c.toNat && c.toNat < 127
  match name with
  | "alnum" => c.isAlphanum
  | "alpha" => c.isAlpha
  | "blank" => c == ' ' || c == '\t'
  | "cntrl" => c.toNat < 32 || c.toNat == 127
  | "digit" => c.isDigit
  | "graph" => printable
  | "lower" => c.isLower
  | "print" => printable || c == ' '
  | "punct" => printable && !c.isAlphanum
  | "space" => " \t\n\x0b\x0c\x0d".toList.contains c
  | "upper" => c.isUpper
  | "xdigit" => c.isDigit || ('a' ≤ c && c ≤ 'f') || ('A' ≤ c && c ≤ 'F')
  | _ => false

def classNames : List String :=
  ["alnum", "alpha", "blank", "cntrl", "digit", "graph", "lower", "print", "punct", "space", "upper",
   "xdigit"]

/-- The class that a text names up to a colon and a bracket, and how much of the text belongs to it. -/
def class? (text : Octets) : Option (String × Nat) :=
  match text with
  | ':' :: rest =>
    let name := rest.takeWhile Char.isAlpha
    if (":]".toList.isPrefixOf (rest.drop name.length)) ∧ classNames.contains (String.ofList name) then
      some (String.ofList name, name.length + 3)
    else none
  | _ => none

/-- The code of an octet as a number with a sign. -/
def signed (c : Char) : Int := if c.toNat < 128 then c.toNat else (c.toNat : Int) - 256

/-- Whether a character is among those in brackets, and what follows the brackets. The first character
in them is one of the characters even if it is a closing bracket. -/
def among (c : Char) : (limit : Nat) → (isFirst found : Bool) → Octets → Option (Bool × Octets)
  | 0, _, _, _ => none
  | _ + 1, _, _, [] => none
  | limit + 1, isFirst, found, p :: rest =>
    if p = ']' ∧ !isFirst then some (found, rest)
    else
      match if p = '[' then class? rest else none with
      | some (name, length) => among c limit false (found || isOfClass name c) (rest.drop length)
      | none =>
        let (low, after) := match p, rest with
          | '\\', d :: more => (d, more)
          | _, _ => (p, rest)
        match after with
        | '-' :: high :: more =>
          if high = ']' then among c limit false (found || c == low) after
          else
            let (top, later) := match high, more with
              | '\\', d :: others => (d, others)
              | _, _ => (high, more)
            among c limit false (found || (signed low ≤ signed c && signed c ≤ signed top)) later
        | _ => among c limit false (found || c == low) after

/-- Whether a character is one that brackets stand for, and what follows the brackets. An exclamation
mark in front means the others. -/
def brackets? (c : Char) (pattern : Octets) : Option (Bool × Octets) :=
  match pattern with
  | '!' :: rest => (among c (rest.length + 1) true false rest).map fun (found, after) ↦ (!found, after)
  | _ => among c (pattern.length + 1) true false pattern

def accepts : (limit : Nat) → (pattern text : Octets) → Bool
  | 0, _, _ => false
  | _ + 1, [], text => text.isEmpty
  | limit + 1, p :: rest, text =>
    match p with
    | '*' =>
      accepts limit rest text ||
        match text with
        | _ :: later => accepts limit (p :: rest) later
        | [] => false
    | '?' =>
      match text with
      | _ :: later => accepts limit rest later
      | [] => false
    | '[' =>
      match text with
      | [] => false
      | c :: later =>
        match brackets? c rest with
        | some (found, after) => found && accepts limit after later
        | none => c == '[' && accepts limit rest later
    | _ =>
      let (literal, after) := match p, rest with
        | '\\', d :: more => (d, more)
        | _, _ => (p, rest)
      match text with
      | c :: later => c == literal && accepts limit after later
      | [] => false

def isMatch (pattern text : Octets) : Bool :=
  accepts (pattern.length + text.length + 1) pattern text

/-- An empty pattern stands for the empty text only. -/
@[simp] theorem isMatch_nil (text : Octets) : isMatch [] text = text.isEmpty := rfl

/-- How many characters at the start of a text are of a pattern's form: the fewest or the most. -/
def lengthAtStart? (longest : Bool) (pattern text : Octets) : Option Nat :=
  let lengths := List.range (text.length + 1)
  (if longest then lengths.reverse else lengths).find? fun n ↦ isMatch pattern (text.take n)

/-- How many characters stand in front of an end of a pattern's form: the shortest or the longest end. -/
def lengthBeforeEnd? (longest : Bool) (pattern text : Octets) : Option Nat :=
  let lengths := List.range (text.length + 1)
  (if longest then lengths else lengths.reverse).find? fun n ↦ isMatch pattern (text.drop n)

end Pattern

end ProgressActions.Shell
