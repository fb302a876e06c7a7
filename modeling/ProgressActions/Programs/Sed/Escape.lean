import ProgressActions.Programs.Sed.Script
import ProgressActions.Text.Based

/-!
# Escapes in scripts

A backslash in a script may stand for a control character or for a character by its number. What is left
of the backslashes belongs to regular expressions or to replacements.
-/

namespace ProgressActions.Programs.Sed

/-! ## Texts between delimiters -/

/-- What of a bracket expression has been read: nothing special, an inner opening bracket, the inside of a
named class, or the mark that may end it. -/
inductive Bracket where
  | outside
  | opened
  | named (mark : Char)
  | closing (mark : Char)
  deriving DecidableEq, Repr

namespace Bracket

/-- Whether a character opens and closes names of classes together with a bracket. -/
def isMark (c : Char) : Bool := ".:=".toList.contains c

/-- What has been read after a further character, or nothing if that one ends the expression. -/
def step : Bracket → Char → Option Bracket
  | outside, '[' => some opened
  | outside, ']' => none
  | opened, ']' => none
  | opened, c => some (if isMark c then named c else outside)
  | closing _, ']' => some outside
  | named mark, c => some (if c = mark then closing mark else named mark)
  | closing mark, c => some (if c = mark then closing mark else named mark)
  | outside, _ => some outside

/-- How long the rest of a bracket expression is. A line feed or the end of the text leaves it open. -/
def length? : Bracket → Octets → Option Nat
  | _, [] => none
  | b, c :: rest =>
    if c = '\n' then none
    else
      match b.step c with
      | none => some 1
      | some next => (next.length? rest).map (· + 1)

end Bracket

/-- The length of a bracket expression behind its opening bracket. -/
def bracketLength? (text : Octets) : Option Nat :=
  let sign := if text.head? = some '^' then 1 else 0
  let first := if text[sign]? = some ']' then 1 else 0
  (Bracket.length? .outside (text.drop (sign + first))).map (· + (sign + first))

/-- A text up to a delimiter, and how many characters of the script it takes with the delimiter, or up to
where it breaks off. -/
structure Delimited where
  text? : Option Octets
  length : Nat
  deriving DecidableEq, Repr

namespace Delimited

def extend (front : Octets) (length : Nat) (d : Delimited) : Delimited :=
  { text? := d.text?.map (front ++ ·), length := d.length + length }

/-- The text up to a delimiter; in regular expressions, delimiters in brackets do not count. -/
def read (delimiter : Char) (isRegex : Bool) : (limit : Nat) → Octets → Delimited
  | 0, _ => { text? := none, length := 0 }
  | _ + 1, [] => { text? := none, length := 0 }
  | limit + 1, c :: rest =>
    if c = '\n' then { text? := none, length := 0 }
    else if c = delimiter then { text? := some [], length := 1 }
    else if c = '\\' then
      match rest with
      | [] => { text? := none, length := 1 }
      | d :: more =>
        let shown : Octets :=
          if d = delimiter then (if !isRegex && d == '&' then ['\\', d] else [d])
          else if d = 'n' && isRegex then ['\n']
          else if d = '\n' then [d]
          else ['\\', d]
        (read delimiter isRegex limit more).extend shown 2
    else if c = '[' && isRegex then
      match bracketLength? rest with
      | some length =>
        (read delimiter isRegex limit (rest.drop length)).extend (c :: rest.take length) (length + 1)
      | none => { text? := none, length := 1 + (rest.takeWhile (· != '\n')).length }
    else (read delimiter isRegex limit rest).extend [c] 1

end Delimited

/-! ## Escapes -/

inductive Role where
  | expression
  | replacement
  | plain
  deriving DecidableEq, Repr

/-- The base of numbers behind a letter, and how many digits they have at most. -/
def numberBase? : Char → Option (Nat × Nat)
  | 'd' => some (10, 3)
  | 'o' => some (8, 3)
  | 'x' => some (16, 2)
  | _ => none

/-- The control character that a letter stands for. -/
def control? : Char → Option Char
  | 'a' => some '\x07'
  | 'f' => some '\x0c'
  | 'n' => some '\n'
  | 'r' => some '\x0d'
  | 't' => some '\t'
  | 'v' => some '\x0b'
  | _ => none

/-- A character that was given by its number, so that it stands for itself where that is meant. -/
def numbered (role : Role) (c : Char) : Octets :=
  if c = '\\' ∨ (c = '&' ∧ role = .replacement) then ['\\', c] else [c]

/-- A text in which the escapes for characters have been replaced. -/
def resolved (role : Role) : (limit : Nat) → Octets → Except Problem Octets
  | 0, text => .ok text
  | _ + 1, [] => .ok []
  | limit + 1, '\\' :: c :: rest =>
    match control? c, numberBase? c with
    | some d, _ => (resolved role limit rest).map (d :: ·)
    | none, some (base, most) =>
      let digits := (rest.take most).takeWhile (Text.isDigitOf base)
      if digits = [] then (resolved role limit rest).map (['\\', c] ++ ·)
      else
        let d := Char.ofNat (Text.basedValue base digits % 256)
        (resolved role limit (rest.drop digits.length)).map (numbered role d ++ ·)
    | none, none =>
      if c = 'c' then
        match rest with
        | [] => .ok ['\\', '\\']
        | '\\' :: d :: more =>
          if d = '\\' then (resolved role limit more).map ('\x1c' :: ·) else .error .recursiveEscape
        | d :: more =>
          let code := Char.ofNat (d.toUpper.toNat ^^^ 0x40)
          (resolved role limit more).map (numbered role code ++ ·)
      else (resolved role limit rest).map (['\\', c] ++ ·)
  | limit + 1, c :: rest => (resolved role limit rest).map (c :: ·)

/-- A text in which a backslash hides only itself. -/
def unescaped : Octets → Octets
  | '\\' :: c :: rest => c :: unescaped rest
  | ['\\'] => []
  | c :: rest => c :: unescaped rest
  | [] => []

/-! ## Replacements -/

/-- The segments of a replacement. The casing is that of the segment in the making. -/
def segments (casing : Casing) (first? : Option Casing) : (text : Octets) → Octets → List Segment
  | text, [] => [{ text := text.reverse, casing, first? }]
  | text, '&' :: rest =>
    { text := text.reverse, group? := some 0, casing, first? } :: segments casing none [] rest
  | text, '\\' :: c :: rest =>
    let done (group? : Option Nat) : Segment := { text := text.reverse, group?, casing, first? }
    if c.isDigit then done (some (c.toNat - 48)) :: segments casing none [] rest
    else
      match c with
      | 'U' => done none :: segments .upper none [] rest
      | 'L' => done none :: segments .lower none [] rest
      | 'E' => done none :: segments .kept none [] rest
      | 'u' => done none :: segments casing (some .upper) [] rest
      | 'l' => done none :: segments casing (some .lower) [] rest
      | _ => segments casing first? (c :: text) rest
  | text, c :: rest => segments casing first? (c :: text) rest

def replacementOf (text : Octets) : List Segment := segments .kept none [] text

def highestGroup (replacement : List Segment) : Nat :=
  replacement.foldl (fun most s ↦ max most (s.group?.getD 0)) 0

/-- A replacement of plain characters is a single segment. -/
theorem replacementOf_plain {text : Octets} (h : ∀ c ∈ text, c ≠ '&' ∧ c ≠ '\\') :
    replacementOf text = [{ text }] := by
  have hrow : ∀ (t : Octets), (∀ c ∈ t, c ≠ '&' ∧ c ≠ '\\') → ∀ front,
      segments .kept none front t = [{ text := front.reverse ++ t }] := by
    intro t
    induction t with
    | nil => intro _ front; simp [segments]
    | cons c rest ih =>
      intro ht front
      obtain ⟨hand, hslash⟩ := ht c (by simp)
      rw [segments]
      · rw [ih (fun d hd ↦ ht d (by simp [hd]))]
        simp
      · exact hand
      · intro d more hc
        exact absurd hc hslash
  simpa [replacementOf] using hrow text h []

end ProgressActions.Programs.Sed
