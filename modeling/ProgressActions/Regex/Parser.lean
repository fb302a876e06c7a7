import ProgressActions.Regex

/-!
# Reading regular expressions

There are two ways to write regular expressions. In the basic one, parentheses, braces and bars are
operators behind a backslash; in the extended one without it.
-/

namespace ProgressActions.Regex

/-- Why a text is no regular expression. -/
inductive RegexProblem where
  | invalid
  | openBracket
  | openParenthesis
  | closingParenthesis
  | openBrace
  | badBrace
  | badRange
  | badClass
  | badCollation
  | badReference
  | trailingBackslash
  | nothingToRepeat
  | tooBig
  deriving DecidableEq, Repr

namespace RegexProblem

def message : RegexProblem → String
  | invalid => "Invalid regular expression"
  | openBracket => "Unmatched [, [^, [:, [., or [="
  | openParenthesis => "Unmatched ( or \\("
  | closingParenthesis => "Unmatched ) or \\)"
  | openBrace => "Unmatched \\\x7b"
  | badBrace => "Invalid content of \\\x7b\\\x7d"
  | badRange => "Invalid range end"
  | badClass => "Invalid character class name"
  | badCollation => "Invalid collation character"
  | badReference => "Invalid back reference"
  | trailingBackslash => "Trailing backslash"
  | nothingToRepeat => "Invalid preceding regular expression"
  | tooBig => "Regular expression too big"

end RegexProblem

/-- A way to write regular expressions. -/
structure Style where
  isExtended : Bool
  /-- Whether backslashes hide characters in brackets, too. -/
  escapesInBrackets : Bool := false
  /-- Whether backslashes stand for control characters in front of letters. -/
  hasEscapes : Bool := false
  /-- Whether a closing parenthesis without an opening one stands for itself. -/
  admitsLoneClosing : Bool := false
  /-- Whether operators that have nothing to work on and braces without bounds are refused. -/
  isStrict : Bool := false

namespace Style

def basic : Style := { isExtended := false }

def extended : Style := { isExtended := true }

end Style

/-- A reader of a regular expression: the text that is left, and how many groups have begun. -/
structure Cursor where
  rest : Octets
  groups : Nat := 0

abbrev Parser := StateT Cursor (Except RegexProblem)

def classRanges? (name : String) : Option (List (Char × Char)) :=
  match name with
  | "alpha" => some [('a', 'z'), ('A', 'Z')]
  | "digit" => some [('0', '9')]
  | "alnum" => some [('a', 'z'), ('A', 'Z'), ('0', '9')]
  | "upper" => some [('A', 'Z')]
  | "lower" => some [('a', 'z')]
  | "space" => some [('\t', '\x0d'), (' ', ' ')]
  | "blank" => some [('\t', '\t'), (' ', ' ')]
  | "punct" => some [('!', '/'), (':', '@'), ('[', '\x60'), ('\x7b', '~')]
  | "print" => some [(' ', '~')]
  | "graph" => some [('!', '~')]
  | "cntrl" => some [('\x00', '\x1f'), ('\x7f', '\x7f')]
  | "xdigit" => some [('0', '9'), ('a', 'f'), ('A', 'F')]
  | _ => none

/-- The control character that a letter behind a backslash stands for. -/
def control? : Char → Option Char
  | 'n' => some '\n'
  | 't' => some '\t'
  | 'r' => some '\x0d'
  | 'f' => some '\x0c'
  | 'v' => some '\x0b'
  | 'a' => some '\x07'
  | _ => none

namespace Parser

def fail {α : Type} (cause : RegexProblem) : Parser α := throw cause

def rest : Parser Octets := do pure (← get).rest

def drop (count : Nat) : Parser Unit := modify fun c ↦ { c with rest := c.rest.drop count }

/-- A character in brackets as a single one: it may be spelled between brackets and points. -/
def element? (style : Style) (text : Octets) : Option (Char × Nat) :=
  match text with
  | '[' :: mark :: c :: close :: ']' :: _ =>
    if (mark = '.' ∨ mark = '=') ∧ close = mark then some (c, 5) else some ('[', 1)
  | '\\' :: c :: _ =>
    if style.escapesInBrackets then
      match control? c with
      | some d => some (d, 2)
      | none => some (c, 2)
    else if style.hasEscapes then
      match c with
      | 'n' => some ('\n', 2)
      | 't' => some ('\t', 2)
      | _ => some ('\\', 1)
    else some ('\\', 1)
  | c :: _ => some (c, 1)
  | [] => none

def ranges (style : Style) : (limit : Nat) → (isFirst : Bool) → Parser (List (Char × Char))
  | 0, _ => fail .openBracket
  | limit + 1, isFirst => do
    match ← rest with
    | [] => fail .openBracket
    | ']' :: more =>
      if !isFirst then
        modify ({ · with rest := more })
        pure []
      else single limit
    | '[' :: ':' :: more =>
      let name := more.takeWhile Char.isAlpha
      if ":]".toList.isPrefixOf (more.drop name.length) then
        match classRanges? (String.ofList name) with
        | some found =>
          drop (name.length + 4)
          pure (found ++ (← ranges style limit false))
        | none => fail .badClass
      else if (more.dropWhile (· != ']')) = [] then fail .openBracket
      else single limit
    | '[' :: mark :: more =>
      let name := more.takeWhile (· != mark)
      let isNamed := (mark == '.' || mark == '=') && [mark, ']'].isPrefixOf (more.drop name.length)
      if isNamed ∧ name.length ≠ 1 then fail .badCollation else single limit
    | '-' :: next :: _ =>
      if !isFirst ∧ next ≠ ']' ∧ !style.escapesInBrackets then fail .badRange else single limit
    | _ => single limit
where
  single (limit : Nat) : Parser (List (Char × Char)) := do
    match element? style (← rest) with
    | none => fail .openBracket
    | some (low, length) =>
      drop length
      match ← rest with
      | '-' :: next :: more =>
        if next = ']' then pure ((low, low) :: (← ranges style limit false))
        else
          match element? style (next :: more) with
          | none => fail .openBracket
          | some (high, count) =>
            if high < low then fail .badRange
            else
              drop (1 + count)
              pure ((low, high) :: (← ranges style limit false))
      | _ => pure ((low, low) :: (← ranges style limit false))

/-- A set in brackets, the opening one having been read. -/
def set (style : Style) : Parser Regex := do
  let text ← rest
  let isNegated := text.head? == some '^'
  if isNegated then drop 1
  if (← rest) = [] then fail .invalid
  let found ← ranges style (text.length + 1) true
  pure (.among { isNegated, ranges := found })

/-- The bounds in braces behind an expression, if they are well formed, and how long they are. -/
def bounds? (style : Style) (text : Octets) : Except RegexProblem (Option (Nat × Option Nat × Nat)) :=
  let least := text.takeWhile Char.isDigit
  let afterLeast := text.drop least.length
  let (most, length) : Option Octets × Nat := match afterLeast with
    | ',' :: more =>
      let digits := more.takeWhile Char.isDigit
      (some digits, least.length + 1 + digits.length)
    | _ => (none, least.length)
  let close := if style.isExtended then ['\x7d'] else ['\\', '\x7d']
  if close.isPrefixOf (text.drop length) ∧ (least ≠ [] ∨ most.isSome) then
    let low := Text.digitsValue least
    let high : Option Nat := match most with
      | none => some low
      | some [] => none
      | some digits => some (Text.digitsValue digits)
    if high.any (· < low) then .error .badBrace
    else if low > 32767 ∨ high.any (· > 32767) then .error .tooBig
    else .ok (some (low, high, length + close.length))
  else if style.isExtended ∧ !style.isStrict then .ok none
  else if (List.range text.length).any (fun n ↦ close.isPrefixOf (text.drop n)) then .error .badBrace
  else .error .openBrace

/-- Repeats an expression by the operators behind it. -/
def repeated (style : Style) : (limit : Nat) → (isFirst : Bool) → Regex → Parser Regex
  | 0, _, x => pure x
  | limit + 1, isFirst, x => do
    if style.isStrict ∧ !style.isExtended ∧ !isFirst then
      if [['*'], ['\\', '\x7b']].any (·.isPrefixOf (← rest)) then fail .nothingToRepeat
    let braces (text : Octets) (skipped : Nat) : Parser Regex := do
      match bounds? style text with
      | .error cause => fail cause
      | .ok none => pure x
      | .ok (some (least, most, length)) =>
        drop (skipped + length)
        repeated style limit false (.times x least most)
    match ← rest, style.isExtended with
    | '*' :: more, _ =>
      modify ({ · with rest := more })
      repeated style limit false (.times x 0 none)
    | '+' :: more, true =>
      modify ({ · with rest := more })
      repeated style limit false (.times x 1 none)
    | '?' :: more, true =>
      modify ({ · with rest := more })
      repeated style limit false (.times x 0 (some 1))
    | '\x7b' :: more, true => braces more 1
    | '\\' :: '+' :: more, false =>
      modify ({ · with rest := more })
      repeated style limit false (.times x 1 none)
    | '\\' :: '?' :: more, false =>
      modify ({ · with rest := more })
      repeated style limit false (.times x 0 (some 1))
    | '\\' :: '\x7b' :: more, false => braces more 2
    | _, _ => pure x

/-- What a backslash and a character stand for, unless they are an operator. -/
def escaped (style : Style) (c : Char) : Parser Regex := do
  let word : List (Char × Char) := [('a', 'z'), ('A', 'Z'), ('0', '9'), ('_', '_')]
  let space := (classRanges? "space").getD []
  match c with
  | 'w' => pure (.among { ranges := word })
  | 'W' => pure (.among { isNegated := true, ranges := word })
  | 's' => pure (.among { ranges := space })
  | 'S' => pure (.among { isNegated := true, ranges := space })
  | '<' => pure (.boundary false true)
  | '>' => pure (.boundary true false)
  | 'b' => pure (.edge true)
  | 'B' => pure (.edge false)
  | '\x60' => pure .textStart
  | '\'' => pure .textEnd
  | _ =>
    if c.isDigit ∧ c ≠ '0' then
      let n := c.toNat - 48
      if n > (← get).groups then fail .badReference else pure (.again n)
    else if style.hasEscapes then
      match control? c with
      | some d => pure (.char d)
      | none => pure (.char c)
    else pure (.char c)

mutual

/-- Alternatives up to the end or to a closing parenthesis. -/
def alternatives (style : Style) : (limit : Nat) → (depth : Nat) → Parser Regex
  | 0, _ => fail .tooBig
  | limit + 1, depth => do
    let first ← row style limit depth true
    let bar := if style.isExtended then ['|'] else ['\\', '|']
    if bar.isPrefixOf (← rest) then
      drop bar.length
      pure (.either first (← alternatives style limit depth))
    else pure first

/-- A row of expressions, each with its operators. -/
def row (style : Style) : (limit : Nat) → (depth : Nat) → (isStart : Bool) → Parser Regex
  | 0, _, _ => fail .tooBig
  | limit + 1, depth, isStart => do
    let text ← rest
    let isOver := match text, style.isExtended with
      | [], _ => true
      | '|' :: _, true => true
      | ')' :: _, true => depth != 0 || !style.admitsLoneClosing
      | '\\' :: '|' :: _, false => true
      | '\\' :: ')' :: _, false => true
      | _, _ => false
    if isOver then pure .empty
    else
      let first ← atom style limit depth isStart
      let wasStart := first == .lineStart && isStart
      let isAlone : Bool := first.isAnchor && (style.isStrict || (wasStart && !style.isExtended))
      let whole ← if isAlone then pure first else repeated style (text.length + 1) true first
      let others ← row style limit depth (wasStart || (isAlone && style.isExtended))
      pure (if others = .empty then whole else .both whole others)

/-- A single expression without operators. -/
def atom (style : Style) : (limit : Nat) → (depth : Nat) → (isStart : Bool) → Parser Regex
  | 0, _, _ => fail .tooBig
  | limit + 1, depth, isStart => do
    let inGroup : Parser Regex := do
      let number := (← get).groups + 1
      modify ({ · with groups := number })
      let body ← alternatives style limit (depth + 1)
      let close := if style.isExtended then [')'] else ['\\', ')']
      if close.isPrefixOf (← rest) then
        drop close.length
        pure (.group number body)
      else fail .openParenthesis
    let endsHere (more : Octets) : Bool :=
      more.isEmpty || (if style.isExtended then [['|'], [')']] else [['\\', '|'], ['\\', ')']]).any
        (·.isPrefixOf more)
    match ← rest with
    | [] => pure .empty
    | '\\' :: more =>
      match more with
      | [] => fail .trailingBackslash
      | c :: _ =>
        drop 2
        if !style.isExtended then
          match c with
          | '(' => inGroup
          | '\x7b' => if isStart then fail .nothingToRepeat else pure (.char c)
          | _ => escaped style c
        else escaped style c
    | c :: more =>
      if style.isStrict ∧ style.isExtended ∧ isStart ∧ "*+?\x7b".toList.contains c then
        fail .nothingToRepeat
      drop 1
      match c with
      | '.' => pure .any
      | '[' => set style
      | '^' => pure (if style.isExtended ∨ isStart then .lineStart else .char '^')
      | '$' => pure (if style.isExtended ∨ endsHere more then .lineEnd else .char '$')
      | '(' => if style.isExtended then inGroup else pure (.char c)
      | '*' =>
        if style.isExtended ∧ isStart then pure .empty else pure (.char c)
      | _ => pure (.char c)

end

end Parser

/-- The regular expression that a text spells in a style. -/
def parse (style : Style) (text : Octets) : Except RegexProblem Regex := do
  let (x, last) ← (Parser.alternatives style (4 * text.length + 16) 0).run { rest := text }
  match last.rest with
  | [] => pure x
  | _ => throw .closingParenthesis

/-- The expression for a text that stands for itself. -/
def literal : Octets → Regex
  | [] => .empty
  | [c] => .char c
  | c :: rest => .both (.char c) (literal rest)

end ProgressActions.Regex
