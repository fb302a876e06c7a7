import ProgressActions.Shell.State

/-!
# Calculations of a shell

A calculation is evaluated while it is read, in 64-bit arithmetic that wraps. Variables count as the
numbers that they spell, and may be assigned on the way. A part that does not matter for the result is
read without being evaluated.
-/

namespace ProgressActions.Shell

namespace Arithmetic

inductive Token where
  | number (n : Int)
  | name (name : Octets)
  | symbol (text : String)
  | finish
  /-- A character that has no meaning here. -/
  | bad
  deriving DecidableEq, Repr

/-- The signs of operations, longer ones first. -/
def symbols : List String :=
  ["<<=", ">>=", "==", "!=", "<=", ">=", "<<", ">>", "&&", "||", "+=", "-=", "*=", "/=", "%=", "&=",
   "|=", "^=", "+", "-", "*", "/", "%", "<", ">", "&", "|", "^", "!", "~", "?", ":", "=", "(", ")"]

structure Cursor where
  /-- All of its text. -/
  text : Octets
  rest : Octets
  /-- The token behind what has been evaluated. -/
  last : Token := .finish

abbrev Calculation := StateT Cursor Act

def fail {α : Type} (what : String) : Calculation α := do
  let c ← get
  liftM (Act.fail (α := α)
    ("arithmetic expression: ".toList ++ what.toList ++ ": \"".toList ++ c.text ++ ['"']))

def token (text : Octets) : Token × Octets :=
  let start := text.dropWhile fun c ↦ c == ' ' || c == '\t' || c == '\n'
  match start with
  | [] => (.finish, [])
  | c :: rest =>
    if c.isDigit then
      let (n, length) := Text.leadingNumber start
      (.number (Word64.clamp n), start.drop (max length 1))
    else if isNameStart c then
      let name := start.takeWhile isNameRest
      (.name name, start.drop name.length)
    else
      match symbols.find? fun s ↦ s.toList.isPrefixOf start with
      | some s => (.symbol s, start.drop s.length)
      | none => (.bad, c :: rest)

def lex : Calculation Token := do
  let c ← get
  let (found, rest) := token c.rest
  set { c with rest }
  pure found

def setLast (found : Token) : Calculation Unit := modify ({ · with last := found })

/-- How tightly an operation on two operands binds; the tightest is zero. -/
def precedence? (sign : String) : Option Nat :=
  [("*", 0), ("/", 0), ("%", 0), ("+", 1), ("-", 1), ("<<", 2), (">>", 2), ("<", 3), ("<=", 3),
   (">", 3), (">=", 3), ("==", 4), ("!=", 4), ("&", 5), ("^", 6), ("|", 7)].lookup sign

def loosest : Nat := 8

def operation? : Token → Option (String × Nat)
  | .symbol s => (precedence? s).map fun p ↦ (s, p)
  | _ => none

/-- The operation of an assignment, if a token is the sign of one; a plain one has none. -/
def assignment? : Token → Option (Option String)
  | .symbol "=" => some none
  | .symbol s =>
    if ["<<=", ">>=", "+=", "-=", "*=", "/=", "%=", "&=", "|=", "^="].contains s then
      some (some (String.ofList s.toList.dropLast))
    else none
  | _ => none

/-- The number that stands for a truth value. -/
def ofBool (b : Bool) : Int := if b then 1 else 0

/-- The value of an operation on two numbers. -/
def apply (sign : String) (a b : Int) : Calculation Int :=
  match sign with
  | "|" => pure (Word64.bitwise (· ||| ·) a b)
  | "^" => pure (Word64.bitwise (· ^^^ ·) a b)
  | "&" => pure (Word64.bitwise (· &&& ·) a b)
  | "==" => pure (ofBool (a == b))
  | "!=" => pure (ofBool (a != b))
  | "<" => pure (ofBool (a < b))
  | "<=" => pure (ofBool (a ≤ b))
  | ">" => pure (ofBool (a > b))
  | ">=" => pure (ofBool (a ≥ b))
  | "<<" => pure (Word64.wrap (a * Nat.pow 2 (b % 64).toNat))
  | ">>" => pure (a / Nat.pow 2 (b % 64).toNat)
  | "+" => pure (Word64.wrap (a + b))
  | "-" => pure (Word64.wrap (a - b))
  | "*" => pure (Word64.wrap (a * b))
  | _ =>
    if b = 0 then fail "division by zero"
    else if b = -1 ∧ a = -(Nat.pow 2 63 : Int) then liftM (throw (.killed .fpe) : Act Int)
    else pure (if sign = "/" then a.tdiv b else a.tmod b)

/-- The value of a variable as a number. One that is not set counts as zero. -/
def variableValue (name : Octets) : Calculation Int := do
  let text := ((← (get : Act State)).lookup name).getD []
  if text.all Word64.isBlank then pure 0
  else
    match Word64.whole? false text with
    | some n => pure n
    | none => liftM (Act.fail (α := Int) ("Illegal number: ".toList ++ text))

mutual

/-- The value of an operand that begins with a token, the token behind which has been read as well. -/
def operand : (limit : Nat) → (skips : Bool) → (first following : Token) → Calculation Int
  | 0, _, _, _ => fail "expecting primary"
  | limit + 1, skips, first, following =>
    match first with
    | .symbol "(" => do
      let result ← assignment limit skips following
      if (← get).last ≠ .symbol ")" then fail "expecting ')'"
      setLast (← lex)
      pure result
    | .number n => do
      setLast following
      pure n
    | .name name => do
      setLast following
      if skips then pure 0 else variableValue name
    | .symbol "+" => do operand limit skips following (← lex)
    | .symbol "-" => do pure (Word64.wrap (-(← operand limit skips following (← lex))))
    | .symbol "!" => do pure (ofBool ((← operand limit skips following (← lex)) == 0))
    | .symbol "~" => do pure (-(← operand limit skips following (← lex)) - 1)
    | _ => fail "expecting primary"

/-- The value of a first operand and of the operations behind it that bind more tightly than a bound. -/
def operations : (limit : Nat) → (skips : Bool) → (first : Int) → (sign : String) → (own bound : Nat) →
    Calculation Int
  | 0, _, _, _, _, _ => fail "expecting primary"
  | limit + 1, skips, first, sign, own, bound => do
    let start ← lex
    let second ← operand limit skips start (← lex)
    let second ← match operation? (← get).last with
      | some (tighter, level) =>
        if level < own then operations limit skips second tighter level own else pure second
      | none => pure second
    let value ← if skips then pure second else apply sign first second
    match operation? (← get).last with
    | some (next, level) =>
      if level ≥ bound then pure value else operations limit skips value next level bound
    | none => pure value

def row : (limit : Nat) → (skips : Bool) → (first following : Token) → Calculation Int
  | 0, _, _, _ => fail "expecting primary"
  | limit + 1, skips, first, following => do
    let value ← operand limit skips first following
    match operation? (← get).last with
    | some (sign, level) => operations limit skips value sign level loosest
    | none => pure value

def conjunction : (limit : Nat) → (skips : Bool) → (first following : Token) → Calculation Int
  | 0, _, _, _ => fail "expecting primary"
  | limit + 1, skips, first, following => do
    let value ← row limit skips first following
    if (← get).last ≠ .symbol "&&" then pure value
    else
      let start ← lex
      let other ← conjunction limit (skips || value == 0) start (← lex)
      pure (ofBool (value != 0 && other != 0))

def disjunction : (limit : Nat) → (skips : Bool) → (first following : Token) → Calculation Int
  | 0, _, _, _ => fail "expecting primary"
  | limit + 1, skips, first, following => do
    let value ← conjunction limit skips first following
    if (← get).last ≠ .symbol "||" then pure value
    else
      let start ← lex
      let other ← disjunction limit (skips || value != 0) start (← lex)
      pure (ofBool (value != 0 || other != 0))

/-- The value of a choice between two terms. -/
def choice : (limit : Nat) → (skips : Bool) → (first following : Token) → Calculation Int
  | 0, _, _, _ => fail "expecting primary"
  | limit + 1, skips, first, following => do
    let value ← disjunction limit skips first following
    if (← get).last ≠ .symbol "?" then pure value
    else
      let consequence ← assignment limit (skips || value == 0) (← lex)
      if (← get).last ≠ .symbol ":" then fail "expecting ':'"
      let start ← lex
      let alternative ← choice limit (skips || value != 0) start (← lex)
      pure (if value ≠ 0 then consequence else alternative)

def assignment : (limit : Nat) → (skips : Bool) → (first : Token) → Calculation Int
  | 0, _, _ => fail "expecting primary"
  | limit + 1, skips, first => do
    let following ← lex
    match first, assignment? following with
    | .name name, some sign =>
      let value ← assignment limit skips (← lex)
      if skips then pure value
      else
        let result ← match sign with
          | some sign => apply sign (← variableValue name) value
          | none => pure value
        liftM (Act.assign name (Octets.ofInt result))
        pure result
    | _, _ => choice limit skips first following

end

def evaluate (text : Octets) : Act Int := do
  let whole : Calculation Int := do
    let result ← assignment (8 * text.length + 16) false (← lex)
    if (← get).last ≠ .finish then fail "expecting EOF"
    pure result
  let (result, _) ← whole.run { text, rest := text }
  pure result

end Arithmetic

end ProgressActions.Shell
