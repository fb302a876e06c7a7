import ProgressActions.Programs.Basic
import ProgressActions.Regex.Parser

/-!
# Words as expressions

`expr` evaluates an expression whose parts are words: numbers and texts, joined by operators of six
levels, and matched against regular expressions.
-/

namespace ProgressActions.Programs

namespace Expr

inductive Value where
  | number (n : Int)
  | text (t : Octets)
  deriving DecidableEq, Repr

/-- Why words are no expression, or have no value. -/
inductive Problem where
  | missingArgument (after : Octets)
  | unexpected (word : Octets)
  | unexpectedClosing
  | missingClosing (after : Octets)
  | noClosing (found : Octets)
  | notWhole
  | divisionByZero
  | regex (cause : Regex.RegexProblem)
  deriving DecidableEq, Repr

def Problem.message : Problem → Octets
  | missingArgument word => "syntax error: missing argument after ".toList ++ Quoting.plain word
  | unexpected word => "syntax error: unexpected argument ".toList ++ Quoting.plain word
  | unexpectedClosing => "syntax error: unexpected ')'".toList
  | missingClosing word => "syntax error: expecting ')' after ".toList ++ Quoting.plain word
  | noClosing word => "syntax error: expecting ')' instead of ".toList ++ Quoting.plain word
  | notWhole => "non-integer argument".toList
  | divisionByZero => "division by zero".toList
  | regex cause => cause.message.toList

namespace Value

def toText : Value → Octets
  | number n => Octets.ofInt n
  | text t => t

def whole? (t : Octets) : Option Int :=
  match t with
  | '-' :: digits => (Text.natural? digits).map fun n ↦ -(n : Int)
  | _ => (Text.natural? t).map fun n ↦ (n : Int)

def number? : Value → Option Int
  | number n => some n
  | text t => whole? t

def isNull : Value → Bool
  | number n => n == 0
  | text [] => true
  | text t =>
    let digits := if t.head? = some '-' then t.drop 1 else t
    !digits.isEmpty && digits.all (· == '0')

def ofBool (b : Bool) : Value := number (if b then 1 else 0)

end Value

/-- A reader of words: those that are left, and the last one that has been read. -/
structure Cursor where
  rest : List Octets
  last : Octets := []

abbrev Reader := StateT Cursor (Except Problem)

def next? (words : List String) : Reader (Option String) := do
  let c ← get
  match c.rest with
  | word :: more =>
    match words.find? (·.toList == word) with
    | some found =>
      set { c with rest := more, last := word }
      pure (some found)
    | none => pure none
  | [] => pure none

def word : Reader Octets := do
  let c ← get
  match c.rest with
  | found :: more =>
    set { c with rest := more, last := found }
    pure found
  | [] => throw (.missingArgument c.last)

/-- What a regular expression at the start of a text accepts: the stretch of its first group, or how long
it is. -/
def matched (subject pattern : Octets) : Reader Value :=
  match Regex.parse .basic pattern with
  | .error cause => throw (.regex cause)
  | .ok x =>
    let reading : Regex.Reading := { text := subject.toArray }
    match x.longestAt? reading 0 with
    | none => pure (if x.groupCount = 0 then .number 0 else .text [])
    | some m => pure (if x.groupCount = 0 then .number (m.stop - m.start : Nat) else .text (m.text reading 1))

def substring (subject : Octets) (place length : Value) : Value :=
  match place.number?, length.number? with
  | some p, some n =>
    if p ≤ 0 ∨ n ≤ 0 then .text [] else .text ((subject.drop (p.toNat - 1)).take n.toNat)
  | _, _ => .text []

/-- The number of the first character of a text that is among others. -/
def index (subject others : Octets) : Value :=
  match subject.findIdx? others.contains with
  | some n => .number (n + 1)
  | none => .number 0

def compared (operator : String) (a b : Value) : Value :=
  let order : Ordering := match a.number?, b.number? with
    | some m, some n => compare m n
    | _, _ =>
      if Octets.before a.toText b.toText then .lt else if a.toText = b.toText then .eq else .gt
  .ofBool (match operator with
    | "<" => order == .lt
    | "<=" => order != .gt
    | ">" => order == .gt
    | ">=" => order != .lt
    | "!=" => order != .eq
    | _ => order == .eq)

def calculated (operator : String) (a b : Value) : Reader Value := do
  match a.number?, b.number? with
  | some m, some n =>
    match operator with
    | "+" => pure (.number (m + n))
    | "-" => pure (.number (m - n))
    | "*" => pure (.number (m * n))
    | "/" => if n = 0 then throw .divisionByZero else pure (.number (m.tdiv n))
    | _ => if n = 0 then throw .divisionByZero else pure (.number (m.tmod n))
  | _, _ => throw .notWhole

def operators : (level : Nat) → List String
  | 0 => ["|"]
  | 1 => ["&"]
  | 2 => ["<", "<=", "=", "==", "!=", ">=", ">"]
  | 3 => ["+", "-"]
  | 4 => ["*", "/", "%"]
  | _ => [":"]

/-- Two values joined by an operator; where nothing is to be evaluated, any value will do. -/
def joined (evaluates : Bool) (operator : String) (a b : Value) : Reader Value :=
  if operator = "|" then
    pure (if !a.isNull then a else if b.isNull then .number 0 else b)
  else if operator = "&" then pure (if a.isNull || b.isNull then .number 0 else a)
  else if !evaluates then pure a
  else if operator = ":" then matched a.toText b.toText
  else if (operators 2).contains operator then pure (compared operator a b)
  else calculated operator a b

mutual

/-- An expression of a level: operands of the next level with operators between them. -/
def ofLevel (evaluates : Bool) : (limit : Nat) → (level : Nat) → Reader Value
  | 0, _ => throw (.unexpected [])
  | limit + 1, level => do
    let first ← if level < 6 then ofLevel evaluates limit (level + 1) else operand evaluates limit
    if level < 6 then further evaluates limit level first else pure first

def further (evaluates : Bool) : (limit : Nat) → (level : Nat) → Value → Reader Value
  | 0, _, value => pure value
  | limit + 1, level, value => do
    match ← next? (operators level) with
    | none => pure value
    | some operator =>
      let goesOn := evaluates && (if operator = "|" then value.isNull
        else if operator = "&" then !value.isNull else true)
      let second ← ofLevel goesOn limit (level + 1)
      further evaluates limit level (← joined evaluates operator value second)

/-- An operand: a function of operands, an expression in parentheses, or a word. -/
def operand (evaluates : Bool) : (limit : Nat) → Reader Value
  | 0 => throw (.unexpected [])
  | limit + 1 => do
    match ← next? ["+", "length", "match", "index", "substr", "(", ")"] with
    | some "+" => .text <$> word
    | some "length" =>
      let value ← operand evaluates limit
      pure (.number value.toText.length)
    | some "match" =>
      let subject ← operand evaluates limit
      let pattern ← operand evaluates limit
      if evaluates then matched subject.toText pattern.toText else pure subject
    | some "index" =>
      let subject ← operand evaluates limit
      let others ← operand evaluates limit
      pure (index subject.toText others.toText)
    | some "substr" =>
      let subject ← operand evaluates limit
      let place ← operand evaluates limit
      let length ← operand evaluates limit
      pure (substring subject.toText place length)
    | some "(" =>
      let value ← ofLevel evaluates limit 0
      let c ← get
      match c.rest with
      | [] => throw (.missingClosing c.last)
      | found :: more =>
        if found = [')'] then
          set { c with rest := more, last := found }
          pure value
        else throw (.noClosing found)
    | some _ => throw .unexpectedClosing
    | none => .text <$> word

end

def evaluate (words : List Octets) : Except Problem Value := do
  let (value, last) ← (ofLevel true (16 * words.length + 32) 0).run { rest := words }
  match last.rest with
  | [] => pure value
  | word :: _ => throw (.unexpected word)

end Expr

/-- Evaluates an expression and shows its value. -/
def expr : Program := fun name arguments ↦ do
  let words := if arguments.head? = some "--".toList then arguments.drop 1 else arguments
  if words = [] then Job.missingOperand name [] 2
  else
    match Expr.evaluate words with
    | .error problem => Job.fail name problem.message 2
    | .ok value =>
      Job.put name (value.toText ++ ['\n']) 3
      Job.finish (!value.isNull)

end ProgressActions.Programs
