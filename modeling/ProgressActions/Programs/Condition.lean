import ProgressActions.Process
import ProgressActions.Text.Numeral

/-!
# Conditions of `test`

A condition compares texts, whole numbers or files, or asks about a text or a file. Conditions can be
denied, joined, and put in parentheses. A word that could be an operator counts as one only where an
operator may stand.
-/

namespace ProgressActions.Programs

inductive ConditionProblem where
  | missingBracket
  | illegalNumber (word : Octets)
  | unexpectedOperator (word : Octets)
  | argumentExpected (word : Octets)
  | missingParenthesis
  deriving DecidableEq, Repr

namespace ConditionProblem

def message : ConditionProblem → Octets
  | missingBracket => "missing ]".toList
  | illegalNumber word => "Illegal number: ".toList ++ word
  | unexpectedOperator word =>
    if word = [] then "unexpected operator".toList else word ++ ": unexpected operator".toList
  | argumentExpected word => word ++ ": argument expected".toList
  | missingParenthesis => "closing paren expected".toList

end ConditionProblem

namespace Condition

/-! ## Operators -/

def unary : List String :=
  ["-r", "-w", "-x", "-e", "-f", "-d", "-c", "-b", "-p", "-u", "-g", "-k", "-s", "-t", "-z", "-n", "-h",
   "-O", "-G", "-L", "-S"]

/-- Operators between two words. -/
def binary : List String :=
  ["=", "!=", "<", ">", "-eq", "-ne", "-ge", "-gt", "-le", "-lt", "-nt", "-ot", "-ef"]

inductive Meaning where
  | finish
  | operand
  | unary (operator : String)
  | binary (operator : String)
  | not
  | and
  | or
  | opening
  | closing
  deriving DecidableEq, Repr

def operator? (word : Octets) : Option Meaning :=
  match String.ofList word with
  | "!" => some .not
  | "-a" => some .and
  | "-o" => some .or
  | "(" => some .opening
  | ")" => some .closing
  | text =>
    if unary.contains text then some (.unary text)
    else if binary.contains text then some (.binary text)
    else none

/-- Whether a word is an operator between two words. -/
def isBinary (word : Octets) : Bool := binary.contains (String.ofList word)

def meaning (words : Array Octets) (place : Nat) : Meaning :=
  match words[place]? with
  | none => .finish
  | some word =>
    match operator? word with
    | some (.unary operator) =>
      match words[place + 1]?, words[place + 2]? with
      | none, _ => .operand
      | some _, none => .unary operator
      | some next, some _ => if isBinary next then .operand else .unary operator
    | some .opening => if place + 1 < words.size then .opening else .operand
    | some other => other
    | none => .operand

/-! ## Files -/

def node? (p : Process) (follows : Bool) (path : Octets) : Option Nat := (p.node? path follows).toOption

/-- What a descriptor's name leads to. -/
def bodyOf (p : Process) (id : Nat) : Body :=
  match p.machine.body id with
  | .descriptor n =>
    match p.openOf? n with
    | some file => p.machine.body (p.machine.opens.getD file default).node
    | none => .null
  | body => body

/-- The answer to a question about a file. -/
def fileHolds (p : Process) (operator : String) (path : Octets) : Bool :=
  if operator = "-h" ∨ operator = "-L" then
    match node? p false path with
    | some id => match p.machine.body id with
      | .link _ => true
      | _ => false
    | none => false
  else
    match node? p true path with
    | none => false
    | some id =>
      let mode := (p.machine.node id).mode
      match operator, bodyOf p id with
      | "-d", .directory _ _ => true
      | "-f", .file _ => true
      | "-f", .program _ => true
      | "-c", .null => true
      | "-c", .zero => true
      | "-c", .full => true
      | "-c", .absent => true
      | "-p", .stream _ => true
      | "-s", .file content => content.size != 0
      | "-s", .program _ => true
      | "-s", .directory _ _ => true
      | "-x", .directory _ _ => true
      | "-x", _ => mode &&& 0o111 != 0
      | "-u", _ => mode &&& 0o4000 != 0
      | "-g", _ => mode &&& 0o2000 != 0
      | "-k", _ => mode &&& 0o1000 != 0
      | _, _ => ["-e", "-r", "-w", "-O", "-G"].contains operator

def filesHold (p : Process) (operator : String) (first second : Octets) : Bool :=
  let time : Option Nat → Option Int := fun id ↦ id.map fun n ↦ (p.machine.node n).modified
  let a := node? p true first
  let b := node? p true second
  match operator, time a, time b with
  | "-ef", some _, some _ => a == b
  | "-nt", some x, some y => x > y
  | "-nt", some _, none => true
  | "-ot", some x, some y => x < y
  | "-ot", none, some _ => true
  | _, _, _ => false

/-! ## Reading -/

/-- A condition that is being read: the place of the word at hand. -/
abbrev Reader := StateT Nat (Except ConditionProblem)

/-- The whole number that a word spells, with blanks around it. -/
def number (word : Octets) : Reader Int :=
  let isBlank : Char → Bool := " \t\n\x0b\x0c\x0d".toList.contains
  let start := word.dropWhile isBlank
  let (negative, digits) := match start with
    | '-' :: rest => (true, rest)
    | '+' :: rest => (false, rest)
    | _ => (false, start)
  let run := digits.takeWhile Char.isDigit
  let n : Int := Text.digitsValue run
  let value := if negative then -n else n
  if run ≠ [] ∧ (digits.drop run.length).all isBlank ∧ -(Nat.pow 2 63 : Int) ≤ value ∧ value < Nat.pow 2 63 then
    pure value
  else throw (.illegalNumber word)

def compare (p : Process) (operator : String) (first second : Octets) : Reader Bool := do
  match operator with
  | "=" => pure (first == second)
  | "!=" => pure (first != second)
  | "<" => pure (Octets.before first second)
  | ">" => pure (Octets.before second first)
  | "-eq" => pure ((← number first) == (← number second))
  | "-ne" => pure ((← number first) != (← number second))
  | "-lt" => pure (decide ((← number first) < (← number second)))
  | "-le" => pure (decide ((← number first) ≤ (← number second)))
  | "-gt" => pure (decide ((← number first) > (← number second)))
  | "-ge" => pure (decide ((← number first) ≥ (← number second)))
  | _ => pure (filesHold p operator first second)

mutual

def anyOf (p : Process) (words : Array Octets) : (limit : Nat) → Meaning → Reader Bool
  | 0, _ => pure false
  | limit + 1, first => do
    let holds ← allOf p words limit first
    let place ← get
    if meaning words (place + 1) = .or then
      set (place + 2)
      let others ← anyOf p words limit (meaning words (place + 2))
      pure (holds || others)
    else pure holds

def allOf (p : Process) (words : Array Octets) : (limit : Nat) → Meaning → Reader Bool
  | 0, _ => pure false
  | limit + 1, first => do
    let holds ← denied p words limit first
    let place ← get
    if meaning words (place + 1) = .and then
      set (place + 2)
      let others ← allOf p words limit (meaning words (place + 2))
      pure (holds && others)
    else pure holds

def denied (p : Process) (words : Array Octets) : (limit : Nat) → Meaning → Reader Bool
  | 0, _ => pure false
  | limit + 1, first => do
    if first ≠ .not then primary p words limit first
    else
      let place ← get
      let next := meaning words (place + 1)
      if next ≠ .finish then set (place + 1)
      pure (!(← denied p words limit next))

def primary (p : Process) (words : Array Octets) : (limit : Nat) → Meaning → Reader Bool
  | 0, _ => pure false
  | limit + 1, first => do
    let place ← get
    let word : Nat → Octets := fun n ↦ words.getD n []
    match first with
    | .finish => pure false
    | .opening =>
      set (place + 1)
      let next := meaning words (place + 1)
      if next = .closing then pure false
      else
        let holds ← anyOf p words limit next
        modify (· + 1)
        if meaning words (← get) ≠ .closing then throw .missingParenthesis
        pure holds
    | .unary operator =>
      set (place + 1)
      match words[place + 1]? with
      | none => throw (.argumentExpected operator.toList)
      | some subject =>
        match operator with
        | "-z" => pure subject.isEmpty
        | "-n" => pure (!subject.isEmpty)
        | "-t" =>
          discard (number subject)
          pure false
        | _ => pure (fileHolds p operator subject)
    | _ =>
      match meaning words (place + 1) with
      | .binary operator =>
        match words[place + 2]? with
        | none =>
          set (place + 2)
          throw (.argumentExpected operator.toList)
        | some second =>
          set (place + 2)
          compare p operator (word place) second
      | _ => pure (!(word place).isEmpty)

end

def whole (p : Process) (words : Array Octets) (first : Meaning) : Except ConditionProblem Bool := do
  let (holds, place) ← (anyOf p words (4 * words.size + 8) first).run 0
  match words[place]?, words[place + 1]? with
  | some word, some _ => throw (.unexpectedOperator word)
  | _, _ => pure holds

/-- Whether the condition that words spell holds. No words spell a condition that does not. Between two
words an operator is one, whatever the words are. -/
def holds (p : Process) : (limit : Nat) → List Octets → Except ConditionProblem Bool
  | 0, _ => .ok false
  | limit + 1, words =>
    let all := words.toArray
    let enclosed := words.head? == some ['('] && words.getLast? == some [')']
    let usual := whole p all (meaning all 0)
    let special : Except ConditionProblem Bool :=
      if enclosed then
        let inside := (words.drop 1).dropLast.toArray
        whole p inside (meaning inside 0)
      else if words.head? = some ['!'] then (holds p limit (words.drop 1)).map (!·)
      else usual
    match words with
    | [] => .ok false
    | [_, operator, _] => if isBinary operator then whole p all .operand else special
    | [_, _, _, _] => special
    | _ => usual

end Condition

def condition (p : Process) (words : List Octets) : Except ConditionProblem Bool :=
  Condition.holds p (words.length + 1) words

def bracketCondition (p : Process) (words : List Octets) : Except ConditionProblem Bool :=
  if words.getLast? = some [']'] then condition p words.dropLast else .error .missingBracket

def conditionStatus : Except ConditionProblem Bool → Nat
  | .ok true => 0
  | .ok false => 1
  | .error _ => 2

end ProgressActions.Programs
