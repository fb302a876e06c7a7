import ProgressActions.Shell.Syntax

/-!
# Reading the text of a script

A reader takes characters from the front of a text and counts lines. A text that an alias stands for is
read before the text behind the alias. Documents are read at the end of the line that announces them.
-/

namespace ProgressActions.Shell

inductive SyntaxCause where
  | unterminatedQuote
  | missingBrace
  | missingParentheses
  | openBackquote
  | badLoopVariable
  | badFunctionName
  /-- Something stands where something else has to. -/
  | unexpected (found : String) (expected : Option String)
  /-- The text is nested too deeply. -/
  | tooDeep
  deriving DecidableEq, Repr

namespace SyntaxCause

def message : SyntaxCause → String
  | unterminatedQuote => "Syntax error: Unterminated quoted string"
  | missingBrace => "Syntax error: Missing '\x7d'"
  | missingParentheses => "Syntax error: Missing '))'"
  | openBackquote => "Syntax error: EOF in backquote substitution"
  | badLoopVariable => "Syntax error: Bad for loop variable"
  | badFunctionName => "Syntax error: Bad function name"
  | unexpected found none => "Syntax error: " ++ found ++ " unexpected"
  | unexpected found (some expected) =>
    "Syntax error: " ++ found ++ " unexpected (expecting " ++ expected ++ ")"
  | tooDeep => "Syntax error: out of memory"

end SyntaxCause

/-- What is wrong with a text, and on which line. -/
structure SyntaxError where
  line : Nat
  cause : SyntaxCause
  deriving DecidableEq, Repr

inductive Token where
  | finish
  | lineFeed
  | operator (text : String)
  | redirection (descriptor : Option Nat) (operator : String)
  /-- A word, and whether any of it was quoted. -/
  | word (w : Word) (quoted : Bool)
  | keyword (name : String)

instance : Inhabited Token := ⟨.finish⟩

namespace Token

def description : Token → String
  | finish => "end of file"
  | lineFeed => "newline"
  | operator text => "\"" ++ text ++ "\""
  | redirection _ _ => "redirection"
  | word _ _ => "word"
  | keyword name => "\"" ++ name ++ "\""

def spells (t : Token) (text : String) : Bool :=
  match t with
  | operator other => other == text
  | keyword other => other == text
  | _ => false

def closes : Token → Bool
  | finish => true
  | operator text => text == ")" || text == ";;"
  | keyword name => ["do", "done", "elif", "else", "esac", "fi", "then", "\x7d"].contains name
  | _ => false

end Token

/-- The words that have a meaning of their own where a command begins. -/
def keywords : List String :=
  ["!", "case", "do", "done", "elif", "else", "esac", "fi", "for", "if", "in", "then", "until",
   "while", "\x7b", "\x7d"]

structure Segment where
  rest : Octets
  /-- The alias that the text stands for, and whether the text ends with a blank. -/
  alias? : Option (Octets × Bool) := none

structure Announced where
  number : Nat
  mark : Octets
  /-- Whether tabs in front of lines are left out. -/
  stripsTabs : Bool
  expands : Bool

structure Source where
  /-- The texts that are left, the next one first. -/
  segments : List Segment
  line : Nat := 1
  /-- A token that is to be read again. -/
  pushed : Option Token := none
  /-- Whether the next word may be an alias wherever it stands. -/
  aliasNext : Bool := false
  announced : List Announced := []
  documents : Array Document := #[]
  aliases : List (Octets × Octets) := []

abbrev Reader := StateT Source (Except SyntaxError)

namespace Reader

def fail {α : Type} (cause : SyntaxCause) : Reader α := do throw ⟨(← get).line, cause⟩

/-- The source without texts that have been read to their ends. -/
def withoutEmpty : List Segment → Bool → List Segment × Bool
  | s :: next :: rest, aliasNext =>
    if s.rest = [] then
      withoutEmpty (next :: rest) (aliasNext || match s.alias? with
        | some (_, endsBlank) => endsBlank
        | none => false)
    else (s :: next :: rest, aliasNext)
  | segments, aliasNext => (segments, aliasNext)

def peek : Reader (Option Char) := do
  let s ← get
  match s.segments with
  | { rest := c :: _, .. } :: _ => pure (some c)
  | segments =>
    let (left, aliasNext) := withoutEmpty segments s.aliasNext
    set { s with segments := left, aliasNext }
    pure (match left with
      | { rest := c :: _, .. } :: _ => some c
      | _ => none)

def advance : Reader Unit := modify fun s ↦
  match s.segments with
  | { rest := c :: rest, alias? } :: more =>
    { s with segments := ⟨rest, alias?⟩ :: more, line := if c = '\n' then s.line + 1 else s.line }
  | _ => s

def next : Reader (Option Char) := do
  let c ← peek
  if c.isSome then advance
  pure c

def push (text : Octets) : Reader Unit :=
  modify fun s ↦ { s with segments := ⟨text, none⟩ :: s.segments }

/-- The text that is left of the source at hand. -/
def remaining : Reader Octets := do pure ((← get).segments.headD ⟨[], none⟩).rest

/-- Passes over backslashes that join lines, of which there are fewer than the limit. -/
def joinLines : (limit : Nat) → Reader Unit
  | 0 => pure ()
  | limit + 1 => do
    match ← peek with
    | some '\\' =>
      match ← remaining with
      | '\\' :: '\n' :: _ =>
        advance
        advance
        joinLines limit
      | _ => pure ()
    | _ => pure ()

/-- The next character after lines are joined. -/
def peekJoined : Reader (Option Char) := do
  match ← peek with
  | some '\\' =>
    joinLines (← remaining).length
    peek
  | c => pure c

/-- Passes over a character if it comes next. -/
def accept (c : Char) : Reader Bool := do
  if (← peekJoined) = some c then
    advance
    pure true
  else pure false

/-- Passes over characters of a kind and yields them. -/
def takeWhile (isWanted : Char → Bool) : (limit : Nat) → Reader Octets
  | 0 => pure []
  | limit + 1 => do
    match ← peekJoined with
    | some c =>
      if isWanted c then
        advance
        pure (c :: (← takeWhile isWanted limit))
      else pure []
    | none => pure []

/-- How many steps reading may take: one for each character, and a few for what has been put back and
for the end. -/
def extent : Reader Nat := do
  pure ((← get).segments.foldl (fun n s ↦ n + s.rest.length) 16)

/-- Reads something from a text of its own, whose lines are counted anew. -/
def within {α : Type} (text : Octets) (read : Reader α) : Reader α := do
  let s ← get
  set { s with segments := [⟨text, none⟩], line := 1, pushed := none, announced := [] }
  let result ← read
  modify fun last ↦
    { last with
      segments := s.segments
      line := s.line
      pushed := none
      announced := s.announced
      aliasNext := s.aliasNext }
  pure result

end Reader

end ProgressActions.Shell
