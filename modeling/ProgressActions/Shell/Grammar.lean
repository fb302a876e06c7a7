import ProgressActions.Shell.Lexer

/-!
# The grammar of scripts

A script is read command by command: lists of commands, connected ones, and the commands that hold
others. A list ends before a token that closes it, and the list of a line ends with the line.
-/

namespace ProgressActions.Shell

/-- The names of commands of the shell that functions cannot have. -/
def specialNames : List String :=
  [":", ".", "break", "continue", "eval", "exec", "exit", "export", "local", "readonly", "return",
   "set", "shift", "times", "trap", "unset"]

namespace Reader

inductive ListKind where
  /-- A line of a script. -/
  | line
  /-- A list that holds a command. -/
  | body
  /-- A list that may be empty. -/
  | optional
  deriving DecidableEq, Repr

abbrev Lists := ListKind → Reader (Option Command)

namespace Lists

def one (lists : Lists) (kind : ListKind) : Reader Command := do pure ((← lists kind).getD .nothing)

/-- Complains about a token, and says what had to stand in its place. -/
def reject {α : Type} (token : Token) (expected : Option String) : Reader α :=
  fail (.unexpected token.description expected)

def substitution (lists : Lists) (inParentheses : Bool) : Reader Command := do
  let body ← lists.one .optional
  if inParentheses then
    let token := (← get).pushed.getD .finish
    if !token.spells ")" then reject token (some "\")\"")
  modify ({ · with announced := [], pushed := none })
  pure body

def token (lists : Lists) (position : Position) : Reader Token := read lists.substitution position

/-- Reads a token that has to be an operator or a keyword. -/
def expect (lists : Lists) (text : String) (position : Position := {}) : Reader Unit := do
  let found ← lists.token position
  if !found.spells text then reject found (some ("\"" ++ text ++ "\""))

end Lists

def afterFeeds : Position := { skipsFeeds := true, admitsKeyword := true, admitsAlias := true }

/-- The assignment that a word spells: an unquoted name, an equals sign and a value. -/
def assignment? (w : Word) : Option (Octets × Word) :=
  let isName : Part → Bool := fun part ↦ match part with
    | .char c => isNameRest c
    | _ => false
  match w.dropWhile isName, plainText? (w.takeWhile isName) with
  | .char '=' :: value, some name => if isVariableName name then some (name, value) else none
  | _, _ => none

def redirect (lists : Lists) (descriptor? : Option Nat) (operator : String) : Reader Redirect := do
  let target : Purpose → Reader (Word × Bool) := fun purpose ↦ do
    match ← read lists.substitution {} purpose with
    | .word w quoted => pure (w, quoted)
    | other => Lists.reject other none
  let file : Nat → Access → Reader Redirect := fun usual access ↦ do
    pure (.file (descriptor?.getD usual) access (← target .word).1)
  let document : Bool → Reader Redirect := fun stripsTabs ↦ do
    let (mark, quoted) ← target .mark
    let number := (← get).documents.size
    modify fun s ↦
      { s with
        documents := s.documents.push {}
        announced := s.announced ++ [⟨number, bareText mark, stripsTabs, !quoted⟩] }
    pure (.document (descriptor?.getD 0) number)
  match operator with
  | ">" => file 1 .output
  | ">>" => file 1 .append
  | ">|" => file 1 .overwrite
  | ">&" => pure (.duplicate (descriptor?.getD 1) (← target .word).1)
  | "<&" => pure (.duplicate (descriptor?.getD 0) (← target .word).1)
  | "<>" => file 0 .both
  | "<<" => document false
  | "<<-" => document true
  | _ => file 0 .input

/-- The redirections after a command. A keyword is one only in front of them. -/
def redirects (lists : Lists) (position : Position) : (limit : Nat) → Reader (List Redirect)
  | 0 => pure []
  | limit + 1 => do
    match ← lists.token position with
    | .redirection descriptor operator =>
      let first ← redirect lists descriptor operator
      pure (first :: (← redirects lists {} limit))
    | other =>
      unread other
      pure []

/-- A simple command under construction, everything in reverse. -/
structure Draft where
  assignments : List (Octets × Word) := []
  words : List Word := []
  redirects : List Redirect := []

/-- A simple command, or the definition of a function, whose body is read by a reader. -/
def simple (lists : Lists) (body : Reader Command) (line : Nat) :
    (limit : Nat) → Draft → Reader Command
  | 0, _ => fail .tooDeep
  | limit + 1, d => do
    match ← lists.token { admitsAlias := d.words.isEmpty } with
    | .word w quoted =>
      match if d.words.isEmpty then assignment? w else none with
      | some assignment =>
        simple lists body line limit { d with assignments := assignment :: d.assignments }
      | none =>
        match d, w with
        | { assignments := [], words := [], redirects := [] }, _ =>
          match ← lists.token {} with
          | .operator "(" =>
            lists.expect ")"
            let name := match plainText? w with
              | some name => if quoted then [] else name
              | none => []
            if isVariableName name ∧ !specialNames.contains (String.ofList name) then
              let defined := (← get).line
              let found ← lists.token afterFeeds
              unread found
              pure (.define defined name (← body))
            else fail .badFunctionName
          | other =>
            unread other
            simple lists body line limit { d with words := [w] }
        | _, _ => simple lists body line limit { d with words := w :: d.words }
    | .redirection descriptor operator =>
      let r ← redirect lists descriptor operator
      simple lists body line limit { d with redirects := r :: d.redirects }
    | other =>
      unread other
      pure (.simple line d.assignments.reverse d.words.reverse d.redirects.reverse)

/-- The rest of a choice by conditions, up to the word that ends it. -/
def alternative (lists : Lists) : (limit : Nat) → Reader (Option Command)
  | 0 => fail .tooDeep
  | limit + 1 => do
    match ← lists.token {} with
    | .keyword "elif" =>
      let condition ← lists.one .body
      lists.expect "then"
      let consequence ← lists.one .body
      pure (some (.branch condition consequence (← alternative lists limit)))
    | .keyword "else" =>
      let last ← lists.one .body
      lists.expect "fi"
      pure (some last)
    | .keyword "fi" => pure none
    | other => Lists.reject other (some "\"fi\"")

/-- Words up to a token that is none, which is put back. -/
def words (lists : Lists) : (limit : Nat) → Reader (List Word)
  | 0 => pure []
  | limit + 1 => do
    match ← lists.token {} with
    | .word w _ => pure (w :: (← words lists limit))
    | other =>
      unread other
      pure []

/-- The patterns of a clause, parted by bars, up to the parenthesis behind them. -/
def patterns (lists : Lists) : (limit : Nat) → Token → Reader (List Word)
  | 0, _ => fail .tooDeep
  | limit + 1, first => do
    let w := match first with
      | .word w _ => w
      | .keyword name => name.toList.map .char
      | _ => []
    match ← lists.token {} with
    | .operator "|" => pure (w :: (← patterns lists limit (← lists.token {})))
    | .operator ")" => pure [w]
    | other => Lists.reject other (some "\")\"")

/-- The clauses of a choice by patterns, up to the word that ends it. -/
def clauses (lists : Lists) : (limit : Nat) → Reader (List Clause)
  | 0 => fail .tooDeep
  | limit + 1 => do
    match ← lists.token { skipsFeeds := true, admitsKeyword := true } with
    | .keyword "esac" => pure []
    | opening =>
      let first ← if opening.spells "(" then lists.token {} else pure opening
      let found ← patterns lists limit first
      let chosen ← lists.one .optional
      match ← lists.token { skipsFeeds := true, admitsKeyword := true } with
      | .keyword "esac" => pure [.mk found chosen]
      | .operator ";;" => pure (.mk found chosen :: (← clauses lists limit))
      | other => Lists.reject other (some "\";;\"")

def command (lists : Lists) : (limit : Nat) → Reader Command
  | 0 => fail .tooDeep
  | limit + 1 => do
    let line := (← get).line
    let finish : Command → Reader Command := fun body ↦ do
      match ← redirects lists commandPosition limit, body with
      | [], _ => pure body
      | found, .subshell start inner _ => pure (.subshell start inner found)
      | found, _ => pure (.redirected line body found)
    let first ← lists.token {}
    match first with
    | .keyword "if" =>
      let condition ← lists.one .body
      lists.expect "then"
      let consequence ← lists.one .body
      finish (.branch condition consequence (← alternative lists limit))
    | .keyword "while" =>
      let condition ← lists.one .body
      lists.expect "do"
      let body ← lists.one .body
      lists.expect "done"
      finish (.loop false condition body)
    | .keyword "until" =>
      let condition ← lists.one .body
      lists.expect "do"
      let body ← lists.one .body
      lists.expect "done"
      finish (.loop true condition body)
    | .keyword "for" =>
      let name ← match ← lists.token {} with
        | .word w false => pure ((plainText? w).getD [])
        | _ => pure []
      if !isVariableName name then fail .badLoopVariable
      let range ← match ← lists.token afterFeeds with
        | .keyword "in" =>
          let found ← words lists (← extent)
          match ← lists.token {} with
          | .lineFeed => pure found
          | .operator ";" => pure found
          | other => Lists.reject other none
        | other =>
          if !other.spells ";" then unread other
          pure [[.quote, .parameter ['@'] .value false [], .quote]]
      lists.expect "do" afterFeeds
      let body ← lists.one .body
      lists.expect "done"
      finish (.each line name range body)
    | .keyword "case" =>
      let subject ← match ← lists.token {} with
        | .word w _ => pure w
        | other => Lists.reject other (some "word")
      lists.expect "in" afterFeeds
      finish (.choice line subject (← clauses lists limit))
    | .operator "(" =>
      let body ← lists.one .body
      lists.expect ")"
      finish (.subshell line body [])
    | .keyword "\x7b" =>
      let body ← lists.one .body
      lists.expect "\x7d"
      finish body
    | .word _ _ =>
      unread first
      simple lists (command lists limit) (← get).line (← extent) {}
    | .redirection _ _ =>
      unread first
      simple lists (command lists limit) (← get).line (← extent) {}
    | other => Lists.reject other none

def pipelineRest (lists : Lists) : (limit : Nat) → Reader (List Command)
  | 0 => pure []
  | limit + 1 => do
    match ← lists.token {} with
    | .operator "|" =>
      let found ← lists.token afterFeeds
      unread found
      let first ← command lists limit
      pure (first :: (← pipelineRest lists limit))
    | other =>
      unread other
      pure []

def pipeline (lists : Lists) (limit : Nat) : Reader Command := do
  let opening ← lists.token {}
  let negated := opening.spells "!"
  if negated then
    let found ← lists.token commandPosition
    unread found
  else unread opening
  let first ← command lists limit
  let whole : Command ← match ← pipelineRest lists limit with
    | [] => pure first
    | rest => pure (.pipeline false (first :: rest))
  pure (if negated then .negated whole else whole)

def connected (lists : Lists) : (limit : Nat) → Command → Reader Command
  | 0, first => pure first
  | limit + 1, first => do
    let found ← lists.token {}
    match found with
    | .operator "&&" =>
      unread (← lists.token afterFeeds)
      connected lists limit (.both first (← pipeline lists limit))
    | .operator "||" =>
      unread (← lists.token afterFeeds)
      connected lists limit (.either first (← pipeline lists limit))
    | other =>
      unread other
      pure first

def inBackground : Command → Command
  | .pipeline _ commands => .pipeline true commands
  | .redirected line body redirects => .background line body redirects
  | .subshell line body redirects => .background 0 (.subshell line body redirects) []
  | other => .background 0 other []

def inSequence : List Command → Command
  | [] => .nothing
  | [one] => one
  | several => .sequence several

/-- Reads a list of commands. The commands that have been read come in reverse. At the end of a script
there is no list. -/
def list (lists : Lists) (kind : ListKind) : (limit : Nat) → List Command → Reader (Option Command)
  | 0, _ => fail .tooDeep
  | limit + 1, before => do
    let token ← lists.token { commandPosition with skipsFeeds := kind != .line }
    match token with
    | .lineFeed =>
      readDocuments lists.substitution
      pure (some (inSequence before.reverse))
    | .finish =>
      readDocuments lists.substitution
      unread token
      pure (if before.isEmpty ∧ kind = .line then none else some (inSequence before.reverse))
    | _ =>
      unread token
      if (kind = .optional ∨ (kind = .body ∧ !before.isEmpty)) ∧ token.closes then
        pure (some (inSequence before.reverse))
      else
        let one ← connected lists limit (← pipeline lists limit)
        let ending ← lists.token {}
        let all := (if ending.spells "&" then inBackground one else one) :: before
        match ending with
        | .finish =>
          readDocuments lists.substitution
          unread ending
          pure (some (inSequence all.reverse))
        | .lineFeed =>
          unread ending
          list lists kind limit all
        | _ =>
          if ending.spells ";" ∨ ending.spells "&" then list lists kind limit all
          else if kind = .line then Lists.reject ending none
          else
            unread ending
            pure (some (inSequence all.reverse))

def nested : (depth : Nat) → Lists
  | 0 => fun _ ↦ fail .tooDeep
  | depth + 1 => fun kind ↦ do list (nested depth) kind ((← extent) + 3) []

def maxDepth : Nat := 400

/-- Reads the commands of the next line. At the end of the script there are none. -/
def line : Reader (Option Command) := do
  modify ({ · with pushed := none, announced := [] })
  nested maxDepth .line

end Reader

end ProgressActions.Shell
