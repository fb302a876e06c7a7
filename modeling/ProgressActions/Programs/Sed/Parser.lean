import ProgressActions.Programs.Sed.Escape

/-!
# Reading editing scripts

A script may be given in several pieces. Each of them is read on its own, but the text of a command that
ends with a backslash goes on in the next piece.
-/

namespace ProgressActions.Programs.Sed

structure Dialect where
  isExtended : Bool := false
  /-- Whether commands that touch files or run programs are refused. -/
  isSandboxed : Bool := false

structure Reader where
  rest : Octets := []
  place : Place
  /-- The pieces that are still to be read. -/
  later : List (Source × Octets) := []
  script : Script := {}
  /-- The blocks that are open, with their places. -/
  blocks : List (Nat × Place) := []
  /-- The labels that are jumped to, the latest first. -/
  jumps : List Octets := []

abbrev Parser := StateT Reader (Except (Place × Problem))

inductive Spot where
  | address (a : Address)
  | after (count : Nat)
  | multiple (factor : Nat)
  deriving DecidableEq, Repr

/-- The stop that a spot is. Nothing is to follow the first line if a number is zero. -/
def Spot.toStop : Spot → Stop
  | address a => .at a
  | after count => if count = 0 then .at (.line 0) else .after count
  | multiple factor => if factor = 0 then .at (.line 0) else .multiple factor

namespace Parser

/-! ## Characters -/

def fail {α : Type} (problem : Problem) : Parser α := do throw ((← get).place, problem)

def take (count : Nat) : Parser Unit := modify fun r ↦
  let taken := r.rest.take count
  { r with
    rest := r.rest.drop count
    place := { r.place with
      column := r.place.column + taken.length, line := r.place.line + taken.count '\n' } }

/-- The next character, which is left. -/
def peek? : Parser (Option Char) := do pure (← get).rest.head?

def char? : Parser (Option Char) := do
  let c? ← peek?
  take 1
  pure c?

/-- Takes the characters in front that are as asked for. -/
def takeWhile (isWanted : Char → Bool) : Parser Octets := do
  let text := (← get).rest.takeWhile isWanted
  take text.length
  pure text

def skipBlanks : Parser Unit := discard (takeWhile fun c ↦ c == ' ' || c == '\t')

def number : Parser Nat := do pure (Text.digitsValue (← takeWhile Char.isDigit))

def nextPiece : Parser Bool := do
  let r ← get
  match r.later with
  | [] => pure false
  | (source, text) :: later =>
    set { r with rest := text, later, place := { source } }
    pure true

def endOfCommand : Parser Unit := do
  skipBlanks
  match ← peek? with
  | none => pure ()
  | some c =>
    if c = '\x7d' ∨ c = '#' then pure ()
    else
      take 1
      if c ≠ '\n' ∧ c ≠ ';' then fail .furtherText

def delimited (delimiter : Char) (isRegex : Bool) (problem : Problem) : Parser Octets := do
  let text := (← get).rest
  let found := Delimited.read delimiter isRegex (text.length + 1) text
  take found.length
  match found.text? with
  | some inside => pure inside
  | none => fail problem

/-- A text in which the escapes for characters have been replaced. -/
def resolve (role : Role) (text : Octets) : Parser Octets :=
  match resolved role (text.length + 1) text with
  | .ok found => pure found
  | .error problem => fail problem

/-- The regular expression that a text spells. -/
def sought (d : Dialect) (text : Octets) (foldsCase hasLines : Bool) : Parser Sought := do
  if text = [] then
    if foldsCase ∨ hasLines then fail .modifiedEmpty else pure {}
  else
    let style : Regex.Style :=
      { isExtended := d.isExtended, isStrict := true }
    match Regex.parse style (← resolve .expression text) with
    | .ok x => pure { expression? := some (if hasLines then x.withinLines else x), foldsCase, hasLines }
    | .error cause => fail (.expression cause)

/-! ## Lines -/

/-- Takes the letters behind a regular expression that change what it means. -/
def modifiers : (limit : Nat) → (foldsCase hasLines : Bool) → Parser (Bool × Bool)
  | 0, foldsCase, hasLines => pure (foldsCase, hasLines)
  | limit + 1, foldsCase, hasLines => do
    skipBlanks
    match ← peek? with
    | some 'I' =>
      take 1
      modifiers limit true hasLines
    | some 'M' =>
      take 1
      modifiers limit foldsCase true
    | _ => pure (foldsCase, hasLines)

def spot? (d : Dialect) : Parser (Option Spot) := do
  let holding (delimiter : Char) : Parser (Option Spot) := do
    let text ← delimited delimiter true .openAddress
    let (foldsCase, hasLines) ← modifiers (← get).rest.length false false
    pure (some (.address (.holding (← sought d text foldsCase hasLines))))
  match ← peek? with
  | some '/' =>
    take 1
    holding '/'
  | some '\\' =>
    take 1
    match ← char? with
    | some delimiter => holding delimiter
    | none => fail .openAddress
  | some '$' =>
    take 1
    pure (some (.address .last))
  | some '+' =>
    take 1
    skipBlanks
    pure (some (.after (← number)))
  | some '~' =>
    take 1
    skipBlanks
    pure (some (.multiple (← number)))
  | some c =>
    if !c.isDigit then pure none
    else
      let first ← number
      skipBlanks
      if (← peek?) = some '~' then
        take 1
        skipBlanks
        let step ← number
        pure (some (.address (if step = 0 then .line first else .every first step)))
      else pure (some (.address (.line first)))
  | none => pure none

/-- Takes the lines to which a command is confined. -/
def selection (d : Dialect) : Parser Selection := do
  let lines : Selection ← match ← spot? d with
    | none => pure {}
    | some (.address first) =>
      skipBlanks
      if (← peek?) = some ',' then
        take 1
        skipBlanks
        match ← spot? d with
        | none =>
          take 1
          fail .unexpectedComma
        | some stop =>
          skipBlanks
          pure { first? := some first, stop? := some stop.toStop }
      else pure { first? := some first }
    | some _ => fail .relativeFirst
  let endsByExpression : Bool := match lines.stop? with
    | some (.at (.holding _)) => true
    | _ => false
  if lines.first? = some (.line 0) ∧ !endsByExpression then
    take 1
    fail .lineZero
  if (← peek?) = some '!' then
    take 1
    skipBlanks
    if (← peek?) = some '!' then
      take 1
      fail .severalNegations
    pure { lines with isNegated := true }
  else pure lines

/-! ## Arguments of commands -/

def label : Parser Octets := do
  skipBlanks
  takeWhile fun c ↦ !Octets.isSpace c && c != ';' && c != '\x7d'

def restOfLine : Parser Octets := do
  let text ← takeWhile (· != '\n')
  take 1
  pure text

def fileName (d : Dialect) : Parser Octets := do
  if d.isSandboxed then fail .sandboxed
  skipBlanks
  let name ← restOfLine
  if name = [] then fail .noFileName else pure name

/-- Takes the name of a file that is written. -/
def outputName (d : Dialect) : Parser Octets := do
  let name ← fileName d
  modify fun r ↦
    if r.script.outputs.contains name then r
    else { r with script := { r.script with outputs := r.script.outputs ++ [name] } }
  pure name

/-- Takes a text that goes on behind line feeds with a backslash in front. -/
def lines : (limit : Nat) → Parser Octets
  | 0 => pure []
  | limit + 1 => do
    match ← char? with
    | none => pure ['\n']
    | some '\n' => pure ['\n']
    | some '\\' =>
      match ← char? with
      | some c => pure ('\\' :: c :: (← lines limit))
      | none =>
        if ← nextPiece then pure ('\n' :: (← lines limit)) else pure ['\n']
    | some c => pure (c :: (← lines limit))

/-- How long all that is left to be read is at most. -/
def remaining : Parser Nat := do
  let r ← get
  pure (r.later.foldl (fun total (_, text) ↦ total + text.length + 1) (r.rest.length + 1))

def text : Parser Octets := do
  skipBlanks
  match ← peek? with
  | none => fail .noText
  | some '\\' =>
    take 1
    let found : Octets ← match ← peek? with
      | some '\n' =>
        take 1
        lines (← remaining)
      | some _ => lines (← remaining)
      | none => if ← nextPiece then lines (← remaining) else pure []
    pure (unescaped (← resolve .plain found))
  | some _ => pure (unescaped (← resolve .plain (← lines (← remaining))))

/-- Takes a number, if there is one, and the end of the command. -/
def numberArgument? : Parser (Option Nat) := do
  skipBlanks
  let digits ← takeWhile Char.isDigit
  endOfCommand
  pure (if digits = [] then none else some (Text.digitsValue digits))

/-- Whether a label names a version that scripts may ask for. -/
def isKnownVersion (label : Octets) : Bool :=
  let parts := (Octets.splitAt '.' label).map Text.natural?
  match parts with
  | some major :: rest => rest.all Option.isSome && (major < 4 || (major == 4 && (match rest with
    | some minor :: _ => decide (minor ≤ 9)
    | _ => true)))
  | _ => label.isEmpty

/-! ## Substitutions -/

structure Options where
  foldsCase : Bool := false
  hasLines : Bool := false
  everywhere : Bool := false
  number? : Option Nat := none
  prints : Bool := false
  printsFirst : Bool := false
  isRun : Bool := false
  output? : Option Octets := none

/-- Takes the letters behind a substitution. -/
def options (d : Dialect) : (limit : Nat) → Options → Parser Options
  | 0, o => pure o
  | limit + 1, o => do
    match ← peek? with
    | none => pure o
    | some c =>
      if c = '\x7d' ∨ c = '#' then pure o
      else if c.isDigit then
        if o.number?.isSome then
          take 1
          fail .severalNumbers
        let n ← number
        if n = 0 then fail .zeroNumber
        options d limit { o with number? := some n }
      else
        take 1
        match c with
        | 'i' => options d limit { o with foldsCase := true }
        | 'I' => options d limit { o with foldsCase := true }
        | 'm' => options d limit { o with hasLines := true }
        | 'M' => options d limit { o with hasLines := true }
        | 'e' =>
          if d.isSandboxed then fail .sandboxed
          options d limit { o with isRun := true, printsFirst := o.prints }
        | 'p' => if o.prints then fail .severalPrints else options d limit { o with prints := true }
        | 'g' =>
          if o.everywhere then fail .severalGlobals else options d limit { o with everywhere := true }
        | 'w' => pure { o with output? := some (← outputName d) }
        | '\n' => pure o
        | ';' => pure o
        | ' ' => options d limit o
        | _ => fail .unknownOption

/-- Takes what follows the letter of a substitution. -/
def substitution (d : Dialect) : Parser Substitution := do
  match ← char? with
  | none => fail .openSubstitution
  | some delimiter =>
    let pattern ← delimited delimiter true .openSubstitution
    let written ← delimited delimiter false .openSubstitution
    let replacement := replacementOf (← resolve .replacement written)
    let o ← options d ((← get).rest.length + 1) {}
    let s ← sought d pattern o.foldsCase o.hasLines
    let most := highestGroup replacement
    if s.expression?.any (·.groupCount < most) then fail (.missingGroup most)
    pure
      { sought := s, replacement, everywhere := o.everywhere, number := o.number?.getD 1
        prints := o.prints, isRun := o.isRun, printsFirst := o.printsFirst, output? := o.output? }

/-- Takes what follows the letter of a translation. -/
def translation : Parser (List (Char × Char)) := do
  match ← char? with
  | none => fail .openTranslation
  | some delimiter =>
    let plain (written : Octets) : Parser Octets := do pure (unescaped (← resolve .plain written))
    let source ← plain (← delimited delimiter false .openTranslation)
    let target ← plain (← delimited delimiter false .openTranslation)
    if source.length ≠ target.length then fail .unequalLengths
    endOfCommand
    pure (source.zip target).reverse

/-! ## Commands -/

def push (selection : Selection) (act : Act) : Parser Unit := modify fun r ↦
  { r with script := { r.script with commands := r.script.commands.push { selection, act } } }

def closing (isAddressed : Bool) : Parser Unit := do
  let r ← get
  match r.blocks with
  | [] => fail .closingBlock
  | (start, _) :: blocks =>
    if isAddressed then fail .addressedClosing
    let stop := r.script.commands.size
    let commands := r.script.commands.modify start fun c ↦ { c with act := .openBlock stop }
    set { r with blocks, script := { r.script with commands } }
    endOfCommand

/-- Takes a comment. The first line of a script may ask for lines not to be shown by themselves. -/
def comment : Parser Unit := do
  let r ← get
  let isFirst : Bool := r.place.column == 1 && r.place.line == 1 && r.script.commands.isEmpty &&
    (match r.place.source with
      | .expression n => n == 1
      | .file _ => true)
  let line ← restOfLine
  if isFirst ∧ line.head? = some 'n' then
    modify fun r ↦ { r with script := { r.script with isQuiet := true } }

/-- What the letter of a command without arguments does. -/
def simple? : Char → Option Act
  | '=' => some .showNumber
  | 'd' => some .delete
  | 'D' => some .deleteFirst
  | 'F' => some .showFile
  | 'g' => some .get
  | 'G' => some .getMore
  | 'h' => some .hold
  | 'H' => some .holdMore
  | 'n' => some .next
  | 'N' => some .nextMore
  | 'p' => some .print
  | 'P' => some .printFirst
  | 'x' => some .exchange
  | 'z' => some .clear
  | _ => none

def withArguments (d : Dialect) (lines : Selection) : Char → Parser Act
  | 'a' => do pure (.append (← text))
  | 'i' => do pure (.insert (← text))
  | 'c' => do pure (.change (← text))
  | 'b' => jump .always
  | 't' => jump .replaced
  | 'T' => jump .unreplaced
  | 'e' => do
    if d.isSandboxed then fail .sandboxed
    skipBlanks
    match ← peek? with
    | none => pure (.run [])
    | some '\n' =>
      take 1
      pure (.run [])
    | some _ => pure (.run (← text).dropLast)
  | 'q' => do
    if lines.stop?.isSome then fail .oneAddress
    pure (.quit ((← numberArgument?).getD 0 % 256))
  | 'Q' => do
    if lines.stop?.isSome then fail .oneAddress
    pure (.quitSilently ((← numberArgument?).getD 0 % 256))
  | 'l' => do pure (.list (← numberArgument?))
  | 'L' => do
    discard numberArgument?
    pure (.unsupported 'L')
  | 'r' => do pure (.readFile (← fileName d))
  | 'R' => do pure (.readLine (← fileName d))
  | 'w' => do pure (.write (← outputName d))
  | 'W' => do pure (.writeFirst (← outputName d))
  | 's' => do pure (.substitute (← substitution d))
  | 'y' => do pure (.translate (← translation))
  | 'v' => do
    let version ← label
    if isKnownVersion version then pure .nothing else fail .newerVersion
  | c => fail (.unknownCommand c)
where
  jump (when : JumpCase) : Parser Act := do
    let name ← label
    modify fun r ↦ { r with jumps := name :: r.jumps }
    pure (.jump when name)

def command (d : Dialect) : Parser Unit := do
  let lines ← selection d
  let isAddressed := lines.first?.isSome
  match ← char? with
  | none => fail .noCommand
  | some '#' => if isAddressed then fail .addressedComment else comment
  | some ':' =>
    if isAddressed then fail .addressedLabel
    let name ← label
    if name = [] then fail .noLabel
    modify fun r ↦
      { r with script := { r.script with labels := (name, r.script.commands.size) :: r.script.labels } }
  | some '\x7b' =>
    modify fun r ↦
      { r with blocks := (r.script.commands.size, { r.place with column := 0 }) :: r.blocks }
    push lines .nothing
  | some '\x7d' => closing isAddressed
  | some c =>
    match simple? c with
    | some act =>
      endOfCommand
      push lines act
    | none => push lines (← withArguments d lines c)

def commands (d : Dialect) : (limit : Nat) → Parser Unit
  | 0 => pure ()
  | limit + 1 => do
    discard (takeWhile fun c ↦ Octets.isSpace c || c == ';')
    if (← peek?).isSome then
      command d
      commands d limit
    else if ← nextPiece then commands d limit

end Parser

/-- The script that pieces spell, and the labels that are jumped to, the latest first. -/
def Script.parse (d : Dialect) (pieces : List (Source × Octets)) :
    Except (Place × Problem) (Script × List Octets × Place) := do
  let whole : Parser Unit := do
    Parser.commands d (2 * (← Parser.remaining) + 2)
    match (← get).blocks with
    | [] => pure ()
    | (_, place) :: _ => throw (place, .openBlock)
  let ((), r) ← whole.run { place := { source := .expression 0 }, later := pieces }
  pure (r.script, r.jumps, r.place)

/-- Nothing is done by an empty script. -/
theorem Script.parse_nil (d : Dialect) :
    (Script.parse d []).map (·.1.commands) = .ok #[] := rfl

end ProgressActions.Programs.Sed
