import ProgressActions.Shell.Builtin.Basic

/-!
# Commands of a shell about variables and parameters

They export variables, make them constant or local, take them away, set options and positional
parameters, and read input into variables.
-/

namespace ProgressActions.Shell.Builtin

/-! ## Variables -/

/-- A line for each variable, in the order of the names, with an opening in front. -/
def listing (opening : Octets) (bindings : List Variable) : Octets :=
  let sorted := bindings.mergeSort fun a b ↦ Octets.upTo a.name b.name
  sorted.flatMap fun v ↦
    opening ++ v.name ++ (match v.value with
      | some value => '=' :: quote value
      | none => []) ++ ['\n']

/-- A name and the value behind an equals sign, if there is one. -/
def assignment (word : Octets) : Octets × Option Octets :=
  let name := word.takeWhile (· != '=')
  (name, (word.drop name.length).tail?)

/-- Complains unless a text is the name of a variable. -/
def checkName (name : Octets) : Act Unit := do
  if !isVariableName name then Act.fail (name ++ ": bad variable name".toList)

def mark (isExported isConstant : Bool) : List Octets → Act Unit
  | [] => pure ()
  | word :: rest => do
    let (name, value) := assignment word
    match value, (← get).binding? name with
    | none, some v =>
      modify (·.putVariable
        { v with isExported := v.isExported || isExported, isConstant := v.isConstant || isConstant })
    | _, _ =>
      checkName name
      Act.setVariable name value isExported isConstant
    mark isExported isConstant rest

/-- Exports variables or makes them constant. Without names, those that are so already are listed. -/
def announce (isExported isConstant : Bool) : Builtin := fun name arguments ↦ do
  let (found, words) ← flags "p" arguments
  if found = [] ∧ words ≠ [] then mark isExported isConstant words
  else
    let s ← get
    Act.print (listing (name ++ [' ']) (s.bindings.filter fun v ↦
      (isExported && v.isExported) || (isConstant && v.isConstant)))
  pure 0

/-- Makes variables belong to the function at work. -/
def makeLocal : Builtin := fun _ arguments ↦ do
  if (← get).scopes = [] then Act.fail "not in a function".toList
  for word in arguments do
    if word = ['-'] then Act.makeOptionsLocal
    else
      let (name, value) := assignment word
      if value.isNone then checkName name
      Act.makeLocal name
      match value with
      | some text => Act.assign name text
      | none => pure ()
  pure 0

/-- Takes variables or functions away. -/
def unset : Builtin := fun _ arguments ↦ do
  let (found, words) ← flags "vf" arguments
  for word in words do
    if found.getLast? = some 'f' then
      modify fun s ↦ { s with functions := s.functions.filter (·.1 != word) }
    else
      checkName (assignment word).1
      Act.setVariable (assignment word).1 none
  pure 0

/-! ## Positional parameters and options -/

/-- Moves the positional parameters forward. -/
def shift : Builtin := fun _ arguments ↦ do
  let n ← match arguments with
    | [] => pure 1
    | word :: _ => Act.number word
  let s ← get
  if n > s.positional.length then Act.fail "can't shift that many".toList
  set { s with positional := s.positional.drop n, optionIndex := 1, optionPlace := none }
  pure 0

def optionNames : List (String × Char) :=
  [("errexit", 'e'), ("noglob", 'f'), ("ignoreeof", 'I'), ("interactive", 'i'), ("monitor", 'm'),
   ("noexec", 'n'), ("stdin", 's'), ("xtrace", 'x'), ("verbose", 'v'), ("vi", 'V'), ("emacs", 'E'),
   ("noclobber", 'C'), ("allexport", 'a'), ("notify", 'b'), ("nounset", 'u'), ("nolog", '0'),
   ("debug", '1')]

def switch (letter : Char) (on : Bool) : Act Unit :=
  modify fun s ↦
    let others := s.options.filter (· != letter)
    { s with options := if on then letter :: others else others }

def switchLetter (letter : Char) (on : Bool) : Act Unit := do
  if optionNames.any (·.2 == letter) ∧ !letter.isDigit then switch letter on
  else Act.fail ("Illegal option -".toList ++ [letter])

def switchNamed (name? : Option Octets) (on : Bool) : Act Unit := do
  match name? with
  | some name =>
    match optionNames.lookup (String.ofList name) with
    | some letter => switch letter on
    | none => Act.fail ("Illegal option -o ".toList ++ name)
  | none =>
    let s ← get
    let line : String × Char → Octets := fun (name, letter) ↦
      let isOn := s.options.contains letter
      if on then
        name.toList ++ List.replicate (16 - name.length) ' ' ++ (if isOn then "on\n" else "off\n").toList
      else "set ".toList ++ [if isOn then '-' else '+', 'o', ' '] ++ name.toList ++ ['\n']
    Act.print ((if on then "Current option settings\n".toList else []) ++ optionNames.flatMap line)

/-- Switches the options with the letters of a word; some take the next word. -/
def switchWord (on : Bool) : Octets → List Octets → Act (List Octets)
  | [], words => pure words
  | 'o' :: rest, words => do
    switchNamed words.head? on
    switchWord on rest (words.drop 1)
  | letter :: rest, words => do
    switchLetter letter on
    switchWord on rest words

/-- Switches the options in front of words. The words after them are the positional parameters, unless
there are none of them. -/
def switchAll : (limit : Nat) → List Octets → Act (Option (List Octets))
  | 0, _ => pure none
  | limit + 1, words => do
    match words with
    | [] => pure none
    | ['-'] :: rest =>
      switch 'x' false
      switch 'v' false
      pure (if rest = [] then none else some rest)
    | ['-', '-'] :: rest => pure (some rest)
    | ('-' :: letters) :: rest => switchAll limit (← switchWord true letters rest)
    | ('+' :: letters) :: rest => switchAll limit (← switchWord false letters rest)
    | _ => pure (some words)

/-- Lists the variables, or switches options and sets the positional parameters. -/
def setAll : Builtin := fun _ arguments ↦ do
  if arguments = [] then
    Act.print (listing [] ((← get).bindings.filter (·.value.isSome)))
  else
    match ← switchAll (arguments.length + 1) arguments with
    | some positional =>
      modify ({ · with positional, optionIndex := 1, optionPlace := none })
    | none => pure ()
  pure 0

/-- The outcome of looking for an option: its letter, what is left of the word at hand, and how many
words have been used up. The letter is missing at the end of the options. -/
structure Sought where
  letter : Option Char
  place : Option Nat := none
  index : Nat

/-- Looks for the next option among words. -/
def seek (known : Octets) (words : List Octets) (index : Nat) (place : Option Nat) : Act Sought := do
  let current : Octets := match place with
    | some n => (words.getD (index - 2) []).drop n
    | none => []
  let started : Octets × Nat := match current with
    | [] =>
      match words[index - 1]? with
      | some ('-' :: c :: rest) => (c :: rest, index + 1)
      | _ => ([], index)
    | _ => (current, index)
  match started with
  | ([], next) => pure { letter := none, index := next }
  | (c :: rest, next) =>
    if current = [] ∧ c = '-' ∧ rest = [] then pure { letter := none, index := next }
    else
      let isSilent := known.head? == some ':'
      let behind := (known.dropWhile (· != c))
      let here : Option Nat :=
        if rest = [] then none else some ((words.getD (next - 2) []).length - rest.length)
      let complain : String → Option Char → Act Sought := fun text answer ↦ do
        if isSilent then
          Act.assign "OPTARG".toList [c]
          pure { letter := answer, place := here, index := next }
        else
          Act.printError (text.toList)
          Act.setVariable "OPTARG".toList none
          pure { letter := some '?', place := here, index := next }
      match behind with
      | [] => complain ("Illegal option -" ++ String.ofList [c] ++ "\n") (some '?')
      | _ :: ':' :: _ =>
        match rest, words[next - 1]? with
        | [], none => complain ("No arg for -" ++ String.ofList [c] ++ " option\n") (some ':')
        | [], some word =>
          Act.assign "OPTARG".toList word
          pure { letter := some c, index := next + 1 }
        | _, _ =>
          Act.assign "OPTARG".toList rest
          pure { letter := some c, index := next }
      | _ =>
        Act.assign "OPTARG".toList []
        pure { letter := some c, place := here, index := next }

/-- Looks for the next option among the positional parameters or among words. -/
def getOption : Builtin := fun _ arguments ↦ do
  match ← withoutOptions arguments with
  | known :: name :: rest =>
    let s ← get
    let words := if rest = [] then s.positional else rest
    let isOver := s.optionIndex > words.length + 1
    let found ← seek known words (if isOver then 1 else s.optionIndex)
      (if isOver then none else s.optionPlace)
    Act.assign "OPTIND".toList (Text.numeral found.index)
    checkName name
    Act.assign name [found.letter.getD '?']
    modify ({ · with optionIndex := found.index, optionPlace := found.place })
    pure (if found.letter.isSome then 0 else 1)
  | _ => Act.fail "Usage: getopts optstring var [arg...]".toList

/-! ## Input -/

/-- A line that is read: its glyphs, those that a backslash hides marked as such, how many octets it
takes, and whether it has come to its end. -/
def lineGlyphs (isRaw : Bool) : Octets → List Glyph × Nat × Bool
  | [] => ([], 0, false)
  | '\n' :: _ => ([], 1, true)
  | '\x00' :: rest =>
    let (glyphs, length, isComplete) := lineGlyphs isRaw rest
    (glyphs, length + 1, isComplete)
  | '\\' :: rest =>
    if isRaw then
      let (glyphs, length, isComplete) := lineGlyphs isRaw rest
      (.char '\\' :: glyphs, length + 1, isComplete)
    else
      match rest with
      | [] => ([], 1, false)
      | '\n' :: more =>
        let (glyphs, length, isComplete) := lineGlyphs isRaw more
        (.mark :: glyphs, length + 2, isComplete)
      | c :: more =>
        let (glyphs, length, isComplete) := lineGlyphs isRaw more
        (.hidden c :: glyphs, length + 2, isComplete)
  | c :: rest =>
    let (glyphs, length, isComplete) := lineGlyphs isRaw rest
    (.char c :: glyphs, length + 1, isComplete)

/-- The regions between hidden characters, in which fields may end. -/
def openRegions : (place start : Nat) → List Glyph → List Region
  | place, start, [] => [⟨start, place, false⟩]
  | place, start, .hidden _ :: rest => ⟨start, place, false⟩ :: openRegions (place + 1) (place + 1) rest
  | place, start, _ :: rest => openRegions (place + 1) start rest

/-- Sets variables to fields; variables without a field are set to the empty text. -/
def assignFields : List Octets → List Octets → Act Unit
  | [], _ => pure ()
  | name :: names, fields => do
    checkName name
    Act.assign name (fields.headD [])
    assignFields names (fields.drop 1)

/-- Reads a line of the input into variables. The status tells whether the line was complete. -/
def read : Builtin := fun _ arguments ↦ do
  let (found, names) ← options ['r'] ['p'] (arguments.length + 1) arguments
  if names = [] then Act.fail "arg count".toList
  let isRaw := found.any (·.1 == 'r')
  let text ← match (← get).process.openOf? 0 with
    | some opened => Act.work (Process.readOpenWhile opened fun text ↦ (lineGlyphs isRaw text).2.1)
    | none => pure (.error .badDescriptor)
  let (glyphs, _, isComplete) := lineGlyphs isRaw (text.toOption.getD [])
  let all := glyphs.filter (· != .mark)
  let expanded : Expanded := { glyphs := all.toArray, regions := (openRegions 0 0 all).toArray }
  let fields := expanded.fields (← get).separators (some names.length)
  assignFields names (fields.map Glyph.text)
  pure (if isComplete then 0 else 1)

end ProgressActions.Shell.Builtin
