import ProgressActions.Shell.Arithmetic
import ProgressActions.Shell.Glob

/-!
# Expansion of words

Parameters, outputs and values are put in, and what comes from them outside of quotes is parted into
fields. The text of a word is put together first; regions of it are remembered in which fields may end.
Expansion may change the state: parameters are set on the way, and commands run for their output.
-/

namespace ProgressActions.Shell

/-! ## Text under construction -/

/-- A stretch of text in which fields may end. -/
structure Region where
  start : Nat
  stop : Nat
  /-- Whether fields end only between positional parameters. -/
  onlyBetween : Bool
  deriving DecidableEq, Repr

structure Expanded where
  glyphs : Array Glyph := #[]
  regions : Array Region := #[]

abbrev Expansion := StateT Expanded Act

structure Manner where
  /-- Whether the word is parted into fields. -/
  parts : Bool := false
  /-- Whether a tilde in front stands for a directory. -/
  tilde : Bool := false
  /-- Whether a tilde after a colon does so, too. -/
  colons : Bool := false
  /-- Whether the word is a pattern. -/
  isPattern : Bool := false
  /-- Whether the word takes the place of a parameter. -/
  replaces : Bool := false
  /-- Whether the word stands in double quotes. -/
  isQuoted : Bool := false

namespace Manner

def keepsQuotes (m : Manner) : Bool := m.parts || m.isPattern

def fields : Manner := { parts := true, tilde := true }

def assignment : Manner := { tilde := true, colons := true }

def text : Manner := { tilde := true }

def pattern : Manner := { tilde := true, isPattern := true }

end Manner

namespace Expansion

def size : Expansion Nat := do pure (← get).glyphs.size

def push (glyphs : List Glyph) : Expansion Unit :=
  modify fun e ↦ { e with glyphs := glyphs.foldl Array.push e.glyphs }

/-- Remembers that fields may end between a place and the end of the text. -/
def region (start : Nat) (onlyBetween : Bool) : Expansion Unit :=
  modify fun e ↦ { e with regions := e.regions.push ⟨start, e.glyphs.size, onlyBetween⟩ }

def cut (place regions : Nat) : Expansion (List Glyph) := do
  let e ← get
  set { e with glyphs := e.glyphs.extract 0 place, regions := e.regions.extract 0 regions }
  pure (e.glyphs.extract place e.glyphs.size).toList

def glyphsOf (m : Manner) (text : Octets) : List Glyph :=
  text.map fun c ↦
    if m.keepsQuotes && m.isQuoted && (c == '\\' || "!*?[=~:/-]".toList.contains c) then .hidden c
    else .char c

end Expansion

/-! ## Parameters -/

def optionLetters : List Char :=
  ['u', 'b', 'a', 'C', 'E', 'V', 'v', 'x', 's', 'n', 'm', 'i', 'I', 'f', 'e']

/-- What stands between positional parameters that are put in together, if anything does. -/
def State.joint (s : State) (isParted isQuoted isStar : Bool) : Option Char :=
  if isQuoted && isParted && !isStar then some '\x00'
  else if !isQuoted && isParted then if (s.lookup "IFS".toList).isSome then some '\x00' else some ' '
  else
    match s.lookup "IFS".toList with
    | some (c :: _) => some c
    | some [] => none
    | none => some ' '

def State.parameter? (s : State) (isParted isQuoted : Bool) (name : Octets) : Option Octets :=
  match name with
  | ['$'] => some (Text.numeral s.rootId)
  | ['?'] => some (Text.numeral s.status)
  | ['#'] => some (Text.numeral s.positional.length)
  | ['!'] => s.background.map Text.numeral
  | ['-'] => some (optionLetters.filter s.options.contains)
  | ['@'] => some ((s.joint isParted isQuoted false).toList.intercalate s.positional)
  | ['*'] => some ((s.joint isParted isQuoted true).toList.intercalate s.positional)
  | _ =>
    match Text.natural? name with
    | some 0 => some s.name
    | some n => s.positional[n - 1]?
    | none => s.lookup name

def homeOf (name : Octets) : Act (Option Octets) := do
  if name = [] then lookupHome
  else
    match ← Act.work (Process.readFile "/etc/passwd".toList) with
    | .ok content =>
      let rows := (Octets.splitAt '\n' content).map (Octets.splitAt ':')
      pure ((rows.find? (·.head? == some name)).bind (·[5]?))
    | .error _ => pure none
where
  lookupHome : Act (Option Octets) := Act.lookup "HOME"

/-! ## Parts of words -/

abbrev Expander := Manner → Word → Expansion Unit

namespace Expansion

def apart (expand : Expander) (m : Manner) (w : Word) : Expansion (List Glyph) := do
  let e ← get
  expand m w
  cut e.glyphs.size e.regions.size

def missing {α : Type} (name complaint : Octets) : Expansion α :=
  liftM (Act.fail (α := α) (name ++ ": ".toList ++ complaint))

def pushValue (m : Manner) (name : Octets) (value : Octets) : Expansion Unit := do
  let start ← size
  push (glyphsOf m value)
  if !m.isQuoted then region start false
  else if name = ['@'] ∧ (← (MonadState.get : Act State)).positional ≠ [] then region start true

/-- Text without what a pattern cuts off at one of its ends. -/
def trimmed (atStart longest : Bool) (pattern : Octets) (value : List Glyph) : List Glyph :=
  let text := Glyph.text value
  if atStart then
    match Pattern.lengthAtStart? longest pattern text with
    | some n => value.drop n
    | none => value
  else
    match Pattern.lengthBeforeEnd? longest pattern text with
    | some n => value.take n
    | none => value

def parameter (expand : Expander) (m : Manner) (name : Octets) (use : Use) (emptyIsMissing : Bool)
    (word : Word) : Expansion Unit := do
  let s ← (MonadState.get : Act State)
  let value := s.parameter? m.parts m.isQuoted name
  let isMissing := match value with
    | some text => emptyIsMissing && text.isEmpty
    | none => true
  let demand : Expansion Octets := do
    match value with
    | some text => pure text
    | none =>
      if s.options.contains 'u' then missing name "parameter not set".toList else pure []
  match use with
  | .bad => liftM (Act.fail (α := Unit) "Bad substitution".toList)
  | .replace => if !isMissing then expand { m with tilde := true, replaces := true } word
  | .fallback =>
    if isMissing then expand { m with tilde := true, replaces := true } word
    else pushValue m name (value.getD [])
  | .assign =>
    if isMissing then
      let text := Glyph.text (← apart expand .text word)
      if isVariableName name then liftM (Act.assign name text)
      else liftM (Act.fail (α := Unit) (name ++ ": bad variable name".toList))
      let now ← (MonadState.get : Act State)
      pushValue m name ((now.parameter? m.parts m.isQuoted name).getD [])
    else pushValue m name (value.getD [])
  | .complain =>
    if isMissing then
      let text := Glyph.text (← apart expand .text word)
      if word.isEmpty then
        missing name ("parameter not set".toList ++ (if emptyIsMissing then " or null".toList else []))
      else missing name text
    else pushValue m name (value.getD [])
  | .length =>
    let length := match name with
      | ['@'] => ((s.parameter? false false name).getD []).length
      | ['*'] => ((s.parameter? false false name).getD []).length
      | _ => (value.getD []).length
    discard demand
    pushValue m name (Text.numeral length)
  | .value =>
    pushValue m name (← demand)
    expand m word
  | .trimEnd longest =>
    let text ← demand
    let pattern := Glyph.pattern true (← apart expand .pattern word)
    let start ← size
    push (trimmed false longest pattern (glyphsOf m text))
    if !m.isQuoted then region start false
    else if name = ['@'] ∧ s.positional ≠ [] then region start true
  | .trimStart longest =>
    let text ← demand
    let pattern := Glyph.pattern true (← apart expand .pattern word)
    let start ← size
    push (trimmed true longest pattern (glyphsOf m text))
    if !m.isQuoted then region start false
    else if name = ['@'] ∧ s.positional ≠ [] then region start true

/-- The name behind a tilde in front of a word, and what follows it. -/
def tildeName? (colons : Bool) : Word → Option (Octets × Word)
  | [] => some ([], [])
  | .char c :: rest =>
    if c = '/' ∨ (c = ':' ∧ colons) then some ([], .char c :: rest)
    else (tildeName? colons rest).map fun (name, after) ↦ (c :: name, after)
  | _ => none

/-- Goes on with the directory that a tilde in front of a word stands for, and yields what follows it. -/
def tilde (m : Manner) (w : Word) : Expansion Word := do
  match w with
  | .char '~' :: rest =>
    match tildeName? m.colons rest with
    | some (name, after) =>
      match ← liftM (homeOf name) with
      | some home =>
        push (glyphsOf { m with isQuoted := true } home)
        pure after
      | none => pure w
    | none => pure w
  | _ => pure w

def withoutFinalFeeds (text : Octets) : Octets := (text.reverse.dropWhile (· == '\n')).reverse

def parts (v : Services) (expand : Expander) (m : Manner) :
    (limit : Nat) → (inQuotes : Bool) → Word → Expansion Unit
  | 0, _, _ => pure ()
  | _ + 1, _, [] => pure ()
  | limit + 1, inQuotes, part :: rest => do
    let inner := { m with isQuoted := m.isQuoted || inQuotes }
    match part, rest with
    | .quote, .parameter ['@'] .value false [] :: .quote :: after =>
      if inQuotes then
        if m.keepsQuotes then push [.mark]
        parts v expand m limit false rest
      else
        parameter expand { m with isQuoted := true } ['@'] .value false []
        parts v expand m limit false after
    | .quote, _ =>
      if m.keepsQuotes then push [.mark]
      parts v expand m limit (!inQuotes) rest
    | .hidden c, _ =>
      push [if m.keepsQuotes then .hidden c else .char c]
      parts v expand m limit inQuotes rest
    | .char _, _ =>
      let isRun : Part → Bool := fun part ↦ match part with
        | .char c => !(m.colons && c == ':')
        | _ => false
      let isColon : Part → Bool := fun part ↦ match part with
        | .char c => m.colons && c == ':'
        | _ => false
      let run := (part :: rest).takeWhile isRun
      let after := (part :: rest).drop run.length
      let start ← size
      let colon := after.head?.any isColon
      push (((plainText? (run ++ after.take (if colon then 1 else 0))).getD []).map .char)
      if m.replaces && !inner.isQuoted && (← size) > start then region start false
      let next ← if colon then tilde m (after.drop 1) else pure after
      parts v expand m limit inQuotes next
    | .parameter name use emptyIsMissing word, _ =>
      parameter expand inner name use emptyIsMissing word
      if !(use = .value ∧ emptyIsMissing) then parts v expand m limit inQuotes rest
    | .output body, _ =>
      let start ← size
      let output ← liftM (v.capture body)
      push (glyphsOf inner (withoutFinalFeeds (output.filter (· != '\x00'))))
      if !inner.isQuoted then region start false
      parts v expand m limit inQuotes rest
    | .calculation word, _ =>
      let text := Glyph.text (← apart expand {} word)
      let value ← liftM (Arithmetic.evaluate text)
      let start ← size
      push (glyphsOf inner (Octets.ofInt value))
      if !inner.isQuoted then region start false
      parts v expand m limit inQuotes rest

/-- Expands a word. Words inside of words are followed to a depth. -/
def word (v : Services) : (depth : Nat) → Expander
  | 0, _, _ => pure ()
  | depth + 1, m, w => do
    let start ← if m.tilde then tilde m w else pure w
    parts v (word v depth) { m with tilde := false } (start.length + 2) false start

/-- How deeply words inside of words are followed. -/
def maxDepth : Nat := 500

end Expansion

/-! ## Fields -/

structure Splitting where
  /-- The finished fields, the last one first. -/
  finished : List (List Glyph) := []
  /-- Where the field at hand begins. -/
  start : Nat := 0
  /-- Whether blanks are being passed over behind a field. -/
  inBlanks : Bool := false
  /-- How many fields may still end, if that is limited. -/
  allowed : Option Nat := none
  /-- Where the last field ends, if something in front of the end of the text is left out. -/
  stop : Option Nat := none

namespace Splitting

def character (g : Glyph) : Char :=
  match g with
  | .char c => c
  | .hidden c => c
  | .mark => '\x88'

/-- Whether a character always parts fields without any field between two of its kind. -/
def isBlank (c : Char) : Bool := c == ' ' || c == '\t' || c == '\n' || c == '\x00'

def step (separators : Octets) (glyphs : Array Glyph) (keepsBlanks : Bool) (s : Splitting) (place : Nat) :
    Splitting :=
  let c := character (glyphs.getD place .mark)
  let isSeparator := c == '\x00' || separators.contains c
  let isDefault := isSeparator && isBlank c
  if s.allowed = some 0 then
    if isDefault then { s with stop := s.stop.or (some place) }
    else { s with stop := if isSeparator && s.inBlanks then s.stop else none, inBlanks := false }
  else
    let (s, from_, done, parts) :=
      if s.inBlanks then
        let from_ := if isSeparator then place + 1 else place
        ({ s with start := from_ }, from_, isDefault, false)
      else (s, place, false, isSeparator)
    if done then s
    else if parts then
      let s := if keepsBlanks then s else { s with inBlanks := isDefault }
      if from_ = s.start ∧ s.inBlanks then { s with start := place + 1, inBlanks := false }
      else
        match s.allowed with
        | some 1 => { s with allowed := some 0, stop := some place }
        | _ =>
          { s with
            allowed := s.allowed.map (· - 1)
            finished := (glyphs.extract s.start place).toList :: s.finished
            start := place + 1 }
    else { s with inBlanks := false }

end Splitting

def Expanded.fields (e : Expanded) (separators : Octets) (limit : Option Nat) : List (List Glyph) :=
  let (s, wasOnlyBetween) := e.regions.foldl (fun (s, wasOnlyBetween) r ↦
    let inside := if r.onlyBetween then [] else separators
    let places := (List.range r.stop).drop r.start
    (places.foldl (Splitting.step inside e.glyphs (wasOnlyBetween || r.onlyBetween))
      { s with inBlanks := false }, r.onlyBetween)) (({ allowed := limit } : Splitting), false)
  let last := (e.glyphs.extract s.start (s.stop.getD e.glyphs.size)).toList
  let all := if last = [] ∧ !wasOnlyBetween then s.finished else last :: s.finished
  all.reverse

/-! ## Words -/

def expandIn (v : Services) (m : Manner) (w : Word) : Act Expanded := do
  let ((), e) ← (Expansion.word v Expansion.maxDepth m w).run {}
  pure e

/-- The fields of a word. Patterns among them stand for the files that they find. -/
def expandWord (v : Services) (w : Word) : Act (List Octets) := do
  match plainText? w with
  | some text =>
    if text ≠ [] ∧ text.all fun c ↦ c.isAlphanum || c == '-' then return [text]
  | none => pure ()
  let e ← expandIn v .fields w
  let s ← get
  let found := (e.fields s.separators none).map fun field ↦
    let text := Glyph.text field
    if s.options.contains 'f' || !text.any fun c ↦ c == '*' || c == '?' || c == '[' then [text]
    else
      match Glob.expand s.process (Glyph.pattern true field) with
      | [] => [text]
      | paths => paths
  pure found.flatten

def expandWords (v : Services) : List Word → Act (List Octets)
  | [] => pure []
  | w :: rest => do
    let first ← expandWord v w
    pure (first ++ (← expandWords v rest))

def expandText (v : Services) (m : Manner) (w : Word) : Act Octets := do
  let e ← expandIn v m w
  pure (Glyph.text e.glyphs.toList)

def expandPattern (v : Services) (w : Word) : Act Octets := do
  let e ← expandIn v .pattern w
  pure (Glyph.pattern true e.glyphs.toList)

end ProgressActions.Shell
