import ProgressActions.Shell.Source

/-!
# Words and tokens

Words are read character by character. Quotation marks, braces and calculations set the ground on which
the next characters stand, and grounds are kept on a stack. Commands inside of words are read by a
reader that is given.
-/

namespace ProgressActions.Shell

inductive Ground where
  | base
  | double
  | single
  | calculation
  deriving DecidableEq, Repr

structure Level where
  ground : Ground
  /-- Whether the level stands in double quotes. -/
  isQuoted : Bool
  /-- How many braces are open. -/
  braces : Nat := 0
  /-- How many of the braces were opened in double quotes. -/
  quotedBraces : Nat := 0
  /-- Whether double quotes are open inside of braces. -/
  innerQuotes : Bool := false
  /-- How many parentheses are open in a calculation. -/
  parentheses : Nat := 0
  /-- Whether the level ends with its last brace. -/
  endsWithBrace : Bool := false

inductive Opened where
  | parameter (name : Octets) (use : Use) (emptyIsMissing : Bool)
  | calculation

structure Draft where
  level : Level
  outer : List Level := []
  /-- The parts of the innermost construct, the last one first. -/
  parts : List Part := []
  /-- The constructs that are open, each with the parts in front of it. -/
  opened : List (Opened × List Part) := []
  /-- Whether anything was quoted. -/
  quoted : Bool := false

namespace Draft

def add (d : Draft) (part : Part) : Draft := { d with parts := part :: d.parts }

def begin (d : Draft) (construct : Opened) : Draft :=
  { d with parts := [], opened := (construct, d.parts) :: d.opened }

def close (d : Draft) : Draft :=
  match d.opened with
  | (.parameter name use emptyIsMissing, before) :: rest =>
    { d with
      parts := .parameter name use emptyIsMissing d.parts.reverse :: before
      opened := rest }
  | (.calculation, before) :: rest =>
    { d with parts := .calculation d.parts.reverse :: before, opened := rest }
  | [] => d

def enter (d : Draft) (level : Level) : Draft := { d with level, outer := d.level :: d.outer }

def leave (d : Draft) : Draft :=
  match d.outer with
  | level :: rest => { d with level, outer := rest }
  | [] => d

end Draft

/-- Characters that double quotes hide from patterns and from tildes. -/
def isHiddenByQuotes (c : Char) : Bool := "!*?[=~:/-]".toList.contains c

def endsWord (c : Char) : Bool := " \t\n;&|<>()".toList.contains c

/-- What kind of text is read as a word. -/
inductive Purpose where
  | word
  /-- The mark of a document, in which nothing is put in. -/
  | mark
  /-- A document up to its mark; tabs in front of its lines may be left out. -/
  | document (mark : Octets) (stripsTabs : Bool)
  deriving DecidableEq, Repr

namespace Purpose

def isDocument : Purpose → Bool
  | document _ _ => true
  | _ => false

end Purpose

namespace Reader

/-- The name and use of a parameter in braces, without the word that belongs to the use. -/
def bracedParameter : Reader (Octets × Use × Bool × Bool) := do
  let limit ← extent
  let bad : Octets → Reader (Octets × Use × Bool × Bool) := fun name ↦ pure (name, .bad, false, false)
  let named : Reader Octets := do
    match ← peekJoined with
    | some c =>
      if isNameStart c then takeWhile isNameRest limit
      else if c.isDigit then takeWhile Char.isDigit limit
      else pure []
    | none => pure []
  let used : Octets → Reader (Octets × Use × Bool × Bool) := fun name ↦ do
    let emptyIsMissing ← accept ':'
    match ← peekJoined with
    | some '\x7d' =>
      advance
      pure (name, .value, emptyIsMissing, !emptyIsMissing)
    | some '-' =>
      advance
      pure (name, .fallback, emptyIsMissing, false)
    | some '+' =>
      advance
      pure (name, .replace, emptyIsMissing, false)
    | some '?' =>
      advance
      pure (name, .complain, emptyIsMissing, false)
    | some '=' =>
      advance
      pure (name, .assign, emptyIsMissing, false)
    | some c =>
      if !emptyIsMissing && c == '%' then
        advance
        pure (name, .trimEnd (← accept '%'), false, false)
      else if !emptyIsMissing && c == '#' then
        advance
        pure (name, .trimStart (← accept '#'), false, false)
      else
        advance
        bad name
    | none => bad name
  match ← peekJoined with
  | none => bad []
  | some '\x7d' => bad []
  | some c =>
    if isNameStart c || c.isDigit then used (← named)
    else
      advance
      if c = '#' then
        match ← peekJoined with
        | some d =>
          if isNameRest d then
            let name ← named
            if ← accept '\x7d' then pure (name, .length, false, true) else bad name
          else
            advance
            if d ≠ '\x7d' ∧ (← peekJoined) = some '\x7d' then
              if isSpecialParameter d then
                advance
                pure ([d], .length, false, true)
              else bad ['#']
            else
              push [d]
              used ['#']
        | none => used ['#']
      else if isSpecialParameter c then used [c]
      else bad [c]

/-- Goes on with what a dollar sign stands for, the sign having been passed over. A value in braces that
asks what is missing, and no more than that, leaves the braces open. -/
def readDollar (nested : (inParentheses : Bool) → Reader Command) (purpose : Purpose) (d : Draft) : Reader Draft := do
  match ← peekJoined with
  | none => pure (d.add (.char '$'))
  | some c =>
    if purpose = .mark then pure (d.add (.char '$'))
    else if c = '(' then
      advance
      if ← accept '(' then
        pure ((d.begin .calculation).enter { ground := .calculation, isQuoted := true })
      else
        let saved := (← get).announced
        modify ({ · with announced := [] })
        let body ← nested true
        modify ({ · with announced := saved })
        pure (d.add (.output body))
    else if c = '\x7b' then
      advance
      let (name, use, emptyIsMissing, isComplete) ← bracedParameter
      if isComplete ∧ use = .value then pure (d.add (.parameter name .value false []))
      else
        let trims := match use with
          | .trimEnd _ => true
          | .trimStart _ => true
          | _ => false
        let ground : Ground := if trims then .base
          else if d.level.ground = .calculation then .double
          else d.level.ground
        let begun := d.begin (.parameter name use emptyIsMissing)
        let entered := if ground ≠ d.level.ground ∨ d.level.innerQuotes then
            begun.enter { ground, isQuoted := ground != .base, endsWithBrace := true }
          else begun
        let level := entered.level
        let deeper :=
          { level with
            braces := level.braces + 1
            quotedBraces := level.quotedBraces + (if level.isQuoted then 1 else 0) }
        let last := { entered with level := deeper }
        if isComplete then
          pure { (last.close) with level := d.level, outer := d.outer }
        else pure last
    else if isNameStart c then
      let name ← takeWhile isNameRest (← extent)
      pure (d.add (.parameter name .value false []))
    else if isSpecialParameter c then
      advance
      pure (d.add (.parameter [c] .value false []))
    else pure (d.add (.char '$'))

/-- The text up to a closing backquote, without the backslashes that hide characters from it. -/
def readBackquoted (isQuoted : Bool) : (limit : Nat) → Reader Octets
  | 0 => fail .openBackquote
  | limit + 1 => do
    match ← peekJoined with
    | none => fail .openBackquote
    | some '\x60' =>
      advance
      pure []
    | some '\\' =>
      advance
      match ← next with
      | none => fail .openBackquote
      | some c =>
        let rest ← readBackquoted isQuoted limit
        if c = '\\' ∨ c = '\x60' ∨ c = '$' ∨ (isQuoted ∧ c = '"') then pure (c :: rest)
        else pure ('\\' :: c :: rest)
    | some c =>
      advance
      pure (c :: (← readBackquoted isQuoted limit))

/-- The draft after a backslash outside of single quotes. -/
def readBackslash (purpose : Purpose) (d : Draft) : Reader Draft := do
  match ← next with
  | none => pure (d.add (.hidden '\\'))
  | some c =>
    let level := d.level
    let staysVisible := level.isQuoted && c != '\\' && c != '\x60' && c != '$' &&
      (c != '"' || (purpose.isDocument && level.braces == 0)) &&
      (c != '\x7d' || level.braces == 0)
    let kept := if staysVisible then d.add (.hidden '\\') else d
    pure { (kept.add (.hidden c)) with quoted := true }

def readBrace (d : Draft) : Draft :=
  let level := d.level
  if !level.innerQuotes && level.braces > 0 then
    let closed := { d with level := { level with braces := level.braces - 1 } }.close
    if level.braces = 1 ∧ level.endsWithBrace then closed.leave
    else
      { closed with level :=
        { closed.level with quotedBraces := level.quotedBraces - 1 } }
  else d.add (.char '\x7d')

def readClosingQuote (purpose : Purpose) (d : Draft) (c : Char) : Draft :=
  let level := d.level
  if purpose.isDocument && level.braces == 0 then d.add (.char c)
  else
    let after := if level.quotedBraces = 0 then { level with ground := .base, isQuoted := false } else level
    let toggled := if c = '"' ∧ level.braces > 0 then { after with innerQuotes := !after.innerQuotes }
      else after
    let next := { d with level := toggled, quoted := true }
    if purpose.isDocument then next else next.add .quote

def readOpeningQuote (purpose : Purpose) (d : Draft) (c : Char) : Draft :=
  let level := d.level
  let after :=
    if c = '"' then
      { level with
        ground := .double
        isQuoted := true
        innerQuotes := if level.braces > 0 then !level.innerQuotes else level.innerQuotes }
    else { level with ground := .single }
  let next := { d with level := after }
  if purpose.isDocument then next else next.add .quote

/-- Whether the mark of a document stands at the front of a text, and what follows its line. -/
def afterMark? (mark text : Octets) (stripsTabs : Bool) : Option Nat :=
  let line := if stripsTabs then text.dropWhile (· == '\t') else text
  if mark.isPrefixOf line then
    match line.drop mark.length with
    | [] => some text.length
    | '\n' :: rest => some (text.length - rest.length)
    | _ => none
  else none

def skip : (count : Nat) → Reader Unit
  | 0 => pure ()
  | count + 1 => do
    advance
    skip count

/-- At the front of a line of a document, passes over its mark and tells whether it was there. Else tabs
are left out if that is asked for. -/
def acceptMark (purpose : Purpose) : Reader Bool := do
  match purpose with
  | .document mark stripsTabs =>
    discard peek
    let text ← remaining
    match afterMark? mark text stripsTabs with
    | some length =>
      skip length
      pure true
    | none =>
      if stripsTabs then skip (text.takeWhile (· == '\t')).length
      pure false
  | _ => pure false

def isEnd (d : Draft) (c : Char) : Bool :=
  d.level.ground == .base && d.level.braces == 0 && endsWord c

def readPlain (purpose : Purpose) (d : Draft) (c : Char) : Draft :=
  let hides := match d.level.ground with
    | .double => isHiddenByQuotes c
    | .single => isHiddenByQuotes c || c == '\\'
    | _ => false
  d.add (if hides && (!purpose.isDocument || d.level.isQuoted) then .hidden c else .char c)

/-- Reads the characters of a word. The ground is that of the first character. -/
def readParts (nested : (inParentheses : Bool) → Reader Command) (purpose : Purpose) :
    (limit : Nat) → (startsLine : Bool) → Draft → Reader Draft
  | 0, _, _ => fail .tooDeep
  | limit + 1, startsLine, d => do
    if startsLine && (← acceptMark purpose) then return d
    let c? ← if d.level.ground = .single then peek else peekJoined
    match c? with
    | none => return d
    | some c =>
      if isEnd d c then return d
      advance
      let go : Draft → Reader Draft := readParts nested purpose limit false
      match d.level.ground, c with
      | _, '\n' => readParts nested purpose limit true (d.add (.char c))
      | .single, '\'' =>
        if purpose.isDocument then go (readPlain purpose d c) else go (readClosingQuote purpose d c)
      | .single, _ => go (readPlain purpose d c)
      | .base, '\'' => go (readOpeningQuote purpose d c)
      | .base, '"' => go (readOpeningQuote purpose d c)
      | .double, '"' => go (readClosingQuote purpose d c)
      | _, '\\' => go (← readBackslash purpose d)
      | _, '$' => go (← readDollar nested purpose d)
      | _, '\x60' =>
        if purpose = .mark then go (d.add (.char c))
        else
          let text ← readBackquoted d.level.isQuoted ((← extent) + 1)
          let body ← within text (nested false)
          go (d.add (.output body))
      | _, '\x7d' => go (readBrace d)
      | .calculation, '(' =>
        go { d.add (.char c) with level := { d.level with parentheses := d.level.parentheses + 1 } }
      | .calculation, ')' =>
        if d.level.parentheses > 0 then
          go { d.add (.char c) with level := { d.level with parentheses := d.level.parentheses - 1 } }
        else if ← accept ')' then go d.close.leave
        else go (d.add (.char c))
      | _, _ => go (readPlain purpose d c)

def readWord (nested : (inParentheses : Bool) → Reader Command) (purpose : Purpose) (ground : Ground) : Reader (Word × Bool) := do
  let limit ← extent
  let d ← readParts nested purpose (limit + 2) true
    { level := { ground, isQuoted := ground == .double } }
  if d.level.ground = .calculation then fail .missingParentheses
  else if d.level.ground ≠ .base ∧ !purpose.isDocument then fail .unterminatedQuote
  else if d.level.braces ≠ 0 then fail .missingBrace
  else pure (d.parts.reverse, d.quoted)

/-! ## Tokens -/

def redirectionOperator (first : Char) : Reader String := do
  if first = '>' then
    if ← accept '>' then pure ">>"
    else if ← accept '|' then pure ">|"
    else if ← accept '&' then pure ">&"
    else pure ">"
  else if ← accept '<' then
    if ← accept '-' then pure "<<-" else pure "<<"
  else if ← accept '&' then pure "<&"
  else if ← accept '>' then pure "<>"
  else pure "<"

def skipBlanks : (limit : Nat) → Reader Unit
  | 0 => pure ()
  | limit + 1 => do
    match ← peekJoined with
    | some ' ' =>
      advance
      skipBlanks limit
    | some '\t' =>
      advance
      skipBlanks limit
    | some '#' =>
      let text ← remaining
      skip (text.takeWhile (· != '\n')).length
      skipBlanks limit
    | _ => pure ()

/-- Reads a token, without asking what words mean. -/
def scan (nested : (inParentheses : Bool) → Reader Command) (purpose : Purpose) : Reader Token := do
  match (← get).pushed with
  | some token =>
    modify ({ · with pushed := none })
    pure token
  | none =>
    skipBlanks ((← extent) + 1)
    let operator : String → Option (Char × String) → Reader Token := fun text longer ↦ do
      advance
      match longer with
      | some (c, other) => if ← accept c then pure (.operator other) else pure (.operator text)
      | none => pure (.operator text)
    match ← peekJoined with
    | none => pure .finish
    | some '\n' =>
      advance
      pure .lineFeed
    | some '&' => operator "&" (some ('&', "&&"))
    | some '|' => operator "|" (some ('|', "||"))
    | some ';' => operator ";" (some (';', ";;"))
    | some '(' => operator "(" none
    | some ')' => operator ")" none
    | some _ =>
      let (w, quoted) ← readWord nested purpose .base
      match ← peek with
      | some stop =>
        let descriptor? : Option (Option Nat) := match w with
          | [] => some none
          | [.char d] => if d.isDigit then some (some (d.toNat - 48)) else none
          | _ => none
        match descriptor? with
        | some descriptor =>
          if (stop = '<' ∨ stop = '>') ∧ !quoted then
            advance
            pure (.redirection descriptor (← redirectionOperator stop))
          else pure (.word w quoted)
        | none => pure (.word w quoted)
      | none => pure (.word w quoted)

def unread (token : Token) : Reader Unit := modify ({ · with pushed := some token })

def readDocuments (nested : (inParentheses : Bool) → Reader Command) : Reader Unit := do
  let announced := (← get).announced
  modify ({ · with announced := [] })
  for a in announced do
    let purpose : Purpose := .document a.mark a.stripsTabs
    let (text, _) ← readWord nested purpose (if a.expands then .double else .single)
    modify fun s ↦
      { s with documents := s.documents.setIfInBounds a.number { text, expands := a.expands } }

structure Position where
  /-- Line feeds in front of it are of no meaning. -/
  skipsFeeds : Bool := false
  /-- A keyword may stand here. -/
  admitsKeyword : Bool := false
  /-- A word that is an alias stands for its text. -/
  admitsAlias : Bool := false

def commandPosition : Position := { admitsKeyword := true, admitsAlias := true }

def scanPastFeeds (nested : (inParentheses : Bool) → Reader Command) : (limit : Nat) → Reader Token
  | 0 => pure .finish
  | limit + 1 => do
    match ← scan nested .word with
    | .lineFeed =>
      readDocuments nested
      scanPastFeeds nested limit
    | token => pure token

/-- The alias that a name stands for, unless it stands for it already. -/
def alias? (s : Source) (name : Octets) : Option Octets :=
  if s.segments.any fun part ↦ (part.alias?.map (·.1)) == some name then none else s.aliases.lookup name

def read (nested : (inParentheses : Bool) → Reader Command) (position : Position) (purpose : Purpose := .word) :
    (limit : Nat := 1000) → Reader Token
  | 0 => pure .finish
  | limit + 1 => do
    modify ({ · with aliasNext := false })
    let token ← if position.skipsFeeds then scanPastFeeds nested ((← extent) + 2) else scan nested purpose
    match token with
    | .word w false =>
      match plainText? w with
      | none => pure token
      | some name =>
        let isKeyword := position.admitsKeyword && keywords.contains (String.ofList name)
        if isKeyword then pure (.keyword (String.ofList name))
        else
          let s ← get
          if position.admitsAlias || s.aliasNext then
            match alias? s name with
            | some text =>
              if text ≠ [] then
                let endsBlank := text.getLast? == some ' ' || text.getLast? == some '\t'
                set { s with segments := ⟨text, some (name, endsBlank)⟩ :: s.segments }
              read nested { position with admitsAlias := true } purpose limit
            | none => pure token
          else pure token
    | _ => pure token

end Reader

end ProgressActions.Shell
