import ProgressActions.Programs.Basic

/-!
# Parts of lines

`cut` takes octets or fields out of lines, and `paste` puts lines of several files side by side.
-/

namespace ProgressActions.Programs

/-! ## Taking parts out -/

namespace Cut

structure Stretch where
  low : Nat
  high : Option Nat
  deriving DecidableEq, Repr

def Stretch.contains (s : Stretch) (n : Nat) : Bool := decide (s.low ≤ n) && s.high.all (n ≤ ·)

def stretches (countsFields : Bool) (text : Octets) : Except Octets (List Stretch) :=
  let kind := if countsFields then "fields are" else "byte/character positions are"
  let isSeparator : Char → Bool := fun c ↦ c == ',' || c == ' ' || c == '\t'
  let parts := text.foldr (fun c parts ↦
    if isSeparator c then [] :: parts else Octets.extendParts '\x00' c parts) [[]]
  let invalid (part : Octets) : Octets :=
    (if countsFields then "invalid field value " else "invalid byte/character position ").toList ++
      Quoting.plain part
  let number (part digits : Octets) : Except Octets (Option Nat) :=
    if digits = [] then .ok none
    else if digits.all Char.isDigit then
      let n := Text.digitsValue digits
      if n = 0 then .error (kind.toList ++ " numbered from 1".toList) else .ok (some n)
    else
      let rest := digits.dropWhile Char.isDigit
      .error (invalid (if digits.head?.any Char.isDigit then rest else part))
  parts.mapM fun part ↦ do
    let low := part.takeWhile (· != '-')
    if low.length = part.length then
      match ← number part part with
      | some n => pure ⟨n, some n⟩
      | none => throw (kind.toList ++ " numbered from 1".toList)
    else
      let high := part.drop (low.length + 1)
      match ← number part low, ← number part high with
      | none, none => throw "invalid range with no endpoint: -".toList
      | a, some b =>
        if b < a.getD 1 then throw "invalid decreasing range".toList
        else pure ⟨a.getD 1, some b⟩
      | a, none => pure ⟨a.getD 1, none⟩

structure Request where
  isWanted : Nat → Bool
  countsFields : Bool := false
  delimiter : Char := '\t'
  /-- What stands between parts of the output. -/
  between : Option Octets := none
  /-- Whether lines without a delimiter are left out. -/
  skipsOthers : Bool := false

def numbered {α : Type} (things : List α) : List (Nat × α) := (List.range' 1 things.length).zip things

def chosenRows (isWanted : Nat → Bool) (line : Octets) : List Octets :=
  ((numbered line).splitBy fun a b ↦ isWanted a.1 == isWanted b.1).filterMap fun row ↦
    if row.any fun (n, _) ↦ isWanted n then some (row.map (·.2)) else none

def Request.line (r : Request) (line : Octets) : List Octets :=
  if r.countsFields then
    if !line.contains r.delimiter then (if r.skipsOthers then [] else [line])
    else
      let kept := (numbered (Octets.splitAt r.delimiter line)).filter fun (n, _) ↦ r.isWanted n
      [(r.between.getD [r.delimiter]).intercalate (kept.map (·.2))]
  else
    match r.between with
    | none => [((numbered line).filter fun (n, _) ↦ r.isWanted n).map (·.2)]
    | some text => [text.intercalate (chosenRows r.isWanted line)]

def usage : Usage :=
  { choices :=
      [{ key := "b", names := ["bytes"], demand := .value },
       { key := "c", names := ["characters"], demand := .value },
       { key := "f", names := ["fields"], demand := .value },
       { key := "d", names := ["delimiter"], demand := .value }, { key := "n" },
       { key := "s", names := ["only-delimited"] }, { key := "complement" },
       { key := "output-delimiter", demand := .value },
       { key := "z", names := ["zero-terminated"] }] }

def request (name : Octets) (g : Given) : Job Request := do
  let lists := g.options.filter fun (key, _) ↦ ["b", "c", "f"].contains key
  match lists with
  | [] => Job.misused name "you must specify a list of bytes, characters, or fields".toList
  | _ :: _ :: _ => Job.misused name "only one list may be specified".toList
  | [(key, list)] =>
    let countsFields := key == "f"
    let delimiter ← match g.value? "d" with
      | none => pure '\t'
      | some [] => pure '\x00'
      | some [c] => pure c
      | some _ => Job.misused name "the delimiter must be a single character".toList
    if !countsFields ∧ g.has "d" then
      Job.misused name "an input delimiter may be specified only when operating on fields".toList
    if !countsFields ∧ g.has "s" then
      Job.misused name
        "suppressing non-delimited lines makes sense\n\tonly when operating on fields".toList
    match stretches countsFields (list.getD []) with
    | .error text => Job.misused name text
    | .ok all =>
      let isChosen : Nat → Bool := fun n ↦ all.any (·.contains n)
      pure
        { isWanted := if g.has "complement" then fun n ↦ !isChosen n else isChosen
          countsFields
          delimiter
          between := (g.value? "output-delimiter").map fun text ↦ if text = [] then ['\x00'] else text
          skipsOthers := g.has "s" }

end Cut

def cut : Program := fun name arguments ↦ do
  let given ← Job.understand Cut.usage name arguments
  let request ← Cut.request name given
  let mark := if given.has "z" then '\x00' else '\n'
  let mut isWell := true
  for file in Job.inputs given.words do
    match ← Job.input file with
    | .error cause =>
      Job.complainOf name file cause
      isWell := false
    | .ok text => Job.put name (Octets.ended mark ((Octets.records mark text).flatMap request.line))
  Job.finish isWell

/-! ## Putting lines side by side -/

namespace Paste

/-- The delimiters that a text spells; nothing stands for no delimiter. -/
def delimiters : Octets → List (Option Char)
  | [] => []
  | '\\' :: c :: rest =>
    let meant : Option Char := match c with
      | '0' => none
      | 'n' => some '\n'
      | 't' => some '\t'
      | 'b' => some '\x08'
      | 'f' => some '\x0c'
      | 'r' => some '\x0d'
      | 'v' => some '\x0b'
      | _ => some c
    meant :: delimiters rest
  | c :: rest => some c :: delimiters rest

/-- Texts with delimiters between them, which are taken in turn. -/
def glued (all : List (Option Char)) (texts : List Octets) : Octets :=
  let between (n : Nat) : Octets :=
    match all[n % all.length]? with
    | some (some c) => [c]
    | _ => []
  ((List.range texts.length).zip texts).flatMap fun (n, text) ↦
    if n = 0 then text else between (n - 1) ++ text

/-- Lines of a column: its own, or those that it shares with others. -/
inductive Column where
  | own (lines : List Octets)
  | shared

/-- A round through the columns: a line of each, if there is one. -/
def round : (shared : List Octets) → List Column → List (Option Octets) × List Octets × List Column
  | shared, [] => ([], shared, [])
  | shared, .own lines :: rest =>
    let (found, left, columns) := round shared rest
    (lines.head? :: found, left, .own (lines.drop 1) :: columns)
  | shared, .shared :: rest =>
    let (found, left, columns) := round (shared.drop 1) rest
    (shared.head? :: found, left, .shared :: columns)

/-- The rounds through the columns until all lines are used up. -/
def rounds (all : List (Option Char)) : (limit : Nat) → (shared : List Octets) → List Column → List Octets
  | 0, _, _ => []
  | limit + 1, shared, columns =>
    let (found, left, next) := round shared columns
    if found.all (·.isNone) then []
    else glued all (found.map (·.getD [])) :: rounds all limit left next

def usage : Usage :=
  { choices :=
      [{ key := "d", names := ["delimiters"], demand := .value }, { key := "s", names := ["serial"] },
       { key := "z", names := ["zero-terminated"] }] }

end Paste

/-- Puts lines of files side by side. -/
def paste : Program := fun name arguments ↦ do
  let given ← Job.understand Paste.usage name arguments
  let mark := if given.has "z" then '\x00' else '\n'
  let files := Job.inputs given.words
  let all := match given.value? "d" with
    | none => [some '\t']
    | some [] => [none]
    | some text => Paste.delimiters text
  if given.has "s" then
    let mut isWell := true
    for file in files do
      match ← Job.input file with
      | .error cause =>
        Job.complainOf name file cause
        isWell := false
      | .ok text => Job.put name (Octets.ended mark [Paste.glued all (Octets.records mark text)])
    Job.finish isWell
  else
    let shared ← if files.contains ['-'] then
        match ← Job.input ['-'] with
        | .ok text => pure (Octets.records mark text)
        | .error cause => Job.fail name (Job.refusal ['-'] cause)
      else pure []
    let mut columns : List Paste.Column := []
    let mut size := shared.length
    for file in files do
      if file = ['-'] then columns := columns ++ [.shared]
      else
        match ← Job.input file with
        | .error cause => Job.fail name (Job.refusal (Quoting.needed file) cause)
        | .ok text =>
          let lines := Octets.records mark text
          size := size + lines.length
          columns := columns ++ [.own lines]
    Job.put name (Octets.ended mark (Paste.rounds all (size + 1) shared columns))

end ProgressActions.Programs
