import ProgressActions.Regex.Parser

/-!
# Editing scripts

A script is a row of commands. Each of them may be confined to some lines, and lines are edited one after
another: a line is taken into the pattern space, the commands work on it, and what is left there is shown.
-/

namespace ProgressActions.Programs.Sed

/-! ## Lines -/

/-- A regular expression to look for. Without one, the last one that was looked for counts. -/
structure Sought where
  expression? : Option Regex := none
  foldsCase : Bool := false
  hasLines : Bool := false
  deriving DecidableEq, Repr

inductive Address where
  | line (number : Nat)
  /-- Every so many lines from a first one on. -/
  | every (first step : Nat)
  | last
  | holding (s : Sought)
  deriving DecidableEq, Repr

inductive Stop where
  | at (place : Address)
  /-- So many lines behind the first one. -/
  | after (count : Nat)
  /-- At the next multiple of a number. -/
  | multiple (factor : Nat)
  deriving DecidableEq, Repr

structure Selection where
  first? : Option Address := none
  stop? : Option Stop := none
  isNegated : Bool := false
  deriving DecidableEq, Repr

/-! ## Commands -/

/-- How letters are turned into capitals or small ones. -/
inductive Casing where
  | kept
  | upper
  | lower
  deriving DecidableEq, Repr

namespace Casing

def apply : Casing → Char → Char
  | kept, c => c
  | upper, c => c.toUpper
  | lower, c => c.toLower

end Casing

/-- A piece of a replacement: a text, and the text of a group behind it. -/
structure Segment where
  text : Octets := []
  group? : Option Nat := none
  casing : Casing := .kept
  /-- The casing of the first character, if it has its own. -/
  first? : Option Casing := none
  deriving DecidableEq, Repr

structure Substitution where
  sought : Sought
  replacement : List Segment
  everywhere : Bool := false
  /-- The first place that is replaced, counted from one. -/
  number : Nat := 1
  prints : Bool := false
  /-- Whether the result is run as a command. -/
  isRun : Bool := false
  /-- Whether the result is shown before it is run. -/
  printsFirst : Bool := false
  output? : Option Octets := none
  deriving DecidableEq, Repr

inductive JumpCase where
  | always
  | replaced
  | unreplaced
  deriving DecidableEq, Repr

inductive Act where
  | nothing
  /-- Goes on behind the end of the block unless it applies. -/
  | openBlock (stop : Nat)
  | append (text : Octets)
  | insert (text : Octets)
  | change (text : Octets)
  | jump (when : JumpCase) (label : Octets)
  | delete
  | deleteFirst
  /-- Runs a command, or what is in the pattern space. -/
  | run (command : Octets)
  | showFile
  | get
  | getMore
  | hold
  | holdMore
  | exchange
  | list (width? : Option Nat)
  | next
  | nextMore
  | print
  | printFirst
  | quit (status : Nat)
  | quitSilently (status : Nat)
  | readFile (name : Octets)
  | readLine (name : Octets)
  | write (name : Octets)
  | writeFirst (name : Octets)
  | substitute (s : Substitution)
  | translate (map : List (Char × Char))
  | showNumber
  | clear
  /-- A command that is known but can no longer be carried out. -/
  | unsupported (letter : Char)
  deriving DecidableEq, Repr

structure Command where
  selection : Selection
  act : Act
  deriving DecidableEq, Repr

/-- A script: its commands, the places of labels and the files that are written. -/
structure Script where
  commands : Array Command := #[]
  labels : List (Octets × Nat) := []
  outputs : List Octets := []
  /-- Whether the first line asks for lines not to be shown by themselves. -/
  isQuiet : Bool := false

/-! ## Problems -/

inductive Source where
  | expression (number : Nat)
  | file (name : Octets)
  deriving DecidableEq, Repr

structure Place where
  source : Source
  /-- How many characters have been read. -/
  column : Nat := 0
  line : Nat := 1
  deriving DecidableEq, Repr

namespace Place

def description (p : Place) : Octets :=
  match p.source with
  | .expression n =>
    "-e expression #".toList ++ Text.numeral n ++ ", char ".toList ++ Text.numeral p.column
  | .file name => "file ".toList ++ name ++ " line ".toList ++ Text.numeral p.line

end Place

inductive Problem where
  | severalNegations
  | unexpectedComma
  | relativeFirst
  | openBlock
  | closingBlock
  | furtherText
  | noText
  | addressedClosing
  | addressedLabel
  | addressedComment
  | noCommand
  | oneAddress
  | openAddress
  | openSubstitution
  | openTranslation
  | unknownOption
  | severalPrints
  | severalGlobals
  | severalNumbers
  | zeroNumber
  | unequalLengths
  | newerVersion
  | lineZero
  | unknownCommand (letter : Char)
  | noLabel
  | recursiveEscape
  | sandboxed
  | noFileName
  | noExpression
  | modifiedEmpty
  | missingGroup (number : Nat)
  | expression (cause : Regex.RegexProblem)
  deriving DecidableEq, Repr

namespace Problem

def message : Problem → Octets
  | severalNegations => "multiple \x60!'s".toList
  | unexpectedComma => "unexpected \x60,'".toList
  | relativeFirst => "invalid usage of +N or ~N as first address".toList
  | openBlock => "unmatched \x60\x7b'".toList
  | closingBlock => "unexpected \x60\x7d'".toList
  | furtherText => "extra characters after command".toList
  | noText => "expected \\ after \x60a', \x60c' or \x60i'".toList
  | addressedClosing => "\x60\x7d' doesn't want any addresses".toList
  | addressedLabel => ": doesn't want any addresses".toList
  | addressedComment => "comments don't accept any addresses".toList
  | noCommand => "missing command".toList
  | oneAddress => "command only uses one address".toList
  | openAddress => "unterminated address regex".toList
  | openSubstitution => "unterminated \x60s' command".toList
  | openTranslation => "unterminated \x60y' command".toList
  | unknownOption => "unknown option to \x60s'".toList
  | severalPrints => "multiple \x60p' options to \x60s' command".toList
  | severalGlobals => "multiple \x60g' options to \x60s' command".toList
  | severalNumbers => "multiple number options to \x60s' command".toList
  | zeroNumber => "number option to \x60s' command may not be zero".toList
  | unequalLengths => "strings for \x60y' command are different lengths".toList
  | newerVersion => "expected newer version of sed".toList
  | lineZero => "invalid usage of line address 0".toList
  | unknownCommand letter => "unknown command: \x60".toList ++ [letter, '\'']
  | noLabel => "\":\" lacks a label".toList
  | recursiveEscape => "recursive escaping after \\c not allowed".toList
  | sandboxed => "e/r/w commands disabled in sandbox mode".toList
  | noFileName => "missing filename in r/R/w/W commands".toList
  | noExpression => "no previous regular expression".toList
  | modifiedEmpty => "cannot specify modifiers on empty regexp".toList
  | missingGroup number =>
    "invalid reference \\".toList ++ Text.numeral number ++ " on \x60s' command's RHS".toList
  | expression cause => cause.message.toList

end Problem

end ProgressActions.Programs.Sed
