import ProgressActions.Octets

/-!
# Commands of a shell

A script is a command: a simple one, or one that is put together from others. Words keep, part by part,
what is put in and what is quoted; the scripts inside of words are commands again.
-/

namespace ProgressActions.Shell

inductive Use where
  | value
  | length
  /-- A word takes the place of a value that is missing. -/
  | fallback
  | assign
  | complain
  /-- A word takes the place of a value that is there. -/
  | replace
  | trimEnd (longest : Bool)
  | trimStart (longest : Bool)
  /-- There is no such use. -/
  | bad
  deriving DecidableEq, Repr

inductive Access where
  | input
  | output
  /-- For output, whatever has been said about files that exist. -/
  | overwrite
  | append
  | both
  deriving DecidableEq, Repr

mutual

inductive Part where
  | char (c : Char)
  /-- A character that was quoted and stands for itself. -/
  | hidden (c : Char)
  /-- A quotation mark stood here. -/
  | quote
  /-- A parameter; an empty value may count as missing. -/
  | parameter (name : Octets) (use : Use) (emptyIsMissing : Bool) (word : List Part)
  /-- The output of a command. -/
  | output (body : Command)
  /-- The value of a calculation. -/
  | calculation (word : List Part)

inductive Redirect where
  | file (descriptor : Nat) (access : Access) (target : List Part)
  /-- The descriptor leads where another one leads, or nowhere. -/
  | duplicate (descriptor : Nat) (source : List Part)
  /-- The text of a document in the script, which is known by its number. -/
  | document (descriptor : Nat) (number : Nat)

inductive Clause where
  | mk (patterns : List (List Part)) (body : Command)

/-- A command. Most commands know the line on which they begin. -/
inductive Command where
  | nothing
  | simple (line : Nat) (assignments : List (Octets × List Part)) (words : List (List Part))
      (redirects : List Redirect)
  | redirected (line : Nat) (body : Command) (redirects : List Redirect)
  /-- Commands that run side by side, each reading what the one before writes. -/
  | pipeline (background : Bool) (commands : List Command)
  | subshell (line : Nat) (body : Command) (redirects : List Redirect)
  | background (line : Nat) (body : Command) (redirects : List Redirect)
  | sequence (commands : List Command)
  | both (first second : Command)
  | either (first second : Command)
  | negated (body : Command)
  | branch (condition consequence : Command) (alternative : Option Command)
  | loop (untilTrue : Bool) (condition body : Command)
  | each (line : Nat) (name : Octets) (words : List (List Part)) (body : Command)
  | choice (line : Nat) (subject : List Part) (clauses : List Clause)
  | define (line : Nat) (name : Octets) (body : Command)

end

instance : Inhabited Command := ⟨.nothing⟩

abbrev Word := List Part

/-- A document in a script: its text as a word, of which nothing is put in if its mark was quoted. -/
structure Document where
  text : Word := []
  expands : Bool := true

instance : Inhabited Document := ⟨{}⟩

/-! ## Names -/

def isNameStart (c : Char) : Bool := c.isAlpha || c == '_'

def isNameRest (c : Char) : Bool := c.isAlphanum || c == '_'

def isVariableName : Octets → Bool
  | c :: rest => isNameStart c && rest.all isNameRest
  | [] => false

def isSpecialParameter (c : Char) : Bool := "@*#?$!-".toList.contains c || c.isDigit

/-- The text of a word in which nothing is put in and nothing is quoted. -/
def plainText? : Word → Option Octets
  | [] => some []
  | .char c :: rest => (plainText? rest).map (c :: ·)
  | _ => none

/-- The text of a word whose quotation marks are taken away. -/
def bareText : Word → Octets
  | .char c :: rest => c :: bareText rest
  | .hidden c :: rest => c :: bareText rest
  | _ :: rest => bareText rest
  | [] => []

theorem bareText_of_plainText? {w : Word} {text : Octets} (h : plainText? w = some text) :
    bareText w = text := by
  induction w generalizing text with
  | nil => simpa [plainText?, bareText] using h
  | cons part rest ih =>
    cases part with
    | char c =>
      obtain ⟨tail, htail, rfl⟩ := Option.map_eq_some_iff.1 (by simpa [plainText?] using h)
      simp [bareText, ih htail]
    | _ => simp [plainText?] at h

end ProgressActions.Shell
