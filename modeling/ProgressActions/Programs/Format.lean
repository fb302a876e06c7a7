import ProgressActions.Number.Word64
import ProgressActions.Programs.Echo
import ProgressActions.Text.Layout

/-!
# Printing by a format

A format is printed once, and again while it takes up arguments that are left. Its conversions lay out
arguments as texts and numbers. What is wrong with a number is noted while printing goes on; a
conversion that does not exist ends it.
-/

namespace ProgressActions.Programs

open Number Text

inductive FormatProblem where
  | noNumber (text : Octets)
  | partlyNumber (text : Octets)
  | outOfRange (text : Octets)
  /-- Something follows a character that counts as its code. -/
  | ignored (text : Octets)
  | badDirective (text : Octets)
  | openDirective
  | missingHex
  deriving DecidableEq, Repr

namespace FormatProblem

def isFatal : FormatProblem → Bool
  | badDirective _ => true
  | openDirective => true
  | missingHex => true
  | _ => false

end FormatProblem

inductive Printed where
  | text (content : Octets)
  | problem (cause : FormatProblem)
  deriving DecidableEq, Repr

structure Dialect where
  /-- Whether there are more escapes than those of a shell. -/
  isWide : Bool
  precision : Precision
  /-- The conversions. -/
  letters : List Char := "bcsdiouxXaAeEfFgG".toList

namespace Dialect

def shell : Dialect := { isWide := false, precision := .double }

def program : Dialect := { isWide := true, precision := .extended, letters := "bcsqdiouxXaAeEfFgG".toList }

end Dialect

/-- Printing at work: the arguments that are left, and what has been printed, the last piece first. -/
structure Printer where
  arguments : List Octets
  printed : List Printed := []

abbrev Printing := ExceptT Unit (StateM Printer)

namespace Printing

def put (piece : Printed) : Printing Unit := modify fun p ↦ { p with printed := piece :: p.printed }

def print (content : Octets) : Printing Unit := put (.text content)

def note (cause : FormatProblem) : Printing Unit := do
  put (.problem cause)
  if cause.isFatal then throw ()

def argument? : Printing (Option Octets) := do
  let p ← get
  set { p with arguments := p.arguments.drop 1 }
  pure p.arguments.head?

/-- Notes what is wrong with a number in front of a text, of which a rest is left. -/
def check (d : Dialect) (text : Octets) (rest? : Option Octets) (fits : Bool) : Printing Unit := do
  match rest? with
  | none => if text ≠ [] ∨ d.isWide then note (.noNumber text)
  | some rest =>
    if !fits ∧ (rest = [] ∨ d.isWide) then note (.outOfRange text)
    else if rest ≠ [] then note (.partlyNumber text)

/-- The code of a character behind a quotation mark, if an argument asks for it. -/
def code? (d : Dialect) (text : Octets) : Option (Nat × Octets) :=
  match text with
  | [] => none
  | quote :: rest =>
    if quote = '\'' ∨ quote = '"' then
      match rest with
      | c :: more => some (c.toNat, more)
      | [] => if d.isWide then none else some (0, [])
    else none

/-- The next argument as a whole number: with a sign, or brought into the range without signs. -/
def whole (d : Dialect) (signed : Bool) : Printing Int := do
  match ← argument? with
  | none => pure 0
  | some text =>
    match code? d text with
    | some (code, more) =>
      if d.isWide ∧ more ≠ [] then note (.ignored more)
      pure code
    | none =>
      let found := Word64.leading? false text
      let n := (found.map (·.1)).getD 0
      let fits := if signed then Word64.clamp n == n else n.natAbs < Nat.pow 2 64
      check d text (found.map (·.2)) fits
      pure (if signed then Word64.clamp n else if fits then n % Nat.pow 2 64 else Nat.pow 2 64 - 1)

def floating (d : Dialect) : Printing Floating := do
  match ← argument? with
  | none => pure (.finite false 0)
  | some text =>
    match code? d text with
    | some (code, more) =>
      if d.isWide ∧ more ≠ [] then note (.ignored more)
      pure (.finite false code)
    | none =>
      match Floating.leading? d.precision text with
      | none =>
        check d text none true
        pure (.finite false 0)
      | some (value, rest) =>
        check d text (some rest) true
        pure value

/-- A figure of a layout: digits, or an argument in the place of a star. -/
def figure (d : Dialect) (text : Octets) : Printing (Option Int × Nat) := do
  match text with
  | '*' :: _ =>
    let n ← whole d true
    pure (some n, 1)
  | _ =>
    let digits := text.takeWhile Char.isDigit
    pure (if digits = [] then none else some (digitsValue digits : Nat), digits.length)

/-- The layout in front of the letter of a conversion, and its length. -/
def layout (d : Dialect) (text : Octets) : Printing (Layout × Nat) := do
  let flags := text.takeWhile Layout.isFlag
  let afterFlags := text.drop flags.length
  let (width, widthLength) ← figure d afterFlags
  let l := (Layout.ofFlags flags).withWidth (width.getD 0)
  match afterFlags.drop widthLength with
  | '.' :: rest =>
    let (precision, length) ← figure d rest
    pure (l.withPrecision (precision.getD 0), flags.length + widthLength + 1 + length)
  | _ => pure (l, flags.length + widthLength)

def quotedWord (text : Octets) : Octets :=
  let isPlain : Char → Bool := fun c ↦ c.isAlphanum || "%+,-./:=@_".toList.contains c
  if text ≠ [] ∧ text.all isPlain then text
  else if text.contains '\'' ∧ text.all fun c ↦ c == '\'' || c == ' ' || isPlain c then
    ['"'] ++ text ++ ['"']
  else ['\''] ++ text.flatMap (fun c ↦ if c = '\'' then "'\\''".toList else [c]) ++ ['\'']

/-- Prints a conversion with a letter; its text is named in complaints. -/
def convert (d : Dialect) (directive : Octets) (l : Layout) (letter : Char) : Printing Unit := do
  if !d.letters.contains letter then note (.badDirective (directive ++ [letter]))
  else
    match letter with
    | 's' => print (l.fitText ((← argument?).getD []))
    | 'q' => print (l.fitText (quotedWord ((← argument?).getD [])))
    | 'c' => print (l.fit [((← argument?).getD []).headD '\x00'])
    | 'b' =>
      let (text, stops) := (if d.isWide then resolveWide else resolve) ((← argument?).getD [])
      print (l.fitText text)
      if stops then throw ()
    | _ =>
      if letter = 'd' ∨ letter = 'i' then print (l.fitSigned (← whole d true))
      else if "ouxX".toList.contains letter then print (l.fitUnsigned letter (← whole d false).toNat)
      else print (l.fitFloating d.precision letter (← floating d))

def once (d : Dialect) : (limit : Nat) → Octets → Printing Unit
  | 0, _ => pure ()
  | _ + 1, [] => pure ()
  | limit + 1, '%' :: '%' :: rest => do
    print ['%']
    once d limit rest
  | limit + 1, '%' :: rest => do
    let (l, length) ← layout d rest
    match rest.drop length with
    | [] => note (if d.isWide then .badDirective ('%' :: rest) else .openDirective)
    | letter :: after =>
      convert d ('%' :: rest.take length) l letter
      once d limit after
  | limit + 1, '\\' :: rest => do
    match rest with
    | 'c' :: _ => if d.isWide then throw ()
    | 'x' :: c :: _ => if d.isWide ∧ !isDigitOf 16 c then note .missingHex
    | ['x'] => if d.isWide then note .missingHex
    | _ => pure ()
    let shorter := if d.isWide ∧ rest.head? = some '"' then some ('"', 1)
      else if d.isWide then wideEscape? false rest
      else escape? false rest
    match shorter with
    | some (octet, length) =>
      print [octet]
      once d limit (rest.drop length)
    | none =>
      print ['\\']
      once d limit rest
  | limit + 1, c :: rest => do
    print [c]
    once d limit rest

/-- Prints a format again and again while it takes up arguments. -/
def repeated (d : Dialect) (format : Octets) : (limit : Nat) → Printing Unit
  | 0 => pure ()
  | limit + 1 => do
    let before := (← get).arguments.length
    once d (format.length + 1) format
    let after := (← get).arguments.length
    if after ≠ 0 ∧ after < before then repeated d format limit

end Printing

/-- What is printed by a format with arguments, in order, and the arguments that no conversion has taken
up. -/
def printFormat (d : Dialect) (format : Octets) (arguments : List Octets) : List Printed × List Octets :=
  let (outcome, last) := (Printing.repeated d format (arguments.length + 1)).run { arguments }
  (last.printed.reverse, match outcome with
    | .ok () => last.arguments
    | .error () => [])

end ProgressActions.Programs
