import ProgressActions.Octets
import ProgressActions.Text.Based
import ProgressActions.Text.Escape

/-!
# Lines of words

The lines that `echo` prints, and the escapes that are resolved in them.
-/

namespace ProgressActions.Programs

def letterEscape : Char → Option Char
  | '\\' => some '\\'
  | 'a' => some '\x07'
  | 'b' => some '\x08'
  | 'f' => some '\x0c'
  | 'n' => some '\n'
  | 'r' => some '\x0d'
  | 't' => some '\t'
  | 'v' => some '\x0b'
  | _ => none

/-- The octal digits of an escape. When a zero may introduce them, three follow it. -/
def escapeDigits (zeroIntroduces : Bool) : Octets → Octets
  | '0' :: rest => if zeroIntroduces then '0' :: Text.octalRun rest else Text.octalRun ('0' :: rest)
  | text => Text.octalRun text

/-- The octet of an escape, from the text after its backslash, and the length of that text. -/
def escape? (zeroIntroduces : Bool) (text : Octets) : Option (Char × Nat) :=
  match text with
  | [] => none
  | c :: _ =>
    match letterEscape c with
    | some octet => some (octet, 1)
    | none =>
      let digits := escapeDigits zeroIntroduces text
      if digits = [] then none
      else some (Text.octalChar digits, digits.length)

/-- The octet of an escape in base sixteen, from the text after its backslash, and the length of that
text. -/
def hexEscape? : Octets → Option (Char × Nat)
  | 'x' :: rest =>
    let digits := (rest.take 2).takeWhile (Text.isDigitOf 16)
    if digits = [] then none else some (Char.ofNat (Text.basedValue 16 digits), digits.length + 1)
  | _ => none

/-- The octet of an escape of the programs, which know a few more than a shell does. -/
def wideEscape? (zeroIntroduces : Bool) (text : Octets) : Option (Char × Nat) :=
  match text with
  | 'e' :: _ => some ('\x1b', 1)
  | _ => (hexEscape? text).or (escape? zeroIntroduces text)

/-- A text with its escapes resolved, and whether an escape ends all output. -/
def resolveBy (escape : Octets → Option (Char × Nat)) : (limit : Nat) → Octets → Octets × Bool
  | 0, text => (text, false)
  | _ + 1, [] => ([], false)
  | _ + 1, '\\' :: 'c' :: _ => ([], true)
  | limit + 1, '\\' :: rest =>
    match escape rest with
    | some (octet, length) =>
      let (text, stops) := resolveBy escape limit (rest.drop length)
      (octet :: text, stops)
    | none =>
      let (text, stops) := resolveBy escape limit rest
      ('\\' :: text, stops)
  | limit + 1, c :: rest =>
    let (text, stops) := resolveBy escape limit rest
    (c :: text, stops)

/-- A text with its escapes resolved as a shell does it, and whether an escape ends all output. -/
def resolve (text : Octets) : Octets × Bool := resolveBy (escape? true) (text.length + 1) text

/-- A text with its escapes resolved as programs do it, and whether an escape ends all output. -/
def resolveWide (text : Octets) : Octets × Bool := resolveBy (wideEscape? true) (text.length + 1) text

/-- A text without escapes stands for itself. -/
theorem resolveBy_of_not_mem (escape : Octets → Option (Char × Nat)) {text : Octets} (h : '\\' ∉ text)
    (limit : Nat) : resolveBy escape limit text = (text, false) := by
  induction text generalizing limit with
  | nil => cases limit <;> rfl
  | cons c rest ih =>
    have hc : c ≠ '\\' := fun hc ↦ h (by simp [hc])
    have hrest : '\\' ∉ rest := fun hmem ↦ h (List.mem_cons_of_mem _ hmem)
    cases limit with
    | zero => rfl
    | succ limit =>
      unfold resolveBy
      split
      · rename_i heq
        exact absurd heq (by simp)
      · rename_i heq
        exact absurd heq (by simp)
      · rename_i heq
        exact absurd (List.cons.inj heq).1 hc
      · rename_i heq
        exact absurd (List.cons.inj heq).1 hc
      · rename_i heq
        obtain ⟨rfl, rfl⟩ := List.cons.inj heq
        rw [ih hrest]

def wordLine (feed : Bool) (text : Octets) : Octets := if feed then text ++ ['\n'] else text

/-- The line of the command `echo` of a shell, which resolves escapes. -/
def shellEcho (arguments : List Octets) : Octets :=
  let (feed, words) := match arguments with
    | ['-', 'n'] :: rest => (false, rest)
    | _ => (true, arguments)
  match resolve (Octets.spaced words) with
  | (text, true) => text
  | (text, false) => wordLine feed text

def isEchoOption : Octets → Bool
  | '-' :: c :: rest => (c :: rest).all "neE".toList.contains
  | _ => false

/-- The line of the program `echo`, which resolves escapes only on demand. -/
def plainEcho (arguments : List Octets) : Octets :=
  let options := (arguments.takeWhile isEchoOption).flatten
  let words := arguments.dropWhile isEchoOption
  let feed := !options.contains 'n'
  let resolves := (options.filter fun c ↦ c == 'e' || c == 'E').getLast? == some 'e'
  if resolves then
    match resolveWide (Octets.spaced words) with
    | (text, true) => text
    | (text, false) => wordLine feed text
  else wordLine feed (Octets.spaced words)

end ProgressActions.Programs
