import ProgressActions.Text.Based
import ProgressActions.Toml.Character

/-!
# Strings of TOML documents

A string stands between double quotes, where a backslash introduces escapes, or between single quotes,
where it does not. Three quotes on each side let it run over several lines.
-/

namespace ProgressActions.Toml

def hexValue? (digits : List Char) : Option Nat :=
  digits.foldlM (fun value c ↦ (Text.hexDigit? c).map (16 * value + ·)) 0

/-- The character whose code a number of hexadecimal digits at the front spell. -/
def codedChar? (count : Nat) (text : List Char) : Option Char :=
  let digits := text.take count
  if digits.length = count then
    (hexValue? digits).bind fun n ↦ if n.isValidChar then some (Char.ofNat n) else none
  else none

/-- The character of an escape, from the text after its backslash, and the length of that text. -/
def escape? : List Char → Option (Char × Nat)
  | 'b' :: _ => some ('\x08', 1)
  | 't' :: _ => some ('\t', 1)
  | 'n' :: _ => some ('\n', 1)
  | 'f' :: _ => some ('\x0c', 1)
  | 'r' :: _ => some ('\x0d', 1)
  | '"' :: _ => some ('"', 1)
  | '\\' :: _ => some ('\\', 1)
  | 'u' :: rest => (codedChar? 4 rest).map (·, 5)
  | 'U' :: rest => (codedChar? 8 rest).map (·, 9)
  | _ => none

/-- A character put in front of what a reader has read. -/
def consRead (c : Char) : Option (List Char × List Char) → Option (List Char × List Char) :=
  Option.map fun (text, rest) ↦ (c :: text, rest)

/-- The rest of a string between double quotes. -/
def basicText : Reader (List Char)
  | [] => none
  | '"' :: rest => some ([], rest)
  | '\\' :: rest =>
    match escape? rest with
    | some (c, length) => consRead c (basicText (rest.drop length))
    | none => none
  | c :: rest => if isPrintable c then consRead c (basicText rest) else none
termination_by text => text.length
decreasing_by all_goals simp only [List.length_cons, List.length_drop]; omega

/-- The rest of a string between single quotes. -/
def literalText : Reader (List Char)
  | [] => none
  | '\'' :: rest => some ([], rest)
  | c :: rest => if isPrintable c then consRead c (literalText rest) else none

/-- The end of a string of several lines. Of the quotes that stand here, up to two belong to it. -/
def closing? (quote : Char) (text : List Char) : Option (List Char × List Char) :=
  let run := (text.takeWhile (· == quote)).length
  if 3 ≤ run then
    let kept := min (run - 3) 2
    some (List.replicate kept quote, text.drop (kept + 3))
  else none

/-- The text after blanks and line feeds, if an escaped end of line begins with it. -/
def afterFold? (text : List Char) : Option (List Char) :=
  match afterBlanks text with
  | '\n' :: rest => some (rest.dropWhile fun c ↦ isBlank c || c == '\n')
  | _ => none

theorem length_afterFold? {text rest : List Char} (h : afterFold? text = some rest) :
    rest.length < text.length := by
  unfold afterFold? at h
  split at h
  · rename_i tail heq
    cases h
    have hblanks := length_afterBlanks_le text
    rw [heq] at hblanks
    have hdrop := (List.dropWhile_suffix (l := tail) fun c ↦ isBlank c || c == '\n').length_le
    simp only [List.length_cons] at hblanks
    omega
  · cases h

/-- The rest of a string of several lines between double quotes. -/
def basicLines : Reader (List Char)
  | [] => none
  | '\\' :: rest =>
    match h : afterFold? rest with
    | some folded =>
      have := length_afterFold? h
      basicLines folded
    | none =>
      match escape? rest with
      | some (c, length) => consRead c (basicLines (rest.drop length))
      | none => none
  | c :: rest =>
    match closing? '"' (c :: rest) with
    | some closed => some closed
    | none => if isPrintable c ∨ c = '\n' then consRead c (basicLines rest) else none
termination_by text => text.length
decreasing_by all_goals simp only [List.length_cons, List.length_drop]; omega

/-- The rest of a string of several lines between single quotes. -/
def literalLines : Reader (List Char)
  | [] => none
  | c :: rest =>
    match closing? '\'' (c :: rest) with
    | some closed => some closed
    | none => if isPrintable c ∨ c = '\n' then consRead c (literalLines rest) else none

/-- The text after a line feed that may follow an opening quote. -/
def afterFirstLineFeed : List Char → List Char
  | '\n' :: rest => rest
  | text => text

def string : Reader (List Char)
  | '"' :: '"' :: '"' :: rest => basicLines (afterFirstLineFeed rest)
  | '"' :: rest => basicText rest
  | '\'' :: '\'' :: '\'' :: rest => literalLines (afterFirstLineFeed rest)
  | '\'' :: rest => literalText rest
  | _ => none

/-- A key without dots: a string of one line, or a run of plain characters. -/
def simpleKey : Reader String
  | '"' :: rest => (basicText rest).map fun (key, after) ↦ (String.ofList key, after)
  | '\'' :: rest => (literalText rest).map fun (key, after) ↦ (String.ofList key, after)
  | text =>
    let key := text.takeWhile isKeyChar
    if key = [] then none else some (String.ofList key, text.drop key.length)

end ProgressActions.Toml
