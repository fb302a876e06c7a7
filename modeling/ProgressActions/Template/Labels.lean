/-!
# Labels of byte totals

The argument of the totals directive is a list of up to three labels, split at commas. Quotes group
text that holds commas, and a backslash escapes the next character except between single quotes.
-/

namespace ProgressActions.Template

/-- Labels for the bytes read, written and deleted. -/
structure Labels where
  read : String := "R"
  written : String := "W"
  deleted : String := "D"
  deriving DecidableEq, Repr

namespace Labels

/-- Labels given by position; those that are missing keep their defaults. -/
def ofWords : List String → Labels
  | [] => {}
  | [r] => { read := r }
  | [r, w] => { read := r, written := w }
  | r :: w :: d :: _ => { read := r, written := w, deleted := d }

@[simp] theorem ofWords_nil : ofWords [] = {} := rfl

end Labels

/-- The kind of quote that a scan is inside of. -/
inductive Quote where
  | single
  | double
  deriving DecidableEq, Repr

/-- The character that opens and closes a quote. -/
def Quote.mark : Quote → Char
  | single => '\''
  | double => '"'

/-- The quote that a character opens. -/
def Quote.ofMark? : Char → Option Quote
  | '\'' => some single
  | '"' => some double
  | _ => none

/-- Why labels cannot be split. -/
inductive LabelError where
  | missingQuote (argument : String)
  | tooMany (argument : String)
  deriving DecidableEq, Repr

namespace LabelError

def message : LabelError → String
  | missingQuote argument => "cannot split string '" ++ argument ++ "': missing closing quote"
  | tooMany argument => "too many words in '" ++ argument ++ "'"

end LabelError

/-- A character put in front of the first word. -/
def consFirst (c : Char) : List (List Char) → List (List Char)
  | [] => [[c]]
  | word :: words => (c :: word) :: words

/-- The words of a text, begun inside a quote or outside; nothing if a quote is still open at its end. -/
def words? : Option Quote → List Char → Option (List (List Char))
  | none, [] => some [[]]
  | some _, [] => none
  | some .single, c :: rest =>
    if c = '\'' then words? none rest else (words? (some .single) rest).map (consFirst c)
  | quote, '\\' :: c :: rest => (words? quote rest).map (consFirst c)
  | quote, ['\\'] => (words? quote []).map (consFirst '\\')
  | some .double, c :: rest =>
    if c = '"' then words? none rest else (words? (some .double) rest).map (consFirst c)
  | none, c :: rest =>
    match Quote.ofMark? c with
    | some quote => words? (some quote) rest
    | none =>
      if c = ',' then (words? none rest).map ([] :: ·) else (words? none rest).map (consFirst c)

/-- The most labels that an argument may hold. -/
def maxLabels : Nat := 3

/-- The labels of an argument. An empty argument has none, and empty labels between commas count. -/
def splitLabels (argument : List Char) : Except LabelError (List String) :=
  if argument = [] then .ok []
  else
    match words? none argument with
    | none => .error (.missingQuote (String.ofList argument))
    | some words =>
      if maxLabels < words.length then .error (.tooMany (String.ofList argument))
      else .ok (words.map String.ofList)

@[simp] theorem splitLabels_nil : splitLabels [] = .ok [] := rfl

theorem length_le_of_splitLabels {argument : List Char} {labels : List String}
    (h : splitLabels argument = .ok labels) : labels.length ≤ maxLabels := by
  unfold splitLabels at h
  split at h
  · cases h
    simp
  · split at h
    · cases h
    · split at h
      · cases h
      · cases h
        simp
        omega

end ProgressActions.Template
