/-!
# Characters of TOML documents

Line feeds may be preceded by carriage returns, which then do not count. Otherwise control characters
other than the tabulator are allowed nowhere.
-/

namespace ProgressActions.Toml

/-- What a reader makes of a text: a value and the rest of the text. -/
abbrev Reader (α : Type) := List Char → Option (α × List Char)

/-- The text with a bare line feed for each carriage return and line feed. -/
def unifyLineFeeds : List Char → List Char
  | '\x0d' :: '\n' :: rest => '\n' :: unifyLineFeeds rest
  | c :: rest => c :: unifyLineFeeds rest
  | [] => []

def isBlank (c : Char) : Bool := c == ' ' || c == '\t'

/-- Characters that comments and strings may hold as they are. -/
def isPrintable (c : Char) : Bool := c == '\t' || (' ' ≤ c && c != '\x7f')

def isKeyChar (c : Char) : Bool := c.isAlphanum || c == '_' || c == '-'

def afterBlanks (text : List Char) : List Char := text.dropWhile isBlank

/-- The text after a comment, if one begins here. -/
def afterComment : List Char → List Char
  | '#' :: rest => rest.dropWhile isPrintable
  | text => text

/-- The text after a character that has to come next. -/
def afterChar? (c : Char) : List Char → Option (List Char)
  | first :: rest => if first = c then some rest else none
  | [] => none

/-- The text after blanks, a comment and the end of the line, which the end of the text may be. -/
def afterLine? (text : List Char) : Option (List Char) :=
  match afterComment (afterBlanks text) with
  | [] => some []
  | rest => afterChar? '\n' rest

theorem length_afterBlanks_le (text : List Char) : (afterBlanks text).length ≤ text.length :=
  (List.dropWhile_suffix isBlank).length_le

theorem length_afterComment_le (text : List Char) : (afterComment text).length ≤ text.length := by
  unfold afterComment
  split
  · rename_i rest
    have h := (List.dropWhile_suffix (l := rest) isPrintable).length_le
    simp only [List.length_cons]
    omega
  · exact Nat.le_refl _

/-- The text after blanks, line feeds and comments, as between the items of an array. -/
def afterGaps : List Char → List Char
  | [] => []
  | c :: rest =>
    if isBlank c ∨ c = '\n' then afterGaps rest
    else if c = '#' then
      have := (List.dropWhile_suffix (l := rest) isPrintable).length_le
      afterGaps (rest.dropWhile isPrintable)
    else c :: rest
termination_by text => text.length
decreasing_by all_goals simp only [List.length_cons]; omega

end ProgressActions.Toml
