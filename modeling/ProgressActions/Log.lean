import ProgressActions.Text.Numeral

/-!
# Log lines

A line of the log opens with the name of its module in bold brackets, in a colour of the module's
own: blue for checkpoints, green for scripts, red for errors, yellow for all others.
-/

namespace ProgressActions.Log

/-- A terminal control sequence that selects a rendition. -/
def rendition (code : Nat) : List Char := '\x1b' :: '[' :: Text.numeral code ++ ['m']

/-- The code of the bright colour of a module. Letter case does not count. -/
def colour (moduleName : String) : Nat :=
  let name := moduleName.toList.map Char.toLower
  if name = "checkpoint".toList then 94
  else if name = "exec".toList then 92
  else if name = "error".toList then 91
  else 93

/-- A line of the log, with its line feed. -/
def line (moduleName message : String) : List Char :=
  rendition 1 ++ rendition (colour moduleName) ++ '[' :: moduleName.toList ++ ']' :: rendition 39 ++
    rendition 0 ++ ' ' :: message.toList ++ ['\n']

end ProgressActions.Log
