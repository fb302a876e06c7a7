/-!
# White space at the ends of a text

The characters of the Unicode property `White_Space`, and the removal of their runs from both ends
of a text.
-/

namespace ProgressActions.Text

/-- The property `White_Space`: 25 characters, of which six lie in the ASCII range. -/
def isBlank (c : Char) : Bool :=
  let n := c.toNat
  (0x09 ≤ n && n ≤ 0x0D) || n == 0x20 || n == 0x85 || n == 0xA0 || n == 0x1680 ||
    (0x2000 ≤ n && n ≤ 0x200A) || n == 0x2028 || n == 0x2029 || n == 0x202F || n == 0x205F ||
    n == 0x3000

def trimEnd (text : List Char) : List Char :=
  (text.reverse.dropWhile isBlank).reverse

/-- The text without the blanks at its two ends. -/
def trim (text : List Char) : List Char :=
  trimEnd (text.dropWhile isBlank)

@[simp] theorem trim_nil : trim [] = [] := rfl

/-- Core's notion of white space covers only part of the property. -/
theorem isBlank_of_isWhitespace {c : Char} (h : c.isWhitespace = true) : isBlank c = true := by
  simp only [Char.isWhitespace, Bool.or_eq_true, decide_eq_true_eq] at h
  rcases h with ((rfl | rfl) | rfl) | rfl <;> decide

end ProgressActions.Text
