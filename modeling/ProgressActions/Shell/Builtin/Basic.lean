import ProgressActions.Shell.Expansion

/-!
# Commands that a shell carries out itself

A command of the shell takes the words after its name, and yields its status. Options stand in front of
the other words.
-/

namespace ProgressActions.Shell

abbrev Builtin := (name : Octets) → (arguments : List Octets) → Act Nat

namespace Builtin

/-- The letters of options in a word, of which some take an argument: the rest of the word or the next
word. -/
def letters (known : List Char) (withArgument : List Char) :
    Octets → List Octets → Act (List (Char × Octets) × List Octets)
  | [], words => pure ([], words)
  | c :: rest, words => do
    if withArgument.contains c then
      match rest, words with
      | [], [] => Act.fail ("No arg for -".toList ++ [c] ++ " option".toList)
      | [], word :: more => pure ([(c, word)], more)
      | _, _ => pure ([(c, rest)], words)
    else if known.contains c then
      let (found, left) ← letters known withArgument rest words
      pure ((c, []) :: found, left)
    else Act.fail ("Illegal option -".toList ++ [c])

def options (known withArgument : List Char) : (limit : Nat) → List Octets →
    Act (List (Char × Octets) × List Octets)
  | 0, words => pure ([], words)
  | limit + 1, words => do
    match words with
    | ['-', '-'] :: rest => pure ([], rest)
    | ('-' :: c :: more) :: rest =>
      let (found, left) ← letters known withArgument (c :: more) rest
      let (others, last) ← options known withArgument limit left
      pure (found ++ others, last)
    | _ => pure ([], words)

/-- The options with some letters in front of words, none of which takes an argument, and the words after
them. -/
def flags (known : String) (words : List Octets) : Act (List Char × List Octets) := do
  let (found, left) ← options known.toList [] (words.length + 1) words
  pure (found.map (·.1), left)

def withoutOptions (words : List Octets) : Act (List Octets) := do
  pure (← flags "" words).2

/-- A text that a shell reads as the same text: between single quotes, but for single quotes, which stand
between double quotes. -/
def quoted : (limit : Nat) → Octets → Octets
  | 0, _ => []
  | limit + 1, text =>
    let plain := text.takeWhile (· != '\'')
    let rest := text.drop plain.length
    let marks := rest.takeWhile (· == '\'')
    let later := rest.drop marks.length
    let first := ['\''] ++ plain ++ ['\'']
    if marks = [] then first
    else
      let second := first ++ ['"'] ++ marks ++ ['"']
      if later = [] then second else second ++ quoted limit later

def quote (text : Octets) : Octets := quoted (text.length + 1) text

/-- A text without single quotes is put between single quotes. -/
theorem quote_of_not_mem {text : Octets} (h : '\'' ∉ text) : quote text = ['\''] ++ text ++ ['\''] := by
  have hplain : text.takeWhile (· != '\'') = text := by
    induction text with
    | nil => rfl
    | cons c rest ih =>
      have hc : c ≠ '\'' := fun hq ↦ h (by simp [hq])
      have hrest : '\'' ∉ rest := fun hmem ↦ h (List.mem_cons_of_mem _ hmem)
      simp [hc, ih hrest]
  simp [quote, quoted, hplain]

end Builtin

end ProgressActions.Shell
