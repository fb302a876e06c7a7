import Mathlib.Data.List.DropRight
import Mathlib.Data.Nat.Digits.Defs
import ProgressActions.Text.Escape

/-!
# Spellings of a payload

A character of a payload can be spelt in several ways: as itself, by a letter after a backslash, or by
the octal digits of its code. Unquoting undoes every mix of spellings. An octal escape takes all the
digits that it can get, up to three, so a short one must not run into a digit of the next character.

One pair of quotes around a payload comes off before its escapes are read. So the quote at the end is
taken for the closing one even behind a backslash, and only a backslash in front keeps the pair.
-/

namespace ProgressActions.Text

/-! ## Wrapping quotes -/

/-- The quotes that may wrap a payload. -/
def IsQuote (c : Char) : Prop := c = '"' ∨ c = '\''

/-- A text between two equal quotes. -/
def IsWrapped (text : List Char) : Prop :=
  ∃ quote inner, IsQuote quote ∧ text = quote :: inner ++ [quote]

theorem IsQuote.ne_backslash {quote : Char} (h : IsQuote quote) : quote ≠ '\\' := by
  rcases h with rfl | rfl <;> decide

theorem IsQuote.isOctalDigit {quote : Char} (h : IsQuote quote) : isOctalDigit quote = false := by
  rcases h with rfl | rfl <;> decide

theorem IsQuote.namedEscape {quote : Char} (h : IsQuote quote) : namedEscape quote = none := by
  rcases h with rfl | rfl <;> decide

theorem not_isWrapped_backslash (rest : List Char) : ¬IsWrapped ('\\' :: rest) := by
  rintro ⟨quote, inner, hquote, heq⟩
  exact hquote.ne_backslash (List.cons.inj heq).1.symm

/-- A pair of quotes is taken off. -/
theorem stripQuotes_wrapped {quote : Char} (h : IsQuote quote) (inner : List Char) :
    stripQuotes (quote :: inner ++ [quote]) = inner := by
  have hlast : (inner ++ [quote]).getLast? = some quote := by simp
  rw [List.cons_append, stripQuotes, if_pos ⟨h, hlast⟩, List.dropLast_concat]

theorem stripQuotes_of_not_isWrapped {text : List Char} (h : ¬IsWrapped text) :
    stripQuotes text = text := by
  cases text with
  | nil => rfl
  | cons first rest =>
    refine if_neg fun ⟨hquote, hlast⟩ ↦ h ⟨first, rest.dropLast, hquote, ?_⟩
    rw [List.cons_append, List.dropLast_append_getLast? first hlast]

/-- The payload between quotes is resolved. -/
theorem unquote_wrapped {quote : Char} (h : IsQuote quote) (inner : List Char) :
    unquote (quote :: inner ++ [quote]) = resolveEscapes inner := by
  rw [unquote, stripQuotes_wrapped h]

theorem unquote_of_not_isWrapped {text : List Char} (h : ¬IsWrapped text) :
    unquote text = resolveEscapes text := by
  rw [unquote, stripQuotes_of_not_isWrapped h]

/-! ## Single escapes -/

/-- A letter after a backslash is looked up. -/
theorem resolveEscapes_named {letter c : Char} (h : namedEscape letter = some c) (rest : List Char) :
    resolveEscapes ('\\' :: letter :: rest) = c :: resolveEscapes rest := by
  rw [resolveEscapes, h]

/-- An escape that is not known is kept with its backslash. -/
theorem resolveEscapes_unknown {letter : Char} (hname : namedEscape letter = none)
    (hdigit : isOctalDigit letter = false) (rest : List Char) :
    resolveEscapes ('\\' :: letter :: rest) = '\\' :: letter :: resolveEscapes rest := by
  rw [resolveEscapes, hname]
  simp [hdigit]

/-- No digit is the name of an escape. -/
theorem namedEscape_of_isOctalDigit {c : Char} (h : isOctalDigit c = true) : namedEscape c = none := by
  unfold namedEscape
  split <;> first | rfl | exact absurd h (by decide)

theorem resolveEscapes_digit {digit : Char} (h : isOctalDigit digit = true) (rest : List Char) :
    let run := octalRun (digit :: rest)
    resolveEscapes ('\\' :: digit :: rest) =
      octalChar run :: resolveEscapes (rest.drop (run.length - 1)) := by
  intro run
  rw [resolveEscapes, namedEscape_of_isOctalDigit h]
  dsimp only
  rw [if_pos h]

/-- Digits that are three, or that no digit follows, are all of an octal escape. -/
theorem octalRun_append {digits rest : List Char} (hlength : digits.length ≤ 3)
    (hdigits : ∀ d ∈ digits, isOctalDigit d = true)
    (hend : digits.length < 3 → ∀ d ∈ rest.head?, isOctalDigit d = false) :
    octalRun (digits ++ rest) = digits := by
  have hrest : (rest.take (3 - digits.length)).takeWhile isOctalDigit = [] := by
    rcases hlength.lt_or_eq with hshort | hfull
    · cases rest with
      | nil => simp
      | cons d others =>
        have hd : isOctalDigit d = false := hend hshort d rfl
        have hroom : 3 - digits.length = (2 - digits.length) + 1 := by omega
        rw [hroom, List.take_succ_cons, List.takeWhile_cons_of_neg (by simp [hd])]
    · simp [hfull]
  unfold octalRun
  rw [List.take_append, List.take_of_length_le hlength, List.takeWhile_append_of_pos hdigits, hrest,
    List.append_nil]

/-- Up to three octal digits are one character. -/
theorem resolveEscapes_octal {digits rest : List Char} (hsome : digits ≠ [])
    (hlength : digits.length ≤ 3) (hdigits : ∀ d ∈ digits, isOctalDigit d = true)
    (hend : digits.length < 3 → ∀ d ∈ rest.head?, isOctalDigit d = false) :
    resolveEscapes ('\\' :: digits ++ rest) = octalChar digits :: resolveEscapes rest := by
  have hrun := octalRun_append hlength hdigits hend
  obtain ⟨first, others, rfl⟩ := List.exists_cons_of_ne_nil hsome
  have hfirst : isOctalDigit first = true := hdigits first List.mem_cons_self
  rw [List.cons_append] at hrun
  rw [List.cons_append, List.cons_append, resolveEscapes_digit hfirst, hrun]
  simp

/-! ## Spellings -/

/-- The letters that name a character behind a backslash. -/
def letterNames : List (Char × Char) :=
  [('a', '\x07'), ('b', '\x08'), ('f', '\x0c'), ('n', '\n'), ('r', '\x0d'), ('t', '\t'),
    ('v', '\x0b'), ('?', '?')]

theorem namedEscape_of_mem {letter c : Char} (h : (letter, c) ∈ letterNames) :
    namedEscape letter = some c := by
  have hall : ∀ entry ∈ letterNames, namedEscape entry.1 = some entry.2 := by decide
  exact hall _ h

/-- The number that octal digits stand for, the most significant one first. -/
def octalNumber (digits : List Char) : Nat :=
  Nat.ofDigits 8 (digits.reverse.map fun d ↦ d.toNat - '0'.toNat)

theorem octalValue_eq (digits : List Char) : octalValue digits = octalNumber digits := by
  unfold octalValue octalNumber
  rw [Nat.ofDigits_eq_foldr, List.foldr_map, List.foldr_reverse]
  congr 1
  funext value d
  exact Nat.add_comm _ _

/-- The first text is a spelling of the second. -/
inductive Spells : List Char → List Char → Prop where
  | nil : Spells [] []
  | itself {c : Char} {spelt text : List Char} : c ≠ '\\' → Spells spelt text →
      Spells (c :: spelt) (c :: text)
  | backslash {spelt text : List Char} : Spells spelt text →
      Spells ('\\' :: '\\' :: spelt) ('\\' :: text)
  | named {letter c : Char} {spelt text : List Char} : (letter, c) ∈ letterNames →
      Spells spelt text → Spells ('\\' :: letter :: spelt) (c :: text)
  /-- Octal digits give a code modulo 256. Less than three of them must not run into another. -/
  | octal {digits : List Char} {c : Char} {spelt text : List Char} : c.toNat ≤ 0xff →
      1 ≤ digits.length → digits.length ≤ 3 → (∀ d ∈ digits, isOctalDigit d = true) →
      octalNumber digits % 256 = c.toNat % 256 →
      (digits.length < 3 → ∀ d ∈ spelt.head?, isOctalDigit d = false) →
      Spells spelt text → Spells ('\\' :: digits ++ spelt) (c :: text)

/-- Only the low byte of an octal number counts. -/
theorem octalChar_of_mod_eq {digits : List Char} {c : Char} (hc : c.toNat ≤ 0xff)
    (h : octalNumber digits % 256 = c.toNat % 256) : octalChar digits = c := by
  have hvalue : octalValue digits % 256 = c.toNat := by
    rw [octalValue_eq, h, Nat.mod_eq_of_lt (by omega)]
  rw [octalChar, hvalue, Char.ofNat_toNat]

/-- Resolving the escapes of a spelling gives the text. -/
theorem resolveEscapes_of_spells {spelt text : List Char} (h : Spells spelt text) :
    resolveEscapes spelt = text := by
  induction h with
  | nil => exact resolveEscapes_nil
  | itself hc _ ih => rw [resolveEscapes_cons_of_ne hc, ih]
  | backslash _ ih => rw [resolveEscapes_named rfl, ih]
  | named hletter _ ih => rw [resolveEscapes_named (namedEscape_of_mem hletter), ih]
  | octal hc hsome hlength hdigits hvalue hend _ ih =>
    rw [resolveEscapes_octal (List.length_pos_iff.1 hsome) hlength hdigits hend,
      octalChar_of_mod_eq hc hvalue, ih]

/-- Unquoting undoes every spelling: between quotes of either kind, and bare, unless the spelling
happens to be wrapped in quotes itself. -/
theorem unquote_of_spells {spelt text : List Char} (h : Spells spelt text) :
    (∀ quote, IsQuote quote → unquote (quote :: spelt ++ [quote]) = text) ∧
      (¬IsWrapped spelt → unquote spelt = text) := by
  refine ⟨fun quote hquote ↦ ?_, fun hbare ↦ ?_⟩
  · rw [unquote_wrapped hquote, resolveEscapes_of_spells h]
  · rw [unquote_of_not_isWrapped hbare, resolveEscapes_of_spells h]

/-- A code above 255 in front of a digit, an octal escape of two digits, and a quote that is spelt as
itself. -/
theorem unquote_of_octal_escapes :
    let spelt := ['\\', '7', '7', '7', '7', '\\', '\\', '\\', '1', '2', '\\', 't', '"']
    let text := [Char.ofNat 255, '7', '\\', '\n', '\t', '"']
    Spells spelt text ∧ IsQuote '\'' ∧ ¬IsWrapped spelt ∧
      unquote ('\'' :: spelt ++ ['\'']) = text ∧ unquote spelt = text := by
  intro spelt text
  have hquote : IsQuote '\'' := .inr rfl
  have hbare : ¬IsWrapped spelt := not_isWrapped_backslash _
  have hend : Spells ['\\', 't', '"'] ['\t', '"'] := .named (by decide) (.itself (by decide) .nil)
  have hshort : Spells ('\\' :: ['1', '2'] ++ ['\\', 't', '"']) ('\n' :: ['\t', '"']) :=
    .octal (by decide) (by decide) (by decide) (by simp [isOctalDigit]) (by decide +kernel)
      (by simp [isOctalDigit]) hend
  have hmiddle := Spells.itself (c := '7') (by decide) (.backslash hshort)
  have hspells :
      Spells ('\\' :: ['7', '7', '7'] ++ ['7', '\\', '\\', '\\', '1', '2', '\\', 't', '"']) text :=
    .octal (by decide) (by decide) (by decide) (by simp [isOctalDigit]) (by decide +kernel)
      (by decide) hmiddle
  obtain ⟨hwrapped, hplain⟩ := unquote_of_spells hspells
  exact ⟨hspells, hquote, hbare, hwrapped '\'' hquote, hplain hbare⟩

/-! ## Texts behind backslashes -/

/-- A text with a backslash before each of some characters. -/
def escape (marks : List Char) (text : List Char) : List Char :=
  text.flatMap fun c ↦ if c ∈ marks then ['\\', c] else [c]

@[simp] theorem escape_nil (marks : List Char) : escape marks [] = [] := rfl

theorem escape_cons (marks : List Char) (c : Char) (text : List Char) :
    escape marks (c :: text) = (if c ∈ marks then ['\\', c] else [c]) ++ escape marks text := rfl

/-- To double the backslashes is one way to spell a text. -/
theorem spells_escape (text : List Char) : Spells (escape ['\\'] text) text := by
  induction text with
  | nil => exact .nil
  | cons c rest ih =>
    rw [escape_cons]
    by_cases hc : c = '\\'
    · subst hc
      exact .backslash ih
    · simpa [hc] using Spells.itself hc ih

/-- A payload in double quotes with its backslashes doubled stands for the text itself. -/
theorem unquote_quotes_escape (text : List Char) :
    unquote ('"' :: escape ['\\'] text ++ ['"']) = text := by
  rw [unquote_wrapped (.inl rfl), resolveEscapes_of_spells (spells_escape text)]

/-! ## Quotes behind a backslash -/

theorem length_octalRun_le (text : List Char) : (octalRun text).length ≤ text.length :=
  (List.takeWhile_sublist _).length_le.trans (List.length_take_le' _ _)

theorem octalRun_concat {c : Char} (h : isOctalDigit c = false) (text : List Char) :
    octalRun (text ++ [c]) = octalRun text := by
  have hlast : ([c].take (3 - text.length)).takeWhile isOctalDigit = [] := by
    cases 3 - text.length <;> simp [h]
  unfold octalRun
  rw [List.take_append, List.takeWhile_append, hlast, List.append_nil]
  split
  · rename_i hfull
    exact ((List.takeWhile_prefix _).eq_of_length hfull).symm
  · rfl

/-- A quote at the end is kept, whether a backslash is pending before it or not. -/
theorem resolveEscapes_concat {quote : Char} (h : IsQuote quote) (text : List Char) :
    resolveEscapes (text ++ [quote]) = resolveEscapes text ++ [quote] := by
  fun_induction resolveEscapes text with
  | case1 => simp [resolveEscapes_cons_of_ne h.ne_backslash]
  | case2 next rest c hname ih =>
    rw [List.cons_append, List.cons_append, resolveEscapes_named hname, ih, List.cons_append]
  | case3 next rest hname hdigit run ih =>
    have hrun : octalRun (next :: (rest ++ [quote])) = run :=
      octalRun_concat h.isOctalDigit (next :: rest)
    have hlength : run.length - 1 ≤ rest.length := by
      have hle : run.length ≤ (next :: rest).length := length_octalRun_le _
      simpa using hle
    have htail : (rest ++ [quote]).drop (run.length - 1) = rest.drop (run.length - 1) ++ [quote] :=
      List.drop_append_of_le_length hlength
    rw [List.cons_append, List.cons_append, resolveEscapes_digit hdigit, hrun, htail, ih,
      List.cons_append]
  | case4 next rest hname hdigit ih =>
    have hdigit : isOctalDigit next = false := by simpa using hdigit
    rw [List.cons_append, List.cons_append, resolveEscapes_unknown hname hdigit, ih,
      List.cons_append, List.cons_append]
  | case5 c rest hend ih =>
    by_cases hc : c = '\\'
    · -- A backslash that ends the text: with the quote behind it, it is an escape that is not known.
      obtain rfl : rest = [] := by
        cases rest with
        | nil => rfl
        | cons next tail => exact (hend next tail hc rfl).elim
      rw [hc, List.cons_append, List.nil_append, resolveEscapes_unknown h.namedEscape h.isOctalDigit,
        resolveEscapes_nil]
      rfl
    · rw [List.cons_append, resolveEscapes_cons_of_ne hc, ih, List.cons_append]

/-- Resolving the escapes of a whole text between quotes keeps both of them. -/
theorem resolveEscapes_wrapped {quote : Char} (h : IsQuote quote) (inner : List Char) :
    resolveEscapes (quote :: inner ++ [quote]) =
      quote :: unquote (quote :: inner ++ [quote]) ++ [quote] := by
  rw [unquote_wrapped h, List.cons_append, resolveEscapes_cons_of_ne h.ne_backslash,
    resolveEscapes_concat h, List.cons_append]

/-- Where quotes come off. A payload is resolved as a whole if and only if it is not wrapped, and so it
is whenever a backslash stands before the first quote. A backslash before the last quote makes no
difference: the pair comes off, and what would be kept of the whole text are the quotes alone. -/
theorem unquote_eq_resolveEscapes_iff (text : List Char) :
    (unquote text = resolveEscapes text ↔ ¬IsWrapped text) ∧
      (∀ quote rest, IsQuote quote → text = '\\' :: quote :: rest →
        unquote text = resolveEscapes text) ∧
      ∀ quote inner, IsQuote quote → text = quote :: inner ++ [quote] →
        unquote text = resolveEscapes inner ∧
          resolveEscapes text = quote :: unquote text ++ [quote] := by
  refine ⟨⟨?_, unquote_of_not_isWrapped⟩, ?_, ?_⟩
  · rintro h ⟨quote, inner, hquote, rfl⟩
    rw [resolveEscapes_wrapped hquote] at h
    have hlength := congrArg List.length h
    simp at hlength
    omega
  · rintro quote rest - rfl
    exact unquote_of_not_isWrapped (not_isWrapped_backslash _)
  · rintro quote inner hquote rfl
    exact ⟨unquote_wrapped hquote inner, resolveEscapes_wrapped hquote inner⟩

/-- A text with a backslash before each of two quotes, and one with a backslash before the last only. -/
theorem unquote_of_backslashed_quotes :
    IsQuote '"' ∧ unquote ['\\', '"', 'a', '\\', '"'] = ['\\', '"', 'a', '\\', '"'] ∧
      unquote ['"', 'a', '\\', '"'] = ['a', '\\'] ∧
      resolveEscapes ['"', 'a', '\\', '"'] = '"' :: unquote ['"', 'a', '\\', '"'] ++ ['"'] := by
  have hquote : IsQuote '"' := .inl rfl
  have hfirst := (unquote_eq_resolveEscapes_iff ['\\', '"', 'a', '\\', '"']).2.1 '"' _ hquote rfl
  have hlast := (unquote_eq_resolveEscapes_iff ['"', 'a', '\\', '"']).2.2 '"' ['a', '\\'] hquote rfl
  exact ⟨hquote, hfirst.trans (by decide +kernel), hlast.1.trans (by decide +kernel), hlast.2⟩

/-- A text of four characters that begins with a quote and ends with the same one behind a single
backslash. It loses its quotes, although resolving its escapes would leave it as it is. -/
theorem unquote_of_escaped_closing_quote :
    let text := ['"', 'a', '\\', '"']
    text.head? = some '"' ∧ text.getLast? = some '"' ∧
      text.dropLast.rtakeWhile (· = '\\') = ['\\'] ∧
      resolveEscapes text = text ∧ unquote text = ['a', '\\'] ∧
      unquote text ≠ resolveEscapes text := by
  decide +kernel

end ProgressActions.Text
