import Mathlib.Logic.ExistsUnique
import ProgressActions.Template.Labels

/-!
# The grammar of labels

An argument of totals is a row of words with commas between them. A word is a row of items: plain
characters, characters behind a backslash, and runs in quotes. Splitting finds the words that an
argument spells, and there are no others. It fails when a scan of the argument from left to right ends
inside a quote, whatever the number of words, and else when the scan passes more than two commas that
are neither quoted nor escaped.
-/

namespace ProgressActions.Template

/-! ## The scan -/

/-- Where a scan of an argument stands. -/
inductive Scan where
  /-- The next character counts for what it is, inside a quote or outside. -/
  | plain (within : Option Quote)
  /-- A backslash was read, so the next character stands for itself. -/
  | escaped (within : Option Quote)
  deriving DecidableEq, Repr

namespace Scan

def within : Scan → Option Quote
  | plain quote => quote
  | escaped quote => quote

/-- The scan after a character. There are no escapes between single quotes. -/
def step : Scan → Char → Scan
  | escaped quote, _ => plain quote
  | plain none, c => if c = '\\' then escaped none else plain (Quote.ofMark? c)
  | plain (some .double), c =>
    if c = '\\' then escaped (some .double) else if c = '"' then plain none else plain (some .double)
  | plain (some .single), c => if c = '\'' then plain none else plain (some .single)

def after (scan : Scan) (text : List Char) : Scan := text.foldl step scan

/-- The commas of a text that a scan passes outside of quotes and escapes. -/
def separators : Scan → List Char → Nat
  | _, [] => 0
  | scan, c :: rest => (if scan = plain none ∧ c = ',' then 1 else 0) + separators (scan.step c) rest

/-- A scan begins outside of quotes. -/
def start : Scan := plain none

end Scan

def EndsInQuote (argument : List Char) : Prop := (Scan.start.after argument).within ≠ none

/-! ## The grammar -/

namespace Label

/-- A run between double quotes as it is spelt, and the text that it stands for. -/
inductive Run : List Char → List Char → Prop where
  | nil : Run [] []
  | plain {c : Char} {spelt text : List Char} : c ≠ '"' → c ≠ '\\' → Run spelt text →
      Run (c :: spelt) (c :: text)
  | escaped (c : Char) {spelt text : List Char} : Run spelt text →
      Run ('\\' :: c :: spelt) (c :: text)

/-- An item of a word as it is spelt, and the text that it stands for. -/
inductive Item : List Char → List Char → Prop where
  | plain {c : Char} : c ∉ [',', '"', '\'', '\\'] → Item [c] [c]
  | escaped (c : Char) : Item ['\\', c] [c]
  | single {text : List Char} : '\'' ∉ text → Item ('\'' :: text ++ ['\'']) text
  | double {spelt text : List Char} : Run spelt text → Item ('"' :: spelt ++ ['"']) text

/-- A word as it is spelt, and the text that it stands for. -/
inductive Word : List Char → List Char → Prop where
  | nil : Word [] []
  | cons {item head spelt tail : List Char} : Item item head → Word spelt tail →
      Word (item ++ spelt) (head ++ tail)

/-- Words with commas between them, and the texts that they stand for. A backslash at the very end
stands for itself. -/
inductive Words : List Char → List (List Char) → Prop where
  | last {spelt text : List Char} : Word spelt text → Words spelt [text]
  | backslash {spelt text : List Char} : Word spelt text → Words (spelt ++ ['\\']) [text ++ ['\\']]
  | cons {spelt text rest : List Char} {texts : List (List Char)} : Word spelt text →
      Words rest texts → Words (spelt ++ ',' :: rest) (text :: texts)

end Label

open Label

/-! ## Words are read as they are spelt -/

theorem Quote.eq_mark_of_ofMark? {c : Char} {quote : Quote} (h : Quote.ofMark? c = some quote) :
    c = quote.mark := by
  unfold Quote.ofMark? at h
  split at h <;> cases h <;> rfl

theorem Quote.ofMark?_eq_none_iff {c : Char} : Quote.ofMark? c = none ↔ c ≠ '"' ∧ c ≠ '\'' := by
  unfold Quote.ofMark?
  split <;> simp_all

theorem foldr_consFirst (text word : List Char) (words : List (List Char)) :
    text.foldr consFirst (word :: words) = (text ++ word) :: words := by
  induction text with
  | nil => rfl
  | cons c text ih => rw [List.foldr_cons, ih, consFirst, List.cons_append]

/-- Between single quotes, all characters stand for themselves. -/
theorem words?_single {text : List Char} (h : '\'' ∉ text) (rest : List Char) :
    words? (some .single) (text ++ '\'' :: rest) = (words? none rest).map (text.foldr consFirst) := by
  induction text with
  | nil => simp [words?]
  | cons c text ih =>
    obtain ⟨hc, htext⟩ := List.ne_and_not_mem_of_not_mem_cons h
    simp [words?, Ne.symm hc, ih htext, Function.comp_def]

theorem words?_double {spelt text : List Char} (h : Run spelt text) (rest : List Char) :
    words? (some .double) (spelt ++ '"' :: rest) = (words? none rest).map (text.foldr consFirst) := by
  induction h with
  | nil => simp [words?]
  | plain hquote hescape _ ih => simp [words?, hquote, hescape, ih, Function.comp_def]
  | escaped c _ ih => simp [words?, ih, Function.comp_def]

/-- An item puts its text in front of the first word of what follows. -/
theorem words?_item {item text : List Char} (h : Item item text) (rest : List Char) :
    words? none (item ++ rest) = (words? none rest).map (text.foldr consFirst) := by
  cases h with
  | @plain c hc =>
    have hplain : c ≠ ',' ∧ c ≠ '"' ∧ c ≠ '\'' ∧ c ≠ '\\' := by simpa using hc
    obtain ⟨hcomma, hdouble, hsingle, hescape⟩ := hplain
    have hmark : Quote.ofMark? c = none := Quote.ofMark?_eq_none_iff.2 ⟨hdouble, hsingle⟩
    have hread : words? none (c :: rest) = (words? none rest).map (consFirst c) := by
      simp [words?, hescape, hmark, hcomma]
    exact hread
  | escaped c => simp [words?]
  | single htext =>
    have hopen : words? none ('\'' :: text ++ ['\''] ++ rest) =
        words? (some .single) (text ++ '\'' :: rest) := by simp [words?, Quote.ofMark?]
    rw [hopen, words?_single htext]
  | @double spelt _ hrun =>
    have hopen : words? none ('"' :: spelt ++ ['"'] ++ rest) =
        words? (some .double) (spelt ++ '"' :: rest) := by simp [words?, Quote.ofMark?]
    rw [hopen, words?_double hrun]

theorem words?_word {spelt text : List Char} (h : Word spelt text) (rest : List Char) :
    words? none (spelt ++ rest) = (words? none rest).map (text.foldr consFirst) := by
  induction h with
  | nil => simp
  | cons hitem _ ih =>
    rw [List.append_assoc, words?_item hitem, ih, Option.map_map]
    congr 1
    funext words
    simp

/-- Splitting finds the words that an argument spells. -/
theorem words?_of_words {argument : List Char} {texts : List (List Char)}
    (h : Words argument texts) : words? none argument = some texts := by
  induction h with
  | @last spelt text hword =>
    have hread := words?_word hword []
    rwa [List.append_nil, words?, Option.map_some, foldr_consFirst, List.append_nil] at hread
  | backslash hword =>
    have hend : words? none ['\\'] = some [['\\']] := by simp [words?, consFirst]
    rw [words?_word hword, hend, Option.map_some, foldr_consFirst]
  | @cons spelt text rest texts hword _ ih =>
    have hcomma : words? none (',' :: rest) = some ([] :: texts) := by
      simp [words?, Quote.ofMark?, ih]
    rw [words?_word hword, hcomma, Option.map_some, foldr_consFirst, List.append_nil]

/-! ## Nothing else is read -/

namespace Label

/-- There is at least one word, if only an empty one. -/
theorem Words.exists_cons {argument : List Char} {texts : List (List Char)}
    (h : Words argument texts) : ∃ word others, texts = word :: others := by
  cases h <;> exact ⟨_, _, rfl⟩

/-- An item in front belongs to the first word. -/
theorem Words.item {item head rest word : List Char} {others : List (List Char)}
    (hitem : Item item head) (h : Words rest (word :: others)) :
    Words (item ++ rest) ((head ++ word) :: others) := by
  cases h with
  | last hword => exact .last (.cons hitem hword)
  | backslash hword =>
    rw [← List.append_assoc, ← List.append_assoc]
    exact .backslash (.cons hitem hword)
  | cons hword hrest =>
    rw [← List.append_assoc]
    exact .cons (.cons hitem hword) hrest

/-- What words are spelt by the rest of an argument, begun inside a quote or outside. -/
def WordsWithin : Option Quote → List Char → List (List Char) → Prop
  | none, text, words => Words text words
  | some .single, text, words => ∃ run rest word others, '\'' ∉ run ∧ Words rest (word :: others) ∧
      text = run ++ '\'' :: rest ∧ words = (run ++ word) :: others
  | some .double, text, words => ∃ spelt run rest word others, Run spelt run ∧
      Words rest (word :: others) ∧ text = spelt ++ '"' :: rest ∧ words = (run ++ word) :: others

end Label

/-- A character that neither escapes another one nor ends the text in a backslash is none. -/
theorem ne_backslash {c : Char} {rest : List Char}
    (hescape : ∀ (next : Char) (tail : List Char), c = '\\' → rest = next :: tail → False)
    (hend : c = '\\' → rest = [] → False) : c ≠ '\\' := by
  intro hc
  cases rest with
  | nil => exact hend hc rfl
  | cons next tail => exact hescape next tail hc rfl

/-- What the scanner finds is what the grammar allows. -/
theorem words_of_words? {quote : Option Quote} {text : List Char} {words : List (List Char)}
    (h : words? quote text = some words) : WordsWithin quote text words := by
  fun_induction words? quote text generalizing words with
  | case1 =>
    cases h
    exact .last .nil
  | case2 => cases h
  | case3 rest ih =>
    obtain ⟨word, others, rfl⟩ := (ih h).exists_cons
    exact ⟨[], rest, word, others, List.not_mem_nil, ih h, rfl, rfl⟩
  | case4 c rest hc ih =>
    obtain ⟨inner, hinner, rfl⟩ := Option.map_eq_some_iff.1 h
    obtain ⟨run, tail, word, others, hrun, hwords, rfl, rfl⟩ := ih hinner
    exact ⟨c :: run, tail, word, others, by simp [hrun, Ne.symm hc], hwords, rfl, rfl⟩
  | case5 quote c rest hquote ih =>
    obtain ⟨inner, hinner, rfl⟩ := Option.map_eq_some_iff.1 h
    have hrest := ih hinner
    match quote with
    | none =>
      obtain ⟨word, others, rfl⟩ := hrest.exists_cons
      exact Words.item (.escaped c) hrest
    | some .single => exact (hquote rfl).elim
    | some .double =>
      obtain ⟨spelt, run, tail, word, others, hrun, hwords, rfl, rfl⟩ := hrest
      exact ⟨'\\' :: c :: spelt, c :: run, tail, word, others, .escaped c hrun, hwords, rfl, rfl⟩
  | case6 quote hquote ih =>
    obtain ⟨inner, hinner, rfl⟩ := Option.map_eq_some_iff.1 h
    cases quote with
    | none =>
      rw [words?] at hinner
      cases hinner
      exact .backslash .nil
    | some quote => simp [words?] at hinner
  | case7 rest _ _ ih =>
    obtain ⟨word, others, rfl⟩ := (ih h).exists_cons
    exact ⟨[], [], rest, word, others, .nil, ih h, rfl, rfl⟩
  | case8 c rest hescape hend hc ih =>
    obtain ⟨inner, hinner, rfl⟩ := Option.map_eq_some_iff.1 h
    obtain ⟨spelt, run, tail, word, others, hrun, hwords, rfl, rfl⟩ := ih hinner
    have hplain := ne_backslash hescape hend
    exact ⟨c :: spelt, c :: run, tail, word, others, .plain hc hplain hrun, hwords, rfl, rfl⟩
  | case9 c rest hescape hend quote hmark ih =>
    match quote with
    | .single =>
      obtain ⟨run, tail, word, others, hrun, hwords, rfl, rfl⟩ := ih h
      obtain rfl : c = '\'' := Quote.eq_mark_of_ofMark? hmark
      simpa [WordsWithin] using hwords.item (.single hrun)
    | .double =>
      obtain ⟨spelt, run, tail, word, others, hrun, hwords, rfl, rfl⟩ := ih h
      obtain rfl : c = '"' := Quote.eq_mark_of_ofMark? hmark
      simpa [WordsWithin] using hwords.item (.double hrun)
  | case10 rest _ _ _ ih =>
    obtain ⟨inner, hinner, rfl⟩ := Option.map_eq_some_iff.1 h
    exact .cons .nil (ih hinner)
  | case11 c rest hescape hend hmark hcomma ih =>
    obtain ⟨inner, hinner, rfl⟩ := Option.map_eq_some_iff.1 h
    obtain ⟨word, others, rfl⟩ := (ih hinner).exists_cons
    obtain ⟨hdouble, hsingle⟩ := Quote.ofMark?_eq_none_iff.1 hmark
    have hplain : c ∉ [',', '"', '\'', '\\'] := by
      simp [hcomma, hdouble, hsingle, ne_backslash hescape hend]
    exact (ih hinner).item (.plain hplain)

/-- An argument splits into just the words that it spells. -/
theorem words?_eq_some_iff {argument : List Char} {texts : List (List Char)} :
    words? none argument = some texts ↔ Words argument texts :=
  ⟨words_of_words?, words?_of_words⟩

/-! ## The scan finds quotes that are open, and counts words -/

namespace Scan

@[simp] theorem after_nil (scan : Scan) : scan.after [] = scan := rfl

@[simp] theorem after_cons (scan : Scan) (c : Char) (rest : List Char) :
    scan.after (c :: rest) = (scan.step c).after rest := rfl

end Scan

/-- The scanner fails exactly if it ends inside a quote. -/
theorem words?_eq_none_iff (quote : Option Quote) (text : List Char) :
    words? quote text = none ↔ ((Scan.plain quote).after text).within ≠ none := by
  fun_induction words? quote text with
  | case1 => simp [Scan.within]
  | case2 quote => simp [Scan.within]
  | case3 rest ih => simpa [Scan.step] using ih
  | case4 c rest hc ih => simpa [Scan.step, hc] using ih
  | case5 quote c rest hquote ih =>
    match quote with
    | none => simpa [Scan.step] using ih
    | some .single => exact (hquote rfl).elim
    | some .double => simpa [Scan.step] using ih
  | case6 quote hquote ih =>
    match quote with
    | none => simp [Scan.step, Scan.within, words?]
    | some .single => exact (hquote rfl).elim
    | some .double => simp [Scan.step, Scan.within, words?]
  | case7 rest _ _ ih => simpa [Scan.step] using ih
  | case8 c rest hescape hend hc ih =>
    simpa [Scan.step, ne_backslash hescape hend, hc] using ih
  | case9 c rest hescape hend quote hmark ih =>
    simpa [Scan.step, ne_backslash hescape hend, hmark] using ih
  | case10 rest _ _ hmark ih => simpa [Scan.step, hmark] using ih
  | case11 c rest hescape hend hmark hcomma ih =>
    simpa [Scan.step, ne_backslash hescape hend, hmark] using ih

theorem length_consFirst {words : List (List Char)} {n : Nat} (h : words.length = n + 1) (c : Char) :
    (consFirst c words).length = n + 1 := by
  cases words with
  | nil => cases h
  | cons word others => exact h

/-- There is one word more than there are separators. -/
theorem length_words? {quote : Option Quote} {text : List Char} {words : List (List Char)}
    (h : words? quote text = some words) :
    words.length = (Scan.plain quote).separators text + 1 := by
  fun_induction words? quote text generalizing words with
  | case1 =>
    cases h
    rfl
  | case2 => cases h
  | case3 rest ih => simpa [Scan.step, Scan.separators] using ih h
  | case4 c rest hc ih =>
    obtain ⟨inner, hinner, rfl⟩ := Option.map_eq_some_iff.1 h
    exact length_consFirst (by simpa [Scan.step, Scan.separators, hc] using ih hinner) c
  | case5 quote c rest hquote ih =>
    obtain ⟨inner, hinner, rfl⟩ := Option.map_eq_some_iff.1 h
    refine length_consFirst ?_ c
    match quote with
    | none => simpa [Scan.step, Scan.separators] using ih hinner
    | some .single => exact (hquote rfl).elim
    | some .double => simpa [Scan.step, Scan.separators] using ih hinner
  | case6 quote hquote ih =>
    obtain ⟨inner, hinner, rfl⟩ := Option.map_eq_some_iff.1 h
    exact length_consFirst (by simpa [Scan.separators] using ih hinner) '\\'
  | case7 rest _ _ ih => simpa [Scan.step, Scan.separators] using ih h
  | case8 c rest hescape hend hc ih =>
    obtain ⟨inner, hinner, rfl⟩ := Option.map_eq_some_iff.1 h
    refine length_consFirst ?_ c
    simpa [Scan.step, Scan.separators, ne_backslash hescape hend, hc] using ih hinner
  | case9 c rest hescape hend quote hmark ih =>
    have hcomma : c ≠ ',' := by
      rintro rfl
      cases hmark
    simpa [Scan.step, Scan.separators, ne_backslash hescape hend, hmark, hcomma] using ih h
  | case10 rest _ _ hmark ih =>
    obtain ⟨inner, hinner, rfl⟩ := Option.map_eq_some_iff.1 h
    simp [Scan.step, Scan.separators, hmark, ih hinner, Nat.add_comm]
  | case11 c rest hescape hend hmark hcomma ih =>
    obtain ⟨inner, hinner, rfl⟩ := Option.map_eq_some_iff.1 h
    refine length_consFirst ?_ c
    simpa [Scan.step, Scan.separators, ne_backslash hescape hend, hmark, hcomma] using ih hinner

/-! ## Splitting -/

variable {argument : List Char}

theorem words?_start_eq_none_iff : words? none argument = none ↔ EndsInQuote argument :=
  words?_eq_none_iff none argument

/-- What splitting comes to: the argument is empty, a quote is open, or there are words. -/
theorem splitLabels_cases (argument : List Char) :
    (argument = [] ∧ splitLabels argument = .ok []) ∨
      (EndsInQuote argument ∧
        splitLabels argument = .error (.missingQuote (String.ofList argument))) ∨
      ∃ texts, argument ≠ [] ∧ Words argument texts ∧
        texts.length = Scan.start.separators argument + 1 ∧ splitLabels argument =
          if maxLabels < texts.length then .error (.tooMany (String.ofList argument))
          else .ok (texts.map String.ofList) := by
  by_cases hempty : argument = []
  · exact .inl ⟨hempty, if_pos hempty⟩
  · rw [splitLabels, if_neg hempty]
    cases hwords : words? none argument with
    | none => exact .inr (.inl ⟨words?_start_eq_none_iff.1 hwords, rfl⟩)
    | some texts =>
      exact .inr (.inr ⟨texts, hempty, words_of_words? hwords, length_words? hwords, rfl⟩)

/-- No words are spelt by an argument that leaves a quote open. -/
theorem not_endsInQuote_of_words {texts : List (List Char)} (h : Words argument texts) :
    ¬EndsInQuote argument := by
  intro hopen
  have hnone := words?_start_eq_none_iff.2 hopen
  rw [words?_of_words h] at hnone
  cases hnone

/-- The grammar is not ambiguous. -/
theorem words_unique {first second : List (List Char)} (hfirst : Words argument first)
    (hsecond : Words argument second) : first = second :=
  Option.some.inj ((words?_of_words hfirst).symm.trans (words?_of_words hsecond))

/-- The number of words does not depend on how they are read. -/
theorem length_of_words {texts : List (List Char)} (h : Words argument texts) :
    texts.length = Scan.start.separators argument + 1 :=
  length_words? (words?_of_words h)

/-- Up to three words are labels. -/
theorem splitLabels_of_words {texts : List (List Char)} (h : Words argument texts)
    (hsome : argument ≠ []) (hlength : texts.length ≤ 3) :
    splitLabels argument = .ok (texts.map String.ofList) := by
  rw [splitLabels, if_neg hsome, words?_of_words h]
  exact if_neg (Nat.not_lt.2 hlength)

/-- A missing quote is reported whatever the number of labels is. -/
theorem splitLabels_eq_missingQuote_iff :
    splitLabels argument = .error (.missingQuote (String.ofList argument)) ↔
      EndsInQuote argument := by
  obtain ⟨rfl, hsplit⟩ | ⟨hopen, hsplit⟩ | ⟨texts, -, hwords, -, hsplit⟩ := splitLabels_cases argument
  · simp [hsplit, EndsInQuote, Scan.start, Scan.within]
  · simp [hsplit, hopen]
  · have hclosed := not_endsInQuote_of_words hwords
    rw [hsplit]
    split <;> simp [hclosed]

/-- Too many labels are reported only if no quote is missing. -/
theorem splitLabels_eq_tooMany_iff :
    splitLabels argument = .error (.tooMany (String.ofList argument)) ↔
      ¬EndsInQuote argument ∧ 2 < Scan.start.separators argument := by
  obtain ⟨rfl, hsplit⟩ | ⟨hopen, hsplit⟩ | ⟨texts, -, hwords, hlength, hsplit⟩ :=
    splitLabels_cases argument
  · simp [hsplit, Scan.separators]
  · simp [hsplit, hopen]
  · have hmany : maxLabels < texts.length ↔ 2 < Scan.start.separators argument := by
      rw [hlength, maxLabels]
      omega
    simp [hsplit, not_endsInQuote_of_words hwords, hmany]

/-- The empty argument has no labels, and every other one has the words it is read as. -/
theorem splitLabels_eq_ok_iff {labels : List String} :
    splitLabels argument = .ok labels ↔
      ¬EndsInQuote argument ∧ Scan.start.separators argument ≤ 2 ∧
        if argument = [] then labels = [] else Words argument (labels.map String.toList) := by
  obtain ⟨rfl, hsplit⟩ | ⟨hopen, hsplit⟩ | ⟨texts, hsome, hwords, hlength, hsplit⟩ :=
    splitLabels_cases argument
  · simp [hsplit, EndsInQuote, Scan.start, Scan.within, Scan.separators, eq_comm]
  · simp [hsplit, hopen]
  · have hclosed := not_endsInQuote_of_words hwords
    have hfew : ¬maxLabels < texts.length ↔ Scan.start.separators argument ≤ 2 := by
      rw [hlength, maxLabels]
      omega
    have hlabels : texts.map String.ofList = labels ↔ Words argument (labels.map String.toList) := by
      constructor
      · rintro rfl
        simpa using hwords
      · intro hspelt
        rw [words_unique hwords hspelt]
        simp
    rw [hsplit, if_neg hsome, ← hfew]
    split
    · rename_i hmany
      simp [hmany]
    · rename_i hshort
      simp [hclosed, hshort, hlabels]

/-! ### Every row of labels can be spelt -/

namespace Label

/-- Every text can be spelt between double quotes. -/
theorem exists_run (text : List Char) : ∃ spelt, Run spelt text := by
  induction text with
  | nil => exact ⟨[], .nil⟩
  | cons c text ih =>
    obtain ⟨spelt, hrun⟩ := ih
    exact ⟨'\\' :: c :: spelt, .escaped c hrun⟩

/-- Between double quotes, with a backslash before each character, any text makes a word. -/
theorem exists_word (text : List Char) : ∃ spelt, spelt ≠ [] ∧ Word spelt text := by
  obtain ⟨spelt, hrun⟩ := exists_run text
  refine ⟨'"' :: spelt ++ ['"'], by simp, ?_⟩
  simpa using Word.cons (.double hrun) .nil

theorem exists_words {texts : List (List Char)} (h : texts ≠ []) :
    ∃ argument, argument ≠ [] ∧ Words argument texts := by
  induction texts with
  | nil => exact absurd rfl h
  | cons text others ih =>
    obtain ⟨spelt, hsome, hword⟩ := exists_word text
    by_cases hothers : others = []
    · subst hothers
      exact ⟨spelt, hsome, .last hword⟩
    · obtain ⟨rest, -, hrest⟩ := ih hothers
      exact ⟨spelt ++ ',' :: rest, by simp, .cons hword hrest⟩

end Label

/-- Splitting accepts just the grammar of labels. It reports a missing quote if and only if a scan ends
inside a quote, and too many labels if and only if no quote is open and the scan passes more than two
commas. In all other cases it comes to the words that the argument spells, which are the only ones and
one more than those commas, but for the empty argument, which has none. The other way round, whatever
words an argument spells are what it splits into, if there are no more than three, and any labels can
be spelt. -/
theorem splitLabels_iff_words :
    (∀ argument : List Char,
      (splitLabels argument = .error (.missingQuote (String.ofList argument)) ↔
        EndsInQuote argument) ∧
      (splitLabels argument = .error (.tooMany (String.ofList argument)) ↔
        ¬EndsInQuote argument ∧ 2 < Scan.start.separators argument) ∧
      (∀ labels, splitLabels argument = .ok labels ↔
        ¬EndsInQuote argument ∧ Scan.start.separators argument ≤ 2 ∧
          if argument = [] then labels = [] else Words argument (labels.map String.toList)) ∧
      (¬EndsInQuote argument → ∃! texts, Words argument texts) ∧
      ∀ texts, Words argument texts → texts.length = Scan.start.separators argument + 1) ∧
    (∀ argument texts, argument ≠ [] → Words argument texts → texts.length ≤ 3 →
      splitLabels argument = .ok (texts.map String.ofList)) ∧
    ∀ texts, texts ≠ [] → ∃ argument, argument ≠ [] ∧ Words argument texts := by
  refine ⟨fun argument ↦ ⟨splitLabels_eq_missingQuote_iff, splitLabels_eq_tooMany_iff,
    fun labels ↦ splitLabels_eq_ok_iff, fun hclosed ↦ ?_, fun texts ↦ length_of_words⟩,
    fun argument texts hsome hwords hlength ↦ splitLabels_of_words hwords hsome hlength,
    fun texts ↦ exists_words⟩
  have hsome : words? none argument ≠ none := fun hnone ↦ hclosed (words?_start_eq_none_iff.1 hnone)
  obtain ⟨texts, htexts⟩ := Option.ne_none_iff_exists'.1 hsome
  have hwords := words_of_words? htexts
  exact ⟨texts, hwords, fun other hother ↦ words_unique hother hwords⟩

/-- A comma between single quotes, an escaped double quote between double ones, and a backslash at the
very end. -/
theorem splitLabels_of_three_spellings :
    let argument := ['\'', 'a', ',', '\'', ',', '"', '\\', '"', 'c', '"', ',', 'd', '\\']
    ¬EndsInQuote argument ∧ Words argument [['a', ','], ['"', 'c'], ['d', '\\']] ∧
      splitLabels argument = .ok ["a,", "\"c", "d\\"] ∧
      ∃! texts, Words argument texts := by
  intro argument
  have hclosed : ¬EndsInQuote argument := by
    unfold EndsInQuote
    decide
  have hwords : Words argument [['a', ','], ['"', 'c'], ['d', '\\']] :=
    words?_eq_some_iff.1 (by decide +kernel)
  obtain ⟨hforward, hback, -⟩ := splitLabels_iff_words
  exact ⟨hclosed, hwords, hback argument _ (by decide) hwords (by decide),
    (hforward argument).2.2.2.1 hclosed⟩

end ProgressActions.Template
