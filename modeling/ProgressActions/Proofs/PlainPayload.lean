import ProgressActions.Proofs.Unquoting

/-!
# Payloads that stand for themselves

Unquoting changes a payload only by making it shorter: a pair of quotes goes, or an escape becomes the
single character that it names. Whatever is no escape is kept in full. So the payloads that are left
alone are just those without a pair of quotes and without an escape, and unquoting twice is the same
as unquoting once exactly where the first time leaves such a payload.
-/

namespace ProgressActions.Text

/-! ## Escapes of a text -/

/-- The characters behind the backslashes that are met when a text is read from left to right, where a
backslash and the character behind it are passed together. -/
def escaped : List Char → List Char
  | '\\' :: next :: rest => next :: escaped rest
  | _ :: rest => escaped rest
  | [] => []

/-- The characters that mean something else behind a backslash. -/
def escapeMarks : List Char :=
  ['\\', 'a', 'b', 'f', 'n', 'r', 't', 'v', '?', '0', '1', '2', '3', '4', '5', '6', '7']

/-- A text without a backslash that introduces an escape. -/
def HasNoEscape (text : List Char) : Prop := ∀ c ∈ escaped text, c ∉ escapeMarks

/-- A backslash escapes the character after it. -/
theorem escaped_backslash (next : Char) (rest : List Char) :
    escaped ('\\' :: next :: rest) = next :: escaped rest := rfl

/-- A character is passed alone unless it is a backslash with a character behind it. -/
theorem escaped_cons {c : Char} {rest : List Char}
    (h : ∀ next tail, c = '\\' → rest = next :: tail → False) :
    escaped (c :: rest) = escaped rest := by
  rw [escaped]
  exact h

/-- A backslash may stand before a character that it does not escape. -/
theorem hasNoEscape_backslash_iff (next : Char) (rest : List Char) :
    HasNoEscape ('\\' :: next :: rest) ↔ next ∉ escapeMarks ∧ HasNoEscape rest := by
  simp [HasNoEscape, escaped_backslash]

/-- The digits of octal numerals are the eight that stand last among the marks. -/
theorem mem_escapeMarks_of_isOctalDigit {c : Char} (h : isOctalDigit c = true) :
    c ∈ escapeMarks := by
  have hrange : 48 ≤ c.toNat ∧ c.toNat ≤ 55 := by
    simpa [isOctalDigit, Char.le_def, UInt32.le_iff_toNat_le] using h
  have hall : ∀ k < 8, Char.ofNat (48 + k) ∈ escapeMarks := by decide
  have hmem := hall (c.toNat - 48) (by omega)
  rwa [Nat.add_sub_cancel' hrange.1, Char.ofNat_toNat] at hmem

theorem mem_escapeMarks_of_namedEscape {letter c : Char} (h : namedEscape letter = some c) :
    letter ∈ escapeMarks := by
  unfold namedEscape at h
  split at h <;> first | decide | cases h

/-- A mark names a character or begins an octal numeral. -/
theorem namedEscape_or_isOctalDigit {c : Char} (h : c ∈ escapeMarks) :
    (∃ named, namedEscape c = some named) ∨ isOctalDigit c = true := by
  have hall : escapeMarks.all (fun c ↦ (namedEscape c).isSome || isOctalDigit c) = true := by decide
  have hmark := List.all_eq_true.1 hall c h
  exact (Bool.or_eq_true_iff.1 hmark).imp Option.isSome_iff_exists.1 id

/-! ## Resolving escapes -/

/-- To resolve escapes does not make a text longer. -/
theorem length_resolveEscapes_le (text : List Char) :
    (resolveEscapes text).length ≤ text.length := by
  fun_induction resolveEscapes text with
  | case1 => exact le_rfl
  | case2 next rest c hname ih =>
    calc (c :: resolveEscapes rest).length
        ≤ rest.length + 1 := Nat.succ_le_succ ih
      _ ≤ ('\\' :: next :: rest).length := Nat.le_succ _
  | case3 next rest hname hdigit run ih =>
    calc (octalChar run :: resolveEscapes (rest.drop (run.length - 1))).length
        ≤ (rest.drop (run.length - 1)).length + 1 := Nat.succ_le_succ ih
      _ ≤ rest.length + 1 := Nat.succ_le_succ (List.drop_sublist _ _).length_le
      _ ≤ ('\\' :: next :: rest).length := Nat.le_succ _
  | case4 next rest hname hdigit ih => exact Nat.succ_le_succ (Nat.succ_le_succ ih)
  | case5 c rest hend ih => exact Nat.succ_le_succ ih

/-- A text without an escape is what it stands for. -/
theorem resolveEscapes_of_hasNoEscape {text : List Char} (h : HasNoEscape text) :
    resolveEscapes text = text := by
  fun_induction resolveEscapes text with
  | case1 => rfl
  | case2 next rest c hname ih =>
    exact absurd (mem_escapeMarks_of_namedEscape hname) ((hasNoEscape_backslash_iff _ _).1 h).1
  | case3 next rest hname hdigit run ih =>
    exact absurd (mem_escapeMarks_of_isOctalDigit hdigit) ((hasNoEscape_backslash_iff _ _).1 h).1
  | case4 next rest hname hdigit ih => rw [ih ((hasNoEscape_backslash_iff _ _).1 h).2]
  | case5 c rest hend ih =>
    rw [HasNoEscape, escaped_cons hend] at h
    rw [ih h]

/-- An escape takes at least two characters and leaves one. -/
theorem length_resolveEscapes_lt {text : List Char} (h : ¬HasNoEscape text) :
    (resolveEscapes text).length < text.length := by
  fun_induction resolveEscapes text with
  | case1 => exact absurd (List.forall_mem_nil _) h
  | case2 next rest c hname ih =>
    exact Nat.succ_lt_succ (Nat.lt_succ_of_le (length_resolveEscapes_le rest))
  | case3 next rest hname hdigit run ih =>
    have hrest : (resolveEscapes (rest.drop (run.length - 1))).length ≤ rest.length :=
      (length_resolveEscapes_le _).trans (List.drop_sublist _ _).length_le
    exact Nat.succ_lt_succ (Nat.lt_succ_of_le hrest)
  | case4 next rest hname hdigit ih =>
    have hnext : next ∉ escapeMarks := by
      intro hmark
      rcases namedEscape_or_isOctalDigit hmark with ⟨c, hc⟩ | hoctal
      · rw [hname] at hc
        cases hc
      · exact hdigit hoctal
    have hrest : ¬HasNoEscape rest := fun hrest ↦
      h ((hasNoEscape_backslash_iff _ _).2 ⟨hnext, hrest⟩)
    exact Nat.succ_lt_succ (Nat.succ_lt_succ (ih hrest))
  | case5 c rest hend ih =>
    rw [HasNoEscape, escaped_cons hend] at h
    exact Nat.succ_lt_succ (ih h)

/-! ## Unquoting -/

/-- A payload without a pair of quotes around it and without an escape. -/
structure IsPlain (text : List Char) : Prop where
  bare : ¬IsWrapped text
  hasNoEscape : HasNoEscape text

/-- A plain text stands for itself. -/
theorem unquote_of_isPlain {text : List Char} (h : IsPlain text) : unquote text = text := by
  rw [unquote_of_not_isWrapped h.bare, resolveEscapes_of_hasNoEscape h.hasNoEscape]

/-- Every other payload gets shorter. -/
theorem length_unquote_lt {text : List Char} (h : ¬IsPlain text) :
    (unquote text).length < text.length := by
  by_cases hwrapped : IsWrapped text
  · obtain ⟨quote, inner, hquote, rfl⟩ := hwrapped
    rw [unquote_wrapped hquote]
    calc (resolveEscapes inner).length
        ≤ inner.length := length_resolveEscapes_le inner
      _ < (quote :: inner ++ [quote]).length := by
        rw [List.length_append, List.length_cons]
        omega
  · have hescape : ¬HasNoEscape text := fun hnone ↦ h ⟨hwrapped, hnone⟩
    rw [unquote_of_not_isWrapped hwrapped]
    exact length_resolveEscapes_lt hescape

/-- No other text stands for itself. -/
theorem unquote_eq_self_iff (text : List Char) : unquote text = text ↔ IsPlain text := by
  refine ⟨fun heq ↦ ?_, unquote_of_isPlain⟩
  by_contra hplain
  have hlt := length_unquote_lt hplain
  rw [heq] at hlt
  exact lt_irrefl _ hlt

/-- Unquoting never makes a payload longer, and leaves it alone if and only if it is plain. So doing it
twice makes no difference exactly when the first result is plain. -/
theorem unquote_shrinks (text : List Char) :
    (unquote text).length ≤ text.length ∧ (unquote text = text ↔ IsPlain text) ∧
      (unquote (unquote text) = unquote text ↔ IsPlain (unquote text)) := by
  refine ⟨?_, unquote_eq_self_iff text, unquote_eq_self_iff (unquote text)⟩
  by_cases hplain : IsPlain text
  · rw [unquote_of_isPlain hplain]
  · exact (length_unquote_lt hplain).le

/-- An escape that is not known keeps its backslash, and the character behind it introduces nothing. -/
example : escaped "a\\q\\\\n\\".toList = ['q', '\\'] := by decide

end ProgressActions.Text
