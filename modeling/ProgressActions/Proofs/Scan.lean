import Mathlib.Algebra.Group.Nat.Even
import Mathlib.Data.List.DropRight
import ProgressActions.Proofs.Unquoting
import ProgressActions.Template.Piece

/-!
# What the scan of a template finds

A brace closes the argument in front of it unless an odd number of backslashes stands right before it.
Capturing an argument takes the text up to the first brace that closes, and its value is that text with
the backslashes taken off braces and backslashes; so every text can be passed as an argument. Reading
escapes from left to right comes to the same as counting backslashes from the brace backwards.

The pieces of a template are the template itself, cut up: nothing is lost or added in the scan.
-/

namespace ProgressActions.Template

open Text

/-! ## Braces that close -/

/-- The number of backslashes at the end of a text. -/
def backslashes (text : List Char) : Nat := (text.rtakeWhile (· = '\\')).length

@[simp] theorem backslashes_nil : backslashes [] = 0 := rfl

theorem backslashes_le_length (text : List Char) : backslashes text ≤ text.length :=
  (List.rtakeWhile_suffix _ text).length_le

/-- Any other character ends the run of backslashes. -/
theorem backslashes_concat (text : List Char) (c : Char) :
    backslashes (text ++ [c]) = if c = '\\' then backslashes text + 1 else 0 := by
  unfold backslashes
  rw [List.rtakeWhile_concat]
  split <;> simp_all

/-- A character at the front counts only if all the others are backslashes. -/
theorem backslashes_cons (c : Char) (text : List Char) :
    backslashes (c :: text) =
      if backslashes text = text.length ∧ c = '\\' then text.length + 1 else backslashes text := by
  induction text using List.reverseRecOn with
  | nil => simpa using backslashes_concat [] c
  | append_singleton text d ih =>
    have hle := backslashes_le_length text
    rw [← List.cons_append, backslashes_concat, backslashes_concat, ih]
    by_cases hd : d = '\\' <;> by_cases hc : c = '\\' <;>
      by_cases hall : backslashes text = text.length <;> simp [hd, hc, hall]

/-- Nothing in front of a character that is no backslash counts. -/
theorem backslashes_append_cons {c : Char} (h : c ≠ '\\') (before text : List Char) :
    backslashes (before ++ c :: text) = backslashes text := by
  induction before with
  | nil => simp [backslashes_cons, h]
  | cons d before ih =>
    have hle := backslashes_le_length text
    have hshort : backslashes text ≠ (before ++ c :: text).length := by
      simp
      omega
    rw [List.cons_append, backslashes_cons, ih, if_neg fun hall ↦ hshort hall.1]

/-- Whether a brace behind a text closes the argument that the text is. -/
def Closes (before : List Char) : Prop := Even (backslashes before)

theorem closes_nil : Closes [] := ⟨0, rfl⟩

theorem not_closes_backslash : ¬Closes ['\\'] := by
  unfold Closes
  decide

theorem closes_cons_of_ne {c : Char} (h : c ≠ '\\') (text : List Char) :
    Closes (c :: text) ↔ Closes text := by
  rw [Closes, Closes, ← List.nil_append (c :: text), backslashes_append_cons h]

/-- A backslash and the character behind it come off together. -/
theorem closes_escape (c : Char) (text : List Char) : Closes ('\\' :: c :: text) ↔ Closes text := by
  have htwo : backslashes ('\\' :: c :: text) = backslashes text ∨
      backslashes ('\\' :: c :: text) = backslashes text + 2 := by
    have hle := backslashes_le_length text
    rw [backslashes_cons, backslashes_cons]
    split_ifs <;> simp_all
  unfold Closes
  rcases htwo with heq | heq
  · rw [heq]
  · rw [heq, Nat.even_add]
    simp

/-- No brace in a text closes an argument that begins where the text begins. -/
def NeverCloses (text : List Char) : Prop :=
  ∀ before after, text = before ++ '}' :: after → ¬Closes before

theorem neverCloses_nil : NeverCloses [] := by
  rintro before after h
  simp at h

theorem neverCloses_backslash : NeverCloses ['\\'] := by
  rintro before after h
  cases before with
  | nil => cases h
  | cons c before => simp at h

/-- A character in front that neither escapes nor closes does not matter. -/
theorem neverCloses_cons_iff {c : Char} (hescape : c ≠ '\\') (hclose : c ≠ '}') (text : List Char) :
    NeverCloses (c :: text) ↔ NeverCloses text := by
  constructor
  · rintro h before after rfl hcloses
    exact h (c :: before) after rfl ((closes_cons_of_ne hescape before).2 hcloses)
  · rintro h before after heq hcloses
    cases before with
    | nil => exact hclose (List.cons.inj heq).1
    | cons d before =>
      obtain ⟨rfl, rfl⟩ := List.cons.inj heq
      exact h before after rfl ((closes_cons_of_ne hescape before).1 hcloses)

/-- A backslash in front takes the next character out of consideration. -/
theorem neverCloses_escape_iff (c : Char) (text : List Char) :
    NeverCloses ('\\' :: c :: text) ↔ NeverCloses text := by
  constructor
  · rintro h before after rfl hcloses
    exact h ('\\' :: c :: before) after rfl ((closes_escape c before).2 hcloses)
  · rintro h before after heq hcloses
    match before with
    | [] => cases heq
    | ['\\'] => exact not_closes_backslash hcloses
    | d :: e :: before =>
      obtain ⟨rfl, rfl, rfl⟩ : '\\' = d ∧ c = e ∧ text = before ++ '}' :: after := by
        simpa using heq
      exact h before after rfl ((closes_escape c before).1 hcloses)

/-- Where no brace closes, none closes an argument that begins later on either. -/
theorem NeverCloses.of_append_cons {before text : List Char} {c : Char} (hc : c ≠ '\\')
    (h : NeverCloses (before ++ c :: text)) : NeverCloses text := by
  rintro early late rfl hcloses
  refine h (before ++ c :: early) late (by simp) ?_
  rwa [Closes, backslashes_append_cons hc]

/-! ## Captured arguments -/

namespace Argument

/-- The first brace that closes stands behind the text. -/
structure IsRaw (raw : List Char) : Prop where
  closes : Closes raw
  first : NeverCloses raw

/-- A text without the backslashes before braces and backslashes, taken off from left to right. -/
def resolve : List Char → List Char
  | '\\' :: '}' :: rest => '}' :: resolve rest
  | '\\' :: '\\' :: rest => '\\' :: resolve rest
  | c :: rest => c :: resolve rest
  | [] => []

theorem resolve_cons_of_ne {c : Char} (h : c ≠ '\\') (rest : List Char) :
    resolve (c :: rest) = c :: resolve rest := by
  rw [resolve]
  · rintro tail rfl
    exact absurd rfl h
  · rintro tail rfl
    exact absurd rfl h

/-- Only a brace and a backslash lose the backslash in front of them. -/
theorem resolve_escape (c : Char) (rest : List Char) :
    resolve ('\\' :: c :: rest) =
      if c = '}' ∨ c = '\\' then c :: resolve rest else '\\' :: c :: resolve rest := by
  split
  · rename_i h
    rcases h with rfl | rfl <;> rw [resolve]
  · rename_i h
    obtain ⟨hclose, hescape⟩ := not_or.1 h
    rw [resolve, resolve_cons_of_ne hescape]
    · rintro tail - heq
      exact hclose (List.cons.inj heq).1
    · rintro tail - heq
      exact hescape (List.cons.inj heq).1

/-- What is captured is the text up to the first brace that closes. -/
theorem isRaw_of_capture? {text after : List Char} {a : Argument}
    (h : capture? text = some (a, after)) : IsRaw a.raw ∧ a.value = resolve a.raw := by
  fun_induction capture? text generalizing a after with
  | case1 => cases h
  | case2 rest =>
    cases h
    exact ⟨⟨closes_nil, neverCloses_nil⟩, rfl⟩
  | case3 c rest ih =>
    obtain ⟨⟨inner, tail⟩, hinner, heq⟩ := Option.map_eq_some_iff.1 h
    cases heq
    obtain ⟨hraw, hvalue⟩ := ih hinner
    refine ⟨⟨(closes_escape c _).2 hraw.closes, (neverCloses_escape_iff c _).2 hraw.first⟩, ?_⟩
    rw [consEscape, resolve_escape, hvalue]
  | case4 c rest hclose hescape ih =>
    obtain ⟨⟨inner, tail⟩, hinner, heq⟩ := Option.map_eq_some_iff.1 h
    cases heq
    obtain ⟨hraw, hvalue⟩ := ih hinner
    have hplain : c ≠ '\\' := by
      rintro rfl
      cases rest with
      | nil => cases hinner
      | cons d rest => exact hescape d rest rfl rfl
    refine ⟨⟨(closes_cons_of_ne hplain _).2 hraw.closes,
      (neverCloses_cons_iff hplain hclose _).2 hraw.first⟩, ?_⟩
    rw [cons, resolve_cons_of_ne hplain, hvalue]

/-- Nothing is captured only where no brace closes. -/
theorem neverCloses_of_capture? {text : List Char} (h : capture? text = none) :
    NeverCloses text := by
  fun_induction capture? text with
  | case1 => exact neverCloses_nil
  | case2 rest => cases h
  | case3 c rest ih => exact (neverCloses_escape_iff c rest).2 (ih (Option.map_eq_none_iff.1 h))
  | case4 c rest hclose hescape ih =>
    by_cases hc : c = '\\'
    · obtain rfl : rest = [] := by
        cases rest with
        | nil => rfl
        | cons d rest => exact (hescape d rest hc rfl).elim
      exact hc ▸ neverCloses_backslash
    · exact (neverCloses_cons_iff hc hclose rest).2 (ih (Option.map_eq_none_iff.1 h))

/-- An argument does not reach beyond the end of another. -/
theorem IsRaw.append_eq_nil {raw more early late : List Char} (h : IsRaw raw)
    (hlonger : IsRaw (raw ++ more)) (heq : '}' :: early = more ++ '}' :: late) : more = [] := by
  cases more with
  | nil => rfl
  | cons c more =>
    obtain ⟨rfl, -⟩ := List.cons.inj heq
    exact absurd h.closes (hlonger.first raw more rfl)

/-- The first brace that closes parts a text in one way only. -/
theorem IsRaw.unique {first second early late : List Char} (hfirst : IsRaw first)
    (hsecond : IsRaw second) (h : first ++ '}' :: early = second ++ '}' :: late) :
    first = second ∧ early = late := by
  rcases List.append_eq_append_iff.1 h with ⟨more, rfl, heq⟩ | ⟨more, rfl, heq⟩
  · obtain rfl := hfirst.append_eq_nil hsecond heq
    simpa using heq
  · obtain rfl := hsecond.append_eq_nil hfirst heq
    simpa [eq_comm] using heq

/-- The scan stops at the brace after a raw text. -/
theorem capture?_of_isRaw {raw : List Char} (h : IsRaw raw) (after : List Char) :
    capture? (raw ++ '}' :: after) = some (⟨resolve raw, raw⟩, after) := by
  cases hcapture : capture? (raw ++ '}' :: after) with
  | none => exact absurd h.closes (neverCloses_of_capture? hcapture raw after rfl)
  | some captured =>
    obtain ⟨a, rest⟩ := captured
    obtain ⟨hraw, hvalue⟩ := isRaw_of_capture? hcapture
    obtain ⟨rfl, rfl⟩ := h.unique hraw (capture?_eq_some hcapture)
    rw [← hvalue]

/-- The scan fails exactly if no brace closes the text. -/
theorem capture?_eq_none_iff {text : List Char} : capture? text = none ↔ NeverCloses text := by
  refine ⟨neverCloses_of_capture?, fun h ↦ ?_⟩
  cases hcapture : capture? text with
  | none => rfl
  | some captured =>
    obtain ⟨hraw, -⟩ := isRaw_of_capture? hcapture
    exact absurd hraw.closes (h _ _ (capture?_eq_some hcapture))

/-- The scan succeeds exactly with the raw text before the closing brace. -/
theorem capture?_eq_some_iff {text after : List Char} {a : Argument} :
    capture? text = some (a, after) ↔
      text = a.raw ++ '}' :: after ∧ IsRaw a.raw ∧ a.value = resolve a.raw := by
  refine ⟨fun h ↦ ⟨capture?_eq_some h, isRaw_of_capture? h⟩, ?_⟩
  rintro ⟨rfl, hraw, hvalue⟩
  rw [capture?_of_isRaw hraw, ← hvalue]

/-- An argument whose braces and backslashes are escaped is captured up to the brace that closes it. -/
theorem capture?_escape (text rest : List Char) :
    capture? (escape ['\\', '}'] text ++ '}' :: rest) =
      some (⟨text, escape ['\\', '}'] text⟩, rest) := by
  induction text with
  | nil => exact capture?_close rest
  | cons c text ih =>
    rw [escape_cons]
    by_cases hc : c ∈ ['\\', '}']
    · rw [if_pos hc]
      have hmark : c = '}' ∨ c = '\\' := by simpa [or_comm] using hc
      simp [capture?, ih, consEscape, hmark]
    · rw [if_neg hc]
      have hplain : c ≠ '\\' ∧ c ≠ '}' := by simpa using hc
      simp [capture?, ih, cons, hplain]

/-- Arguments are captured exactly. Nothing is captured if and only if each brace has an odd number of
backslashes before it. Otherwise the argument ends at the first brace that has an even number of them,
its value is what it says without its escapes, and the rest follows. With a backslash before each of its
braces and backslashes every text comes back as it was. -/
theorem capture?_exact (text : List Char) :
    (capture? text = none ↔
      ∀ before after, text = before ++ '}' :: after → ¬Even (backslashes before)) ∧
    (∀ a after, capture? text = some (a, after) ↔
      text = a.raw ++ '}' :: after ∧ Even (backslashes a.raw) ∧
        (∀ early late, a.raw = early ++ '}' :: late → ¬Even (backslashes early)) ∧
        a.value = resolve a.raw) ∧
    ∀ rest, capture? (escape ['\\', '}'] text ++ '}' :: rest) =
      some (⟨text, escape ['\\', '}'] text⟩, rest) := by
  refine ⟨capture?_eq_none_iff, fun a after ↦ ?_, capture?_escape text⟩
  rw [capture?_eq_some_iff]
  exact ⟨fun ⟨htext, hraw, hvalue⟩ ↦ ⟨htext, hraw.closes, hraw.first, hvalue⟩,
    fun ⟨htext, hcloses, hfirst, hvalue⟩ ↦ ⟨htext, ⟨hcloses, hfirst⟩, hvalue⟩⟩

end Argument

/-! ## Texts of pieces -/

/-- An argument between its braces, as it was written. -/
def Argument.text : Option Argument → List Char
  | none => []
  | some a => '\x7b' :: a.raw ++ ['}']

/-- What a piece was read from. -/
def Piece.text : Piece → List Char
  | literal c => [c]
  | unclosed => ['%', '\x7b']
  | directive letter argument => '%' :: Argument.text argument ++ [letter]
  | dangling argument => '%' :: Argument.text argument

/-- The piece without its argument, if it is a directive. -/
def Piece.bare : Piece → Piece
  | directive letter _ => directive letter none
  | piece => piece

/-- A character that neither ends a template nor has one behind it as a percent sign is none. -/
theorem ne_percent {c : Char} {rest : List Char} (hend : c = '%' → rest = [] → False)
    (hletter : ∀ letter tail, c = '%' → rest = letter :: tail → False) : c ≠ '%' := by
  intro hc
  cases rest with
  | nil => exact hend hc rfl
  | cons letter tail => exact hletter letter tail hc rfl

/-- A template is made of its pieces. -/
theorem flatMap_text_pieces (template : List Char) :
    (pieces template).flatMap Piece.text = template := by
  fun_induction pieces template with
  | case1 => rfl
  | case2 rest hcapture ih => simp [Piece.text, ih]
  | case3 rest a hcapture =>
    simp [Piece.text, Argument.text, Argument.capture?_eq_some hcapture]
  | case4 rest a letter after hcapture hlength ih =>
    simp [Piece.text, Argument.text, Argument.capture?_eq_some hcapture, ih]
  | case5 => rfl
  | case6 letter rest hbrace ih => simp [Piece.text, Argument.text, ih]
  | case7 c rest hbrace hend hletter ih => simp [Piece.text, ih]

/-- The argument of a directive ends at the first brace that closes. -/
theorem isRaw_of_mem_pieces {template : List Char} {letter : Char} {a : Argument}
    (h : .directive letter (some a) ∈ pieces template) : Argument.IsRaw a.raw := by
  fun_induction pieces template with
  | case1 => simp at h
  | case2 rest hcapture ih => exact ih (by simpa using h)
  | case3 rest captured hcapture => simp at h
  | case4 rest captured letter' after hcapture hlength ih =>
    obtain heq | hlater := List.mem_cons.1 h
    · cases heq
      exact (Argument.isRaw_of_capture? hcapture).1
    · exact ih hlater
  | case5 => simp at h
  | case6 letter' rest hbrace ih => exact ih (by simpa using h)
  | case7 c rest hbrace hend hletter ih => exact ih (by simpa using h)

/-- Where no brace closes, no directive has an argument. -/
theorem directive_not_mem_of_neverCloses {template : List Char} (h : NeverCloses template)
    (letter : Char) (a : Argument) : .directive letter (some a) ∉ pieces template := by
  intro hmem
  obtain ⟨early, late, hsplit⟩ := List.append_of_mem hmem
  have htext : template = (early.flatMap Piece.text ++ ['%']) ++
      '\x7b' :: (a.raw ++ '}' :: letter :: late.flatMap Piece.text) := by
    conv_lhs => rw [← flatMap_text_pieces template, hsplit]
    simp [Piece.text, Argument.text]
  have hnever : NeverCloses (a.raw ++ '}' :: letter :: late.flatMap Piece.text) :=
    (htext ▸ h).of_append_cons (by decide)
  exact hnever _ _ rfl (isRaw_of_mem_pieces hmem).closes

end ProgressActions.Template
