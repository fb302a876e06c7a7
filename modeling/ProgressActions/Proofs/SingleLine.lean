import ProgressActions.Archive.Host
import ProgressActions.Calendar.Text
import ProgressActions.Host.Scripted
import ProgressActions.Template.Piece

/-!
# Texts without a carriage return

Whatever a rendering makes up itself stays on the line: numerals, times and totals hold no carriage
return unless the template puts one into a pattern or into a label. Values of arguments, patterns of
times and labels of totals hold no characters that their arguments do not hold.
-/

namespace ProgressActions

/-! ## Numbers -/

namespace Text

@[simp] theorem return_not_mem_numeral (n : Nat) : '\r' ∉ numeral n := by
  intro h
  have hdigit : Char.isDigit '\r' = true :=
    Nat.isDigit_of_mem_toDigits (by decide) (by decide) h
  exact absurd hdigit (by decide)

@[simp] theorem return_not_mem_padStart {width : Nat} {fill : Char} {text : List Char}
    (hfill : '\r' ≠ fill) (htext : '\r' ∉ text) : '\r' ∉ padStart width fill text := by
  simp [padStart, List.mem_replicate, hfill, htext]

@[simp] theorem return_not_mem_paddedNumeral (width n : Nat) : '\r' ∉ paddedNumeral width n :=
  return_not_mem_padStart (by decide) (return_not_mem_numeral n)

/-- A name that is looked up is one of the list, or no name at all. -/
theorem return_not_mem_getD {names : List String} (h : ∀ name ∈ names, '\r' ∉ name.toList)
    (index : Nat) : '\r' ∉ (names.getD index "").toList := by
  rw [List.getD_eq_getElem?_getD]
  cases hname : names[index]? with
  | none => simp
  | some name => exact h name (List.mem_of_getElem? hname)

end Text

namespace Number

theorem return_not_mem_fixedPlaces (places : Nat) (q : Rat) : '\r' ∉ fixedPlaces places q := by
  have hdigits : ∀ n, '\r' ∉ Nat.toDigits 10 n := Text.return_not_mem_numeral
  unfold fixedPlaces
  dsimp only
  split
  · exact hdigits _
  · simp [List.mem_replicate, hdigits]

@[simp] theorem return_not_mem_fixed (places : Nat) (x : Double) : '\r' ∉ x.fixed places := by
  cases x with
  | nan => simp [Double.fixed]
  | infinite negative => cases negative <;> simp [Double.fixed]
  | finite value =>
    simp only [Double.fixed]
    split <;> simp [return_not_mem_fixedPlaces]

end Number

/-! ## Times -/

namespace Calendar

open Text

variable (padding : Padding)

theorem return_not_mem_nameText {names : List String} (h : ∀ name ∈ names, '\r' ∉ name.toList)
    (index : Nat) (short : Bool) : '\r' ∉ nameText names index short := by
  have hname := return_not_mem_getD h index
  unfold nameText
  dsimp only
  split
  · exact fun hmem ↦ hname (List.mem_of_mem_take hmem)
  · exact hname

@[simp] theorem return_not_mem_fieldText (width n : Nat) : '\r' ∉ fieldText width padding n := by
  cases padding <;> simp [fieldText]

/-- A number is counted on from the digit zero, which lies beyond the carriage return. -/
@[simp] theorem return_not_mem_pairText (n : Nat) : '\r' ∉ pairText padding n := by
  have hshown : ∀ k < 26, '\r' ≠ Char.ofNat (48 + k) := by decide
  have hunits := hshown (n % 256 % 10) (by omega)
  have htens := hshown (n % 256 / 10) (by omega)
  cases padding with
  | none =>
    simp only [pairText]
    split <;> simp [hunits, htens]
  | space =>
    simp only [pairText]
    split <;> simp [hunits, htens]
  | zero => simp [pairText, hunits, htens]

@[simp] theorem return_not_mem_yearText (year : Int) : '\r' ∉ yearText padding year := by
  have hsign : ('\r' : Char) ≠ if year < 0 then '-' else '+' := by split <;> decide
  unfold yearText
  dsimp only
  split
  · exact return_not_mem_fieldText padding 4 _
  · cases padding <;> simp [hsign]

theorem return_not_mem_numberText (t : LocalTime) (field : Field) :
    '\r' ∉ numberText t field padding := by
  cases field <;> simp [numberText]

theorem return_not_mem_fractionText (count nanosecond : Nat) :
    '\r' ∉ fractionText count nanosecond :=
  return_not_mem_paddedNumeral _ _

theorem return_not_mem_offsetText (style : OffsetStyle) (offset : Int) :
    '\r' ∉ offsetText style offset := by
  have hsign : ('\r' : Char) ≠ if offset < 0 then '-' else '+' := by split <;> decide
  cases style with
  | shortest =>
    simp only [offsetText]
    split <;> simp [hsign]
  | _ => simp [offsetText, hsign]

/-- Only a literal item can bring in a carriage return. -/
theorem return_not_mem_itemText? {t : LocalTime} {item : Item} (h : item ≠ .literal '\r')
    {text : List Char} (htext : itemText? t item = some text) : '\r' ∉ text := by
  cases item with
  | literal c =>
    cases htext
    simpa [eq_comm] using h
  | number field padding =>
    cases htext
    exact return_not_mem_numberText padding t field
  | monthName short =>
    cases htext
    exact return_not_mem_nameText (by decide) _ short
  | weekdayName short =>
    cases htext
    exact return_not_mem_nameText (by decide) _ short
  | halfDay capital =>
    cases htext
    cases t.isAfternoon <;> cases capital <;> decide +kernel
  | fraction =>
    simp only [itemText?] at htext
    split at htext <;> cases htext <;> simp [return_not_mem_fractionText]
  | fractionDigits count point =>
    cases htext
    cases point <;> simp [return_not_mem_fractionText]
  | offset style =>
    cases htext
    exact return_not_mem_offsetText style t.offset
  | unwritable => cases htext

theorem return_not_mem_itemsText? {t : LocalTime} {items : List Item} (h : .literal '\r' ∉ items)
    {text : List Char} (htext : itemsText? t items = some text) : '\r' ∉ text := by
  induction items generalizing text with
  | nil =>
    cases htext
    simp
  | cons item rest ih =>
    obtain ⟨hitem, hrest⟩ := List.ne_and_not_mem_of_not_mem_cons h
    obtain ⟨first, hfirst, hmap⟩ := Option.bind_eq_some_iff.1 htext
    obtain ⟨second, hsecond, rfl⟩ := Option.map_eq_some_iff.1 hmap
    have hhead := return_not_mem_itemText? (Ne.symm hitem) hfirst
    simpa [hhead] using ih hrest hsecond

theorem return_not_mem_ofLetter? {c : Char} {items : List Item}
    (h : Item.ofLetter? c = some items) : .literal '\r' ∉ items := by
  unfold Item.ofLetter? at h
  split at h <;> cases h <;> decide

/-- A directive of a pattern stands for no carriage return. -/
theorem return_not_mem_directive? {text : List Char} {items : List Item} {length : Nat}
    (h : Item.directive? text = some (items, length)) : .literal '\r' ∉ items := by
  unfold Item.directive? at h
  split at h
  case h_1 | h_2 | h_3 | h_4 | h_6 => cases h; decide
  case h_5 =>
    obtain ⟨n, -, heq⟩ := Option.map_eq_some_iff.1 h
    cases heq
    simp
  case h_7 c rest _ _ _ _ _ _ =>
    -- After a modifier, a number; otherwise digits of the fraction, a number, or a letter.
    split at h
    · obtain ⟨n, -, heq⟩ := Option.map_eq_some_iff.1 h
      cases heq
      simp
    · cases h
    · split at h
      · cases h
        simp
      · split at h
        · cases h
          simp
        · obtain ⟨letters, hletters, heq⟩ := Option.map_eq_some_iff.1 h
          cases heq
          exact return_not_mem_ofLetter? hletters
  case h_8 => cases h

/-- A pattern without a carriage return has no item for one. -/
theorem return_not_mem_parsePattern? {pattern : List Char} (hpattern : '\r' ∉ pattern)
    {items : List Item} (h : parsePattern? pattern = some items) : .literal '\r' ∉ items := by
  fun_induction parsePattern? pattern generalizing items with
  | case1 =>
    cases h
    simp
  | case2 rest hnone => cases h
  | case3 rest head length hdirective ih =>
    obtain ⟨tail, htail, rfl⟩ := Option.map_eq_some_iff.1 h
    have hrest : '\r' ∉ rest.drop length := fun hmem ↦
      hpattern (List.mem_cons_of_mem _ (List.mem_of_mem_drop hmem))
    simpa [return_not_mem_directive? hdirective] using ih hrest htail
  | case4 c rest hplain ih =>
    obtain ⟨tail, htail, rfl⟩ := Option.map_eq_some_iff.1 h
    obtain ⟨hc, hrest⟩ := List.ne_and_not_mem_of_not_mem_cons hpattern
    simpa [hc] using ih hrest htail

/-- A time without a return in its pattern is on a single line. -/
theorem return_not_mem_timeText? {pattern : List Char} (hpattern : '\r' ∉ pattern)
    {now : Option LocalTime} {text : List Char} (h : timeText? pattern now = some text) :
    '\r' ∉ text := by
  unfold timeText? at h
  split at h
  · rename_i items t hitems
    exact return_not_mem_itemsText? (return_not_mem_parsePattern? hpattern hitems) h
  · cases h
    decide

end Calendar

/-! ## Totals -/

namespace Size

theorem return_not_mem_mantissa (value : Number.Double) (unit : Nat) :
    '\r' ∉ mantissa value unit := by
  simp only [mantissa]
  split <;> simp

theorem return_not_mem_human (count : Number.Double) : '\r' ∉ human count := by
  have hunit : '\r' ∉ (unitNames.getD (scaled count).2 "").toList :=
    Text.return_not_mem_getD (by decide) _
  simpa [human, return_not_mem_mantissa] using hunit

theorem return_not_mem_rate (count : Nat) (elapsed : Duration) : '\r' ∉ rate count elapsed := by
  unfold rate
  split
  · decide
  · exact return_not_mem_human _

theorem return_not_mem_labelled {label text : List Char} (hlabel : '\r' ∉ label)
    (htext : '\r' ∉ text) : '\r' ∉ labelled label text := by
  unfold labelled
  split <;> simp [hlabel, htext]

/-- A figure is on a single line if its label is. -/
theorem return_not_mem_figure {label : List Char} (hlabel : '\r' ∉ label) (count : Nat)
    (elapsed : Duration) : '\r' ∉ figure label count elapsed :=
  return_not_mem_labelled hlabel (by simp [return_not_mem_human, return_not_mem_rate])

theorem return_not_mem_plainFigure {label : List Char} (hlabel : '\r' ∉ label) (count : Nat) :
    '\r' ∉ plainFigure label count := by
  unfold plainFigure
  split
  · simp
  · exact return_not_mem_labelled hlabel (by simp)

end Size

namespace Template

/-- Labels without a carriage return. -/
structure Labels.IsSingleLine (l : Labels) : Prop where
  read : '\r' ∉ l.read.toList
  written : '\r' ∉ l.written.toList
  deleted : '\r' ∉ l.deleted.toList

theorem Labels.isSingleLine_default : ({} : Labels).IsSingleLine where
  read := by decide
  written := by decide
  deleted := by decide

/-- Words on a single line make labels on a single line. -/
theorem Labels.isSingleLine_ofWords {words : List String} (h : ∀ word ∈ words, '\r' ∉ word.toList) :
    (ofWords words).IsSingleLine := by
  match words with
  | [] => exact isSingleLine_default
  | [r] => exact { isSingleLine_default with read := h r (by simp) }
  | [r, w] =>
    exact { isSingleLine_default with read := h r (by simp), written := h w (by simp) }
  | r :: w :: d :: _ => exact ⟨h r (by simp), h w (by simp), h d (by simp)⟩

theorem flatten_consFirst (c : Char) (words : List (List Char)) :
    (consFirst c words).flatten = c :: words.flatten := by
  cases words <;> rfl

theorem flatten_sublist_of_map_consFirst {c : Char} {rest : List Char}
    {found : Option (List (List Char))}
    (hfound : ∀ {words}, found = some words → words.flatten.Sublist rest)
    {words : List (List Char)} (h : found.map (consFirst c) = some words) :
    words.flatten.Sublist (c :: rest) := by
  obtain ⟨inner, hinner, rfl⟩ := Option.map_eq_some_iff.1 h
  rw [flatten_consFirst]
  exact (hfound hinner).cons_cons c

/-- The words of a text are what is left of it without its quotes, commas and escapes. -/
theorem flatten_sublist_of_words? {quote : Option Quote} {text : List Char}
    {words : List (List Char)} (h : words? quote text = some words) :
    words.flatten.Sublist text := by
  fun_induction words? quote text generalizing words with
  | case1 =>
    cases h
    exact List.Sublist.refl []
  | case2 => cases h
  | case3 rest ih => exact (ih h).cons _
  | case4 c rest _ ih => exact flatten_sublist_of_map_consFirst ih h
  | case5 quote c rest _ ih => exact (flatten_sublist_of_map_consFirst ih h).cons _
  | case6 quote _ ih => exact flatten_sublist_of_map_consFirst ih h
  | case7 rest _ _ ih => exact (ih h).cons _
  | case8 c rest _ _ _ ih => exact flatten_sublist_of_map_consFirst ih h
  | case9 c rest _ _ mark _ ih => exact (ih h).cons _
  | case10 rest _ _ _ ih =>
    obtain ⟨later, hlater, rfl⟩ := Option.map_eq_some_iff.1 h
    exact (ih hlater).cons _
  | case11 c rest _ _ _ _ ih => exact flatten_sublist_of_map_consFirst ih h

/-- Labels from a single line are on a single line. -/
theorem return_not_mem_splitLabels {argument : List Char} (hargument : '\r' ∉ argument)
    {labels : List String} (h : splitLabels argument = .ok labels) :
    ∀ label ∈ labels, '\r' ∉ label.toList := by
  unfold splitLabels at h
  split at h
  · cases h
    simp
  · split at h
    · cases h
    · rename_i words hwords
      split at h
      · cases h
      · cases h
        simp only [List.mem_map]
        rintro label ⟨word, hword, rfl⟩ hreturn
        rw [String.toList_ofList] at hreturn
        exact hargument ((flatten_sublist_of_words? hwords).mem
          (List.mem_flatten_of_mem hword hreturn))

/-- The value of an argument is what is left of its text without escapes. -/
theorem Argument.value_sublist_raw {text after : List Char} {a : Argument}
    (h : capture? text = some (a, after)) : a.value.Sublist a.raw := by
  fun_induction capture? text generalizing a after with
  | case1 => cases h
  | case2 rest =>
    cases h
    exact List.Sublist.refl []
  | case3 c rest ih =>
    obtain ⟨⟨inner, tail⟩, hinner, heq⟩ := Option.map_eq_some_iff.1 h
    cases heq
    have hescaped := (ih hinner).cons_cons c
    unfold consEscape
    split
    · exact hescaped.cons '\\'
    · exact hescaped.cons_cons '\\'
  | case4 c rest _ _ ih =>
    obtain ⟨⟨inner, tail⟩, hinner, heq⟩ := Option.map_eq_some_iff.1 h
    cases heq
    exact (ih hinner).cons_cons c

def Piece.argument? : Piece → Option Argument
  | directive _ argument => argument
  | dangling argument => argument
  | _ => none

/-- The pieces of a template carry arguments as they are captured. -/
theorem value_sublist_raw_of_mem_pieces {template : List Char} {piece : Piece}
    (hpiece : piece ∈ pieces template) {a : Argument} (ha : piece.argument? = some a) :
    a.value.Sublist a.raw := by
  fun_induction pieces template with
  | case1 => cases hpiece
  | case2 rest _ ih =>
    obtain rfl | hlater := List.mem_cons.1 hpiece
    · cases ha
    · exact ih hlater
  | case3 rest captured hcapture =>
    cases List.mem_singleton.1 hpiece
    cases ha
    exact Argument.value_sublist_raw hcapture
  | case4 rest captured letter after hcapture _ ih =>
    obtain rfl | hlater := List.mem_cons.1 hpiece
    · cases ha
      exact Argument.value_sublist_raw hcapture
    · exact ih hlater
  | case5 =>
    cases List.mem_singleton.1 hpiece
    cases ha
  | case6 letter rest _ ih =>
    obtain rfl | hlater := List.mem_cons.1 hpiece
    · cases ha
    · exact ih hlater
  | case7 c rest _ _ _ ih =>
    obtain rfl | hlater := List.mem_cons.1 hpiece
    · cases ha
    · exact ih hlater

end Template

/-! ## Hosts -/

/-- A host that brings no carriage return into its totals: only a label or the separator can. -/
class Host.SingleLine (σ : Type) [Host σ] : Prop where
  totals : ∀ (host : σ) {labels : Template.Labels} {separator : Char} {text : String},
    labels.IsSingleLine → separator ≠ '\r' → Host.totals host labels separator = .ok text →
      '\r' ∉ text.toList

instance ScriptedHost.singleLine : Host.SingleLine ScriptedHost where
  totals host labels separator text hlabels _ h := by
    have htext : host.unlessFailing (totalsText labels) = .ok text := h
    unfold unlessFailing at htext
    split at htext
    · cases htext
    · cases htext
      simp [totalsText, hlabels.read, hlabels.written, hlabels.deleted]

instance Archive.singleLine {μ : Type} [Launch.Place μ] : Host.SingleLine (Archive μ) where
  totals a labels separator text hlabels hseparator h := by
    have hread := Size.return_not_mem_figure hlabels.read a.bytesRead a.elapsed
    have hwritten := Size.return_not_mem_figure hlabels.written a.bytesWritten a.elapsed
    have hdeleted := Size.return_not_mem_plainFigure hlabels.deleted a.bytesDeleted
    cases h
    rw [String.toList_ofList]
    unfold totalsText
    cases a.mode <;> simp [hread, hwritten, hdeleted, hseparator.symm]

end ProgressActions
