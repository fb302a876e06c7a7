import Mathlib.Data.List.DropRight
import ProgressActions.Proofs.SpecGrammar

/-!
# What names a signal

The text of a wait names a signal by a number of 32 bits or by a name, and by nothing else. Blanks
around it do not count. What reads as a number is never taken for a name, also where no signal has
that number; the letters of a name may be of either case, and `SIG` may be left out once.
-/

namespace ProgressActions

namespace Text

/-! ## Blanks at the ends -/

/-- A text is what remains of another one without the blanks at its two ends. -/
structure IsTrimmed (text inner : List Char) : Prop where
  outer : ∃ front back, text = front ++ inner ++ back ∧
    (∀ c ∈ front, isBlank c = true) ∧ ∀ c ∈ back, isBlank c = true
  head : ∀ c ∈ inner.head?, isBlank c = false
  last : ∀ c ∈ inner.getLast?, isBlank c = false

theorem trimEnd_eq_rdropWhile (text : List Char) : trimEnd text = text.rdropWhile isBlank := rfl

theorem trimEnd_append {back : List Char} (h : ∀ c ∈ back, isBlank c = true) (text : List Char) :
    trimEnd (text ++ back) = trimEnd text := by
  have hback : ∀ c ∈ back.reverse, isBlank c = true := fun c hc ↦ h c (List.mem_reverse.1 hc)
  rw [trimEnd, List.reverse_append, List.dropWhile_append_of_pos hback, trimEnd]

theorem trimEnd_eq_self {text : List Char} (h : ∀ c ∈ text.getLast?, isBlank c = false) :
    trimEnd text = text := by
  rw [trimEnd_eq_rdropWhile, List.rdropWhile_eq_self_iff]
  intro hsome
  have hlast := h _ (List.getLast?_eq_some_getLast hsome)
  simp [hlast]

theorem dropWhile_isBlank_eq_self {text : List Char} (h : ∀ c ∈ text.head?, isBlank c = false) :
    text.dropWhile isBlank = text := by
  cases text with
  | nil => rfl
  | cons c rest =>
    have hc := h c rfl
    rw [List.dropWhile_cons_of_neg (by simp [hc])]

theorem isTrimmed_trim (text : List Char) : IsTrimmed text (trim text) := by
  have hfront := List.takeWhile_append_dropWhile (p := isBlank) (l := text)
  have hback := List.rdropWhile_append_rtakeWhile (p := isBlank) (l := text.dropWhile isBlank)
  refine ⟨⟨text.takeWhile isBlank, (text.dropWhile isBlank).rtakeWhile isBlank, ?_,
    fun c hc ↦ List.mem_takeWhile_imp hc, fun c hc ↦ ?_⟩, fun c hc ↦ ?_, fun c hc ↦ ?_⟩
  · rw [List.append_assoc, trim, trimEnd_eq_rdropWhile, hback, hfront]
  · rw [List.rtakeWhile, List.mem_reverse] at hc
    exact List.mem_takeWhile_imp hc
  · -- What is left at the front of the rest has not been dropped from it.
    have hprefix : trim text <+: text.dropWhile isBlank := List.rdropWhile_prefix _ _
    have hhead : (text.dropWhile isBlank).head? = some c := by
      obtain ⟨rest, hrest⟩ := hprefix
      rw [← hrest, List.head?_append, Option.mem_def.1 hc]
      rfl
    have hnot := List.head?_dropWhile_not isBlank text
    rw [hhead] at hnot
    exact hnot
  · have hsome : trim text ≠ [] := by
      intro hnil
      rw [hnil] at hc
      cases hc
    have hlast := List.rdropWhile_last_not isBlank (text.dropWhile isBlank) hsome
    rw [Option.mem_def, List.getLast?_eq_some_getLast hsome, Option.some.injEq] at hc
    rw [← hc]
    exact Bool.eq_false_iff.2 hlast

/-- Without its outer blanks a text is one text only. -/
theorem IsTrimmed.trim_eq {text inner : List Char} (h : IsTrimmed text inner) : trim text = inner := by
  obtain ⟨⟨front, back, rfl, hfront, hback⟩, hhead, hlast⟩ := h
  rw [trim, List.append_assoc, List.dropWhile_append_of_pos hfront]
  cases inner with
  | nil =>
    have hnone : back.dropWhile isBlank = [] := List.dropWhile_eq_nil_iff.2 hback
    rw [List.nil_append, hnone]
    rfl
  | cons c rest =>
    have hkept : (c :: rest ++ back).dropWhile isBlank = c :: rest ++ back :=
      dropWhile_isBlank_eq_self hhead
    rw [hkept, trimEnd_append hback, trimEnd_eq_self hlast]

/-- There is one way to trim a text. -/
theorem isTrimmed_iff {text inner : List Char} : IsTrimmed text inner ↔ inner = trim text :=
  ⟨fun h ↦ h.trim_eq.symm, fun h ↦ h ▸ isTrimmed_trim text⟩

/-! ## Numbers with a sign -/

/-- A text is a decimal number of 32 bits: a row of digits, which may begin with zeros, and perhaps a
sign in front. -/
structure IsDecimal32 (text : List Char) (n : Int) : Prop where
  form : ∃ sign digits, text = sign ++ digits ∧ digits ≠ [] ∧ (∀ d ∈ digits, d.isDigit = true) ∧
    ((sign = [] ∨ sign = ['+']) ∧ n = Nat.ofDigitChars 10 digits 0 ∨
      sign = ['-'] ∧ n = -(Nat.ofDigitChars 10 digits 0 : Int))
  lower : -2 ^ 31 ≤ n
  upper : n < 2 ^ 31

/-- A row of digits is read as the number it spells. -/
theorem natural?_eq_some_iff {digits : List Char} {n : Nat} :
    natural? digits = some n ↔
      digits ≠ [] ∧ (∀ d ∈ digits, d.isDigit = true) ∧ Nat.ofDigitChars 10 digits 0 = n := by
  have hvalue : digitsValue digits = Nat.ofDigitChars 10 digits 0 := rfl
  rw [natural?, Option.ite_none_right_eq_some, Option.some.injEq, hvalue]
  simp [isNumeral, and_assoc]

/-- A number of 32 bits is read if and only if it is there. -/
theorem signed32?_eq_some_iff {text : List Char} {n : Int} :
    signed32? text = some n ↔ IsDecimal32 text n := by
  have hrange : ((-2147483648 ≤ n && n ≤ 2147483647) = true) ↔ -2 ^ 31 ≤ n ∧ n < 2 ^ 31 := by
    simp
    omega
  have hcast (digits : List Char) :
      (natural? digits >>= fun m ↦ pure (m : Int)) = (natural? digits).map Int.ofNat := by
    cases natural? digits <;> rfl
  unfold signed32?
  rw [Option.filter_eq_some_iff, hrange]
  constructor
  · rintro ⟨hread, hlower, hupper⟩
    refine ⟨?_, hlower, hupper⟩
    split at hread <;> rw [hcast, Option.map_map] at hread <;>
      obtain ⟨m, hm, rfl⟩ := Option.map_eq_some_iff.1 hread <;>
      obtain ⟨hsome, hdigits, rfl⟩ := natural?_eq_some_iff.1 hm
    · exact ⟨['-'], _, rfl, hsome, hdigits, .inr ⟨rfl, rfl⟩⟩
    · exact ⟨['+'], _, rfl, hsome, hdigits, .inl ⟨.inr rfl, rfl⟩⟩
    · exact ⟨[], _, rfl, hsome, hdigits, .inl ⟨.inl rfl, rfl⟩⟩
  · rintro ⟨⟨sign, digits, rfl, hsome, hdigits, hvalue⟩, hlower, hupper⟩
    refine ⟨?_, hlower, hupper⟩
    have hread : natural? digits = some (Nat.ofDigitChars 10 digits 0) :=
      natural?_eq_some_iff.2 ⟨hsome, hdigits, rfl⟩
    obtain ⟨rfl | rfl, rfl⟩ | ⟨rfl, rfl⟩ := hvalue
    · -- Without a sign the first digit is none either.
      rw [List.nil_append]
      split
      · exact absurd (hdigits '-' List.mem_cons_self) (by decide)
      · exact absurd (hdigits '+' List.mem_cons_self) (by decide)
      · rw [hcast, hread]
        rfl
    · simp [hread]
    · simp [hread]

/-! ## Letter case -/

/-- Only small letters have another capital. -/
theorem toNat_toUpper (c : Char) :
    c.toUpper.toNat = if 97 ≤ c.toNat ∧ c.toNat ≤ 122 then c.toNat - 32 else c.toNat := by
  unfold Char.toUpper
  split <;> rename_i h <;> simp only [UInt32.le_iff_toNat_le, Char.reduceVal] at h
  · have hsmall : 97 ≤ c.toNat ∧ c.toNat ≤ 122 := h
    rw [if_pos hsmall]
    change (c.val + ('A'.val - 'a'.val)).toNat = c.toNat - 32
    rw [UInt32.toNat_add]
    change (c.toNat + 4294967264) % 4294967296 = _
    omega
  · exact (if_neg h).symm

theorem toNat_toLower (c : Char) :
    c.toLower.toNat = if 65 ≤ c.toNat ∧ c.toNat ≤ 90 then c.toNat + 32 else c.toNat := by
  unfold Char.toLower
  split <;> rename_i h <;> simp only [ge_iff_le, UInt32.le_iff_toNat_le, Char.reduceVal] at h
  · have hcapital : 65 ≤ c.toNat ∧ c.toNat ≤ 90 := h
    rw [if_pos hcapital]
    change (c.val + ('a'.val - 'A'.val)).toNat = c.toNat + 32
    rw [UInt32.toNat_add]
    change (c.toNat + 32) % 4294967296 = _
    omega
  · exact (if_neg h).symm

/-- Capitals are equal where small letters are. -/
theorem toUpper_eq_toUpper_iff {c d : Char} : c.toUpper = d.toUpper ↔ c.toLower = d.toLower := by
  rw [← Char.toNat_inj, ← Char.toNat_inj, toNat_toUpper, toNat_toUpper, toNat_toLower, toNat_toLower]
  split_ifs <;> omega

/-- Two texts are the same but for the case of ASCII letters. -/
def EqButCase (first second : List Char) : Prop := first.map Char.toLower = second.map Char.toLower

/-- Two texts are equal but for case if their capitals are. -/
theorem eqButCase_iff {first second : List Char} :
    EqButCase first second ↔ first.map Char.toUpper = second.map Char.toUpper := by
  unfold EqButCase
  induction first generalizing second with
  | nil => cases second <;> simp
  | cons c rest ih =>
    cases second with
    | nil => simp
    | cons d others => simp only [List.map_cons, List.cons.injEq, ih, toUpper_eq_toUpper_iff]

end Text

namespace Signal

/-! ## Numbers and names -/

/-- A search through all signals finds the one with a mark, if no two have the same mark. -/
theorem find?_all_eq_some_iff {α : Type} [BEq α] [LawfulBEq α] {mark : Signal → α}
    (h : Function.Injective mark) {wanted : α} {s : Signal} :
    (all.find? fun t ↦ mark t == wanted) = some s ↔ mark s = wanted := by
  constructor
  · intro hfound
    simpa using List.find?_some hfound
  · rintro rfl
    cases hsearch : all.find? fun t ↦ mark t == mark s with
    | none =>
      have hnone := List.find?_eq_none.1 hsearch s (mem_all s)
      simp at hnone
    | some t =>
      have hmark : mark t = mark s := by simpa using List.find?_some hsearch
      rw [h hmark]

theorem number_injective : Function.Injective number := by
  intro s t hst
  have hall : ∀ s ∈ all, ∀ t ∈ all, s.number = t.number → s = t := by decide +kernel
  exact hall s (mem_all s) t (mem_all t) hst

theorem fullName_injective : Function.Injective fullName := by
  intro s t hst
  have hall : ∀ s ∈ all, ∀ t ∈ all, s.fullName = t.fullName → s = t := by decide +kernel
  exact hall s (mem_all s) t (mem_all t) hst

/-- A signal is found by its number and no other. -/
theorem ofNumber?_eq_some_iff {n : Int} {s : Signal} :
    ofNumber? n = some s ↔ (s.number : Int) = n :=
  find?_all_eq_some_iff fun _ _ h ↦ number_injective (Int.ofNat.inj h)

theorem ofFullName?_eq_some_iff {name : List Char} {s : Signal} :
    ofFullName? name = some s ↔ s.fullName = name := find?_all_eq_some_iff fullName_injective

/-- The numbers of signals are those from 1 to 31. -/
theorem exists_number_iff {n : Int} : (∃ s : Signal, (s.number : Int) = n) ↔ 1 ≤ n ∧ n ≤ 31 := by
  constructor
  · rintro ⟨s, rfl⟩
    have hpos := s.number_pos
    have hle := s.number_le
    omega
  · rintro ⟨hpos, hle⟩
    have hmem : n.toNat ∈ all.map number := by
      rw [map_number_all, List.mem_range'_1]
      omega
    obtain ⟨s, -, hs⟩ := List.mem_map.1 hmem
    exact ⟨s, by omega⟩

/-- A text is the name of a signal, with `SIG` or without, in letters of either case. -/
def IsNamed (text : List Char) (s : Signal) : Prop :=
  Text.EqButCase text s.fullName ∨ Text.EqButCase text s.shortName.toList

theorem map_toUpper_shortName (s : Signal) :
    s.shortName.toList.map Char.toUpper = s.shortName.toList := by
  have hall : ∀ s ∈ all, s.shortName.toList.map Char.toUpper = s.shortName.toList := by
    decide +kernel
  exact hall s (mem_all s)

theorem map_toUpper_fullName (s : Signal) : s.fullName.map Char.toUpper = s.fullName := by
  have hopening : opening.map Char.toUpper = opening := by decide
  rw [fullName, List.map_append, hopening, map_toUpper_shortName]

/-- No name goes on with `SIG` behind its `SIG`. -/
theorem isPrefixOf_shortName (s : Signal) : opening.isPrefixOf s.shortName.toList = false := by
  have hall : ∀ s ∈ all, opening.isPrefixOf s.shortName.toList = false := by decide +kernel
  exact hall s (mem_all s)

/-- A completed name is the full name of a signal if and only if it names the signal. -/
theorem fullName_eq_completeName_iff {text : List Char} {s : Signal} :
    s.fullName = completeName text ↔ IsNamed text s := by
  rw [IsNamed, Text.eqButCase_iff, Text.eqButCase_iff, map_toUpper_fullName, map_toUpper_shortName,
    completeName]
  split
  · -- Only a full name opens with `SIG`.
    rename_i hopens
    refine ⟨fun h ↦ .inl h.symm, fun h ↦ ?_⟩
    obtain hfull | hshort := h
    · exact hfull.symm
    · rw [hshort, isPrefixOf_shortName] at hopens
      cases hopens
  · rename_i hopens
    refine ⟨fun h ↦ .inr (List.append_cancel_left h).symm, fun h ↦ ?_⟩
    obtain hfull | hshort := h
    · rw [hfull] at hopens
      exact absurd (List.isPrefixOf_iff_prefix.2 (List.prefix_append _ _)) hopens
    · rw [hshort, fullName]

/-- What names no signal is an error. -/
theorem decode_of_forall_ne {name : String} (h : ∀ s, decode name ≠ .ok s) :
    decode name = .error (.unknownSignal name) :=
  decode_eq_error_iff.2
    ⟨Option.eq_none_iff_forall_ne_some.2 fun s hs ↦ h s (decode_eq_ok_iff.2 hs), rfl⟩

/-- A number stands for the signal with that number. -/
theorem decode_eq_ok_iff_of_isDecimal32 {name : String} {n : Int}
    (h : Text.IsDecimal32 (Text.trim name.toList) n) {s : Signal} :
    decode name = .ok s ↔ (s.number : Int) = n := by
  rw [decode_eq_ok_iff, parse?, Text.signed32?_eq_some_iff.2 h]
  exact ofNumber?_eq_some_iff

/-- Everything else is looked up as a name. -/
theorem decode_eq_ok_iff_of_not_isDecimal32 {name : String}
    (h : ∀ n, ¬Text.IsDecimal32 (Text.trim name.toList) n) {s : Signal} :
    decode name = .ok s ↔ IsNamed (Text.trim name.toList) s := by
  have hnone : Text.signed32? (Text.trim name.toList) = none :=
    Option.eq_none_iff_forall_ne_some.2 fun n hn ↦ h n (Text.signed32?_eq_some_iff.1 hn)
  rw [decode_eq_ok_iff, parse?, hnone]
  exact ofFullName?_eq_some_iff.trans fullName_eq_completeName_iff

/-- Signals are named just so. Of the text only what stands between its outer blanks matters. If that
is a number of 32 bits, it names the signal with this number, and none unless the number is one from
1 to 31; otherwise it names the signals whose names it is, and there is at most one of them. A text
that names none is refused as it was given, and a wait is for what its text names. -/
theorem decode_exact (name : String) :
    ∃ inner, (∀ other, Text.IsTrimmed name.toList other ↔ other = inner) ∧
      (∀ n, Text.IsDecimal32 inner n →
        (∀ s, decode name = .ok s ↔ (s.number : Int) = n) ∧
        (1 ≤ n ∧ n ≤ 31 → ∃ s, decode name = .ok s) ∧
        (¬(1 ≤ n ∧ n ≤ 31) → decode name = .error (.unknownSignal name))) ∧
      ((∀ n, ¬Text.IsDecimal32 inner n) →
        (∀ s, decode name = .ok s ↔ IsNamed inner s) ∧
        ((∀ s, ¬IsNamed inner s) → decode name = .error (.unknownSignal name))) ∧
      (∀ cause, decode name = .error cause → cause = .unknownSignal name) ∧
      (∀ other : String, Text.IsTrimmed other.toList inner →
        (decode other).toOption = (decode name).toOption) ∧
      Action.parse (Action.withPayload "wait" name) = (decode name).map Action.wait := by
  refine ⟨Text.trim name.toList, fun other ↦ Text.isTrimmed_iff, fun n hn ↦ ?_, fun hnone ↦ ?_,
    fun cause hcause ↦ (decode_eq_error_iff.1 hcause).2, fun other hother ↦ ?_, ?_⟩
  · have hok (s : Signal) := decode_eq_ok_iff_of_isDecimal32 hn (s := s)
    refine ⟨hok, fun hrange ↦ ?_, fun hrange ↦ decode_of_forall_ne fun s hs ↦ hrange ?_⟩
    · obtain ⟨s, hs⟩ := exists_number_iff.2 hrange
      exact ⟨s, (hok s).2 hs⟩
    · exact exists_number_iff.1 ⟨s, (hok s).1 hs⟩
  · have hok (s : Signal) := decode_eq_ok_iff_of_not_isDecimal32 hnone (s := s)
    exact ⟨hok, fun hnamed ↦ decode_of_forall_ne fun s hs ↦ hnamed s ((hok s).1 hs)⟩
  · have hparse : parse? other.toList = parse? name.toList := parse?_eq_of_trim_eq hother.trim_eq
    unfold decode
    rw [hparse]
    cases parse? name.toList <;> rfl
  · rw [Action.parse_withPayload (by decide)]
    rfl

/-- A number with a sign, zeros and blanks, one that no signal has, and a name in letters of both
cases. -/
theorem decode_of_three_spellings :
    decode " +0010\n" = .ok usr1 ∧ decode "32" = .error (.unknownSignal "32") ∧
      decode "sIgTerm\t" = .ok term := by
  have htrim (name : String) {inner : List Char} (h : Text.trim name.toList = inner) :
      Text.IsTrimmed name.toList inner := Text.isTrimmed_iff.2 h.symm
  refine ⟨?_, ?_, ?_⟩
  · obtain ⟨inner, hinner, hnumber, -⟩ := decode_exact " +0010\n"
    obtain rfl := (hinner _).1 (htrim _ (by decide +kernel : _ = "+0010".toList))
    have hten : Text.IsDecimal32 "+0010".toList 10 :=
      Text.signed32?_eq_some_iff.1 (by decide +kernel)
    exact ((hnumber 10 hten).1 usr1).2 (by decide)
  · obtain ⟨inner, hinner, hnumber, -⟩ := decode_exact "32"
    obtain rfl := (hinner _).1 (htrim _ (by decide +kernel : _ = "32".toList))
    have htwo : Text.IsDecimal32 "32".toList 32 :=
      Text.signed32?_eq_some_iff.1 (by decide +kernel)
    exact (hnumber 32 htwo).2.2 (by decide)
  · obtain ⟨inner, hinner, -, hname, -⟩ := decode_exact "sIgTerm\t"
    obtain rfl := (hinner _).1 (htrim _ (by decide +kernel : _ = "sIgTerm".toList))
    have hnone : ∀ n, ¬Text.IsDecimal32 "sIgTerm".toList n := by
      intro n hn
      have hread := Text.signed32?_eq_some_iff.2 hn
      rw [(by decide +kernel : Text.signed32? "sIgTerm".toList = none)] at hread
      cases hread
    exact ((hname hnone).1 term).2 (.inl (by unfold Text.EqButCase; decide +kernel))

end Signal

end ProgressActions
