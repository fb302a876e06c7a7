import ProgressActions.Action.Spec
import ProgressActions.Proofs.Unquoting

/-!
# The grammar of specs

A spec is a bare keyword, or a keyword with a payload behind the first `=`. A grammar lays down which
action each spec stands for, and which error a spec has that stands for none. Parsing follows both to
the letter. In return every action has a spec, unless its pause has too many seconds to be counted in
64 bits: a text is put in double quotes, with its backslashes doubled.
-/

namespace ProgressActions

open Text

/-- Every signal is named by its full name, its short name and its number. -/
theorem Signal.parse?_spelling (s : Signal) :
    parse? s.fullName = some s ∧ parse? s.shortName.toList = some s ∧
      parse? (numeral s.number) = some s := by
  have hall : ∀ s ∈ all, parse? s.fullName = some s ∧ parse? s.shortName.toList = some s ∧
      parse? (numeral s.number) = some s := by decide +kernel
  exact hall s (mem_all s)

namespace Action

/-! ## Keywords and payloads -/

def withPayload (keyword payload : String) : String := keyword ++ "=" ++ payload

theorem toList_withPayload (keyword payload : String) :
    (withPayload keyword payload).toList = keyword.toList ++ '=' :: payload.toList := by
  simp [withPayload]

/-- The payload begins after the first `=`. -/
theorem splitPayload?_append {keyword : List Char} (h : '=' ∉ keyword) (payload : List Char) :
    splitPayload? (keyword ++ '=' :: payload) = some (keyword, payload) := by
  have hplain : ∀ c ∈ keyword, (c != '=') = true := fun c hc ↦ by
    simpa using fun heq : c = '=' ↦ h (heq ▸ hc)
  have hdrop : (keyword ++ '=' :: payload).dropWhile (· != '=') = '=' :: payload := by
    rw [List.dropWhile_append_of_pos hplain]
    simp
  have htake : (keyword ++ '=' :: payload).takeWhile (· != '=') = keyword := by
    rw [List.takeWhile_append_of_pos hplain]
    simp
  rw [splitPayload?, hdrop, htake]

theorem splitPayload?_withPayload {keyword : String} (h : '=' ∉ keyword.toList) (payload : String) :
    splitPayload? (withPayload keyword payload).toList = some (keyword.toList, payload.toList) := by
  rw [toList_withPayload, splitPayload?_append h]

/-- The first `=` parts a spec in one way only. -/
theorem withPayload_inj {keyword other first second : String} (hkeyword : '=' ∉ keyword.toList)
    (hother : '=' ∉ other.toList) (h : withPayload keyword first = withPayload other second) :
    keyword = other ∧ first = second := by
  have hparts := splitPayload?_withPayload hkeyword first
  rw [h, splitPayload?_withPayload hother second] at hparts
  simpa [eq_comm, String.toList_inj] using hparts

/-- A spec with a `=` is not a bare keyword. -/
theorem ofKeyword?_withPayload (keyword payload : String) :
    ofKeyword? (withPayload keyword payload) = none := by
  have hplain (bare : String) (hbare : '=' ∉ bare.toList) : withPayload keyword payload ≠ bare := by
    intro heq
    apply hbare
    rw [← heq, toList_withPayload]
    simp
  have hpoint := hplain "." (by decide)
  have hdot := hplain "dot" (by decide)
  have hbell := hplain "bell" (by decide)
  have hecho := hplain "echo" (by decide)
  have htotals := hplain "totals" (by decide)
  simp [ofKeyword?, hpoint, hdot, hbell, hecho, htotals]

def textOf (payload : String) : String := String.ofList (unquote payload.toList)

/-- What a payload says as a number, if it is a row of digits. -/
def numberOf (payload : String) : Nat := Nat.ofDigitChars 10 payload.toList 0

structure IsSeconds (payload : String) : Prop where
  nonempty : payload ≠ ""
  digits : ∀ d ∈ payload.toList, d.isDigit = true
  short : numberOf payload < 2 ^ 64

theorem isNumeral_iff (payload : String) :
    isNumeral payload.toList = true ↔ payload ≠ "" ∧ ∀ d ∈ payload.toList, d.isDigit = true := by
  simp [isNumeral]

/-- A number of seconds is read as the number it spells. -/
theorem timeout?_of_isSeconds {payload : String} (h : IsSeconds payload) :
    timeout? payload.toList = some (numberOf payload) := by
  have hnumeral : isNumeral payload.toList = true := (isNumeral_iff payload).2 ⟨h.nonempty, h.digits⟩
  have hvalue : digitsValue payload.toList = numberOf payload := rfl
  have hword : numberOf payload ≤ maxWord := Nat.le_sub_one_of_lt h.short
  simp [timeout?, natural?, hnumeral, hvalue, hword]

theorem timeout?_of_not_isSeconds {payload : String} (h : ¬IsSeconds payload) :
    timeout? payload.toList = none := by
  rw [timeout?, Option.filter_eq_none_iff]
  intro n hn hword
  unfold natural? at hn
  split at hn
  · rename_i hnumeral
    cases hn
    obtain ⟨hsome, hdigits⟩ := (isNumeral_iff payload).1 hnumeral
    have hshort : numberOf payload ≤ maxWord := of_decide_eq_true hword
    exact h ⟨hsome, hdigits, Nat.lt_of_le_pred (by decide) hshort⟩
  · cases hn

/-- A spec with a payload is read by its keyword. -/
theorem parse_withPayload {keyword : String} (h : '=' ∉ keyword.toList) (payload : String) :
    parse (withPayload keyword payload) =
      if keyword = "echo" then .ok (.echoText (textOf payload))
      else if keyword = "exec" then .ok (.exec (textOf payload))
      else if keyword = "ttyout" then .ok (.ttyText (textOf payload))
      else if keyword = "sleep" then
        match timeout? payload.toList with
        | some seconds => .ok (.sleep seconds)
        | none => .error (.invalidTimeout (withPayload keyword payload))
      else if keyword = "wait" then (Signal.decode payload).map .wait
      else .error (.unknownAction (withPayload keyword payload)) := by
  have hread := parse.eq_def (withPayload keyword payload)
  rw [ofKeyword?_withPayload, splitPayload?_withPayload h] at hread
  simp only [String.toList_inj, textPayload, String.ofList_toList] at hread
  exact hread

/-! ## The grammar -/

inductive Denotes : String → Action → Prop where
  | point : Denotes "." .dot
  | dot : Denotes "dot" .dot
  | bell : Denotes "bell" .bell
  | echo : Denotes "echo" .echo
  | totals : Denotes "totals" .totals
  | echoText (payload : String) : Denotes (withPayload "echo" payload) (.echoText (textOf payload))
  | exec (payload : String) : Denotes (withPayload "exec" payload) (.exec (textOf payload))
  | ttyText (payload : String) : Denotes (withPayload "ttyout" payload) (.ttyText (textOf payload))
  | sleep {payload : String} : IsSeconds payload →
      Denotes (withPayload "sleep" payload) (.sleep (numberOf payload))
  | wait {payload : String} {signal : Signal} : Signal.parse? payload.toList = some signal →
      Denotes (withPayload "wait" payload) (.wait signal)

/-- The error that a spec has if it stands for nothing. -/
def Blames (spec : String) : SpecError → Prop
  | .invalidTimeout offender => offender = spec ∧ ∃ payload, spec = withPayload "sleep" payload
  | .unknownSignal name => spec = withPayload "wait" name
  | .unknownAction offender =>
    offender = spec ∧ ∀ payload, spec ≠ withPayload "sleep" payload ∧ spec ≠ withPayload "wait" payload

theorem denotes_of_ofKeyword? {spec : String} {action : Action} (h : ofKeyword? spec = some action) :
    Denotes spec action := by
  unfold ofKeyword? at h
  split_ifs at h with hdot hbell hecho htotals
  · cases h
    rcases hdot with rfl | rfl
    · exact .point
    · exact .dot
  · cases h
    exact hbell ▸ .bell
  · cases h
    exact hecho ▸ .echo
  · cases h
    exact htotals ▸ .totals

theorem parse_of_denotes {spec : String} {action : Action} (h : Denotes spec action) :
    parse spec = .ok action := by
  cases h with
  | echoText payload => rw [parse_withPayload (by decide), if_pos rfl]
  | exec payload => rw [parse_withPayload (by decide), if_neg (by decide), if_pos rfl]
  | ttyText payload =>
    rw [parse_withPayload (by decide), if_neg (by decide), if_neg (by decide), if_pos rfl]
  | sleep hseconds =>
    rw [parse_withPayload (by decide), timeout?_of_isSeconds hseconds]
    rfl
  | wait hsignal =>
    rw [parse_withPayload (by decide), Signal.decode_eq_ok_iff.2 hsignal]
    rfl
  | _ => rfl

/-- The first `=` of a spec parts it, if there is one. -/
theorem eq_withPayload_or_bare (spec : String) :
    (∃ keyword payload, '=' ∉ keyword.toList ∧ spec = withPayload keyword payload) ∨
      splitPayload? spec.toList = none := by
  cases hsplit : splitPayload? spec.toList with
  | none => exact .inr rfl
  | some parts =>
    obtain ⟨heq, hkeyword⟩ := splitPayload?_eq_some hsplit
    refine .inl ⟨String.ofList parts.1, String.ofList parts.2, by simpa using hkeyword, ?_⟩
    rw [← String.toList_inj, toList_withPayload, heq]
    simp

/-- A spec stands for an action, or it has an error; and so it is parsed. -/
theorem parse_cases (spec : String) :
    (∃ action, Denotes spec action ∧ parse spec = .ok action) ∨
      ∃ cause, Blames spec cause ∧ parse spec = .error cause := by
  obtain ⟨keyword, payload, hkeyword, rfl⟩ | hbare := eq_withPayload_or_bare spec
  · rw [parse_withPayload hkeyword]
    split_ifs with hecho hexec httyout hsleep hwait
    · exact .inl ⟨_, hecho ▸ .echoText payload, rfl⟩
    · exact .inl ⟨_, hexec ▸ .exec payload, rfl⟩
    · exact .inl ⟨_, httyout ▸ .ttyText payload, rfl⟩
    · subst hsleep
      by_cases hseconds : IsSeconds payload
      · rw [timeout?_of_isSeconds hseconds]
        exact .inl ⟨_, .sleep hseconds, rfl⟩
      · rw [timeout?_of_not_isSeconds hseconds]
        exact .inr ⟨.invalidTimeout _, ⟨rfl, payload, rfl⟩, rfl⟩
    · subst hwait
      cases hsignal : Signal.parse? payload.toList with
      | some signal =>
        rw [Signal.decode_eq_ok_iff.2 hsignal]
        exact .inl ⟨_, .wait hsignal, rfl⟩
      | none =>
        rw [Signal.decode_eq_error_iff.2 ⟨hsignal, rfl⟩]
        exact .inr ⟨.unknownSignal payload, rfl, rfl⟩
    · refine .inr ⟨.unknownAction _, ⟨rfl, fun other ↦ ⟨fun heq ↦ hsleep ?_, fun heq ↦ hwait ?_⟩⟩, rfl⟩
      · exact (withPayload_inj hkeyword (by decide) heq).1
      · exact (withPayload_inj hkeyword (by decide) heq).1
  · have hplain (keyword payload : String) (h : '=' ∉ keyword.toList) :
        spec ≠ withPayload keyword payload := by
      rintro rfl
      rw [splitPayload?_withPayload h] at hbare
      cases hbare
    rw [parse, hbare]
    cases hkeyword : ofKeyword? spec with
    | some action => exact .inl ⟨action, denotes_of_ofKeyword? hkeyword, rfl⟩
    | none =>
      have hkinds : ∀ payload, spec ≠ withPayload "sleep" payload ∧ spec ≠ withPayload "wait" payload :=
        fun payload ↦ ⟨hplain _ _ (by decide), hplain _ _ (by decide)⟩
      exact .inr ⟨.unknownAction spec, ⟨rfl, hkinds⟩, rfl⟩

/-- Exactly the specs of the grammar are accepted. -/
theorem parse_eq_ok_iff {spec : String} {action : Action} :
    parse spec = .ok action ↔ Denotes spec action := by
  refine ⟨fun h ↦ ?_, parse_of_denotes⟩
  obtain ⟨found, hfound, hparse⟩ | ⟨cause, -, hparse⟩ := parse_cases spec
  · rw [hparse] at h
    cases h
    exact hfound
  · rw [hparse] at h
    cases h

/-- A spec has no two errors. -/
theorem Blames.unique {spec : String} {first second : SpecError} (hfirst : Blames spec first)
    (hsecond : Blames spec second) : first = second := by
  cases first <;> cases second <;> simp only [Blames] at hfirst hsecond
  · rw [hfirst.1, hsecond.1]
  · obtain ⟨payload, hspec⟩ := hsecond.2
    exact absurd hspec (hfirst.2 payload).1
  · exact absurd hsecond (hfirst.2 _).2
  · obtain ⟨payload, hspec⟩ := hfirst.2
    exact absurd hspec (hsecond.2 payload).1
  · rw [hfirst.1, hsecond.1]
  · obtain ⟨payload, hspec⟩ := hfirst.2
    have hkeywords := (withPayload_inj (by decide) (by decide) (hspec.symm.trans hsecond)).1
    exact absurd hkeywords (by decide)
  · exact absurd hfirst (hsecond.2 _).2
  · obtain ⟨payload, hspec⟩ := hsecond.2
    have hkeywords := (withPayload_inj (by decide) (by decide) (hspec.symm.trans hfirst)).1
    exact absurd hkeywords (by decide)
  · rw [(withPayload_inj (by decide) (by decide) (hfirst.symm.trans hsecond)).2]

/-- Every other spec is refused with the error it is to blame for. -/
theorem parse_eq_error_iff {spec : String} {cause : SpecError} :
    parse spec = .error cause ↔ (∀ action, ¬Denotes spec action) ∧ Blames spec cause := by
  constructor
  · intro h
    refine ⟨fun action haction ↦ ?_, ?_⟩
    · rw [parse_of_denotes haction] at h
      cases h
    · obtain ⟨action, -, hparse⟩ | ⟨found, hfound, hparse⟩ := parse_cases spec
      · rw [hparse] at h
        cases h
      · rw [hparse] at h
        cases h
        exact hfound
  · rintro ⟨hnone, hcause⟩
    obtain ⟨action, haction, -⟩ | ⟨found, hfound, hparse⟩ := parse_cases spec
    · exact absurd haction (hnone action)
    · rw [hparse, hfound.unique hcause]

/-! ## Canonical specs -/

/-- A spec with a text in double quotes, in which each backslash is doubled. -/
def quotedSpec (keyword : String) (text : List Char) : String :=
  keyword ++ String.ofList ('=' :: '"' :: escape ['\\'] text ++ ['"'])

theorem quotedSpec_eq (keyword : String) (text : List Char) :
    quotedSpec keyword text =
      withPayload keyword (String.ofList ('"' :: escape ['\\'] text ++ ['"'])) := by
  rw [← String.toList_inj, toList_withPayload]
  simp [quotedSpec]

/-- A text in double quotes, with its backslashes doubled, says the text. -/
theorem textOf_quotes_escape (text : List Char) :
    textOf (String.ofList ('"' :: escape ['\\'] text ++ ['"'])) = String.ofList text := by
  rw [textOf, String.toList_ofList, unquote_quotes_escape]

/-- Every text can be said to an action that is made of a text. -/
theorem parse_quotedSpec {keyword : String} {action : String → Action}
    (h : ∀ payload, Denotes (withPayload keyword payload) (action (textOf payload)))
    (text : List Char) : parse (quotedSpec keyword text) = .ok (action (String.ofList text)) := by
  rw [quotedSpec_eq, ← textOf_quotes_escape text]
  exact parse_of_denotes (h _)

theorem parse_quotedSpec_echo (text : List Char) :
    parse (quotedSpec "echo" text) = .ok (.echoText (String.ofList text)) :=
  parse_quotedSpec .echoText text

/-- Every text can be written to the terminal. -/
theorem parse_quotedSpec_ttyout (text : List Char) :
    parse (quotedSpec "ttyout" text) = .ok (.ttyText (String.ofList text)) :=
  parse_quotedSpec .ttyText text

theorem numberOf_numeral (n : Nat) : numberOf (String.ofList (numeral n)) = n := by
  rw [numberOf, String.toList_ofList]
  exact Nat.ofDigitChars_ten_toDigits

/-- The numeral of a machine word is a number of seconds. -/
theorem isSeconds_numeral {n : Nat} (h : n < 2 ^ 64) : IsSeconds (String.ofList (numeral n)) where
  nonempty := by
    rw [Ne, ← String.toList_inj, String.toList_ofList]
    exact Nat.toDigits_ne_nil
  digits := by
    rw [String.toList_ofList]
    exact fun d hd ↦ Nat.isDigit_of_mem_toDigits (by decide) (by decide) hd
  short := by rwa [numberOf_numeral]

/-- The specs that an action is asked for by: a bare keyword, a text in double quotes with its
backslashes doubled, seconds as a numeral, a signal by a name or by its number. -/
def canonicalSpecs : Action → List String
  | dot => [".", "dot"]
  | bell => ["bell"]
  | echo => ["echo"]
  | echoText template => [quotedSpec "echo" template.toList]
  | ttyText template => [quotedSpec "ttyout" template.toList]
  | sleep seconds => [withPayload "sleep" (String.ofList (numeral seconds))]
  | exec command => [quotedSpec "exec" command.toList]
  | totals => ["totals"]
  | wait signal =>
    [withPayload "wait" (String.ofList signal.fullName), withPayload "wait" signal.shortName,
      withPayload "wait" (String.ofList (numeral signal.number))]

/-- Whether the seconds of an action, if it is a pause, are counted in 64 bits. -/
def IsShort : Action → Prop
  | sleep seconds => seconds < 2 ^ 64
  | _ => True

theorem parse_of_mem_canonicalSpecs {action : Action} (hshort : action.IsShort) {spec : String}
    (h : spec ∈ action.canonicalSpecs) : parse spec = .ok action := by
  cases action with
  | dot =>
    obtain rfl | rfl : spec = "." ∨ spec = "dot" := by simpa [canonicalSpecs] using h
    · exact parse_of_denotes .point
    · exact parse_of_denotes .dot
  | echoText template =>
    obtain rfl := List.mem_singleton.1 h
    rw [parse_quotedSpec_echo, String.ofList_toList]
  | ttyText template =>
    obtain rfl := List.mem_singleton.1 h
    rw [parse_quotedSpec_ttyout, String.ofList_toList]
  | exec command =>
    obtain rfl := List.mem_singleton.1 h
    rw [parse_quotedSpec .exec, String.ofList_toList]
  | sleep seconds =>
    obtain rfl := List.mem_singleton.1 h
    have hdenotes := Denotes.sleep (isSeconds_numeral hshort)
    rw [numberOf_numeral] at hdenotes
    exact parse_of_denotes hdenotes
  | wait signal =>
    obtain ⟨hfull, hname, hnumber⟩ := signal.parse?_spelling
    simp only [canonicalSpecs, List.mem_cons, List.not_mem_nil, or_false] at h
    rcases h with rfl | rfl | rfl
    · exact parse_of_denotes (.wait (by rwa [String.toList_ofList]))
    · exact parse_of_denotes (.wait hname)
    · exact parse_of_denotes (.wait (by rwa [String.toList_ofList]))
  | _ =>
    obtain rfl := List.mem_singleton.1 h
    rfl

/-- Specs are parsed by their grammar. A spec is accepted for an action if and only if it stands for
it; if it stands for nothing it is refused, and with the one error that its keyword brings about. And
every action is what its canonical specs are parsed into, unless it is too long a pause. -/
theorem parse_iff_denotes :
    (∀ spec action, parse spec = .ok action ↔ Denotes spec action) ∧
      (∀ spec cause, parse spec = .error cause ↔
        (∀ action, ¬Denotes spec action) ∧ Blames spec cause) ∧
      ∀ action : Action, action.IsShort → ∀ spec ∈ action.canonicalSpecs, parse spec = .ok action :=
  ⟨fun _ _ ↦ parse_eq_ok_iff, fun _ _ ↦ parse_eq_error_iff, fun _ hshort _ ↦
    parse_of_mem_canonicalSpecs hshort⟩

/-- The longest pause, and one that is too long by a second. -/
theorem parse_of_longest_pause :
    let longest := sleep 18446744073709551615
    longest.IsShort ∧ "sleep=18446744073709551615" ∈ longest.canonicalSpecs ∧
      parse "sleep=18446744073709551615" = .ok longest ∧
      ∀ action, ¬Denotes "sleep=18446744073709551616" action := by
  intro longest
  obtain ⟨-, hrefused, haccepted⟩ := parse_iff_denotes
  have hshort : longest.IsShort := by
    change 18446744073709551615 < 2 ^ 64
    decide
  have hspec : "sleep=18446744073709551615" ∈ longest.canonicalSpecs := by decide +kernel
  have hlong : parse "sleep=18446744073709551616" =
      .error (.invalidTimeout "sleep=18446744073709551616") := by
    decide +kernel
  exact ⟨hshort, hspec, haccepted longest hshort _ hspec, ((hrefused _ _).1 hlong).1⟩

end Action

end ProgressActions
