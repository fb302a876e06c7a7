import Mathlib.Data.Nat.Log
import Mathlib.Order.Bounds.Basic
import ProgressActions.Proofs.NearestDouble
import ProgressActions.Size

/-!
# Byte counts for people are rounded up

A size is read back from its text: a number, its decimal places and a unit. For counts that a double
holds with room for one more digit, dividing by the unit and taking tenths is exact, and so the only
rounding is that of a tenth to the next double, which the text undoes. What is read back is therefore the
count in its greatest unit, rounded up to a tenth below ten and to a whole number from there on. It is
never less than the count, exceeds it by less than the last place shown, and grows with the count.
-/

namespace ProgressActions.Size

open Number

/-! ## Reading a size -/

/-- What the text of a size says. -/
structure Reading where
  number : Rat
  /-- How many decimal places are shown. -/
  places : Nat
  /-- The index of the unit. -/
  unit : Nat

/-- The number of bytes that a size stands for. -/
def Reading.amount (r : Reading) : Rat := r.number * 1024 ^ r.unit

/-- Reads a size: digits, perhaps a point with more digits, and a unit in front of the letter for bytes. -/
def read? (text : List Char) : Option Reading :=
  let whole := text.takeWhile Char.isDigit
  let (places, name) := match text.dropWhile Char.isDigit with
    | '.' :: rest => (rest.takeWhile Char.isDigit, rest.dropWhile Char.isDigit)
    | rest => ([], rest)
  if whole = [] then none
  else
    (unitNames.findIdx? fun unit ↦ unit.toList ++ ['B'] = name).map fun unit ↦
      { number := (Text.digitsValue (whole ++ places) : Rat) / 10 ^ places.length
        places := places.length
        unit }

/-- The name of a unit with the letter for bytes. -/
def unitText (unit : Nat) : List Char := (unitNames.getD unit "").toList ++ ['B']

/-- The name of a unit is read back as that unit. -/
theorem findIdx?_unitText {unit : Nat} (h : unit < unitNames.length) :
    unitNames.findIdx? (fun name ↦ name.toList ++ ['B'] = unitText unit) = some unit := by
  have hall : ∀ unit < unitNames.length,
      unitNames.findIdx? (fun name ↦ name.toList ++ ['B'] = unitText unit) = some unit := by decide
  exact hall unit h

/-- A unit begins with a letter. -/
theorem exists_unitText {unit : Nat} (h : unit < unitNames.length) :
    ∃ c rest, unitText unit = c :: rest ∧ c.isDigit = false ∧ c ≠ '.' := by
  have hall : ∀ unit < unitNames.length,
      ((unitText unit).headD '0').isDigit = false ∧ (unitText unit).headD '.' ≠ '.' := by decide
  obtain ⟨hdigit, hpoint⟩ := hall unit h
  cases htext : unitText unit with
  | nil =>
    rw [htext] at hpoint
    exact absurd rfl hpoint
  | cons c rest =>
    rw [htext] at hdigit hpoint
    exact ⟨c, rest, rfl, hdigit, hpoint⟩

/-- The digits in front end where the first other character stands. -/
theorem takeWhile_digits_append {digits : List Char} (rest : List Char)
    (hdigits : ∀ d ∈ digits, d.isDigit = true) (hrest : ∀ c ∈ rest.head?, c.isDigit = false) :
    (digits ++ rest).takeWhile Char.isDigit = digits ∧
      (digits ++ rest).dropWhile Char.isDigit = rest := by
  have hnone : rest.takeWhile Char.isDigit = [] ∧ rest.dropWhile Char.isDigit = rest := by
    cases rest with
    | nil => exact ⟨rfl, rfl⟩
    | cons c tail => simp [hrest c rfl]
  rw [List.takeWhile_append_of_pos hdigits, List.dropWhile_append_of_pos hdigits, hnone.1, hnone.2,
    List.append_nil]
  exact ⟨rfl, rfl⟩

/-- A whole number with a unit is read back. -/
theorem read?_whole {whole : List Char} {unit : Nat} (hsome : whole ≠ [])
    (hwhole : ∀ d ∈ whole, d.isDigit = true) (hunit : unit < unitNames.length) :
    read? (whole ++ unitText unit) =
      some { number := Text.digitsValue whole, places := 0, unit } := by
  obtain ⟨c, rest, htext, hdigit, hpoint⟩ := exists_unitText hunit
  have hsplit := takeWhile_digits_append (unitText unit) hwhole (by simp [htext, hdigit])
  have hfind := findIdx?_unitText hunit
  rw [htext] at hsplit hfind ⊢
  simp [read?, hsplit.1, hsplit.2, hsome, hpoint, hfind]

/-- A number with decimal places and a unit is read back. -/
theorem read?_point {whole places : List Char} {unit : Nat} (hsome : whole ≠ [])
    (hwhole : ∀ d ∈ whole, d.isDigit = true) (hplaces : ∀ d ∈ places, d.isDigit = true)
    (hunit : unit < unitNames.length) :
    read? (whole ++ '.' :: places ++ unitText unit) =
      some { number := (Text.digitsValue (whole ++ places) : Rat) / 10 ^ places.length
             places := places.length
             unit } := by
  obtain ⟨c, rest, htext, hdigit, -⟩ := exists_unitText hunit
  have hfirst := takeWhile_digits_append ('.' :: (places ++ unitText unit)) hwhole
    (by simp)
  have hsecond := takeWhile_digits_append (unitText unit) hplaces (by simp [htext, hdigit])
  have hfind := findIdx?_unitText hunit
  rw [List.append_assoc, List.cons_append]
  simp [read?, hfirst.1, hfirst.2, hsecond.1, hsecond.2, hsome, hfind]

/-! ## Exact steps -/

/-- A count of at most 53 bits stays exact in every unit. -/
theorem nearest_div_pow {n unit : Nat} (hn : n < 2 ^ 53) (hunit : unit ≤ 100) :
    Double.nearest (n / 1024 ^ unit) = .finite (n / 1024 ^ unit) := by
  have hpower : (n : Rat) / 1024 ^ unit = n * 2 ^ (-(10 * unit : Nat) : Int) := by
    rw [zpow_neg, zpow_natCast, pow_mul, div_eq_mul_inv]
    norm_num
  rw [hpower]
  exact Double.nearest_mul_zpow hn (by omega) (by omega)

/-- Below 2⁵³ every count is a double. -/
theorem ofNat_eq {n : Nat} (hn : n < 2 ^ 53) : Double.ofNat n = .finite n := by
  have hnearest := nearest_div_pow hn (Nat.zero_le 100)
  rwa [pow_zero, div_one] at hnearest

/-- The unit of a count is the largest power of 1024 that does not exceed it. -/
theorem log_eq {n unit : Nat} (hlow : unit = 0 ∨ 1024 ^ unit ≤ n) (hhigh : n < 1024 ^ (unit + 1)) :
    Nat.log 1024 n = unit := by
  obtain rfl | hlow := hlow
  · exact Nat.log_of_lt (by simpa using hhigh)
  · exact Nat.log_eq_of_pow_le_of_lt_pow hlow hhigh

/-- Climbing from a unit that is not too great ends at the greatest one that the count reaches. -/
theorem climb_eq {n : Nat} (hn : n < 2 ^ 53) (room : Nat) {unit : Nat}
    (hlow : unit = 0 ∨ 1024 ^ unit ≤ n) (hhigh : n < 1024 ^ (unit + room + 1))
    (hunits : unit + room ≤ 100) :
    climb (.finite (n / 1024 ^ unit)) unit room =
      (.finite (n / 1024 ^ Nat.log 1024 n), Nat.log 1024 n) := by
  have hpower : ∀ unit : Nat, (0 : Rat) < 1024 ^ unit := fun unit ↦ by positivity
  induction room generalizing unit with
  | zero => rw [climb, log_eq hlow hhigh]
  | succ room ih =>
    have hreach : (1024 : Rat) ≤ n / 1024 ^ unit ↔ 1024 ^ (unit + 1) ≤ n := by
      rw [le_div_iff₀ (hpower unit), ← pow_succ']
      exact_mod_cast Iff.rfl
    rw [climb]
    by_cases hnext : 1024 ^ (unit + 1) ≤ n
    · have hscaled : (n : Rat) / 1024 ^ unit * (1 / 1024) = n / 1024 ^ (unit + 1) := by
        rw [div_mul_div_comm, mul_one, ← pow_succ]
      have hatLeast : (Double.finite (n / 1024 ^ unit)).atLeast 1024 = true :=
        decide_eq_true (hreach.2 hnext)
      rw [if_pos hatLeast, Double.scale, hscaled, nearest_div_pow hn (by omega)]
      exact ih (.inr hnext) (by rwa [Nat.add_right_comm unit 1 room]) (by omega)
    · have hbelow : (Double.finite (n / 1024 ^ unit)).atLeast 1024 = false :=
        decide_eq_false (mt hreach.1 hnext)
      rw [hbelow, log_eq hlow (not_le.1 hnext)]
      rfl

/-- The count in the greatest unit that it reaches. -/
def inUnit (n : Nat) : Rat := n / 1024 ^ Nat.log 1024 n

/-- A count below 2⁵³ is scaled without an error. -/
theorem scaled_ofNat {n : Nat} (hn : n < 2 ^ 53) :
    scaled (.ofNat n) = (.finite (inUnit n), Nat.log 1024 n) := by
  have hclamp : (Double.finite n).clampNonneg = .finite ((n : Rat) / 1024 ^ 0) := by
    rw [pow_zero, div_one, Double.clampNonneg]
    split
    · rename_i hzero
      rw [le_antisymm hzero (Nat.cast_nonneg n)]
    · rfl
  have hbound : n < 1024 ^ (0 + 8 + 1) := hn.trans (by norm_num)
  rw [scaled, ofNat_eq hn, hclamp]
  exact climb_eq hn 8 (.inl rfl) hbound (by omega)

theorem inUnit_nonneg (n : Nat) : 0 ≤ inUnit n := by
  unfold inUnit
  positivity

/-- A count in its unit, times the unit, is the count. -/
theorem inUnit_mul_pow (n : Nat) : inUnit n * 1024 ^ Nat.log 1024 n = n :=
  div_mul_cancel₀ _ (by positivity)

theorem inUnit_lt (n : Nat) : inUnit n < 1024 := by
  have hlog : n < 1024 ^ (Nat.log 1024 n + 1) := Nat.lt_pow_succ_log_self (by norm_num) n
  rw [inUnit, div_lt_iff₀ (by positivity), ← pow_succ']
  exact_mod_cast hlog

theorem one_le_inUnit {n : Nat} (h : 0 < Nat.log 1024 n) : 1 ≤ inUnit n := by
  have hne : n ≠ 0 := by
    rintro rfl
    simp at h
  rw [inUnit, le_div_iff₀ (by positivity), one_mul]
  exact_mod_cast Nat.pow_log_le_self 1024 hne

/-! ## Texts of tenths and of whole numbers -/

/-- A whole number is written as its numeral. -/
theorem fixed_zero {k : Nat} : (Double.finite (k : Rat)).fixed 0 = Text.numeral k := by
  have hround : roundHalfEven ((k : Rat) * (Nat.pow 10 0 : Nat)) = k := by
    have hone : (k : Rat) * (Nat.pow 10 0 : Nat) = ((k : Int) : Rat) := by simp
    rw [hone, roundHalfEven_intCast]
  have hnonneg : ¬(k : Rat) < 0 := not_lt.2 (Nat.cast_nonneg k)
  rw [Double.fixed, if_neg hnonneg, fixedPlaces, hround]
  simp [Text.numeral]

/-- Whatever is close to some tenths is written as these. -/
theorem fixed_one {k : Nat} {value : Rat} (hvalue : 0 ≤ value) (h : |value - k / 10| < 1 / 20) :
    (Double.finite value).fixed 1 = Text.numeral (k / 10) ++ '.' :: Text.numeral (k % 10) := by
  have hround : roundHalfEven (value * (Nat.pow 10 1 : Nat)) = k := by
    refine roundHalfEven_eq_of_abs_sub_lt ?_
    calc |value * (Nat.pow 10 1 : Nat) - (k : Int)|
        = |(value - k / 10) * 10| := by
          congr 1
          push_cast
          ring
      _ = |value - k / 10| * 10 := by rw [abs_mul, abs_of_pos (by norm_num : (0 : Rat) < 10)]
      _ < 1 / 2 := by linarith
  have hdigit : Nat.toDigits 10 (k % 10) = [Nat.digitChar (k % 10)] :=
    Nat.toDigits_of_lt_base (Nat.mod_lt k (by norm_num))
  rw [Double.fixed, if_neg (not_lt.2 hvalue), fixedPlaces, hround]
  simp [Text.numeral, hdigit]

theorem digitsValue_numeral (n : Nat) : Text.digitsValue (Text.numeral n) = n :=
  Nat.ofDigitChars_ten_toDigits

theorem numeral_ne_nil (n : Nat) : Text.numeral n ≠ [] := Nat.toDigits_ne_nil

theorem isDigit_of_mem_numeral {n : Nat} : ∀ d ∈ Text.numeral n, d.isDigit = true :=
  fun _ hd ↦ Nat.isDigit_of_mem_toDigits (by norm_num) le_rfl hd

/-- The digits of a number are those of its tenth part and then its last one. -/
theorem digitsValue_tenths (k : Nat) :
    Text.digitsValue (Text.numeral (k / 10) ++ Text.numeral (k % 10)) = k := by
  have hlast : k % 10 < 10 := Nat.mod_lt k (by norm_num)
  have hvalue : ∀ d < 10, (Nat.digitChar d).toNat - 48 = d := by decide
  have hdigit : Text.numeral (k % 10) = [Nat.digitChar (k % 10)] := Nat.toDigits_of_lt_base hlast
  rw [hdigit, Text.digitsValue_append_singleton, digitsValue_numeral, hvalue _ hlast]
  omega

/-! ## Rounding up -/

theorem exists_ceil {q : Rat} (h : 0 ≤ q) : ∃ k : Nat, q.ceil = k := by
  have hceil : (0 : Rat) ≤ q.ceil := h.trans Rat.le_ceil
  exact ⟨q.ceil.toNat, (Int.toNat_of_nonneg (by exact_mod_cast hceil)).symm⟩

theorem ceil_le_ceil {p q : Rat} (h : p ≤ q) : p.ceil ≤ q.ceil :=
  Rat.ceil_le_iff.2 (h.trans Rat.le_ceil)

/-- Tenths below ten, as the double that is next to them. -/
theorem exists_tenths {k : Nat} (hpos : 0 < k) (h : k < 100) :
    ∃ value, (Double.finite (k : Rat)).scale (1 / 10) = .finite value ∧ 0 ≤ value ∧ value < 10 ∧
      |value - k / 10| < 1 / 20 := by
  have hlow : (1 : Rat) ≤ k := by exact_mod_cast hpos
  have hhigh : (k : Rat) ≤ 99 := by exact_mod_cast Nat.le_of_lt_succ h
  have hbelow : (k : Rat) * (1 / 10) < 2 ^ (4 : Int) := by
    norm_num
    linarith
  obtain ⟨value, hnearest, hclose⟩ :=
    Double.exists_nearest (by linarith) hbelow (by norm_num) (by norm_num)
  have hsmall : (2 : Rat) ^ ((4 : Int) - 53) / 2 < 1 / 20 := by norm_num
  have hdistance : |value - k / 10| < 1 / 20 := by
    rw [mul_one_div] at hclose
    exact hclose.trans_lt hsmall
  obtain ⟨hafter, hbefore⟩ := abs_lt.1 hdistance
  exact ⟨value, hnearest, by linarith, by linarith, hdistance⟩

/-- Tenths below ten are written with one decimal place. -/
theorem mantissa_tenths {q : Rat} {unit k : Nat} (hunit : 0 < unit)
    (hexact : Double.nearest (q * 10) = .finite (q * 10)) (hceil : (q * 10).ceil = k) (hpos : 0 < k)
    (hlt : k < 100) :
    mantissa (.finite q) unit = Text.numeral (k / 10) ++ '.' :: Text.numeral (k % 10) := by
  have hq : q < 10 := by
    have hle : q * 10 ≤ (k : Int) := hceil ▸ Rat.le_ceil
    have hk : ((k : Int) : Rat) < 100 := by exact_mod_cast hlt
    linarith
  obtain ⟨value, htenths, hnonneg, hten, hclose⟩ := exists_tenths hpos hlt
  have hscale : ((Double.finite q).scale 10).ceil = .finite (k : Rat) := by
    rw [Double.scale, hexact, Double.ceil, hceil]
    rfl
  have hbelow : (Double.finite q).atLeast 10 = false := decide_eq_false (not_le.2 hq)
  have hbelowTenths : (Double.finite value).atLeast 10 = false := decide_eq_false (not_le.2 hten)
  rw [mantissa, hscale, htenths, if_pos ⟨hunit, hbelow, hbelowTenths⟩]
  exact fixed_one hnonneg hclose

/-- From ten on, and in bytes, the number is whole. -/
theorem mantissa_whole {q : Rat} {unit k : Nat}
    (hexact : Double.nearest (q * 10) = .finite (q * 10)) (hceil : q.ceil = k)
    (h : 0 < unit → 100 ≤ (q * 10).ceil) : mantissa (.finite q) unit = Text.numeral k := by
  have hwhole : ¬(0 < unit ∧ (Double.finite q).atLeast 10 = false ∧
      (((Double.finite q).scale 10).ceil.scale (1 / 10)).atLeast 10 = false) := by
    rintro ⟨hunit, hbelow, htenths⟩
    have hq : q < 10 := not_le.1 (of_decide_eq_false hbelow)
    -- Just below ten, the tenths are a full hundred, and these are ten exactly.
    have hhundred : (q * 10).ceil = 100 := by
      refine le_antisymm (Rat.ceil_le_iff.2 ?_) (h hunit)
      push_cast
      linarith
    have hten : Double.nearest 10 = .finite 10 := by
      simpa using Double.nearest_mul_zpow (by norm_num : 10 < 2 ^ 53) (by norm_num : (-1074 : Int) ≤ 0)
        (by norm_num)
    have hproduct : ((100 : Int) : Rat) * (1 / 10) = 10 := by norm_num
    rw [Double.scale, hexact, Double.ceil, hhundred, Double.scale, hproduct, hten] at htenths
    exact absurd htenths (by decide)
  rw [mantissa, if_neg hwhole, Double.ceil, hceil]
  exact fixed_zero

/-! ## Counts rounded up -/

/-- A count in its greatest unit, rounded up: to tenths while these stay below ten, else to a whole
number. -/
def rounded (n : Nat) : Reading :=
  if 0 < Nat.log 1024 n ∧ (inUnit n * 10).ceil < 100 then
    { number := (inUnit n * 10).ceil / 10, places := 1, unit := Nat.log 1024 n }
  else { number := (inUnit n).ceil, places := 0, unit := Nat.log 1024 n }

@[simp] theorem unit_rounded (n : Nat) : (rounded n).unit = Nat.log 1024 n := by
  unfold rounded
  split <;> rfl

/-- Either the number has tenths and is below ten, or it is whole and, but for bytes, at least ten. -/
theorem rounded_cases (n : Nat) :
    (0 < Nat.log 1024 n ∧ (inUnit n * 10).ceil < 100 ∧ (rounded n).places = 1 ∧
        (rounded n).number = (inUnit n * 10).ceil / 10 ∧ (rounded n).number < 10) ∨
      ((0 < Nat.log 1024 n → 100 ≤ (inUnit n * 10).ceil ∧ 10 ≤ (rounded n).number) ∧
        (rounded n).places = 0 ∧ (rounded n).number = (inUnit n).ceil) := by
  by_cases h : 0 < Nat.log 1024 n ∧ (inUnit n * 10).ceil < 100
  · have hceil : ((inUnit n * 10).ceil : Rat) < 100 := by exact_mod_cast h.2
    have hnumber : ((inUnit n * 10).ceil : Rat) / 10 < 10 := by linarith
    rw [rounded, if_pos h]
    exact .inl ⟨h.1, h.2, rfl, rfl, hnumber⟩
  · rw [rounded, if_neg h]
    refine .inr ⟨fun hunit ↦ ?_, rfl, rfl⟩
    have hceil : 100 ≤ (inUnit n * 10).ceil := not_lt.1 fun hlt ↦ h ⟨hunit, hlt⟩
    -- Tenths that are rounded up to a hundred come from more than ninety-nine of them.
    have habove : (99 : Rat) < inUnit n * 10 := by
      have hlt : (inUnit n * 10).ceil < inUnit n * 10 + 1 := Rat.ceil_lt
      have hle : (100 : Rat) ≤ (inUnit n * 10).ceil := by exact_mod_cast hceil
      linarith
    have hnine : (9 : Rat) < (inUnit n).ceil := by
      have hle : inUnit n ≤ (inUnit n).ceil := Rat.le_ceil
      linarith
    have hten : (10 : Int) ≤ (inUnit n).ceil := Int.add_one_le_of_lt (by exact_mod_cast hnine)
    have htenRat : (10 : Rat) ≤ (inUnit n).ceil := by exact_mod_cast hten
    exact ⟨hceil, htenRat⟩

/-! ## The text of a count

From here on, a double holds the count with room for one digit more. -/

theorem log_lt {n : Nat} (hn : n * 10 < 2 ^ 53) : Nat.log 1024 n < unitNames.length := by
  have hlength : unitNames.length = 9 := rfl
  have hpower : n < 1024 ^ 9 := by
    calc n ≤ n * 10 := Nat.le_mul_of_pos_right n (by norm_num)
      _ < 2 ^ 53 := hn
      _ ≤ 1024 ^ 9 := by norm_num
  rw [hlength]
  exact Nat.log_lt_of_lt_pow' (by norm_num) hpower

/-- Ten times a count in its unit is a double too. -/
theorem nearest_inUnit_mul_ten {n : Nat} (hn : n * 10 < 2 ^ 53) :
    Double.nearest (inUnit n * 10) = .finite (inUnit n * 10) := by
  have hunit : Nat.log 1024 n ≤ 100 := (log_lt hn).le.trans (by decide)
  have hten : inUnit n * 10 = ((n * 10 : Nat) : Rat) / 1024 ^ Nat.log 1024 n := by
    rw [inUnit]
    push_cast
    ring
  rw [hten]
  exact nearest_div_pow hn hunit

theorem human_ofNat {n : Nat} (hn : n * 10 < 2 ^ 53) :
    human (.ofNat n) =
      mantissa (.finite (inUnit n)) (Nat.log 1024 n) ++ unitText (Nat.log 1024 n) := by
  rw [human, scaled_ofNat (by omega)]
  exact List.append_assoc _ _ _

/-- A mantissa that rounds up to less than 10 is shown with one decimal. -/
theorem human_of_tenths {n k : Nat} (hn : n * 10 < 2 ^ 53) (hunit : 0 < Nat.log 1024 n)
    (hceil : (inUnit n * 10).ceil = k) (hlt : k < 100) :
    human (.ofNat n) =
      Text.numeral (k / 10) ++ '.' :: Text.numeral (k % 10) ++ unitText (Nat.log 1024 n) := by
  have hpos : 0 < k := by
    have hone : (1 : Rat) ≤ (k : Int) := by
      have hle : inUnit n * 10 ≤ (k : Int) := hceil ▸ Rat.le_ceil
      have hunit := one_le_inUnit hunit
      linarith
    exact_mod_cast hone
  rw [human_ofNat hn, mantissa_tenths hunit (nearest_inUnit_mul_ten hn) hceil hpos hlt]

/-- Every other mantissa is shown as a whole number. -/
theorem human_of_whole {n k : Nat} (hn : n * 10 < 2 ^ 53) (hceil : (inUnit n).ceil = k)
    (h : 0 < Nat.log 1024 n → 100 ≤ (inUnit n * 10).ceil) :
    human (.ofNat n) = Text.numeral k ++ unitText (Nat.log 1024 n) := by
  rw [human_ofNat hn, mantissa_whole (nearest_inUnit_mul_ten hn) hceil h]

/-- The text of a count shows tenths below ten, or a whole number, and what is rounded up is just
that. -/
theorem human_cases {n : Nat} (hn : n * 10 < 2 ^ 53) :
    (∃ k < 100,
      human (.ofNat n) =
          Text.numeral (k / 10) ++ '.' :: Text.numeral (k % 10) ++ unitText (Nat.log 1024 n) ∧
        rounded n = { number := (k : Int) / 10, places := 1, unit := Nat.log 1024 n }) ∨
      ∃ k, human (.ofNat n) = Text.numeral k ++ unitText (Nat.log 1024 n) ∧
        rounded n = { number := (k : Int), places := 0, unit := Nat.log 1024 n } := by
  have hnonneg := inUnit_nonneg n
  by_cases h : 0 < Nat.log 1024 n ∧ (inUnit n * 10).ceil < 100
  · obtain ⟨k, hceil⟩ := exists_ceil (q := inUnit n * 10) (by linarith)
    have hlt : k < 100 := by exact_mod_cast hceil ▸ h.2
    refine .inl ⟨k, hlt, human_of_tenths hn h.1 hceil hlt, ?_⟩
    rw [rounded, if_pos h, hceil]
  · obtain ⟨k, hceil⟩ := exists_ceil hnonneg
    have hhundred : 0 < Nat.log 1024 n → 100 ≤ (inUnit n * 10).ceil := fun hunit ↦
      not_lt.1 fun hlt ↦ h ⟨hunit, hlt⟩
    refine .inr ⟨k, human_of_whole hn hceil hhundred, ?_⟩
    rw [rounded, if_neg h, hceil]

/-- What is read back from the text of a count is the count rounded up. -/
theorem read?_human {n : Nat} (hn : n * 10 < 2 ^ 53) :
    read? (human (.ofNat n)) = some (rounded n) := by
  obtain ⟨k, -, htext, hrounded⟩ | ⟨k, htext, hrounded⟩ := human_cases hn
  · have hdigit : Text.numeral (k % 10) = [Nat.digitChar (k % 10)] :=
      Nat.toDigits_of_lt_base (Nat.mod_lt k (by norm_num))
    rw [htext, hrounded,
      read?_point (numeral_ne_nil _) isDigit_of_mem_numeral isDigit_of_mem_numeral (log_lt hn),
      digitsValue_tenths, hdigit]
    simp
  · rw [htext, hrounded, read?_whole (numeral_ne_nil k) isDigit_of_mem_numeral (log_lt hn),
      digitsValue_numeral]
    simp

theorem point_not_mem_unitText {unit : Nat} (h : unit < unitNames.length) :
    '.' ∉ unitText unit := by
  have hall : ∀ unit < unitNames.length, '.' ∉ unitText unit := by decide
  exact hall unit h

/-- Ten is never written with a decimal place. -/
theorem not_ten_isPrefix_human {n : Nat} (hn : n * 10 < 2 ^ 53) :
    ¬"10.0".toList <+: human (.ofNat n) := by
  intro hten
  obtain ⟨k, hlt, htext, -⟩ | ⟨k, htext, -⟩ := human_cases hn
  · have hdigit : Text.numeral (k / 10) = [Nat.digitChar (k / 10)] :=
      Nat.toDigits_of_lt_base (by omega)
    rw [htext, hdigit] at hten
    simp at hten
  · have hpoint : '.' ∈ human (.ofNat n) := hten.subset (by decide)
    rw [htext] at hpoint
    rcases List.mem_append.1 hpoint with hnumeral | hname
    · exact absurd (isDigit_of_mem_numeral _ hnumeral) (by decide)
    · exact point_not_mem_unitText (log_lt hn) hname

/-! ## Amounts -/

/-- A size that says a count rounded up, as tightly as its decimal places allow. -/
structure RoundsUp (n : Nat) (r : Reading) : Prop where
  le : (n : Rat) ≤ r.amount
  excess_of_tenths : 0 < r.unit → r.number < 10 → r.amount - n < 1024 ^ r.unit / 10
  excess : r.amount - n < 1024 ^ r.unit
  exact_of_bytes : r.unit = 0 → r.amount = n
  unit_of_zero : n = 0 → r.unit = 0
  /-- The unit is the greatest one that the count reaches. -/
  unit_of_ne_zero : n ≠ 0 → IsGreatest {unit | unit < unitNames.length ∧ 1024 ^ unit ≤ n} r.unit
  places : r.places = if 0 < r.unit ∧ r.number < 10 then 1 else 0

theorem amount_rounded (n : Nat) :
    (rounded n).amount = (rounded n).number * 1024 ^ Nat.log 1024 n := by
  rw [Reading.amount, unit_rounded]

/-- The number that is shown lies above the count in its unit, by less than the last place. -/
theorem number_rounded_bounds (n : Nat) :
    inUnit n ≤ (rounded n).number ∧ (rounded n).number < inUnit n + 1 ∧
      (0 < Nat.log 1024 n → (rounded n).number < 10 → (rounded n).number < inUnit n + 1 / 10) := by
  obtain ⟨-, -, -, hnumber, -⟩ | ⟨hten, -, hnumber⟩ := rounded_cases n
  · have hle : inUnit n * 10 ≤ (inUnit n * 10).ceil := Rat.le_ceil
    have hlt : (inUnit n * 10).ceil < inUnit n * 10 + 1 := Rat.ceil_lt
    rw [hnumber]
    exact ⟨by linarith, by linarith, fun _ _ ↦ by linarith⟩
  · refine ⟨hnumber ▸ Rat.le_ceil, hnumber ▸ Rat.ceil_lt, fun hunit hlt ↦ ?_⟩
    exact absurd hlt (not_lt.2 (hten hunit).2)

/-- The reading that is shown rounds its count up. -/
theorem roundsUp_rounded {n : Nat} (hn : n * 10 < 2 ^ 53) : RoundsUp n (rounded n) := by
  have hpower : (0 : Rat) < 1024 ^ Nat.log 1024 n := by positivity
  obtain ⟨hle, hlt, htenth⟩ := number_rounded_bounds n
  have hexcess : (rounded n).amount - n =
      ((rounded n).number - inUnit n) * 1024 ^ Nat.log 1024 n := by
    rw [amount_rounded, sub_mul, inUnit_mul_pow]
  refine ⟨?_, ?_, ?_, ?_, ?_, ?_, ?_⟩
  · calc (n : Rat) = inUnit n * 1024 ^ Nat.log 1024 n := (inUnit_mul_pow n).symm
      _ ≤ (rounded n).number * 1024 ^ Nat.log 1024 n := by gcongr
      _ = (rounded n).amount := (amount_rounded n).symm
  · intro hunit hnumber
    rw [unit_rounded] at hunit ⊢
    have hgap : (rounded n).number - inUnit n < 1 / 10 := by linarith [htenth hunit hnumber]
    calc (rounded n).amount - n = ((rounded n).number - inUnit n) * 1024 ^ Nat.log 1024 n := hexcess
      _ < 1 / 10 * 1024 ^ Nat.log 1024 n := by gcongr
      _ = 1024 ^ Nat.log 1024 n / 10 := by ring
  · have hgap : (rounded n).number - inUnit n < 1 := by linarith
    rw [unit_rounded]
    calc (rounded n).amount - n = ((rounded n).number - inUnit n) * 1024 ^ Nat.log 1024 n := hexcess
      _ < 1 * 1024 ^ Nat.log 1024 n := by gcongr
      _ = 1024 ^ Nat.log 1024 n := one_mul _
  · intro hunit
    rw [unit_rounded] at hunit
    have hcount : inUnit n = (n : Int) := by rw [inUnit, hunit, pow_zero, div_one, Int.cast_natCast]
    have hnumber : (rounded n).number = n := by
      rw [rounded, if_neg fun h ↦ absurd hunit h.1.ne', hcount, Rat.ceil_intCast]
      exact Int.cast_natCast n
    rw [amount_rounded, hunit, hnumber, pow_zero, mul_one]
  · rintro rfl
    rw [unit_rounded, Nat.log_zero_right]
  · intro hne
    rw [unit_rounded]
    refine ⟨⟨log_lt hn, Nat.pow_log_le_self 1024 hne⟩, fun unit hunit ↦ ?_⟩
    exact Nat.le_log_of_pow_le (by norm_num) hunit.2
  · rw [unit_rounded]
    obtain ⟨hunit, -, hplaces, -, hnumber⟩ | ⟨hten, hplaces, -⟩ := rounded_cases n
    · rw [hplaces, if_pos ⟨hunit, hnumber⟩]
    · rw [hplaces, if_neg fun h ↦ absurd h.2 (not_lt.2 (hten h.1).2)]

/-- Rounding up reaches the next unit at most. -/
theorem number_rounded_le (n : Nat) : (rounded n).number ≤ 1024 := by
  obtain ⟨-, -, -, -, hnumber⟩ | ⟨-, -, hnumber⟩ := rounded_cases n
  · linarith
  · have hle : (inUnit n).ceil ≤ 1024 := Rat.ceil_le_iff.2 (by exact_mod_cast (inUnit_lt n).le)
    rw [hnumber]
    exact_mod_cast hle

/-- Within a unit, a greater count is shown by a number that is no less. -/
theorem number_rounded_mono {n m : Nat} (hlog : Nat.log 1024 n = Nat.log 1024 m)
    (h : inUnit n ≤ inUnit m) : (rounded n).number ≤ (rounded m).number := by
  have htenths : (inUnit n * 10).ceil ≤ (inUnit m * 10).ceil := ceil_le_ceil (by linarith)
  have hwhole : (inUnit n).ceil ≤ (inUnit m).ceil := ceil_le_ceil h
  obtain ⟨hunit, hltn, -, hn, hten⟩ | ⟨hfull, -, hn⟩ := rounded_cases n <;>
    obtain ⟨hunit', hltm, -, hm, -⟩ | ⟨hfull', -, hm⟩ := rounded_cases m
  · have hcast : ((inUnit n * 10).ceil : Rat) ≤ (inUnit m * 10).ceil := by exact_mod_cast htenths
    rw [hn, hm]
    linarith
  · exact hten.le.trans (hfull' (hlog ▸ hunit)).2
  · have hhundred := (hfull (hlog ▸ hunit')).1
    omega
  · rw [hn, hm]
    exact_mod_cast hwhole

/-- A larger count is never shown as less. -/
theorem amount_rounded_mono {n m : Nat} (h : n ≤ m) : (rounded n).amount ≤ (rounded m).amount := by
  have hbase : ∀ k : Nat, (0 : Rat) < 1024 ^ k := fun k ↦ by positivity
  rw [amount_rounded, amount_rounded]
  rcases (Nat.log_mono_right h : Nat.log 1024 n ≤ Nat.log 1024 m).lt_or_eq with hlt | heq
  · -- The next unit is at least as much as any number in the unit before.
    have hone := one_le_inUnit (Nat.zero_lt_of_lt hlt)
    have hnumber : 1 ≤ (rounded m).number := hone.trans (number_rounded_bounds m).1
    calc (rounded n).number * 1024 ^ Nat.log 1024 n
        ≤ 1024 * 1024 ^ Nat.log 1024 n := by
          gcongr
          exact number_rounded_le n
      _ = 1024 ^ (Nat.log 1024 n + 1) := (pow_succ' _ _).symm
      _ ≤ 1024 ^ Nat.log 1024 m := pow_le_pow_right₀ (by norm_num) hlt
      _ = 1 * 1024 ^ Nat.log 1024 m := (one_mul _).symm
      _ ≤ (rounded m).number * 1024 ^ Nat.log 1024 m := by gcongr
  · have hcast : (n : Rat) ≤ m := by exact_mod_cast h
    have hvalue : inUnit n ≤ inUnit m := by
      rw [inUnit, inUnit, heq]
      gcongr
    rw [← heq]
    gcongr
    exact number_rounded_mono heq hvalue

/-- The size of a count up to `2 ^ 49` bytes is the count rounded up, and grows with the count. -/
theorem human_roundsUp {n : Nat} (hn : n ≤ 2 ^ 49) :
    ¬"10.0".toList <+: human (.ofNat n) ∧
      ∃ r, read? (human (.ofNat n)) = some r ∧ RoundsUp n r ∧
        ∀ m, n ≤ m → m ≤ 2 ^ 49 →
          ∃ s, read? (human (.ofNat m)) = some s ∧ r.amount ≤ s.amount := by
  have hroom : ∀ k ≤ 2 ^ 49, k * 10 < 2 ^ 53 := fun k hk ↦ by omega
  refine ⟨not_ten_isPrefix_human (hroom n hn), rounded n, read?_human (hroom n hn),
    roundsUp_rounded (hroom n hn), fun m hle hm ↦ ?_⟩
  exact ⟨rounded m, read?_human (hroom m hm), amount_rounded_mono hle⟩

/-- A count just above 9.9 in its unit, which is shown as ten of them. -/
theorem human_roundsUp_of_almost_ten :
    10138 ≤ 2 ^ 49 ∧ human (.ofNat 10138) = "10KiB".toList ∧
      ¬"10.0".toList <+: human (.ofNat 10138) ∧
      ∃ r, read? (human (.ofNat 10138)) = some r ∧ RoundsUp 10138 r ∧
        ∃ s, read? (human (.ofNat 10240)) = some s ∧ r.amount ≤ s.amount := by
  have hn : 10138 ≤ 2 ^ 49 := by norm_num
  obtain ⟨hten, r, hread, hrounds, hmono⟩ := human_roundsUp hn
  exact ⟨hn, by decide +kernel, hten, r, hread, hrounds, hmono 10240 (by norm_num) (by norm_num)⟩

end ProgressActions.Size
