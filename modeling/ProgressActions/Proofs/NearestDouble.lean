import Mathlib.Algebra.Order.Field.Power
import Mathlib.Data.Rat.Floor
import Mathlib.Tactic.Linarith
import Mathlib.Tactic.Positivity
import ProgressActions.Number.Double

/-!
# The double next to a number

A number is brought to a multiple of its last place. So the double next to it is at most half a place
away, and a number is kept as it is when 53 bits from some place on are enough for it. How far the last
place can lie up follows from any power of two that the number stays below.
-/

namespace ProgressActions.Number

/-! ## Rounding to a whole number -/

/-- Rounding to an integer errs by at most one half. -/
theorem abs_roundHalfEven_sub_le (q : Rat) : |(roundHalfEven q : Rat) - q| ≤ 1 / 2 := by
  have hfloor : (q.floor : Rat) ≤ q := Rat.floor_le q
  have hnext : q - 1 < q.floor := Rat.lt_floor
  simp only [roundHalfEven]
  rw [abs_le]
  split_ifs <;> push_cast <;> constructor <;> linarith

theorem roundHalfEven_nonneg {q : Rat} (h : 0 ≤ q) : 0 ≤ roundHalfEven q := by
  have hround := (abs_le.1 (abs_roundHalfEven_sub_le q)).1
  have habove : (-1 : Rat) < roundHalfEven q := by linarith
  exact Int.lt_iff_add_one_le.1 (by exact_mod_cast habove)

/-- A whole number is the nearest to all that is less than a half away. -/
theorem roundHalfEven_eq_of_abs_sub_lt {q : Rat} {n : Int} (h : |q - n| < 1 / 2) :
    roundHalfEven q = n := by
  have hround := abs_roundHalfEven_sub_le q
  have hdistance : |((roundHalfEven q - n : Int) : Rat)| < 1 := by
    calc |((roundHalfEven q - n : Int) : Rat)|
        = |((roundHalfEven q : Rat) - q) + (q - n)| := by
          push_cast
          congr 1
          ring
      _ ≤ |(roundHalfEven q : Rat) - q| + |q - n| := abs_add_le _ _
      _ < 1 := by linarith
  have hzero : |roundHalfEven q - n| < 1 := by exact_mod_cast hdistance
  exact sub_eq_zero.1 (Int.abs_lt_one_iff.1 hzero)

namespace Double

/-! ## Places -/

/-- Whether a quotient reaches a power of two, in whole numbers. -/
def reaches (a b : Nat) (exponent : Int) : Bool :=
  if 0 ≤ exponent then decide (b * Nat.pow 2 exponent.toNat ≤ a)
  else decide (b ≤ a * Nat.pow 2 (-exponent).toNat)

/-- The exponent is the difference of the logarithms or one less. -/
theorem binaryExponent_eq (a b : Nat) :
    binaryExponent a b =
      if reaches a b ((a.log2 : Int) - b.log2) then (a.log2 : Int) - b.log2
      else (a.log2 : Int) - b.log2 - 1 := rfl

/-- The test for the exponent means what it says. -/
theorem zpow_mul_le_of_reaches {a b : Nat} {guess : Int} (h : reaches a b guess = true) :
    (2 : Rat) ^ guess * b ≤ a := by
  unfold reaches at h
  by_cases hguess : 0 ≤ guess
  · rw [if_pos hguess] at h
    have hmul : b * 2 ^ guess.toNat ≤ a := of_decide_eq_true h
    calc (2 : Rat) ^ guess * b = b * 2 ^ guess.toNat := by
          rw [mul_comm, ← zpow_natCast, Int.toNat_of_nonneg hguess]
      _ ≤ a := by exact_mod_cast hmul
  · rw [if_neg hguess] at h
    have hmul : b ≤ a * 2 ^ (-guess).toNat := of_decide_eq_true h
    have hpow : (2 : Rat) ^ guess * 2 ^ (-guess).toNat = 1 := by
      rw [← zpow_natCast, Int.toNat_of_nonneg (by omega), ← zpow_add₀ two_ne_zero, add_neg_cancel,
        zpow_zero]
    calc (2 : Rat) ^ guess * b ≤ 2 ^ guess * (a * 2 ^ (-guess).toNat) := by
          gcongr
          exact_mod_cast hmul
      _ = a * (2 ^ guess * 2 ^ (-guess).toNat) := by ring
      _ = a := by rw [hpow, mul_one]

/-- The power of two that is found for a quotient does not lie above it. -/
theorem zpow_binaryExponent_le {a b : Nat} (ha : 0 < a) (hb : 0 < b) :
    (2 : Rat) ^ binaryExponent a b ≤ a / b := by
  rw [le_div_iff₀ (Nat.cast_pos.2 hb)]
  rw [binaryExponent_eq]
  split
  · rename_i hreaches
    exact zpow_mul_le_of_reaches hreaches
  · -- One place lower, the lengths of both numbers in bits are enough.
    have hlow : (2 : Rat) ^ (a.log2 : Int) ≤ a := by
      rw [zpow_natCast]
      exact_mod_cast Nat.log2_self_le ha.ne'
    have hhigh : (b : Rat) < 2 ^ ((b.log2 : Int) + 1) := by
      have hbits : b < 2 ^ (b.log2 + 1) := Nat.lt_log2_self
      exact_mod_cast hbits
    calc (2 : Rat) ^ ((a.log2 : Int) - b.log2 - 1) * b
        ≤ 2 ^ ((a.log2 : Int) - b.log2 - 1) * 2 ^ ((b.log2 : Int) + 1) := by gcongr
      _ = 2 ^ (a.log2 : Int) := by
        rw [← zpow_add₀ two_ne_zero]
        congr 1
        ring
      _ ≤ a := hlow

theorem binaryExponent_lt {q : Rat} {e : Int} (hpos : 0 < q) (h : q < 2 ^ e) :
    binaryExponent q.num.natAbs q.den < e := by
  have hnum : 0 < q.num := Rat.num_pos.2 hpos
  have hquotient : (q.num.natAbs : Rat) / q.den = q := by
    rw [Nat.cast_natAbs, abs_of_pos hnum, Rat.num_div_den]
  have hle := zpow_binaryExponent_le (Int.natAbs_pos.2 hnum.ne') q.den_pos
  rw [hquotient] at hle
  exact (zpow_lt_zpow_iff_right₀ one_lt_two).1 (hle.trans_lt h)

theorem cast_pow_two (k : Nat) : ((Nat.pow 2 k : Nat) : Rat) = 2 ^ (k : Int) := by
  rw [Nat.pow_eq, Nat.cast_pow, Nat.cast_ofNat, zpow_natCast]

/-- To round to a place is to round to an integer after scaling. -/
theorem roundToPlace_eq (place : Int) (q : Rat) :
    roundToPlace place q = roundHalfEven (q / 2 ^ place) * 2 ^ place := by
  unfold roundToPlace
  split
  · rename_i hplace
    have hunit : ((Nat.pow 2 place.toNat : Nat) : Rat) = 2 ^ place := by
      rw [cast_pow_two, Int.toNat_of_nonneg hplace]
    simp only [hunit]
  · rename_i hplace
    have hparts : ((Nat.pow 2 (-place).toNat : Nat) : Rat) = (2 ^ place)⁻¹ := by
      rw [cast_pow_two, Int.toNat_of_nonneg (by omega), zpow_neg]
    simp only [hparts, div_eq_mul_inv, inv_inv]

/-- A multiple of a higher place is one of a lower place, and is kept. -/
theorem roundToPlace_mul_zpow {place top : Int} (h : place ≤ top) (n : Int) :
    roundToPlace place (n * 2 ^ top) = n * 2 ^ top := by
  obtain ⟨gap, rfl⟩ := Int.le.dest h
  have hscaled : (n : Rat) * 2 ^ (place + gap) / 2 ^ place = (n * 2 ^ gap : Int) := by
    rw [zpow_add₀ two_ne_zero, zpow_natCast]
    push_cast
    field_simp
  rw [roundToPlace_eq, hscaled, roundHalfEven_intCast, ← hscaled,
    div_mul_cancel₀ _ (zpow_ne_zero _ two_ne_zero)]

theorem abs_roundToPlace_sub_le (place : Int) (q : Rat) :
    |roundToPlace place q - q| ≤ 2 ^ place / 2 := by
  have hunit : (0 : Rat) < 2 ^ place := zpow_pos two_pos place
  calc |roundToPlace place q - q|
      = |(roundHalfEven (q / 2 ^ place) - q / 2 ^ place) * 2 ^ place| := by
        rw [roundToPlace_eq, sub_mul, div_mul_cancel₀ _ hunit.ne']
    _ = |(roundHalfEven (q / 2 ^ place) : Rat) - q / 2 ^ place| * 2 ^ place := by
        rw [abs_mul, abs_of_pos hunit]
    _ ≤ 1 / 2 * 2 ^ place := by
        gcongr
        exact abs_roundHalfEven_sub_le _
    _ = 2 ^ place / 2 := by ring

/-- A number below a power of two has its last place at least 53 places below that power, unless no
double has so low a place. -/
theorem lastPlace_le {q : Rat} {e : Int} (hpos : 0 < q) (h : q < 2 ^ e) (hlow : -1021 ≤ e) :
    lastPlace q ≤ e - 53 := by
  have hexponent := binaryExponent_lt hpos h
  unfold lastPlace
  omega

/-! ## Doubles -/

/-- A number that is rounded to one within the range of doubles is next to it. -/
theorem nearest_of_lt {q : Rat} (hpos : 0 < q) (hnonneg : 0 ≤ roundToPlace (lastPlace q) q)
    (hbound : roundToPlace (lastPlace q) q < 2 ^ ((1024 : Nat) : Int)) :
    nearest q = .finite (roundToPlace (lastPlace q) q) := by
  unfold nearest
  generalize (1024 : Nat) = top at hbound ⊢
  have hnegative : -(2 : Rat) ^ (top : Int) < roundToPlace (lastPlace q) q :=
    (neg_lt_zero.2 (zpow_pos two_pos _)).trans_le hnonneg
  rw [if_neg hpos.ne', cast_pow_two]
  dsimp only
  rw [if_neg (not_le.2 hbound), if_neg (not_le.2 hnegative)]

/-- A number with at most 53 bits from some place on is a double. -/
theorem nearest_mul_zpow {n : Nat} {place : Int} (hn : n < 2 ^ 53) (hlow : -1074 ≤ place)
    (hhigh : place ≤ 971) : nearest (n * 2 ^ place) = .finite (n * 2 ^ place) := by
  obtain rfl | hpos := Nat.eq_zero_or_pos n
  · simp [nearest]
  have hq : (0 : Rat) < n * 2 ^ place := mul_pos (Nat.cast_pos.2 hpos) (zpow_pos two_pos place)
  have hlt : (n : Rat) * 2 ^ place < 2 ^ (53 + place) := by
    rw [zpow_add₀ two_ne_zero]
    gcongr
    exact_mod_cast hn
  have hplace : lastPlace (n * 2 ^ place) ≤ place := by
    have hlast := lastPlace_le hq hlt (by omega)
    omega
  have hkept : roundToPlace (lastPlace (n * 2 ^ place)) (n * 2 ^ place) = n * 2 ^ place :=
    roundToPlace_mul_zpow hplace n
  have hbound : (n : Rat) * 2 ^ place < 2 ^ ((1024 : Nat) : Int) :=
    hlt.trans_le (zpow_le_zpow_right₀ one_le_two (by omega))
  have hnearest := nearest_of_lt hq
  rw [hkept] at hnearest
  exact hnearest hq.le hbound

/-- The double next to a number below a power of two is half a place away at most. -/
theorem exists_nearest {q : Rat} {e : Int} (hpos : 0 < q) (h : q < 2 ^ e) (hlow : -1021 ≤ e)
    (hhigh : e ≤ 1023) :
    ∃ value, nearest q = .finite value ∧ |value - q| ≤ 2 ^ (e - 53) / 2 := by
  have hplace : (2 : Rat) ^ lastPlace q ≤ 2 ^ (e - 53) :=
    zpow_le_zpow_right₀ one_le_two (lastPlace_le hpos h hlow)
  have hclose : |roundToPlace (lastPlace q) q - q| ≤ 2 ^ (e - 53) / 2 :=
    (abs_roundToPlace_sub_le (lastPlace q) q).trans (by linarith)
  have hnonneg : 0 ≤ roundToPlace (lastPlace q) q := by
    have hunit : (0 : Rat) < 2 ^ lastPlace q := zpow_pos two_pos _
    rw [roundToPlace_eq]
    exact mul_nonneg (Int.cast_nonneg (roundHalfEven_nonneg (div_pos hpos hunit).le)) hunit.le
  have hbelow : roundToPlace (lastPlace q) q < 2 ^ (e + 1) := by
    have hhalf : (2 : Rat) ^ (e - 53) ≤ 2 ^ e := zpow_le_zpow_right₀ one_le_two (by omega)
    have hunit : (0 : Rat) < 2 ^ e := zpow_pos two_pos e
    calc roundToPlace (lastPlace q) q
        ≤ q + 2 ^ (e - 53) / 2 := by
          have habove := (abs_le.1 hclose).2
          linarith
      _ < 2 ^ e * 2 ^ (1 : Int) := by
          rw [zpow_one]
          linarith
      _ = 2 ^ (e + 1) := (zpow_add₀ two_ne_zero e 1).symm
  have hbound : roundToPlace (lastPlace q) q < 2 ^ ((1024 : Nat) : Int) :=
    hbelow.trans_le (zpow_le_zpow_right₀ one_le_two (by omega))
  exact ⟨_, nearest_of_lt hpos hnonneg hbound, hclose⟩

end Double

end ProgressActions.Number
