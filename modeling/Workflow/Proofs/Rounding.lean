import Mathlib.Algebra.Order.Field.Power
import Mathlib.Tactic.Linarith
import Mathlib.Tactic.NormNum
import Mathlib.Tactic.Positivity
import Mathlib.Tactic.Ring
import Workflow.Proofs.Comparison

/-!
# Rounding to doubles

The numbers that doubles denote are integers of less than 54 bits times the powers of two of a
range.  A fraction is written in the unit in which its integer part has 53 bits, and rounded to an
integer there.  The nearest integer of that unit is the nearest double, because the doubles of a
finer unit all lie below the first integer of 53 bits; only what lies half a unit or more beyond the
largest double has no nearest one.
-/

namespace Workflow.Binary64

variable {numerator denominator significand : Nat} {exponent : Int} {number other : ℚ}

/-- A number that some double denotes. -/
def Representable (number : ℚ) : Prop :=
  ∃ significand exponent : Int, |significand| < significandBound ∧ minExponent ≤ exponent ∧
    exponent ≤ maxExponent ∧ number = significand * 2 ^ exponent

/-- A double denotes the one of all representable numbers that is nearest to a number, of two
equally near ones the one with the even significand. -/
def Nearest (double : Binary64) (number : ℚ) : Prop :=
  ∃ negative significand exponent denoted, double = finite negative significand exponent ∧
    double.number? = some denoted ∧ Representable denoted ∧
    ∀ other, Representable other → |denoted - number| ≤ |other - number| ∧
      (|denoted - number| = |other - number| → other = denoted ∨ significand % 2 = 0)

/-- The first number that is too large to have a nearest double: it lies half a unit beyond the
largest double. -/
def overflowBound : Nat :=
  (2 * significandBound - 1) * twoTo (maxExponent - 1).toNat

/-! ## Rounding to integers -/

/-- A rounded quotient is the quotient or the integer behind it, depending on what is left; if half
of the denominator is left, it is the even one. -/
theorem roundHalfEven_cases (numerator denominator : Nat) :
    (roundHalfEven numerator denominator = numerator / denominator ∧
        2 * (numerator % denominator) < denominator) ∨
      (roundHalfEven numerator denominator = numerator / denominator + 1 ∧
        denominator < 2 * (numerator % denominator)) ∨
      ((roundHalfEven numerator denominator = numerator / denominator ∨
          roundHalfEven numerator denominator = numerator / denominator + 1) ∧
        2 * (numerator % denominator) = denominator ∧
        roundHalfEven numerator denominator % 2 = 0) := by
  simp only [roundHalfEven]
  split <;> omega

/-- Rounding moves a quotient by no more than a half, and by a half only to an even integer. -/
theorem roundHalfEven_error (numerator : Nat) (positive : 0 < denominator) :
    |(roundHalfEven numerator denominator : ℚ) - numerator / denominator| ≤ 1 / 2 ∧
      (|(roundHalfEven numerator denominator : ℚ) - numerator / denominator| = 1 / 2 →
        roundHalfEven numerator denominator % 2 = 0) := by
  have nonzero : (denominator : ℚ) ≠ 0 := Nat.cast_ne_zero.mpr (Nat.ne_of_gt positive)
  have positiveRat : (0 : ℚ) < denominator := Nat.cast_pos.mpr positive
  obtain ⟨part, part_eq⟩ : ∃ part : ℚ, part = (numerator % denominator : Nat) / denominator :=
    ⟨_, rfl⟩
  have whole : (numerator : ℚ) / denominator = (numerator / denominator : Nat) + part := by
    rw [part_eq, div_eq_iff nonzero, add_mul, div_mul_cancel₀ _ nonzero]
    exact_mod_cast (Nat.div_add_mod' numerator denominator).symm
  have nonneg : 0 ≤ part := part_eq ▸ by positivity
  have below : part < 1 := by
    rw [part_eq, div_lt_one positiveRat]
    exact_mod_cast Nat.mod_lt numerator positive
  rw [whole]
  rcases roundHalfEven_cases numerator denominator with
    ⟨rounded, less⟩ | ⟨rounded, more⟩ | ⟨rounded, half, even⟩
  · have small : part < 1 / 2 := by
      rw [part_eq, div_lt_iff₀ positiveRat]
      have : (2 * (numerator % denominator : Nat) : ℚ) < denominator := by exact_mod_cast less
      linarith
    rw [rounded, sub_add_cancel_left, abs_neg, abs_of_nonneg nonneg]
    exact ⟨small.le, fun tie => absurd tie small.ne⟩
  · have large : 1 / 2 < part := by
      rw [part_eq, lt_div_iff₀ positiveRat]
      have : (denominator : ℚ) < 2 * (numerator % denominator : Nat) := by exact_mod_cast more
      linarith
    rw [rounded, Nat.cast_add_one, add_sub_add_left_eq_sub, abs_of_pos (sub_pos.mpr below)]
    exact ⟨by linarith, fun tie => by linarith⟩
  · have middle : part = 1 / 2 := by
      rw [part_eq, div_eq_iff nonzero]
      have : (2 * (numerator % denominator : Nat) : ℚ) = denominator := by exact_mod_cast half
      linarith
    refine ⟨?_, fun _ => even⟩
    rw [middle]
    rcases rounded with rounded | rounded
    · rw [rounded, sub_add_cancel_left, abs_neg, abs_of_pos one_half_pos]
    · rw [rounded, Nat.cast_add_one, add_sub_add_left_eq_sub]
      norm_num

/-- An integer that is no more than a half away is a nearest one, and the only one unless it is a
half away. -/
theorem nearest_integer {rounded : Int} (close : |(rounded : ℚ) - number| ≤ 1 / 2)
    (integer : Int) :
    |(rounded : ℚ) - number| ≤ |(integer : ℚ) - number| ∧
      (|(rounded : ℚ) - number| = |(integer : ℚ) - number| →
        integer = rounded ∨ |(rounded : ℚ) - number| = 1 / 2) := by
  by_cases same : integer = rounded
  · rw [same]
    exact ⟨le_rfl, fun _ => .inl rfl⟩
  · have apart : (1 : ℚ) ≤ |(integer : ℚ) - rounded| := by
      exact_mod_cast Int.one_le_abs (sub_ne_zero.mpr same)
    have between : |(integer : ℚ) - rounded| ≤
        |(integer : ℚ) - number| + |(rounded : ℚ) - number| := by
      rw [abs_sub_comm (rounded : ℚ) number]
      exact abs_sub_le _ _ _
    refine ⟨by linarith, fun equal => .inr ?_⟩
    linarith

/-! ## The unit of a fraction -/

theorem unit_pos (exponent : Int) : (0 : ℚ) < 2 ^ exponent :=
  zpow_pos two_pos exponent

theorem scaleDown_pos (numerator : Nat) (positive : 0 < denominator) (exponent : Int) :
    0 < (scaleDown numerator denominator exponent).2 :=
  Nat.mul_pos positive (twoTo_pos _)

/-- Scaling down writes a fraction in units of a power of two. -/
theorem scaleDown_quotient (numerator denominator : Nat) (exponent : Int) :
    ((scaleDown numerator denominator exponent).1 : ℚ) /
        (scaleDown numerator denominator exponent).2 =
      numerator / denominator / 2 ^ exponent := by
  simp only [scaleDown, Nat.cast_mul]
  rcases le_total 0 exponent with coarse | fine
  · have one : (-exponent).toNat = 0 := by omega
    rw [one, twoTo_toNat coarse]
    simp [twoTo, div_div]
  · have one : exponent.toNat = 0 := by omega
    rw [one, twoTo_toNat (Int.neg_nonneg.mpr fine)]
    simp [twoTo, zpow_neg, div_eq_mul_inv, mul_right_comm]

theorem significandBound_eq : (significandBound : ℚ) = leastNormal * 2 := by
  norm_num [significandBound, leastNormal, twoTo]

/-- The lengths of the parts of a fraction tell the unit in which its integer part has 53 bits, or
one more. -/
theorem log2_bounds (counted : numerator ≠ 0) (positive : denominator ≠ 0) :
    let unit : ℚ := 2 ^ ((numerator.log2 : Int) - denominator.log2 - 53)
    (leastNormal : ℚ) ≤ numerator / denominator / unit ∧
      (numerator : ℚ) / denominator / unit < 2 * significandBound := by
  intro unit
  have bounds {value : Nat} (nonzero : value ≠ 0) :
      (2 : ℚ) ^ (value.log2 : Int) ≤ value ∧ (value : ℚ) < 2 ^ ((value.log2 : Int) + 1) := by
    constructor
    · exact_mod_cast Nat.log2_self_le nonzero
    · exact_mod_cast Nat.lt_log2_self
  obtain ⟨least, greatest⟩ := bounds counted
  obtain ⟨leastBelow, greatestBelow⟩ := bounds positive
  have positiveRat : (0 : ℚ) < denominator := Nat.cast_pos.mpr (Nat.pos_of_ne_zero positive)
  have power (bits : Nat) : (twoTo bits : ℚ) = 2 ^ (bits : Int) := by simp [twoTo]
  constructor
  · rw [le_div_iff₀ (unit_pos _), le_div_iff₀ positiveRat]
    calc (leastNormal : ℚ) * unit * denominator
        ≤ leastNormal * unit * 2 ^ ((denominator.log2 : Int) + 1) := by gcongr
      _ = 2 ^ (numerator.log2 : Int) := by
        simp only [leastNormal, power, unit, ← zpow_add₀ (two_ne_zero (α := ℚ))]
        congr 1
        omega
      _ ≤ numerator := least
  · rw [div_lt_iff₀ (unit_pos _), div_lt_iff₀ positiveRat]
    calc (numerator : ℚ) < 2 ^ ((numerator.log2 : Int) + 1) := greatest
      _ = 2 * significandBound * unit * 2 ^ (denominator.log2 : Int) := by
        simp only [significandBound, power, unit, ← zpow_one_add₀ (two_ne_zero (α := ℚ)),
          ← zpow_add₀ (two_ne_zero (α := ℚ))]
        congr 1
        omega
      _ ≤ 2 * significandBound * unit * denominator := by gcongr

/-- In the unit of a fraction its integer part has 53 bits, or fewer if the unit is the smallest. -/
theorem exponentFor_spec (counted : numerator ≠ 0) (positive : denominator ≠ 0) :
    minExponent ≤ exponentFor numerator denominator ∧
      (numerator : ℚ) / denominator / 2 ^ exponentFor numerator denominator < significandBound ∧
      ((leastNormal : ℚ) ≤ numerator / denominator / 2 ^ exponentFor numerator denominator ∨
        exponentFor numerator denominator = minExponent) := by
  obtain ⟨estimate, estimated⟩ :
      ∃ estimate : Int, estimate = (numerator.log2 : Int) - denominator.log2 - 53 := ⟨_, rfl⟩
  obtain ⟨above, below⟩ := log2_bounds counted positive
  rw [← estimated] at above below
  have fits : (scaleDown numerator denominator estimate).1 /
        (scaleDown numerator denominator estimate).2 < significandBound ↔
      (numerator : ℚ) / denominator / 2 ^ estimate < significandBound := by
    have divisor := scaleDown_pos numerator (Nat.pos_of_ne_zero positive) estimate
    rw [← scaleDown_quotient, Nat.div_lt_iff_lt_mul divisor,
      div_lt_iff₀ (Nat.cast_pos.mpr divisor)]
    norm_cast
  -- The unit that is chosen before it is compared with the smallest one.
  obtain ⟨exponent, chosen, least, most⟩ : ∃ exponent,
      exponentFor numerator denominator = max exponent minExponent ∧
        (leastNormal : ℚ) ≤ numerator / denominator / 2 ^ exponent ∧
        (numerator : ℚ) / denominator / 2 ^ exponent < significandBound := by
    by_cases small : (scaleDown numerator denominator estimate).1 /
        (scaleDown numerator denominator estimate).2 < significandBound
    · refine ⟨estimate, ?_, above, fits.mp small⟩
      simp only [exponentFor, ← estimated, small, ↓reduceIte]
    · have large := not_lt.mp (mt fits.mpr small)
      refine ⟨estimate + 1, ?_, ?_, ?_⟩
      · simp only [exponentFor, ← estimated, small, ↓reduceIte]
      · rw [zpow_add_one₀ two_ne_zero, ← div_div, le_div_iff₀ two_pos, ← significandBound_eq]
        exact large
      · rw [zpow_add_one₀ two_ne_zero, ← div_div, div_lt_iff₀ two_pos, mul_comm]
        exact below
  rw [chosen]
  refine ⟨le_max_right _ _, ?_, ?_⟩
  · refine lt_of_le_of_lt ?_ most
    gcongr
    · exact one_le_two
    · exact le_max_left _ _
  · rcases le_total minExponent exponent with coarse | fine
    · rw [max_eq_left coarse]
      exact .inl least
    · exact .inr (max_eq_right fine)

/-! ## The nearest double -/

/-- A number was rounded to an integer in the unit in which it is written. -/
structure Rounded (number : ℚ) (significand : Nat) (exponent : Int) : Prop where
  minimal : minExponent ≤ exponent
  below : number / 2 ^ exponent < significandBound
  normal : (leastNormal : ℚ) ≤ number / 2 ^ exponent ∨ exponent = minExponent
  close : |(significand : ℚ) - number / 2 ^ exponent| ≤ 1 / 2
  even : |(significand : ℚ) - number / 2 ^ exponent| = 1 / 2 → significand % 2 = 0

/-- A rounded number does not fit into the format, because its unit is too coarse or because it was
rounded up to the next power of two in the coarsest unit. -/
def Overflows (significand : Nat) (exponent : Int) : Prop :=
  maxExponent < exponent ∨ (exponent = maxExponent ∧ significand = significandBound)

theorem overflowBound_eq : (overflowBound : ℚ) = (significandBound - 1 / 2) * 2 ^ maxExponent := by
  have unit : (2 : ℚ) ^ maxExponent = 2 * twoTo (maxExponent - 1).toNat := by
    rw [twoTo_toNat (by decide), ← zpow_one_add₀ two_ne_zero]
    rfl
  have positive : 1 ≤ 2 * significandBound := by decide
  rw [overflowBound, unit, Nat.cast_mul, Nat.cast_sub positive]
  push_cast
  ring

/-- A distance in a unit. -/
theorem abs_mul_unit_sub (integer : ℚ) :
    |integer * 2 ^ exponent - number| = |integer - number / 2 ^ exponent| * 2 ^ exponent := by
  have positive := unit_pos exponent
  rw [← abs_of_pos positive, ← abs_mul, abs_of_pos positive, sub_mul,
    div_mul_cancel₀ _ positive.ne']

/-- The significand and the exponent with which a fraction is rounded, before either is found to be
too large. -/
theorem rounded_fraction (counted : numerator ≠ 0) (positive : denominator ≠ 0) :
    let exponent := exponentFor numerator denominator
    let scaled := scaleDown numerator denominator exponent
    Rounded (numerator / denominator) (roundHalfEven scaled.1 scaled.2) exponent := by
  intro exponent scaled
  obtain ⟨minimal, below, normal⟩ := exponentFor_spec counted positive
  obtain ⟨close, even⟩ := roundHalfEven_error scaled.1
    (scaleDown_pos numerator (Nat.pos_of_ne_zero positive) exponent)
  rw [scaleDown_quotient] at close even
  exact ⟨minimal, below, normal, close, even⟩

namespace Rounded

variable (rounded : Rounded number significand exponent)
include rounded

theorem significand_le : significand ≤ significandBound := by
  have close := (abs_le.mp rounded.close).2
  have below := rounded.below
  have small : (significand : ℚ) < (significandBound + 1 : Nat) := by
    push_cast
    linarith
  exact Nat.lt_succ_iff.mp (Nat.cast_lt.mp small)

/-- No representable number is nearer than the rounded one.  A number of the same or a coarser unit
is an integer of this unit; one of a finer unit lies below the first integer of 53 bits, which is no
nearer either. -/
theorem nearest (representable : Representable other) :
    |significand * 2 ^ exponent - number| ≤ |other - number| ∧
      (|significand * 2 ^ exponent - number| = |other - number| →
        other = significand * 2 ^ exponent ∨ significand % 2 = 0) := by
  obtain ⟨integer, unit, bounded, minimal, -, rfl⟩ := representable
  have positive := unit_pos exponent
  have close : |((significand : Int) : ℚ) - number / 2 ^ exponent| ≤ 1 / 2 := by
    rw [Int.cast_natCast]
    exact rounded.close
  have compared := nearest_integer close
  simp only [Int.cast_natCast] at compared
  rcases le_or_gt exponent unit with coarse | fine
  · obtain ⟨shift, rfl⟩ := Int.le.dest coarse
    have same : (integer : ℚ) * 2 ^ (exponent + shift) =
        (integer * 2 ^ shift : Int) * 2 ^ exponent := by
      rw [zpow_add₀ two_ne_zero]
      push_cast
      rw [zpow_natCast]
      ring
    obtain ⟨least, tie⟩ := compared (integer * 2 ^ shift)
    rw [same, abs_mul_unit_sub, abs_mul_unit_sub]
    refine ⟨mul_le_mul_of_nonneg_right least positive.le, fun equal => ?_⟩
    rcases tie (mul_right_cancel₀ positive.ne' equal) with same | half
    · exact .inl (by rw [same, Int.cast_natCast])
    · exact .inr (rounded.even half)
  · have normal : (leastNormal : ℚ) * 2 ^ exponent ≤ number := by
      rw [← le_div_iff₀ positive]
      refine rounded.normal.resolve_right fun least => ?_
      exact absurd minimal (not_le.mpr (least ▸ fine))
    have small : (integer : ℚ) * 2 ^ unit < leastNormal * 2 ^ exponent := by
      have bounded : (integer : ℚ) < leastNormal * 2 := by
        rw [← significandBound_eq]
        exact_mod_cast lt_of_abs_lt bounded
      calc (integer : ℚ) * 2 ^ unit < leastNormal * 2 * 2 ^ unit := by gcongr
        _ = leastNormal * 2 ^ (unit + 1) := by rw [zpow_add_one₀ two_ne_zero]; ring
        _ ≤ leastNormal * 2 ^ exponent := by
          gcongr
          · exact one_le_two
          · exact fine
    obtain ⟨least, -⟩ := compared leastNormal
    have nearer : |(significand : ℚ) * 2 ^ exponent - number| <
        |integer * 2 ^ unit - number| := by
      calc |(significand : ℚ) * 2 ^ exponent - number|
          ≤ |(leastNormal : ℚ) * 2 ^ exponent - number| := by
            rw [abs_mul_unit_sub, abs_mul_unit_sub]
            exact mul_le_mul_of_nonneg_right least positive.le
        _ = number - leastNormal * 2 ^ exponent := by
            rw [abs_of_nonpos (sub_nonpos.mpr normal), neg_sub]
        _ < number - integer * 2 ^ unit := by linarith
        _ ≤ |integer * 2 ^ unit - number| := by
            rw [abs_sub_comm]
            exact le_abs_self _
    exact ⟨nearer.le, fun equal => absurd equal nearer.ne⟩

/-- The unit of a number is too coarse, or it comes to be by rounding, exactly from the bound on. -/
theorem overflows_iff : Overflows significand exponent ↔ overflowBound ≤ number := by
  have positive := unit_pos exponent
  constructor
  · rintro (coarse | ⟨rfl, full⟩)
    · have normal : (leastNormal : ℚ) * 2 ^ exponent ≤ number := by
        rw [← le_div_iff₀ positive]
        refine rounded.normal.resolve_right fun least => ?_
        exact absurd coarse (by rw [least]; decide)
      calc (overflowBound : ℚ) ≤ significandBound * 2 ^ maxExponent := by
            rw [overflowBound_eq]
            gcongr
            linarith
        _ = leastNormal * 2 ^ (maxExponent + 1) := by
            rw [significandBound_eq, zpow_add_one₀ two_ne_zero]
            ring
        _ ≤ leastNormal * 2 ^ exponent := by
            gcongr
            · exact one_le_two
            · exact coarse
        _ ≤ number := normal
    · have close := (abs_le.mp rounded.close).2
      rw [full] at close
      rw [overflowBound_eq, ← le_div_iff₀ positive]
      linarith
  · intro beyond
    by_contra fits
    obtain ⟨fine, room⟩ := not_or.mp fits
    have close := (abs_le.mp rounded.close).1
    rcases lt_or_eq_of_le (not_lt.mp fine) with finer | rfl
    · have bounded := rounded.below
      rw [div_lt_iff₀ positive] at bounded
      have half : (2 : ℚ) ^ exponent * 2 ≤ 2 ^ maxExponent := by
        rw [← zpow_add_one₀ two_ne_zero]
        gcongr
        · exact one_le_two
        · exact finer
      have many : (1 : ℚ) ≤ significandBound := by exact_mod_cast (by decide : 1 ≤ significandBound)
      have less : (significandBound : ℚ) / 2 ≤ significandBound - 1 / 2 := by linarith only [many]
      refine absurd beyond (not_le.mpr ?_)
      calc number < significandBound * 2 ^ exponent := bounded
        _ = significandBound / 2 * (2 ^ exponent * 2) := by ring
        _ ≤ significandBound / 2 * 2 ^ maxExponent :=
          mul_le_mul_of_nonneg_left half (div_nonneg (Nat.cast_nonneg _) two_pos.le)
        _ ≤ (significandBound - 1 / 2) * 2 ^ maxExponent :=
          mul_le_mul_of_nonneg_right less (unit_pos maxExponent).le
        _ = overflowBound := overflowBound_eq.symm
    · have less : (significand : ℚ) + 1 ≤ significandBound := by
        have small := lt_of_le_of_ne rounded.significand_le fun full => room ⟨rfl, full⟩
        exact_mod_cast small
      rw [overflowBound_eq, ← le_div_iff₀ positive] at beyond
      -- Only the largest significand is near enough, and at a half it would have been left.
      have largest : (significand : ℚ) = significandBound - 1 := by linarith
      have tie : |(significand : ℚ) - number / 2 ^ maxExponent| = 1 / 2 := by
        rw [abs_sub_comm, abs_of_nonneg (by linarith)]
        linarith
      have even := rounded.even tie
      have odd : significand = significandBound - 1 := by
        have next : significand + 1 = significandBound := by
          exact_mod_cast eq_sub_iff_add_eq.mp largest
        exact Nat.eq_sub_of_add_eq next
      rw [odd] at even
      exact absurd even (by decide +kernel)

end Rounded

theorem Representable.neg (representable : Representable number) : Representable (-number) := by
  obtain ⟨significand, exponent, bounded, minimal, maximal, rfl⟩ := representable
  refine ⟨-significand, exponent, by rwa [abs_neg], minimal, maximal, ?_⟩
  push_cast
  ring

/-- A fraction that is rounded to more bits than a significand has is written in the next unit. -/
theorem ofFraction_rounded (counted : numerator ≠ 0) (positive : denominator ≠ 0)
    (negative : Bool) : ∃ significand exponent,
      Rounded (numerator / denominator) significand exponent ∧
      (Overflows significand exponent →
        ofFraction negative numerator denominator = infinite negative) ∧
      (¬ Overflows significand exponent → ∃ kept unit,
        ofFraction negative numerator denominator = finite negative kept unit ∧
          kept < significandBound ∧ minExponent ≤ unit ∧ unit ≤ maxExponent ∧
          (kept : ℚ) * 2 ^ unit = significand * 2 ^ exponent ∧
          (significand % 2 = 0 → kept % 2 = 0)) := by
  have rounded := rounded_fraction counted positive
  refine ⟨_, _, rounded, ?_⟩
  have minimal := rounded.minimal
  have bounded := rounded.significand_le
  simp only [ofFraction, counted, ↓reduceIte]
  generalize exponentFor numerator denominator = exponent at *
  generalize roundHalfEven (scaleDown numerator denominator exponent).1
    (scaleDown numerator denominator exponent).2 = significand at *
  by_cases full : significand = significandBound
  · subst full
    have beyond : Overflows significandBound exponent ↔ maxExponent < exponent + 1 := by
      simp only [Overflows, and_true]
      omega
    simp only [↓reduceIte, beyond]
    refine ⟨fun coarse => if_pos coarse, fun fits => ⟨_, _, if_neg fits, by decide, ?_, ?_, ?_, ?_⟩⟩
    · omega
    · omega
    · rw [significandBound_eq, zpow_add_one₀ two_ne_zero]
      ring
    · decide
  · have beyond : Overflows significand exponent ↔ maxExponent < exponent := by
      simp only [Overflows, full, and_false, or_false]
    simp only [full, ↓reduceIte, beyond]
    refine ⟨fun coarse => if_pos coarse, fun fits => ⟨_, _, if_neg fits, ?_, minimal, ?_, rfl, id⟩⟩
    · exact lt_of_le_of_ne bounded full
    · omega

/-- What lies half a unit or more beyond the largest double is rounded to an infinity, and any other
positive fraction to the double that is nearest to it. -/
theorem ofFraction_spec (counted : numerator ≠ 0) (positive : denominator ≠ 0)
    (negative : Bool) :
    ((overflowBound : ℚ) ≤ numerator / denominator →
        ofFraction negative numerator denominator = infinite negative) ∧
      ((numerator : ℚ) / denominator < overflowBound →
        (ofFraction negative numerator denominator).Nearest
          ((if negative then -1 else 1) * (numerator / denominator))) := by
  obtain ⟨significand, exponent, rounded, beyond, fits⟩ :=
    ofFraction_rounded counted positive negative
  rw [rounded.overflows_iff] at beyond fits
  refine ⟨beyond, fun within => ?_⟩
  obtain ⟨kept, unit, same, bounded, minimal, maximal, value, even⟩ := fits (not_le.mpr within)
  have representable : Representable (kept * 2 ^ unit) :=
    ⟨kept, unit, by exact_mod_cast bounded, minimal, maximal, by push_cast; rfl⟩
  have nearest {other : ℚ} (also : Representable other) :
      |(kept : ℚ) * 2 ^ unit - numerator / denominator| ≤
          |other - numerator / denominator| ∧
        (|(kept : ℚ) * 2 ^ unit - numerator / denominator| =
            |other - numerator / denominator| → other = kept * 2 ^ unit ∨ kept % 2 = 0) := by
    rw [value]
    exact (rounded.nearest also).imp_right fun tie equal => (tie equal).imp_right even
  refine ⟨negative, kept, unit, _, same, congrArg number? same, ?_⟩
  cases negative with
  | false =>
      simp only [Bool.false_eq_true, ↓reduceIte, one_mul]
      exact ⟨representable, fun other also => nearest also⟩
  | true =>
      simp only [↓reduceIte, neg_mul, one_mul]
      refine ⟨representable.neg, fun other also => ?_⟩
      have mirrored (point : ℚ) : |-point - -((numerator : ℚ) / denominator)| =
          |point - numerator / denominator| := by
        rw [neg_sub_neg, abs_sub_comm]
      rw [← neg_neg other, mirrored, mirrored, neg_inj]
      exact nearest also.neg

/-! ## Integers as doubles -/

/-- Zero is a double. -/
theorem nearest_zero : (signedZero false).Nearest 0 := by
  refine ⟨false, 0, minExponent, 0, rfl, ?_, ?_, ?_⟩
  · simp [signedZero, number?]
  · exact ⟨0, 0, by decide, by decide, by decide, by simp⟩
  · intro other _
    rw [sub_zero, abs_zero, sub_zero]
    exact ⟨abs_nonneg other, fun zero => .inl (abs_eq_zero.mp zero.symm)⟩

/-- An integer has no nearest double exactly if it lies half a unit or more beyond the range, and
any other one is converted to the double that is nearest to it. -/
theorem ofInt?_cases (value : Int) :
    (overflowBound ≤ value.natAbs ∧ ofInt? value = none) ∨
      (value.natAbs < overflowBound ∧
        ∃ double, ofInt? value = some double ∧ double.Nearest value) := by
  by_cases zero : value = 0
  · subst zero
    have positive : 0 < overflowBound := Nat.mul_pos (by decide) (twoTo_pos _)
    exact .inr ⟨positive, _, rfl, by exact_mod_cast nearest_zero⟩
  · have counted : value.natAbs ≠ 0 := Int.natAbs_ne_zero.mpr zero
    obtain ⟨exceeds, fits⟩ := ofFraction_spec counted one_ne_zero (decide (value < 0))
    have signed : ((if decide (value < 0) then -1 else 1) * (value.natAbs / (1 : Nat)) : ℚ) =
        value := by
      rw [Nat.cast_one, div_one, Nat.cast_natAbs]
      by_cases negative : value < 0
      · simp [negative, abs_of_neg]
      · simp [negative, abs_of_nonneg (not_lt.mp negative)]
    rw [signed] at fits
    simp only [Nat.cast_one, div_one] at exceeds fits
    rcases le_or_gt overflowBound value.natAbs with beyond | within
    · refine .inl ⟨beyond, ?_⟩
      rw [ofInt?, exceeds (by exact_mod_cast beyond)]
    · have nearest := fits (by exact_mod_cast within)
      obtain ⟨_, _, _, _, same, -⟩ := id nearest
      refine .inr ⟨within, _, ?_, nearest⟩
      rw [ofInt?, same]

end Workflow.Binary64
