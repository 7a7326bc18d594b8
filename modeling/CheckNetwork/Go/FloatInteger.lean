import CheckNetwork.Go.Float
import Mathlib.Algebra.Order.Ring.Pow
import Mathlib.Tactic.Linarith
import Mathlib.Tactic.Positivity

/-!
# Integers in double precision

Integers of at most 53 bits are added without an error.  A number that is past
a power of two stays past it when it is rounded, on its own side of zero.
-/

namespace CheckNetwork.Go.F64

/-! ## Rounding -/

section Rounding

theorem roundHalfEven_intCast (value : Int) : roundHalfEven (value : ℚ) = value := by
  rw [roundHalfEven, Int.floor_intCast]
  exact if_pos (by rw [sub_self]; norm_num)

theorem le_roundHalfEven {value : ℚ} {least : Int} (le : (least : ℚ) ≤ value) :
    least ≤ roundHalfEven value := by
  have floor : least ≤ ⌊value⌋ := Int.le_floor.mpr le
  rw [roundHalfEven]
  split_ifs <;> omega

/-- The leading bit is no further up than the number. -/
theorem binaryExponent_le {value : ℚ} (nonzero : value ≠ 0) :
    (2 : ℚ) ^ binaryExponent value ≤ |value| := by
  unfold binaryExponent
  dsimp only
  split
  · assumption
  · have numerator : (2 : ℚ) ^ Nat.log2 value.num.natAbs ≤ value.num.natAbs := by
      exact_mod_cast Nat.log2_self_le (by simpa using nonzero)
    have denominator : (value.den : ℚ) ≤ 2 ^ (Nat.log2 value.den + 1) := by
      exact_mod_cast (Nat.lt_log2_self (n := value.den)).le
    have parts : |value| = value.num.natAbs / value.den := by
      conv_lhs => rw [← Rat.num_div_den value]
      rw [abs_div, Nat.abs_cast, Nat.cast_natAbs, Int.cast_abs]
    rw [parts, le_div_iff₀ (by exact_mod_cast value.den_pos)]
    calc (2 : ℚ) ^ ((Nat.log2 value.num.natAbs : Int) - Nat.log2 value.den - 1) * value.den
        ≤ 2 ^ ((Nat.log2 value.num.natAbs : Int) - Nat.log2 value.den - 1) *
            2 ^ (Nat.log2 value.den + 1) :=
          mul_le_mul_of_nonneg_left denominator (zpow_pos (by norm_num) _).le
      _ = 2 ^ Nat.log2 value.num.natAbs := by
          rw [← zpow_natCast, ← zpow_natCast, ← zpow_add₀ (by norm_num)]
          congr 1
          push_cast
          ring
      _ ≤ value.num.natAbs := numerator

/-- Where the units are not below the last bit, an integer is kept. -/
theorem roundToPrecision_intCast {value : Int} (small : value.natAbs < 2 ^ 53) :
    roundToPrecision (value : ℚ) = value := by
  rw [roundToPrecision]
  split
  · rename_i zero
    exact zero.symm
  · rename_i nonzero
    have last_le : lastExponent (value : ℚ) ≤ 0 := by
      have leading := binaryExponent_le nonzero
      have below : |(value : ℚ)| < 2 ^ (53 : Int) := by
        rw [← Int.cast_abs, ← Int.natCast_natAbs]
        exact_mod_cast small
      have narrow := (zpow_lt_zpow_iff_right₀ (by norm_num : (1 : ℚ) < 2)).mp
        (leading.trans_lt below)
      rw [lastExponent]
      omega
    obtain ⟨places, same⟩ : ∃ places : Nat, lastExponent (value : ℚ) = -places :=
      ⟨(lastExponent (value : ℚ)).natAbs, by omega⟩
    have whole : (value : ℚ) / 2 ^ lastExponent (value : ℚ) =
        ((value * 2 ^ places : Int) : ℚ) := by
      rw [same, zpow_neg, zpow_natCast, div_inv_eq_mul]
      push_cast
      rfl
    rw [whole, roundHalfEven_intCast, same, zpow_neg, zpow_natCast]
    push_cast
    exact mul_inv_cancel_right₀ (by positivity) _

/-- A number of at least a power of two is not rounded below it. -/
theorem le_roundToPrecision {value : ℚ} {power : Nat} (le : 2 ^ power ≤ value) :
    2 ^ power ≤ roundToPrecision value := by
  have positive : (0 : ℚ) < value := lt_of_lt_of_le (by positivity) le
  have unit : (0 : ℚ) < 2 ^ lastExponent value := zpow_pos (by norm_num) _
  rw [roundToPrecision, if_neg positive.ne', ← div_le_iff₀ unit]
  by_cases inside : lastExponent value ≤ power
  · obtain ⟨gap, same⟩ : ∃ gap : Nat, (power : Int) - lastExponent value = gap :=
      ⟨((power : Int) - lastExponent value).toNat, by omega⟩
    have whole : (2 : ℚ) ^ power / 2 ^ lastExponent value = ((2 ^ gap : Int) : ℚ) := by
      rw [← zpow_natCast, ← zpow_sub₀ (by norm_num), same, zpow_natCast]
      push_cast
      rfl
    rw [whole, Int.cast_le]
    apply le_roundHalfEven
    rw [← whole]
    exact div_le_div_of_nonneg_right le unit.le
  · -- The last bit is above the power, and the number has more bits still.
    have leading : (2 : ℚ) ^ (lastExponent value) ≤ value := by
      have known := binaryExponent_le positive.ne'
      rw [abs_of_pos positive] at known
      refine le_trans (zpow_le_zpow_right₀ (by norm_num) ?_) known
      rw [lastExponent] at inside ⊢
      omega
    have one_le : ((1 : Int) : ℚ) ≤ roundHalfEven (value / 2 ^ lastExponent value) := by
      rw [Int.cast_le]
      apply le_roundHalfEven
      rw [Int.cast_one, le_div_iff₀ unit, one_mul]
      exact leading
    rw [Int.cast_one] at one_le
    refine le_trans ?_ one_le
    rw [div_le_one unit, ← zpow_natCast]
    exact zpow_le_zpow_right₀ (by norm_num) (by omega)

theorem roundHalfEven_neg (value : ℚ) : roundHalfEven (-value) = -roundHalfEven value := by
  by_cases whole : (⌊value⌋ : ℚ) = value
  · rw [← whole, ← Int.cast_neg, roundHalfEven_intCast, roundHalfEven_intCast]
  · have lower : (⌊value⌋ : ℚ) < value := lt_of_le_of_ne (Int.floor_le value) whole
    have upper := Int.lt_floor_add_one value
    have floor : ⌊-value⌋ = -⌊value⌋ - 1 := by
      rw [Int.floor_eq_iff]
      push_cast
      constructor <;> linarith
    rw [roundHalfEven, roundHalfEven, floor]
    push_cast
    -- What is left on one side of a half is left on the other side of it.
    split_ifs <;> first | omega | linarith

theorem roundToPrecision_neg (value : ℚ) :
    roundToPrecision (-value) = -roundToPrecision value := by
  have exponent : lastExponent (-value) = lastExponent value := by
    rw [lastExponent, lastExponent, binaryExponent, binaryExponent, Rat.neg_num, Rat.neg_den,
      Int.natAbs_neg, abs_neg]
  rw [roundToPrecision, roundToPrecision, exponent]
  by_cases zero : value = 0
  · rw [if_pos zero, if_pos (neg_eq_zero.mpr zero), neg_zero]
  · rw [if_neg zero, if_neg (neg_ne_zero.mpr zero), neg_div, roundHalfEven_neg, Int.cast_neg,
      neg_mul]

theorem value?_round_intCast {value : Int} (small : value.natAbs < 2 ^ 53) :
    (round (value : ℚ)).value? = some (value : ℚ) := by
  have bounded : ¬(2 : ℚ) ^ (1024 : Int) ≤ |(value : ℚ)| := by
    have below : |(value : ℚ)| < 2 ^ (53 : Int) := by
      rw [← Int.cast_abs, ← Int.natCast_natAbs]
      exact_mod_cast small
    exact not_le.mpr (below.trans (zpow_lt_zpow_right₀ (by norm_num) (by norm_num)))
  rw [round, roundToPrecision_intCast small, if_neg bounded]
  split
  · rename_i impossible
    rw [impossible.1, lt_self_iff_false] at impossible
    exact impossible.2.elim
  · rfl

end Rounding

/-! ## Integers -/

section Integers

variable {left right : F64} {a b : Int}

theorem value?_neg {number : F64} {value : ℚ} (same : number.value? = some value) :
    number.neg.value? = some (-value) := by
  cases number with
  | nan => cases same
  | infinite negative => cases same
  | negativeZero =>
      cases same
      rfl
  | finite held =>
      cases same
      rw [neg]
      split
      · rename_i zero
        rw [zero, neg_zero]
        rfl
      · rfl

/-- A sum of integers of at most 53 bits is exact. -/
theorem value?_add (leftSame : left.value? = some (a : ℚ)) (rightSame : right.value? = some (b : ℚ))
    (small : (a + b).natAbs < 2 ^ 53) : (left.add right).value? = some ((a + b : Int) : ℚ) := by
  have sum := value?_round_intCast small
  push_cast at sum ⊢
  cases left with
  | nan => cases leftSame
  | infinite negative => cases leftSame
  | negativeZero =>
      rw [← Option.some.inj leftSame, zero_add]
      cases right with
      | nan => cases rightSame
      | infinite negative => cases rightSame
      | negativeZero => exact rightSame
      | finite value => exact rightSame
  | finite value =>
      cases right with
      | nan => cases rightSame
      | infinite negative => cases rightSame
      | negativeZero =>
          rw [← Option.some.inj rightSame, add_zero]
          exact leftSame
      | finite other =>
          rw [add, Option.some.inj leftSame, Option.some.inj rightSame]
          exact sum

theorem value?_sub (leftSame : left.value? = some (a : ℚ)) (rightSame : right.value? = some (b : ℚ))
    (small : (a - b).natAbs < 2 ^ 53) : (left.sub right).value? = some ((a - b : Int) : ℚ) := by
  have negated := value?_neg rightSame
  rw [← Int.cast_neg] at negated
  exact value?_add leftSame negated small

theorem value?_mul (leftSame : left.value? = some (a : ℚ)) (rightSame : right.value? = some (b : ℚ))
    (small : (a * b).natAbs < 2 ^ 53) : (left.mul right).value? = some ((a * b : Int) : ℚ) := by
  have product := value?_round_intCast small
  push_cast at product ⊢
  have zero : ∀ negative, (signedZero negative).value? = some 0 := by
    intro negative
    cases negative <;> rfl
  have finite_ : ∀ negative, (if (a : ℚ) * b = 0 then signedZero negative
      else round ((a : ℚ) * b)).value? = some ((a : ℚ) * b) := by
    intro negative
    split
    · rename_i same
      rw [same, zero]
    · exact product
  unfold mul
  rw [leftSame, rightSame]
  cases left <;> cases right <;> first | cases leftSame; done | cases rightSame; done | exact finite_ _

/-- Integers are compared as they are. -/
theorem le_eq (leftSame : left.value? = some (a : ℚ)) (rightSame : right.value? = some (b : ℚ)) :
    left.le right = decide (a ≤ b) := by
  have values : right.lt left = decide (right.value?.getD 0 < left.value?.getD 0) := by
    cases left <;> cases right <;> first | cases leftSame; done | cases rightSame; done | rfl
  have less : right.lt left = decide (b < a) := by
    rw [values, leftSame, rightSame, Option.getD_some, Option.getD_some, decide_eq_decide,
      Int.cast_lt]
  have compared : left.le right = !right.lt left := by
    cases left <;> cases right <;> first | cases leftSame; done | cases rightSame; done | rfl
  rw [compared, less, ← decide_not, decide_eq_decide, not_lt]

end Integers

/-! ## Large numbers -/

/-- A number that is at least a power of two, on the given side of zero. -/
def Past (negative : Bool) (power : Nat) : F64 → Prop
  | infinite side => side = negative
  | finite value => 2 ^ power ≤ if negative then -value else value
  | _ => False

section Past

variable {negative : Bool} {power : Nat}

theorem past_round {value : ℚ} (past : 2 ^ power ≤ if negative then -value else value) :
    Past negative power (round value) := by
  have positive : (0 : ℚ) < 2 ^ power := by positivity
  have rounded : (2 : ℚ) ^ power ≤
      if negative then -roundToPrecision value else roundToPrecision value := by
    cases negative with
    | true => exact roundToPrecision_neg value ▸ le_roundToPrecision past
    | false => exact le_roundToPrecision past
  rw [round]
  split_ifs with large zero
  · cases negative with
    | true => exact decide_eq_true (neg_pos.mp (positive.trans_le past))
    | false => exact decide_eq_false (not_lt.mpr (positive.le.trans past))
  · rw [zero.1, neg_zero, ite_self] at rounded
    exact absurd rounded (not_le.mpr positive)
  · exact rounded

theorem Past.neg {number : F64} (past : Past negative power number) :
    Past (!negative) power number.neg := by
  cases number with
  | nan => exact past.elim
  | negativeZero => exact past.elim
  | infinite side => exact congrArg (! ·) past
  | finite value =>
      have nonzero : value ≠ 0 := by
        rintro rfl
        rw [Past, neg_zero, ite_self] at past
        exact absurd past (not_le.mpr (by positivity))
      rw [F64.neg, if_neg nonzero]
      cases negative with
      | true => exact past
      | false =>
          change (2 : ℚ) ^ power ≤ - -value
          rw [neg_neg]
          exact past

/-- A small integer does not bring a large number back. -/
theorem Past.add {number other : F64} {small : Int} (past : Past negative (power + 1) number)
    (same : other.value? = some (small : ℚ)) (le : small.natAbs ≤ 2 ^ power) :
    Past negative power (number.add other) := by
  have bound : |(small : ℚ)| ≤ 2 ^ power := by
    rw [← Int.cast_abs, ← Int.natCast_natAbs]
    exact_mod_cast le
  have double : (2 : ℚ) ^ (power + 1) = 2 ^ power + 2 ^ power := by ring
  have sides := abs_le.mp bound
  have positive : (0 : ℚ) < 2 ^ power := by positivity
  cases number with
  | nan => exact past.elim
  | negativeZero => exact past.elim
  | infinite side =>
      cases other with
      | nan => cases same
      | infinite other => cases same
      | negativeZero => exact past
      | finite value => exact past
  | finite value =>
      rw [Past, double] at past
      cases other with
      | nan => cases same
      | infinite other => cases same
      | negativeZero =>
          change (2 : ℚ) ^ power ≤ if negative then -value else value
          linarith
      | finite value' =>
          cases same
          apply past_round
          cases negative with
          | true =>
              rw [if_pos rfl] at past ⊢
              linarith
          | false =>
              rw [if_neg Bool.false_ne_true] at past ⊢
              linarith

theorem Past.sub {number other : F64} {small : Int} (past : Past negative (power + 1) number)
    (same : other.value? = some (small : ℚ)) (le : small.natAbs ≤ 2 ^ power) :
    Past negative power (number.sub other) := by
  have negated := value?_neg same
  rw [← Int.cast_neg] at negated
  exact past.add negated (by rwa [Int.natAbs_neg])

end Past

end CheckNetwork.Go.F64
