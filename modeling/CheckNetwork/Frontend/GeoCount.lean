import CheckNetwork.Frontend.JsValue
import CheckNetwork.Go.FloatInteger
import CheckNetwork.Text.Measured
import CheckNetwork.Text.NumberParts

/-!
# The counts of the sidecar

`exactGeoCount` compares a number token with a bound, and adds up the exponent
in double precision.
-/

namespace CheckNetwork.Frontend

open CheckNetwork.Go
open CheckNetwork.Text

/-- `Number` of an exponent, `0` if there is none. -/
def exponentDouble : Option (Option Char × List Char) → F64
  | none => F64.ofInt 0
  | some (sign, digits) =>
      if sign = some '-' then (F64.round (value digits)).neg else F64.round (value digits)

/-- `exactGeoCount`. -/
def exactGeoCount (token : List Char) (maximum : Nat) : Measured Bool :=
  match numberParts digitsPart token with
  | none => pure false
  | some parts => do
      let fraction := parts.fraction.getD []
      let joined ← .text (parts.whole ++ fraction)
      let digits ← .text (withoutLeading joined)
      if digits = [] then pure true
      else do
        let significant ← .text (withoutTrailing digits)
        let exponent ← .double (exponentDouble parts.exponent)
        let shift ← .double (exponent.sub (F64.ofInt fraction.length))
        let shift ← .double (shift.add (F64.ofInt digits.length))
        let shift ← .double (shift.sub (F64.ofInt significant.length))
        match safeInteger? shift with
        | none => pure false
        | some shift =>
            if parts.negative ∨ shift < 0 ∨ 4 < significant.length + shift then pure false
            else do
              let number ← .double ((F64.ofInt (value significant)).mul
                (F64.ofInt (10 ^ shift.toNat)))
              pure (number.le (F64.ofInt maximum))

/-! ## The exponent -/

section Exponent

theorem safeInteger?_of_value? {number : F64} {value : Int}
    (same : number.value? = some (value : ℚ)) (small : value.natAbs ≤ maxSafeInteger) :
    safeInteger? number = some value := by
  cases number with
  | nan => cases same
  | infinite negative => cases same
  | negativeZero =>
      rw [safeInteger?, Option.some.injEq]
      exact_mod_cast Option.some.inj same
  | finite held =>
      cases same
      rw [safeInteger?, Rat.den_intCast, Rat.num_intCast, if_pos ⟨rfl, small⟩]

/-- A safe integer that is past a power of two is past it as an integer. -/
theorem past_of_safeInteger? {number : F64} {value : Int} {negative : Bool} {power : Nat}
    (past : F64.Past negative power number) (safe : safeInteger? number = some value) :
    2 ^ power ≤ if negative then -value else value := by
  cases number with
  | nan => exact past.elim
  | negativeZero => exact past.elim
  | infinite side => cases safe
  | finite held =>
      rw [safeInteger?] at safe
      split at safe
      · rename_i whole
        cases safe
        have same : held = (held.num : ℚ) := (Rat.den_eq_one_iff held).mp whole.1 |>.symm
        rw [F64.Past, same] at past
        cases negative with
        | true =>
            rw [if_pos rfl] at past ⊢
            exact_mod_cast past
        | false =>
            rw [if_neg Bool.false_ne_true] at past ⊢
            exact_mod_cast past
      · cases safe

variable {parts : NumberParts}

theorem value?_exponentDouble (small : parts.exponentValue.natAbs < 2 ^ 53) :
    (exponentDouble parts.exponent).value? = some (parts.exponentValue : ℚ) := by
  unfold exponentDouble NumberParts.exponentValue at *
  cases present : parts.exponent with
  | none =>
      rw [F64.ofInt]
      exact F64.value?_round_intCast (by decide)
  | some exponent =>
      obtain ⟨sign, digits⟩ := exponent
      rw [present] at small
      dsimp only at small ⊢
      have bounded : ((value digits : Nat) : Int).natAbs < 2 ^ 53 := by
        split at small <;> omega
      have rounded := F64.value?_round_intCast bounded
      rw [Int.cast_natCast] at rounded
      split
      · rw [F64.value?_neg rounded]
        push_cast
        rfl
      · exact rounded

theorem past_exponentDouble {power : Nat} (large : 2 ^ power ≤ parts.exponentValue.natAbs) :
    F64.Past (decide (parts.exponentValue < 0)) power (exponentDouble parts.exponent) := by
  have positive : 0 < 2 ^ power := by positivity
  unfold exponentDouble NumberParts.exponentValue at *
  cases present : parts.exponent with
  | none =>
      rw [present] at large
      exfalso
      dsimp only at large
      omega
  | some exponent =>
      obtain ⟨sign, digits⟩ := exponent
      rw [present] at large
      dsimp only at large ⊢
      have above : 2 ^ power ≤ value digits := by
        split at large <;> omega
      have past : F64.Past false power (F64.round (value digits : ℚ)) := by
        apply F64.past_round
        rw [if_neg Bool.false_ne_true]
        exact_mod_cast above
      split
      · have negated := past.neg
        rw [Bool.not_false] at negated
        rw [decide_eq_true (by omega)]
        exact negated
      · rw [decide_eq_false (by omega)]
        exact past

/-- The exponent of the significant digits, as the browser adds it up. -/
def shiftDouble (parts : NumberParts) : F64 :=
  (((exponentDouble parts.exponent).sub (F64.ofInt parts.places)).add
    (F64.ofInt parts.leading.length)).sub (F64.ofInt parts.significant.length)

/-- The browser has the exponent as it is, or one that is far out on the same
side. -/
theorem safeInteger?_shiftDouble (places_le : parts.places ≤ 16384)
    (leading_le : parts.leading.length ≤ 16384) :
    safeInteger? (shiftDouble parts) = some parts.shift ∨
      (parts.shift < 0 ∨ 4 < parts.shift) ∧
        ∀ shift, safeInteger? (shiftDouble parts) = some shift → shift < 0 ∨ 4 < shift := by
  have length := NumberParts.length_significant parts
  have shift_eq : parts.shift =
    parts.exponentValue - parts.places + trailing parts.leading := rfl
  have count : ∀ number : Nat, number ≤ 16384 →
      (F64.ofInt number).value? = some ((number : Int) : ℚ) := fun number le =>
    F64.value?_round_intCast (by omega)
  by_cases small : parts.exponentValue.natAbs < 2 ^ 40
  · have less := F64.value?_sub (@value?_exponentDouble parts (by omega)) (count _ places_le)
      (by omega)
    have more := F64.value?_add less (count _ leading_le) (by omega)
    have last := F64.value?_sub more (count parts.significant.length (by omega)) (by omega)
    have sum : parts.exponentValue - parts.places + parts.leading.length -
        parts.significant.length = parts.shift := by
      omega
    rw [sum] at last
    exact .inl (safeInteger?_of_value? last (by rw [maxSafeInteger]; omega))
  · right
    have past := past_exponentDouble (not_lt.mp small)
    have less := past.sub (count _ places_le) (by omega)
    have more := less.add (count _ leading_le) (by omega)
    have last := more.sub (count parts.significant.length (by omega)) (by omega)
    refine ⟨by omega, fun shift safe => ?_⟩
    have far := past_of_safeInteger? last safe
    split at far <;> omega

end Exponent

/-! ## Exactness -/

section Exact

variable {parts : NumberParts} {mark : Char} {maximum : Nat}

/-- What `exactGeoCount` computes for a number that is not zero. -/
theorem exactGeoCount_parts (valid : parts.Valid) (known : mark = 'e' ∨ mark = 'E')
    (nonzero : parts.leading ≠ []) :
    (exactGeoCount (parts.text mark) maximum).result =
      match safeInteger? (shiftDouble parts) with
      | none => some false
      | some shift =>
          if parts.negative ∨ shift < 0 ∨ 4 < parts.significant.length + shift then some false
          else some (((F64.ofInt (value parts.significant)).mul
            (F64.ofInt (10 ^ shift.toNat))).le (F64.ofInt maximum)) := by
  unfold exactGeoCount
  rw [(NumberParts.numberParts_text valid known).2]
  dsimp only
  rw [Measured.result_bind, Measured.result_text, Option.bind_some, Measured.result_bind,
    Measured.result_text, Option.bind_some, ← NumberParts.digits, ← NumberParts.leading,
    Measured.result_ite, if_neg nonzero]
  rw [Measured.result_bind, Measured.result_text, Option.bind_some, ← NumberParts.significant]
  simp only [Measured.result_bind, Measured.result_double, Option.bind_some]
  rw [← NumberParts.places, ← shiftDouble]
  cases safeInteger? (shiftDouble parts) with
  | none => rfl
  | some shift =>
      dsimp only
      rw [Measured.result_ite]
      rfl

/-- The product is that of the integers. -/
theorem le_product {number shift : Nat} (below : number * 10 ^ shift < 10 ^ 4)
    (bounded : maximum < 10 ^ 4) (positive : 0 < number) :
    ((F64.ofInt number).mul (F64.ofInt (10 ^ shift))).le (F64.ofInt maximum) =
      decide (number * 10 ^ shift ≤ maximum) := by
  have power : 10 ^ shift < 10 ^ 4 :=
    (Nat.le_mul_of_pos_left _ positive).trans_lt below
  have factor : number < 10 ^ 4 :=
    (Nat.le_mul_of_pos_right _ (by positivity)).trans_lt below
  have count : ∀ number : Nat, number < 10 ^ 4 →
      (F64.ofInt number).value? = some ((number : Int) : ℚ) := fun number small =>
    F64.value?_round_intCast (by omega)
  have scale : (F64.ofInt (10 ^ shift)).value? = some ((10 ^ shift : Int) : ℚ) := by
    have known := count _ power
    push_cast at known ⊢
    exact known
  have product : ((F64.ofInt number).mul (F64.ofInt (10 ^ shift))).value? =
      some ((number * 10 ^ shift : Int) : ℚ) :=
    F64.value?_mul (count _ factor) scale (by
      have cast : (number : Int) * 10 ^ shift = (number * 10 ^ shift : Nat) := by push_cast; rfl
      rw [cast]
      omega)
  have compared := F64.le_eq product (count _ bounded)
  have cast : (number : Int) * 10 ^ shift = (number * 10 ^ shift : Nat) := by push_cast; rfl
  rw [compared, decide_eq_decide, cast, Int.ofNat_le]

/-- `exactGeoCount` passes exactly the integers up to the bound. -/
theorem result_exactGeoCount (valid : parts.Valid) (known : mark = 'e' ∨ mark = 'E')
    (short : (parts.text mark).length ≤ 16384) (bounded : maximum < 10 ^ 4) :
    (exactGeoCount (parts.text mark) maximum).result = some true ↔
      ∃ number, parts.Denotes maximum number := by
  by_cases zero : parts.leading = []
  · have passed : (exactGeoCount (parts.text mark) maximum).result = some true := by
      unfold exactGeoCount
      rw [(NumberParts.numberParts_text valid known).2]
      dsimp only
      rw [Measured.result_bind, Measured.result_text, Option.bind_some, Measured.result_bind,
        Measured.result_text, Option.bind_some, ← NumberParts.digits, ← NumberParts.leading,
        Measured.result_ite, if_pos zero, Measured.result_pure]
    exact ⟨fun _ => ⟨0, (NumberParts.denotes_of_leading_eq_nil zero).mpr rfl⟩, fun _ => passed⟩
  · obtain ⟨leading_le, places_le⟩ := NumberParts.length_bounds parts mark
    have significant := valid.significant zero
    have some_ := List.length_pos_iff.mpr significant.nonempty
    have decided := safeInteger?_shiftDouble (places_le.trans short) (leading_le.trans short)
    rw [exactGeoCount_parts valid known zero]
    have refused : parts.shift < 0 ∨ 4 < (parts.significant.length : Int) + parts.shift ∨
        parts.negative = true → ¬∃ number, parts.Denotes maximum number := by
      rintro outside ⟨number, denoted⟩
      rcases outside with below | above | negative
      · exact NumberParts.not_denotes_of_shift valid zero bounded (.inl below) denoted
      · exact NumberParts.not_denotes_of_shift valid zero bounded (.inr above) denoted
      · exact NumberParts.not_denotes_of_negative zero negative denoted
    rcases decided with same | ⟨outside, far⟩
    · rw [same]
      dsimp only
      by_cases out : parts.negative = true ∨ parts.shift < 0 ∨
          4 < (parts.significant.length : Int) + parts.shift
      · rw [if_pos out]
        have failed : some false ≠ some true := fun same => Bool.false_ne_true (Option.some.inj same)
        exact ⟨fun passed => absurd passed failed, fun denoted => absurd denoted (refused (by tauto))⟩
      · rw [if_neg out]
        push Not at out
        obtain ⟨positive, nonneg, narrow⟩ := out
        have below : value parts.significant * 10 ^ parts.shift.toNat < 10 ^ 4 := by
          calc value parts.significant * 10 ^ parts.shift.toNat
              < 10 ^ parts.significant.length * 10 ^ parts.shift.toNat :=
                Nat.mul_lt_mul_of_pos_right (value_lt significant.all) (by positivity)
            _ = 10 ^ (parts.significant.length + parts.shift.toNat) := (pow_add ..).symm
            _ ≤ 10 ^ 4 := Nat.pow_le_pow_right (by decide) (by omega)
        rw [le_product below bounded significant.value_pos, Option.some.injEq, decide_eq_true_iff]
        constructor
        · exact fun le => ⟨_, (NumberParts.denotes_iff_of_shift zero
            (Bool.eq_false_iff.mpr positive) nonneg).mpr ⟨rfl, le⟩⟩
        · rintro ⟨number, denoted⟩
          obtain ⟨rfl, le⟩ := (NumberParts.denotes_iff_of_shift zero
            (Bool.eq_false_iff.mpr positive) nonneg).mp denoted
          exact le
    · have none_ := refused (by omega)
      refine ⟨fun passed => ?_, fun denoted => absurd denoted none_⟩
      exfalso
      split at passed
      · cases passed
      · rename_i shift safe
        have out := far shift safe
        rw [if_pos (by omega)] at passed
        cases passed

end Exact

/-! ## What is made -/

section Within

variable {parts : NumberParts} {mark : Char} {limit : Nat}

theorem within_exactGeoCount (valid : parts.Valid) (known : mark = 'e' ∨ mark = 'E')
    (le : (parts.text mark).length ≤ limit) (maximum : Nat) :
    (exactGeoCount (parts.text mark) maximum).Within limit := by
  have digits_le := (NumberParts.length_digits_le parts mark).trans le
  have leading_le := (NumberParts.length_bounds parts mark).1.trans le
  unfold exactGeoCount
  rw [(NumberParts.numberParts_text valid known).2]
  dsimp only
  apply Measured.within_text_bind digits_le
  apply Measured.within_text_bind leading_le
  apply Measured.within_ite (fun _ => Measured.within_pure true)
  intro _
  apply Measured.within_text_bind ((List.rdropWhile_prefix _ _).length_le.trans leading_le)
  apply Measured.within_double_bind
  apply Measured.within_double_bind
  apply Measured.within_double_bind
  apply Measured.within_double_bind
  split
  · exact Measured.within_pure false
  · apply Measured.within_ite (fun _ => Measured.within_pure false)
    intro _
    apply Measured.within_double_bind
    exact Measured.within_pure _

end Within

end CheckNetwork.Frontend
