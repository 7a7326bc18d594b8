import CheckNetwork.Text.Measured
import CheckNetwork.Text.NumberParts

/-!
# The integers of the Android client

`IPContextJson.integer` cuts an exponent off where it cannot matter any more,
and multiplies digit by digit.
-/

namespace CheckNetwork.Android

open CheckNetwork.Text

def digitValue (char : Char) : Int := (char.toNat - '0'.toNat : Nat)

/-- `Math.min(100000, exponent * 10 + digit)` for each digit. -/
def saturatedExponent (digits : List Char) : Measured Int :=
  digits.foldlM (fun exponent char => do
    let next ← .integer (exponent * 10 + digitValue char)
    .integer (min 100000 next)) 0

def exponentOf : Option (Option Char × List Char) → Measured Int
  | none => .integer 0
  | some (sign, digits) => do
      let exponent ← saturatedExponent digits
      if sign = some '-' then .integer (-exponent) else pure exponent

/-- `for (i = 0; i < zeros; i++) value *= 10`. -/
def multiplied : Nat → Int → Measured Int
  | 0, value => pure value
  | zeros + 1, value => do
      let next ← .integer (value * 10)
      multiplied zeros next

def maxInteger : Int := 4294967295

/-- `IPContextJson.integer`, on the groups of the number. -/
def integer (parts : NumberParts) : Measured Int := do
  let fraction := parts.fraction.getD []
  let digits ← .text (parts.whole ++ fraction)
  let first ← .integer (digits.takeWhile isZero).length
  if first = digits.length then pure 0
  else do
    .require (!parts.negative)
    let last ← .integer (withoutTrailing digits).length
    let exponent ← exponentOf parts.exponent
    let zeros ← .integer (exponent - fraction.length + digits.length - last)
    .require (0 ≤ zeros ∧ last - first + zeros ≤ 10)
    let significant ← .text ((digits.take last.toNat).drop first.toNat)
    let start ← .integer (value significant)
    let number ← multiplied zeros.toNat start
    .require (number ≤ maxInteger)
    pure number

/-- The reader of a whole token. -/
def tokenInteger (token : List Char) : Measured Int := do
  let parts ← .ofOption (numberParts wholePart token)
  integer parts

/-! ## Steps -/

section Steps

theorem digitValue_range {char : Char} (digit : char.isDigit = true) :
    0 ≤ digitValue char ∧ digitValue char < 10 := by
  have small := digit_lt digit
  unfold digitValue
  omega

/-- The exponent is exact up to where it is cut off. -/
theorem saturatedExponent_spec {digits : List Char} (all : Digits digits) :
    (saturatedExponent digits).result = some (min 100000 (value digits : Int)) ∧
      ∀ limit, (saturatedExponent digits).Within limit := by
  have loop : ∀ (digits : List Char) (start : Nat), Digits digits →
      (digits.foldlM (fun (exponent : Int) char => do
          let next ← Measured.integer (exponent * 10 + digitValue char)
          Measured.integer (min 100000 next)) (min 100000 (start : Int))).result =
        some (min 100000 (Nat.ofDigitChars 10 digits start : Int)) ∧
      ∀ limit, (digits.foldlM (fun (exponent : Int) char => do
          let next ← Measured.integer (exponent * 10 + digitValue char)
          Measured.integer (min 100000 next)) (min 100000 (start : Int))).Within limit := by
    intro digits
    induction digits with
    | nil => exact fun _ _ => ⟨rfl, fun _ => Measured.within_pure _⟩
    | cons first rest ih =>
        intro start all
        have range := digitValue_range (all first (List.mem_cons_self ..))
        have next : min 100000 (min 100000 (start : Int) * 10 + digitValue first) =
            min 100000 ((10 * start + (first.toNat - '0'.toNat) : Nat) : Int) := by
          unfold digitValue at range ⊢
          push_cast
          omega
        obtain ⟨result, within⟩ := ih (10 * start + (first.toNat - '0'.toNat))
          (all.sublist (List.sublist_cons_self ..))
        rw [List.foldlM_cons, Nat.ofDigitChars_cons]
        constructor
        · rw [Measured.result_bind, Measured.result_bind, Measured.result_integer,
            Option.bind_some, Measured.result_integer, Option.bind_some, next, result]
        · intro limit
          apply Measured.within_bind
          · apply Measured.within_integer_bind (by omega) (by omega)
            exact Measured.within_integer (by omega) (by omega)
          · intro exponent found
            rw [Measured.result_bind, Measured.result_integer, Option.bind_some,
              Measured.result_integer, next] at found
            rw [← Option.some.inj found]
            exact within limit
  exact loop digits 0 all

theorem multiplied_spec (zeros : Nat) {start bound : Int} (nonneg : 0 ≤ start)
    (le : start * 10 ^ zeros ≤ bound) (small : bound < 2 ^ 63) :
    (multiplied zeros start).result = some (start * 10 ^ zeros) ∧
      ∀ limit, (multiplied zeros start).Within limit := by
  induction zeros generalizing start with
  | zero => exact ⟨by rw [pow_zero, mul_one]; rfl, fun _ => Measured.within_pure _⟩
  | succ zeros ih =>
      rw [pow_succ', ← mul_assoc] at le
      obtain ⟨result, within⟩ := @ih (start * 10) (by omega) le
      have here : start * 10 ≤ bound := by
        refine le_trans ?_ le
        exact le_mul_of_one_le_right (by omega) (one_le_pow₀ (by norm_num))
      rw [multiplied]
      constructor
      · rw [Measured.result_bind, Measured.result_integer, Option.bind_some, result, pow_succ',
          mul_assoc]
      · intro limit
        exact Measured.within_integer_bind (by omega) (by omega) (within limit)

/-- An exponent that is cut off. -/
def clamped (exponent : Int) : Int := max (-100000) (min 100000 exponent)

theorem exponentOf_spec {parts : NumberParts} (valid : parts.Valid) :
    (exponentOf parts.exponent).result = some (clamped parts.exponentValue) ∧
      ∀ limit, (exponentOf parts.exponent).Within limit := by
  unfold exponentOf NumberParts.exponentValue clamped
  cases present : parts.exponent with
  | none => exact ⟨rfl, fun _ => Measured.within_integer (by omega) (by omega)⟩
  | some exponent =>
      obtain ⟨sign, digits⟩ := exponent
      obtain ⟨-, all, -⟩ := valid.exponent sign digits present
      obtain ⟨result, within⟩ := saturatedExponent_spec all
      dsimp only
      constructor
      · rw [Measured.result_bind, result, Option.bind_some, Measured.result_ite]
        split
        · rw [Measured.result_integer]
          congr 1
          omega
        · rw [Measured.result_pure]
          congr 1
          omega
      · intro limit
        apply Measured.within_bind (within limit)
        intro exponent found
        rw [result] at found
        cases found
        exact Measured.within_ite (fun _ => Measured.within_integer (by omega) (by omega))
          fun _ => Measured.within_pure _

end Steps

/-! ## Exactness -/

section Exact

variable {parts : NumberParts} {mark : Char} {number : Nat}

theorem length_takeWhile (digits : List Char) :
    (digits.takeWhile isZero).length + (withoutLeading digits).length = digits.length := by
  rw [← List.length_append, withoutLeading, List.takeWhile_append_dropWhile]

/-- What is read between the zeros. -/
theorem take_drop_significant (nonzero : parts.leading ≠ []) :
    (parts.digits.take (withoutTrailing parts.digits).length).drop
      (parts.digits.takeWhile isZero).length = parts.significant := by
  obtain ⟨front, -⟩ := withoutTrailing_eq nonzero
  have kept : parts.digits.take (withoutTrailing parts.digits).length =
      withoutTrailing parts.digits :=
    List.prefix_iff_eq_take.mp (List.rdropWhile_prefix isZero parts.digits) |>.symm
  rw [kept, front, List.drop_left]
  rfl

/-- What `integer` computes for a number that is not zero. -/
theorem integer_parts (valid : parts.Valid) (nonzero : parts.leading ≠ [])
    (positive : parts.negative = false) :
    (integer parts).result =
      (Measured.require (0 ≤ clamped parts.exponentValue - parts.places + trailing parts.leading ∧
        parts.significant.length + (clamped parts.exponentValue - parts.places +
          trailing parts.leading) ≤ 10)).result.bind fun _ =>
        (multiplied (clamped parts.exponentValue - parts.places + trailing parts.leading).toNat
          (value parts.significant)).result.bind fun number =>
            (Measured.require (number ≤ maxInteger)).result.map fun _ => number := by
  obtain ⟨front, ends⟩ := withoutTrailing_eq nonzero
  have exponent := (exponentOf_spec valid).1
  have leading := length_takeWhile parts.digits
  have some_ : ((parts.digits.takeWhile isZero).length : Int) ≠ parts.digits.length := by
    have kept := List.length_pos_iff.mpr nonzero
    rw [NumberParts.leading] at kept
    omega
  have places : (parts.fraction.getD []).length = parts.places := rfl
  have taken := take_drop_significant nonzero
  have last : (withoutTrailing parts.digits).length =
      (parts.digits.takeWhile isZero).length + parts.significant.length := by
    rw [front, List.length_append]
    rfl
  have total := length_withoutTrailing parts.digits
  rw [ends] at total
  have zeros : ((parts.digits.length : Int) - (withoutTrailing parts.digits).length) =
      trailing parts.leading := by
    rw [NumberParts.leading]
    omega
  unfold integer
  simp only [Measured.result_bind, Measured.result_text, Option.bind_some,
    Measured.result_integer, Measured.result_ite]
  rw [← NumberParts.digits, if_neg some_, Measured.result_require_true (by rw [positive]; rfl),
    Option.bind_some, exponent, Option.bind_some, places]
  have zeros_eq : clamped parts.exponentValue - (parts.places : Int) + parts.digits.length -
      (withoutTrailing parts.digits).length =
        clamped parts.exponentValue - parts.places + trailing parts.leading := by
    omega
  have length_eq : ((withoutTrailing parts.digits).length : Int) -
      (parts.digits.takeWhile isZero).length = parts.significant.length := by
    omega
  rw [zeros_eq, length_eq, Int.toNat_natCast, Int.toNat_natCast, taken]
  congr 1
  funext _
  congr 1
  funext number
  cases (Measured.require (number ≤ maxInteger)).result <;> rfl

/-- `integer` reads exactly the integers of 32 bits. -/
theorem result_tokenInteger (valid : parts.Valid) (known : mark = 'e' ∨ mark = 'E')
    (short : (parts.text mark).length ≤ 16384) {out : Int} :
    (tokenInteger (parts.text mark)).result = some out ↔
      ∃ number : Nat, out = number ∧ parts.Denotes 4294967295 number := by
  unfold tokenInteger
  rw [(NumberParts.numberParts_text valid known).1, Measured.result_bind,
    Measured.result_ofOption, Option.bind_some]
  by_cases zero : parts.leading = []
  · have all : (parts.digits.takeWhile isZero).length = parts.digits.length := by
      have split := length_takeWhile parts.digits
      rw [NumberParts.leading] at zero
      rw [zero] at split
      exact split
    have found : (integer parts).result = some 0 := by
      unfold integer
      simp only [Measured.result_bind, Measured.result_text, Option.bind_some,
        Measured.result_integer, Measured.result_ite]
      rw [← NumberParts.digits, all, if_pos rfl, Measured.result_pure]
    rw [found, Option.some.injEq]
    constructor
    · rintro rfl
      exact ⟨0, rfl, (NumberParts.denotes_of_leading_eq_nil zero).mpr rfl⟩
    · rintro ⟨number, rfl, denoted⟩
      rw [(NumberParts.denotes_of_leading_eq_nil zero).mp denoted]
      rfl
  · obtain ⟨leading_le, places_le⟩ := NumberParts.length_bounds parts mark
    have length := NumberParts.length_significant parts
    have significant := valid.significant zero
    have shift_eq : parts.shift =
      parts.exponentValue - parts.places + trailing parts.leading := rfl
    cases negative : parts.negative with
    | true =>
        have refused : (integer parts).result = none := by
          have some_ : ((parts.digits.takeWhile isZero).length : Int) ≠ parts.digits.length := by
            have leading := length_takeWhile parts.digits
            have kept := List.length_pos_iff.mpr zero
            rw [NumberParts.leading] at kept
            omega
          unfold integer
          simp only [Measured.result_bind, Measured.result_text, Option.bind_some,
            Measured.result_integer, Measured.result_ite]
          rw [← NumberParts.digits, if_neg some_,
            Measured.result_require_false (by rw [negative]; rfl), Option.bind_none]
        rw [refused]
        constructor
        · intro impossible
          cases impossible
        · rintro ⟨number, -, denoted⟩
          exact absurd denoted (NumberParts.not_denotes_of_negative zero negative)
    | false =>
        rw [integer_parts valid zero negative]
        unfold clamped
        by_cases inside : parts.shift < 0 ∨ 10 < (parts.significant.length : Int) + parts.shift
        · rw [Measured.result_require_false (by simp; omega), Option.bind_none]
          constructor
          · intro impossible
            cases impossible
          · rintro ⟨number, -, denoted⟩
            exact absurd denoted
              (NumberParts.not_denotes_of_shift valid zero (by decide) inside)
        · have exact_ : max (-100000) (min 100000 parts.exponentValue) - (parts.places : Int) +
              trailing parts.leading = parts.shift := by
            omega
          have below : (value parts.significant : Int) * 10 ^ parts.shift.toNat ≤ 10 ^ 10 := by
            have digits := value_lt significant.all
            have narrow : value parts.significant * 10 ^ parts.shift.toNat ≤ 10 ^ 10 := by
              calc value parts.significant * 10 ^ parts.shift.toNat
                  ≤ 10 ^ parts.significant.length * 10 ^ parts.shift.toNat :=
                    Nat.mul_le_mul_right _ digits.le
                _ = 10 ^ (parts.significant.length + parts.shift.toNat) := (pow_add ..).symm
                _ ≤ 10 ^ 10 := Nat.pow_le_pow_right (by decide) (by omega)
            exact_mod_cast narrow
          rw [exact_, Measured.result_require_true (by simp; omega), Option.bind_some,
            (multiplied_spec _ (Int.natCast_nonneg _) below (by decide)).1, Option.bind_some]
          by_cases le : value parts.significant * 10 ^ parts.shift.toNat ≤ 4294967295
          · have small : (value parts.significant : Int) * 10 ^ parts.shift.toNat ≤ maxInteger := by
              unfold maxInteger
              exact_mod_cast le
            rw [Measured.result_require_true (decide_eq_true small), Option.map_some,
              Option.some.injEq]
            constructor
            · rintro rfl
              exact ⟨_, by push_cast; rfl,
                (NumberParts.denotes_iff_of_shift zero negative (by omega)).mpr ⟨rfl, le⟩⟩
            · rintro ⟨number, rfl, denoted⟩
              obtain ⟨same, -⟩ :=
                (NumberParts.denotes_iff_of_shift zero negative (by omega)).mp denoted
              rw [← same]
              push_cast
              rfl
          · have large : ¬(value parts.significant : Int) * 10 ^ parts.shift.toNat ≤ maxInteger := by
              unfold maxInteger
              exact_mod_cast le
            rw [Measured.result_require_false (decide_eq_false large), Option.map_none]
            constructor
            · intro impossible
              cases impossible
            · rintro ⟨number, -, denoted⟩
              obtain ⟨same, small⟩ :=
                (NumberParts.denotes_iff_of_shift zero negative (by omega)).mp denoted
              exact absurd (same ▸ small) le

end Exact

/-! ## What is made -/

section Within

variable {parts : NumberParts} {mark : Char} {limit : Nat}

theorem leading_ne_nil (some_ : (parts.digits.takeWhile isZero).length ≠ parts.digits.length) :
    parts.leading ≠ [] := by
  intro empty
  have split := length_takeWhile parts.digits
  rw [← NumberParts.leading, empty] at split
  exact some_ split

/-- Nothing is longer than the token, and no integer leaves sixty-four bits. -/
theorem within_tokenInteger (valid : parts.Valid) (known : mark = 'e' ∨ mark = 'E')
    (le : (parts.text mark).length ≤ limit) (small : limit < 2 ^ 32) :
    (tokenInteger (parts.text mark)).Within limit := by
  have digits_le := (NumberParts.length_digits_le parts mark).trans le
  have places_le := (NumberParts.length_bounds parts mark).2.trans le
  have trailing_le := (List.rdropWhile_prefix isZero parts.digits).length_le
  rw [← withoutTrailing] at trailing_le
  have leading_le := (List.takeWhile_prefix isZero (l := parts.digits)).length_le
  obtain ⟨exponent, exponentWithin⟩ := exponentOf_spec valid
  unfold tokenInteger
  rw [(NumberParts.numberParts_text valid known).1]
  apply Measured.within_ofOption_bind
  rintro _ ⟨⟩
  unfold integer
  dsimp only
  rw [← NumberParts.digits, ← NumberParts.places]
  apply Measured.within_text_bind digits_le
  apply Measured.within_integer_bind (by omega) (by omega)
  apply Measured.within_ite (fun _ => Measured.within_pure 0)
  intro some_
  have nonzero : parts.leading ≠ [] := leading_ne_nil fun same => some_ (by rw [same])
  obtain ⟨front, -⟩ := withoutTrailing_eq nonzero
  have first_le := congrArg List.length front
  rw [List.length_append] at first_le
  apply Measured.within_require_bind
  intro _
  apply Measured.within_integer_bind (by omega) (by omega)
  apply Measured.within_bind (exponentWithin limit)
  intro found same
  rw [exponent] at same
  have bounds : -100000 ≤ found ∧ found ≤ 100000 := by
    rw [← Option.some.inj same, clamped]
    omega
  apply Measured.within_integer_bind (by omega) (by omega)
  apply Measured.within_require_bind
  intro narrow
  have narrow := of_decide_eq_true narrow
  rw [Int.toNat_natCast, Int.toNat_natCast]
  have significant : Digits ((parts.digits.take (withoutTrailing parts.digits).length).drop
      (parts.digits.takeWhile isZero).length) :=
    valid.digits.sublist ((List.drop_sublist _ _).trans (List.take_sublist _ _))
  have length : ((parts.digits.take (withoutTrailing parts.digits).length).drop
      (parts.digits.takeWhile isZero).length).length =
        (withoutTrailing parts.digits).length - (parts.digits.takeWhile isZero).length := by
    rw [List.length_drop, List.length_take, min_eq_left trailing_le]
  have start := value_lt significant
  set middle := (parts.digits.take (withoutTrailing parts.digits).length).drop
    (parts.digits.takeWhile isZero).length
  set zeros := found - (parts.places : Int) + parts.digits.length -
    (withoutTrailing parts.digits).length
  have below : (value middle : Int) * 10 ^ zeros.toNat ≤ 10 ^ 10 := by
    have narrow : value middle * 10 ^ zeros.toNat ≤ 10 ^ 10 := by
      calc value middle * 10 ^ zeros.toNat ≤ 10 ^ middle.length * 10 ^ zeros.toNat :=
            Nat.mul_le_mul_right _ start.le
        _ = 10 ^ (middle.length + zeros.toNat) := (pow_add ..).symm
        _ ≤ 10 ^ 10 := Nat.pow_le_pow_right (by decide) (by omega)
    exact_mod_cast narrow
  have first : value middle ≤ 10 ^ 10 :=
    start.le.trans (Nat.pow_le_pow_right (by decide) (by omega))
  obtain ⟨-, within⟩ := multiplied_spec zeros.toNat (Int.natCast_nonneg (value middle)) below
    (by decide)
  apply Measured.within_text_bind (by omega)
  apply Measured.within_integer_bind (by omega) (by omega)
  apply Measured.within_bind (within limit)
  intro _ _
  apply Measured.within_require_bind
  exact fun _ => Measured.within_pure _

end Within

end CheckNetwork.Android
