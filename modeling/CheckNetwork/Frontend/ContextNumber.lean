import CheckNetwork.Text.Measured
import CheckNetwork.Text.NumberParts

/-!
# The integers of the browser

`contextNumber` checks the exact value of a number token before it becomes a
number of the browser.
-/

namespace CheckNetwork.Frontend

open CheckNetwork.Text

/-- The exponent without leading zeros, `0` if there is none. -/
def rawExponent : Option (Option Char × List Char) → List Char
  | none => ['0']
  | some (sign, digits) =>
      let raw := sign.toList ++ withoutLeading digits
      if raw = [] then ['0'] else raw

/-- `Number` of an exponent of a few characters, where a sign alone is zero. -/
def exponentNumber : Option (Option Char × List Char) → Int
  | none => 0
  | some (sign, digits) =>
      if sign = some '-' then -(value (withoutLeading digits) : Int)
      else value (withoutLeading digits)

/-- The digits with the zeros of the exponent added or taken away. -/
def scaledDigits (digits : List Char) (scale : Int) : Measured (List Char) :=
  if scale < 0 then do
    let remove ← .integer (-scale)
    .require (remove < digits.length)
    let kept := digits.length - remove.toNat
    let tail ← .text (digits.drop kept)
    .require (tail.all isZero)
    .text (digits.take kept)
  else do
    let length ← .integer (digits.length + scale)
    .require (length ≤ 10)
    let zeros ← .text (List.replicate scale.toNat '0')
    .text (digits ++ zeros)

def maxContextNumber : Nat := 4294967295

/-- `contextNumber`. -/
def contextNumber (token : List Char) : Measured Nat := do
  let parts ← .ofOption (numberParts wholePart token)
  let joined ← .text (parts.whole ++ parts.fraction.getD [])
  let digits ← .text (withoutLeading joined)
  if digits = [] then pure 0
  else do
    .require (!parts.negative)
    let raw ← .text (rawExponent parts.exponent)
    .require (raw.length ≤ 6)
    let scale ← .integer (exponentNumber parts.exponent - (parts.fraction.getD []).length)
    let digits ← scaledDigits digits scale
    .require (digits.length ≤ 10)
    let number ← .integer (value digits)
    .require (number ≤ maxContextNumber)
    pure (value digits)

section Scaling

variable {front : List Char}

theorem result_scaledDigits (nonempty : front ≠ []) (last : isZero (front.getLast nonempty) = false)
    (zeros : Nat) (scale : Int) :
    (scaledDigits (front ++ List.replicate zeros '0') scale).result =
      if scale + zeros < 0 ∨ (0 ≤ scale ∧ 10 < (front.length : Int) + (scale + zeros)) then none
      else some (front ++ List.replicate (scale + zeros).toNat '0') := by
  unfold scaledDigits
  rw [Measured.result_ite, length_append_zeros]
  have positive := List.length_pos_iff.mpr nonempty
  by_cases negative : scale < 0
  · rw [if_pos negative]
    obtain ⟨remove, rfl⟩ : ∃ remove : Nat, scale = -(remove : Int) := ⟨(-scale).toNat, by omega⟩
    simp only [Measured.result_bind, Measured.result_integer, Option.bind_some,
      Measured.result_text, neg_neg, Int.toNat_natCast]
    by_cases enough : remove ≤ zeros
    · obtain ⟨dropped, taken⟩ := @split_zeros front zeros remove enough
      have zero : (List.replicate remove '0').all isZero = true := by
        rw [List.all_eq_true]
        intro char member
        rw [List.eq_of_mem_replicate member]
        decide
      rw [Measured.result_require_true (by simp; omega), Option.bind_some, dropped, taken,
        Measured.result_require_true zero, Option.bind_some, if_neg (by omega)]
      congr 3
      omega
    · have out : -(remove : Int) + zeros < 0 ∨
          (0 ≤ -(remove : Int) ∧ 10 < (front.length : Int) + (-(remove : Int) + zeros)) :=
        .inl (by omega)
      rw [if_pos out]
      by_cases le : remove < front.length + zeros
      · have found := any_drop nonempty last (by omega : zeros < remove) le.le
        have refused : ((front ++ List.replicate zeros '0').drop
            (front.length + zeros - remove)).all isZero = false := by
          rw [List.all_eq_false]
          obtain ⟨char, member, other⟩ := List.any_eq_true.mp found
          refine ⟨char, member, ?_⟩
          rw [isZero, decide_eq_true_iff]
          exact of_decide_eq_true other
        rw [Measured.result_require_true (by simp; omega), Option.bind_some,
          Measured.result_require_false refused, Option.bind_none]
      · rw [Measured.result_require_false (by simp; omega), Option.bind_none]
  · rw [if_neg negative]
    simp only [Measured.result_bind, Measured.result_integer, Option.bind_some,
      Measured.result_text]
    by_cases wide : 10 < ((front.length + zeros : Nat) : Int) + scale
    · rw [Measured.result_require_false (by simp; omega), if_pos (.inr ⟨by omega, by omega⟩),
        Option.bind_none]
    · rw [Measured.result_require_true (by simp; omega), Option.bind_some, if_neg (by omega),
        List.append_assoc, List.replicate_append_replicate]
      congr 3
      omega

end Scaling

/-! ## Exactness -/

section Exact

variable {parts : NumberParts} {mark : Char} {number : Nat}

theorem exponentNumber_eq (parts : NumberParts) :
    exponentNumber parts.exponent = parts.exponentValue := by
  unfold exponentNumber NumberParts.exponentValue
  cases parts.exponent with
  | none => rfl
  | some exponent =>
      dsimp only
      rw [value_withoutLeading]

/-- A long exponent is a large one. -/
theorem large_of_long (valid : parts.Valid) (long : 6 < (rawExponent parts.exponent).length) :
    parts.exponentValue ≤ -(10 ^ 5) ∨ 10 ^ 5 ≤ parts.exponentValue := by
  unfold rawExponent at long
  unfold NumberParts.exponentValue
  cases present : parts.exponent with
  | none =>
      rw [present] at long
      exact absurd long (by decide)
  | some exponent =>
      obtain ⟨sign, digits⟩ := exponent
      obtain ⟨-, all, -⟩ := valid.exponent sign digits present
      rw [present] at long
      dsimp only at long ⊢
      have written : 6 ≤ (withoutLeading digits).length := by
        split at long
        · exact absurd long (by decide)
        · rw [List.length_append] at long
          have signs : sign.toList.length ≤ 1 := by cases sign <;> simp
          omega
      have nonempty : withoutLeading digits ≠ [] := List.length_pos_iff.mp (by omega)
      have least : 10 ^ 5 ≤ value digits := by
        rw [← value_withoutLeading]
        refine (Nat.pow_le_pow_right (by decide) (by omega)).trans (le_value
          (all.sublist (List.dropWhile_sublist _)) nonempty (List.head_dropWhile_not isZero nonempty))
      have least' : (10 : Int) ^ 5 ≤ value digits := by exact_mod_cast least
      split
      · exact .inl (by omega)
      · exact .inr least'

/-- `contextNumber` reads exactly the integers of 32 bits. -/
theorem result_contextNumber (valid : parts.Valid) (known : mark = 'e' ∨ mark = 'E')
    (short : (parts.text mark).length ≤ 16384) :
    (contextNumber (parts.text mark)).result = some number ↔
      parts.Denotes maxContextNumber number := by
  unfold contextNumber
  rw [(NumberParts.numberParts_text valid known).1]
  simp only [Measured.result_bind, Measured.result_ofOption, Option.bind_some,
    Measured.result_text, Measured.result_ite, Measured.result_pure, Measured.result_integer]
  rw [← NumberParts.digits, ← NumberParts.leading]
  by_cases zero : parts.leading = []
  · rw [if_pos zero, NumberParts.denotes_of_leading_eq_nil zero, Option.some.injEq, eq_comm]
  · obtain ⟨leading_le, places_le⟩ := NumberParts.length_bounds parts mark
    have length := NumberParts.length_significant parts
    have significant := valid.significant zero
    have bounded : maxContextNumber < 10 ^ 10 := by decide
    have shift_eq : parts.shift =
      parts.exponentValue - parts.places + trailing parts.leading := rfl
    have scaled : (scaledDigits parts.leading (parts.exponentValue - parts.places)).result =
        if parts.shift < 0 ∨ (0 ≤ parts.exponentValue - parts.places ∧
          10 < (parts.significant.length : Int) + parts.shift) then none
        else some (parts.significant ++ List.replicate parts.shift.toNat '0') := by
      conv_lhs => rw [← withoutTrailing_append parts.leading]
      exact result_scaledDigits significant.nonempty significant.last _ _
    rw [if_neg zero]
    cases negative : parts.negative with
    | true =>
        rw [Measured.result_require_false (by decide), Option.bind_none]
        constructor
        · intro impossible
          cases impossible
        · exact fun denoted => absurd denoted (NumberParts.not_denotes_of_negative zero negative)
    | false =>
        rw [Measured.result_require_true (by decide), Option.bind_some, exponentNumber_eq,
          ← NumberParts.places, scaled]
        by_cases inside : parts.shift < 0 ∨ 10 < (parts.significant.length : Int) + parts.shift
        · constructor
          · intro found
            obtain ⟨-, -, found⟩ := Option.bind_eq_some_iff.mp found
            split at found
            · cases found
            · rw [Option.bind_some, Measured.result_require_false (by simp; omega),
                Option.bind_none] at found
              cases found
          · exact fun denoted =>
              absurd denoted (NumberParts.not_denotes_of_shift valid zero bounded inside)
        · have few : (rawExponent parts.exponent).length ≤ 6 := by
            by_contra long
            have large := large_of_long valid (not_le.mp long)
            omega
          rw [Measured.result_require_true (decide_eq_true few), Option.bind_some,
            if_neg (by omega), Option.bind_some, Measured.result_require_true (by simp; omega),
            Option.bind_some, value_append_zeros,
            NumberParts.denotes_iff_of_shift zero negative (by omega)]
          by_cases le : value parts.significant * 10 ^ parts.shift.toNat ≤ maxContextNumber
          · rw [Measured.result_require_true (decide_eq_true (by exact_mod_cast le)),
              Option.bind_some, Option.some.injEq]
            constructor
            · rintro rfl
              exact ⟨rfl, le⟩
            · exact fun same => same.1
          · rw [Measured.result_require_false (decide_eq_false (by exact_mod_cast le)),
              Option.bind_none]
            constructor
            · intro impossible
              cases impossible
            · rintro ⟨rfl, small⟩
              exact absurd small le

end Exact

/-! ## What is made -/

section Within

variable {parts : NumberParts} {mark : Char} {limit : Nat}

theorem within_scaledDigits {digits : List Char} {scale : Int} (le : digits.length ≤ limit)
    (wide : 10 ≤ limit) (small : limit < 2 ^ 32) (bounded : -2 ^ 62 ≤ scale ∧ scale < 2 ^ 62) :
    (scaledDigits digits scale).Within limit := by
  unfold scaledDigits
  apply Measured.within_ite
  · intro negative
    apply Measured.within_integer_bind (by omega) (by omega)
    apply Measured.within_require_bind
    intro _
    apply Measured.within_text_bind ((List.drop_sublist _ _).length_le.trans le)
    apply Measured.within_require_bind
    intro _
    exact Measured.within_text ((List.take_sublist _ _).length_le.trans le)
  · intro nonneg
    apply Measured.within_integer_bind (by omega) (by omega)
    apply Measured.within_require_bind
    intro narrow
    have narrow := of_decide_eq_true narrow
    apply Measured.within_text_bind (by rw [List.length_replicate]; omega)
    apply Measured.within_text
    rw [List.length_append, List.length_replicate]
    omega

theorem digits_scaledDigits {digits out : List Char} {scale : Int} (all : Digits digits)
    (found : (scaledDigits digits scale).result = some out) : Digits out := by
  unfold scaledDigits at found
  rw [Measured.result_ite] at found
  simp only [Measured.result_bind, Measured.result_integer, Measured.result_text,
    Option.bind_some] at found
  split at found
  · obtain ⟨_, -, found⟩ := Option.bind_eq_some_iff.mp found
    obtain ⟨_, -, found⟩ := Option.bind_eq_some_iff.mp found
    rw [← Option.some.inj found]
    exact all.sublist (List.take_sublist _ _)
  · obtain ⟨_, -, found⟩ := Option.bind_eq_some_iff.mp found
    rw [← Option.some.inj found]
    exact all.append_zeros _

theorem length_rawExponent_le (parts : NumberParts) (mark : Char) (le : (parts.text mark).length ≤ limit)
    (wide : 10 ≤ limit) : (rawExponent parts.exponent).length ≤ limit := by
  unfold rawExponent
  cases present : parts.exponent with
  | none => exact le_trans (by decide) wide
  | some exponent =>
      dsimp only
      split
      · exact le_trans (by decide) wide
      · have stripped := length_withoutLeading_le exponent.2
        rw [NumberParts.text, NumberParts.unsignedText, present, Option.elim_some,
          NumberParts.exponentText] at le
        simp only [List.length_append, List.length_cons] at le ⊢
        omega

/-- A short exponent is a small one. -/
theorem exponentNumber_lt (valid : parts.Valid) (short : (rawExponent parts.exponent).length ≤ 6) :
    -10 ^ 6 < exponentNumber parts.exponent ∧ exponentNumber parts.exponent < 10 ^ 6 := by
  unfold rawExponent at short
  unfold exponentNumber
  cases present : parts.exponent with
  | none => decide
  | some exponent =>
      obtain ⟨sign, digits⟩ := exponent
      obtain ⟨-, all, -⟩ := valid.exponent sign digits present
      rw [present] at short
      dsimp only at short ⊢
      have few : (withoutLeading digits).length ≤ 6 := by
        split at short
        · rename_i empty
          rw [(List.append_eq_nil_iff.mp empty).2]
          decide
        · rw [List.length_append] at short
          omega
      have below : value (withoutLeading digits) < 10 ^ 6 :=
        (value_lt (all.sublist (List.dropWhile_sublist _))).trans_le
          (Nat.pow_le_pow_right (by decide) few)
      split <;> omega

/-- Nothing is longer than the token or than ten digits. -/
theorem within_contextNumber (valid : parts.Valid) (known : mark = 'e' ∨ mark = 'E')
    (le : (parts.text mark).length ≤ limit) (wide : 10 ≤ limit) (small : limit < 2 ^ 32) :
    (contextNumber (parts.text mark)).Within limit := by
  obtain ⟨leading_le, places_le⟩ := NumberParts.length_bounds parts mark
  have digits_le := NumberParts.length_digits_le parts mark
  rw [NumberParts.places] at places_le
  unfold contextNumber
  rw [(NumberParts.numberParts_text valid known).1]
  apply Measured.within_ofOption_bind
  rintro _ ⟨⟩
  apply Measured.within_text_bind (digits_le.trans le)
  apply Measured.within_text_bind (leading_le.trans le)
  apply Measured.within_ite (fun _ => Measured.within_pure 0)
  intro _
  apply Measured.within_require_bind
  intro _
  apply Measured.within_text_bind (length_rawExponent_le parts mark le wide)
  apply Measured.within_require_bind
  intro short
  have exponent := exponentNumber_lt valid (of_decide_eq_true short)
  apply Measured.within_integer_bind (by omega) (by omega)
  apply Measured.within_bind (within_scaledDigits (leading_le.trans le) wide small (by omega))
  intro digits found
  apply Measured.within_require_bind
  intro few
  have all := digits_scaledDigits (valid.digits.sublist (List.dropWhile_sublist _)) found
  have below : value digits < 10 ^ 10 :=
    (value_lt all).trans_le (Nat.pow_le_pow_right (by decide) (of_decide_eq_true few))
  apply Measured.within_integer_bind (by omega) (by omega)
  apply Measured.within_require_bind
  exact fun _ => Measured.within_pure _

end Within

end CheckNetwork.Frontend
