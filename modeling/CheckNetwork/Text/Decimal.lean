import Mathlib.Algebra.Order.Field.Power
import Mathlib.Data.List.DropRight
import Mathlib.Data.Nat.Digits.Lemmas
import Mathlib.Data.Rat.Defs
import Mathlib.Tactic.FieldSimp

/-!
# Decimal numerals

The value of digits with a decimal exponent.  Without the zeros at both ends,
a numeral is an integer exactly when its exponent is not negative.
-/

namespace CheckNetwork.Text

/-- The value of digits. -/
def value (digits : List Char) : Nat := Nat.ofDigitChars 10 digits 0

/-- Only decimal digits. -/
def Digits (text : List Char) : Prop := ∀ char ∈ text, char.isDigit = true

def isZero (char : Char) : Bool := char = '0'

/-- The numeral without the zeros before it. -/
def withoutLeading (digits : List Char) : List Char := digits.dropWhile isZero

/-- The numeral without the zeros after it. -/
def withoutTrailing (digits : List Char) : List Char := digits.rdropWhile isZero

/-- The number of zeros at the end. -/
def trailing (digits : List Char) : Nat := digits.length - (withoutTrailing digits).length

/-- A numeral that neither begins nor ends with a zero. -/
structure Significant (digits : List Char) : Prop where
  all : Digits digits
  nonempty : digits ≠ []
  head : isZero (digits.head nonempty) = false
  last : isZero (digits.getLast nonempty) = false

section Values

variable {digits front back : List Char}

theorem value_append (front back : List Char) :
    value (front ++ back) = value front * 10 ^ back.length + value back := by
  rw [value, Nat.ofDigitChars_append, Nat.ofDigitChars_eq_ofDigitChars_zero, value, value, mul_comm]

theorem value_append_zeros (digits : List Char) (count : Nat) :
    value (digits ++ List.replicate count '0') = value digits * 10 ^ count := by
  rw [value, Nat.ofDigitChars_append, Nat.ofDigitChars_replicate_zero, value, mul_comm]

theorem value_cons (first : Char) (rest : List Char) :
    value (first :: rest) = (first.toNat - '0'.toNat) * 10 ^ rest.length + value rest := by
  have joined := value_append [first] rest
  rw [List.singleton_append] at joined
  rw [joined]
  congr 2
  rw [value, Nat.ofDigitChars_cons, Nat.ofDigitChars_nil]
  omega

theorem Digits.append (left : Digits front) (right : Digits back) : Digits (front ++ back) := by
  intro char member
  rcases List.mem_append.mp member with first | last
  · exact left char first
  · exact right char last

theorem Digits.sublist (all : Digits digits) (part : List.Sublist front digits) : Digits front :=
  fun char member => all char (part.subset member)

theorem digit_lt {char : Char} (digit : char.isDigit = true) : char.toNat - '0'.toNat < 10 := by
  simp only [Char.isDigit, Bool.and_eq_true, decide_eq_true_eq] at digit
  have most : char.toNat ≤ 57 := digit.2
  have zero : '0'.toNat = 48 := rfl
  omega

theorem value_lt (all : Digits digits) : value digits < 10 ^ digits.length := by
  induction digits with
  | nil => decide
  | cons first rest ih =>
      have tail := ih (all.sublist (List.sublist_cons_self ..))
      have head := digit_lt (all first (List.mem_cons_self ..))
      rw [value_cons, List.length_cons, pow_succ]
      calc (first.toNat - '0'.toNat) * 10 ^ rest.length + value rest
          < (first.toNat - '0'.toNat) * 10 ^ rest.length + 10 ^ rest.length := by omega
        _ = (first.toNat - '0'.toNat + 1) * 10 ^ rest.length := by ring
        _ ≤ 10 * 10 ^ rest.length := Nat.mul_le_mul_right _ head
        _ = 10 ^ rest.length * 10 := mul_comm _ _

theorem pos_digit {char : Char} (digit : char.isDigit = true) (nonzero : isZero char = false) :
    0 < char.toNat - '0'.toNat := by
  simp only [Char.isDigit, Bool.and_eq_true, decide_eq_true_eq] at digit
  have least : 48 ≤ char.toNat := digit.1
  have zero : '0'.toNat = 48 := rfl
  by_contra small
  have same : char.toNat = '0'.toNat := by omega
  have equal : char = '0' := Char.toNat_inj.mp same
  rw [equal] at nonzero
  cases nonzero

/-- A numeral that does not begin with a zero is at least its leading one. -/
theorem le_value (all : Digits digits) (nonempty : digits ≠ [])
    (head : isZero (digits.head nonempty) = false) : 10 ^ (digits.length - 1) ≤ value digits := by
  cases digits with
  | nil => exact absurd rfl nonempty
  | cons first rest =>
      have pos := pos_digit (all first (List.mem_cons_self ..)) head
      rw [value_cons, List.length_cons, Nat.add_sub_cancel]
      calc 10 ^ rest.length = 1 * 10 ^ rest.length := (one_mul _).symm
        _ ≤ (first.toNat - '0'.toNat) * 10 ^ rest.length := Nat.mul_le_mul_right _ pos
        _ ≤ _ := Nat.le_add_right ..

theorem value_withoutLeading (digits : List Char) : value (withoutLeading digits) = value digits := by
  unfold withoutLeading
  induction digits with
  | nil => rfl
  | cons first rest ih =>
      rw [List.dropWhile_cons]
      split
      · rename_i zero
        have same : first = '0' := of_decide_eq_true zero
        rw [ih, value_cons, same]
        simp
      · rfl

theorem length_withoutLeading_le (digits : List Char) :
    (withoutLeading digits).length ≤ digits.length :=
  (List.dropWhile_sublist _).length_le

/-- The zeros at the end are put back. -/
theorem withoutTrailing_append (digits : List Char) :
    withoutTrailing digits ++ List.replicate (trailing digits) '0' = digits := by
  have parts : digits.rdropWhile isZero ++ digits.rtakeWhile isZero = digits :=
    List.rdropWhile_append_rtakeWhile
  have zeros : digits.rtakeWhile isZero =
      List.replicate (digits.rtakeWhile isZero).length '0' := by
    rw [List.eq_replicate_iff]
    refine ⟨rfl, fun char member => ?_⟩
    have zero : isZero char = true := List.mem_rtakeWhile_imp member
    exact of_decide_eq_true zero
  have length : (digits.rtakeWhile isZero).length = trailing digits := by
    have total := congrArg List.length parts
    rw [List.length_append] at total
    rw [trailing, withoutTrailing]
    omega
  rw [← length, ← zeros, withoutTrailing, parts]

theorem length_withoutTrailing (digits : List Char) :
    (withoutTrailing digits).length + trailing digits = digits.length := by
  have total := congrArg List.length (withoutTrailing_append digits)
  rwa [List.length_append, List.length_replicate] at total

theorem withoutTrailing_ne_nil (nonempty : digits ≠ [])
    (head : isZero (digits.head nonempty) = false) : withoutTrailing digits ≠ [] := by
  intro empty
  have zeros := List.rdropWhile_eq_nil_iff.mp empty (digits.head nonempty) (List.head_mem nonempty)
  rw [head] at zeros
  cases zeros

/-- Without the zeros at both ends, nothing but the significant digits is left. -/
theorem significant_of_leading (all : Digits digits) (nonempty : withoutLeading digits ≠ []) :
    Significant (withoutTrailing (withoutLeading digits)) := by
  have head : isZero ((withoutLeading digits).head nonempty) = false :=
    List.head_dropWhile_not isZero nonempty
  have kept := withoutTrailing_ne_nil nonempty head
  have part : List.Sublist (withoutTrailing (withoutLeading digits)) digits :=
    (List.rdropWhile_prefix isZero _).sublist.trans (List.dropWhile_sublist _)
  refine ⟨all.sublist part, kept, ?_, ?_⟩
  · have same : (withoutTrailing (withoutLeading digits)).head kept =
        (withoutLeading digits).head nonempty :=
      (List.rdropWhile_prefix isZero (withoutLeading digits)).head kept
    rw [same, head]
  · exact Bool.eq_false_iff.mpr (List.rdropWhile_last_not isZero (withoutLeading digits) kept)

theorem value_eq_trailing (digits : List Char) :
    value digits = value (withoutTrailing digits) * 10 ^ trailing digits := by
  conv_lhs => rw [← withoutTrailing_append digits]
  exact value_append_zeros _ _

theorem Significant.value_pos (significant : Significant digits) : 0 < value digits :=
  (Nat.pow_pos (by decide)).trans_le
    (le_value significant.all significant.nonempty significant.head)

theorem Significant.not_dvd (significant : Significant digits) : ¬10 ∣ value digits := by
  have split := List.dropLast_append_getLast significant.nonempty
  have digit := significant.all _ (List.getLast_mem significant.nonempty)
  have pos := pos_digit digit significant.last
  have small := digit_lt digit
  rw [← split, value_append, value_cons, List.length_singleton, pow_one, List.length_nil, pow_zero,
    mul_one]
  change ¬10 ∣ _ + (_ + 0)
  omega

end Values

/-! ## Integers -/

section Integers

variable {digits : List Char}

/-- Significant digits are an integer if their exponent is not negative. -/
theorem Significant.eq_zpow_iff (significant : Significant digits) (shift : Int) (number : Nat) :
    (value digits : ℚ) * 10 ^ shift = number ↔
      0 ≤ shift ∧ value digits * 10 ^ shift.toNat = number := by
  rcases Int.lt_or_le shift 0 with negative | nonneg
  · obtain ⟨places, rfl⟩ : ∃ places : Nat, shift = -(places + 1 : Nat) :=
      ⟨(-shift).toNat - 1, by omega⟩
    constructor
    · intro equal
      rw [zpow_neg, zpow_natCast] at equal
      field_simp at equal
      have whole : value digits = 10 ^ (places + 1) * number := by exact_mod_cast equal
      refine absurd ?_ significant.not_dvd
      rw [whole, pow_succ, mul_assoc, mul_comm, mul_assoc]
      exact Dvd.intro _ rfl
    · rintro ⟨impossible, -⟩
      omega
  · lift shift to Nat using nonneg
    rw [zpow_natCast, Int.toNat_natCast]
    constructor
    · intro equal
      exact ⟨Int.natCast_nonneg _, by exact_mod_cast equal⟩
    · rintro ⟨-, equal⟩
      exact_mod_cast equal

/-- More digits than the bound has are above it. -/
theorem lt_value_mul (all : Digits digits) (nonempty : digits ≠ [])
    (head : isZero (digits.head nonempty) = false) {places width : Nat}
    (wide : width < digits.length + places) : 10 ^ width ≤ value digits * 10 ^ places := by
  calc 10 ^ width ≤ 10 ^ (digits.length - 1 + places) :=
        Nat.pow_le_pow_right (by decide) (by omega)
    _ = 10 ^ (digits.length - 1) * 10 ^ places := pow_add ..
    _ ≤ value digits * 10 ^ places := Nat.mul_le_mul_right _ (le_value all nonempty head)

end Integers

/-! ## Zeros at the end -/

section Zeros

variable {front : List Char} {zeros : Nat}

/-- Zeros at the end can be taken away. -/
theorem split_zeros {remove : Nat} (enough : remove ≤ zeros) :
    (front ++ List.replicate zeros '0').drop (front.length + zeros - remove) =
        List.replicate remove '0' ∧
      (front ++ List.replicate zeros '0').take (front.length + zeros - remove) =
        front ++ List.replicate (zeros - remove) '0' := by
  have parts : front ++ List.replicate zeros '0' =
      (front ++ List.replicate (zeros - remove) '0') ++ List.replicate remove '0' := by
    rw [List.append_assoc, List.replicate_append_replicate, Nat.sub_add_cancel enough]
  have length : front.length + zeros - remove =
      (front ++ List.replicate (zeros - remove) '0').length := by
    rw [List.length_append, List.length_replicate]
    omega
  rw [parts, length]
  exact ⟨List.drop_left, List.take_left⟩

/-- No more than the zeros at the end can be taken away. -/
theorem any_drop (nonempty : front ≠ []) (last : isZero (front.getLast nonempty) = false)
    {remove : Nat} (beyond : zeros < remove) (le : remove ≤ front.length + zeros) :
    ((front ++ List.replicate zeros '0').drop (front.length + zeros - remove)).any (· ≠ '0') =
      true := by
  have short : front.length + zeros - remove < front.length := by omega
  have kept : front.drop (front.length + zeros - remove) ≠ [] := by
    rw [Ne, List.drop_eq_nil_iff]
    omega
  rw [List.any_eq_true]
  refine ⟨front.getLast nonempty, ?_, ?_⟩
  · rw [List.drop_append_of_le_length short.le, ← List.getLast_drop kept]
    exact List.mem_append_left _ (List.getLast_mem kept)
  · rw [decide_eq_true_iff]
    intro zero
    rw [zero] at last
    cases last

theorem any_zeros (count : Nat) : (List.replicate count '0').any (· ≠ '0') = false := by
  rw [List.any_eq_false]
  intro char member
  rw [List.eq_of_mem_replicate member]
  decide

theorem length_append_zeros (front : List Char) (zeros : Nat) :
    (front ++ List.replicate zeros '0').length = front.length + zeros := by
  rw [List.length_append, List.length_replicate]

theorem Digits.append_zeros {digits : List Char} (all : Digits digits) (count : Nat) :
    Digits (digits ++ List.replicate count '0') := by
  refine all.append fun char member => ?_
  rw [List.eq_of_mem_replicate member]
  decide

/-- Only the zeros at the end come off. -/
theorem withoutTrailing_append_zeros (nonempty : front ≠ [])
    (last : isZero (front.getLast nonempty) = false) (zeros : Nat) :
    withoutTrailing (front ++ List.replicate zeros '0') = front := by
  induction zeros with
  | zero =>
      rw [List.replicate_zero, List.append_nil, withoutTrailing, List.rdropWhile_eq_self_iff]
      intro _
      rw [last]
      exact Bool.false_ne_true
  | succ zeros ih =>
      rw [List.replicate_succ', ← List.append_assoc, withoutTrailing, List.rdropWhile_concat_pos]
      · exact ih
      · rfl

/-- Zeros at the front do not matter at the end. -/
theorem withoutTrailing_eq {digits : List Char} (nonzero : withoutLeading digits ≠ []) :
    withoutTrailing digits =
        digits.takeWhile isZero ++ withoutTrailing (withoutLeading digits) ∧
      trailing digits = trailing (withoutLeading digits) := by
  have kept := withoutTrailing_ne_nil nonzero (List.head_dropWhile_not isZero nonzero)
  have last := List.rdropWhile_last_not isZero (withoutLeading digits) kept
  have whole : digits = (digits.takeWhile isZero ++ withoutTrailing (withoutLeading digits)) ++
      List.replicate (trailing (withoutLeading digits)) '0' := by
    rw [List.append_assoc, withoutTrailing_append, withoutLeading, List.takeWhile_append_dropWhile]
  have front : digits.takeWhile isZero ++ withoutTrailing (withoutLeading digits) ≠ [] :=
    List.append_ne_nil_of_right_ne_nil _ kept
  have front_last : isZero ((digits.takeWhile isZero ++
      withoutTrailing (withoutLeading digits)).getLast front) = false := by
    rw [List.getLast_append_of_ne_nil front kept]
    exact Bool.eq_false_iff.mpr last
  have same := withoutTrailing_append_zeros front front_last (trailing (withoutLeading digits))
  rw [← whole] at same
  refine ⟨same, ?_⟩
  have total := congrArg List.length whole
  rw [List.length_append, List.length_replicate, ← same] at total
  rw [trailing]
  omega

end Zeros

end CheckNetwork.Text
