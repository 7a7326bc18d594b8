import CheckNetwork.Go.JsonNumber

/-!
# Exact integers

`contextInteger` reads a number as an integer without rounding: a fraction and
an exponent are allowed where they cancel out.
-/

namespace CheckNetwork.Context

open Go

/-- The digits of an integer with a decimal exponent, where it has no fraction. -/
def shifted (digits : List Char) (shift : Int) : Option (List Char) :=
  if shift < 0 then
    let kept := digits.length - (-shift).toNat
    if digits.length < (-shift).toNat then none
    else if (digits.drop kept).any (· ≠ '0') then none
    else some (digits.take kept)
  else if 10 < digits.length + shift then none
  else some (digits ++ List.replicate shift.toNat '0')

/-- `contextInteger`, on the text of a `json.Number`. -/
def contextInteger (text : List Char) (max : Nat) : Option Nat :=
  let negative : Bool := text.head? = some '-'
  let unsigned := if negative then text.tail else text
  let mantissa := unsigned.takeWhile fun char => char ≠ 'e' ∧ char ≠ 'E'
  let exponent : Option Int := match unsigned.drop mantissa.length with
    | [] => some 0
    | _ :: power => GoString.atoi (power.map .scalar)
  let fraction := (mantissa.dropWhile (· ≠ '.')).length - 1
  let digits := (mantissa.erase '.').dropWhile (· = '0')
  if digits = [] then some 0
  else if negative then none
  else exponent.bind fun exponent =>
    if (digits.length + fraction + 10 : Nat) < exponent ∨
        exponent < -(digits.length + fraction + 10 : Nat) then none
    else (shifted digits (exponent - fraction)).bind fun whole =>
      if 10 < whole.length then none
      else (GoString.decimal? (whole.map .scalar)).filter (· ≤ max)

example : contextInteger "1.50e2".toList 200 = some 150 ∧ contextInteger "1.5".toList 200 = none ∧
    contextInteger "-0.0e99".toList 200 = some 0 := by decide

section Digits

variable {value max : Nat}

theorem mantissa_digits (value : Nat) :
    (Decimal.digits value).takeWhile (fun char => char ≠ 'e' ∧ char ≠ 'E') =
      Decimal.digits value := by
  rw [List.takeWhile_eq_self_iff]
  intro char member
  have digit := Decimal.isDigit_of_mem member
  rw [decide_eq_true_iff]
  constructor <;> rintro rfl <;> cases digit

theorem notMem_point (value : Nat) : '.' ∉ Decimal.digits value := by
  intro member
  have digit := Decimal.isDigit_of_mem member
  cases digit

theorem dropWhile_zero (pos : 0 < value) :
    (Decimal.digits value).dropWhile (· = '0') = Decimal.digits value := by
  obtain ⟨first, rest, same⟩ := Decimal.exists_digits value
  have leading := Decimal.head?_digits value pos
  rw [same] at leading ⊢
  rw [List.dropWhile_cons, if_neg]
  rw [decide_eq_true_iff]
  rintro rfl
  exact leading rfl

theorem contextInteger_digits (bounded : max < 10 ^ 10) :
    contextInteger (Decimal.digits value) max = if value ≤ max then some value else none := by
  have unsigned : (Decimal.digits value).head? ≠ some '-' := by
    obtain ⟨first, rest, same⟩ := Decimal.exists_digits value
    have digit : first.isDigit = true :=
      Decimal.isDigit_of_mem (by rw [same]; exact List.mem_cons_self ..)
    rw [same]
    intro minus
    rw [Option.some.inj minus] at digit
    cases digit
  have noPoint : (Decimal.digits value).dropWhile (· ≠ '.') = [] := by
    rw [List.dropWhile_eq_nil_iff]
    intro char member
    rw [decide_eq_true_iff]
    rintro rfl
    exact notMem_point value member
  have read := Decimal.decimal?_digits value
  have nonempty : Decimal.digits value ≠ [] := Nat.toDigits_ne_nil
  simp only [contextInteger, unsigned, decide_false, Bool.false_eq_true, if_false, mantissa_digits,
    List.drop_length, noPoint, List.erase_of_not_mem (notMem_point value), List.length_nil]
  rcases Nat.eq_zero_or_pos value with rfl | pos
  · rfl
  · simp only [dropWhile_zero pos, nonempty, if_false, Option.bind_some]
    rw [if_neg (by omega)]
    have unshifted : shifted (Decimal.digits value) (0 - ((0 - 1 : Nat) : Int)) =
        if 10 < (Decimal.digits value).length then none else some (Decimal.digits value) := by
      have whole : (10 < ((Decimal.digits value).length : Int)) =
          (10 < (Decimal.digits value).length) := by
        rw [eq_iff_iff]
        omega
      simp [shifted, whole]
    rw [unshifted]
    split
    · rename_i wide
      have large : ¬ value ≤ max := by
        intro small
        have narrow : (Decimal.digits value).length ≤ 10 :=
          (Nat.length_toDigits_le_iff (by decide) (by decide)).mpr (small.trans_lt bounded)
        omega
      rw [if_neg large]
      rfl
    · rename_i narrow
      rw [Option.bind_some, if_neg narrow, read, Option.filter_some]
      simp only [decide_eq_true_eq]

end Digits

/-- Integers as they are written are read exactly. -/
theorem contextInteger_ofInt {value : Int} {max result : Nat} (bounded : max < 10 ^ 10) :
    contextInteger (JsonNumber.ofInt value).text max = some result ↔
      value = result ∧ result ≤ max := by
  rcases Int.lt_or_le value 0 with negative | nonnegative
  · have pos : 0 < value.natAbs := by omega
    have nonempty : Decimal.digits value.natAbs ≠ [] := Nat.toDigits_ne_nil
    have text : (JsonNumber.ofInt value).text = '-' :: Decimal.digits value.natAbs := by
      rw [JsonNumber.ofInt, if_pos negative]
    have rejected : contextInteger ('-' :: Decimal.digits value.natAbs) max = none := by
      simp only [contextInteger, List.head?_cons, decide_true, if_true, List.tail_cons,
        mantissa_digits, List.erase_of_not_mem (notMem_point _), dropWhile_zero pos, nonempty,
        if_false]
    rw [text, rejected]
    constructor
    · intro found
      cases found
    · rintro ⟨rfl, _⟩
      omega
  · obtain ⟨value, rfl⟩ := Int.eq_ofNat_of_zero_le nonnegative
    have text : (JsonNumber.ofInt value).text = Decimal.digits value := by
      rw [JsonNumber.ofInt_natCast]
      rfl
    rw [text, contextInteger_digits bounded]
    constructor
    · intro found
      split at found
      · rename_i small
        cases Option.some.inj found
        exact ⟨rfl, small⟩
      · cases found
    · rintro ⟨same, small⟩
      have same : value = result := by exact_mod_cast same
      rw [same, if_pos small]

theorem contextInteger_le {text : List Char} {max value : Nat}
    (found : contextInteger text max = some value) : value ≤ max := by
  unfold contextInteger at found
  dsimp only at found
  generalize (if decide (text.head? = some '-') = true then text.tail else text) = unsigned at found
  split at found
  · cases Option.some.inj found
    exact Nat.zero_le _
  · split at found
    · cases found
    · obtain ⟨exponent, _, found⟩ := Option.bind_eq_some_iff.mp found
      split at found
      · cases found
      · obtain ⟨whole, _, found⟩ := Option.bind_eq_some_iff.mp found
        split at found
        · cases found
        · exact of_decide_eq_true (Option.filter_eq_some_iff.mp found).2

end CheckNetwork.Context
