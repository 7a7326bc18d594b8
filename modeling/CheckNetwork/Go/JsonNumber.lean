import CheckNetwork.Go.JsonText
import Mathlib.Data.List.TakeWhile

/-!
# Integers in JSON

Integers are written in decimal, without leading zeros.
-/

namespace CheckNetwork.Go

namespace Decimal

/-- The digits of a number. -/
abbrev digits (value : Nat) : List Char := Nat.toDigits 10 value

theorem isDigit_of_mem {value : Nat} {char : Char} (member : char ∈ digits value) :
    char.isDigit = true :=
  Nat.isDigit_of_mem_toDigits (by decide) (by decide) member

theorem exists_digits (value : Nat) : ∃ first rest, digits value = first :: rest :=
  List.exists_cons_of_ne_nil Nat.toDigits_ne_nil

/-- Only zero begins with a zero. -/
theorem head?_digits (value : Nat) (pos : 0 < value) : (digits value).head? ≠ some '0' := by
  have leading : ∀ digit < 10, 0 < digit → Nat.digitChar digit ≠ '0' := by decide
  induction value using Nat.strong_induction_on with
  | _ value ih =>
      unfold digits
      rw [Nat.toDigits_eq_if (by decide)]
      split
      · rename_i small
        intro same
        exact leading value small pos (Option.some.inj same)
      · rename_i large
        have shorter := ih (value / 10) (by omega) (by omega)
        obtain ⟨first, rest, same⟩ := exists_digits (value / 10)
        rw [same] at shorter
        unfold digits at same
        rw [same]
        exact shorter

theorem char_isDigit_iff (char : Char) : char.isDigit = Json.isDigit char := by
  rw [Bool.eq_iff_iff]
  simp only [Char.isDigit, Json.isDigit, Bool.and_eq_true, decide_eq_true_eq]
  exact Iff.rfl

theorem digit?_of_isDigit {char : Char} (digit : char.isDigit = true) :
    GoString.digit? (.scalar char) = some (char.toNat - '0'.toNat) :=
  if_pos digit

/-- The value of a sequence of digits. -/
theorem foldlM_digits (text : List Char) (all : ∀ char ∈ text, char.isDigit = true)
    (start : Nat) :
    List.foldlM (fun value rune => (GoString.digit? rune).map fun digit => 10 * value + digit)
        start (text.map Rune.scalar) =
      some (Nat.ofDigitChars 10 text start) := by
  induction text generalizing start with
  | nil => rfl
  | cons first rest ih =>
      have digit := digit?_of_isDigit (all first (List.mem_cons_self ..))
      have tail := ih fun char member => all char (List.mem_cons_of_mem _ member)
      rw [List.map_cons, List.foldlM_cons, digit, Option.map_some, Option.bind_eq_bind,
        Option.bind_some, tail]
      rfl

/-- Digits are read back. -/
theorem decimal?_digits (value : Nat) :
    GoString.decimal? ((digits value).map .scalar) = some value := by
  have nonempty : (digits value).map Rune.scalar ≠ [] := by simp
  rw [GoString.decimal?, if_neg nonempty, foldlM_digits _ fun char member => isDigit_of_mem member,
    Nat.ofDigitChars_toDigits (by decide) (by decide)]

end Decimal

namespace JsonNumber

theorem isUnsignedNumber_digits (value : Nat) :
    Json.isUnsignedNumber (Decimal.digits value) = true := by
  obtain ⟨first, rest, same⟩ := Decimal.exists_digits value
  have inside : ∀ char ∈ first :: rest, Json.isDigit char = true := by
    intro char member
    rw [← Decimal.char_isDigit_iff]
    exact Decimal.isDigit_of_mem (by rw [same]; exact member)
  have whole : Json.withoutDigits rest = [] := by
    rw [Json.withoutDigits, List.dropWhile_eq_nil_iff]
    exact fun char member => inside char (List.mem_cons_of_mem _ member)
  rw [same, Json.isUnsignedNumber, Json.withoutInteger]
  by_cases zero : first = '0'
  · have value_eq : value = 0 := by
      by_contra pos
      apply Decimal.head?_digits value (Nat.pos_of_ne_zero pos)
      rw [same, zero]
      rfl
    rw [value_eq] at same
    have rest_eq : rest = [] := (List.cons.inj same).2.symm
    rw [if_pos zero, rest_eq]
    rfl
  · rw [if_neg zero, if_pos (inside first (List.mem_cons_self ..)), whole]
    rfl

theorem all_isWordChar_digits (value : Nat) :
    (Decimal.digits value).all Json.isWordChar = true := by
  rw [List.all_eq_true]
  intro char member
  have digit := Decimal.isDigit_of_mem member
  exact decide_eq_true (.inl (by rw [Char.isAlphanum, digit, Bool.or_true]))

theorem valid_digits (value : Nat) : (Decimal.digits value).all Json.isWordChar ∧
    Json.isNumber (Decimal.digits value) := by
  refine ⟨all_isWordChar_digits value, ?_⟩
  obtain ⟨first, rest, same⟩ := Decimal.exists_digits value
  have unsigned := isUnsignedNumber_digits value
  have digit : first.isDigit = true :=
    Decimal.isDigit_of_mem (by rw [same]; exact List.mem_cons_self ..)
  rw [same] at unsigned ⊢
  unfold Json.isNumber
  split
  · rename_i minus
    rw [(List.cons.inj minus).1] at digit
    cases digit
  · exact unsigned

def ofNat (value : Nat) : JsonNumber := ⟨Decimal.digits value, valid_digits value⟩

/-- `strconv.FormatInt(value, 10)`. -/
def ofInt (value : Int) : JsonNumber :=
  if value < 0 then
    ⟨'-' :: Decimal.digits value.natAbs, by
      refine ⟨?_, isUnsignedNumber_digits _⟩
      rw [List.all_cons, all_isWordChar_digits]
      decide⟩
  else ofNat value.toNat

theorem ofInt_natCast (value : Nat) : ofInt (value : Int) = ofNat value := by
  rw [ofInt, if_neg (by omega), Int.toNat_natCast]

end JsonNumber
end CheckNetwork.Go
