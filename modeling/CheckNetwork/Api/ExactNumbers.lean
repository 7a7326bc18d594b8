import CheckNetwork.Android.ContextInteger
import CheckNetwork.Context.ExactInteger
import CheckNetwork.Frontend.ContextNumber
import CheckNetwork.Frontend.GeoCount

/-!
# The four readers of integers

The server, the browser and the Android client decide the same numbers to be
integers.
-/

namespace CheckNetwork.Api

open CheckNetwork.Go
open CheckNetwork.Text

/-- The decimal value of a number. -/
def exactValue (number : JsonNumber) : ℚ :=
  match number.text with
  | '-' :: rest => -Frontend.unsignedValue rest
  | rest => Frontend.unsignedValue rest

section Value

variable {parts : NumberParts} {mark : Char}

theorem json_isDigit : Json.isDigit = Char.isDigit :=
  funext fun char => (Decimal.char_isDigit_iff char).symm

/-- What stands behind the mark of an exponent. -/
theorem dropWhile_unsignedText (valid : parts.Valid) (known : mark = 'e' ∨ mark = 'E') :
    (parts.unsignedText mark).dropWhile (fun char => char ≠ 'e' && char ≠ 'E') =
      parts.exponent.elim [] fun exponent => mark :: NumberParts.exponentText exponent := by
  have mantissa := Context.mantissa_unsignedText valid known
  have split := @List.takeWhile_append_dropWhile _ (fun char => char ≠ 'e' && char ≠ 'E')
    (parts.unsignedText mark)
  simp only [Bool.decide_and] at mantissa
  rw [mantissa] at split
  have dropped := congrArg (List.drop
    (parts.whole ++ parts.fraction.elim [] ('.' :: ·)).length) split
  rw [List.drop_left, Context.drop_mantissa] at dropped
  exact dropped

def signedDigits : List Char → Int
  | '-' :: digits => -(value digits : Int)
  | '+' :: digits => value digits
  | digits => value digits

def digitsAfterPoint : List Char → List Char
  | '.' :: rest => rest.takeWhile Json.isDigit
  | _ => []

theorem unsignedValue_eq (text : List Char) : Frontend.unsignedValue text =
    value (text.takeWhile Json.isDigit ++ digitsAfterPoint (text.dropWhile Json.isDigit)) *
      10 ^ (signedDigits (text.dropWhile fun char => char ≠ 'e' && char ≠ 'E').tail -
        (digitsAfterPoint (text.dropWhile Json.isDigit)).length) := rfl

theorem signedDigits_digits {digits : List Char} (all : Digits digits) :
    signedDigits digits = value digits := by
  unfold signedDigits
  split
  · have digit := all '-' (List.mem_cons_self ..)
    cases digit
  · have digit := all '+' (List.mem_cons_self ..)
    cases digit
  · rfl

theorem signedDigits_exponent (valid : parts.Valid) (mark : Char) :
    signedDigits (parts.exponent.elim [] fun exponent =>
      mark :: NumberParts.exponentText exponent).tail = parts.exponentValue := by
  unfold NumberParts.exponentValue
  cases present : parts.exponent with
  | none => rfl
  | some exponent =>
      obtain ⟨sign, digits⟩ := exponent
      obtain ⟨signed, all, nonempty⟩ := valid.exponent sign digits present
      dsimp only
      rw [Option.elim_some, List.tail_cons, NumberParts.exponentText]
      cases sign with
      | some char => rcases signed char rfl with rfl | rfl <;> rfl
      | none =>
          rw [Option.toList_none, List.nil_append,
            if_neg (Option.some_ne_none _).symm]
          exact signedDigits_digits all

theorem unsignedValue_unsignedText (valid : parts.Valid) (known : mark = 'e' ∨ mark = 'E') :
    Frontend.unsignedValue (parts.unsignedText mark) =
      value parts.digits * 10 ^ (parts.exponentValue - parts.places) := by
  obtain ⟨whole, rest⟩ := NumberParts.takeWhile_append_ends valid.whole
    (NumberParts.endsDigits_fraction known parts)
  have fraction : digitsAfterPoint ((parts.fraction.elim [] ('.' :: ·)) ++
      parts.exponent.elim [] fun exponent => mark :: NumberParts.exponentText exponent) =
        parts.fraction.getD [] := by
    cases present : parts.fraction with
    | some digits =>
        rw [Option.elim_some, List.cons_append, digitsAfterPoint, json_isDigit]
        exact (NumberParts.takeWhile_append_ends (valid.fraction digits present).1
          (NumberParts.endsDigits_exponent known _)).1
    | none =>
        rw [Option.elim_none, List.nil_append]
        cases parts.exponent with
        | none => rfl
        | some exponent =>
            rw [Option.elim_some]
            rcases known with rfl | rfl <;> rfl
  rw [unsignedValue_eq, dropWhile_unsignedText valid known, signedDigits_exponent valid]
  rw [NumberParts.unsignedText, json_isDigit, whole, rest, fraction]
  rfl

/-- The parts of a number have its value. -/
theorem exactValue_eq {number : JsonNumber} (valid : parts.Valid) (known : mark = 'e' ∨ mark = 'E')
    (same : number.text = parts.text mark) : exactValue number = parts.exact := by
  have unsigned := unsignedValue_unsignedText valid known
  unfold exactValue NumberParts.exact
  rw [same, NumberParts.text, ← unsigned]
  cases negative : parts.negative with
  | true =>
      rw [if_pos rfl, if_pos rfl, List.singleton_append, neg_one_mul]
      rfl
  | false =>
      rw [if_neg Bool.false_ne_true, if_neg Bool.false_ne_true, List.nil_append, one_mul]
      split
      · rename_i minus
        have other := (NumberParts.unsigned_text valid mark).2
        rw [negative, NumberParts.text, negative, if_neg Bool.false_ne_true, List.nil_append,
          minus] at other
        cases other
      · rfl

end Value

section Readers

variable (number : JsonNumber)

/-- All of them read the integers up to the bound and nothing else, whatever
the exponent, and make no text longer than the number or than ten digits, and
no integer of more than sixty-four bits. -/
theorem readers_exact (short : number.text.length ≤ 16384) :
    (∀ max ≤ 4294967295, ∀ integer : Nat,
      Context.contextInteger number.text max = some integer ↔
        exactValue number = integer ∧ integer ≤ max) ∧
    (∀ integer : Nat, (Frontend.contextNumber number.text).result = some integer ↔
      exactValue number = integer ∧ integer ≤ 4294967295) ∧
    (∀ integer : Int, (Android.tokenInteger number.text).result = some integer ↔
      exactValue number = integer ∧ 0 ≤ integer ∧ integer ≤ 4294967295) ∧
    (∀ maximum ∈ [1, 6200],
      (Frontend.exactGeoCount number.text maximum).result = some true ↔
        ∃ integer : Nat, exactValue number = integer ∧ integer ≤ maximum) ∧
    (∀ max, (Context.contextIntegerMeasured number.text max).result =
        Context.contextInteger number.text max ∧
      (Context.contextIntegerMeasured number.text max).Within (Nat.max 10 number.text.length) ∧
      (Frontend.exactGeoCount number.text max).Within (Nat.max 10 number.text.length)) ∧
    (Frontend.contextNumber number.text).Within (Nat.max 10 number.text.length) ∧
    (Android.tokenInteger number.text).Within (Nat.max 10 number.text.length) := by
  obtain ⟨parts, mark, valid, known, same⟩ := NumberParts.exists_of_isNumber number.valid.2
  have long : (parts.text mark).length ≤ Nat.max 10 (parts.text mark).length :=
    Nat.le_max_right _ _
  have wide : 10 ≤ Nat.max 10 (parts.text mark).length := Nat.le_max_left _ _
  rw [same] at short
  rw [exactValue_eq valid known same, same]
  have small : Nat.max 10 (parts.text mark).length < 2 ^ 32 := by
    have le : Nat.max 10 (parts.text mark).length ≤ 16384 := Nat.max_le.mpr ⟨by decide, short⟩
    omega
  refine ⟨fun max le integer => ?_, fun integer => ?_, fun integer => ?_, fun maximum member => ?_,
    fun max => ⟨?_, ?_, ?_⟩, ?_, ?_⟩
  · rw [Context.contextInteger_eq_some_iff valid known (by omega) (by omega),
      NumberParts.denotes_iff valid]
  · rw [Frontend.result_contextNumber valid known short, NumberParts.denotes_iff valid]
    rfl
  · rw [Android.result_tokenInteger valid known short]
    constructor
    · rintro ⟨number, rfl, denoted⟩
      obtain ⟨exact_, le⟩ := (NumberParts.denotes_iff valid).mp denoted
      exact ⟨by rw [exact_]; rfl, by omega, by omega⟩
    · rintro ⟨exact_, nonneg, le⟩
      lift integer to Nat using nonneg
      exact ⟨integer, rfl, (NumberParts.denotes_iff valid).mpr ⟨by exact_mod_cast exact_, by omega⟩⟩
  · have bounded : maximum < 10 ^ 4 := by
      rcases List.mem_pair.mp member with rfl | rfl <;> decide
    rw [Frontend.result_exactGeoCount valid known short bounded]
    simp only [NumberParts.denotes_iff valid]
  · exact Context.result_contextIntegerMeasured _ _
  · exact Context.within_contextIntegerMeasured max long wide small
  · exact Frontend.within_exactGeoCount valid known long max
  · exact Frontend.within_contextNumber valid known long wide small
  · exact Android.within_tokenInteger valid known long small

/-- A number with a fraction and an exponent. -/
def fifteen : JsonNumber := ⟨['1', '.', '5', '0', 'e', '1'], by decide⟩

theorem readers_exact_fifteen :
    Context.contextInteger fifteen.text 4294967295 = some 15 ∧
      (Frontend.contextNumber fifteen.text).result = some 15 ∧
      (Android.tokenInteger fifteen.text).result = some 15 ∧
      (Frontend.exactGeoCount fifteen.text 6200).result = some true ∧
      (Frontend.contextNumber fifteen.text).Within 10 := by
  have read : exactValue fifteen = 15 := by
    have digits : exactValue fifteen = (150 : ℚ) * 10 ^ (-1 : Int) := rfl
    rw [digits]
    norm_num
  obtain ⟨server, browser, android, counts, -, within, -⟩ := readers_exact fifteen (by decide)
  exact ⟨(server _ le_rfl 15).mpr ⟨read, by decide⟩, (browser 15).mpr ⟨read, by decide⟩,
    (android 15).mpr ⟨read, by decide, by decide⟩,
    (counts 6200 (by decide)).mpr ⟨15, read, by decide⟩, within⟩

end Readers

end CheckNetwork.Api
