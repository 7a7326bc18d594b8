import CheckNetwork.Context.Integer
import CheckNetwork.Text.Measured
import CheckNetwork.Text.NumberParts

/-!
# The integers of numbers

`contextInteger` takes a number apart by its text.  It decides by the parts of
the number, and makes no text that is longer than the number or than the ten
digits of a bound.
-/

namespace CheckNetwork.Context

open CheckNetwork.Go
open CheckNetwork.Text

section Parts

variable {parts : NumberParts} {mark : Char}

theorem mantissa_unsignedText (valid : parts.Valid) (known : mark = 'e' ∨ mark = 'E') :
    (parts.unsignedText mark).takeWhile (fun char => char ≠ 'e' ∧ char ≠ 'E') =
      parts.whole ++ parts.fraction.elim [] ('.' :: ·) := by
  have plain : ∀ {digits : List Char}, Digits digits → ∀ char ∈ digits,
      decide (char ≠ 'e' ∧ char ≠ 'E') = true := by
    intro digits all char member
    have digit := all char member
    rw [decide_eq_true_iff]
    constructor <;> rintro rfl <;> cases digit
  have front : ∀ char ∈ parts.whole ++ parts.fraction.elim [] ('.' :: ·),
      decide (char ≠ 'e' ∧ char ≠ 'E') = true := by
    intro char member
    rcases List.mem_append.mp member with first | last
    · exact plain valid.whole char first
    · cases present : parts.fraction with
      | none =>
          rw [present] at last
          cases last
      | some digits =>
          rw [present] at last
          rcases List.mem_cons.mp last with rfl | later
          · decide
          · exact plain (valid.fraction digits present).1 char later
  rw [NumberParts.unsignedText, ← List.append_assoc, List.takeWhile_append_of_pos front]
  cases parts.exponent with
  | none => exact List.append_nil _
  | some exponent =>
      rw [Option.elim_some, List.takeWhile_cons, if_neg, List.append_nil]
      rcases known with rfl | rfl <;> decide

theorem drop_mantissa (parts : NumberParts) (mark : Char) :
    (parts.unsignedText mark).drop (parts.whole ++ parts.fraction.elim [] ('.' :: ·)).length =
      parts.exponent.elim [] fun exponent => mark :: NumberParts.exponentText exponent := by
  rw [NumberParts.unsignedText, ← List.append_assoc, List.drop_left]

/-- An exponent is read if it is an integer of 64 bits. -/
theorem atoi_exponent {sign : Option Char} {digits : List Char}
    (signed : ∀ char, sign = some char → char = '+' ∨ char = '-') (all : Digits digits)
    (nonempty : digits ≠ []) :
    GoString.atoi ((NumberParts.exponentText (sign, digits)).map .scalar) =
      (some (if sign = some '-' then -(value digits : Int) else value digits)).filter
        fun value => -2 ^ 63 ≤ value ∧ value < 2 ^ 63 := by
  have read : GoString.decimal? (digits.map .scalar) = some (value digits) := by
    rw [GoString.decimal?, if_neg (by simpa using nonempty), Decimal.foldlM_digits _ all]
    rfl
  cases sign with
  | some char =>
      rcases signed char rfl with rfl | rfl
      · simp [NumberParts.exponentText, GoString.atoi, read]
      · simp [NumberParts.exponentText, GoString.atoi, read]
  | none =>
      rw [NumberParts.exponentText, Option.toList_none, List.nil_append,
        if_neg (Option.some_ne_none _).symm]
      unfold GoString.atoi
      split
      · rename_i same
        cases digits with
        | nil => exact absurd rfl nonempty
        | cons first rest =>
            have digit := all first (List.mem_cons_self ..)
            rw [List.map_cons, List.cons.injEq, Rune.scalar.injEq] at same
            rw [same.1] at digit
            cases digit
      · rename_i same
        cases digits with
        | nil => exact absurd rfl nonempty
        | cons first rest =>
            have digit := all first (List.mem_cons_self ..)
            rw [List.map_cons, List.cons.injEq, Rune.scalar.injEq] at same
            rw [same.1] at digit
            cases digit
      · rw [read]
        rfl

theorem fraction_mantissa (valid : parts.Valid) :
    ((parts.whole ++ parts.fraction.elim [] ('.' :: ·)).dropWhile (· ≠ '.')).length - 1 =
      parts.places := by
  have noPoint : ∀ char ∈ parts.whole, decide (char ≠ '.') = true := by
    intro char member
    have digit := valid.whole char member
    rw [decide_eq_true_iff]
    rintro rfl
    cases digit
  rw [List.dropWhile_append_of_pos noPoint, NumberParts.places]
  cases parts.fraction with
  | none => rfl
  | some digits =>
      rw [Option.elim_some, List.dropWhile_cons, if_neg (by decide), List.length_cons,
        Nat.add_sub_cancel, Option.getD_some]

theorem erase_mantissa (valid : parts.Valid) :
    (parts.whole ++ parts.fraction.elim [] ('.' :: ·)).erase '.' = parts.digits := by
  have noPoint : '.' ∉ parts.whole := by
    intro member
    have digit := valid.whole '.' member
    cases digit
  rw [List.erase_append_right _ noPoint, NumberParts.digits]
  cases parts.fraction with
  | none => rfl
  | some digits => rw [Option.elim_some, List.erase_cons_head, Option.getD_some]

/-- The exponent that the text of a number has, where it is read. -/
def readExponent (parts : NumberParts) : Option Int :=
  (some parts.exponentValue).filter fun value => -2 ^ 63 ≤ value ∧ value < 2 ^ 63

/-- What `contextInteger` does with the parts of a number. -/
theorem contextInteger_parts (valid : parts.Valid) (known : mark = 'e' ∨ mark = 'E') (max : Nat) :
    contextInteger (parts.text mark) max =
      if parts.leading = [] then some 0
      else if parts.negative then none
      else (readExponent parts).bind fun exponent =>
        if (parts.leading.length + parts.places + 10 : Nat) < exponent ∨
            exponent < -(parts.leading.length + parts.places + 10 : Nat) then none
        else (shifted parts.leading (exponent - parts.places)).bind fun whole =>
          if 10 < whole.length then none
          else (GoString.decimal? (whole.map .scalar)).filter (· ≤ max) := by
  obtain ⟨unsigned, negative⟩ := NumberParts.unsigned_text valid mark
  unfold contextInteger
  dsimp only
  rw [unsigned, negative, mantissa_unsignedText valid known, drop_mantissa, fraction_mantissa valid,
    erase_mantissa valid]
  unfold readExponent NumberParts.exponentValue
  cases present : parts.exponent with
  | none => rfl
  | some exponent =>
      obtain ⟨sign, digits⟩ := exponent
      obtain ⟨signed, all, nonempty⟩ := valid.exponent sign digits present
      rw [Option.elim_some]
      dsimp only
      rw [atoi_exponent signed all nonempty]
      rfl

end Parts

/-! ## Shifting -/

section Shifting

variable {front : List Char} {zeros : Nat}

/-- Zeros are taken away or added, as long as there are enough of them. -/
theorem shifted_append (nonempty : front ≠ []) (last : isZero (front.getLast nonempty) = false)
    (zeros : Nat) (shift : Int) :
    shifted (front ++ List.replicate zeros '0') shift =
      if shift + zeros < 0 ∨ (0 ≤ shift ∧ 10 < (front.length : Int) + (shift + zeros)) then none
      else some (front ++ List.replicate (shift + zeros).toNat '0') := by
  unfold shifted
  dsimp only
  rw [length_append_zeros]
  by_cases negative : shift < 0
  · rw [if_pos negative]
    obtain ⟨remove, rfl⟩ : ∃ remove : Nat, shift = -(remove : Int) := ⟨(-shift).toNat, by omega⟩
    rw [neg_neg, Int.toNat_natCast]
    by_cases enough : remove ≤ zeros
    · obtain ⟨dropped, taken⟩ := @split_zeros front zeros remove enough
      rw [if_neg (by omega), dropped, any_zeros, if_neg Bool.false_ne_true, taken, if_neg (by omega)]
      congr 3
      omega
    · have out : -(remove : Int) + zeros < 0 ∨
          (0 ≤ -(remove : Int) ∧ 10 < (front.length : Int) + (-(remove : Int) + zeros)) :=
        .inl (by omega)
      rw [if_pos out]
      by_cases le : remove ≤ front.length + zeros
      · rw [if_neg (by omega), any_drop nonempty last (by omega) le, if_pos rfl]
      · rw [if_pos (by omega)]
  · rw [if_neg negative]
    by_cases wide : 10 < ((front.length + zeros : Nat) : Int) + shift
    · rw [if_pos wide, if_pos (.inr ⟨by omega, by omega⟩)]
    · rw [if_neg wide, if_neg (by omega), List.append_assoc, List.replicate_append_replicate]
      congr 3
      omega

end Shifting

/-! ## Exactness -/

section Exact

variable {parts : NumberParts} {mark : Char} {max number : Nat}

theorem decimal?_padded (significant : Significant parts.significant) (count : Nat) :
    GoString.decimal? ((parts.significant ++ List.replicate count '0').map .scalar) =
      some (value parts.significant * 10 ^ count) := by
  rw [GoString.decimal?, if_neg (by simp [significant.nonempty]),
    Decimal.foldlM_digits _ (significant.all.append_zeros count), ← value_append_zeros]
  rfl

/-- The exponent of a number that is shifted within the bounds. -/
theorem shifted_leading (nonzero : parts.leading ≠ []) (valid : parts.Valid) :
    shifted parts.leading (parts.exponentValue - parts.places) =
      if parts.shift < 0 ∨ (0 ≤ parts.exponentValue - parts.places ∧
        10 < (parts.significant.length : Int) + parts.shift) then none
      else some (parts.significant ++ List.replicate parts.shift.toNat '0') := by
  have significant := valid.significant nonzero
  conv_lhs => rw [← withoutTrailing_append parts.leading]
  exact shifted_append significant.nonempty significant.last _ _

/-- `contextInteger` reads exactly the integers up to the bound. -/
theorem contextInteger_eq_some_iff (valid : parts.Valid) (known : mark = 'e' ∨ mark = 'E')
    (bounded : max < 10 ^ 10) (short : (parts.text mark).length < 2 ^ 62) :
    contextInteger (parts.text mark) max = some number ↔ parts.Denotes max number := by
  rw [contextInteger_parts valid known]
  by_cases zero : parts.leading = []
  · rw [if_pos zero, NumberParts.denotes_of_leading_eq_nil zero, Option.some.injEq, eq_comm]
  · obtain ⟨leading_le, places_le⟩ := NumberParts.length_bounds parts mark
    have length := NumberParts.length_significant parts
    have significant := valid.significant zero
    have shift_eq : parts.shift =
      parts.exponentValue - parts.places + trailing parts.leading := rfl
    rw [if_neg zero]
    cases negative : parts.negative with
    | true =>
        rw [if_pos rfl]
        constructor
        · intro impossible
          cases impossible
        · exact fun denoted => absurd denoted (NumberParts.not_denotes_of_negative zero negative)
    | false =>
        rw [if_neg Bool.false_ne_true, readExponent]
        by_cases inside : parts.shift < 0 ∨ 10 < (parts.significant.length : Int) + parts.shift
        · -- The number is no integer up to the bound, and every way on ends.
          constructor
          · intro found
            obtain ⟨exponent, read, found⟩ := Option.bind_eq_some_iff.mp found
            cases (Option.filter_eq_some_iff.mp read).1
            split at found
            · cases found
            · rw [shifted_leading zero valid] at found
              split at found
              · cases found
              · rw [Option.bind_some, if_pos (by simp; omega)] at found
                cases found
          · exact fun denoted => absurd denoted (NumberParts.not_denotes_of_shift valid zero bounded inside)
        · have inRange : -2 ^ 63 ≤ parts.exponentValue ∧ parts.exponentValue < 2 ^ 63 := by omega
          have room : ¬((parts.leading.length + parts.places + 10 : Nat) < parts.exponentValue ∨
              parts.exponentValue < -(parts.leading.length + parts.places + 10 : Nat)) := by
            omega
          rw [Option.filter_some, if_pos (by simpa using inRange), Option.bind_some, if_neg room,
            shifted_leading zero valid, if_neg (by omega), Option.bind_some, if_neg (by simp; omega),
            decimal?_padded significant, NumberParts.denotes_iff_of_shift zero negative (by omega)]
          rw [Option.filter_some]
          by_cases le : value parts.significant * 10 ^ parts.shift.toNat ≤ max
          · rw [if_pos (decide_eq_true le), Option.some.injEq]
            constructor
            · rintro rfl
              exact ⟨rfl, le⟩
            · exact fun same => same.1
          · rw [if_neg (by simpa using le)]
            constructor
            · intro impossible
              cases impossible
            · rintro ⟨rfl, small⟩
              exact absurd small le

end Exact

/-! ## What is made -/

/-- `shifted`, with every text and number that it makes. -/
def shiftedMeasured (digits : List Char) (shift : Int) : Measured (List Char) :=
  if shift < 0 then do
    let remove ← .integer (-shift)
    let kept := digits.length - remove.toNat
    if digits.length < remove.toNat then .fail
    else do
      let tail ← .text (digits.drop kept)
      .require (!tail.any (· ≠ '0'))
      .text (digits.take kept)
  else do
    let length ← .integer (digits.length + shift)
    if 10 < length then .fail
    else do
      let zeros ← .text (List.replicate shift.toNat '0')
      .text (digits ++ zeros)

/-- `contextInteger`, with every text and number that it makes. -/
def contextIntegerMeasured (text : List Char) (max : Nat) : Measured Nat := do
  let negative : Bool := text.head? = some '-'
  let unsigned ← .text (if negative then text.tail else text)
  let mantissa ← .text (unsigned.takeWhile fun char => char ≠ 'e' ∧ char ≠ 'E')
  let exponent : Option Int := match unsigned.drop mantissa.length with
    | [] => some 0
    | _ :: power => GoString.atoi (power.map .scalar)
  let fraction ← .integer ((mantissa.dropWhile (· ≠ '.')).length - 1 : Nat)
  let joined ← .text (mantissa.erase '.')
  let digits ← .text (joined.dropWhile (· = '0'))
  if digits = [] then pure 0
  else if negative then .fail
  else do
    let exponent ← .ofOption exponent
    let exponent ← .integer exponent
    let limit ← .integer (digits.length + fraction + 10)
    if limit < exponent ∨ exponent < -limit then .fail
    else do
      let shift ← .integer (exponent - fraction)
      let whole ← shiftedMeasured digits shift
      if 10 < whole.length then .fail
      else .ofOption ((GoString.decimal? (whole.map .scalar)).filter (· ≤ max))

theorem result_shiftedMeasured (digits : List Char) (shift : Int) :
    (shiftedMeasured digits shift).result = shifted digits shift := by
  unfold shiftedMeasured shifted
  by_cases negative : shift < 0
  · simp only [negative, if_true, Measured.result_bind, Measured.result_integer, Option.bind_some,
      Measured.result_ite, Measured.result_fail, Measured.result_text, Measured.result_require]
    split
    · rfl
    · cases (digits.drop (digits.length - (-shift).toNat)).any (· ≠ '0') <;> rfl
  · simp only [negative, if_false, Measured.result_bind, Measured.result_integer, Option.bind_some,
      Measured.result_ite, Measured.result_fail, Measured.result_text]

/-- The value is that of `contextInteger`. -/
theorem result_contextIntegerMeasured (text : List Char) (max : Nat) :
    (contextIntegerMeasured text max).result = contextInteger text max := by
  unfold contextIntegerMeasured contextInteger
  simp only [Measured.result_bind, Measured.result_text, Measured.result_integer, Option.bind_some,
    Measured.result_ite, Measured.result_pure, Measured.result_fail, Measured.result_ofOption,
    result_shiftedMeasured, Nat.cast_add, Nat.cast_ofNat] <;> rfl

section Within

variable {text : List Char} {limit : Nat}

theorem within_shiftedMeasured {digits : List Char} {shift : Int} (le : digits.length ≤ limit)
    (wide : 10 ≤ limit) (small : limit < 2 ^ 32) (bounded : -2 ^ 62 ≤ shift ∧ shift < 2 ^ 62) :
    (shiftedMeasured digits shift).Within limit := by
  unfold shiftedMeasured
  apply Measured.within_ite
  · intro negative
    apply Measured.within_integer_bind (by omega) (by omega)
    dsimp only
    apply Measured.within_ite (fun _ => Measured.within_fail)
    intro _
    apply Measured.within_text_bind ((List.drop_sublist _ _).length_le.trans le)
    apply Measured.within_require_bind
    intro _
    exact Measured.within_text ((List.take_sublist _ _).length_le.trans le)
  · intro nonneg
    apply Measured.within_integer_bind (by omega) (by omega)
    apply Measured.within_ite (fun _ => Measured.within_fail)
    intro narrow
    apply Measured.within_text_bind (by rw [List.length_replicate]; omega)
    apply Measured.within_text
    rw [List.length_append, List.length_replicate]
    omega

/-- Nothing is longer than the number or than ten digits. -/
theorem within_contextIntegerMeasured (max : Nat) (le : text.length ≤ limit) (wide : 10 ≤ limit)
    (small : limit < 2 ^ 32) : (contextIntegerMeasured text max).Within limit := by
  unfold contextIntegerMeasured
  dsimp only
  set unsigned := if decide (text.head? = some '-') = true then text.tail else text with unsigned_eq
  have unsigned_le : unsigned.length ≤ limit := by
    rw [unsigned_eq]
    split
    · exact (List.tail_sublist _).length_le.trans le
    · exact le
  set mantissa := unsigned.takeWhile fun char => char ≠ 'e' ∧ char ≠ 'E' with mantissa_eq
  have mantissa_le : mantissa.length ≤ limit :=
    (List.takeWhile_sublist _).length_le.trans unsigned_le
  have fraction_le : (mantissa.dropWhile (· ≠ '.')).length ≤ limit :=
    (List.dropWhile_sublist _).length_le.trans mantissa_le
  have joined_le : (mantissa.erase '.').length ≤ limit :=
    List.erase_sublist.length_le.trans mantissa_le
  have digits_le : ((mantissa.erase '.').dropWhile (· = '0')).length ≤ limit :=
    (List.dropWhile_sublist _).length_le.trans joined_le
  apply Measured.within_text_bind unsigned_le
  apply Measured.within_text_bind mantissa_le
  apply Measured.within_integer_bind (by omega) (by omega)
  apply Measured.within_text_bind joined_le
  apply Measured.within_text_bind digits_le
  apply Measured.within_ite (fun _ => Measured.within_pure 0)
  intro _
  apply Measured.within_ite (fun _ => Measured.within_fail)
  intro _
  apply Measured.within_ofOption_bind
  intro exponent read
  have word : -2 ^ 63 ≤ exponent ∧ exponent < 2 ^ 63 := by
    split at read
    · cases read
      decide
    · exact of_decide_eq_true (Option.filter_eq_some_iff.mp read).2
  apply Measured.within_integer_bind word.1 word.2
  apply Measured.within_integer_bind (by omega) (by omega)
  apply Measured.within_ite (fun _ => Measured.within_fail)
  intro room
  apply Measured.within_integer_bind (by omega) (by omega)
  apply Measured.within_bind (within_shiftedMeasured digits_le wide small (by omega))
  intro whole _
  exact Measured.within_ite (fun _ => Measured.within_fail) fun _ => Measured.within_ofOption _

end Within

end CheckNetwork.Context
