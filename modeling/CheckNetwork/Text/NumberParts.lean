import CheckNetwork.Go.JsonNumber
import CheckNetwork.Text.Decimal

/-!
# The parts of a number

A JSON number is a sign, digits, a fraction and an exponent.  The file supplies
the parts that a pattern finds in a number, and the value that they denote.
-/

namespace CheckNetwork.Text

open Go

/-- The exponent has a sign of its own. -/
structure NumberParts where
  negative : Bool
  whole : List Char
  fraction : Option (List Char)
  exponent : Option (Option Char × List Char)

/-! ## Patterns -/

/-- `\d+`. -/
def digitsPart (text : List Char) : Option (List Char × List Char) :=
  let digits := text.takeWhile Char.isDigit
  if digits = [] then none else some (digits, text.dropWhile Char.isDigit)

/-- `0|[1-9]\d*`. -/
def wholePart (text : List Char) : Option (List Char × List Char) :=
  match text with
  | '0' :: rest => some (['0'], rest)
  | _ => digitsPart text

/-- `(?:\.(\d+))?`. -/
def fractionPart (text : List Char) : Option (List Char) × List Char :=
  match text with
  | '.' :: rest =>
      match digitsPart rest with
      | some (digits, rest) => (some digits, rest)
      | none => (none, text)
  | _ => (none, text)

/-- `[+-]?`. -/
def signPart (text : List Char) : Option Char × List Char :=
  match text with
  | '+' :: rest => (some '+', rest)
  | '-' :: rest => (some '-', rest)
  | _ => (none, text)

/-- `(?:[eE]([+-]?\d+))?`. -/
def exponentPart (text : List Char) : Option (Option Char × List Char) × List Char :=
  match text with
  | mark :: rest =>
      if mark = 'e' ∨ mark = 'E' then
        match digitsPart (signPart rest).2 with
        | some (digits, rest') => (some ((signPart rest).1, digits), rest')
        | none => (none, text)
      else (none, text)
  | [] => (none, [])

/-- The groups of a pattern with the given digits before the point, if it
matches the whole text. -/
def numberParts (digits : List Char → Option (List Char × List Char)) (text : List Char) :
    Option NumberParts :=
  let negative : Bool := text.head? = some '-'
  (digits (if negative then text.tail else text)).bind fun (whole, rest) =>
    let (fraction, rest) := fractionPart rest
    let (exponent, rest) := exponentPart rest
    if rest = [] then some ⟨negative, whole, fraction, exponent⟩ else none

namespace NumberParts

/-! ## Texts -/

/-- The digits before and after the point. -/
def digits (parts : NumberParts) : List Char := parts.whole ++ parts.fraction.getD []

/-- How many digits stand after the point. -/
def places (parts : NumberParts) : Nat := (parts.fraction.getD []).length

def exponentText (exponent : Option Char × List Char) : List Char :=
  exponent.1.toList ++ exponent.2

def unsignedText (parts : NumberParts) (mark : Char) : List Char :=
  parts.whole ++ ((parts.fraction.elim [] ('.' :: ·)) ++
    parts.exponent.elim [] fun exponent => mark :: exponentText exponent)

def text (parts : NumberParts) (mark : Char) : List Char :=
  (if parts.negative then ['-'] else []) ++ parts.unsignedText mark

/-- What a JSON number is made of. -/
structure Valid (parts : NumberParts) : Prop where
  whole : Digits parts.whole
  nonempty : parts.whole ≠ []
  leading : parts.whole = ['0'] ∨ parts.whole.head? ≠ some '0'
  fraction : ∀ digits, parts.fraction = some digits → Digits digits ∧ digits ≠ []
  exponent : ∀ sign digits, parts.exponent = some (sign, digits) →
    (∀ char, sign = some char → char = '+' ∨ char = '-') ∧ Digits digits ∧ digits ≠ []

/-- A character that ends digits. -/
def EndsDigits (rest : List Char) : Prop := ∀ first, rest.head? = some first → first.isDigit = false

theorem takeWhile_append_ends {digits rest : List Char} (all : Digits digits)
    (ends : EndsDigits rest) : (digits ++ rest).takeWhile Char.isDigit = digits ∧
      (digits ++ rest).dropWhile Char.isDigit = rest := by
  have here : rest.takeWhile Char.isDigit = [] ∧ rest.dropWhile Char.isDigit = rest := by
    cases rest with
    | nil => exact ⟨rfl, rfl⟩
    | cons first rest =>
        have other := ends first rfl
        rw [List.takeWhile_cons, List.dropWhile_cons, other]
        exact ⟨rfl, rfl⟩
  rw [List.takeWhile_append_of_pos all, List.dropWhile_append_of_pos all, here.1, here.2]
  exact ⟨List.append_nil _, rfl⟩

theorem digitsPart_append {digits rest : List Char} (all : Digits digits) (nonempty : digits ≠ [])
    (ends : EndsDigits rest) : digitsPart (digits ++ rest) = some (digits, rest) := by
  obtain ⟨taken, dropped⟩ := takeWhile_append_ends all ends
  rw [digitsPart, taken, dropped]
  exact if_neg nonempty

theorem endsDigits_nil : EndsDigits [] := fun first impossible => by cases impossible

theorem endsDigits_cons {first : Char} {rest : List Char} (other : first.isDigit = false) :
    EndsDigits (first :: rest) := fun char here => by cases here; exact other

section Read

variable {parts : NumberParts} {mark : Char}

theorem not_isDigit_mark (known : mark = 'e' ∨ mark = 'E') : mark.isDigit = false := by
  rcases known with rfl | rfl <;> decide

theorem endsDigits_exponent (known : mark = 'e' ∨ mark = 'E')
    (exponent : Option (Option Char × List Char)) :
    EndsDigits (exponent.elim [] fun exponent => mark :: exponentText exponent) := by
  cases exponent with
  | none => exact endsDigits_nil
  | some exponent => exact endsDigits_cons (not_isDigit_mark known)

theorem endsDigits_fraction (known : mark = 'e' ∨ mark = 'E') (parts : NumberParts) :
    EndsDigits ((parts.fraction.elim [] ('.' :: ·)) ++
      parts.exponent.elim [] fun exponent => mark :: exponentText exponent) := by
  cases parts.fraction with
  | none => exact endsDigits_exponent known _
  | some digits => exact endsDigits_cons (by decide)

theorem signPart_append {sign : Option Char} {digits : List Char}
    (known : ∀ char, sign = some char → char = '+' ∨ char = '-') (all : Digits digits) :
    signPart (sign.toList ++ digits) = (sign, digits) := by
  cases sign with
  | none =>
      rw [Option.toList_none, List.nil_append]
      unfold signPart
      split
      · have digit := all '+' (List.mem_cons_self ..)
        cases digit
      · have digit := all '-' (List.mem_cons_self ..)
        cases digit
      · rfl
  | some char =>
      rcases known char rfl with rfl | rfl <;> rfl

theorem exponentPart_eq (valid : Valid parts) (known : mark = 'e' ∨ mark = 'E') :
    exponentPart (parts.exponent.elim [] fun exponent => mark :: exponentText exponent) =
      (parts.exponent, []) := by
  cases present : parts.exponent with
  | none => rfl
  | some exponent =>
      obtain ⟨sign, digits⟩ := exponent
      obtain ⟨signed, all, nonempty⟩ := valid.exponent sign digits present
      have read := digitsPart_append all nonempty endsDigits_nil
      rw [List.append_nil] at read
      rw [Option.elim_some, exponentPart, if_pos known, exponentText,
        signPart_append signed all, read]

theorem fractionPart_eq (valid : Valid parts) (known : mark = 'e' ∨ mark = 'E') :
    fractionPart ((parts.fraction.elim [] ('.' :: ·)) ++
      parts.exponent.elim [] fun exponent => mark :: exponentText exponent) =
        (parts.fraction, parts.exponent.elim [] fun exponent => mark :: exponentText exponent) := by
  cases present : parts.fraction with
  | none =>
      rw [Option.elim_none, List.nil_append]
      cases parts.exponent with
      | none => rfl
      | some exponent =>
          rw [Option.elim_some]
          unfold fractionPart
          split
          · rename_i same
            rcases known with rfl | rfl <;> cases same
          · rfl
  | some digits =>
      obtain ⟨all, nonempty⟩ := valid.fraction digits present
      rw [Option.elim_some, List.cons_append, fractionPart,
        digitsPart_append all nonempty (endsDigits_exponent known _)]

theorem wholePart_eq (valid : Valid parts) {rest : List Char} (ends : EndsDigits rest) :
    wholePart (parts.whole ++ rest) = some (parts.whole, rest) := by
  rcases valid.leading with zero | other
  · rw [zero]
    rfl
  · unfold wholePart
    split
    · rename_i same
      cases split : parts.whole with
      | nil => exact absurd split valid.nonempty
      | cons first others =>
          rw [split, List.cons_append] at same
          rw [split] at other
          exact absurd (congrArg some (List.cons.inj same).1) other
    · exact digitsPart_append valid.whole valid.nonempty ends

/-- The sign comes off. -/
theorem unsigned_text (valid : Valid parts) (mark : Char) :
    (if decide ((parts.text mark).head? = some '-') = true then (parts.text mark).tail
      else parts.text mark) = parts.unsignedText mark ∧
        decide ((parts.text mark).head? = some '-') = parts.negative := by
  unfold text
  cases parts.negative with
  | true => exact ⟨rfl, rfl⟩
  | false =>
      have first : decide ((parts.unsignedText mark).head? = some '-') = false := by
        rw [decide_eq_false_iff_not, unsignedText]
        cases split : parts.whole with
        | nil => exact absurd split valid.nonempty
        | cons head rest =>
            rw [List.cons_append, List.head?_cons]
            intro minus
            have digit := valid.whole head (split ▸ List.mem_cons_self ..)
            rw [Option.some.inj minus] at digit
            cases digit
      rw [if_neg Bool.false_ne_true, List.nil_append, first]
      exact ⟨rfl, rfl⟩

/-- The groups of a JSON number are its parts, whatever zeros the pattern
allows before the point. -/
theorem numberParts_text (valid : Valid parts) (known : mark = 'e' ∨ mark = 'E') :
    numberParts wholePart (parts.text mark) = some parts ∧
      numberParts digitsPart (parts.text mark) = some parts := by
  obtain ⟨unsigned, negative⟩ := unsigned_text valid mark
  have read : ∀ pattern : List Char → Option (List Char × List Char),
      pattern (parts.unsignedText mark) = some (parts.whole, (parts.fraction.elim [] ('.' :: ·)) ++
        parts.exponent.elim [] fun exponent => mark :: exponentText exponent) →
      numberParts pattern (parts.text mark) = some parts := by
    intro pattern whole
    unfold numberParts
    dsimp only
    rw [unsigned, negative, whole, Option.bind_some]
    dsimp only
    rw [fractionPart_eq valid known, exponentPart_eq valid known, if_pos rfl]
  have ends := endsDigits_fraction known parts
  exact ⟨read _ (wholePart_eq valid ends), read _ (digitsPart_append valid.whole valid.nonempty ends)⟩

end Read

/-! ## JSON numbers -/

theorem digits_takeWhile (text : List Char) : Digits (text.takeWhile Json.isDigit) := by
  intro char member
  rw [Decimal.char_isDigit_iff]
  exact List.mem_takeWhile_imp member

theorem exists_whole {text rest : List Char} (read : Json.withoutInteger text = some rest) :
    ∃ whole, Digits whole ∧ whole ≠ [] ∧ (whole = ['0'] ∨ whole.head? ≠ some '0') ∧
      text = whole ++ rest := by
  cases text with
  | nil => cases read
  | cons first tail =>
      rw [Json.withoutInteger] at read
      split at read
      · rename_i zero
        cases read
        rw [zero]
        have digits : Digits ['0'] := by
          intro char member
          rw [List.mem_singleton.mp member]
          rfl
        exact ⟨['0'], digits, List.cons_ne_nil _ _, .inl rfl, rfl⟩
      · rename_i nonzero
        split at read
        · rename_i digit
          cases read
          refine ⟨first :: tail.takeWhile Json.isDigit, ?_, List.cons_ne_nil _ _, .inr ?_, ?_⟩
          · intro char member
            rcases List.mem_cons.mp member with rfl | later
            · rwa [Decimal.char_isDigit_iff]
            · exact digits_takeWhile tail char later
          · exact fun zero => nonzero (Option.some.inj zero)
          · rw [List.cons_append, Json.withoutDigits, List.takeWhile_append_dropWhile]
        · cases read

theorem exists_fraction (text : List Char) :
    ∃ fraction : Option (List Char), (∀ digits, fraction = some digits → Digits digits ∧ digits ≠ []) ∧
      text = fraction.elim [] ('.' :: ·) ++ Json.withoutFraction text := by
  unfold Json.withoutFraction
  split
  · rename_i digit rest
    split
    · rename_i known
      refine ⟨some (digit :: rest.takeWhile Json.isDigit), ?_, ?_⟩
      · rintro digits ⟨⟩
        refine ⟨?_, List.cons_ne_nil _ _⟩
        intro char member
        rcases List.mem_cons.mp member with rfl | later
        · rwa [Decimal.char_isDigit_iff]
        · exact digits_takeWhile rest char later
      · rw [Option.elim_some, List.cons_append, List.cons_append, Json.withoutDigits,
          List.takeWhile_append_dropWhile]
    · exact ⟨none, fun _ found => absurd found (Option.some_ne_none _).symm, rfl⟩
  · exact ⟨none, fun _ found => absurd found (Option.some_ne_none _).symm, rfl⟩

theorem exists_exponent {text : List Char} (empty : Json.withoutExponent text = []) :
    ∃ (exponent : Option (Option Char × List Char)) (mark : Char),
      (∀ sign digits, exponent = some (sign, digits) →
        (∀ char, sign = some char → char = '+' ∨ char = '-') ∧ Digits digits ∧ digits ≠ []) ∧
      (mark = 'e' ∨ mark = 'E') ∧
        text = exponent.elim [] fun exponent => mark :: exponentText exponent := by
  have all : ∀ {rest : List Char}, Json.withoutDigits rest = [] → Digits rest := by
    intro rest none_ char member
    rw [Decimal.char_isDigit_iff]
    exact List.dropWhile_eq_nil_iff.mp none_ char member
  unfold Json.withoutExponent at empty
  split at empty
  · rename_i mark next rest
    split at empty
    · rename_i known
      split at empty
      · rename_i signed
        refine ⟨some (some next, rest), mark, ?_, known, rfl⟩
        rintro sign digits ⟨⟩
        refine ⟨fun char same => Option.some.inj same ▸ signed.1, all empty, ?_⟩
        rintro rfl
        cases signed.2
      · split at empty
        · rename_i digit
          refine ⟨some (none, next :: rest), mark, ?_, known, rfl⟩
          rintro sign digits ⟨⟩
          refine ⟨fun _ => nofun, ?_, List.cons_ne_nil _ _⟩
          intro char member
          rcases List.mem_cons.mp member with rfl | later
          · rwa [Decimal.char_isDigit_iff]
          · exact all empty char later
        · cases empty
    · cases empty
  · exact ⟨none, 'e', fun _ _ => nofun, .inl rfl, empty⟩

/-- Every JSON number has its parts. -/
theorem exists_of_isNumber {text : List Char} (number : Json.isNumber text = true) :
    ∃ (parts : NumberParts) (mark : Char), Valid parts ∧ (mark = 'e' ∨ mark = 'E') ∧
      text = parts.text mark := by
  have unsigned : ∀ {text : List Char} (negative : Bool), Json.isUnsignedNumber text = true →
      ∃ (parts : NumberParts) (mark : Char), Valid parts ∧ (mark = 'e' ∨ mark = 'E') ∧
        parts.negative = negative ∧ text = parts.unsignedText mark := by
    intro text negative number
    rw [Json.isUnsignedNumber, Option.any_eq_true] at number
    obtain ⟨rest, read, empty⟩ := number
    obtain ⟨whole, all, nonempty, leading, whole_eq⟩ := exists_whole read
    obtain ⟨fraction, fractional, fraction_eq⟩ := exists_fraction rest
    obtain ⟨exponent, mark, exponential, known, exponent_eq⟩ :=
      exists_exponent (of_decide_eq_true empty)
    refine ⟨⟨negative, whole, fraction, exponent⟩, mark,
      ⟨all, nonempty, leading, fractional, exponential⟩, known, rfl, ?_⟩
    rw [unsignedText, ← exponent_eq, ← fraction_eq, whole_eq]
  unfold Json.isNumber at number
  split at number
  · obtain ⟨parts, mark, valid, known, negative, same⟩ := unsigned true number
    exact ⟨parts, mark, valid, known, by rw [NumberParts.text, negative, same]; rfl⟩
  · obtain ⟨parts, mark, valid, known, negative, same⟩ := unsigned false number
    exact ⟨parts, mark, valid, known, by rw [NumberParts.text, negative, same]; rfl⟩

/-! ## Values -/

/-- The exponent, or zero. -/
def exponentValue (parts : NumberParts) : Int :=
  match parts.exponent with
  | none => 0
  | some (sign, digits) => if sign = some '-' then -(value digits : Int) else value digits

/-- The number that the parts denote. -/
def exact (parts : NumberParts) : ℚ :=
  (if parts.negative then -1 else 1) *
    (value parts.digits * 10 ^ (parts.exponentValue - parts.places))

/-- The digits without leading zeros. -/
def leading (parts : NumberParts) : List Char := withoutLeading parts.digits

/-- The digits without the zeros at both ends. -/
def significant (parts : NumberParts) : List Char := withoutTrailing parts.leading

/-- The exponent of the significant digits. -/
def shift (parts : NumberParts) : Int :=
  parts.exponentValue - parts.places + trailing parts.leading

/-- What it takes to be an integer up to a bound. -/
def Denotes (parts : NumberParts) (max number : Nat) : Prop :=
  parts.leading = [] ∧ number = 0 ∨
    parts.leading ≠ [] ∧ parts.negative = false ∧ 0 ≤ parts.shift ∧
      value parts.significant * 10 ^ parts.shift.toNat = number ∧ number ≤ max

section Denotes

variable {parts : NumberParts} {max number : Nat}

theorem Valid.digits (valid : Valid parts) : Digits parts.digits := by
  refine valid.whole.append ?_
  cases present : parts.fraction with
  | none => exact fun char impossible => by cases impossible
  | some digits => exact (valid.fraction digits present).1

theorem Valid.significant (valid : Valid parts) (nonzero : parts.leading ≠ []) :
    Significant parts.significant :=
  significant_of_leading valid.digits nonzero

theorem value_digits_of_leading (zero : parts.leading = []) : value parts.digits = 0 := by
  rw [← value_withoutLeading, ← leading, zero]
  rfl

theorem value_digits (parts : NumberParts) :
    value parts.digits = value parts.significant * 10 ^ trailing parts.leading := by
  rw [← value_withoutLeading, ← leading, value_eq_trailing, significant]

/-- The parts denote exactly their value. -/
theorem denotes_iff (valid : Valid parts) :
    parts.Denotes max number ↔ parts.exact = number ∧ number ≤ max := by
  by_cases zero : parts.leading = []
  · have nothing : parts.exact = 0 := by
      rw [exact, value_digits_of_leading zero]
      simp
    rw [nothing, Denotes]
    constructor
    · rintro (⟨-, rfl⟩ | ⟨nonzero, -⟩)
      · exact ⟨by simp, Nat.zero_le _⟩
      · exact absurd zero nonzero
    · rintro ⟨same, -⟩
      exact .inl ⟨zero, by exact_mod_cast same.symm⟩
  · have significant := valid.significant zero
    have scaled : (value parts.digits : ℚ) * 10 ^ (parts.exponentValue - parts.places) =
        value parts.significant * 10 ^ parts.shift := by
      rw [value_digits, Nat.cast_mul, Nat.cast_pow, Nat.cast_ofNat, mul_assoc, ← zpow_natCast,
        ← zpow_add₀ (by norm_num), shift]
      congr 2
      ring
    have positive : (0 : ℚ) < value parts.significant * 10 ^ parts.shift :=
      mul_pos (by exact_mod_cast significant.value_pos) (zpow_pos (by norm_num) _)
    rw [exact, scaled, Denotes]
    cases negative : parts.negative with
    | true =>
        constructor
        · rintro (⟨empty, -⟩ | ⟨-, impossible, -⟩)
          · exact absurd empty zero
          · cases impossible
        · rintro ⟨same, -⟩
          rw [if_pos rfl] at same
          have nonneg : (0 : ℚ) ≤ number := Nat.cast_nonneg number
          linarith
    | false =>
        rw [if_neg Bool.false_ne_true, one_mul, significant.eq_zpow_iff]
        constructor
        · rintro (⟨empty, -⟩ | ⟨-, -, nonneg, same, le⟩)
          · exact absurd empty zero
          · exact ⟨⟨nonneg, same⟩, le⟩
        · rintro ⟨⟨nonneg, same⟩, le⟩
          exact .inr ⟨zero, rfl, nonneg, same, le⟩

/-! ## Bounds -/

theorem length_digits_le (parts : NumberParts) (mark : Char) :
    parts.digits.length ≤ (parts.text mark).length := by
  rw [digits, text, unsignedText]
  cases parts.fraction <;> simp <;> omega

theorem length_bounds (parts : NumberParts) (mark : Char) :
    parts.leading.length ≤ (parts.text mark).length ∧ parts.places ≤ (parts.text mark).length := by
  have all := length_digits_le parts mark
  have fraction : parts.places ≤ parts.digits.length := by
    rw [places, digits, List.length_append]
    omega
  exact ⟨(length_withoutLeading_le _).trans all, fraction.trans all⟩

theorem length_significant (parts : NumberParts) :
    parts.significant.length + trailing parts.leading = parts.leading.length :=
  length_withoutTrailing _

/-- What the readers share: outside of these limits a number is no integer up
to the bound. -/
theorem not_denotes_of_shift {width : Nat} (valid : parts.Valid) (nonzero : parts.leading ≠ [])
    (bounded : max < 10 ^ width)
    (outside : parts.shift < 0 ∨ width < (parts.significant.length : Int) + parts.shift) :
    ¬parts.Denotes max number := by
  have significant := valid.significant nonzero
  rintro (⟨zero, -⟩ | ⟨-, -, nonneg, same, le⟩)
  · exact nonzero zero
  · rcases outside with negative | wide
    · omega
    · have more : width < parts.significant.length + parts.shift.toNat := by omega
      have large := lt_value_mul significant.all significant.nonempty significant.head more
      omega

theorem denotes_of_leading_eq_nil (zero : parts.leading = []) :
    parts.Denotes max number ↔ number = 0 := by
  constructor
  · rintro (⟨-, same⟩ | ⟨nonzero, -⟩)
    · exact same
    · exact absurd zero nonzero
  · exact fun same => .inl ⟨zero, same⟩

theorem not_denotes_of_negative (nonzero : parts.leading ≠ []) (negative : parts.negative = true) :
    ¬parts.Denotes max number := by
  rintro (⟨zero, -⟩ | ⟨-, positive, -⟩)
  · exact nonzero zero
  · rw [negative] at positive
    cases positive

/-- What is written of an integer up to the bound. -/
theorem denotes_iff_of_shift (nonzero : parts.leading ≠ []) (negative : parts.negative = false)
    (nonneg : 0 ≤ parts.shift) : parts.Denotes max number ↔
      value parts.significant * 10 ^ parts.shift.toNat = number ∧ number ≤ max := by
  constructor
  · rintro (⟨zero, -⟩ | ⟨-, -, -, same, le⟩)
    · exact absurd zero nonzero
    · exact ⟨same, le⟩
  · rintro ⟨same, le⟩
    exact .inr ⟨nonzero, negative, nonneg, same, le⟩

end Denotes

end NumberParts

end CheckNetwork.Text
