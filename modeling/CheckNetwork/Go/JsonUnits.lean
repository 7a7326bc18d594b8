import CheckNetwork.Go.JsonSize

/-!
# Lengths of strings by code units

A reader that has a string as UTF-16 finds how many bytes `encoding/json`
writes for it, one code unit or one pair of surrogates at a time.
-/

namespace CheckNetwork.Go

/-! ## Code units -/

/-- The code units of a character. -/
def units (char : Char) : List Nat :=
  if char.toNat < 0x10000 then [char.toNat]
  else [0xD800 + (char.toNat - 0x10000) / 0x400, 0xDC00 + (char.toNat - 0x10000) % 0x400]

def utf16 (text : List Char) : List Nat := text.flatMap units

@[simp]
theorem utf16_nil : utf16 [] = [] := rfl

theorem utf16_cons (char : Char) (text : List Char) : utf16 (char :: text) = units char ++ utf16 text :=
  List.flatMap_cons

theorem length_units_le (char : Char) : (units char).length ≤ char.utf8Size := by
  unfold units
  split
  · exact Char.utf8Size_pos char
  · rename_i astral
    have four : char.utf8Size = 4 :=
      Char.utf8Size_eq_four_iff.mpr (UInt32.lt_iff_toNat_lt.mpr (by
        change 0xffff < char.toNat
        omega))
    rw [four, List.length_cons, List.length_cons, List.length_nil]
    omega

theorem length_utf16_le (text : List Char) : (utf16 text).length ≤ utf8Length text := by
  induction text with
  | nil => exact Nat.le_refl 0
  | cons first rest ih =>
      rw [utf16_cons, List.length_append, utf8Length_cons]
      exact Nat.add_le_add (length_units_le first) ih

theorem units_ne_nil (char : Char) : units char ≠ [] := by
  unfold units
  split <;> nofun

namespace GoString

variable {value : GoString}

/-- A valid string is made of its text. -/
theorem ofString_text (valid : value.isValid = true) : ofString value.text = value := by
  rw [text, ofString, String.toList_ofList, List.map_map]
  refine (List.map_congr_left ?_).trans (List.map_id _)
  intro rune member
  have scalar := List.all_eq_true.mp valid rune member
  cases rune with
  | scalar char => rfl
  | invalid byte => cases scalar

/-- The text of a valid string has as many bytes. -/
theorem utf8Length_text (valid : value.isValid = true) :
    utf8Length value.text.toList = value.byteLength := by
  rw [← byteLength_spelled]
  exact congrArg byteLength (ofString_text valid)

theorem text_ne_empty (nonempty : value ≠ []) : value.text ≠ "" := by
  intro empty
  have same := congrArg String.toList empty
  rw [text, String.toList_ofList] at same
  exact nonempty (List.map_eq_nil_iff.mp same)

end GoString

namespace Json

/-- The bytes of a character that takes the given number of bytes as it is. -/
def quotedBytes (code size : Nat) : Nat :=
  if code ∈ [0x22, 0x5c, 0x08, 0x09, 0x0a, 0x0c, 0x0d] then 2
  else if code < 0x20 ∨ code ∈ [0x3c, 0x3e, 0x26, 0x2028, 0x2029] then 6
  else size

/-- The bytes of a character of the basic plane. -/
def unitSize (code : Nat) : Nat :=
  if code ≤ 0x7f then 1 else if code ≤ 0x7ff then 2 else 3

inductive StringProblem
  | malformedSurrogate | tooLong
  deriving DecidableEq, Repr

def StringProblem.message : StringProblem → String
  | malformedSurrogate => "malformed UTF-16 surrogate"
  | tooLong => "Geo string exceeds byte limit"

/-- The loop over the code units, with the bytes that are written and those of
the string itself. -/
def stringBytesFrom (maximum : Nat) : List Nat → Nat → Nat → Except StringProblem Nat
  | [], encoded, _ => .ok encoded
  | code :: rest, encoded, utf8 =>
      if isHighSurrogate code then
        match rest with
        | low :: rest =>
            if isLowSurrogate low then
              if maximum < utf8 + 4 then .error .tooLong
              else stringBytesFrom maximum rest (encoded + 4) (utf8 + 4)
            else .error .malformedSurrogate
        | [] => .error .malformedSurrogate
      else if isLowSurrogate code then .error .malformedSurrogate
      else if maximum < utf8 + unitSize code then .error .tooLong
      else stringBytesFrom maximum rest (encoded + quotedBytes code (unitSize code))
        (utf8 + unitSize code)

/-- How many bytes are written for a string of at most so many bytes. -/
def stringBytes (maximum : Nat) (text : List Nat) : Except StringProblem Nat :=
  stringBytesFrom maximum text 2 0

/-! ## Written strings -/

section Written

theorem utf8Length_quotedChar (char : Char) :
    utf8Length (quotedChar char) = quotedBytes char.toNat char.utf8Size := by
  have toNat_eq : ∀ other : Char, char.toNat = other.toNat ↔ char = other :=
    fun other => Char.toNat_inj
  have short : char.toNat ∈ [0x22, 0x5c, 0x08, 0x09, 0x0a, 0x0c, 0x0d] ↔ char = '"' ∨ char = '\\' ∨
      char = '\x08' ∨ char = '\t' ∨ char = '\n' ∨ char = '\x0c' ∨ char = '\r' := by
    simp only [← toNat_eq, List.mem_cons, List.not_mem_nil, or_false]
    exact Iff.rfl
  have numbered : (char.toNat < 0x20 ∨ char.toNat ∈ [0x3c, 0x3e, 0x26, 0x2028, 0x2029]) ↔
      isNumbered char = true := by
    rw [isNumbered, decide_eq_true_iff]
    simp only [← toNat_eq, List.mem_cons, List.not_mem_nil, or_false]
    exact Iff.rfl
  rw [quotedBytes]
  by_cases listed : char.toNat ∈ [0x22, 0x5c, 0x08, 0x09, 0x0a, 0x0c, 0x0d]
  · rw [if_pos listed]
    rcases short.mp listed with rfl | rfl | rfl | rfl | rfl | rfl | rfl <;> rfl
  · have plain := mt short.mpr listed
    simp only [not_or] at plain
    have escape : shortEscape char = none := by
      simp [shortEscape, plain]
    rw [if_neg listed, quotedChar, escape]
    by_cases known : isNumbered char = true
    · rw [if_pos (numbered.mpr known)]
      dsimp only
      rw [if_pos known]
      exact utf8Length_unicodeEscape _
    · rw [if_neg (fun other => known (numbered.mp other))]
      dsimp only
      rw [if_neg known, utf8Length_cons, utf8Length_nil]
      exact Nat.add_zero _

/-- The bytes between the quotes. -/
theorem utf8Length_quote_scalars (text : List Char) :
    utf8Length (quote (text.map .scalar)) =
      2 + (text.map fun char => quotedBytes char.toNat char.utf8Size).sum := by
  have body : utf8Length ((text.map Rune.scalar).flatMap quotedRune) =
      (text.map fun char => quotedBytes char.toNat char.utf8Size).sum := by
    induction text with
    | nil => rfl
    | cons first rest ih =>
        rw [List.map_cons, List.flatMap_cons, utf8Length_append, ih, quotedRune,
          utf8Length_quotedChar, List.map_cons, List.sum_cons]
  rw [quote, utf8Length_cons, utf8Length_append, body]
  change 1 + (_ + 1) = _
  omega

end Written

/-! ## Code units of characters -/

section Units

variable {char : Char}

theorem unitSize_toNat (basic : char.toNat < 0x10000) : unitSize char.toNat = char.utf8Size := by
  have one : char.utf8Size = 1 ↔ char.toNat ≤ 0x7f :=
    Char.utf8Size_eq_one_iff.trans UInt32.le_iff_toNat_le
  have two : char.utf8Size = 2 ↔ 0x7f < char.toNat ∧ char.toNat ≤ 0x7ff :=
    Char.utf8Size_eq_two_iff.trans
      (and_congr UInt32.lt_iff_toNat_lt UInt32.le_iff_toNat_le)
  have four : char.utf8Size = 4 ↔ 0xffff < char.toNat :=
    Char.utf8Size_eq_four_iff.trans UInt32.lt_iff_toNat_lt
  have pos := Char.utf8Size_pos char
  have le := Char.utf8Size_le_four char
  unfold unitSize
  split_ifs <;> omega

/-- One character of the loop. -/
theorem stringBytesFrom_units (maximum encoded utf8 : Nat) (char : Char) (rest : List Nat) :
    stringBytesFrom maximum (units char ++ rest) encoded utf8 =
      if maximum < utf8 + char.utf8Size then .error .tooLong
      else stringBytesFrom maximum rest (encoded + quotedBytes char.toNat char.utf8Size)
        (utf8 + char.utf8Size) := by
  have valid := char.valid
  change char.toNat < 0xd800 ∨ 0xdfff < char.toNat ∧ char.toNat < 0x110000 at valid
  unfold units
  by_cases basic : char.toNat < 0x10000
  · have high : isHighSurrogate char.toNat = false := by
      simp [isHighSurrogate]
      omega
    have low : isLowSurrogate char.toNat = false := by
      simp [isLowSurrogate]
      omega
    rw [if_pos basic, List.singleton_append, stringBytesFrom.eq_def]
    dsimp only
    rw [high, low, if_neg Bool.false_ne_true, if_neg Bool.false_ne_true, unitSize_toNat basic]
  · have size : char.utf8Size = 4 :=
      Char.utf8Size_eq_four_iff.mpr (UInt32.lt_iff_toNat_lt.mpr (by
        change 0xffff < char.toNat
        omega))
    have high : isHighSurrogate (0xD800 + (char.toNat - 0x10000) / 0x400) = true := by
      simp [isHighSurrogate]
      omega
    have low : isLowSurrogate (0xDC00 + (char.toNat - 0x10000) % 0x400) = true := by
      simp [isLowSurrogate]
      omega
    have plain : quotedBytes char.toNat 4 = 4 := by
      unfold quotedBytes
      rw [if_neg (by simp; omega), if_neg (by simp; omega)]
    rw [if_neg basic, List.cons_append, List.cons_append, List.nil_append, stringBytesFrom, high,
      if_pos rfl, low, if_pos rfl, size, plain]

/-- The loop finds the bytes that are written, unless the string is too long. -/
theorem stringBytes_utf16 (maximum : Nat) (text : List Char) :
    stringBytes maximum (utf16 text) =
      if utf8Length text ≤ maximum then .ok (utf8Length (quote (text.map .scalar)))
      else .error .tooLong := by
  have loop : ∀ (text : List Char) (encoded utf8 : Nat), utf8 ≤ maximum →
      stringBytesFrom maximum (utf16 text) encoded utf8 =
        if utf8 + utf8Length text ≤ maximum then
          .ok (encoded + (text.map fun char => quotedBytes char.toNat char.utf8Size).sum)
        else .error .tooLong := by
    intro text
    induction text with
    | nil =>
        intro encoded utf8 room
        exact (if_pos room).symm
    | cons first rest ih =>
        intro encoded utf8 room
        rw [utf16_cons, stringBytesFrom_units, utf8Length_cons]
        by_cases long : maximum < utf8 + first.utf8Size
        · rw [if_pos long, if_neg (by omega)]
        · rw [if_neg long, ih _ _ (by omega), List.map_cons, List.sum_cons, Nat.add_assoc,
            Nat.add_assoc]
  rw [stringBytes, loop text 2 0 (Nat.zero_le _), Nat.zero_add, utf8Length_quote_scalars]

end Units

end Json
end CheckNetwork.Go
