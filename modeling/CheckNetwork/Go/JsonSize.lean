import CheckNetwork.Go.JsonNumber
import CheckNetwork.Go.JsonRoundTrip

/-!
# Lengths of JSON text

How many bytes a value takes.  A plain text takes one byte for each of its
characters; any other byte takes at most six.
-/

namespace CheckNetwork.Go

/-- The bytes of an encoded text. -/
def utf8Length (text : List Char) : Nat := (text.map Char.utf8Size).sum

@[simp]
theorem utf8Length_nil : utf8Length [] = 0 := rfl

@[simp]
theorem utf8Length_cons (char : Char) (text : List Char) :
    utf8Length (char :: text) = char.utf8Size + utf8Length text := rfl

@[simp]
theorem utf8Length_append (first second : List Char) :
    utf8Length (first ++ second) = utf8Length first + utf8Length second := by
  rw [utf8Length, List.map_append, List.sum_append]
  rfl

theorem byteLength_spelled (text : List Char) :
    GoString.byteLength (text.map .scalar) = utf8Length text := by
  rw [GoString.byteLength, utf8Length, List.map_map]
  congr 1
  apply List.map_congr_left
  intro char _
  exact String.length_utf8EncodeChar char

namespace GoString

theorem byteLength_cons (rune : Rune) (text : GoString) :
    byteLength (rune :: text) = rune.bytes.length + byteLength text := rfl

theorem length_le_byteLength (text : GoString) : text.length ≤ text.byteLength := by
  induction text with
  | nil => exact Nat.le_refl 0
  | cons rune text ih =>
      have pos : 0 < rune.bytes.length := by
        cases rune with
        | scalar char => rw [Rune.bytes, String.length_utf8EncodeChar]; exact Char.utf8Size_pos char
        | invalid byte => exact Nat.one_pos
      rw [List.length_cons, byteLength_cons]
      omega

end GoString

/-! ## Plain texts -/

/-- A character that is written as it is, in one byte. -/
def isPlainChar (char : Char) : Bool :=
  0x20 ≤ char.toNat ∧ char.toNat < 0x7F ∧ char ≠ '"' ∧ char ≠ '\\' ∧ char ≠ '<' ∧ char ≠ '>' ∧
    char ≠ '&'

def isPlainRune : Rune → Bool
  | .scalar char => isPlainChar char
  | .invalid _ => false

/-- A text of such characters. -/
def GoString.Plain (text : GoString) : Prop := ∀ rune ∈ text, isPlainRune rune = true

namespace GoString.Plain

variable {text : GoString}

theorem of_chars {chars : List Char} (all : ∀ char ∈ chars, isPlainChar char = true) :
    Plain (chars.map .scalar) := by
  intro rune member
  obtain ⟨char, inside, rfl⟩ := List.mem_map.mp member
  exact all char inside

theorem utf8Size_eq {char : Char} (plain : isPlainChar char = true) : char.utf8Size = 1 := by
  have small := (of_decide_eq_true plain).2.1
  apply Char.utf8Size_eq_one_iff.mpr
  change char.val.toNat < 0x7F at small
  rw [UInt32.le_iff_toNat_le]
  exact Nat.le_of_lt small

theorem quotedChar_eq {char : Char} (plain : isPlainChar char = true) :
    Json.quotedChar char = [char] := by
  obtain ⟨visible, ascii, noQuote, noEscape, noLess, noGreater, noAmpersand⟩ :=
    of_decide_eq_true plain
  have different : ∀ other : Char, (other.toNat < 0x20 ∨ 0x7F ≤ other.toNat) → char ≠ other := by
    rintro other outside rfl
    omega
  have short : Json.shortEscape char = none := by
    simp only [Json.shortEscape, noQuote, noEscape, different '\x08' (by decide),
      different '\x0c' (by decide), different '\n' (by decide), different '\r' (by decide),
      different '\t' (by decide), or_self, if_false]
  have verbatim : Json.isNumbered char = false := by
    simp only [Json.isNumbered, noLess, noGreater, noAmpersand, different '\u2028' (by decide),
      different '\u2029' (by decide), or_false, decide_eq_false_iff_not]
    omega
  rw [Json.quotedChar, short, verbatim]
  rfl

theorem isValid (plain : text.Plain) : text.isValid = true := by
  rw [GoString.isValid, List.all_eq_true]
  intro rune member
  have := plain rune member
  cases rune with
  | scalar char => rfl
  | invalid byte => cases this

theorem byteLength_eq (plain : text.Plain) : text.byteLength = text.length := by
  induction text with
  | nil => rfl
  | cons rune text ih =>
      have tail := ih fun other member => plain other (List.mem_cons_of_mem _ member)
      have head := plain rune (List.mem_cons_self ..)
      cases rune with
      | scalar char =>
          have one : (Rune.scalar char).bytes.length = 1 :=
            (String.length_utf8EncodeChar char).trans (utf8Size_eq head)
          rw [byteLength_cons, tail, one, List.length_cons]
          omega
      | invalid byte => cases head

/-- A plain text is written as it is. -/
theorem utf8Length_quote (plain : text.Plain) :
    utf8Length (Json.quote text) = text.length + 2 := by
  have body : utf8Length (text.flatMap Json.quotedRune) = text.length := by
    induction text with
    | nil => rfl
    | cons rune text ih =>
        have tail := ih fun other member => plain other (List.mem_cons_of_mem _ member)
        have head := plain rune (List.mem_cons_self ..)
        cases rune with
        | scalar char =>
            rw [List.flatMap_cons, utf8Length_append, tail, Json.quotedRune, quotedChar_eq head,
              utf8Length_cons, utf8Size_eq head, List.length_cons, utf8Length_nil]
            omega
        | invalid byte => cases head
  rw [Json.quote, utf8Length_cons, utf8Length_append, body]
  change 1 + (_ + 1) = _
  omega

end GoString.Plain

/-! ## Lengths of values -/

namespace Json

theorem utf8Length_unicodeEscape (value : Nat) : utf8Length (unicodeEscape value) = 6 := by
  have digit : ∀ number < 16, (hexDigit number).utf8Size = 1 := by decide
  simp only [unicodeEscape, utf8Length_cons, utf8Length_nil, digit _ (Nat.mod_lt _ (by decide))]
  rfl

/-- The length of a value. -/
def length (value : JsonValue) : Nat := utf8Length (encode value)

/-- Each element with the comma after it; the last one has none. -/
theorem utf8Length_encodeElements {elements : List JsonValue} (nonempty : elements ≠ []) :
    utf8Length (encodeElements elements) + 1 =
      (elements.map fun value => length value + 1).sum := by
  induction elements with
  | nil => exact absurd rfl nonempty
  | cons first rest ih =>
      cases rest with
      | nil => rfl
      | cons second rest =>
          have tail := ih (List.cons_ne_nil _ _)
          rw [encodeElements, utf8Length_append, utf8Length_cons, List.map_cons, List.sum_cons,
            ← tail]
          change length first + (1 + _) + 1 = _
          omega

/-- The length of a member, with a comma. -/
def memberLength (member : String × JsonValue) : Nat :=
  utf8Length (quote (.ofString member.1)) + length member.2 + 2

/-- The last member has no comma after it. -/
theorem utf8Length_encodeMembers {members : List (String × JsonValue)} (nonempty : members ≠ []) :
    utf8Length (encodeMembers members) + 1 = (members.map memberLength).sum := by
  induction members with
  | nil => exact absurd rfl nonempty
  | cons first rest ih =>
      have whole : memberLength first =
          utf8Length (quote (.ofString first.1)) + length first.2 + 2 := rfl
      cases rest with
      | nil =>
          rw [encodeMembers, utf8Length_append, utf8Length_cons, List.map_cons, List.sum_cons, whole]
          change _ + (1 + length first.2) + 1 = _ + 0
          omega
      | cons second rest =>
          have tail := ih (List.cons_ne_nil _ _)
          rw [encodeMembers, utf8Length_append, utf8Length_cons, utf8Length_append, utf8Length_cons,
            List.map_cons, List.sum_cons, ← tail, whole]
          change _ + (1 + (length first.2 + (1 + _))) + 1 = _
          omega

theorem length_array {elements : List JsonValue} (nonempty : elements ≠ []) :
    length (.array elements) = (elements.map fun value => length value + 1).sum + 1 := by
  rw [length, encode, utf8Length_cons, utf8Length_append, ← utf8Length_encodeElements nonempty]
  change 1 + (_ + 1) = _
  omega

theorem length_object {members : List (String × JsonValue)} (nonempty : members ≠ []) :
    length (.object members) = (members.map memberLength).sum + 1 := by
  rw [length, encode, utf8Length_cons, utf8Length_append, ← utf8Length_encodeMembers nonempty]
  change 1 + (_ + 1) = _
  omega

theorem utf8Size_of_isWordChar {char : Char} (word : isWordChar char = true) :
    char.utf8Size = 1 := by
  have letters : ∀ least greatest : UInt32, greatest ≤ 0x7f → char.val ≥ least ∧
      char.val ≤ greatest → char.utf8Size = 1 := fun _ _ small range =>
    Char.utf8Size_eq_one_iff.mpr (UInt32.le_trans range.2 small)
  have known := of_decide_eq_true word
  simp only [Char.isAlphanum, Char.isAlpha, Char.isUpper, Char.isLower, Char.isDigit,
    Bool.or_eq_true, Bool.and_eq_true, decide_eq_true_eq] at known
  rcases known with ((upper | lower) | digit) | rfl | rfl | rfl
  · exact letters _ _ (by decide) upper
  · exact letters _ _ (by decide) lower
  · exact letters _ _ (by decide) digit
  all_goals rfl

/-- The text of a number has a byte for each character. -/
theorem length_number (number : JsonNumber) :
    length (.number number) = number.text.length := by
  have ascii : ∀ text : List Char, text.all isWordChar = true →
      utf8Length text = text.length := by
    intro text all
    induction text with
    | nil => rfl
    | cons first rest ih =>
        rw [List.all_cons, Bool.and_eq_true] at all
        rw [utf8Length_cons, utf8Size_of_isWordChar all.1, ih all.2, List.length_cons,
          Nat.add_comm]
  rw [length, encode]
  exact ascii _ number.valid.1

theorem length_number_ofNat (value : Nat) :
    length (.number (.ofNat value)) = (Decimal.digits value).length :=
  length_number _

end Json
end CheckNetwork.Go
