import Mathlib.Data.List.DropRight

/-!
# White space at the ends of a text

A text is the list of its code points.
-/

namespace CheckNetwork.Js

/-- White space and line terminators. -/
def isSpace (char : Char) : Bool :=
  char ∈ ['\t', '\n', '\x0b', '\x0c', '\r', ' ', '\u00a0', '\u1680', '\u2028', '\u2029', '\u202f',
    '\u205f', '\u3000', '\ufeff'] ∨ '\u2000' ≤ char ∧ char ≤ '\u200a'

/-- `String.prototype.trim`. -/
def trim (text : List Char) : List Char := (text.dropWhile isSpace).rdropWhile isSpace

/-- No white space at the end. -/
def Ends (text : List Char) : Prop := ∀ last ∈ text.getLast?, isSpace last = false

/-- No white space at either end. -/
structure Trimmed (text : List Char) : Prop where
  head : ∀ first ∈ text.head?, isSpace first = false
  ends : Ends text

instance (text : List Char) : Decidable (Ends text) :=
  Option.decidableForallMem text.getLast?

section Trim

variable {text : List Char}

theorem ends_rdropWhile (text : List Char) : Ends (text.rdropWhile isSpace) := by
  intro last member
  obtain ⟨nonempty, rfl⟩ := List.mem_getLast?_eq_getLast member
  exact Bool.eq_false_iff.mpr (List.rdropWhile_last_not isSpace text nonempty)

theorem trimmed_trim (text : List Char) : Trimmed (trim text) where
  head := by
    intro first member
    have whole := List.mem_of_mem_head? member
    have start : (text.dropWhile isSpace).head? = some first := by
      obtain ⟨rest, rest_eq⟩ := List.rdropWhile_prefix isSpace (l := text.dropWhile isSpace)
      rw [← rest_eq, List.head?_append, show ((text.dropWhile isSpace).rdropWhile isSpace).head? =
        some first from member]
      rfl
    have kept := List.head?_dropWhile_not isSpace text
    rw [start] at kept
    simpa using kept
  ends := ends_rdropWhile _

theorem trim_eq_self (trimmed : Trimmed text) : trim text = text := by
  have left : text.dropWhile isSpace = text := by
    cases text with
    | nil => rfl
    | cons first rest => rw [List.dropWhile_cons, trimmed.head first rfl, if_neg Bool.false_ne_true]
  rw [trim, left, List.rdropWhile_eq_self_iff]
  intro nonempty
  rw [trimmed.ends _ (List.getLast?_eq_some_getLast nonempty)]
  exact Bool.false_ne_true

theorem trim_eq_self_iff : trim text = text ↔ Trimmed text := by
  constructor
  · intro same
    exact same ▸ trimmed_trim text
  · exact trim_eq_self

theorem trim_trim (text : List Char) : trim (trim text) = trim text :=
  trim_eq_self (trimmed_trim text)

theorem length_trim_le (text : List Char) : (trim text).length ≤ text.length :=
  (List.rdropWhile_prefix _ _).length_le.trans (List.dropWhile_suffix _).length_le

/-- The first characters of a text without white space around it. -/
theorem trimmed_take {length : Nat} (trimmed : Trimmed text) (ends : Ends (text.take length)) :
    Trimmed (text.take length) where
  head := by
    intro first member
    cases text with
    | nil =>
        rw [List.take_nil] at member
        cases member
    | cons head rest =>
        cases length with
        | zero => cases member
        | succ length => exact trimmed.head first member
  ends := ends

end Trim

end CheckNetwork.Js
