import Mathlib

/-!
# Go strings

A Go string is a byte sequence that need not be UTF-8.  It is represented by
what ranging over it yields: a Unicode scalar value for each well-formed
sequence, and the byte itself where decoding fails.
-/

namespace CheckNetwork.Go

/-- One step of decoding a string. -/
inductive Rune
  | scalar (char : Char)
  | invalid (byte : UInt8)
  deriving DecidableEq, Repr

abbrev GoString := List Rune

namespace Rune

def bytes : Rune → List UInt8
  | scalar char => String.utf8EncodeChar char
  | invalid byte => [byte]

/-- The character a reader of the encoded text sees; a byte that does not
decode is replaced. -/
def char : Rune → Char
  | scalar char => char
  | invalid _ => '\uFFFD'

def isScalar : Rune → Bool
  | scalar _ => true
  | invalid _ => false

end Rune

namespace GoString

def ofString (text : String) : GoString :=
  text.toList.map .scalar

def bytes (text : GoString) : List UInt8 :=
  text.flatMap Rune.bytes

/-- `len` counts bytes. -/
def byteLength (text : GoString) : Nat :=
  (text.map fun rune => rune.bytes.length).sum

/-- `utf8.ValidString`. -/
def isValid (text : GoString) : Bool :=
  text.all Rune.isScalar

/-- The text with every byte that does not decode replaced. -/
def text (source : GoString) : String :=
  String.ofList (source.map Rune.char)

@[simp]
theorem text_ofString (source : String) : (ofString source).text = source := by
  simp [text, ofString, Function.comp_def, Rune.char]

@[simp]
theorem isValid_ofString (source : String) : (ofString source).isValid = true := by
  simp [isValid, ofString, Rune.isScalar]

instance : Coe String GoString := ⟨ofString⟩

instance : LawfulBEq GoString := inferInstanceAs (LawfulBEq (List Rune))

@[simp]
theorem ofString_inj {left right : String} : ofString left = ofString right ↔ left = right := by
  constructor
  · intro equal
    simpa using congrArg text equal
  · rintro rfl
    rfl

/-- `unicode.IsSpace`. -/
def isSpace (char : Char) : Bool :=
  [0x09, 0x0A, 0x0B, 0x0C, 0x0D, 0x20, 0x85, 0xA0, 0x1680, 0x2028, 0x2029, 0x202F, 0x205F,
    0x3000].contains char.toNat || (0x2000 ≤ char.toNat && char.toNat ≤ 0x200A)

def isSpaceRune : Rune → Bool
  | .scalar char => isSpace char
  | .invalid _ => false

/-- `strings.TrimSpace`. -/
def trimSpace (source : GoString) : GoString :=
  ((source.dropWhile isSpaceRune).reverse.dropWhile isSpaceRune).reverse

end GoString

/-- An instant, in nanoseconds from the zero `time.Time`, with the offset from
UTC, in seconds, that its text shows. -/
structure Time where
  nanoseconds : Int
  offset : Int
  deriving DecidableEq, Repr

namespace Time

def isZero (time : Time) : Bool := time.nanoseconds = 0

def utc (time : Time) : Time := { time with offset := 0 }

def before (time other : Time) : Bool := time.nanoseconds < other.nanoseconds

def after (time other : Time) : Bool := other.nanoseconds < time.nanoseconds

/-- `time.Time.Add`, for a duration in nanoseconds. -/
def add (time : Time) (duration : Int) : Time :=
  { time with nanoseconds := time.nanoseconds + duration }

def minDuration : Int := -2 ^ 63

def maxDuration : Int := 2 ^ 63 - 1

/-- `time.Time.Sub`, a duration in nanoseconds that saturates. -/
def sub (time other : Time) : Int :=
  max minDuration (min maxDuration (time.nanoseconds - other.nanoseconds))

/-- Saturation keeps what is short. -/
theorem sub_lt_iff {time other : Time} {duration : Int} (le : duration ≤ maxDuration)
    (gt : minDuration < duration) :
    time.sub other < duration ↔ time.nanoseconds - other.nanoseconds < duration := by
  unfold sub
  omega

theorem sub_eq {time other : Time} (ordered : other.nanoseconds ≤ time.nanoseconds)
    (short : time.nanoseconds - other.nanoseconds ≤ maxDuration) :
    time.sub other = time.nanoseconds - other.nanoseconds := by
  have negative : minDuration ≤ 0 := by decide
  unfold sub
  omega

end Time

/-- Two's-complement wrap-around of 64-bit `int` arithmetic. -/
def wrap64 (value : Int) : Int := value.bmod (2 ^ 64)

theorem wrap64_of_lt {value : Int} (least : -2 ^ 63 ≤ value) (greatest : value < 2 ^ 63) :
    wrap64 value = value :=
  Int.bmod_eq_of_le (by omega) (by omega)

end CheckNetwork.Go
