import Mathlib.Data.Rat.Floor
import Mathlib.Algebra.Order.Floor.Ring


/-!
# Double-precision numbers

IEEE 754 binary64 values, with the finite ones held as rationals.  Arithmetic
rounds the exact result to nearest, ties to even.  The decimal text is the
shortest one that reads back as the same number, laid out as by ECMAScript
`Number::toString`, which is the layout Go's `encoding/json` uses as well.
-/

namespace CheckNetwork.Go

inductive F64
  | nan
  | infinite (negative : Bool)
  | negativeZero
  | finite (value : ℚ)
  deriving DecidableEq

namespace F64

/-- The exponent of the leading binary digit of a nonzero rational. -/
def binaryExponent (value : ℚ) : Int :=
  let guess := (Nat.log2 value.num.natAbs : Int) - Nat.log2 value.den
  if (2 : ℚ) ^ guess ≤ |value| then guess else guess - 1

def roundHalfEven (value : ℚ) : Int :=
  let below := ⌊value⌋
  let rest := value - below
  if rest < 1 / 2 then below
  else if 1 / 2 < rest then below + 1
  else if below % 2 = 0 then below else below + 1

/-- Exponent of the last of the 53 significant bits, bounded below by the
subnormal range. -/
def lastExponent (value : ℚ) : Int :=
  max (binaryExponent value - 52) (-1074)

/-- The nearest rational with 53 significant bits. -/
def roundToPrecision (value : ℚ) : ℚ :=
  if value = 0 then 0
  else roundHalfEven (value / 2 ^ lastExponent value) * 2 ^ lastExponent value

def round (value : ℚ) : F64 :=
  let rounded := roundToPrecision value
  if 2 ^ (1024 : Int) ≤ |rounded| then infinite (value < 0)
  else if rounded = 0 ∧ value < 0 then negativeZero
  else finite rounded

def ofInt (value : Int) : F64 := round value

/-- The rational a finite number denotes. -/
def value? : F64 → Option ℚ
  | nan | infinite _ => none
  | negativeZero => some 0
  | finite value => some value

def isNaN : F64 → Bool
  | nan => true
  | _ => false

def isInf : F64 → Bool
  | infinite _ => true
  | _ => false

/-- `<` on numbers; false on a NaN. -/
def lt : F64 → F64 → Bool
  | nan, _ | _, nan => false
  | infinite left, infinite right => left && !right
  | infinite left, _ => left
  | _, infinite right => !right
  | left, right => left.value?.getD 0 < right.value?.getD 0

/-- `<=` on numbers; false on a NaN. -/
def le : F64 → F64 → Bool
  | nan, _ | _, nan => false
  | left, right => !(right.lt left)

/-- `==` on numbers, under which the two zeros are equal. -/
def eq (left right : F64) : Bool := left.le right && right.le left

def isNegative : F64 → Bool
  | nan => false
  | infinite negative => negative
  | negativeZero => true
  | finite value => value < 0

def neg : F64 → F64
  | nan => nan
  | infinite negative => infinite !negative
  | negativeZero => finite 0
  | finite value => if value = 0 then negativeZero else finite (-value)

def add : F64 → F64 → F64
  | nan, _ | _, nan => nan
  | infinite left, infinite right => if left = right then infinite left else nan
  | infinite left, _ => infinite left
  | _, infinite right => infinite right
  | negativeZero, negativeZero => negativeZero
  | negativeZero, right => right
  | left, negativeZero => left
  | finite left, finite right => round (left + right)

def sub (left right : F64) : F64 := left.add right.neg

def signedZero (negative : Bool) : F64 :=
  if negative then negativeZero else finite 0

def mul (left right : F64) : F64 :=
  let negative := left.isNegative != right.isNegative
  match left, right with
  | nan, _ | _, nan => nan
  | infinite _, infinite _ => infinite negative
  | infinite _, other | other, infinite _ =>
      if other.value? = some 0 then nan else infinite negative
  | _, _ =>
      let product := left.value?.getD 0 * right.value?.getD 0
      if product = 0 then signedZero negative else round product

def div (left right : F64) : F64 :=
  let negative := left.isNegative != right.isNegative
  match left, right with
  | nan, _ | _, nan => nan
  | infinite _, infinite _ => nan
  | infinite _, _ => infinite negative
  | _, infinite _ => signedZero negative
  | _, _ =>
      if right.value? = some 0 then
        if left.value? = some 0 then nan else infinite negative
      else
        let quotient := left.value?.getD 0 / right.value?.getD 0
        if quotient = 0 then signedZero negative else round quotient

/-- `math.Round`: to the nearest integer, halves away from zero. -/
def roundInteger : F64 → F64
  | finite value =>
      if 0 ≤ value then finite ⌊value + 1 / 2⌋
      else if ⌊-value + 1 / 2⌋ = 0 then negativeZero else finite (-⌊-value + 1 / 2⌋)
  | other => other

def isInteger : F64 → Bool
  | negativeZero => true
  | finite value => value.den = 1
  | _ => false

/-! ## Decimal text -/

/-- The power of ten `n` with `10 ^ (n - 1) ≤ value < 10 ^ n`, searched
downwards over the range of binary64. -/
def decimalPoint (value : ℚ) : Int :=
  let rec search : Nat → Int → Int
    | 0, candidate => candidate
    | fuel + 1, candidate =>
        if (10 : ℚ) ^ (candidate - 1) ≤ value then candidate else search fuel (candidate - 1)
  let guess := ((Nat.log2 value.num.natAbs : Int) - Nat.log2 value.den) * 30103 / 100000 + 2
  search 5 guess

/-- The decimals of `digits` digits next to `value` on either side that read
back as `value`, the closer one first. -/
def decimalCandidates (value : ℚ) (digits : Nat) : List Nat :=
  let scale := (10 : ℚ) ^ (digits - decimalPoint value)
  let below := ⌊value * scale⌋.toNat
  let readsBack := fun candidate : Nat => roundToPrecision (candidate / scale) = value
  let nearest :=
    if value * scale - below ≤ 1 / 2 then [below, below + 1] else [below + 1, below]
  nearest.filter readsBack

/-- The shortest decimal that reads back as a positive number, and how many
digits were asked for. -/
def shortestDigits (value : ℚ) : Nat × Nat :=
  let rec search : Nat → Nat → Nat × Nat
    | 0, digits => ((decimalCandidates value digits).headD 0, digits)
    | fuel + 1, digits =>
        match decimalCandidates value digits with
        | candidate :: _ => (candidate, digits)
        | [] => search fuel (digits + 1)
  search 16 1

def zeros (count : Nat) : String := String.ofList (List.replicate count '0')

def dropTrailingZeros (digits : String) : String :=
  String.ofList (digits.toList.reverse.dropWhile (· = '0')).reverse

/-- ECMAScript layout of a digit string with a decimal point position. -/
def layout (digits : String) (point : Int) : String :=
  let count := digits.length
  if count ≤ point ∧ point ≤ 21 then digits ++ zeros (point.toNat - count)
  else if 0 < point ∧ point ≤ 21 then
    String.ofList (digits.toList.take point.toNat) ++ "." ++
      String.ofList (digits.toList.drop point.toNat)
  else if -6 < point ∧ point ≤ 0 then "0." ++ zeros (-point).toNat ++ digits
  else
    let exponent := point - 1
    let sign := if exponent < 0 then "-" else "+"
    let mantissa :=
      if count = 1 then digits
      else String.ofList (digits.toList.take 1) ++ "." ++ String.ofList (digits.toList.drop 1)
    mantissa ++ "e" ++ sign ++ toString exponent.natAbs

def positiveText (value : ℚ) : String :=
  let (decimal, digits) := shortestDigits value
  -- Rounding up may carry into one more digit.
  let point := decimalPoint value + if decimal = 10 ^ digits then 1 else 0
  layout (dropTrailingZeros (toString decimal)) point

/-- The JSON text of a number.  Go writes the sign of a negative zero.  There
is no text for a NaN or an infinity. -/
def jsonText : F64 → Option String
  | nan | infinite _ => none
  | negativeZero => some "-0"
  | finite value =>
      if value = 0 then some "0"
      else if value < 0 then some ("-" ++ positiveText (-value))
      else some (positiveText value)

end F64
end CheckNetwork.Go
