import CheckNetwork.Go.Strings

/-!
# JSON text

How `encoding/json` writes strings and integers, with its escapes for HTML, and
how it reads a text back: strings with their escapes, numbers as they are
spelled, and the members of objects in their order.
-/

namespace CheckNetwork.Go.Json

/-! ## Writing scalars -/

def hexDigit (value : Nat) : Char := Nat.digitChar value

/-- `\u` and four hexadecimal digits. -/
def unicodeEscape (value : Nat) : List Char :=
  ['\\', 'u', hexDigit (value / 4096 % 16), hexDigit (value / 256 % 16), hexDigit (value / 16 % 16),
    hexDigit (value % 16)]

/-- Characters that are written as their number. -/
def isNumbered (char : Char) : Bool :=
  char.toNat < 0x20 ∨ char = '<' ∨ char = '>' ∨ char = '&' ∨ char = '\u2028' ∨ char = '\u2029'

/-- The letter after the backslash of a short escape. -/
def shortEscape (char : Char) : Option Char :=
  if char = '\\' ∨ char = '"' then some char
  else if char = '\x08' then some 'b'
  else if char = '\x0c' then some 'f'
  else if char = '\n' then some 'n'
  else if char = '\r' then some 'r'
  else if char = '\t' then some 't'
  else none

def quotedChar (char : Char) : List Char :=
  match shortEscape char with
  | some letter => ['\\', letter]
  | none => if isNumbered char then unicodeEscape char.toNat else [char]

def quotedRune : Rune → List Char
  | .scalar char => quotedChar char
  | .invalid _ => unicodeEscape 0xFFFD

/-- A string between quotes. -/
def quote (text : GoString) : List Char := '"' :: (text.flatMap quotedRune ++ ['"'])

example : quote "<a\n" = "\"\\u003ca\\n\"".toList := by decide

/-- `strconv.FormatInt(value, 10)`. -/
def intText (value : Int) : List Char := (toString value).toList

/-! ## Numbers -/

def isDigit (char : Char) : Bool := '0' ≤ char && char ≤ '9'

def withoutDigits (text : List Char) : List Char := text.dropWhile isDigit

/-- What follows the integer part of a number. -/
def withoutInteger : List Char → Option (List Char)
  | [] => none
  | first :: rest =>
      if first = '0' then some rest
      else if isDigit first then some (withoutDigits rest)
      else none

def withoutFraction : List Char → List Char
  | '.' :: digit :: rest => if isDigit digit then withoutDigits rest else '.' :: digit :: rest
  | rest => rest

def withoutExponent : List Char → List Char
  | mark :: next :: rest =>
      if mark = 'e' ∨ mark = 'E' then
        if (next = '+' ∨ next = '-') ∧ rest.head?.any isDigit then withoutDigits rest
        else if isDigit next then withoutDigits rest
        else mark :: next :: rest
      else mark :: next :: rest
  | rest => rest

def isUnsignedNumber (text : List Char) : Bool :=
  (withoutInteger text).any fun rest => withoutExponent (withoutFraction rest) = []

def isNumber : List Char → Bool
  | '-' :: rest => isUnsignedNumber rest
  | rest => isUnsignedNumber rest

/-- Characters of numbers and of the words `null`, `true` and `false`. -/
def isWordChar (char : Char) : Bool :=
  char.isAlphanum ∨ char = '+' ∨ char = '-' ∨ char = '.'

example : ["0", "-0.50e+07", "12E3"].all fun text => isNumber text.toList := by decide

example : ["", "-", "01", "1.", ".5", "1e", "+1"].all fun text => !isNumber text.toList := by
  decide

end CheckNetwork.Go.Json
