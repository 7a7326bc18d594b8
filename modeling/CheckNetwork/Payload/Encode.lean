import CheckNetwork.Go.JsonSize
import CheckNetwork.Go.Stamp
import CheckNetwork.Payload.Validate

/-!
# The response encoder

What the encoder writes for a value, piece by piece, and the buffer of limited
size that it writes to.
-/

namespace CheckNetwork.Payload

open Go Diagnostic

/-! ## Pieces -/

/-- One write of the encoder, or the error that it stops with instead. -/
abbrev Piece := Except Failure (List Char)

/-- The text of a `float32`, which has fewer digits than that of a `float64`. -/
structure Library where
  singleText : F64 → String

/-- A text that `json.Marshal` gives or refuses. -/
def encodeLeaf : Option (List Char) → Piece
  | some token => .ok token
  | none => .error .serialization

namespace Time

open Stamp

/-- The clock of the location of an instant, as if it were UTC. -/
def localTime (time : Time) : Time := ⟨time.nanoseconds + time.offset * 1000000000, 0⟩

/-- The fraction of a second, without the zeros at its end. -/
def fractionText (time : Time) : List Char :=
  let nanoseconds := (time.nanoseconds % 1000000000).toNat
  let digits := (List.range 9).map fun place => digitChar (nanoseconds / 10 ^ (8 - place))
  if nanoseconds = 0 then [] else '.' :: (digits.reverse.dropWhile (· == '0')).reverse

def zoneText (offset : Int) : List Char :=
  let minutes := offset.tdiv 60
  if offset = 0 then ['Z']
  else (if minutes < 0 then '-' else '+') ::
    (twoDigits (minutes.natAbs / 60) ++ ':' :: twoDigits (minutes.natAbs % 60))

/-- The layout `time.RFC3339Nano`. -/
def rfc3339Nano (time : Time) : List Char :=
  let shown := localTime time
  let clock := (shown.nanoseconds % Go.Time.nanosecondsPerDay / 1000000000).toNat
  yearText shown.date.year ++ '-' :: (twoDigits shown.date.month ++ '-' ::
    (twoDigits shown.date.day ++ 'T' :: (twoDigits (clock / 3600) ++ ':' ::
      (twoDigits (clock / 60 % 60) ++ ':' :: (twoDigits (clock % 60) ++
        (fractionText shown ++ zoneText time.offset))))))

/-- An instant that `MarshalJSON` accepts: its year has four digits and the hour
of its zone is of a day. -/
def Marshals (time : Time) : Prop :=
  0 ≤ time.year ∧ time.year ≤ 9999 ∧ time.offset.natAbs < 86400

instance (time : Time) : Decidable (Marshals time) :=
  inferInstanceAs (Decidable (_ ∧ _ ∧ _))

/-- `MarshalJSON`. -/
def marshalJSON (time : Time) : Option (List Char) :=
  if Marshals time then some ('"' :: (rfc3339Nano time ++ ['"'])) else none

end Time

/-! ## Byte slices -/

def base64Alphabet : List Char :=
  "ABCDEFGHIJKLMNOPQRSTUVWXYZabcdefghijklmnopqrstuvwxyz0123456789+/".toList

def sextet (value : Nat) : Char := base64Alphabet.getD (value % 64) '='

/-- `base64.StdEncoding.Encode`, of at most three bytes. -/
def encodeGroup : List Nat → List Char
  | [first, second, third] =>
      [sextet (first / 4), sextet (first * 16 + second / 16), sextet (second * 4 + third / 64),
        sextet third]
  | [first, second] =>
      [sextet (first / 4), sextet (first * 16 + second / 16), sextet (second * 4), '=']
  | [first] => [sextet (first / 4), sextet (first * 16), '=', '=']
  | _ => []

/-- Groups of three, the last of which may be shorter. -/
def groups : List Nat → List (List Nat)
  | first :: second :: third :: rest => [first, second, third] :: groups rest
  | [] => []
  | rest => [rest]

def encodeByteSlice (bytes : List Nat) : List Piece :=
  .ok ['"'] :: ((groups bytes).map fun group => .ok (encodeGroup group)) ++ [.ok ['"']]

/-! ## The encoder -/

/-- Parts with commas between them. -/
def separated : List (List Piece) → List Piece
  | [] => []
  | [last] => last
  | first :: second :: rest => first ++ .ok [','] :: separated (second :: rest)

def enclosed (opening closing : Char) (parts : List (List Piece)) : List Piece :=
  .ok [opening] :: (separated parts ++ [.ok [closing]])

/-- A name and what follows it. -/
def named (name : List Char) (value : List Piece) : List Piece :=
  .ok name :: .ok [':'] :: value

/-- The bytes of keys in order. -/
def keyBefore (first second : GoString × Value) : Bool := !(second.1.bytes < first.1.bytes)

/-- What `encode` writes for a value that is no interface; `encode` is the
function on the parts of the value. -/
def tokens (library : Library) (heap : Heap) (encode : Value → Option (List Piece)) :
    Value → Option (List Piece)
  | .nilInterface | .nilPointer .. | .nilMap .. | .nilSlice .. => some [.ok "null".toList]
  | .bool _ value => some [.ok (if value then "true".toList else "false".toList)]
  | .int _ value => some [.ok (Json.intText value)]
  | .uint _ value => some [.ok (Json.intText value)]
  | .float _ single value =>
      some [encodeLeaf ((value.jsonText.map fun text =>
        if single then library.singleText value else text).map String.toList)]
  | .string _ text => some [encodeLeaf (some (Json.quote text))]
  | .time value => some [encodeLeaf (Time.marshalJSON value)]
  | .pointer _ _ spelling address => encode (heap.target spelling address)
  | .struct _ fields => do
      let parts ← (members heap fields).mapM fun member =>
        (encode member.value).map (named (Json.quote member.name))
      pure (enclosed '\x7b' '\x7d' parts)
  | .map _ _ spelling address => do
      let parts ← ((heap.entries spelling address).mergeSort keyBefore).mapM fun (key, value) =>
        (encode value).map (named (Json.quote key))
      pure (enclosed '\x7b' '\x7d' parts)
  | .slice _ element spelling address length => do
      if element.kind = .uint8 then
        pure (encodeByteSlice ((List.range length).map fun place =>
          (heap.byte spelling address place).toNat))
      else
        let parts ← (List.range length).mapM fun place =>
          encode (heap.element spelling address place)
        pure (enclosed '[' ']' parts)
  | .array _ elements => do
      let parts ← elements.mapM encode
      pure (enclosed '[' ']' parts)
  | .interface _ | .other _ => some [.error .unsupported]

/-- The pieces that `encode` writes with calls nested to the given depth, if
these suffice. -/
def encode (library : Library) (heap : Heap) : Nat → Value → Option (List Piece)
  | 0, _ => none
  | calls + 1, value => tokens library heap (encode library heap calls) value.elem

/-! ## The buffer -/

/-- `limitedJSONBuffer`: the data after the given writes. -/
def write (limit : Nat) : List Piece → List Char → Except Failure (List Char)
  | [], data => .ok data
  | .error failure :: _, _ => .error failure
  | .ok text :: rest, data =>
      if limit < utf8Length data + utf8Length text then .error .tooLarge
      else write limit rest (data ++ text)

end CheckNetwork.Payload
