import CheckNetwork.Go.Text
import Mathlib.Data.List.Infix

/-!
# String functions

The functions of `strings` and `strconv` that the code applies to text it did
not produce itself.
-/

namespace CheckNetwork.Go.GoString

/-- `strings.HasPrefix`. -/
def startsWith (text beginning : GoString) : Bool := beginning <+: text

/-- `strings.Contains`. -/
def includes (text part : GoString) : Bool := part <:+: text

/-- `strings.Split` at a character. -/
def splitAt (separator : Char) (text : GoString) : List GoString :=
  text.splitOn (.scalar separator)

/-- `strings.Fields`. -/
def fields (text : GoString) : List GoString :=
  (text.splitOnP isSpaceRune).filter (· ≠ [])

/-- `strings.Trim`. -/
def trim (cut : List Char) (text : GoString) : GoString :=
  let inside := fun rune => cut.any fun char => rune = Rune.scalar char
  ((text.dropWhile inside).reverse.dropWhile inside).reverse

/-- `strings.TrimPrefix`. -/
def withoutPrefix (text beginning : GoString) : GoString :=
  if text.startsWith beginning then text.drop beginning.length else text

/-- `strings.TrimSuffix`. -/
def withoutSuffix (text ending : GoString) : GoString :=
  if ending <:+ text then text.take (text.length - ending.length) else text

/-- `text[count:]`.  A cut inside an encoded character leaves its last bytes. -/
def dropBytes : Nat → GoString → GoString
  | 0, text => text
  | _, [] => []
  | count + 1, rune :: text =>
      if rune.bytes.length ≤ count + 1 then dropBytes (count + 1 - rune.bytes.length) text
      else (rune.bytes.drop (count + 1)).map .invalid ++ text
termination_by _ text => text.length

def digit? : Rune → Option Nat
  | .scalar char => if char.isDigit then some (char.toNat - '0'.toNat) else none
  | .invalid _ => none

/-- A nonempty sequence of decimal digits. -/
def decimal? (text : GoString) : Option Nat :=
  if text = [] then none
  else text.foldlM (fun value rune => (digit? rune).map fun digit => 10 * value + digit) 0

/-- `strconv.Atoi`. -/
def atoi (text : GoString) : Option Int :=
  let signed := match text with
    | .scalar '-' :: digits => (decimal? digits).map fun value => -(value : Int)
    | .scalar '+' :: digits => (decimal? digits).map fun value => (value : Int)
    | digits => (decimal? digits).map fun value => (value : Int)
  signed.filter fun value => -2 ^ 63 ≤ value ∧ value < 2 ^ 63

example : atoi "-12" = some (-12) := by decide

/-- The text between the first `opening` that is followed by a nonempty run of
other characters and `closing`, as the expressions `\(([^()]+)\)` and
`\[([^\[\]]+)\]` find it. -/
def bracketed (opening closing : Char) : GoString → Option GoString
  | [] => none
  | rune :: text =>
      let inside := text.takeWhile fun other =>
        other ≠ .scalar opening && other ≠ .scalar closing
      if rune = .scalar opening ∧ inside ≠ [] ∧ (text.drop inside.length).head? =
          some (.scalar closing) then some inside
      else bracketed opening closing text

/-- What an intercalation holds comes from a part or from the separator. -/
theorem mem_of_mem_intercalate {A : Type} {separator : List A} {parts : List (List A)} {value : A}
    (member : value ∈ separator.intercalate parts) :
    value ∈ separator ∨ ∃ part ∈ parts, value ∈ part := by
  induction parts with
  | nil => cases member
  | cons first rest ih =>
      cases rest with
      | nil =>
          rw [List.intercalate, List.intersperse_singleton, List.flatten_singleton] at member
          exact .inr ⟨first, List.mem_cons_self .., member⟩
      | cons second rest =>
          rw [List.intercalate, List.intersperse_cons_cons, List.flatten_cons, List.flatten_cons,
            List.mem_append, List.mem_append] at member
          rcases member with head | mark | tail
          · exact .inr ⟨first, List.mem_cons_self .., head⟩
          · exact .inl mark
          · exact (ih tail).imp_right fun ⟨part, inside, found⟩ =>
              ⟨part, List.mem_cons_of_mem _ inside, found⟩

end CheckNetwork.Go.GoString
