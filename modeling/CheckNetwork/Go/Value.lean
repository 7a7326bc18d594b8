import CheckNetwork.Go.Float
import CheckNetwork.Go.Text

/-!
# Reflected Go values

A Go value as `reflect` presents it to a walk over its structure.  Pointers,
maps and slices carry the identity by which a walk recognizes that it is
inside the same reference again, so a finite value is an acyclic graph seen
from its root.
-/

namespace CheckNetwork.Go

/-- The kinds that a walk distinguishes.  `time` stands for the type
`time.Time`, which is recognized before its struct kind matters. -/
inductive ReflectKind
  | bool | int | uint | uint8 | float | string | pointer | struct | time | map | slice
  | array | interface | other
  deriving DecidableEq, Repr

/-- What a walk asks of a type.  `marshaler` is whether the type or a pointer
to it implements `json.Marshaler` or `encoding.TextMarshaler`, and `textKey`
whether the type itself implements the latter, as a map key may. -/
structure GoType where
  kind : ReflectKind
  package : String
  name : String
  marshaler : Bool
  textKey : Bool
  deriving DecidableEq, Repr

namespace GoType

/-- A composite type, which has no name of its own. -/
def unnamed (kind : ReflectKind) : GoType := ⟨kind, "", "", false, false⟩

/-- A predeclared type. -/
def predeclared (kind : ReflectKind) (name : String) : GoType := ⟨kind, "", name, false, false⟩

def time : GoType := ⟨.time, "time", "Time", true, true⟩

/-- `json.Number`, a string kind that `encoding/json` writes unquoted. -/
def jsonNumber : GoType := ⟨.string, "encoding/json", "Number", false, false⟩

end GoType

/-- A struct field.  `tag` lists the comma-separated pieces of its `json` tag
and is empty when it has none. -/
structure StructField where
  name : String
  exported : Bool
  tag : List String
  deriving DecidableEq, Repr

inductive GoValue
  | nilInterface
  | interface (value : GoValue)
  | bool (type : GoType) (value : Bool)
  | int (type : GoType) (value : Int)
  | uint (type : GoType) (value : Nat)
  | float (type : GoType) (value : F64)
  | string (type : GoType) (value : GoString)
  | time (value : Time)
  | nilPointer (type elem : GoType)
  | pointer (type elem : GoType) (identity : Nat) (target : GoValue)
  | struct (type : GoType) (fields : List (StructField × GoValue))
  | nilMap (type key : GoType)
  | map (type key : GoType) (identity : Nat) (entries : List (GoString × GoValue))
  | nilSlice (type elem : GoType)
  | slice (type elem : GoType) (identity : Nat) (elements : List GoValue)
  | array (type elem : GoType) (elements : List GoValue)
  | other (type : GoType)

namespace GoValue

end GoValue
end CheckNetwork.Go
