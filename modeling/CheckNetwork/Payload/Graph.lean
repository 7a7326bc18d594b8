import CheckNetwork.Diagnostic.Transport
import Mathlib.Logic.Relation

/-!
# Graphs of reflected values

A Go value in which pointers, maps and slices stay references into a heap, so
that it may share its parts and may contain itself.
-/

namespace CheckNetwork.Payload

open Go Diagnostic

/-- `fullResponseIdentity`.  Types are one where they are spelled alike, and
only slices have a length. -/
structure Reference where
  kind : ReflectKind
  type : String
  pointer : Nat
  length : Nat
  deriving DecidableEq, Repr

/-- A value as `reflect` presents it.  References carry the spelling of their
type. -/
inductive Value
  | nilInterface
  | interface (value : Value)
  | bool (type : GoType) (value : Bool)
  | int (type : GoType) (value : Int)
  | uint (type : GoType) (value : Nat)
  | float (type : GoType) (single : Bool) (value : F64)
  | string (type : GoType) (value : GoString)
  | time (value : Time)
  | nilPointer (type elem : GoType)
  | pointer (type elem : GoType) (spelling : String) (address : Nat)
  | struct (type : GoType) (fields : List (StructField × Value))
  | nilMap (type key : GoType)
  | map (type key : GoType) (spelling : String) (address : Nat)
  | nilSlice (type elem : GoType)
  | slice (type elem : GoType) (spelling : String) (address length : Nat)
  | array (type : GoType) (elements : List Value)
  | other (type : GoType)

/-- What references of a type refer to.  Slices that begin at one place share
their elements, and the entries of a map are in the order of an iteration. -/
structure Heap where
  target : String → Nat → Value
  entries : String → Nat → List (GoString × Value)
  element : String → Nat → Nat → Value
  byte : String → Nat → Nat → UInt8

/-- `Index`, of a slice with elements of the given type. -/
def Heap.index (heap : Heap) (element : GoType) (spelling : String) (address place : Nat) : Value :=
  if element.kind = .uint8 then .uint element (heap.byte spelling address place).toNat
  else heap.element spelling address place

namespace Value

/-- `Elem`, until the value is no interface. -/
def elem : Value → Value
  | interface value => value.elem
  | value => value

/-- `Type`; a nil interface has none. -/
def type : Value → GoType
  | nilInterface => GoType.unnamed .interface
  | interface value => value.type
  | bool type _ | int type _ | uint type _ | float type _ _ | string type _ | other type => type
  | time _ => GoType.time
  | nilPointer type _ | pointer type _ _ _ => type
  | struct type _ => type
  | nilMap type _ | map type _ _ _ => type
  | nilSlice type _ | slice type _ _ _ _ => type
  | array type _ => type

def isNilInterface : Value → Bool
  | nilInterface => true
  | _ => false

/-- The reference that a walk is inside while it visits the parts of a value.
An empty slice has no parts. -/
def reference : Value → Option Reference
  | interface value => value.reference
  | pointer _ _ spelling address => some ⟨.pointer, spelling, address, 0⟩
  | map _ _ spelling address => some ⟨.map, spelling, address, 0⟩
  | slice _ _ spelling address length =>
      if length = 0 then none else some ⟨.slice, spelling, address, length⟩
  | _ => none

@[simp]
theorem reference_elem (value : Value) : value.elem.reference = value.reference := by
  induction value using elem.induct with
  | case1 value ih => exact ih
  | case2 value plain => rw [elem.eq_2 value plain]

@[simp]
theorem elem_elem (value : Value) : value.elem.elem = value.elem := by
  induction value using elem.induct with
  | case1 value ih => exact ih
  | case2 value plain => rw [elem.eq_2 value plain, elem.eq_2 value plain]

end Value

/-! ## Fields -/

/-- The name and the options of a field; a field tagged `-` is skipped. -/
def jsonField (field : StructField) : Option (String × List String) :=
  match field.tag with
  | ["-"] => none
  | [] => some (field.name, [])
  | name :: options => some (if name = "" then field.name else name, options)

/-- `isJSONEmpty`. -/
def isJSONEmpty (heap : Heap) : Value → Bool
  | .array _ elements => elements.isEmpty
  | .nilMap .. | .nilSlice .. | .nilPointer .. | .nilInterface => true
  | .map _ _ spelling address => (heap.entries spelling address).isEmpty
  | .slice _ _ _ _ length => length == 0
  | .string _ text => text.isEmpty
  | .bool _ value => !value
  | .int _ value => value == 0
  | .uint _ value => value == 0
  | .float _ _ value => value.eq (.finite 0)
  | _ => false

/-- A field that is transported, under its name. -/
structure Member where
  name : String
  field : StructField
  value : Value

/-- The member of a field that is exported, not skipped, and present. -/
def member? (heap : Heap) (field : StructField) (value : Value) : Option Member :=
  if field.exported then
    (jsonField field).bind fun (name, options) =>
      if "omitempty" ∈ options ∧ isJSONEmpty heap value then none else some ⟨name, field, value⟩
  else none

def members (heap : Heap) (fields : List (StructField × Value)) : List Member :=
  fields.filterMap fun (field, value) => member? heap field value

/-! ## Reaching -/

/-- What a value holds directly. -/
def children (heap : Heap) : Value → List Value
  | .interface value => children heap value
  | .pointer _ _ spelling address => [heap.target spelling address]
  | .struct _ fields => (members heap fields).map Member.value
  | .map _ _ spelling address => (heap.entries spelling address).map Prod.snd
  | .slice _ element spelling address length =>
      (List.range length).map (heap.index element spelling address)
  | .array _ elements => elements
  | _ => []

@[simp]
theorem children_elem (heap : Heap) (value : Value) :
    children heap value.elem = children heap value := by
  induction value using Value.elem.induct with
  | case1 value ih => exact ih
  | case2 value plain => rw [Value.elem.eq_2 value plain]

def Child (heap : Heap) (parent child : Value) : Prop := child ∈ children heap parent

abbrev Reaches (heap : Heap) : Value → Value → Prop := Relation.ReflTransGen (Child heap)

/-- Some reference lies inside itself. -/
def Cyclic (heap : Heap) (root : Value) : Prop :=
  ∃ outer child inner reference, Reaches heap root outer ∧ outer.reference = some reference ∧
    Child heap outer child ∧ Reaches heap child inner ∧ inner.reference = some reference

section Cycles

variable {heap : Heap} {parent child value : Value} {reference : Reference}

theorem Cyclic.of_reaches (reached : Reaches heap parent child) (cyclic : Cyclic heap child) :
    Cyclic heap parent := by
  obtain ⟨outer, middle, inner, reference, before, rest⟩ := cyclic
  exact ⟨outer, middle, inner, reference, reached.trans before, rest⟩

theorem Cyclic.of_child (inside : Child heap parent child) (cyclic : Cyclic heap child) :
    Cyclic heap parent :=
  cyclic.of_reaches (Relation.ReflTransGen.single inside)

/-- Below a reference of an acyclic graph, the reference does not come back. -/
theorem reference_ne_of_acyclic (acyclic : ¬ Cyclic heap parent)
    (named : parent.reference = some reference) (inside : Child heap parent child)
    (below : Reaches heap child value) : value.reference ≠ some reference := by
  intro again
  exact acyclic ⟨parent, child, value, reference, .refl, named, inside, below, again⟩

end Cycles

end CheckNetwork.Payload
