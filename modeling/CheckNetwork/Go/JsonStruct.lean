import CheckNetwork.Go.Entries
import CheckNetwork.Go.JsonNumber
import Mathlib.Data.List.AList

/-!
# Structs in JSON

The members that `encoding/json` writes for a struct, some of which are left out
when they are empty, and the fields that it reads from the members of an object.
-/

namespace CheckNetwork.Go.Json

/-! ## Writing -/

/-- A text with the option `omitempty`. -/
def omitempty (text : GoString) : Option JsonValue :=
  if text = [] then none else some (.string text)

@[simp]
theorem omitempty_nil : omitempty [] = none := rfl

theorem omitempty_of_ne {text : GoString} (nonempty : text ≠ []) :
    omitempty text = some (.string text) :=
  if_neg nonempty

/-- The members of a struct that are not left out. -/
def members (fields : List (String × Option JsonValue)) : List (String × JsonValue) :=
  fields.filterMap fun field => field.2.map fun value => (field.1, value)

section Members

variable {fields : List (String × Option JsonValue)} {key : String}

theorem members_cons (name : String) (value : Option JsonValue) :
    members ((name, value) :: fields) = (value.map fun value => (name, value)).toList ++
      members fields := by
  cases value <;> rfl

theorem mem_members {member : String × JsonValue} :
    member ∈ members fields ↔ (member.1, some member.2) ∈ fields := by
  rcases member with ⟨name, value⟩
  rw [members, List.mem_filterMap]
  constructor
  · rintro ⟨⟨name', value'⟩, inside, same⟩
    obtain ⟨value'', rfl, pair⟩ := Option.map_eq_some_iff.mp same
    cases pair
    exact inside
  · exact fun inside => ⟨_, inside, rfl⟩

theorem lookup_members_of_notMem (absent : key ∉ fields.map Prod.fst) :
    (members fields).lookup key = none := by
  rw [List.lookup_eq_none_iff]
  intro member inside
  rw [bne_iff_ne]
  rintro rfl
  exact absurd (List.mem_map.mpr ⟨_, mem_members.mp inside, rfl⟩) absent

/-- A field is found by its name, unless it was left out. -/
theorem lookup_members (distinct : (fields.map Prod.fst).Nodup) :
    (members fields).lookup key = (fields.lookup key).join := by
  induction fields with
  | nil => rfl
  | cons first rest ih =>
      rcases first with ⟨name, value⟩
      rw [List.map_cons, List.nodup_cons] at distinct
      obtain ⟨fresh, distinct⟩ := distinct
      rw [members_cons, List.lookup_cons]
      by_cases same : key = name
      · rw [same, beq_self_eq_true]
        cases value with
        | none => exact lookup_members_of_notMem fresh
        | some value => simp
      · rw [beq_false_of_ne same]
        cases value with
        | none => exact ih distinct
        | some value =>
            simpa [List.lookup_cons, beq_false_of_ne same] using ih distinct

theorem keys_members_sublist (fields : List (String × Option JsonValue)) :
    ((members fields).map Prod.fst).Sublist (fields.map Prod.fst) := by
  induction fields with
  | nil => exact .slnil
  | cons first rest ih =>
      rcases first with ⟨name, _ | value⟩
      · exact ih.cons name
      · exact ih.cons_cons name

/-- A sum over the members is a sum over the fields that are not left out. -/
theorem sum_map_members (weight : String × JsonValue → Nat) :
    ((members fields).map weight).sum =
      (fields.map fun field => field.2.elim 0 fun value => weight (field.1, value)).sum := by
  induction fields with
  | nil => rfl
  | cons first rest ih =>
      rcases first with ⟨name, _ | value⟩
      · rw [List.map_cons, List.sum_cons, ← ih]
        exact (Nat.zero_add _).symm
      · rw [List.map_cons, List.sum_cons, ← ih]
        rfl

end Members

/-! ## Reading -/

/-- A field.  What is absent or null leaves the zero value. -/
def readField {A : Type} (object : List (String × JsonValue)) (key : String) (zero : A)
    (read : JsonValue → Option A) : Option A :=
  match object.lookup key with
  | none | some .null => some zero
  | some value => read value

def readText : JsonValue → Option GoString
  | .string text => some text
  | _ => none

/-- A field of type `int`. -/
def readInt : JsonValue → Option Int
  | .number number => GoString.atoi (number.text.map .scalar)
  | _ => none

/-- A field of type `uint32`. -/
def readUInt32 : JsonValue → Option UInt32
  | .number number =>
      (GoString.decimal? (number.text.map .scalar)).bind fun value =>
        if value < 2 ^ 32 then some (UInt32.ofNat value) else none
  | _ => none

/-- An element of a slice, where null stands for the zero value. -/
def readElement {A : Type} (zero : A) (read : JsonValue → Option A) : JsonValue → Option A
  | .null => some zero
  | value => read value

def readSlice {A : Type} (zero : A) (read : JsonValue → Option A) :
    JsonValue → Option (Option (List A))
  | .array elements => (elements.mapM (readElement zero read)).map some
  | _ => none

section Fields

variable {A : Type} {object : List (String × JsonValue)} {key : String} {zero : A}
  {read : JsonValue → Option A} {value : JsonValue}

theorem readField_of_lookup (found : object.lookup key = some value) (present : value ≠ .null) :
    readField object key zero read = read value := by
  rw [readField, found]
  cases value <;> first | rfl | exact absurd rfl present

theorem readField_of_absent (absent : object.lookup key = none) :
    readField object key zero read = some zero := by
  rw [readField, absent]

end Fields

theorem readElement_object {A : Type} (zero : A) (read : JsonValue → Option A)
    (object : List (String × JsonValue)) :
    readElement zero read (.object object) = read (.object object) := rfl

/-- Elements are read one by one. -/
theorem mapM_cons_eq_some {A B : Type} {read : A → Option B} {first : A} {rest : List A}
    {value : B} {values : List B} (head : read first = some value)
    (tail : rest.mapM read = some values) : (first :: rest).mapM read = some (value :: values) := by
  rw [List.mapM_cons, head, tail]
  rfl

/-- A text that may be left out is read back. -/
theorem readField_omitempty {object : List (String × JsonValue)} {key : String} {text : GoString}
    (found : object.lookup key = omitempty text) : readField object key [] readText = some text := by
  rcases eq_or_ne text [] with rfl | nonempty
  · exact readField_of_absent found
  · rw [omitempty_of_ne nonempty] at found
    exact readField_of_lookup found (by simp)

theorem atoi_ofNat {value : Nat} (small : value < 2 ^ 63) :
    GoString.atoi ((JsonNumber.ofNat value).text.map .scalar) = some (value : Int) := by
  have read := Decimal.decimal?_digits value
  obtain ⟨first, rest, same⟩ := Decimal.exists_digits value
  have digit : first.isDigit = true :=
    Decimal.isDigit_of_mem (by rw [same]; exact List.mem_cons_self ..)
  change GoString.atoi ((Decimal.digits value).map .scalar) = _
  rw [same, List.map_cons] at read ⊢
  unfold GoString.atoi
  split
  · rename_i minus
    rw [Rune.scalar.inj (List.cons.inj minus).1] at digit
    cases digit
  · rename_i plus
    rw [Rune.scalar.inj (List.cons.inj plus).1] at digit
    cases digit
  · rw [read]
    simp
    omega

theorem readInt_ofNat {value : Nat} (small : value < 2 ^ 63) :
    readInt (.number (.ofNat value)) = some (value : Int) :=
  atoi_ofNat small

theorem readUInt32_ofNat (value : UInt32) :
    readUInt32 (.number (.ofNat value.toNat)) = some value := by
  have read := Decimal.decimal?_digits value.toNat
  change (GoString.decimal? ((Decimal.digits value.toNat).map .scalar)).bind _ = _
  rw [read, Option.bind_some, if_pos value.toNat_lt, UInt32.ofNat_toNat]

end CheckNetwork.Go.Json
