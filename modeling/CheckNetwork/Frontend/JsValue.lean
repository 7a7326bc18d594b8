import CheckNetwork.Go.Float
import CheckNetwork.Go.JsonRoundTrip
import CheckNetwork.Go.JsonStruct
import Mathlib.Algebra.Order.Ring.Pow
import Mathlib.Tactic.Positivity

/-!
# Values of the browser

The values that `JSON.parse` returns and the checks of their shape.
-/

namespace CheckNetwork.Frontend

open Go

/-- A value without accessors and of a plain prototype.  A string has no lone surrogates. -/
inductive JsValue
  | undefined
  | null
  | bool (value : Bool)
  | number (value : F64)
  | string (text : String)
  | array (elements : List JsValue)
  | object (members : List (String × JsValue))

/-! ## Numbers -/

/-- The number that digits, a fraction and an exponent spell. -/
def unsignedValue (text : List Char) : ℚ :=
  let whole := text.takeWhile Json.isDigit
  let fraction := match text.dropWhile Json.isDigit with
    | '.' :: rest => rest.takeWhile Json.isDigit
    | _ => []
  let exponent : Int := match (text.dropWhile fun char => char ≠ 'e' && char ≠ 'E').tail with
    | '-' :: digits => -(Nat.ofDigitChars 10 digits 0 : Nat)
    | '+' :: digits => (Nat.ofDigitChars 10 digits 0 : Nat)
    | digits => (Nat.ofDigitChars 10 digits 0 : Nat)
  Nat.ofDigitChars 10 (whole ++ fraction) 0 * 10 ^ (exponent - fraction.length)

def toNumber (number : JsonNumber) : F64 :=
  match number.text with
  | '-' :: rest => (F64.round (unsignedValue rest)).neg
  | rest => F64.round (unsignedValue rest)

section Numbers

/-- An integer of at most 53 bits is a number. -/
theorem round_natCast {value : Nat} (small : value < 2 ^ 53) :
    F64.round (value : ℚ) = .finite value := by
  have nonneg : ¬ ((value : ℚ) < 0) := not_lt.mpr (Nat.cast_nonneg value)
  have exact_ : F64.roundToPrecision (value : ℚ) = value := by
    rw [F64.roundToPrecision]
    split
    · rename_i zero
      exact zero.symm
    · rename_i nonzero
      have pos : value ≠ 0 := by
        rintro rfl
        exact nonzero rfl
      -- The last bit is that of the units, or below.
      have log_le : Nat.log2 value ≤ 52 := by
        have := (Nat.log2_lt pos).mpr small
        omega
      have last_le : F64.lastExponent (value : ℚ) ≤ 0 := by
        rw [F64.lastExponent, F64.binaryExponent]
        have guess : ((Nat.log2 (value : ℚ).num.natAbs : Int) - Nat.log2 (value : ℚ).den) ≤ 52 := by
          rw [Rat.num_natCast, Rat.den_natCast, Int.natAbs_natCast, show Nat.log2 1 = 0 from rfl]
          omega
        split <;> omega
      obtain ⟨places, same⟩ : ∃ places : Nat, F64.lastExponent (value : ℚ) = -places :=
        ⟨(F64.lastExponent (value : ℚ)).natAbs, by omega⟩
      have whole : (value : ℚ) / 2 ^ F64.lastExponent (value : ℚ) =
          ((value * 2 ^ places : Nat) : ℚ) := by
        rw [same, zpow_neg, zpow_natCast, div_inv_eq_mul, Nat.cast_mul, Nat.cast_pow,
          Nat.cast_ofNat]
      have rounded : ∀ n : Nat, F64.roundHalfEven (n : ℚ) = n := by
        intro n
        rw [F64.roundHalfEven, Int.floor_natCast]
        rw [if_pos (by rw [Int.cast_natCast, sub_self]; norm_num)]
      rw [whole, rounded, same, zpow_neg, zpow_natCast, Int.cast_natCast, Nat.cast_mul,
        Nat.cast_pow, Nat.cast_ofNat]
      exact mul_inv_cancel_right₀ (by positivity) _
  have bounded : ¬ ((2 : ℚ) ^ (1024 : Int) ≤ |(value : ℚ)|) := by
    rw [not_le, abs_of_nonneg (Nat.cast_nonneg value)]
    have cast : (value : ℚ) < 2 ^ 53 := by exact_mod_cast small
    exact cast.trans_le (pow_le_pow_right₀ (by norm_num) (by norm_num : 53 ≤ 1024))
  rw [F64.round, exact_, if_neg bounded, if_neg fun both => nonneg both.2]

/-- The digits of an integer. -/
theorem unsignedValue_digits (value : Nat) : unsignedValue (Decimal.digits value) = value := by
  have digit : ∀ char ∈ Decimal.digits value, Json.isDigit char = true := fun char member => by
    rw [← Decimal.char_isDigit_iff]
    exact Decimal.isDigit_of_mem member
  have mantissa : ∀ char ∈ Decimal.digits value,
      decide (char ≠ 'e' && char ≠ 'E') = true := by
    intro char member
    have known := digit char member
    have different : ∀ other, Json.isDigit other = false → char ≠ other := by
      rintro other wrong rfl
      rw [known] at wrong
      cases wrong
    simp [different 'e' (by decide), different 'E' (by decide)]
  have whole : (Decimal.digits value).takeWhile Json.isDigit = Decimal.digits value :=
    List.takeWhile_eq_self_iff.mpr digit
  have rest : (Decimal.digits value).dropWhile Json.isDigit = [] :=
    List.dropWhile_eq_nil_iff.mpr digit
  have exponent : (Decimal.digits value).dropWhile (fun char => char ≠ 'e' && char ≠ 'E') = [] :=
    List.dropWhile_eq_nil_iff.mpr fun char member => by simpa using mantissa char member
  rw [unsignedValue, whole, rest, exponent]
  simp [Nat.ofDigitChars_toDigits]

theorem toNumber_ofNat {value : Nat} (small : value < 2 ^ 53) :
    toNumber (.ofNat value) = .finite value := by
  have same : (JsonNumber.ofNat value).text = Decimal.digits value := rfl
  obtain ⟨first, rest, digits⟩ := Decimal.exists_digits value
  unfold toNumber
  rw [same]
  split
  · rename_i minus
    have digit := @Decimal.isDigit_of_mem value '-' (minus ▸ List.mem_cons_self ..)
    cases digit
  · rw [unsignedValue_digits, round_natCast small]

end Numbers

/-! ## `JSON.parse` -/

namespace JsValue

/-- A member that comes again replaces the earlier value. -/
def setMember (members : List (String × JsValue)) (member : String × JsValue) :
    List (String × JsValue) :=
  if member.1 ∈ members.map Prod.fst then
    members.map fun old => if old.1 = member.1 then member else old
  else members ++ [member]

mutual

def ofJson : JsonValue → JsValue
  | .null => .null
  | .bool value => .bool value
  | .number value => .number (toNumber value)
  | .string text => .string text.text
  | .array elements => .array (ofElements elements)
  | .object members => .object ((ofMembers members).foldl setMember [])

def ofElements : List JsonValue → List JsValue
  | [] => []
  | first :: rest => ofJson first :: ofElements rest

def ofMembers : List (String × JsonValue) → List (String × JsValue)
  | [] => []
  | first :: rest => (first.1, ofJson first.2) :: ofMembers rest

end

/-- `JSON.parse`, of a text that is no deeper than the server writes. -/
def parse (text : List Char) : Option JsValue := (Json.decode text).map ofJson

theorem ofElements_eq (elements : List JsonValue) : ofElements elements = elements.map ofJson := by
  induction elements with
  | nil => rw [ofElements, List.map_nil]
  | cons first rest ih => rw [ofElements, ih, List.map_cons]

theorem ofMembers_eq (members : List (String × JsonValue)) :
    ofMembers members = members.map fun member => (member.1, ofJson member.2) := by
  induction members with
  | nil => rw [ofMembers, List.map_nil]
  | cons first rest ih => rw [ofMembers, ih, List.map_cons]

mutual

/-- A reader sees no bytes that are not text. -/
theorem ofJson_clean : ∀ value : JsonValue, ofJson (Json.clean value) = ofJson value
  | .null | .bool _ | .number _ => rfl
  | .string text => by
      rw [Json.clean, ofJson, ofJson, GoString.text, GoString.text, List.map_map]
      rfl
  | .array elements => by rw [Json.clean, ofJson, ofJson, ofElements_clean]
  | .object members => by rw [Json.clean, ofJson, ofJson, ofMembers_clean]

theorem ofElements_clean : ∀ elements : List JsonValue,
    ofElements (Json.cleanElements elements) = ofElements elements
  | [] => rfl
  | first :: rest => by
      rw [Json.cleanElements, ofElements, ofElements, ofJson_clean, ofElements_clean]

theorem ofMembers_clean : ∀ members : List (String × JsonValue),
    ofMembers (Json.cleanMembers members) = ofMembers members
  | [] => rfl
  | first :: rest => by
      rw [Json.cleanMembers, ofMembers, ofMembers, ofJson_clean, ofMembers_clean]

end

/-- What the server writes is what the browser has. -/
theorem parse_encode {value : JsonValue} (shallow : Json.depth value ≤ Json.maxNestingDepth) :
    parse (Json.encode value) = some (ofJson value) := by
  have read := Json.decode_encode shallow (.inl rfl : ([] : List Char) = [] ∨ [] = ['\n'])
  rw [List.append_nil] at read
  rw [parse, read, Option.map_some, ofJson_clean]

theorem foldl_setMember {members seen : List (String × JsValue)}
    (distinct : ((seen ++ members).map Prod.fst).Nodup) :
    members.foldl setMember seen = seen ++ members := by
  induction members generalizing seen with
  | nil => rw [List.foldl_nil, List.append_nil]
  | cons first rest ih =>
      have fresh : first.1 ∉ seen.map Prod.fst := by
        rw [List.map_append, List.nodup_append] at distinct
        intro member
        exact distinct.2.2 _ member _ (List.mem_cons_self ..) rfl
      rw [List.append_cons] at distinct
      rw [List.foldl_cons, setMember, if_neg fresh, ih distinct, ← List.append_cons]

/-- An object keeps its members if none comes again. -/
theorem ofJson_object {members : List (String × JsonValue)}
    (distinct : (members.map Prod.fst).Nodup) : ofJson (.object members) =
      .object (members.map fun member => (member.1, ofJson member.2)) := by
  have keys : (members.map fun member => (member.1, ofJson member.2)).map Prod.fst =
      members.map Prod.fst := by
    rw [List.map_map]
    rfl
  rw [ofJson, ofMembers_eq, foldl_setMember (by rw [List.nil_append, keys]; exact distinct),
    List.nil_append]

theorem ofJson_array (elements : List JsonValue) :
    ofJson (.array elements) = .array (elements.map ofJson) := by
  rw [ofJson, ofElements_eq]

theorem lookup_map_ofJson (members : List (String × JsonValue)) (key : String) :
    (members.map fun member => (member.1, ofJson member.2)).lookup key =
      (members.lookup key).map ofJson := by
  induction members with
  | nil => rfl
  | cons first rest ih =>
      rw [List.map_cons, List.lookup_cons, List.lookup_cons, ih]
      cases key == first.1 <;> rfl

/-- The value of a property of an object. -/
def get (members : List (String × JsValue)) (key : String) : JsValue :=
  (members.lookup key).getD .undefined

/-- The members of a struct, as the browser has them. -/
def ofFields (fields : List (String × Option JsonValue)) : List (String × JsValue) :=
  (Json.members fields).map fun member => (member.1, ofJson member.2)

section Fields

variable {fields : List (String × Option JsonValue)} {key : String}

theorem lookup_ofFields (distinct : (fields.map Prod.fst).Nodup) :
    (ofFields fields).lookup key = (fields.lookup key).join.map ofJson := by
  rw [ofFields, lookup_map_ofJson, Json.lookup_members distinct]

theorem ofJson_members (distinct : (fields.map Prod.fst).Nodup) :
    ofJson (.object (Json.members fields)) = .object (ofFields fields) :=
  ofJson_object ((Json.keys_members_sublist fields).nodup distinct)

theorem mem_keys_of_mem_ofFields {member : String × JsValue} (inside : member ∈ ofFields fields) :
    member.1 ∈ fields.map Prod.fst := by
  obtain ⟨old, inMembers, rfl⟩ := List.mem_map.mp inside
  exact List.mem_map.mpr ⟨_, Json.mem_members.mp inMembers, rfl⟩

end Fields

end JsValue

/-! ## Checks -/

structure SchemaError where
  path : String
  message : String
  deriving DecidableEq

abbrev Checked := Except SchemaError

def schemaError {A : Type} (path message : String) : Checked A := .error ⟨path, message⟩

def object (value : JsValue) (path : String) : Checked (List (String × JsValue)) :=
  match value with
  | .object members => .ok members
  | _ => schemaError path "expected object"

def array (value : JsValue) (path : String) (max : Nat) : Checked (List JsValue) :=
  match value with
  | .array elements =>
      if max < elements.length then schemaError path ("exceeds limit " ++ toString max)
      else .ok elements
  | _ => schemaError path "expected array"

/-- The length of a string, in units of sixteen bits. -/
def utf16Length (text : List Char) : Nat :=
  (text.map fun char => if 0x10000 ≤ char.toNat then 2 else 1).sum

/-- A text that is required. -/
def text (value : JsValue) (path : String) (max : Nat) : Checked String :=
  match value with
  | .string value =>
      if max < utf16Length value.toList then schemaError path ("exceeds limit " ++ toString max)
      else if value = "" then schemaError path "must not be empty"
      else .ok value
  | _ => schemaError path "expected string"

def maxSafeInteger : Nat := 9007199254740991

/-- The integer that a number is, if `Number.isSafeInteger`. -/
def safeInteger? : F64 → Option Int
  | .negativeZero => some 0
  | .finite value =>
      if value.den = 1 ∧ value.num.natAbs ≤ maxSafeInteger then some value.num else none
  | _ => none

def integer (value : JsValue) (path : String) (min max : Int) : Checked Int :=
  match value with
  | .number number =>
      match safeInteger? number with
      | some value =>
          if value < min ∨ max < value then schemaError path "expected bounded integer"
          else .ok value
      | none => schemaError path "expected bounded integer"
  | _ => schemaError path "expected bounded integer"

theorem integer_natCast {value : Nat} {path : String} {min max : Int} (least : min ≤ value)
    (greatest : (value : Int) ≤ max) (small : value ≤ maxSafeInteger) :
    integer (.number (.finite value)) path min max = .ok value := by
  rw [integer, safeInteger?, Rat.den_natCast, Rat.num_natCast, Int.natAbs_natCast,
    if_pos ⟨rfl, small⟩]
  exact if_neg (by omega)

section Safe

/-- A number of more than 53 bits is no safe integer. -/
theorem safeInteger?_round {value : Nat} (large : 2 ^ 53 ≤ value) :
    safeInteger? (F64.round (value : ℚ)) = none := by
  have nonneg : (0 : ℚ) ≤ value := Nat.cast_nonneg value
  have nonzero : (value : ℚ) ≠ 0 := by
    have : (0 : ℚ) < 2 ^ 53 := by norm_num
    have cast : ((2 : ℚ) ^ 53) ≤ value := by exact_mod_cast large
    linarith
  have log : 53 ≤ Nat.log2 value := (Nat.le_log2 (by omega)).mpr large
  have leading : (2 : ℚ) ^ Nat.log2 value ≤ value := by
    exact_mod_cast Nat.log2_self_le (by omega : value ≠ 0)
  -- The units are below the last bit.
  have exponent : F64.lastExponent (value : ℚ) = ((Nat.log2 value - 52 : Nat) : Int) := by
    have guess : ((Nat.log2 (value : ℚ).num.natAbs : Int) - Nat.log2 (value : ℚ).den) =
        Nat.log2 value := by
      rw [Rat.num_natCast, Rat.den_natCast, Int.natAbs_natCast, show Nat.log2 1 = 0 from rfl]
      omega
    rw [F64.lastExponent, F64.binaryExponent, guess]
    rw [zpow_natCast, abs_of_nonneg nonneg, if_pos leading]
    omega
  set places := Nat.log2 value - 52 with places_eq
  have mantissa : (2 : ℚ) ^ 52 ≤ (value : ℚ) / 2 ^ (places : Int) := by
    rw [zpow_natCast, le_div_iff₀ (by positivity), ← pow_add]
    exact (pow_le_pow_right₀ (by norm_num) (by omega)).trans leading
  have rounded : (2 : Int) ^ 52 ≤ F64.roundHalfEven ((value : ℚ) / 2 ^ (places : Int)) := by
    have floor : (2 : Int) ^ 52 ≤ ⌊(value : ℚ) / 2 ^ (places : Int)⌋ :=
      Int.le_floor.mpr (by push_cast; exact mantissa)
    rw [F64.roundHalfEven]
    split_ifs <;> omega
  have large' : (2 : Int) ^ 53 ≤ F64.roundHalfEven ((value : ℚ) / 2 ^ (places : Int)) *
      2 ^ places := by
    have twice : (2 : Int) ≤ 2 ^ places := by
      calc (2 : Int) = 2 ^ 1 := (pow_one 2).symm
        _ ≤ 2 ^ places := pow_le_pow_right₀ (by norm_num) (by omega)
    calc (2 : Int) ^ 53 = 2 ^ 52 * 2 := by norm_num
      _ ≤ _ := mul_le_mul rounded twice (by norm_num) (by omega)
  have whole : F64.roundToPrecision (value : ℚ) =
      ((F64.roundHalfEven ((value : ℚ) / 2 ^ (places : Int)) * 2 ^ places : Int) : ℚ) := by
    rw [F64.roundToPrecision, if_neg nonzero, exponent]
    push_cast
    rw [zpow_natCast]
  rw [F64.round, whole]
  split_ifs with large negative
  · rfl
  · exact absurd negative.2 (not_lt.mpr nonneg)
  · rw [safeInteger?, if_neg]
    rintro ⟨-, safe⟩
    rw [Rat.num_intCast, maxSafeInteger] at safe
    omega

/-- The integers that pass are those within the bounds. -/
theorem integer_toNumber {value max : Int} {path : String} (nonneg : 0 ≤ value)
    (small : max ≤ maxSafeInteger) (min : Int) :
    integer (.number (toNumber (.ofInt value))) path min max =
      if value < min ∨ max < value then schemaError path "expected bounded integer"
      else .ok value := by
  lift value to Nat using nonneg
  rw [JsonNumber.ofInt_natCast]
  by_cases safe : value ≤ maxSafeInteger
  · have below : value < 2 ^ 53 := by
      rw [maxSafeInteger] at safe
      omega
    rw [toNumber_ofNat below, integer, safeInteger?, Rat.den_natCast, Rat.num_natCast,
      Int.natAbs_natCast, if_pos ⟨rfl, safe⟩]
  · have above : 2 ^ 53 ≤ value := by
      rw [maxSafeInteger] at safe
      omega
    have read : toNumber (.ofNat value) = F64.round (value : ℚ) := by
      have text_eq : (JsonNumber.ofNat value).text = Decimal.digits value := rfl
      unfold toNumber
      rw [text_eq]
      split
      · rename_i minus
        have digit := @Decimal.isDigit_of_mem value '-' (minus ▸ List.mem_cons_self ..)
        cases digit
      · rw [unsignedValue_digits]
    rw [read, integer, safeInteger?_round above, if_pos (.inr (by omega))]

end Safe

/-- `requireFields`. -/
def requireFields (members : List (String × JsValue)) (fields : List String) (path : String) :
    Checked Unit :=
  match fields.find? fun field => (members.lookup field).isNone with
  | some field => schemaError (path ++ "." ++ field) "required own enumerable data field is missing"
  | none => .ok ()

def allowedFields (members : List (String × JsValue)) (required optional : List String)
    (path : String) : Checked Unit :=
  if members.any (fun member => member.1 ∉ required ++ optional) then
    schemaError path "expected exact enumerable data fields"
  else requireFields members required path

def exactFields (members : List (String × JsValue)) (expected : List String) (path : String) :
    Checked Unit :=
  allowedFields members expected [] path

/-- A struct has no fields but its own. -/
theorem allowedFields_ofFields {fields : List (String × Option JsonValue)}
    {required optional : List String} {path : String}
    (known : ∀ key ∈ fields.map Prod.fst, key ∈ required ++ optional)
    (present : ∀ key ∈ required, ((JsValue.ofFields fields).lookup key).isNone = false) :
    allowedFields (JsValue.ofFields fields) required optional path = .ok () := by
  rw [allowedFields, if_neg, requireFields, List.find?_eq_none.mpr]
  · intro key member
    rw [present key member]
    decide
  · intro unknown
    obtain ⟨member, inside, outside⟩ := List.any_eq_true.mp unknown
    rw [decide_eq_true_iff] at outside
    exact outside (known _ (JsValue.mem_keys_of_mem_ofFields inside))

end CheckNetwork.Frontend
