import CheckNetwork.Go.Float

/-!
# Computations with what they make

A computation that may fail, together with the texts and the numbers that it
makes on its way, also when it fails.
-/

namespace CheckNetwork.Text

open Go

inductive Intermediate
  | text (chars : List Char)
  | integer (value : Int)
  | double (value : F64)

/-- A text of bounded length, or a number of sixty-four bits. -/
def Intermediate.Fits (limit : Nat) : Intermediate → Prop
  | text chars => chars.length ≤ limit
  | integer value => -2 ^ 63 ≤ value ∧ value < 2 ^ 63
  | double _ => True

structure Measured (A : Type) where
  result : Option A
  made : List Intermediate

namespace Measured

variable {A B : Type}

instance : Monad Measured where
  pure value := ⟨some value, []⟩
  bind first next :=
    match first.result with
    | none => ⟨none, first.made⟩
    | some value => ⟨(next value).result, first.made ++ (next value).made⟩

def ofOption (value : Option A) : Measured A := ⟨value, []⟩

def fail : Measured A := ⟨none, []⟩

def require (condition : Bool) : Measured Unit := ⟨if condition then some () else none, []⟩

def text (chars : List Char) : Measured (List Char) := ⟨some chars, [.text chars]⟩

def integer (value : Int) : Measured Int := ⟨some value, [.integer value]⟩

def double (value : F64) : Measured F64 := ⟨some value, [.double value]⟩

@[simp]
theorem result_pure (value : A) : (pure value : Measured A).result = some value := rfl

@[simp]
theorem result_bind (first : Measured A) (next : A → Measured B) :
    (first >>= next).result = first.result.bind fun value => (next value).result := by
  change (match first.result with
    | none => (⟨none, first.made⟩ : Measured B)
    | some value => ⟨(next value).result, first.made ++ (next value).made⟩).result = _
  cases first.result <;> rfl

@[simp]
theorem result_ofOption (value : Option A) : (ofOption value).result = value := rfl

@[simp]
theorem result_fail : (fail : Measured A).result = none := rfl

theorem result_require (condition : Bool) :
    (require condition).result = if condition then some () else none := rfl

theorem result_require_true {condition : Bool} (holds : condition = true) :
    (require condition).result = some () := if_pos holds

theorem result_require_false {condition : Bool} (fails : condition = false) :
    (require condition).result = none := if_neg (by rw [fails]; exact Bool.false_ne_true)

@[simp]
theorem result_text (chars : List Char) : (text chars).result = some chars := rfl

@[simp]
theorem result_integer (value : Int) : (integer value).result = some value := rfl

@[simp]
theorem result_double (value : F64) : (double value).result = some value := rfl

@[simp]
theorem result_ite (condition : Prop) [Decidable condition] (left right : Measured A) :
    (if condition then left else right).result =
      if condition then left.result else right.result := by
  split <;> rfl

/-- Everything that is made fits. -/
def Within (limit : Nat) (computation : Measured A) : Prop :=
  ∀ made ∈ computation.made, made.Fits limit

section Within

variable {limit : Nat}

theorem within_pure (value : A) : Within limit (pure value) := fun _ impossible => by
  cases impossible

theorem within_ofOption (value : Option A) : Within limit (ofOption value) :=
  fun _ impossible => by cases impossible

theorem within_fail : Within limit (fail : Measured A) := fun _ impossible => by cases impossible

theorem within_require (condition : Bool) : Within limit (require condition) :=
  fun _ impossible => by cases impossible

theorem within_text {chars : List Char} (le : chars.length ≤ limit) : Within limit (text chars) := by
  intro made member
  rw [List.mem_singleton.mp member]
  exact le

theorem within_integer {value : Int} (least : -2 ^ 63 ≤ value) (greatest : value < 2 ^ 63) :
    Within limit (integer value) := by
  intro made member
  rw [List.mem_singleton.mp member]
  exact ⟨least, greatest⟩

theorem within_double (value : F64) : Within limit (double value) := by
  intro made member
  rw [List.mem_singleton.mp member]
  trivial

/-- A step goes on only with what it has found. -/
theorem within_bind {first : Measured A} {next : A → Measured B} (here : Within limit first)
    (there : ∀ value, first.result = some value → Within limit (next value)) :
    Within limit (first >>= next) := by
  intro made member
  change made ∈ (match first.result with
    | none => (⟨none, first.made⟩ : Measured B)
    | some value => ⟨(next value).result, first.made ++ (next value).made⟩).made at member
  cases found : first.result with
  | none =>
      rw [found] at member
      exact here made member
  | some value =>
      rw [found] at member
      rcases List.mem_append.mp member with before | after
      · exact here made before
      · exact there value found made after

theorem within_text_bind {chars : List Char} {next : List Char → Measured B}
    (le : chars.length ≤ limit) (there : Within limit (next chars)) :
    Within limit (text chars >>= next) :=
  within_bind (within_text le) fun _ found => Option.some.inj found ▸ there

theorem within_integer_bind {value : Int} {next : Int → Measured B} (least : -2 ^ 63 ≤ value)
    (greatest : value < 2 ^ 63) (there : Within limit (next value)) :
    Within limit (integer value >>= next) :=
  within_bind (within_integer least greatest) fun _ found => Option.some.inj found ▸ there

theorem within_double_bind {value : F64} {next : F64 → Measured B}
    (there : Within limit (next value)) : Within limit (double value >>= next) :=
  within_bind (within_double value) fun _ found => Option.some.inj found ▸ there

theorem within_ofOption_bind {value : Option A} {next : A → Measured B}
    (there : ∀ found, value = some found → Within limit (next found)) :
    Within limit (ofOption value >>= next) :=
  within_bind (within_ofOption value) there

theorem within_require_bind {condition : Bool} {next : Unit → Measured B}
    (there : condition = true → Within limit (next ())) :
    Within limit (require condition >>= next) := by
  refine within_bind (within_require condition) fun _ found => there ?_
  rw [result_require] at found
  split at found
  · assumption
  · cases found

theorem within_ite {condition : Prop} [Decidable condition] {left right : Measured A}
    (yes : condition → Within limit left) (no : ¬condition → Within limit right) :
    Within limit (if condition then left else right) := by
  split
  · exact yes ‹_›
  · exact no ‹_›

end Within

end Measured

end CheckNetwork.Text
