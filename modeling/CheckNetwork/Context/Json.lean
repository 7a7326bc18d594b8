import CheckNetwork.Go.JsonRoundTrip

/-!
# Admission of JSON documents

What `ipContextJSON` admits: UTF-8 whose escapes pair their surrogates, within a
depth and a number of tokens, and without duplicate keys.
-/

namespace CheckNetwork.Context

open Go

/-! ## Surrogate escapes -/

mutual

/-- `validJSONSurrogateEscapes`, outside of strings. -/
def validJSONSurrogateEscapes : List Char → Bool
  | [] => true
  | first :: rest =>
      if first = '"' then validStringEscapes rest else validJSONSurrogateEscapes rest

/-- The inner loop, inside of a string. -/
def validStringEscapes : List Char → Bool
  | [] => false
  | ['\\'] => false
  | '\\' :: 'u' :: first :: second :: third :: fourth :: rest =>
      match Json.hexQuad first second third fourth with
      | none => false
      | some value =>
          if Json.isHighSurrogate value then validLowSurrogate rest
          else !Json.isLowSurrogate value && validStringEscapes rest
  | '\\' :: letter :: rest => (Json.unescape letter).isSome && validStringEscapes rest
  | first :: rest =>
      if first = '"' then validJSONSurrogateEscapes rest
      else !(first.toNat < 0x20) && validStringEscapes rest

/-- The second half of a pair. -/
def validLowSurrogate : List Char → Bool
  | '\\' :: 'u' :: first :: second :: third :: fourth :: rest =>
      (Json.hexQuad first second third fourth).any Json.isLowSurrogate && validStringEscapes rest
  | _ => false

end

/-! ## Admission -/

inductive JsonError
  | invalid | budget
  deriving DecidableEq, Repr

mutual

/-- The recursion of `ipContextJSON`, on the tokens of a value.  It returns their
number, from a number of tokens that were read before. -/
def read (maxDepth maxTokens depth : Nat) : JsonValue → Nat → Except JsonError Nat
  | .array elements, count =>
      if maxTokens < count + 1 ∨ maxDepth < depth then .error .budget
      else (readElements maxDepth maxTokens (depth + 1) elements (count + 1)).bind fun count =>
        if maxTokens < count + 1 then .error .budget else .ok (count + 1)
  | .object members, count =>
      if maxTokens < count + 1 ∨ maxDepth < depth then .error .budget
      else (readMembers maxDepth maxTokens (depth + 1) [] members (count + 1)).bind fun count =>
        if maxTokens < count + 1 then .error .budget else .ok (count + 1)
  | _, count =>
      if maxTokens < count + 1 ∨ maxDepth < depth then .error .budget else .ok (count + 1)

def readElements (maxDepth maxTokens depth : Nat) :
    List JsonValue → Nat → Except JsonError Nat
  | [], count => .ok count
  | first :: rest, count =>
      (read maxDepth maxTokens depth first count).bind fun count =>
        readElements maxDepth maxTokens depth rest count

def readMembers (maxDepth maxTokens depth : Nat) (seen : List String) :
    List (String × JsonValue) → Nat → Except JsonError Nat
  | [], count => .ok count
  | first :: rest, count =>
      if first.1 ∈ seen then .error .invalid
      else if maxTokens < count + 1 then .error .budget
      else (read maxDepth maxTokens depth first.2 (count + 1)).bind fun count =>
        readMembers maxDepth maxTokens depth (first.1 :: seen) rest count

end

def ipContextJSON (data : GoString) (maxDepth maxTokens : Nat) : Except JsonError JsonValue :=
  if !data.isValid || !validJSONSurrogateEscapes (data.map Rune.char) then .error .invalid
  else match Json.decode (data.map Rune.char) with
    | none => .error .invalid
    | some value => (read maxDepth maxTokens 1 value 0).map fun _ => value

/-! ## Written documents are admitted -/

section Escapes

variable {char : Char} {written rest : List Char}

theorem validStringEscapes_append (quoted : Json.Quoted char written) :
    validStringEscapes (written ++ rest) = validStringEscapes rest := by
  cases quoted with
  | short letter own other =>
      rw [List.cons_append, List.cons_append, List.nil_append, validStringEscapes]
      · rw [own]
        rfl
      · intro _ _ _ _ _ same
        exact absurd same other
  | number small =>
      have surrogate := Json.not_surrogate_toNat char
      obtain ⟨notHigh, notLow⟩ := Bool.or_eq_false_iff.mp surrogate
      simp only [Json.unicodeEscape, List.cons_append, List.nil_append]
      rw [validStringEscapes, Json.hexQuad_unicodeEscape small]
      dsimp only
      rw [notHigh, notLow]
      rfl
  | plain noQuote noEscape visible =>
      rw [List.cons_append, List.nil_append, validStringEscapes]
      · rw [if_neg noQuote, decide_eq_false visible]
        rfl
      · intro same
        exact absurd same noEscape
      · intro _ _ _ _ _ same
        exact absurd same noEscape
      · intro _ _ same
        exact absurd same noEscape

theorem validStringEscapes_quote (text : GoString) :
    validStringEscapes (text.flatMap Json.quotedRune ++ '"' :: rest) =
      validJSONSurrogateEscapes rest := by
  induction text with
  | nil => simp [validStringEscapes]
  | cons rune text ih =>
      rw [List.flatMap_cons, List.append_assoc,
        validStringEscapes_append (Json.quoted_quotedRune rune), ih]

theorem validJSONSurrogateEscapes_cons (noQuote : char ≠ '"') :
    validJSONSurrogateEscapes (char :: rest) = validJSONSurrogateEscapes rest := by
  rw [validJSONSurrogateEscapes, if_neg noQuote]

theorem validJSONSurrogateEscapes_quote (text : GoString) :
    validJSONSurrogateEscapes (Json.quote text ++ rest) = validJSONSurrogateEscapes rest := by
  rw [Json.quote, List.cons_append, List.append_assoc, validJSONSurrogateEscapes, if_pos rfl]
  exact validStringEscapes_quote text

theorem validJSONSurrogateEscapes_word {text : List Char} (all : text.all Json.isWordChar) :
    validJSONSurrogateEscapes (text ++ rest) = validJSONSurrogateEscapes rest := by
  induction text with
  | nil => rfl
  | cons first text ih =>
      rw [List.all_cons, Bool.and_eq_true] at all
      have noQuote : first ≠ '"' := by
        rintro rfl
        exact absurd all.1 (by decide)
      rw [List.cons_append, validJSONSurrogateEscapes_cons noQuote, ih all.2]

mutual

/-- The text of a value has no unpaired surrogates. -/
theorem validJSONSurrogateEscapes_encode : ∀ (value : JsonValue) {rest : List Char},
    validJSONSurrogateEscapes (Json.encode value ++ rest) = validJSONSurrogateEscapes rest
  | .null, _ => validJSONSurrogateEscapes_word (by decide)
  | .bool true, _ => validJSONSurrogateEscapes_word (by decide)
  | .bool false, _ => validJSONSurrogateEscapes_word (by decide)
  | .number value, _ => validJSONSurrogateEscapes_word value.valid.1
  | .string text, _ => validJSONSurrogateEscapes_quote text
  | .array elements, rest => by
      rw [Json.encode, List.cons_append, List.append_assoc,
        validJSONSurrogateEscapes_cons (by decide), validJSONSurrogateEscapes_encodeElements,
        List.cons_append, validJSONSurrogateEscapes_cons (by decide), List.nil_append]
  | .object members, rest => by
      rw [Json.encode, List.cons_append, List.append_assoc,
        validJSONSurrogateEscapes_cons (by decide), validJSONSurrogateEscapes_encodeMembers,
        List.cons_append, validJSONSurrogateEscapes_cons (by decide), List.nil_append]

theorem validJSONSurrogateEscapes_encodeElements : ∀ (elements : List JsonValue)
    {rest : List Char}, validJSONSurrogateEscapes (Json.encodeElements elements ++ rest) =
      validJSONSurrogateEscapes rest
  | [], _ => rfl
  | [last], _ => validJSONSurrogateEscapes_encode last
  | first :: second :: others, rest => by
      rw [Json.encodeElements, List.append_assoc, validJSONSurrogateEscapes_encode first,
        List.cons_append, validJSONSurrogateEscapes_cons (by decide),
        validJSONSurrogateEscapes_encodeElements (second :: others)]

theorem validJSONSurrogateEscapes_encodeMembers : ∀ (members : List (String × JsonValue))
    {rest : List Char}, validJSONSurrogateEscapes (Json.encodeMembers members ++ rest) =
      validJSONSurrogateEscapes rest
  | [], _ => rfl
  | [(key, last)], rest => by
      rw [Json.encodeMembers, List.append_assoc, validJSONSurrogateEscapes_quote, List.cons_append,
        validJSONSurrogateEscapes_cons (by decide), validJSONSurrogateEscapes_encode last]
  | (key, value) :: second :: others, rest => by
      rw [Json.encodeMembers, List.append_assoc, validJSONSurrogateEscapes_quote, List.cons_append,
        validJSONSurrogateEscapes_cons (by decide), List.append_assoc,
        validJSONSurrogateEscapes_encode value, List.cons_append,
        validJSONSurrogateEscapes_cons (by decide),
        validJSONSurrogateEscapes_encodeMembers (second :: others)]

end

end Escapes

section Budget

mutual

/-- The number of tokens of a value. -/
def tokens : JsonValue → Nat
  | .array elements => elementsTokens elements + 2
  | .object members => membersTokens members + 2
  | _ => 1

def elementsTokens : List JsonValue → Nat
  | [] => 0
  | first :: rest => tokens first + elementsTokens rest

def membersTokens : List (String × JsonValue) → Nat
  | [] => 0
  | first :: rest => tokens first.2 + 1 + membersTokens rest

end

mutual

/-- No object has two members with one key. -/
def Distinct : JsonValue → Prop
  | .array elements => ElementsDistinct elements
  | .object members => (members.map Prod.fst).Nodup ∧ MembersDistinct members
  | _ => True

def ElementsDistinct : List JsonValue → Prop
  | [] => True
  | first :: rest => Distinct first ∧ ElementsDistinct rest

def MembersDistinct : List (String × JsonValue) → Prop
  | [] => True
  | first :: rest => Distinct first.2 ∧ MembersDistinct rest

end

variable {maxDepth maxTokens : Nat}

mutual

theorem read_eq_ok : ∀ (value : JsonValue) {depth count : Nat}, Distinct value →
    depth + Json.depth value ≤ maxDepth → count + tokens value ≤ maxTokens →
      read maxDepth maxTokens depth value count = .ok (count + tokens value)
  | .null, _, _, _, shallow, few | .bool _, _, _, _, shallow, few
  | .number _, _, _, _, shallow, few | .string _, _, _, _, shallow, few => by
      simp only [Json.depth, tokens] at shallow few
      change (if _ then _ else _) = _
      rw [if_neg (by omega)]
      rfl
  | .array elements, depth, count, distinct, shallow, few => by
      simp only [Json.depth, tokens, Distinct] at shallow few distinct
      have inside := @readElements_eq_ok elements (depth + 1) (count + 1) distinct (by omega)
        (by omega)
      rw [read, if_neg (by omega), inside]
      change (if _ then _ else _) = _
      rw [if_neg (by omega), tokens]
      congr 1
      omega
  | .object members, depth, count, distinct, shallow, few => by
      simp only [Json.depth, tokens, Distinct] at shallow few distinct
      have inside := @readMembers_eq_ok members (depth + 1) (count + 1) [] distinct.1
        (fun _ _ => List.not_mem_nil) distinct.2 (by omega) (by omega)
      rw [read, if_neg (by omega), inside]
      change (if _ then _ else _) = _
      rw [if_neg (by omega), tokens]
      congr 1
      omega

theorem readElements_eq_ok : ∀ (elements : List JsonValue) {depth count : Nat},
    ElementsDistinct elements → depth + Json.elementsDepth elements ≤ maxDepth →
      count + elementsTokens elements ≤ maxTokens →
      readElements maxDepth maxTokens depth elements count =
        .ok (count + elementsTokens elements)
  | [], _, _, _, _, _ => rfl
  | first :: rest, depth, count, distinct, shallow, few => by
      simp only [Json.elementsDepth, elementsTokens, ElementsDistinct] at shallow few distinct
      have head := @read_eq_ok first depth count distinct.1 (by omega) (by omega)
      have tail := @readElements_eq_ok rest depth (count + tokens first) distinct.2 (by omega)
        (by omega)
      rw [readElements, head]
      change readElements _ _ _ _ _ = _
      rw [tail, elementsTokens]
      congr 1
      omega

theorem readMembers_eq_ok : ∀ (members : List (String × JsonValue)) {depth count : Nat}
    {seen : List String}, (members.map Prod.fst).Nodup →
      (∀ key ∈ members.map Prod.fst, key ∉ seen) → MembersDistinct members →
      depth + Json.membersDepth members ≤ maxDepth → count + membersTokens members ≤ maxTokens →
      readMembers maxDepth maxTokens depth seen members count =
        .ok (count + membersTokens members)
  | [], _, _, _, _, _, _, _, _ => rfl
  | first :: rest, depth, count, seen, nodup, fresh, distinct, shallow, few => by
      simp only [Json.membersDepth, membersTokens, MembersDistinct] at shallow few distinct
      rw [List.map_cons, List.nodup_cons] at nodup
      have unseen := fresh first.1 (List.mem_cons_self ..)
      have head := @read_eq_ok first.2 depth (count + 1) distinct.1 (by omega) (by omega)
      have tail := @readMembers_eq_ok rest depth (count + 1 + tokens first.2) (first.1 :: seen)
        nodup.2 (by
          intro key member again
          rcases List.mem_cons.mp again with rfl | earlier
          · exact nodup.1 member
          · exact fresh key (List.mem_cons_of_mem _ member) earlier) distinct.2 (by omega)
        (by omega)
      rw [readMembers, if_neg unseen, if_neg (by omega), head]
      change readMembers _ _ _ _ _ _ = _
      rw [tail, membersTokens]
      congr 1
      omega

end

end Budget

/-- What was written is admitted as what it says, if it is small enough. -/
theorem ipContextJSON_encode {value : JsonValue} {maxDepth maxTokens : Nat}
    (distinct : Distinct (Json.clean value)) (shallow : 1 + Json.depth value ≤ maxDepth)
    (bounded : maxDepth ≤ Json.maxNestingDepth) (few : tokens (Json.clean value) ≤ maxTokens) :
    ipContextJSON ((Json.encode value ++ ['\n']).map .scalar) maxDepth maxTokens =
      .ok (Json.clean value) := by
  have text : ((Json.encode value ++ ['\n']).map Rune.scalar).map Rune.char =
      Json.encode value ++ ['\n'] := by
    rw [List.map_map]
    exact List.map_id _
  have valid : GoString.isValid ((Json.encode value ++ ['\n']).map .scalar) = true := by
    simp [GoString.isValid, Rune.isScalar]
  have escapes : validJSONSurrogateEscapes (Json.encode value ++ ['\n']) = true :=
    validJSONSurrogateEscapes_encode value
  have decoded := @Json.decode_encode value (by omega) ['\n'] (.inr rfl)
  have admitted := @read_eq_ok maxDepth maxTokens (Json.clean value) 1 0 distinct
    (by rw [Json.depth_clean]; exact shallow) (by omega)
  rw [ipContextJSON, text, valid, escapes, decoded]
  simp [admitted, Except.map]

end CheckNetwork.Context
