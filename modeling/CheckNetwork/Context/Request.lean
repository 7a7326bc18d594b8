import CheckNetwork.Context.Contract
import CheckNetwork.Context.JsonEscapes

/-!
# The request for the context of an address

`contextRequestUniqueKeys` looks for repeated keys in the bytes of a request, and
`ParseIPContextRequest` takes the one address of a request.
-/

namespace CheckNetwork.Context

open Go

/-! ## Repeated keys -/

/-- `len(stack)`. -/
def maxStack : Nat := 128

/-- The names of an object, or nothing for an array. -/
abbrev Open := Option (List String)

/-- `json.Unmarshal`, of a string between its quotes. -/
def unmarshalKey (body : List Char) : Option String :=
  match Json.decode ('"' :: (body ++ ['"'])) with
  | some (.string text) => some text.text
  | _ => none

/-- The stack with another name of the innermost object. -/
def declareKey (stack : List Open) (body : List Char) : Option (List Open) :=
  match stack with
  | some names :: outer =>
      (unmarshalKey body).bind fun key =>
        if key ∈ names then none else some (some (key :: names) :: outer)
  | _ => none

/-- The stack after a string.  A colon makes it a name. -/
def afterString (stack : List Open) (body rest : List Char) : Option (List Open) :=
  if (Json.skip rest).head? = some ':' then declareKey stack body else some stack

mutual

/-- The loop of `contextRequestUniqueKeys`. -/
def uniqueKeysFrom : List Open → List Char → Bool
  | stack, [] => stack.isEmpty
  | stack, first :: rest =>
      if first = '{' ∨ first = '[' then
        stack.length ≠ maxStack &&
          uniqueKeysFrom ((if first = '{' then some [] else none) :: stack) rest
      else if first = '}' ∨ first = ']' then
        !stack.isEmpty && uniqueKeysFrom stack.tail rest
      else if first = '"' then uniqueKeysString stack [] rest
      else uniqueKeysFrom stack rest

/-- The inner loop, with the characters of the string that were passed. -/
def uniqueKeysString : List Open → List Char → List Char → Bool
  | _, _, [] => false
  | _, _, ['\\'] => false
  | stack, body, '\\' :: escaped :: rest => uniqueKeysString stack (body ++ ['\\', escaped]) rest
  | stack, body, first :: rest =>
      if first = '"' then
        match afterString stack body rest with
        | none => false
        | some stack => uniqueKeysFrom stack rest
      else uniqueKeysString stack (body ++ [first]) rest

end

def contextRequestUniqueKeys (data : List Char) : Bool := uniqueKeysFrom [] data

/-! ## The request -/

inductive RequestError
  | invalid | json
  deriving DecidableEq, Repr

/-- The address of an object that has nothing else. -/
def requestAddress (net : NetLibrary) : JsonValue → Option GoString
  | .object members =>
      if members.length ≠ 1 then none
      else match members.lookup "address" with
        | some (.string address) => if validContextAddress net address then some address else none
        | _ => none
  | _ => none

def ParseIPContextRequest (net : NetLibrary) (data : GoString) : Except RequestError GoString :=
  let text := data.map Rune.char
  if 256 < data.byteLength then .error .invalid
  else if !data.isValid || !validJSONSurrogateEscapes text || (Json.decode text).isNone ||
      !contextRequestUniqueKeys text then .error .json
  else match ipContextJSON data 2 4 with
    | .error .budget => .error .invalid
    | .error .invalid => .error .json
    | .ok value => (requestAddress net value).elim (.error .invalid) .ok

/-! ## The scan of a value -/

section Scan

variable {stack : List Open} {body rest text : List Char} {char : Char}

theorem uniqueKeysFrom_cons (noOpening : ¬ (char = '{' ∨ char = '['))
    (noClosing : ¬ (char = '}' ∨ char = ']')) (noQuote : char ≠ '"') :
    uniqueKeysFrom stack (char :: rest) = uniqueKeysFrom stack rest := by
  rw [uniqueKeysFrom, if_neg noOpening, if_neg noClosing, if_neg noQuote]

theorem uniqueKeysFrom_plain (plain : Json.isBlank char = true ∨ Json.isWordChar char = true) :
    uniqueKeysFrom stack (char :: rest) = uniqueKeysFrom stack rest := by
  have different : ∀ other, Json.isBlank other = false → Json.isWordChar other = false →
      char ≠ other := by
    rintro other visible outside rfl
    rw [visible, outside] at plain
    rcases plain with impossible | impossible <;> cases impossible
  refine uniqueKeysFrom_cons ?_ ?_ (different _ (by decide) (by decide))
  · rintro (same | same) <;> exact different _ (by decide) (by decide) same
  · rintro (same | same) <;> exact different _ (by decide) (by decide) same

theorem uniqueKeysFrom_append
    (plain : ∀ char ∈ text, Json.isBlank char = true ∨ Json.isWordChar char = true) :
    uniqueKeysFrom stack (text ++ rest) = uniqueKeysFrom stack rest := by
  induction text with
  | nil => rfl
  | cons first text ih =>
      rw [List.cons_append, uniqueKeysFrom_plain (plain first (List.mem_cons_self ..)),
        ih fun char member => plain char (List.mem_cons_of_mem _ member)]

theorem uniqueKeysFrom_comma : uniqueKeysFrom stack (',' :: rest) = uniqueKeysFrom stack rest :=
  uniqueKeysFrom_cons (by decide) (by decide) (by decide)

theorem uniqueKeysFrom_colon : uniqueKeysFrom stack (':' :: rest) = uniqueKeysFrom stack rest :=
  uniqueKeysFrom_cons (by decide) (by decide) (by decide)

theorem uniqueKeysFrom_openArray (room : stack.length < maxStack) :
    uniqueKeysFrom stack ('[' :: rest) = uniqueKeysFrom (none :: stack) rest := by
  rw [uniqueKeysFrom, if_pos (.inr rfl), decide_eq_true (Nat.ne_of_lt room)]
  rfl

theorem uniqueKeysFrom_openObject (room : stack.length < maxStack) :
    uniqueKeysFrom stack ('{' :: rest) = uniqueKeysFrom (some [] :: stack) rest := by
  rw [uniqueKeysFrom, if_pos (.inl rfl), decide_eq_true (Nat.ne_of_lt room)]
  rfl

theorem uniqueKeysFrom_close (innermost : Open) (closing : char = '}' ∨ char = ']') :
    uniqueKeysFrom (innermost :: stack) (char :: rest) = uniqueKeysFrom stack rest := by
  have noOpening : ¬ (char = '{' ∨ char = '[') := by
    rcases closing with rfl | rfl <;> decide
  rw [uniqueKeysFrom, if_neg noOpening, if_pos closing]
  rfl

theorem uniqueKeysString_close :
    uniqueKeysString stack body ('"' :: rest) =
      (afterString stack body rest).any fun stack => uniqueKeysFrom stack rest := by
  rw [uniqueKeysString, if_pos rfl]
  · cases afterString stack body rest <;> rfl
  all_goals nofun

theorem uniqueKeysString_plain (noQuote : char ≠ '"') (noEscape : char ≠ '\\') :
    uniqueKeysString stack body (char :: rest) =
      uniqueKeysString stack (body ++ [char]) rest := by
  rw [uniqueKeysString, if_neg noQuote]
  · exact fun same => absurd same noEscape
  · exact fun _ _ same => absurd same noEscape

/-- The inner loop finds the end of a string. -/
theorem uniqueKeysString_append {pieces : List Json.Piece} (spelled : Json.Body pieces text) :
    ∀ body, uniqueKeysString stack body (text ++ '"' :: rest) =
      (afterString stack (body ++ text) rest).any fun stack => uniqueKeysFrom stack rest := by
  induction spelled with
  | nil =>
      intro body
      rw [List.nil_append, uniqueKeysString_close, List.append_nil]
  | plain noQuote noEscape _ _ ih =>
      intro body
      rw [List.cons_append, uniqueKeysString_plain noQuote noEscape, ih, List.append_assoc]
      rfl
  | short _ _ ih =>
      intro body
      rw [List.cons_append, List.cons_append, uniqueKeysString, ih, List.append_assoc]
      rfl
  | unit read _ ih =>
      intro body
      obtain ⟨_, _, _, _, first, second, third, fourth, _⟩ := Json.hexQuad_eq_some_iff.mp read
      have step : ∀ {digit : Char} {value : Nat} {body rest : List Char},
          Json.hexValue digit = some value → uniqueKeysString stack body (digit :: rest) =
            uniqueKeysString stack (body ++ [digit]) rest := fun known =>
        uniqueKeysString_plain (Json.hexValue_some known).2.1 (Json.hexValue_some known).1
      simp only [List.cons_append]
      rw [uniqueKeysString, step first, step second, step third, step fourth, ih]
      simp

theorem unmarshalKey_spelled {pieces : List Json.Piece} (spelled : Json.Body pieces text) :
    unmarshalKey text = some (Json.keyText pieces) := by
  have decoded : Json.decode ('"' :: (text ++ ['"'])) =
      some (.string ((Json.join pieces).map .scalar)) :=
    Json.decode_eq_some_iff.mpr ⟨_, .string spelled, rfl, Nat.zero_le _⟩
  rw [unmarshalKey, decoded]
  dsimp only
  rw [GoString.text, List.map_map]
  exact congrArg (some ∘ String.ofList) (List.map_id _)

/-- A string that no colon follows is a value. -/
theorem uniqueKeysFrom_string {pieces : List Json.Piece} (spelled : Json.Body pieces text)
    (value : (Json.skip rest).head? ≠ some ':') :
    uniqueKeysFrom stack ('"' :: (text ++ '"' :: rest)) = uniqueKeysFrom stack rest := by
  rw [uniqueKeysFrom, if_neg (by decide), if_neg (by decide), if_pos rfl,
    uniqueKeysString_append spelled, List.nil_append, afterString, if_neg value]
  rfl

/-- A string before a colon is a name, and no object has a name twice. -/
theorem uniqueKeysFrom_name {pieces : List Json.Piece} {names : List String} {outer : List Open}
    {after : List Char} (spelled : Json.Body pieces text) (blanks : Json.Blank after) :
    uniqueKeysFrom (some names :: outer) ('"' :: (text ++ '"' :: (after ++ ':' :: rest))) = true ↔
      Json.keyText pieces ∉ names ∧
        uniqueKeysFrom (some (Json.keyText pieces :: names) :: outer) rest = true := by
  have colon : (Json.skip (after ++ ':' :: rest)).head? = some ':' := by
    rw [Json.skip_append blanks, Json.skip_cons (by decide)]
    rfl
  have passed : ∀ stack, uniqueKeysFrom stack (after ++ ':' :: rest) =
      uniqueKeysFrom stack rest := by
    intro stack
    rw [uniqueKeysFrom_append fun char member => .inl (blanks char member), uniqueKeysFrom_colon]
  rw [uniqueKeysFrom, if_neg (by decide), if_neg (by decide), if_pos rfl,
    uniqueKeysString_append spelled, List.nil_append, afterString, if_pos colon, declareKey,
    unmarshalKey_spelled spelled, Option.bind_some]
  by_cases known : Json.keyText pieces ∈ names
  · rw [if_pos known]
    exact ⟨nofun, fun fresh => absurd known fresh.1⟩
  · rw [if_neg known, Option.any_some, passed]
    exact (and_iff_right known).symm

/-- Names are fresh one after another. -/
theorem fresh_cons_iff {name : String} {others names : List String} :
    (name ∉ names ∧ others.Nodup ∧ ∀ key ∈ others, key ∉ name :: names) ↔
      (name :: others).Nodup ∧ ∀ key ∈ name :: others, key ∉ names := by
  rw [List.nodup_cons, List.forall_mem_cons]
  constructor
  · rintro ⟨unknown, nodup, fresh⟩
    exact ⟨⟨fun again => fresh name again (List.mem_cons_self ..), nodup⟩, unknown,
      fun key member known => fresh key member (List.mem_cons_of_mem _ known)⟩
  · rintro ⟨⟨single, nodup⟩, unknown, fresh⟩
    refine ⟨unknown, nodup, fun key member known => ?_⟩
    rcases List.mem_cons.mp known with rfl | earlier
    · exact single member
    · exact fresh key member earlier

theorem not_colon_cons (visible : Json.isBlank char = false) (other : char ≠ ':') :
    (Json.skip (char :: rest)).head? ≠ some ':' := by
  rw [Json.skip_cons visible]
  exact fun same => other (Option.some.inj same)

end Scan

/-! ## The scan of a document -/

section Document

mutual

/-- The scan of a value finds its repeated keys and leaves the stack as it was. -/
theorem uniqueKeysFrom_spells : ∀ {tree : Json.Tree} {text rest : List Char} {stack : List Open},
    Json.Spells tree text → stack.length + Json.depth tree.value ≤ maxStack →
      (Json.skip rest).head? ≠ some ':' →
      (uniqueKeysFrom stack (text ++ rest) = true ↔
        Distinct tree.value ∧ uniqueKeysFrom stack rest = true)
  | _, text, _, stack, .word read, _, _ => by
      obtain ⟨all, _, kind⟩ := Json.word_eq_some read
      rw [uniqueKeysFrom_append fun char member => .inr (List.all_eq_true.mp all char member)]
      refine (and_iff_right ?_).symm
      rcases kind with rfl | ⟨flag, rfl⟩ | ⟨number, rfl⟩ <;> exact trivial
  | _, _, rest, stack, .string spelled, _, value => by
      rw [List.cons_append, List.append_assoc]
      change uniqueKeysFrom stack ('"' :: (_ ++ '"' :: rest)) = true ↔ _
      rw [uniqueKeysFrom_string spelled value]
      exact (and_iff_right trivial).symm
  | _, _, rest, stack, .emptyArray blanks, shallow, _ => by
      have room : stack.length < maxStack := Nat.lt_of_succ_le shallow
      rw [List.cons_append, List.append_assoc, uniqueKeysFrom_openArray room,
        uniqueKeysFrom_append fun char member => .inl (blanks char member), List.cons_append,
        uniqueKeysFrom_close _ (.inr rfl)]
      exact (and_iff_right trivial).symm
  | _, _, rest, stack, @Json.Spells.array elements text spelled, shallow, _ => by
      rw [Json.Tree.value, Json.depth] at shallow
      have room : stack.length < maxStack := by omega
      rw [List.cons_append, List.append_assoc, uniqueKeysFrom_openArray room, List.cons_append,
        uniqueKeysFrom_spellsElements spelled (by rw [List.length_cons]; omega)
          (not_colon_cons (by decide) (by decide)), uniqueKeysFrom_close _ (.inr rfl)]
      rfl
  | _, _, rest, stack, .emptyObject blanks, shallow, _ => by
      have room : stack.length < maxStack := Nat.lt_of_succ_le shallow
      rw [List.cons_append, List.append_assoc, uniqueKeysFrom_openObject room,
        uniqueKeysFrom_append fun char member => .inl (blanks char member), List.cons_append,
        uniqueKeysFrom_close _ (.inl rfl)]
      exact (and_iff_right ⟨List.nodup_nil, trivial⟩).symm
  | _, _, rest, stack, @Json.Spells.object members text spelled, shallow, _ => by
      rw [Json.Tree.value, Json.depth] at shallow
      have room : stack.length < maxStack := by omega
      rw [List.cons_append, List.append_assoc, uniqueKeysFrom_openObject room, List.cons_append,
        uniqueKeysFrom_spellsMembers spelled (by omega) (not_colon_cons (by decide) (by decide)),
        uniqueKeysFrom_close _ (.inl rfl)]
      rw [Json.Tree.value, Distinct]
      simp [and_assoc]
  | _, _, _, _, .before blank spelled, shallow, value => by
      rw [List.cons_append, uniqueKeysFrom_plain (.inl blank),
        uniqueKeysFrom_spells spelled shallow value]
  | _, _, rest, _, .after blank spelled, shallow, value => by
      rw [List.append_assoc, uniqueKeysFrom_spells spelled shallow, List.cons_append,
        uniqueKeysFrom_plain (.inl blank), List.nil_append]
      rw [List.cons_append, List.nil_append, Json.skip_blank blank]
      exact value

theorem uniqueKeysFrom_spellsElements : ∀ {trees : List Json.Tree} {text rest : List Char}
    {stack : List Open}, Json.SpellsElements trees text →
      stack.length + Json.elementsDepth (Json.elementValues trees) ≤ maxStack →
      (Json.skip rest).head? ≠ some ':' →
      (uniqueKeysFrom stack (text ++ rest) = true ↔
        ElementsDistinct (Json.elementValues trees) ∧ uniqueKeysFrom stack rest = true)
  | _, _, _, _, .last spelled, shallow, value => by
      rw [Json.elementValues, Json.elementsDepth] at shallow
      rw [uniqueKeysFrom_spells spelled (by omega) value]
      simp [Json.elementValues, ElementsDistinct]
  | _, _, rest, _, .more spelled following, shallow, value => by
      rw [Json.elementValues, Json.elementsDepth] at shallow
      rw [List.append_assoc, List.cons_append,
        uniqueKeysFrom_spells spelled (by omega) (not_colon_cons (by decide) (by decide)),
        uniqueKeysFrom_comma, uniqueKeysFrom_spellsElements following (by omega) value,
        Json.elementValues, ElementsDistinct]
      exact and_assoc.symm

theorem uniqueKeysFrom_spellsMember : ∀ {member : List Json.Piece × Json.Tree}
    {text rest : List Char} {names : List String} {outer : List Open},
      Json.SpellsMember member text →
      outer.length + 1 + Json.depth member.2.value ≤ maxStack →
      (Json.skip rest).head? ≠ some ':' →
      (uniqueKeysFrom (some names :: outer) (text ++ rest) = true ↔
        (Json.keyText member.1 ∉ names ∧ Distinct member.2.value) ∧
          uniqueKeysFrom (some (Json.keyText member.1 :: names) :: outer) rest = true)
  | _, _, rest, names, outer, .mk blankBefore named blankAfter spelled, shallow, value => by
      simp only [List.append_assoc, List.cons_append]
      rw [uniqueKeysFrom_append fun char member => .inl (blankBefore char member),
        uniqueKeysFrom_name named blankAfter,
        uniqueKeysFrom_spells spelled (by rw [List.length_cons]; exact shallow) value]
      exact and_assoc.symm

theorem uniqueKeysFrom_spellsMembers : ∀ {members : List (List Json.Piece × Json.Tree)}
    {text rest : List Char} {names : List String} {outer : List Open},
      Json.SpellsMembers members text →
      outer.length + 1 + Json.membersDepth (Json.memberValues members) ≤ maxStack →
      (Json.skip rest).head? ≠ some ':' →
      (uniqueKeysFrom (some names :: outer) (text ++ rest) = true ↔
        (((Json.memberValues members).map Prod.fst).Nodup ∧
          ∀ key ∈ (Json.memberValues members).map Prod.fst, key ∉ names) ∧
          MembersDistinct (Json.memberValues members) ∧
          uniqueKeysFrom
            (some (((Json.memberValues members).map Prod.fst).reverse ++ names) :: outer)
            rest = true)
  | _, _, _, _, _, .last spelled, shallow, value => by
      rw [Json.memberValues, Json.membersDepth] at shallow
      dsimp only at shallow
      rw [uniqueKeysFrom_spellsMember spelled (by omega) value]
      simp [Json.memberValues, MembersDistinct, and_assoc]
  | _, _, rest, names, outer, @Json.SpellsMembers.more member others _ _ spelled following,
      shallow, value => by
      rw [Json.memberValues, Json.membersDepth] at shallow
      dsimp only at shallow
      rw [List.append_assoc, List.cons_append,
        uniqueKeysFrom_spellsMember spelled (by omega) (not_colon_cons (by decide) (by decide)),
        uniqueKeysFrom_comma, uniqueKeysFrom_spellsMembers following (by omega) value,
        Json.memberValues, MembersDistinct, List.map_cons, List.reverse_cons, List.append_assoc,
        List.singleton_append, ← fresh_cons_iff]
      simp only [and_assoc, and_left_comm]

end

variable {tree : Json.Tree} {data : GoString}

/-- No request is nested deeper than the stack. -/
theorem contextRequestUniqueKeys_iff (small : data.byteLength ≤ 256)
    (spelled : Json.Spells tree (data.map Rune.char)) :
    contextRequestUniqueKeys (data.map Rune.char) = true ↔ Distinct tree.value := by
  have shallow : Json.depth tree.value ≤ maxStack := by
    have levels := spelled.two_mul_depth_le
    have short := GoString.length_le_byteLength data
    rw [List.length_map] at levels
    change _ ≤ 128
    omega
  have scanned := @uniqueKeysFrom_spells tree _ [] [] spelled
    (by rw [List.length_nil, Nat.zero_add]; exact shallow) nofun
  rw [List.append_nil] at scanned
  exact scanned.trans (and_iff_left rfl)

end Document

/-! ## What is accepted -/

section Accepted

theorem bind_ne_invalid {result : Except JsonError Nat} {next : Nat → Except JsonError Nat}
    (first : result ≠ .error .invalid) (others : ∀ count, next count ≠ .error .invalid) :
    result.bind next ≠ .error .invalid := by
  cases result with
  | error problem => exact fun same => first same
  | ok count => exact others count

mutual

/-- Without repeated keys, only the budget is exceeded. -/
theorem read_ne_invalid {maxDepth maxTokens : Nat} : ∀ (value : JsonValue) {depth count : Nat},
    Distinct value → read maxDepth maxTokens depth value count ≠ .error .invalid
  | .null, _, _, _ | .bool _, _, _, _ | .number _, _, _, _ | .string _, _, _, _ => by
      change (if _ then _ else _) ≠ _
      split <;> nofun
  | .array elements, depth, count, distinct => by
      have inside := @readElements_ne_invalid maxDepth maxTokens elements (depth + 1) (count + 1)
        distinct
      rw [read]
      split
      · nofun
      · refine bind_ne_invalid inside fun count => ?_
        split <;> nofun
  | .object members, depth, count, distinct => by
      have inside := @readMembers_ne_invalid maxDepth maxTokens members (depth + 1) (count + 1) []
        distinct.1 (fun _ _ => List.not_mem_nil) distinct.2
      rw [read]
      split
      · nofun
      · refine bind_ne_invalid inside fun count => ?_
        split <;> nofun

theorem readElements_ne_invalid {maxDepth maxTokens : Nat} : ∀ (elements : List JsonValue)
    {depth count : Nat}, ElementsDistinct elements →
      readElements maxDepth maxTokens depth elements count ≠ .error .invalid
  | [], _, _, _ => nofun
  | first :: rest, depth, count, distinct => by
      have head := @read_ne_invalid maxDepth maxTokens first depth count distinct.1
      exact bind_ne_invalid head fun _ => readElements_ne_invalid rest distinct.2

theorem readMembers_ne_invalid {maxDepth maxTokens : Nat} : ∀ (members : List (String × JsonValue))
    {depth count : Nat} {seen : List String}, (members.map Prod.fst).Nodup →
      (∀ key ∈ members.map Prod.fst, key ∉ seen) → MembersDistinct members →
      readMembers maxDepth maxTokens depth seen members count ≠ .error .invalid
  | [], _, _, _, _, _, _ => nofun
  | first :: rest, depth, count, seen, nodup, fresh, distinct => by
      obtain ⟨unseen, nodup, fresh⟩ := fresh_cons_iff.mpr ⟨nodup, fresh⟩
      have head := @read_ne_invalid maxDepth maxTokens first.2 depth (count + 1) distinct.1
      rw [readMembers, if_neg unseen]
      split
      · nofun
      · exact bind_ne_invalid head fun _ => readMembers_ne_invalid rest nodup fresh distinct.2

end

variable {net : NetLibrary} {data : GoString} {value : JsonValue} {address : GoString}

theorem requestAddress_eq_some_iff : requestAddress net value = some address ↔
    value = .object [("address", .string address)] ∧ validContextAddress net address = true := by
  constructor
  · intro taken
    unfold requestAddress at taken
    split at taken
    · rename_i members
      split at taken
      · cases taken
      · rename_i single
        obtain ⟨⟨key, inner⟩, rfl⟩ := List.length_eq_one_iff.mp (not_not.mp single)
        split at taken
        · rename_i found lookup
          split at taken
          · rename_i valid
            cases taken
            rw [List.lookup_cons, List.lookup_nil] at lookup
            split at lookup
            · rename_i known
              cases lookup
              rw [← eq_of_beq known]
              exact ⟨rfl, valid⟩
            · cases lookup
          · cases taken
        · cases taken
    · cases taken
  · rintro ⟨rfl, valid⟩
    simp [requestAddress, valid]

/-- UTF-8 that spells the value, with paired surrogates and without repeated
names. -/
def WellFormed (data : GoString) (value : JsonValue) : Prop :=
  data.isValid = true ∧ Distinct value ∧
    ∃ tree, Json.Spells tree (data.map Rune.char) ∧ tree.Paired ∧ tree.value = value

theorem parseIPContextRequest_of_wellFormed (small : data.byteLength ≤ 256)
    (wellFormed : WellFormed data value) :
    ParseIPContextRequest net data = (requestAddress net value).elim (.error .invalid) .ok := by
  obtain ⟨valid, distinct, tree, spelled, paired, rfl⟩ := wellFormed
  have shallow : Json.depth tree.value ≤ Json.maxNestingDepth := by
    have levels := spelled.two_mul_depth_le
    have short := GoString.length_le_byteLength data
    rw [List.length_map] at levels
    rw [Json.maxNestingDepth]
    omega
  have decoded := Json.decode_eq_some_iff.mpr ⟨tree, spelled, rfl, shallow⟩
  have escapes := (validJSONSurrogateEscapes_iff spelled).mpr paired
  have unique := (contextRequestUniqueKeys_iff small spelled).mpr distinct
  unfold ParseIPContextRequest ipContextJSON
  dsimp only
  rw [if_neg (not_lt.mpr small), valid, escapes, decoded, unique]
  dsimp only [Option.isNone_some]
  rw [if_neg (by decide), if_neg (by decide)]
  cases admitted : read 2 4 1 tree.value 0 with
  | ok count => rfl
  | error problem =>
      cases problem with
      | invalid => exact absurd admitted (read_ne_invalid _ distinct)
      | budget =>
          cases taken : requestAddress net tree.value with
          | none => rfl
          | some address =>
              obtain ⟨object, _⟩ := requestAddress_eq_some_iff.mp taken
              rw [object] at admitted
              cases admitted

theorem parseIPContextRequest_of_not_wellFormed (small : data.byteLength ≤ 256)
    (malformed : ¬ ∃ value, WellFormed data value) :
    ParseIPContextRequest net data = .error .json := by
  unfold ParseIPContextRequest
  dsimp only
  rw [if_neg (not_lt.mpr small), if_pos]
  by_contra passed
  rw [Bool.or_eq_true, Bool.or_eq_true, Bool.or_eq_true, not_or, not_or, not_or] at passed
  obtain ⟨⟨⟨valid, escapes⟩, decodes⟩, unique⟩ := passed
  rw [Bool.not_eq_true, Bool.not_eq_false'] at valid escapes unique
  cases decoded : Json.decode (data.map Rune.char) with
  | none =>
      rw [decoded] at decodes
      exact decodes rfl
  | some value =>
      obtain ⟨tree, spelled, rfl, _⟩ := Json.decode_eq_some_iff.mp decoded
      exact malformed ⟨tree.value, valid, (contextRequestUniqueKeys_iff small spelled).mp unique,
        tree, spelled, (validJSONSurrogateEscapes_iff spelled).mp escapes, rfl⟩

theorem WellFormed.unique {other : JsonValue} (small : data.byteLength ≤ 256)
    (first : WellFormed data value) (second : WellFormed data other) : value = other := by
  have decoded : ∀ {value}, WellFormed data value →
      Json.decode (data.map Rune.char) = some value := by
    rintro _ ⟨_, _, tree, spelled, _, rfl⟩
    have levels := spelled.two_mul_depth_le
    have short := GoString.length_le_byteLength data
    rw [List.length_map] at levels
    refine Json.decode_eq_some_iff.mpr ⟨tree, spelled, rfl, ?_⟩
    rw [Json.maxNestingDepth]
    omega
  exact Option.some.inj ((decoded first).symm.trans (decoded second))

end Accepted

/-- The scan finds exactly the repeated names of a JSON text, and a request is
accepted, malformed or invalid as its value says. -/
theorem parseIPContextRequest_classifies (net : NetLibrary) (data : GoString) :
    (data.byteLength ≤ 256 → ∀ tree, Json.Spells tree (data.map Rune.char) →
      (contextRequestUniqueKeys (data.map Rune.char) = true ↔ Distinct tree.value)) ∧
    (∀ address, ParseIPContextRequest net data = .ok address ↔
      data.byteLength ≤ 256 ∧ WellFormed data (.object [("address", .string address)]) ∧
        validContextAddress net address = true) ∧
    (ParseIPContextRequest net data = .error .json ↔
      data.byteLength ≤ 256 ∧ ¬ ∃ value, WellFormed data value) ∧
    (ParseIPContextRequest net data = .error .invalid ↔
      256 < data.byteLength ∨ ∃ value, WellFormed data value ∧
        ∀ address, value = .object [("address", .string address)] →
          validContextAddress net address = false) := by
  refine ⟨fun small tree spelled => contextRequestUniqueKeys_iff small spelled, ?_⟩
  rcases Nat.lt_or_ge 256 data.byteLength with large | small
  · have refused : ParseIPContextRequest net data = .error .invalid := by
      unfold ParseIPContextRequest
      dsimp only
      rw [if_pos large]
    rw [refused]
    exact ⟨fun address => ⟨nofun, fun accepted => absurd large (not_lt.mpr accepted.1)⟩,
      ⟨nofun, fun malformed => absurd large (not_lt.mpr malformed.1)⟩, fun _ => .inl large,
      fun _ => rfl⟩
  · by_cases malformed : ∃ value, WellFormed data value
    · obtain ⟨value, wellFormed⟩ := malformed
      rw [parseIPContextRequest_of_wellFormed small wellFormed]
      refine ⟨fun address => ?_, ⟨?_, fun malformed => absurd ⟨value, wellFormed⟩ malformed.2⟩,
        ?_, ?_⟩
      · constructor
        · intro accepted
          cases taken : requestAddress net value with
          | none =>
              rw [taken] at accepted
              cases accepted
          | some found =>
              rw [taken] at accepted
              cases accepted
              obtain ⟨rfl, valid⟩ := requestAddress_eq_some_iff.mp taken
              exact ⟨small, wellFormed, valid⟩
        · rintro ⟨_, single, valid⟩
          rw [requestAddress_eq_some_iff.mpr ⟨wellFormed.unique small single, valid⟩]
          rfl
      · cases requestAddress net value <;> nofun
      · intro refused
        refine .inr ⟨value, wellFormed, fun address single => ?_⟩
        by_contra valid
        rw [requestAddress_eq_some_iff.mpr ⟨single, Bool.eq_true_of_not_eq_false valid⟩] at refused
        cases refused
      · rintro (large | ⟨other, otherFormed, invalid⟩)
        · exact absurd large (not_lt.mpr small)
        · cases taken : requestAddress net value with
          | none => rfl
          | some address =>
              obtain ⟨single, valid⟩ := requestAddress_eq_some_iff.mp taken
              have refused := invalid address ((otherFormed.unique small wellFormed).trans single)
              rw [valid] at refused
              cases refused
    · rw [parseIPContextRequest_of_not_wellFormed small malformed]
      exact ⟨fun address => ⟨nofun, fun accepted => absurd ⟨_, accepted.2.1⟩ malformed⟩,
        ⟨fun _ => ⟨small, malformed⟩, fun _ => rfl⟩, nofun, fun refused => by
          rcases refused with large | ⟨value, wellFormed, _⟩
          · exact absurd large (not_lt.mpr small)
          · exact absurd ⟨value, wellFormed⟩ malformed⟩

end CheckNetwork.Context
