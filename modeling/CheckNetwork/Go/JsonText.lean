import CheckNetwork.Go.Json

/-!
# JSON values

A JSON value as a decoder presents it that keeps numbers as they are spelled,
the text that `encoding/json` writes for it, and the value that it reads.
-/

namespace CheckNetwork.Go

/-- `json.Number`. -/
structure JsonNumber where
  text : List Char
  valid : text.all Json.isWordChar ∧ Json.isNumber text
  deriving DecidableEq

/-- What a decoder presents, with the members of objects in their order. -/
inductive JsonValue
  | null
  | bool (value : Bool)
  | number (value : JsonNumber)
  | string (text : GoString)
  | array (elements : List JsonValue)
  | object (members : List (String × JsonValue))

namespace Json

/-! ## Writing -/

mutual

/-- `json.Marshal`, for a value whose members are in the order in which they are
written. -/
def encode : JsonValue → List Char
  | .null => "null".toList
  | .bool value => if value then "true".toList else "false".toList
  | .number value => value.text
  | .string text => quote text
  | .array elements => '[' :: (encodeElements elements ++ [']'])
  | .object members => '{' :: (encodeMembers members ++ ['}'])

def encodeElements : List JsonValue → List Char
  | [] => []
  | [last] => encode last
  | first :: second :: rest => encode first ++ ',' :: encodeElements (second :: rest)

def encodeMembers : List (String × JsonValue) → List Char
  | [] => []
  | [last] => quote (.ofString last.1) ++ ':' :: encode last.2
  | first :: second :: rest =>
      quote (.ofString first.1) ++ ':' :: (encode first.2 ++ ',' :: encodeMembers (second :: rest))

end

/-! ## Reading strings -/

/-- The body of a string up to its closing quote, with its escapes. -/
def scanString : List Char → Option (List Char × List Char)
  | [] => none
  | [last] => if last = '"' then some ([], []) else none
  | first :: second :: rest =>
      if first = '"' then some ([], second :: rest)
      else if first = '\\' then
        (scanString rest).map fun scanned => (first :: second :: scanned.1, scanned.2)
      else if first.toNat < 0x20 then none
      else (scanString (second :: rest)).map fun scanned => (first :: scanned.1, scanned.2)

/-- A character of a body, or a number that it spells. -/
inductive Piece
  | char (char : Char)
  | unit (value : Nat)

def hexValue (char : Char) : Option Nat :=
  if isDigit char then some (char.toNat - '0'.toNat)
  else if 'a' ≤ char ∧ char ≤ 'f' then some (char.toNat - 'a'.toNat + 10)
  else if 'A' ≤ char ∧ char ≤ 'F' then some (char.toNat - 'A'.toNat + 10)
  else none

def hexQuad (first second third fourth : Char) : Option Nat := do
  let first ← hexValue first
  let second ← hexValue second
  let third ← hexValue third
  let fourth ← hexValue fourth
  pure (first * 4096 + second * 256 + third * 16 + fourth)

/-- The character of a short escape. -/
def unescape (letter : Char) : Option Char :=
  if letter = '"' ∨ letter = '\\' ∨ letter = '/' then some letter
  else if letter = 'b' then some '\x08'
  else if letter = 'f' then some '\x0c'
  else if letter = 'n' then some '\n'
  else if letter = 'r' then some '\r'
  else if letter = 't' then some '\t'
  else none

def pieces : List Char → Option (List Piece)
  | [] => some []
  | '\\' :: 'u' :: first :: second :: third :: fourth :: rest => do
      let value ← hexQuad first second third fourth
      let following ← pieces rest
      pure (.unit value :: following)
  | '\\' :: letter :: rest => do
      let char ← unescape letter
      let following ← pieces rest
      pure (.char char :: following)
  | char :: rest => (pieces rest).map (.char char :: ·)

def isHighSurrogate (value : Nat) : Bool := 0xD800 ≤ value && value ≤ 0xDBFF

def isLowSurrogate (value : Nat) : Bool := 0xDC00 ≤ value && value ≤ 0xDFFF

/-- The text of the pieces.  A surrogate that is not part of a pair is replaced. -/
def join : List Piece → List Char
  | [] => []
  | .char char :: rest => char :: join rest
  | [.unit value] =>
      [if isHighSurrogate value || isLowSurrogate value then '\uFFFD' else Char.ofNat value]
  | .unit value :: .char char :: rest =>
      (if isHighSurrogate value || isLowSurrogate value then '\uFFFD' else Char.ofNat value) ::
        char :: join rest
  | .unit value :: .unit next :: rest =>
      if isHighSurrogate value && isLowSurrogate next then
        Char.ofNat (0x10000 + (value - 0xD800) * 0x400 + (next - 0xDC00)) :: join rest
      else
        (if isHighSurrogate value || isLowSurrogate value then '\uFFFD' else Char.ofNat value) ::
          join (.unit next :: rest)

/-- A string whose opening quote was read. -/
def readString (text : List Char) : Option (List Char × List Char) := do
  let scanned ← scanString text
  let body ← pieces scanned.1
  pure (join body, scanned.2)

/-! ## Reading values -/

def isBlank (char : Char) : Bool := char = ' ' ∨ char = '\t' ∨ char = '\n' ∨ char = '\r'

def skip (text : List Char) : List Char := text.dropWhile isBlank

/-- A number or one of the words `null`, `true` and `false`. -/
def word (text : List Char) : Option JsonValue :=
  if text = "null".toList then some .null
  else if text = "true".toList then some (.bool true)
  else if text = "false".toList then some (.bool false)
  else if valid : text.all isWordChar ∧ isNumber text then some (.number ⟨text, valid⟩)
  else none

def readWord (text : List Char) : Option (JsonValue × List Char) :=
  (word (text.takeWhile isWordChar)).map fun value => (value, text.dropWhile isWordChar)

mutual

/-- Read a value.  Every call below another one has consumed at least a
character on every second level, so that twice the length is fuel enough. -/
def readValue : Nat → List Char → Option (JsonValue × List Char)
  | 0, _ => none
  | fuel + 1, text =>
      match skip text with
      | [] => none
      | first :: rest =>
          if first = '"' then
            (readString rest).map fun read => (.string (read.1.map .scalar), read.2)
          else if first = '[' then
            match skip rest with
            | [] => none
            | next :: after =>
                if next = ']' then some (.array [], after)
                else (readElements fuel (next :: after)).map fun read => (.array read.1, read.2)
          else if first = '{' then
            match skip rest with
            | [] => none
            | next :: after =>
                if next = '}' then some (.object [], after)
                else (readMembers fuel (next :: after)).map fun read => (.object read.1, read.2)
          else readWord (first :: rest)

def readElements : Nat → List Char → Option (List JsonValue × List Char)
  | 0, _ => none
  | fuel + 1, text =>
      (readValue fuel text).bind fun first =>
        match skip first.2 with
        | [] => none
        | next :: rest =>
            if next = ',' then
              (readElements fuel rest).map fun others => (first.1 :: others.1, others.2)
            else if next = ']' then some ([first.1], rest)
            else none

def readMembers : Nat → List Char → Option (List (String × JsonValue) × List Char)
  | 0, _ => none
  | fuel + 1, text =>
      match skip text with
      | [] => none
      | opening :: afterOpening =>
          if opening ≠ '"' then none
          else
            (readString afterOpening).bind fun key =>
              match skip key.2 with
              | [] => none
              | colon :: afterColon =>
                  if colon ≠ ':' then none
                  else
                    (readValue fuel afterColon).bind fun value =>
                      match skip value.2 with
                      | [] => none
                      | next :: rest =>
                          if next = ',' then
                            (readMembers fuel rest).map fun others =>
                              ((String.ofList key.1, value.1) :: others.1, others.2)
                          else if next = '}' then
                            some ([(String.ofList key.1, value.1)], rest)
                          else none

end

mutual

/-- How deep arrays and objects are nested. -/
def depth : JsonValue → Nat
  | .array elements => elementsDepth elements + 1
  | .object members => membersDepth members + 1
  | _ => 0

def elementsDepth : List JsonValue → Nat
  | [] => 0
  | first :: rest => max (depth first) (elementsDepth rest)

def membersDepth : List (String × JsonValue) → Nat
  | [] => 0
  | first :: rest => max (depth first.2) (membersDepth rest)

end

def maxNestingDepth : Nat := 10000

/-- The one value of a text.  No value is nested deeper than a scanner allows. -/
def decode (text : List Char) : Option JsonValue := do
  let read ← readValue (2 * text.length + 2) text
  if skip read.2 = [] ∧ depth read.1 ≤ maxNestingDepth then pure read.1 else none

mutual

/-- A value with every byte that is not text replaced. -/
def clean : JsonValue → JsonValue
  | .string text => .string (text.map fun rune => .scalar rune.char)
  | .array elements => .array (cleanElements elements)
  | .object members => .object (cleanMembers members)
  | value => value

def cleanElements : List JsonValue → List JsonValue
  | [] => []
  | first :: rest => clean first :: cleanElements rest

def cleanMembers : List (String × JsonValue) → List (String × JsonValue)
  | [] => []
  | first :: rest => (first.1, clean first.2) :: cleanMembers rest

end

/-! ## Strings are read back -/

section Strings

theorem hexDigit_spec (value : Nat) (small : value < 16) :
    hexValue (hexDigit value) = some value ∧ hexDigit value ≠ '"' ∧ hexDigit value ≠ '\\' ∧
      0x20 ≤ (hexDigit value).toNat := by
  revert value
  decide

theorem hexQuad_unicodeEscape {value : Nat} (small : value < 65536) :
    hexQuad (hexDigit (value / 4096 % 16)) (hexDigit (value / 256 % 16))
      (hexDigit (value / 16 % 16)) (hexDigit (value % 16)) = some value := by
  have digit : ∀ number, hexValue (hexDigit (number % 16)) = some (number % 16) :=
    fun number => (hexDigit_spec _ (Nat.mod_lt _ (by decide))).1
  simp only [hexQuad, digit, Option.bind_eq_bind, Option.bind_some, Option.pure_def,
    Option.some.injEq]
  omega

/-- A short escape is read back. -/
theorem unescape_shortEscape {char letter : Char} (short : shortEscape char = some letter) :
    unescape letter = some char ∧ letter ≠ 'u' := by
  unfold shortEscape at short
  split at short
  · rename_i own
    cases Option.some.inj short
    rcases own with rfl | rfl <;> decide
  · repeat' split at short
    all_goals cases short
    all_goals rename_i same; rw [same]; decide

theorem lt_of_isNumbered {char : Char} (numbered : isNumbered char = true) :
    char.toNat < 65536 := by
  rcases of_decide_eq_true numbered with small | rfl | rfl | rfl | rfl | rfl
  · omega
  all_goals decide

/-- The three ways in which a rune is written. -/
inductive Quoted (char : Char) : List Char → Prop
  | short (letter : Char) (read : unescape letter = some char) (other : letter ≠ 'u') :
      Quoted char ['\\', letter]
  | number (small : char.toNat < 65536) : Quoted char (unicodeEscape char.toNat)
  | plain (noQuote : char ≠ '"') (noEscape : char ≠ '\\') (visible : ¬ char.toNat < 0x20) :
      Quoted char [char]

theorem quoted_quotedChar (char : Char) : Quoted char (quotedChar char) := by
  unfold quotedChar
  split
  · rename_i letter short
    have read := unescape_shortEscape short
    exact .short letter read.1 read.2
  · rename_i plain
    split
    · rename_i numbered
      exact .number (lt_of_isNumbered numbered)
    · rename_i verbatim
      have escapes : ¬ (char = '\\' ∨ char = '"') := by
        intro own
        rw [shortEscape, if_pos own] at plain
        cases plain
      exact .plain (fun same => escapes (.inr same)) (fun same => escapes (.inl same))
        fun low => verbatim (decide_eq_true (.inl low))

theorem quoted_quotedRune : ∀ rune : Rune, Quoted rune.char (quotedRune rune)
  | .scalar char => quoted_quotedChar char
  | .invalid _ => .number (by decide : '\uFFFD'.toNat < 65536)

variable {char : Char} {written rest : List Char}

theorem scanString_append (quoted : Quoted char written) (more : rest ≠ []) :
    scanString (written ++ rest) =
      (scanString rest).map fun scanned => (written ++ scanned.1, scanned.2) := by
  obtain ⟨next, after, rfl⟩ := List.exists_cons_of_ne_nil more
  cases quoted with
  | short letter =>
      simp [scanString]
  | number =>
      have digit : ∀ number, _ := fun number => hexDigit_spec (number % 16) (Nat.mod_lt _ (by decide))
      have step : ∀ number text, text ≠ [] → scanString (hexDigit (number % 16) :: text) =
          (scanString text).map fun scanned => (hexDigit (number % 16) :: scanned.1, scanned.2) := by
        intro number text nonempty
        obtain ⟨second, others, rfl⟩ := List.exists_cons_of_ne_nil nonempty
        obtain ⟨_, noQuote, noEscape, visible⟩ := digit number
        rw [scanString, if_neg noQuote, if_neg noEscape, if_neg (Nat.not_lt.mpr visible)]
      simp only [unicodeEscape, List.cons_append, List.nil_append]
      rw [scanString, if_neg (by decide), if_pos rfl, step _ _ (by simp), step _ _ (by simp),
        step _ _ (by simp), step _ _ (by simp)]
      simp [Function.comp_def]
  | plain noQuote noEscape visible =>
      simp [scanString, noQuote, noEscape, visible]

theorem scanString_quote (text : GoString) (rest : List Char) :
    scanString (text.flatMap quotedRune ++ '"' :: rest) =
      some (text.flatMap quotedRune, rest) := by
  induction text with
  | nil =>
      cases rest <;> simp [scanString]
  | cons rune text ih =>
      rw [List.flatMap_cons, List.append_assoc,
        scanString_append (quoted_quotedRune rune) (by simp), ih]
      rfl

theorem join_unit (value : Nat) (following : List Piece)
    (plain : (isHighSurrogate value || isLowSurrogate value) = false) :
    join (.unit value :: following) = Char.ofNat value :: join following := by
  obtain ⟨notHigh, notLow⟩ := Bool.or_eq_false_iff.mp plain
  rcases following with _ | ⟨_ | next, following⟩ <;> simp [join, notHigh, notLow]

theorem not_surrogate_toNat (char : Char) :
    (isHighSurrogate char.toNat || isLowSurrogate char.toNat) = false := by
  have valid : char.toNat < 0xD800 ∨ (0xDFFF < char.toNat ∧ char.toNat < 0x110000) := char.valid
  simp only [isHighSurrogate, isLowSurrogate, Bool.or_eq_false_iff, Bool.and_eq_false_iff,
    decide_eq_false_iff_not]
  omega

/-- A rune is one piece of a body. -/
theorem pieces_append (quoted : Quoted char written) {following : List Piece}
    (read : pieces rest = some following) :
    ∃ whole, pieces (written ++ rest) = some whole ∧ join whole = char :: join following := by
  cases quoted with
  | short letter own other =>
      refine ⟨.char char :: following, ?_, rfl⟩
      rw [List.cons_append, List.cons_append, List.nil_append, pieces]
      · rw [own, read]
        rfl
      · intro _ _ _ _ _ same
        exact absurd same other
  | number small =>
      refine ⟨.unit char.toNat :: following, ?_, ?_⟩
      · simp only [unicodeEscape, List.cons_append, List.nil_append]
        rw [pieces, hexQuad_unicodeEscape small, read]
        rfl
      · rw [join_unit _ _ (not_surrogate_toNat char), Char.ofNat_toNat]
  | plain noQuote noEscape visible =>
      refine ⟨.char char :: following, ?_, rfl⟩
      rw [List.cons_append, List.nil_append, pieces, read]
      · rfl
      · intro _ _ _ _ _ same
        exact absurd same noEscape
      · intro _ _ same
        exact absurd same noEscape

theorem join_pieces (text : GoString) :
    ∃ whole, pieces (text.flatMap quotedRune) = some whole ∧ join whole = text.map Rune.char := by
  induction text with
  | nil => exact ⟨[], rfl, rfl⟩
  | cons rune text ih =>
      obtain ⟨following, read, joined⟩ := ih
      obtain ⟨whole, readWhole, joinedWhole⟩ := pieces_append (quoted_quotedRune rune) read
      exact ⟨whole, readWhole, by rw [joinedWhole, joined, List.map_cons]⟩

/-- A written string is read back. -/
theorem readString_quote (text : GoString) (rest : List Char) :
    readString (text.flatMap quotedRune ++ '"' :: rest) = some (text.map Rune.char, rest) := by
  obtain ⟨whole, read, joined⟩ := join_pieces text
  simp [readString, scanString_quote, read, joined]

end Strings

end Json
end CheckNetwork.Go
