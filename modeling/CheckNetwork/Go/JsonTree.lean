import CheckNetwork.Go.JsonRoundTrip

/-!
# The grammar of JSON

A text spells a tree of values.  The tree keeps the pieces of every string, so
that a reader may say what it makes of escapes, and `encoding/json` reads the
value of the tree from exactly the texts that spell one.
-/

namespace CheckNetwork.Go.Json

/-- A value as it is spelled.  A word is a number, a boolean or `null`. -/
inductive Tree
  | word (value : JsonValue)
  | string (body : List Piece)
  | array (elements : List Tree)
  | object (members : List (List Piece × Tree))

/-! ## Spellings -/

/-- The spelling of a string between its quotes. -/
inductive Body : List Piece → List Char → Prop
  | nil : Body [] []
  | plain {char : Char} {body : List Piece} {text : List Char} (noQuote : char ≠ '"')
      (noEscape : char ≠ '\\') (visible : ¬ char.toNat < 0x20) (rest : Body body text) :
      Body (.char char :: body) (char :: text)
  | short {letter char : Char} {body : List Piece} {text : List Char}
      (read : unescape letter = some char) (rest : Body body text) :
      Body (.char char :: body) ('\\' :: letter :: text)
  | unit {first second third fourth : Char} {value : Nat} {body : List Piece} {text : List Char}
      (read : hexQuad first second third fourth = some value) (rest : Body body text) :
      Body (.unit value :: body) ('\\' :: 'u' :: first :: second :: third :: fourth :: text)

/-- Nothing but blanks. -/
def Blank (text : List Char) : Prop := ∀ char ∈ text, isBlank char = true

mutual

/-- A value with blanks around it. -/
inductive Spells : Tree → List Char → Prop
  | word {value : JsonValue} {text : List Char} (read : word text = some value) :
      Spells (.word value) text
  | string {body : List Piece} {text : List Char} (spelled : Body body text) :
      Spells (.string body) ('"' :: (text ++ ['"']))
  | emptyArray {blank : List Char} (blanks : Blank blank) : Spells (.array []) ('[' :: (blank ++ [']']))
  | array {elements : List Tree} {text : List Char} (spelled : SpellsElements elements text) :
      Spells (.array elements) ('[' :: (text ++ [']']))
  | emptyObject {blank : List Char} (blanks : Blank blank) :
      Spells (.object []) ('{' :: (blank ++ ['}']))
  | object {members : List (List Piece × Tree)} {text : List Char}
      (spelled : SpellsMembers members text) : Spells (.object members) ('{' :: (text ++ ['}']))
  | before {char : Char} {tree : Tree} {text : List Char} (blank : isBlank char = true)
      (spelled : Spells tree text) : Spells tree (char :: text)
  | after {char : Char} {tree : Tree} {text : List Char} (blank : isBlank char = true)
      (spelled : Spells tree text) : Spells tree (text ++ [char])

inductive SpellsElements : List Tree → List Char → Prop
  | last {tree : Tree} {text : List Char} (spelled : Spells tree text) :
      SpellsElements [tree] text
  | more {tree : Tree} {others : List Tree} {text rest : List Char} (spelled : Spells tree text)
      (following : SpellsElements others rest) :
      SpellsElements (tree :: others) (text ++ ',' :: rest)

inductive SpellsMembers : List (List Piece × Tree) → List Char → Prop
  | last {member : List Piece × Tree} {text : List Char} (spelled : SpellsMember member text) :
      SpellsMembers [member] text
  | more {member : List Piece × Tree} {others : List (List Piece × Tree)} {text rest : List Char}
      (spelled : SpellsMember member text) (following : SpellsMembers others rest) :
      SpellsMembers (member :: others) (text ++ ',' :: rest)

/-- A key, a colon and a value. -/
inductive SpellsMember : List Piece × Tree → List Char → Prop
  | mk {key : List Piece} {tree : Tree} {before name after text : List Char}
      (blankBefore : Blank before) (named : Body key name) (blankAfter : Blank after)
      (spelled : Spells tree text) :
      SpellsMember (key, tree) (before ++ '"' :: (name ++ '"' :: (after ++ ':' :: text)))

end

/-! ## Values -/

/-- The key that a decoder finds. -/
def keyText (key : List Piece) : String := String.ofList (join key)

mutual

/-- The value that a decoder presents. -/
def Tree.value : Tree → JsonValue
  | .word value => value
  | .string body => .string ((join body).map .scalar)
  | .array elements => .array (elementValues elements)
  | .object members => .object (memberValues members)

def elementValues : List Tree → List JsonValue
  | [] => []
  | first :: rest => first.value :: elementValues rest

def memberValues : List (List Piece × Tree) → List (String × JsonValue)
  | [] => []
  | first :: rest => (keyText first.1, first.2.value) :: memberValues rest

end

/-! ## Escapes -/

/-- Every escape of a surrogate is half of a pair, the high one first. -/
inductive Paired : List Piece → Prop
  | nil : Paired []
  | char {char : Char} {body : List Piece} (rest : Paired body) : Paired (.char char :: body)
  | unit {value : Nat} {body : List Piece}
      (plain : (isHighSurrogate value || isLowSurrogate value) = false) (rest : Paired body) :
      Paired (.unit value :: body)
  | pair {high low : Nat} {body : List Piece} (first : isHighSurrogate high = true)
      (second : isLowSurrogate low = true) (rest : Paired body) :
      Paired (.unit high :: .unit low :: body)

mutual

def Tree.Paired : Tree → Prop
  | .word _ => True
  | .string body => Json.Paired body
  | .array elements => ElementsPaired elements
  | .object members => MembersPaired members

def ElementsPaired : List Tree → Prop
  | [] => True
  | first :: rest => first.Paired ∧ ElementsPaired rest

def MembersPaired : List (List Piece × Tree) → Prop
  | [] => True
  | first :: rest => (Json.Paired first.1 ∧ first.2.Paired) ∧ MembersPaired rest

end

/-! ## Blanks -/

section Blanks

variable {text rest : List Char} {char : Char}

theorem blank_nil : Blank [] := nofun

theorem Blank.cons (blank : isBlank char = true) (blanks : Blank text) : Blank (char :: text) := by
  intro other member
  rcases List.mem_cons.mp member with rfl | inside
  · exact blank
  · exact blanks other inside

theorem skip_append (blanks : Blank text) (rest : List Char) : skip (text ++ rest) = skip rest :=
  List.dropWhile_append_of_pos blanks

theorem skip_blank (blank : isBlank char = true) (rest : List Char) :
    skip (char :: rest) = skip rest :=
  skip_append (blank_nil.cons blank) rest

/-- What is skipped is blank. -/
theorem exists_blank (text : List Char) : ∃ blank, Blank blank ∧ text = blank ++ skip text :=
  ⟨text.takeWhile isBlank, List.all_eq_true.mp List.all_takeWhile,
    List.takeWhile_append_dropWhile.symm⟩

theorem skip_skip (text : List Char) : skip (skip text) = skip text := by
  obtain ⟨blank, blanks, split⟩ := exists_blank text
  exact (skip_append blanks (skip text)).symm.trans (congrArg skip split.symm)

theorem not_isWordChar_of_isBlank (blank : isBlank char = true) : isWordChar char = false := by
  rw [isBlank, decide_eq_true_iff] at blank
  rcases blank with rfl | rfl | rfl | rfl <;> decide

theorem Spells.blanksBefore {tree : Tree} (blanks : Blank rest) (spelled : Spells tree text) :
    Spells tree (rest ++ text) := by
  induction rest with
  | nil => exact spelled
  | cons first rest ih =>
      exact (ih fun char member => blanks char (List.mem_cons_of_mem _ member)).before
        (blanks first (List.mem_cons_self ..))

theorem Spells.blanksAfter {tree : Tree} (blanks : Blank rest) (spelled : Spells tree text) :
    Spells tree (text ++ rest) := by
  induction rest using List.reverseRecOn with
  | nil => rwa [List.append_nil]
  | append_singleton rest last ih =>
      rw [← List.append_assoc]
      exact (ih fun char member => blanks char (List.mem_append_left _ member)).after
        (blanks last (List.mem_append_right _ (List.mem_cons_self ..)))

end Blanks

/-! ## Strings -/

section Strings

variable {body : List Piece} {text rest : List Char}

theorem unescape_u : unescape 'u' = none := by decide

theorem hexValue_some {char : Char} {value : Nat} (read : hexValue char = some value) :
    char ≠ '\\' ∧ char ≠ '"' ∧ ¬ char.toNat < 0x20 := by
  refine ⟨?_, ?_, fun low => ?_⟩
  · rintro rfl
    cases read
  · rintro rfl
    cases read
  · have below : ∀ other : Char, 0x20 ≤ other.toNat → ¬ other ≤ char := fun other le above =>
      absurd (le.trans (UInt32.le_iff_toNat_le.mp above)) (Nat.not_le.mpr low)
    rw [hexValue, if_neg, if_neg fun range => below _ (by decide) range.1,
      if_neg fun range => below _ (by decide) range.1] at read
    · cases read
    · rw [isDigit, Bool.and_eq_true, decide_eq_true_iff]
      exact fun range => below _ (by decide) range.1

theorem hexQuad_eq_some_iff {first second third fourth : Char} {value : Nat} :
    hexQuad first second third fourth = some value ↔
      ∃ a b c d, hexValue first = some a ∧ hexValue second = some b ∧ hexValue third = some c ∧
        hexValue fourth = some d ∧ a * 4096 + b * 256 + c * 16 + d = value := by
  simp only [hexQuad, Option.bind_eq_bind, Option.bind_eq_some_iff, Option.pure_def,
    Option.some.injEq]
  constructor
  · rintro ⟨a, first, b, second, c, third, d, fourth, sum⟩
    exact ⟨a, b, c, d, first, second, third, fourth, sum⟩
  · rintro ⟨a, b, c, d, first, second, third, fourth, sum⟩
    exact ⟨a, first, b, second, c, third, d, fourth, sum⟩

theorem scanString_cons {first : Char} (noQuote : first ≠ '"') (noEscape : first ≠ '\\')
    (visible : ¬ first.toNat < 0x20) (nonempty : rest ≠ []) :
    scanString (first :: rest) =
      (scanString rest).map fun scanned => (first :: scanned.1, scanned.2) := by
  obtain ⟨second, others, rfl⟩ := List.exists_cons_of_ne_nil nonempty
  rw [scanString, if_neg noQuote, if_neg noEscape, if_neg visible]

/-- The body of a string ends at its closing quote. -/
theorem Body.scanString_append (spelled : Body body text) (rest : List Char) :
    scanString (text ++ '"' :: rest) = some (text, rest) := by
  induction spelled with
  | nil => cases rest <;> simp [scanString]
  | plain noQuote noEscape visible _ ih =>
      rw [List.cons_append, scanString_cons noQuote noEscape visible (by simp), ih]
      rfl
  | short _ _ ih =>
      rw [List.cons_append, List.cons_append, scanString, if_neg (by decide), if_pos rfl, ih]
      rfl
  | unit read _ ih =>
      obtain ⟨_, _, _, _, first, second, third, fourth, _⟩ := hexQuad_eq_some_iff.mp read
      have step : ∀ {digit : Char} {value : Nat} {rest : List Char},
          hexValue digit = some value → rest ≠ [] → scanString (digit :: rest) =
            (scanString rest).map fun scanned => (digit :: scanned.1, scanned.2) := by
        intro digit value rest digit_some nonempty
        obtain ⟨noEscape, noQuote, visible⟩ := hexValue_some digit_some
        exact scanString_cons noQuote noEscape visible nonempty
      simp only [List.cons_append]
      rw [scanString, if_neg (by decide), if_pos rfl, step first (by simp), step second (by simp),
        step third (by simp), step fourth (by simp), ih]
      rfl

theorem pieces_cons {first : Char} (noEscape : first ≠ '\\') :
    pieces (first :: rest) = (pieces rest).map (.char first :: ·) := by
  rw [pieces]
  · intro _ _ _ _ _ same
    exact absurd same noEscape
  · intro _ _ same
    exact absurd same noEscape

theorem pieces_short {letter char : Char} (read : unescape letter = some char) :
    pieces ('\\' :: letter :: rest) = (pieces rest).map (.char char :: ·) := by
  rw [pieces, read]
  · cases pieces rest <;> rfl
  · rintro _ _ _ _ _ rfl
    rw [unescape_u] at read
    cases read

theorem Body.pieces (spelled : Body body text) : pieces text = some body := by
  induction spelled with
  | nil => rfl
  | plain _ noEscape _ _ ih => rw [pieces_cons noEscape, ih, Option.map_some]
  | short read _ ih => rw [pieces_short read, ih, Option.map_some]
  | unit read _ ih =>
      rw [Json.pieces, read, ih]
      rfl

theorem Body.readString_append (spelled : Body body text) (rest : List Char) :
    readString (text ++ '"' :: rest) = some (join body, rest) := by
  rw [readString, spelled.scanString_append]
  change ((Json.pieces text).bind fun body => some (join body, rest)) = _
  rw [spelled.pieces]
  rfl

/-- What a scanner takes for the body of a string. -/
inductive Closed : List Char → Prop
  | nil : Closed []
  | plain {char : Char} {text : List Char} (noQuote : char ≠ '"') (noEscape : char ≠ '\\')
      (visible : ¬ char.toNat < 0x20) (rest : Closed text) : Closed (char :: text)
  | escape (letter : Char) {text : List Char} (rest : Closed text) :
      Closed ('\\' :: letter :: text)

theorem closed_of_scanString {scanned : List Char × List Char}
    (read : scanString text = some scanned) :
    Closed scanned.1 ∧ text = scanned.1 ++ '"' :: scanned.2 := by
  induction text using scanString.induct generalizing scanned with
  | case1 => cases read
  | case2 =>
      cases read
      exact ⟨.nil, rfl⟩
  | case3 last noQuote =>
      rw [scanString, if_neg noQuote] at read
      cases read
  | case4 second rest =>
      rw [scanString, if_pos rfl] at read
      cases read
      exact ⟨.nil, rfl⟩
  | case5 second rest noQuote ih =>
      rw [scanString, if_neg noQuote, if_pos rfl] at read
      obtain ⟨inner, innerRead, rfl⟩ := Option.map_eq_some_iff.mp read
      obtain ⟨closed, rfl⟩ := ih innerRead
      exact ⟨closed.escape second, rfl⟩
  | case6 first second rest noQuote noEscape low =>
      rw [scanString, if_neg noQuote, if_neg noEscape, if_pos low] at read
      cases read
  | case7 first second rest noQuote noEscape visible ih =>
      rw [scanString, if_neg noQuote, if_neg noEscape, if_neg visible] at read
      obtain ⟨inner, innerRead, rfl⟩ := Option.map_eq_some_iff.mp read
      obtain ⟨closed, same⟩ := ih innerRead
      rw [same]
      exact ⟨closed.plain noQuote noEscape visible, rfl⟩

theorem Closed.tail {char : Char} (closed : Closed (char :: text)) (noEscape : char ≠ '\\') :
    Closed text := by
  cases closed with
  | plain _ _ _ rest => exact rest
  | escape letter rest => exact absurd rfl noEscape

theorem Closed.afterEscape {letter : Char} (closed : Closed ('\\' :: letter :: text)) :
    Closed text := by
  cases closed with
  | plain _ noEscape => exact absurd rfl noEscape
  | escape _ rest => exact rest

/-- A scanned body whose escapes are read is spelled. -/
theorem Closed.spelled (closed : Closed text) (read : Json.pieces text = some body) :
    Body body text := by
  induction text using pieces.induct generalizing body with
  | case1 =>
      cases read
      exact .nil
  | case2 first second third fourth rest ih =>
      rw [Json.pieces] at read
      obtain ⟨value, quad, following⟩ := Option.bind_eq_some_iff.mp read
      obtain ⟨others, inner, same⟩ := Option.bind_eq_some_iff.mp following
      cases same
      obtain ⟨_, _, _, _, a, b, c, d, _⟩ := hexQuad_eq_some_iff.mp quad
      have digits := (((closed.afterEscape.tail (hexValue_some a).1).tail
        (hexValue_some b).1).tail (hexValue_some c).1).tail (hexValue_some d).1
      exact .unit quad (ih digits inner)
  | case3 letter rest other ih =>
      cases named : unescape letter with
      | none =>
          rw [Json.pieces, named] at read
          · cases read
          · exact other
      | some char =>
          rw [pieces_short named] at read
          obtain ⟨others, inner, rfl⟩ := Option.map_eq_some_iff.mp read
          exact .short named (ih closed.afterEscape inner)
  | case4 char rest _ noPair ih =>
      cases closed with
      | plain noQuote noEscape visible following =>
          rw [pieces_cons noEscape] at read
          obtain ⟨others, inner, rfl⟩ := Option.map_eq_some_iff.mp read
          exact .plain noQuote noEscape visible (ih following inner)
      | escape letter following => exact (noPair letter _ rfl rfl).elim

theorem readString_eq_some_iff {content : List Char} :
    readString text = some (content, rest) ↔
      ∃ body spelling, Body body spelling ∧ text = spelling ++ '"' :: rest ∧ join body = content := by
  constructor
  · intro read
    obtain ⟨scanned, scannedText, inner⟩ := Option.bind_eq_some_iff.mp read
    obtain ⟨body, bodyRead, same⟩ := Option.bind_eq_some_iff.mp inner
    cases same
    obtain ⟨closed, split⟩ := closed_of_scanString scannedText
    exact ⟨body, scanned.1, closed.spelled bodyRead, split, rfl⟩
  · rintro ⟨body, spelling, spelled, rfl, rfl⟩
    exact spelled.readString_append rest

end Strings

/-! ## Texts that spell a tree are read -/

section Complete

variable {text rest : List Char}

theorem word_eq_some {value : JsonValue} (read : word text = some value) :
    text.all isWordChar = true ∧ text ≠ [] ∧
      (value = .null ∨ (∃ flag, value = .bool flag) ∨ ∃ number, value = .number number) := by
  unfold word at read
  split at read
  · rename_i same
    cases read
    exact ⟨by rw [same]; decide, by rw [same]; decide, .inl rfl⟩
  split at read
  · rename_i same
    cases read
    exact ⟨by rw [same]; decide, by rw [same]; decide, .inr (.inl ⟨true, rfl⟩)⟩
  split at read
  · rename_i same
    cases read
    exact ⟨by rw [same]; decide, by rw [same]; decide, .inr (.inl ⟨false, rfl⟩)⟩
  split at read
  · rename_i valid
    cases read
    exact ⟨valid.1, text_ne_nil ⟨text, valid⟩, .inr (.inr ⟨⟨text, valid⟩, rfl⟩)⟩
  · cases read

/-- A text whose first visible character is the given one. -/
def Starts (first : Char) (text : List Char) : Prop :=
  isBlank first = false ∧ ∃ others, skip text = first :: others

theorem Starts.skip_append {first : Char} (starts : Starts first text) (rest : List Char) :
    ∃ others, skip (text ++ rest) = first :: others := by
  obtain ⟨visible, others, same⟩ := starts
  obtain ⟨blank, blanks, split⟩ := exists_blank text
  refine ⟨others ++ rest, ?_⟩
  rw [split, List.append_assoc, Json.skip_append blanks, same, List.cons_append]
  exact skip_cons visible _

theorem Starts.append {first : Char} (starts : Starts first text) (rest : List Char) :
    Starts first (text ++ rest) :=
  ⟨starts.1, starts.skip_append rest⟩

theorem Starts.blanks {first : Char} {blank : List Char} (blanks : Blank blank)
    (starts : Starts first text) : Starts first (blank ++ text) := by
  refine ⟨starts.1, ?_⟩
  rw [Json.skip_append blanks]
  exact starts.2

theorem starts_cons {first : Char} (visible : isBlank first = false) (rest : List Char) :
    Starts first (first :: rest) :=
  ⟨visible, rest, skip_cons visible rest⟩

/-- A value does not begin with what closes an array. -/
theorem Spells.starts : ∀ {tree : Tree} {text : List Char}, Spells tree text →
    ∃ first, Starts first text ∧ first ≠ ']'
  | _, _, .word read => by
      obtain ⟨all, nonempty, _⟩ := word_eq_some read
      obtain ⟨first, others, rfl, visible, other⟩ := begins_of_wordChars all nonempty
      exact ⟨first, starts_cons visible others, other⟩
  | _, _, .string _ => ⟨'"', starts_cons (by decide) _, by decide⟩
  | _, _, .emptyArray _ => ⟨'[', starts_cons (by decide) _, by decide⟩
  | _, _, .array _ => ⟨'[', starts_cons (by decide) _, by decide⟩
  | _, _, .emptyObject _ => ⟨'{', starts_cons (by decide) _, by decide⟩
  | _, _, .object _ => ⟨'{', starts_cons (by decide) _, by decide⟩
  | _, _, .before blank spelled => by
      obtain ⟨first, starts, other⟩ := spelled.starts
      exact ⟨first, starts.blanks (blank_nil.cons blank), other⟩
  | _, _, .after _ spelled => by
      obtain ⟨first, starts, other⟩ := spelled.starts
      exact ⟨first, starts.append _, other⟩

theorem SpellsElements.starts {trees : List Tree} (spelled : SpellsElements trees text) :
    ∃ first, Starts first text ∧ first ≠ ']' := by
  cases spelled with
  | last spelled => exact spelled.starts
  | more spelled _ =>
      obtain ⟨first, starts, other⟩ := spelled.starts
      exact ⟨first, starts.append _, other⟩

theorem SpellsMember.starts {member : List Piece × Tree} (spelled : SpellsMember member text) :
    Starts '"' text := by
  cases spelled with
  | mk blankBefore _ _ _ => exact (starts_cons (by decide) _).blanks blankBefore

theorem SpellsMembers.starts {members : List (List Piece × Tree)}
    (spelled : SpellsMembers members text) : Starts '"' text := by
  cases spelled with
  | last spelled => exact spelled.starts
  | more spelled _ => exact spelled.starts.append _

theorem Spells.length_pos {tree : Tree} (spelled : Spells tree text) : 0 < text.length := by
  obtain ⟨first, ⟨_, others, same⟩, _⟩ := spelled.starts
  cases text with
  | nil => cases same
  | cons => exact Nat.succ_pos _

/-- A reader begins at the first visible character. -/
theorem readValue_skip (fuel : Nat) (text : List Char) :
    readValue fuel (skip text) = readValue fuel text := by
  cases fuel with
  | zero => rfl
  | succ fuel =>
      rw [readValue, readValue, skip_skip]

theorem readElements_skip (fuel : Nat) (text : List Char) :
    readElements fuel (skip text) = readElements fuel text := by
  cases fuel with
  | zero => rfl
  | succ fuel => rw [readElements, readElements, readValue_skip]

theorem readMembers_skip (fuel : Nat) (text : List Char) :
    readMembers fuel (skip text) = readMembers fuel text := by
  cases fuel with
  | zero => rfl
  | succ fuel =>
      rw [readMembers, readMembers, skip_skip]

mutual

/-- A text that spells a tree is read as its value, up to the blanks after it. -/
theorem Spells.readValue_append : ∀ {tree : Tree} {text rest : List Char} {fuel : Nat},
    Spells tree text → 2 * text.length ≤ fuel → Ends rest →
      ∃ after, readValue fuel (text ++ rest) = some (tree.value, after) ∧ skip after = skip rest
  | _, _, rest, 0, spelled, enough, _ => by
      have := spelled.length_pos
      omega
  | _, _, rest, fuel + 1, .word read, _, ends => by
      obtain ⟨all, nonempty, _⟩ := word_eq_some read
      refine ⟨rest, ?_, rfl⟩
      rw [readValue_word all nonempty ends, read]
      rfl
  | _, _, rest, fuel + 1, .string spelled, _, _ => by
      refine ⟨rest, ?_, rfl⟩
      rw [List.cons_append, List.append_assoc, readValue, skip_cons (by decide)]
      dsimp only [List.cons_append, List.nil_append]
      rw [if_pos rfl, spelled.readString_append]
      rfl
  | _, _, rest, fuel + 1, .emptyArray blanks, _, _ => by
      refine ⟨rest, ?_, rfl⟩
      rw [List.cons_append, List.append_assoc, readValue, skip_cons (by decide)]
      dsimp only [List.cons_append, List.nil_append]
      rw [if_neg (by decide), if_pos rfl, skip_append blanks, skip_cons (by decide)]
      dsimp only
      rw [if_pos rfl]
      rfl
  | _, _, rest, fuel + 1, .array spelled, enough, _ => by
      rw [List.length_cons, List.length_append, List.length_singleton] at enough
      have inside := @SpellsElements.readElements_append _ _ rest fuel spelled (by omega)
      obtain ⟨first, starts, other⟩ := spelled.starts
      obtain ⟨others, same⟩ := starts.skip_append (']' :: rest)
      refine ⟨rest, ?_, rfl⟩
      rw [List.cons_append, List.append_assoc, readValue, skip_cons (by decide)]
      dsimp only [List.cons_append, List.nil_append]
      rw [if_neg (by decide), if_pos rfl, same]
      dsimp only
      rw [if_neg other, ← same, readElements_skip, inside]
      rfl
  | _, _, rest, fuel + 1, .emptyObject blanks, _, _ => by
      refine ⟨rest, ?_, rfl⟩
      rw [List.cons_append, List.append_assoc, readValue, skip_cons (by decide)]
      dsimp only [List.cons_append, List.nil_append]
      rw [if_neg (by decide), if_neg (by decide), if_pos rfl, skip_append blanks,
        skip_cons (by decide)]
      dsimp only
      rw [if_pos rfl]
      rfl
  | _, _, rest, fuel + 1, .object spelled, enough, _ => by
      rw [List.length_cons, List.length_append, List.length_singleton] at enough
      have inside := @SpellsMembers.readMembers_append _ _ rest fuel spelled (by omega)
      obtain ⟨others, same⟩ := spelled.starts.skip_append ('}' :: rest)
      refine ⟨rest, ?_, rfl⟩
      rw [List.cons_append, List.append_assoc, readValue, skip_cons (by decide)]
      dsimp only [List.cons_append, List.nil_append]
      rw [if_neg (by decide), if_neg (by decide), if_pos rfl, same]
      dsimp only
      rw [if_neg (by decide), ← same, readMembers_skip, inside]
      rfl
  | _, _, rest, fuel + 1, .before blank spelled, enough, ends => by
      rw [List.length_cons] at enough
      rw [List.cons_append, ← readValue_skip, skip_blank blank, readValue_skip]
      exact spelled.readValue_append (by omega) ends
  | _, _, rest, fuel + 1, .after blank spelled, enough, _ => by
      rw [List.length_append, List.length_singleton] at enough
      obtain ⟨after, read, same⟩ := @Spells.readValue_append _ _ (_ :: rest) (fuel + 1) spelled
        (by omega) (ends_cons (not_isWordChar_of_isBlank blank) rest)
      exact ⟨after, by rwa [List.append_assoc], same.trans (skip_blank blank rest)⟩

theorem SpellsElements.readElements_append : ∀ {trees : List Tree} {text rest : List Char}
    {fuel : Nat}, SpellsElements trees text → 2 * text.length + 1 ≤ fuel →
      readElements fuel (text ++ ']' :: rest) = some (elementValues trees, rest)
  | _, _, _, 0, _, enough => absurd enough (Nat.not_succ_le_zero _)
  | _, _, rest, fuel + 1, .last spelled, enough => by
      obtain ⟨after, read, same⟩ := @Spells.readValue_append _ _ (']' :: rest) fuel spelled
        (by omega) (ends_cons (by decide) rest)
      rw [readElements, read, Option.bind_some, same, skip_cons (by decide)]
      dsimp only
      rw [if_neg (by decide), if_pos rfl]
      rfl
  | _, _, rest, fuel + 1, @SpellsElements.more _ _ _ others spelled following, enough => by
      rw [List.length_append, List.length_cons] at enough
      have positive := spelled.length_pos
      obtain ⟨after, read, same⟩ := @Spells.readValue_append _ _ (',' :: (others ++ ']' :: rest))
        fuel spelled (by omega) (ends_cons (by decide) _)
      have tail := @SpellsElements.readElements_append _ _ rest fuel following (by omega)
      rw [List.append_assoc, List.cons_append, readElements, read, Option.bind_some, same,
        skip_cons (by decide)]
      dsimp only
      rw [if_pos rfl, tail]
      rfl

theorem SpellsMember.readMembers_append : ∀ {member : List Piece × Tree} {text rest : List Char}
    {next : Char} {fuel : Nat}, SpellsMember member text → 2 * text.length ≤ fuel →
      isBlank next = false → isWordChar next = false →
      readMembers (fuel + 1) (text ++ next :: rest) =
        if next = ',' then
          (readMembers fuel rest).map fun others =>
            ((keyText member.1, member.2.value) :: others.1, others.2)
        else if next = '}' then some ([(keyText member.1, member.2.value)], rest)
        else none
  | _, _, rest, next, fuel, @SpellsMember.mk _ _ before name after text blankBefore named
      blankAfter spelled, enough, visible, other => by
      simp only [List.length_append, List.length_cons] at enough
      obtain ⟨_, read, same⟩ := @Spells.readValue_append _ _ (next :: rest) fuel spelled
        (by omega) (ends_cons other rest)
      have opened := named.readString_append (after ++ ':' :: (text ++ next :: rest))
      simp only [List.append_assoc, List.cons_append]
      rw [readMembers, skip_append blankBefore, skip_cons (by decide)]
      dsimp only
      rw [if_neg (not_not_intro rfl), opened, Option.bind_some, skip_append blankAfter,
        skip_cons (by decide)]
      dsimp only
      rw [if_neg (not_not_intro rfl), read, Option.bind_some, same, skip_cons visible]
      rfl

theorem SpellsMembers.readMembers_append : ∀ {members : List (List Piece × Tree)}
    {text rest : List Char} {fuel : Nat}, SpellsMembers members text →
      2 * text.length + 1 ≤ fuel →
      readMembers fuel (text ++ '}' :: rest) = some (memberValues members, rest)
  | _, _, _, 0, _, enough => absurd enough (Nat.not_succ_le_zero _)
  | _, _, rest, fuel + 1, .last spelled, enough => by
      rw [spelled.readMembers_append (by omega) (by decide) (by decide), if_neg (by decide),
        if_pos rfl]
      rfl
  | _, _, rest, fuel + 1, .more spelled following, enough => by
      rw [List.length_append, List.length_cons] at enough
      have tail := @SpellsMembers.readMembers_append _ _ rest fuel following (by omega)
      rw [List.append_assoc, List.cons_append,
        spelled.readMembers_append (by omega) (by decide) (by decide), if_pos rfl, tail]
      rfl

end

end Complete

/-! ## What is read spells a tree -/

section Sound

variable {text : List Char}

theorem readWord_sound {read : JsonValue × List Char} (success : readWord text = some read) :
    ∃ spelling, word spelling = some read.1 ∧ text = spelling ++ read.2 := by
  obtain ⟨value, known, rfl⟩ := Option.map_eq_some_iff.mp success
  exact ⟨_, known, List.takeWhile_append_dropWhile.symm⟩

mutual

/-- What a reader consumes spells a tree. -/
theorem readValue_sound : ∀ {fuel : Nat} {text : List Char} {read : JsonValue × List Char},
    readValue fuel text = some read →
      ∃ tree spelling, Spells tree spelling ∧ text = spelling ++ read.2 ∧ tree.value = read.1
  | 0, _, _, success => by cases success
  | fuel + 1, text, read, success => by
      obtain ⟨blank, blanks, split⟩ := exists_blank text
      rw [readValue] at success
      rcases visible : skip text with _ | ⟨first, rest⟩
      · rw [visible] at success
        cases success
      rw [visible] at success split
      dsimp only at success
      suffices inner : ∃ tree spelling, Spells tree spelling ∧
          first :: rest = spelling ++ read.2 ∧ tree.value = read.1 by
        obtain ⟨tree, spelling, spelled, same, valued⟩ := inner
        exact ⟨tree, blank ++ spelling, spelled.blanksBefore blanks,
          by rw [split, same, List.append_assoc], valued⟩
      split at success
      · rename_i quoted
        obtain ⟨inner, opened, rfl⟩ := Option.map_eq_some_iff.mp success
        obtain ⟨body, spelling, spelled, same, joined⟩ := readString_eq_some_iff.mp opened
        refine ⟨.string body, _, .string spelled, ?_, ?_⟩
        · rw [quoted, same]
          simp
        · rw [Tree.value, joined]
      · split at success
        · rename_i opening
          obtain ⟨inside, insideBlanks, insideSplit⟩ := exists_blank rest
          rcases after : skip rest with _ | ⟨next, others⟩
          · rw [after] at success
            cases success
          rw [after] at success insideSplit
          dsimp only at success
          split at success
          · rename_i closing
            cases success
            refine ⟨.array [], _, .emptyArray insideBlanks, ?_, rfl⟩
            rw [opening, insideSplit, closing]
            simp
          · obtain ⟨inner, read, rfl⟩ := Option.map_eq_some_iff.mp success
            rw [← after, readElements_skip] at read
            obtain ⟨trees, spelling, spelled, same, valued⟩ := readElements_sound read
            refine ⟨.array trees, _, .array spelled, ?_, ?_⟩
            · rw [opening, same]
              simp
            · rw [Tree.value, valued]
        · split at success
          · rename_i opening
            obtain ⟨inside, insideBlanks, insideSplit⟩ := exists_blank rest
            rcases after : skip rest with _ | ⟨next, others⟩
            · rw [after] at success
              cases success
            rw [after] at success insideSplit
            dsimp only at success
            split at success
            · rename_i closing
              cases success
              refine ⟨.object [], _, .emptyObject insideBlanks, ?_, rfl⟩
              rw [opening, insideSplit, closing]
              simp
            · obtain ⟨inner, read, rfl⟩ := Option.map_eq_some_iff.mp success
              rw [← after, readMembers_skip] at read
              obtain ⟨members, spelling, spelled, same, valued⟩ := readMembers_sound read
              refine ⟨.object members, _, .object spelled, ?_, ?_⟩
              · rw [opening, same]
                simp
              · rw [Tree.value, valued]
          · obtain ⟨spelling, known, same⟩ := readWord_sound success
            exact ⟨.word read.1, spelling, .word known, same, rfl⟩

theorem readElements_sound : ∀ {fuel : Nat} {text : List Char}
    {read : List JsonValue × List Char}, readElements fuel text = some read →
      ∃ trees spelling, SpellsElements trees spelling ∧ text = spelling ++ ']' :: read.2 ∧
        elementValues trees = read.1
  | 0, _, _, success => by cases success
  | fuel + 1, text, read, success => by
      rw [readElements] at success
      obtain ⟨first, firstRead, success⟩ := Option.bind_eq_some_iff.mp success
      obtain ⟨tree, spelling, spelled, same, valued⟩ := readValue_sound firstRead
      obtain ⟨blank, blanks, split⟩ := exists_blank first.2
      rcases visible : skip first.2 with _ | ⟨next, rest⟩
      · rw [visible] at success
        cases success
      rw [visible] at success split
      dsimp only at success
      have spelled := spelled.blanksAfter blanks
      rw [split, ← List.append_assoc] at same
      split at success
      · rename_i comma
        obtain ⟨others, othersRead, rfl⟩ := Option.map_eq_some_iff.mp success
        obtain ⟨trees, tail, tailSpelled, tailSame, tailValued⟩ := readElements_sound othersRead
        refine ⟨tree :: trees, _, .more spelled tailSpelled, ?_, ?_⟩
        · rw [same, comma, tailSame]
          simp
        · rw [elementValues, valued, tailValued]
      · split at success
        · rename_i closing
          cases success
          refine ⟨[tree], _, .last spelled, by rw [same, closing], ?_⟩
          rw [elementValues, valued]
          rfl
        · cases success

theorem readMembers_sound : ∀ {fuel : Nat} {text : List Char}
    {read : List (String × JsonValue) × List Char}, readMembers fuel text = some read →
      ∃ members spelling, SpellsMembers members spelling ∧ text = spelling ++ '}' :: read.2 ∧
        memberValues members = read.1
  | 0, _, _, success => by cases success
  | fuel + 1, text, read, success => by
      obtain ⟨before, blankBefore, split⟩ := exists_blank text
      rw [readMembers] at success
      rcases visible : skip text with _ | ⟨quoted, afterQuote⟩
      · rw [visible] at success
        cases success
      rw [visible] at success split
      dsimp only at success
      split at success
      · cases success
      rename_i isQuote
      rw [not_not.mp isQuote] at split
      obtain ⟨key, keyRead, success⟩ := Option.bind_eq_some_iff.mp success
      obtain ⟨body, name, named, keySame, joined⟩ := readString_eq_some_iff.mp keyRead
      obtain ⟨after, blankAfter, keySplit⟩ := exists_blank key.2
      rcases separated : skip key.2 with _ | ⟨colon, afterColon⟩
      · rw [separated] at success
        cases success
      rw [separated] at success keySplit
      dsimp only at success
      split at success
      · cases success
      rename_i isColon
      rw [not_not.mp isColon] at keySplit
      obtain ⟨value, valueRead, success⟩ := Option.bind_eq_some_iff.mp success
      obtain ⟨tree, spelling, spelled, valueSame, valued⟩ := readValue_sound valueRead
      obtain ⟨blank, blanks, valueSplit⟩ := exists_blank value.2
      rcases final : skip value.2 with _ | ⟨next, rest⟩
      · rw [final] at success
        cases success
      rw [final] at success valueSplit
      dsimp only at success
      have member := SpellsMember.mk blankBefore named blankAfter (spelled.blanksAfter blanks)
      split at success
      · rename_i comma
        obtain ⟨others, othersRead, rfl⟩ := Option.map_eq_some_iff.mp success
        obtain ⟨members, tail, tailSpelled, tailSame, tailValued⟩ := readMembers_sound othersRead
        refine ⟨(body, tree) :: members, _, .more member tailSpelled, ?_, ?_⟩
        · rw [split, keySame, keySplit, valueSame, valueSplit, comma, tailSame]
          simp
        · rw [memberValues, keyText, joined, valued, tailValued]
      · split at success
        · rename_i closing
          cases success
          refine ⟨[(body, tree)], _, .last member, ?_, ?_⟩
          · rw [split, keySame, keySplit, valueSame, valueSplit, closing]
            simp
          · rw [memberValues, keyText, joined, valued]
            rfl
        · cases success

end

end Sound

mutual

/-- Every level takes its brackets. -/
theorem Spells.two_mul_depth_le : ∀ {tree : Tree} {text : List Char}, Spells tree text →
    2 * depth tree.value ≤ text.length
  | _, _, @Spells.word value text read => by
      have flat : depth value = 0 := by
        rcases (word_eq_some read).2.2 with rfl | ⟨flag, rfl⟩ | ⟨number, rfl⟩ <;> rfl
      change 2 * depth value ≤ _
      omega
  | _, _, .string _ => Nat.zero_le _
  | _, _, .emptyArray _ | _, _, .emptyObject _ => by
      simp [Tree.value, elementValues, memberValues, depth, elementsDepth, membersDepth]
  | _, _, .array spelled => by
      have inside := spelled.two_mul_depth_le
      rw [Tree.value, depth, List.length_cons, List.length_append, List.length_singleton]
      omega
  | _, _, .object spelled => by
      have inside := spelled.two_mul_depth_le
      rw [Tree.value, depth, List.length_cons, List.length_append, List.length_singleton]
      omega
  | _, _, .before _ spelled => spelled.two_mul_depth_le.trans (Nat.le_succ _)
  | _, _, .after _ spelled => by
      rw [List.length_append]
      exact spelled.two_mul_depth_le.trans (Nat.le_add_right _ _)

theorem SpellsElements.two_mul_depth_le : ∀ {trees : List Tree} {text : List Char},
    SpellsElements trees text → 2 * elementsDepth (elementValues trees) ≤ text.length
  | _, _, .last spelled => by
      have inside := spelled.two_mul_depth_le
      simpa [elementValues, elementsDepth] using inside
  | _, _, .more spelled following => by
      have inside := spelled.two_mul_depth_le
      have others := following.two_mul_depth_le
      rw [elementValues, elementsDepth, List.length_append, List.length_cons]
      omega

theorem SpellsMember.two_mul_depth_le : ∀ {member : List Piece × Tree} {text : List Char},
    SpellsMember member text → 2 * depth member.2.value ≤ text.length
  | _, _, .mk _ _ _ spelled => by
      have inside := spelled.two_mul_depth_le
      simp only [List.length_append, List.length_cons]
      omega

theorem SpellsMembers.two_mul_depth_le : ∀ {members : List (List Piece × Tree)}
    {text : List Char}, SpellsMembers members text →
      2 * membersDepth (memberValues members) ≤ text.length
  | _, _, .last spelled => by
      have inside := spelled.two_mul_depth_le
      simpa [memberValues, membersDepth] using inside
  | _, _, .more spelled following => by
      have inside := spelled.two_mul_depth_le
      have others := following.two_mul_depth_le
      rw [memberValues, membersDepth, List.length_append, List.length_cons]
      dsimp only
      omega

end

/-- `encoding/json` decodes the texts that spell a tree which is not too deep. -/
theorem decode_eq_some_iff {text : List Char} {value : JsonValue} :
    decode text = some value ↔
      ∃ tree, Spells tree text ∧ tree.value = value ∧ depth value ≤ maxNestingDepth := by
  constructor
  · intro decoded
    obtain ⟨read, success, checked⟩ := Option.bind_eq_some_iff.mp decoded
    split at checked
    · rename_i complete
      cases checked
      obtain ⟨tree, spelling, spelled, same, valued⟩ := readValue_sound success
      obtain ⟨blank, blanks, split⟩ := exists_blank read.2
      rw [complete.1, List.append_nil] at split
      rw [same, split]
      exact ⟨tree, spelled.blanksAfter blanks, valued, complete.2⟩
    · cases checked
  · rintro ⟨tree, spelled, rfl, shallow⟩
    obtain ⟨after, read, same⟩ := @Spells.readValue_append tree text [] (2 * text.length + 2)
      spelled (by omega) nofun
    rw [List.append_nil] at read
    rw [decode, read]
    change (if skip after = [] ∧ _ then _ else _) = _
    rw [if_pos ⟨same, shallow⟩]
    rfl

end CheckNetwork.Go.Json
