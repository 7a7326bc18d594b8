import CheckNetwork.Go.JsonText

/-!
# Reading JSON that was written

Reading returns what was written, where a byte that is not text has become a
replacement character.
-/

namespace CheckNetwork.Go.Json

/-! ## Values are read back -/

/-- A word that was written ends where the text goes on. -/
def Ends (rest : List Char) : Prop := ∀ first ∈ rest.head?, isWordChar first = false

section Words

variable {text rest : List Char}

theorem readWord_append (all : text.all isWordChar) (ends : Ends rest) :
    readWord (text ++ rest) = (word text).map fun value => (value, rest) := by
  have inside : ∀ char ∈ text, isWordChar char = true := List.all_eq_true.mp all
  have stop : rest.takeWhile isWordChar = [] ∧ rest.dropWhile isWordChar = rest := by
    rcases rest with _ | ⟨first, others⟩
    · exact ⟨rfl, rfl⟩
    · have other := ends first rfl
      simp [other]
  rw [readWord, List.takeWhile_append_of_pos inside, List.dropWhile_append_of_pos inside, stop.1,
    stop.2, List.append_nil]

theorem word_text (number : JsonNumber) : word number.text = some (.number number) := by
  rcases number with ⟨text, valid⟩
  have different : ∀ other : List Char, isNumber other = false → text ≠ other := by
    rintro other wrong rfl
    rw [valid.2] at wrong
    cases wrong
  rw [word, if_neg (different _ (by decide)), if_neg (different _ (by decide)),
    if_neg (different _ (by decide)), dif_pos valid]

/-- Words are read as such. -/
theorem readValue_word {fuel : Nat} (all : text.all isWordChar) (nonempty : text ≠ [])
    (ends : Ends rest) :
    readValue (fuel + 1) (text ++ rest) = (word text).map fun value => (value, rest) := by
  obtain ⟨first, others, rfl⟩ := List.exists_cons_of_ne_nil nonempty
  have wordChar : isWordChar first = true := List.all_eq_true.mp all first (List.mem_cons_self ..)
  have different : ∀ other, isWordChar other = false → first ≠ other := by
    rintro other wrong rfl
    rw [wordChar] at wrong
    cases wrong
  have visible : isBlank first = false := by
    simp only [isBlank, decide_eq_false_iff_not, not_or]
    exact ⟨different _ (by decide), different _ (by decide), different _ (by decide),
      different _ (by decide)⟩
  rw [← readWord_append all ends]
  simp [readValue, skip, visible, different '"' (by decide), different '[' (by decide),
    different '{' (by decide)]

end Words

/-- A text that begins with a visible character that closes nothing. -/
def Begins (text : List Char) : Prop :=
  ∃ first rest, text = first :: rest ∧ isBlank first = false ∧ first ≠ ']'

theorem begins_of_wordChars {text : List Char} (all : text.all isWordChar) (nonempty : text ≠ []) :
    Begins text := by
  obtain ⟨first, others, rfl⟩ := List.exists_cons_of_ne_nil nonempty
  have wordChar : isWordChar first = true := List.all_eq_true.mp all first (List.mem_cons_self ..)
  refine ⟨first, others, rfl, ?_, ?_⟩
  · by_contra blank
    rw [Bool.not_eq_false, isBlank, decide_eq_true_iff] at blank
    rcases blank with rfl | rfl | rfl | rfl <;> revert wordChar <;> decide
  · rintro rfl
    revert wordChar
    decide

theorem text_ne_nil (number : JsonNumber) : number.text ≠ [] := by
  intro empty
  have valid := number.valid.2
  rw [empty] at valid
  revert valid
  decide

theorem begins_encode (value : JsonValue) : Begins (encode value) := by
  cases value with
  | null => exact begins_of_wordChars (by decide) (by decide)
  | bool value => cases value <;> exact begins_of_wordChars (by decide) (by decide)
  | number value => exact begins_of_wordChars value.valid.1 (text_ne_nil value)
  | string text => exact ⟨_, _, rfl, by decide, by decide⟩
  | array elements => exact ⟨_, _, rfl, by decide, by decide⟩
  | object members => exact ⟨_, _, rfl, by decide, by decide⟩

theorem skip_of_begins {text : List Char} (begins : Begins text) (rest : List Char) :
    skip (text ++ rest) = text ++ rest := by
  obtain ⟨first, others, rfl, visible, _⟩ := begins
  simp [skip, visible]

theorem skip_cons {first : Char} (visible : isBlank first = false) (rest : List Char) :
    skip (first :: rest) = first :: rest := by
  simp [skip, visible]

theorem ends_cons {first : Char} (other : isWordChar first = false) (rest : List Char) :
    Ends (first :: rest) := by
  intro char same
  cases Option.some.inj same
  exact other

theorem begins_encodeElements (first : JsonValue) (others : List JsonValue) :
    Begins (encodeElements (first :: others)) := by
  obtain ⟨char, rest, same, visible, opening⟩ := begins_encode first
  cases others with
  | nil => exact ⟨char, rest, by rw [encodeElements, same], visible, opening⟩
  | cons second others =>
      exact ⟨char, _, by rw [encodeElements, same, List.cons_append], visible, opening⟩

theorem encodeMembers_eq (first : String × JsonValue) (others : List (String × JsonValue)) :
    ∃ rest, encodeMembers (first :: others) = '"' :: rest := by
  cases others with
  | nil => exact ⟨_, rfl⟩
  | cons second others => exact ⟨_, rfl⟩

theorem length_encode_pos (value : JsonValue) : 0 < (encode value).length := by
  obtain ⟨first, rest, same, _⟩ := begins_encode value
  rw [same]
  exact Nat.succ_pos _

theorem map_char_ofString (text : String) : (GoString.ofString text).map Rune.char = text.toList := by
  simp [GoString.ofString, Function.comp_def, Rune.char]

mutual

/-- What was written is read back. -/
theorem readValue_encode : ∀ (value : JsonValue) {fuel : Nat} {rest : List Char},
    2 * (encode value).length ≤ fuel → Ends rest →
      readValue fuel (encode value ++ rest) = some (clean value, rest)
  | value, 0, _, enough, _ => by
      have := length_encode_pos value
      omega
  | .null, fuel + 1, rest, _, ends => by
      rw [encode, readValue_word (by decide) (by decide) ends]
      rfl
  | .bool true, fuel + 1, rest, _, ends => by
      rw [encode, if_pos rfl, readValue_word (by decide) (by decide) ends]
      rfl
  | .bool false, fuel + 1, rest, _, ends => by
      rw [encode, if_neg (by decide), readValue_word (by decide) (by decide) ends]
      rfl
  | .number value, fuel + 1, rest, _, ends => by
      rw [encode, readValue_word value.valid.1 (text_ne_nil value) ends, word_text]
      rfl
  | .string text, fuel + 1, rest, _, _ => by
      have read := readString_quote text rest
      simp [encode, quote, readValue, skip_cons (show isBlank '"' = false by decide), read, clean]
  | .array [], fuel + 1, rest, _, _ => by
      simp [encode, encodeElements, readValue, skip, isBlank, clean, cleanElements]
  | .array (first :: others), fuel + 1, rest, enough, _ => by
      have enoughInside : 2 * (encodeElements (first :: others)).length + 1 ≤ fuel := by
        simp only [encode, List.length_cons, List.length_append, List.length_nil] at enough
        omega
      have inside := @readElements_encode first others fuel rest enoughInside
      have visible := skip_of_begins (begins_encodeElements first others) (']' :: rest)
      obtain ⟨char, after, same, _, opening⟩ := begins_encodeElements first others
      rw [same] at inside visible
      rw [encode, same, readValue]
      simp only [List.cons_append, List.append_assoc, List.nil_append,
        skip_cons (show isBlank '[' = false by decide)]
      rw [List.cons_append] at inside visible
      simp only [visible, inside, opening]
      rfl
  | .object [], fuel + 1, rest, _, _ => by
      simp [encode, encodeMembers, readValue, skip, isBlank, clean, cleanMembers]
  | .object (first :: others), fuel + 1, rest, enough, _ => by
      have enoughInside : 2 * (encodeMembers (first :: others)).length + 1 ≤ fuel := by
        simp only [encode, List.length_cons, List.length_append, List.length_nil] at enough
        omega
      have inside := @readMembers_encode first others fuel rest enoughInside
      obtain ⟨after, same⟩ := encodeMembers_eq first others
      rw [same, List.cons_append] at inside
      rw [encode, same, readValue]
      simp only [List.cons_append, List.append_assoc, List.nil_append,
        skip_cons (show isBlank '{' = false by decide),
        skip_cons (show isBlank '"' = false by decide), inside]
      rfl

theorem readElements_encode : ∀ (first : JsonValue) (others : List JsonValue) {fuel : Nat}
    {rest : List Char}, 2 * (encodeElements (first :: others)).length + 1 ≤ fuel →
      readElements fuel (encodeElements (first :: others) ++ ']' :: rest) =
        some (cleanElements (first :: others), rest)
  | _, _, 0, _, enough => absurd enough (Nat.not_succ_le_zero _)
  | last, [], fuel + 1, rest, enough => by
      rw [encodeElements] at enough ⊢
      have inside := @readValue_encode last fuel (']' :: rest) (by omega)
        (ends_cons (by decide) rest)
      rw [readElements, inside]
      simp [skip_cons (show isBlank ']' = false by decide), cleanElements]
  | first, second :: others, fuel + 1, rest, enough => by
      rw [encodeElements, List.length_append, List.length_cons] at enough
      have inside := @readValue_encode first fuel
        (',' :: (encodeElements (second :: others) ++ ']' :: rest)) (by omega)
        (ends_cons (by decide) _)
      have following := @readElements_encode second others fuel rest (by
        have := length_encode_pos first
        omega)
      rw [encodeElements, List.append_assoc, List.cons_append, readElements, inside]
      simp [skip_cons (show isBlank ',' = false by decide), following, cleanElements]

theorem readMembers_encode : ∀ (first : String × JsonValue) (others : List (String × JsonValue))
    {fuel : Nat} {rest : List Char}, 2 * (encodeMembers (first :: others)).length + 1 ≤ fuel →
      readMembers fuel (encodeMembers (first :: others) ++ '}' :: rest) =
        some (cleanMembers (first :: others), rest)
  | _, _, 0, _, enough => absurd enough (Nat.not_succ_le_zero _)
  | (key, last), [], fuel + 1, rest, enough => by
      rw [encodeMembers, List.length_append, List.length_cons] at enough
      dsimp only at enough
      have inside := @readValue_encode last fuel ('}' :: rest) (by omega)
        (ends_cons (by decide) rest)
      have name := readString_quote (.ofString key) (':' :: (encode last ++ '}' :: rest))
      rw [encodeMembers, readMembers]
      simp only [quote, List.cons_append, List.append_assoc, List.nil_append,
        skip_cons (show isBlank '"' = false by decide)]
      simp only [name, ne_eq, not_true_eq_false, if_false, Option.bind_some,
        skip_cons (show isBlank ':' = false by decide), inside,
        skip_cons (show isBlank '}' = false by decide)]
      simp [map_char_ofString, cleanMembers]
  | (key, value), second :: others, fuel + 1, rest, enough => by
      rw [encodeMembers, List.length_append, List.length_cons, List.length_append,
        List.length_cons] at enough
      dsimp only at enough
      have inside := @readValue_encode value fuel
        (',' :: (encodeMembers (second :: others) ++ '}' :: rest)) (by omega)
        (ends_cons (by decide) _)
      have following := @readMembers_encode second others fuel rest (by
        have := length_encode_pos value
        omega)
      have name := readString_quote (.ofString key)
        (':' :: (encode value ++ ',' :: (encodeMembers (second :: others) ++ '}' :: rest)))
      rw [encodeMembers, readMembers]
      simp only [quote, List.cons_append, List.append_assoc, List.nil_append,
        skip_cons (show isBlank '"' = false by decide)]
      simp only [name, ne_eq, not_true_eq_false, if_false, Option.bind_some,
        skip_cons (show isBlank ':' = false by decide), inside,
        skip_cons (show isBlank ',' = false by decide), following]
      simp [map_char_ofString, cleanMembers]

end

mutual

theorem depth_clean : ∀ value : JsonValue, depth (clean value) = depth value
  | .null | .bool _ | .number _ | .string _ => rfl
  | .array elements => by rw [clean, depth, depth, elementsDepth_clean]
  | .object members => by rw [clean, depth, depth, membersDepth_clean]

theorem elementsDepth_clean : ∀ elements : List JsonValue,
    elementsDepth (cleanElements elements) = elementsDepth elements
  | [] => rfl
  | first :: rest => by
      rw [cleanElements, elementsDepth, elementsDepth, depth_clean, elementsDepth_clean]

theorem membersDepth_clean : ∀ members : List (String × JsonValue),
    membersDepth (cleanMembers members) = membersDepth members
  | [] => rfl
  | first :: rest => by
      rw [cleanMembers, membersDepth, membersDepth, depth_clean, membersDepth_clean]

end

/-- Decoding returns what was encoded, also before a line break. -/
theorem decode_encode {value : JsonValue} (shallow : depth value ≤ maxNestingDepth)
    {rest : List Char} (blank : rest = [] ∨ rest = ['\n']) :
    decode (encode value ++ rest) = some (clean value) := by
  have ends : Ends rest ∧ skip rest = [] := by
    rcases blank with rfl | rfl
    · exact ⟨fun _ absent => (by cases absent), rfl⟩
    · exact ⟨ends_cons (by decide) [], rfl⟩
  have read := @readValue_encode value (2 * (encode value ++ rest).length + 2) rest
    (by rw [List.length_append]; omega) ends.1
  rw [decode, read]
  simp [ends.2, depth_clean, shallow]

end CheckNetwork.Go.Json
