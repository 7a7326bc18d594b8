import CheckNetwork.Context.Json
import CheckNetwork.Go.JsonTree

/-!
# Surrogate escapes

The scan of the bytes for surrogate escapes agrees with the grammar about where
strings and escapes begin.
-/

namespace CheckNetwork.Context

open Go

section Strings

variable {body : List Json.Piece} {text rest : List Char}

theorem ne_quote_of_isBlank {char : Char} (blank : Json.isBlank char = true) : char ≠ '"' := by
  rintro rfl
  cases blank

theorem validJSONSurrogateEscapes_blank (blanks : Json.Blank text) :
    validJSONSurrogateEscapes (text ++ rest) = validJSONSurrogateEscapes rest := by
  induction text with
  | nil => rfl
  | cons first text ih =>
      have blank := blanks first (List.mem_cons_self ..)
      rw [List.cons_append, validJSONSurrogateEscapes_cons (ne_quote_of_isBlank blank),
        ih fun char member => blanks char (List.mem_cons_of_mem _ member)]

theorem validStringEscapes_quote_cons (rest : List Char) :
    validStringEscapes ('"' :: rest) = validJSONSurrogateEscapes rest := by
  simp [validStringEscapes]

theorem validStringEscapes_plain {char : Char} (noQuote : char ≠ '"') (noEscape : char ≠ '\\')
    (visible : ¬ char.toNat < 0x20) :
    validStringEscapes (char :: rest) = validStringEscapes rest :=
  validStringEscapes_append (.plain noQuote noEscape visible)

theorem validStringEscapes_short {letter char : Char}
    (read : Json.unescape letter = some char) :
    validStringEscapes ('\\' :: letter :: rest) = validStringEscapes rest := by
  refine validStringEscapes_append (.short letter read ?_)
  rintro rfl
  rw [Json.unescape_u] at read
  cases read

theorem validStringEscapes_unit {first second third fourth : Char} {value : Nat}
    (read : Json.hexQuad first second third fourth = some value) :
    validStringEscapes ('\\' :: 'u' :: first :: second :: third :: fourth :: rest) =
      if Json.isHighSurrogate value then validLowSurrogate rest
      else !Json.isLowSurrogate value && validStringEscapes rest := by
  rw [validStringEscapes, read]

theorem validLowSurrogate_unit {first second third fourth : Char} {value : Nat}
    (read : Json.hexQuad first second third fourth = some value) :
    validLowSurrogate ('\\' :: 'u' :: first :: second :: third :: fourth :: rest) =
      (Json.isLowSurrogate value && validStringEscapes rest) := by
  rw [validLowSurrogate, read, Option.any_some]

/-- Only another number completes a pair. -/
theorem validLowSurrogate_eq_false
    (other : ∀ first second third fourth after,
      text ≠ '\\' :: 'u' :: first :: second :: third :: fourth :: after) :
    validLowSurrogate text = false := by
  unfold validLowSurrogate
  split
  · rename_i first second third fourth after
    exact absurd rfl (other first second third fourth after)
  · rfl

theorem not_paired_of_high {value : Nat} (high : Json.isHighSurrogate value = true)
    (other : ∀ next rest, body ≠ .unit next :: rest) :
    ¬ Json.Paired (.unit value :: body) := by
  rintro (_ | _ | ⟨plain, _⟩ | ⟨_, _, _⟩)
  · rw [high] at plain
    cases plain
  · exact other _ _ rfl

/-- The scan passes a string exactly if its surrogates are paired. -/
theorem validStringEscapes_body : ∀ {body : List Json.Piece} {text rest : List Char},
    Json.Body body text → (validStringEscapes (text ++ '"' :: rest) = true ↔
      Json.Paired body ∧ validJSONSurrogateEscapes rest = true)
  | _, _, rest, .nil => by
      rw [List.nil_append, validStringEscapes_quote_cons]
      exact ⟨fun valid => ⟨.nil, valid⟩, And.right⟩
  | _, _, rest, .plain noQuote noEscape visible following => by
      rw [List.cons_append, validStringEscapes_plain noQuote noEscape visible,
        validStringEscapes_body following]
      refine and_congr_left fun _ => ⟨.char, ?_⟩
      rintro (_ | paired)
      exact paired
  | _, _, rest, .short read following => by
      rw [List.cons_append, List.cons_append, validStringEscapes_short read,
        validStringEscapes_body following]
      refine and_congr_left fun _ => ⟨.char, ?_⟩
      rintro (_ | paired)
      exact paired
  | _, _, rest, @Json.Body.unit _ _ _ _ value body text read following => by
      simp only [List.cons_append]
      rw [validStringEscapes_unit read]
      by_cases high : Json.isHighSurrogate value = true
      · rw [if_pos high]
        have alone : ∀ {others : List Json.Piece} {text : List Char},
            (∀ first second third fourth after,
              text ≠ '\\' :: 'u' :: first :: second :: third :: fourth :: after) →
            (∀ next rest, others ≠ .unit next :: rest) →
            (validLowSurrogate text = true ↔
              Json.Paired (.unit value :: others) ∧ validJSONSurrogateEscapes rest = true) := by
          intro others text textOther othersOther
          rw [validLowSurrogate_eq_false textOther]
          exact ⟨nofun, fun paired => absurd paired.1 (not_paired_of_high high othersOther)⟩
        cases following with
        | nil => exact alone nofun nofun
        | plain _ noEscape _ _ =>
            refine alone (fun _ _ _ _ _ same => ?_) nofun
            exact noEscape (List.cons.inj same).1
        | short read _ =>
            refine alone (fun _ _ _ _ _ same => ?_) nofun
            have letter := (List.cons.inj (List.cons.inj same).2).1
            rw [letter, Json.unescape_u] at read
            cases read
        | unit low following =>
            simp only [List.cons_append]
            rw [validLowSurrogate_unit low, Bool.and_eq_true, validStringEscapes_body following]
            constructor
            · rintro ⟨second, paired, valid⟩
              exact ⟨.pair high second paired, valid⟩
            · rintro ⟨_ | _ | ⟨plain, _⟩ | ⟨_, second, paired⟩, valid⟩
              · rw [high] at plain
                cases plain
              · exact ⟨second, paired, valid⟩
      · rw [if_neg high, Bool.and_eq_true, validStringEscapes_body following]
        rw [Bool.not_eq_true] at high
        constructor
        · rintro ⟨plain, paired, valid⟩
          exact ⟨.unit (by rw [high]; simpa using plain) paired, valid⟩
        · rintro ⟨_ | _ | ⟨plain, paired⟩ | ⟨first, _, _⟩, valid⟩
          · rw [high, Bool.false_or] at plain
            exact ⟨by rw [plain]; rfl, paired, valid⟩
          · rw [high] at first
            cases first

end Strings

mutual

/-- The scan passes the text of a value exactly if the surrogates of its strings
are paired. -/
theorem validJSONSurrogateEscapes_spells : ∀ {tree : Json.Tree} {text rest : List Char},
    Json.Spells tree text → (validJSONSurrogateEscapes (text ++ rest) = true ↔
      tree.Paired ∧ validJSONSurrogateEscapes rest = true)
  | _, _, _, .word read => by
      rw [validJSONSurrogateEscapes_word (Json.word_eq_some read).1]
      exact (iff_of_eq (true_and _)).symm
  | _, _, rest, .string spelled => by
      rw [List.cons_append, List.append_assoc, validJSONSurrogateEscapes, if_pos rfl]
      exact validStringEscapes_body spelled
  | _, _, rest, .emptyArray blanks => by
      rw [List.cons_append, List.append_assoc, validJSONSurrogateEscapes_cons (by decide),
        validJSONSurrogateEscapes_blank blanks, List.cons_append,
        validJSONSurrogateEscapes_cons (by decide)]
      exact (iff_of_eq (true_and _)).symm
  | _, _, rest, .array spelled => by
      rw [List.cons_append, List.append_assoc, validJSONSurrogateEscapes_cons (by decide),
        validJSONSurrogateEscapes_spellsElements spelled, List.cons_append,
        validJSONSurrogateEscapes_cons (by decide)]
      rfl
  | _, _, rest, .emptyObject blanks => by
      rw [List.cons_append, List.append_assoc, validJSONSurrogateEscapes_cons (by decide),
        validJSONSurrogateEscapes_blank blanks, List.cons_append,
        validJSONSurrogateEscapes_cons (by decide)]
      exact (iff_of_eq (true_and _)).symm
  | _, _, rest, .object spelled => by
      rw [List.cons_append, List.append_assoc, validJSONSurrogateEscapes_cons (by decide),
        validJSONSurrogateEscapes_spellsMembers spelled, List.cons_append,
        validJSONSurrogateEscapes_cons (by decide)]
      rfl
  | _, _, rest, .before blank spelled => by
      rw [List.cons_append, validJSONSurrogateEscapes_cons (ne_quote_of_isBlank blank),
        validJSONSurrogateEscapes_spells spelled]
  | _, _, rest, .after blank spelled => by
      rw [List.append_assoc, validJSONSurrogateEscapes_spells spelled, List.cons_append,
        validJSONSurrogateEscapes_cons (ne_quote_of_isBlank blank), List.nil_append]

theorem validJSONSurrogateEscapes_spellsElements : ∀ {trees : List Json.Tree}
    {text rest : List Char}, Json.SpellsElements trees text →
      (validJSONSurrogateEscapes (text ++ rest) = true ↔
        Json.ElementsPaired trees ∧ validJSONSurrogateEscapes rest = true)
  | _, _, _, .last spelled => by
      rw [validJSONSurrogateEscapes_spells spelled, Json.ElementsPaired, Json.ElementsPaired,
        and_true]
  | _, _, _, .more spelled following => by
      rw [List.append_assoc, validJSONSurrogateEscapes_spells spelled, List.cons_append,
        validJSONSurrogateEscapes_cons (by decide),
        validJSONSurrogateEscapes_spellsElements following, Json.ElementsPaired, and_assoc]

theorem validJSONSurrogateEscapes_spellsMember : ∀ {member : List Json.Piece × Json.Tree}
    {text rest : List Char}, Json.SpellsMember member text →
      (validJSONSurrogateEscapes (text ++ rest) = true ↔
        (Json.Paired member.1 ∧ member.2.Paired) ∧ validJSONSurrogateEscapes rest = true)
  | _, _, rest, .mk blankBefore named blankAfter spelled => by
      simp only [List.append_assoc, List.cons_append]
      rw [validJSONSurrogateEscapes_blank blankBefore, validJSONSurrogateEscapes, if_pos rfl,
        validStringEscapes_body named, validJSONSurrogateEscapes_blank blankAfter,
        validJSONSurrogateEscapes_cons (by decide), validJSONSurrogateEscapes_spells spelled,
        and_assoc]

theorem validJSONSurrogateEscapes_spellsMembers : ∀ {members : List (List Json.Piece × Json.Tree)}
    {text rest : List Char}, Json.SpellsMembers members text →
      (validJSONSurrogateEscapes (text ++ rest) = true ↔
        Json.MembersPaired members ∧ validJSONSurrogateEscapes rest = true)
  | _, _, _, .last spelled => by
      rw [validJSONSurrogateEscapes_spellsMember spelled, Json.MembersPaired, Json.MembersPaired,
        and_true]
  | _, _, _, .more spelled following => by
      rw [List.append_assoc, validJSONSurrogateEscapes_spellsMember spelled, List.cons_append,
        validJSONSurrogateEscapes_cons (by decide),
        validJSONSurrogateEscapes_spellsMembers following, Json.MembersPaired]
      exact and_assoc.symm

end

/-- `validJSONSurrogateEscapes` on a document. -/
theorem validJSONSurrogateEscapes_iff {tree : Json.Tree} {text : List Char}
    (spelled : Json.Spells tree text) :
    validJSONSurrogateEscapes text = true ↔ tree.Paired := by
  have passed := @validJSONSurrogateEscapes_spells tree text [] spelled
  rw [List.append_nil] at passed
  exact passed.trans (and_iff_left rfl)

end CheckNetwork.Context
