import CheckNetwork.Payload.Sound

/-!
# Closed responses

A value that is validated and then encoded within a limit, and what one more
field at the end of a struct does to it.
-/

namespace CheckNetwork.Payload

open Go Diagnostic Check

/-- `marshalClosedResponse`.  The calls that the encoder is given suffice for
whatever the validator passes. -/
def marshalClosed (library : Library) (heap : Heap) (root : Value) (outputCap : Nat)
    (newline : Bool) : Except Failure (List Char) :=
  match (validate heap root .fresh).1 with
  | some failure => .error failure
  | none =>
      let pieces := (encode library heap (maxFullResponseDepth + 2) root).getD []
      write outputCap (pieces ++ if newline then [.ok ['\n']] else []) []

/-! ## What is written -/

/-- The data of the writes. -/
def texts (pieces : List Piece) : List Char :=
  pieces.flatMap fun piece => piece.toOption.getD []

@[simp]
theorem texts_cons_ok (text : List Char) (pieces : List Piece) :
    texts (.ok text :: pieces) = text ++ texts pieces := rfl

@[simp]
theorem texts_nil : texts [] = [] := rfl

@[simp]
theorem texts_append (first second : List Piece) :
    texts (first ++ second) = texts first ++ texts second :=
  List.flatMap_append

section Write

variable {limit : Nat} {pieces : List Piece} {data whole : List Char}

/-- The writes succeed when none of them is an error and all of them fit. -/
theorem write_eq_ok_iff (room : utf8Length data ≤ limit) : write limit pieces data = .ok whole ↔
    (∀ failure, .error failure ∉ pieces) ∧ whole = data ++ texts pieces ∧
      utf8Length whole ≤ limit := by
  induction pieces generalizing data with
  | nil =>
      rw [write, texts_nil, List.append_nil, Except.ok.injEq]
      constructor
      · rintro rfl
        exact ⟨fun _ => List.not_mem_nil, rfl, room⟩
      · exact fun written => written.2.1.symm
  | cons first rest ih =>
      cases first with
      | error failure =>
          rw [write]
          constructor
          · intro absurd
            cases absurd
          · exact fun written => absurd List.mem_cons_self (written.1 failure)
      | ok text =>
          have errors : (∀ failure, .error failure ∉ .ok text :: rest) ↔
              ∀ failure : Failure, .error failure ∉ rest := by simp
          rw [write, errors, texts_cons_ok, ← List.append_assoc]
          split
          · next large =>
              constructor
              · intro absurd
                cases absurd
              · rintro ⟨_, rfl, fits⟩
                rw [utf8Length_append, utf8Length_append] at fits
                omega
          · next small =>
              apply ih
              rw [utf8Length_append]
              exact Nat.not_lt.mp small

end Write

section Closed

variable {library : Library} {heap : Heap} {root : Value} {limit : Nat} {newline : Bool}
  {text : List Char}

/-- The end of a response. -/
def ending (newline : Bool) : List Char := if newline then ['\n'] else []

/-- A response is the text of the pieces of a value that passes. -/
theorem marshalClosed_eq_ok_iff : marshalClosed library heap root limit newline = .ok text ↔
    (validate heap root .fresh).1 = none ∧
      ∃ pieces, encode library heap (maxFullResponseDepth + 2) root = some pieces ∧
        (∀ failure, .error failure ∉ pieces) ∧ text = texts pieces ++ ending newline ∧
          utf8Length text ≤ limit := by
  rw [marshalClosed]
  cases outcome : (validate heap root .fresh).1 with
  | some failure =>
      constructor
      · intro absurd
        cases absurd
      · rintro ⟨absurd, _⟩
        cases absurd
  | none =>
      obtain ⟨pieces, written, _⟩ := encode_of_valid library (valid_of_walk outcome)
        (maxFullResponseDepth + 2) (Nat.succ_pos _) (Nat.le_refl _)
      have last : ∀ failure : Failure, .error failure ∉ pieces ++
          (if newline then [.ok ['\n']] else []) ↔ .error failure ∉ pieces := by
        intro failure
        cases newline <;> simp
      have shown : texts (if newline then [.ok ['\n']] else []) = ending newline := by
        cases newline <;> rfl
      dsimp only
      rw [written, Option.getD_some, write_eq_ok_iff (Nat.zero_le _), List.nil_append,
        texts_append, shown]
      simp only [last]
      constructor
      · rintro ⟨plain, same, fits⟩
        exact ⟨trivial, pieces, rfl, plain, same, fits⟩
      · rintro ⟨_, _, ⟨rfl⟩, plain, same, fits⟩
        exact ⟨plain, same, fits⟩

/-- A value that passes and whose pieces are no errors is written, or is too
large. -/
theorem marshalClosed_of_passed {pieces : List Piece} (limit : Nat) (newline : Bool)
    (passed : (validate heap root .fresh).1 = none)
    (written : encode library heap (maxFullResponseDepth + 2) root = some pieces)
    (clean : ∀ failure, .error failure ∉ pieces) :
    (∃ text, marshalClosed library heap root limit newline = .ok text) ∨
      marshalClosed library heap root limit newline = .error .tooLarge := by
  rw [marshalClosed, passed]
  dsimp only
  rw [written, Option.getD_some]
  apply write_of_texts
  intro failure member
  rcases List.mem_append.mp member with inside | last
  · exact clean failure inside
  · cases newline <;> simp at last

theorem marshalClosed_of_failed {failure : Failure}
    (failed : (validate heap root .fresh).1 = some failure) :
    marshalClosed library heap root limit newline = .error failure := by
  rw [marshalClosed, failed]

end Closed

/-! ## One more member -/

section Append

theorem andThen_assoc (first second third : Check) :
    (first.andThen second).andThen third = first.andThen (second.andThen third) := by
  funext meter
  cases outcome : (first meter).1 with
  | none =>
      rw [@andThen_of_none first _ _ outcome]
      cases next : (second (first meter).2).1 with
      | none =>
          have both : (first.andThen second meter).1 = none := by
            rw [andThen_of_none outcome]
            exact next
          rw [andThen_of_none both, andThen_of_none outcome, andThen_of_none next]
      | some failure =>
          have both : (first.andThen second meter).1 = some failure := by
            rw [andThen_of_none outcome]
            exact next
          rw [andThen_of_some both, andThen_of_none outcome, andThen_of_some next]
  | some failure =>
      have both : (first.andThen second meter).1 = some failure := by
        rw [andThen_of_some outcome]
        exact outcome
      rw [andThen_of_some both, andThen_of_some outcome, andThen_of_some outcome]

theorem fail_andThen (failure : Failure) (check : Check) :
    (fail failure).andThen check = fail failure := rfl

theorem andThen_pass (check : Check) : check.andThen pass = check := by
  funext meter
  cases outcome : (check meter).1 with
  | none =>
      rw [andThen_of_none outcome]
      exact Prod.ext outcome.symm rfl
  | some failure => rw [andThen_of_some outcome]

theorem all_concat (checks : List Check) (last : Check) :
    all (checks ++ [last]) = (all checks).andThen last := by
  induction checks with
  | nil => exact andThen_pass last
  | cons first rest ih => rw [List.cons_append, all, all, ih, andThen_assoc]

variable {guard : Reference → Check → Check} {library : Library} {heap : Heap} {type : GoType}
  {fields longer : List (StructField × Value)} {member : Member}

/-- The walk over a struct ends with its last member. -/
theorem walk_struct_concat (count : longer.length = fields.length)
    (last : members heap longer = members heap fields ++ [member]) (depth : Nat) (dynamic : Bool) :
    walk guard heap (.struct type longer) depth dynamic =
      (walk guard heap (.struct type fields) depth dynamic).andThen
        (walk guard heap member.value (depth + 1) (dynamicDetailsField type member.field)) := by
  rw [walk, walk]
  simp only [Value.elem, Value.isNilInterface, Bool.false_eq_true, if_false, Value.type]
  split
  · rw [andThen_assoc, fail_andThen]
  · split
    · rw [andThen_assoc, fail_andThen]
    · rw [contents, contents]
      split
      · rw [count, last, List.map_append, List.map_singleton, all_concat]
        simp only [andThen_assoc]
      · rw [andThen_assoc, fail_andThen]

theorem separated_concat {parts : List (List Piece)} (nonempty : parts ≠ []) (last : List Piece) :
    separated (parts ++ [last]) = separated parts ++ .ok [','] :: last := by
  induction parts with
  | nil => exact absurd rfl nonempty
  | cons first rest ih =>
      cases rest with
      | nil => rfl
      | cons second rest =>
          rw [List.cons_append, List.cons_append, separated, ← List.cons_append,
            ih (List.cons_ne_nil _ _), separated, List.append_assoc, List.cons_append]

/-- The text of a struct goes on with its last member. -/
theorem encode_struct_concat {calls : Nat} {pieces more : List Piece}
    (nonempty : members heap fields ≠ [])
    (last : members heap longer = members heap fields ++ [member])
    (written : encode library heap (calls + 1) (.struct type fields) = some pieces)
    (shown : encode library heap calls member.value = some more) :
    ∃ body, pieces = .ok ['\x7b'] :: (body ++ [.ok ['\x7d']]) ∧
      encode library heap (calls + 1) (.struct type longer) =
        some (.ok ['\x7b'] :: (body ++ .ok [','] :: named (Json.quote member.name) more ++
          [.ok ['\x7d']])) := by
  simp only [encode, Value.elem, tokens] at written ⊢
  obtain ⟨parts, whole, same⟩ := Option.bind_eq_some_iff.mp written
  have filled : parts ≠ [] := by
    rintro rfl
    cases shape : members heap fields with
    | nil => exact nonempty shape
    | cons first rest =>
        rw [shape, List.mapM_cons] at whole
        obtain ⟨_, _, rest⟩ := Option.bind_eq_some_iff.mp whole
        obtain ⟨_, _, empty⟩ := Option.bind_eq_some_iff.mp rest
        cases empty
  refine ⟨separated parts, (Option.some.inj same).symm, ?_⟩
  rw [last, List.mapM_append, whole, List.mapM_cons, List.mapM_nil, shown]
  change some (enclosed _ _ (parts ++ [named (Json.quote member.name) more])) = _
  rw [enclosed, separated_concat filled]

end Append

end CheckNetwork.Payload
