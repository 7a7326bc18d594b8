import CheckNetwork.Diagnostic.Greeting

/-!
# The rules of each service

Each rule of `verifyServerGreeting` is compared with the grammar of its kind.
All of them agree but for the identification lines of SSH that it does not know.
-/

namespace CheckNetwork.Diagnostic

open Progress

variable {line start bytes rest : List UInt8} {lines : List (List UInt8)} {index : Nat}

/-! ## Starts of lines -/

theorem concat_prefix_iff {byte : UInt8} :
    start ++ [byte] <+: line ↔ start <+: line ∧ (line)[start.length]? = some byte := by
  constructor
  · rintro ⟨rest, rfl⟩
    refine ⟨⟨[byte] ++ rest, by rw [List.append_assoc]⟩, ?_⟩
    rw [List.append_assoc, List.getElem?_append_right (Nat.le_refl _), Nat.sub_self]
    rfl
  · rintro ⟨⟨rest, rfl⟩, found⟩
    rw [List.getElem?_append_right (Nat.le_refl _), Nat.sub_self] at found
    cases rest with
    | nil => cases found
    | cons first rest =>
        cases found
        exact ⟨rest, by rw [List.append_assoc]; rfl⟩

/-- The end of a line is not in a start without its bytes. -/
theorem IsLine.length_start (isLine : IsLine line) (isPrefix : start <+: line)
    (noReturn : carriageReturn ∉ start) : start.length + 2 ≤ line.length := by
  rcases isLine.ends with ⟨content, rfl, -⟩
  rw [List.length_append]
  by_contra long
  have inside : content.length < start.length := by
    change ¬ start.length + 2 ≤ content.length + 2 at long
    omega
  have found := List.prefix_iff_getElem?.mp isPrefix content.length inside
  rw [List.getElem?_append_right (Nat.le_refl _), Nat.sub_self] at found
  apply noReturn
  rw [Option.some.inj found]
  exact List.getElem_mem inside

/-- The only line feed of a line is its last byte. -/
theorem IsLine.eq_of_feed (isLine : IsLine line) (isPrefix : start <+: line)
    (back : (line)[start.length]? = some carriageReturn)
    (feed : (line)[start.length + 1]? = some lineFeed) :
    line = start ++ [carriageReturn, lineFeed] := by
  have both : (start ++ [carriageReturn]) ++ [lineFeed] <+: line := by
    rw [concat_prefix_iff, concat_prefix_iff, List.length_append, List.length_singleton]
    exact ⟨⟨isPrefix, back⟩, feed⟩
  rcases both with ⟨rest, rfl⟩
  cases rest with
  | nil =>
      rw [List.append_nil, List.append_assoc]
      rfl
  | cons first rest =>
      exfalso
      rcases isLine.ends with ⟨content, line_eq, noFeed⟩
      have inside : (start ++ [carriageReturn] ++ [lineFeed]).length ≤ content.length + 1 := by
        have length_eq := congrArg List.length line_eq
        simp only [List.length_append, List.length_cons, List.length_nil] at length_eq ⊢
        omega
      have whole : start ++ [carriageReturn] ++ [lineFeed] <+: content ++ [carriageReturn, lineFeed] := by
        rw [← line_eq]
        exact List.prefix_append _ _
      have part : content ++ [carriageReturn] <+: content ++ [carriageReturn, lineFeed] :=
        ⟨[lineFeed], by rw [List.append_assoc]; rfl⟩
      have part_length : (content ++ [carriageReturn]).length = content.length + 1 := by
        rw [List.length_append, List.length_singleton]
      have early := List.prefix_of_prefix_length_le whole part (by rw [part_length]; exact inside)
      have member := early.subset (List.mem_append_right _ (List.mem_singleton.mpr rfl))
      rcases List.mem_append.mp member with old | back
      · exact noFeed old
      · cases List.mem_singleton.mp back

theorem greetingPrefixWithDelimiter_iff (isLine : IsLine line) (noReturn : carriageReturn ∉ start) :
    greetingPrefixWithDelimiter line start = true ↔ Delimited start line := by
  rw [greetingPrefixWithDelimiter, Delimited, concat_prefix_iff]
  constructor
  · intro held
    split at held
    · cases held
    · rename_i fits
      rw [Bool.or_eq_true, not_or, Bool.not_eq_true', Bool.not_eq_false,
        List.isPrefixOf_iff_prefix] at fits
      rw [Bool.or_eq_true, Bool.and_eq_true, decide_eq_true_iff, decide_eq_true_iff,
        decide_eq_true_iff] at held
      rcases held with space | ⟨back, feed⟩
      · exact Or.inl ⟨fits.1, space⟩
      · exact Or.inr (isLine.eq_of_feed fits.1 back feed)
  · intro delimited
    have fits : start <+: line ∧ start.length + 2 ≤ line.length := by
      rcases delimited with ⟨isPrefix, -⟩ | rfl
      · exact ⟨isPrefix, isLine.length_start isPrefix noReturn⟩
      · exact ⟨List.prefix_append _ _, by rw [List.length_append]; exact Nat.le_refl _⟩
    rw [if_neg]
    · rw [Bool.or_eq_true, Bool.and_eq_true, decide_eq_true_iff, decide_eq_true_iff,
        decide_eq_true_iff]
      rcases delimited with ⟨-, space⟩ | rfl
      · exact Or.inl space
      · right
        have one : start.length + 1 - start.length = 1 := Nat.add_sub_cancel_left _ _
        rw [List.getElem?_append_right (Nat.le_refl _),
          List.getElem?_append_right (Nat.le_add_right _ 1), Nat.sub_self, one]
        exact ⟨rfl, rfl⟩
    · rw [Bool.or_eq_true, not_or, Bool.not_eq_true', Bool.not_eq_false,
        List.isPrefixOf_iff_prefix, decide_eq_true_iff, Nat.not_lt]
      exact fits

/-! ## Rules -/

theorem acceptSMTP_of_start (byte : UInt8) (isLine : IsLine line)
    (isPrefix : ascii "220" ++ [byte] <+: line) (notReturn : byte ≠ carriageReturn) :
    acceptSMTP line index =
      if byte = 32 then (true, true) else if byte = 45 then (false, true) else (false, false) := by
  have long : 4 + 2 ≤ line.length := isLine.length_start isPrefix <| by
    rw [List.mem_append, List.mem_singleton]
    rintro (old | same)
    · revert old
      decide
    · exact notReturn same.symm
  rw [concat_prefix_iff] at isPrefix
  have code : line.take 3 = ascii "220" := (List.prefix_iff_eq_take.mp isPrefix.1).symm
  have found : (line)[3]? = some byte := isPrefix.2
  rw [acceptSMTP, if_neg, found]
  · simp only [Option.some_inj]
  · rw [not_or, Nat.not_lt, not_not]
    exact ⟨long, code⟩

/-- The code and the delimiter of a line that SMTP lets pass. -/
theorem start_of_acceptSMTP (valid : (acceptSMTP line index).2 = true) :
    ascii "220" ++ [32] <+: line ∨ ascii "220" ++ [45] <+: line := by
  rw [concat_prefix_iff, concat_prefix_iff]
  unfold acceptSMTP at valid
  split at valid
  · cases valid
  · rename_i known
    rw [not_or, not_not] at known
    have isPrefix : ascii "220" <+: line := by
      rw [← known.2]
      exact List.take_prefix _ _
    split at valid
    · rename_i space
      exact Or.inl ⟨isPrefix, space⟩
    · split at valid
      · rename_i dash
        exact Or.inr ⟨isPrefix, dash⟩
      · cases valid

/-- The rule of a kind that has one. -/
def acceptOf : Kind → Option Accept
  | .ssh => some acceptSSH
  | .smtp | .submission | .smtps => some acceptSMTP
  | .imap | .imaps => some acceptIMAP
  | .pop3 | .pop3s => some acceptPOP3
  | _ => none

theorem verifyServerGreeting_eq (reads : List Read) (kind : Kind) :
    verifyServerGreeting reads kind =
      ((acceptOf kind).map fun accept => (after accept (stream reads)).result).getD (false, 0) := by
  have known := fun accept => readServiceGreeting_eq accept reads [] 0 0 (Nat.succ_pos 4095)
  cases kind with
  | ssh | smtp | submission | smtps | imap | imaps | pop3 | pop3s => exact known _
  | _ => rfl

theorem acceptSMTP_concludes_iff (isLine : IsLine line) :
    acceptSMTP line index = (true, true) ↔ ascii "220 " <+: line := by
  constructor
  · intro judged
    rcases start_of_acceptSMTP (by rw [judged]) with space | dash
    · exact space
    · rw [acceptSMTP_of_start 45 isLine dash (by decide)] at judged
      cases judged
  · intro space
    exact acceptSMTP_of_start 32 isLine space (by decide)

theorem acceptSMTP_continues_iff (isLine : IsLine line) :
    acceptSMTP line index = (false, true) ↔ ascii "220-" <+: line := by
  constructor
  · intro judged
    rcases start_of_acceptSMTP (by rw [judged]) with space | dash
    · rw [acceptSMTP_of_start 32 isLine space (by decide)] at judged
      cases judged
    · exact dash
  · intro dash
    exact acceptSMTP_of_start 45 isLine dash (by decide)

theorem pair_eq_true_iff {valid : Bool} : (valid, valid) = (true, true) ↔ valid = true := by
  cases valid <;> simp

theorem pair_ne (valid : Bool) : (valid, valid) ≠ (false, true) := by
  cases valid <;> simp

theorem acceptIMAP_concludes_iff (isLine : IsLine line) : acceptIMAP line index = (true, true) ↔
    Delimited (ascii "* OK") line ∨ Delimited (ascii "* PREAUTH") line := by
  rw [acceptIMAP, pair_eq_true_iff, Bool.or_eq_true,
    greetingPrefixWithDelimiter_iff isLine (by decide),
    greetingPrefixWithDelimiter_iff isLine (by decide)]

theorem acceptPOP3_concludes_iff (isLine : IsLine line) :
    acceptPOP3 line index = (true, true) ↔ Delimited (ascii "+OK") line := by
  rw [acceptPOP3, pair_eq_true_iff, greetingPrefixWithDelimiter_iff isLine (by decide)]

theorem acceptSSH_concludes_iff : acceptSSH line index = (true, true) ↔
    ascii "SSH-2.0-" <+: line ∧ line.length ≤ 255 := by
  unfold acceptSSH
  split
  · rw [Prod.mk.injEq, Bool.and_eq_true, decide_eq_true_iff, List.isPrefixOf_iff_prefix]
    constructor
    · exact fun judged => ⟨judged.1.2, judged.1.1⟩
    · exact fun judged => ⟨⟨judged.2, judged.1⟩, rfl⟩
  · rename_i foreign
    constructor
    · nofun
    · rintro ⟨known, -⟩
      apply absurd _ foreign
      rw [List.isPrefixOf_iff_prefix]
      exact List.IsPrefix.trans (by decide) known

/-- A rule agrees with the grammar on the last lines, and lets pass the lines
after which the grammar goes on. -/
theorem rule_of_kind {kind : Kind} {accept : Accept} (rule : acceptOf kind = some accept)
    (isLine : IsLine line) :
    (accept line index = (true, true) ↔ Concludes kind line) ∧
      (Continues kind line → index < 7 → accept line index = (false, true)) := by
  cases kind with
  | ssh =>
      cases rule
      refine ⟨acceptSSH_concludes_iff, fun continues early => ?_⟩
      rw [acceptSSH, if_neg, decide_eq_true early]
      rw [List.isPrefixOf_iff_prefix]
      exact continues
  | smtp | submission | smtps =>
      cases rule
      exact ⟨acceptSMTP_concludes_iff isLine, fun dash _ => (acceptSMTP_continues_iff isLine).mpr dash⟩
  | imap | imaps =>
      cases rule
      exact ⟨acceptIMAP_concludes_iff isLine, nofun⟩
  | pop3 | pop3s =>
      cases rule
      exact ⟨acceptPOP3_concludes_iff isLine, nofun⟩
  | _ => cases rule

/-- A line that is let pass is one of the grammar, or an identification line
that SSH does not know. -/
theorem continues_of_passed {kind : Kind} {accept : Accept} (rule : acceptOf kind = some accept)
    (isLine : IsLine line) (passed : accept line index = (false, true)) :
    Continues kind line ∨ kind = .ssh ∧ ascii "SSH-" <+: line ∧ ¬ Concludes .ssh line := by
  cases kind with
  | ssh =>
      cases rule
      by_cases identifies : ascii "SSH-" <+: line
      · right
        refine ⟨rfl, identifies, fun concludes => ?_⟩
        rw [acceptSSH_concludes_iff.mpr concludes] at passed
        cases passed
      · exact Or.inl identifies
  | smtp | submission | smtps =>
      cases rule
      exact Or.inl ((acceptSMTP_continues_iff isLine).mp passed)
  | imap | imaps =>
      cases rule
      exact absurd passed (pair_ne _)
  | pop3 | pop3s =>
      cases rule
      exact absurd passed (pair_ne _)
  | _ => cases rule

/-! ## Exact greetings -/

/-- The answer to a stream is that of the grammar, nothing is read after the
byte that settles it, and the division of the stream does not matter. -/
structure ExactGreeting (kind : Kind) (reads : List Read) : Prop where
  verified_iff : (verifyServerGreeting reads kind).1 = true ↔
    ∃ bytes, bytes <+: stream reads ∧ IsGreeting kind bytes
  greeting : (verifyServerGreeting reads kind).1 = true →
    IsGreeting kind ((stream reads).take (verifyServerGreeting reads kind).2)
  stops : ∀ bytes, bytes <+: stream reads → bytes.length < (verifyServerGreeting reads kind).2 →
    IsOpen kind bytes
  total_le : (verifyServerGreeting reads kind).2 ≤ (stream reads).length
  divided : ∀ reads', stream reads' = stream reads →
    verifyServerGreeting reads' kind = verifyServerGreeting reads kind

/-- Bytes follow an identification line that SSH does not know, and the limits
leave room. -/
def FollowsIdentification (bytes : List UInt8) : Prop :=
  ∃ (lines : List (List UInt8)) (line rest : List UInt8),
    bytes = lines.flatten ++ line ++ rest ∧ rest ≠ [] ∧
    (∀ line ∈ lines, IsLine line ∧ ¬ ascii "SSH-" <+: line) ∧
    IsLine line ∧ ascii "SSH-" <+: line ∧ ¬ (ascii "SSH-2.0-" <+: line ∧ line.length ≤ 255) ∧
    lines.length + 1 < serviceGreetingLineCountLimit ∧
    (lines.flatten ++ line).length < serviceGreetingAggregateLimit

section Kinds

variable {kind : Kind} {accept : Accept} {reads : List Read}

/-- Every line before some byte of a stream is one of the grammar. -/
theorem continues_of_at (rule : acceptOf kind = some accept)
    (known : kind = .ssh → ¬ FollowsIdentification (bytes ++ rest)) (more : rest ≠ [])
    (place : At accept bytes line lines) : ∀ line ∈ lines, Continues kind line := by
  have early : ∀ count ≤ lines.length, ∀ line ∈ lines.take count, Continues kind line := by
    intro count
    induction count with
    | zero => exact fun _ _ member => absurd member List.not_mem_nil
    | succ count ih =>
        intro le other member
        have before := ih (by omega)
        have inside : count < lines.length := by omega
        rw [List.take_add_one, List.getElem?_eq_getElem inside, Option.toList_some] at member
        rcases List.mem_append.mp member with old | new
        · exact before other old
        · rw [List.mem_singleton.mp new]
          have isLine := place.isLine _ (List.getElem_mem inside)
          rcases continues_of_passed rule isLine
            (place.passed count _ (List.getElem?_eq_getElem inside)) with
            continues | ⟨rfl, identifies, unknown⟩
          · exact continues
          · exfalso
            apply known rfl
            have parts : lines.flatten =
                (lines.take count).flatten ++ lines[count] ++ (lines.drop (count + 1)).flatten := by
              conv_lhs => rw [← List.take_append_drop count lines, List.drop_eq_getElem_cons inside]
              rw [List.flatten_append, List.flatten_cons, List.append_assoc]
            have bytes_lt := place.bytes_lt
            have lines_lt := place.lines_lt
            rw [place.bytes_eq, parts, List.length_append, List.length_append] at bytes_lt
            refine ⟨lines.take count, lines[count], (lines.drop (count + 1)).flatten ++ line ++ rest,
              ?_, ?_, ?_, isLine, identifies, unknown, ?_, ?_⟩
            · rw [place.bytes_eq, parts]
              simp only [List.append_assoc]
            · intro empty
              exact more (List.append_eq_nil_iff.mp empty).2
            · intro earlier earlierMem
              exact ⟨place.isLine _ (List.mem_of_mem_take earlierMem), before _ earlierMem⟩
            · rw [List.length_take]
              omega
            · omega
  have all := early lines.length (Nat.le_refl _)
  rw [List.take_length] at all
  exact all

theorem isOpen_of_at (rule : acceptOf kind = some accept)
    (known : kind = .ssh → ¬ FollowsIdentification (bytes ++ rest)) (more : rest ≠ [])
    (place : At accept bytes line lines) : IsOpen kind bytes :=
  ⟨lines, line, place.bytes_eq,
    fun line member => ⟨place.isLine line member, continues_of_at rule known more place line member⟩,
    place.lines_lt, place.noFeed, place.line_le, place.bytes_lt⟩

/-- A greeting is believed with its last byte. -/
theorem after_of_isGreeting (rule : acceptOf kind = some accept) (greeting : IsGreeting kind bytes) :
    after accept bytes = settled true bytes.length := by
  rcases greeting with ⟨lines, last, rfl, each, isLine, concludes, few, fits⟩
  have long : 0 < last.length := by
    rcases isLine.ends with ⟨content, rfl, -⟩
    rw [List.length_append]
    exact Nat.succ_pos _
  rw [List.length_append] at fits
  have passed : ∀ index line, lines[index]? = some line → accept line (0 + index) = (false, true) := by
    intro index line found
    have inside := (List.getElem?_eq_some_iff.mp found).1
    have member := each line (List.mem_of_getElem? found)
    have few' : lines.length < 8 := few
    exact (rule_of_kind rule member.1).2 member.2 (by omega)
  rw [after_append, after, foldl_lines (fun line member => (each line member).1) passed (by omega) (by omega),
    foldl_isLine isLine (by omega), (rule_of_kind rule isLine).1.mpr concludes,
    if_neg Bool.false_ne_true.symm, if_pos rfl, List.length_append, Nat.zero_add]

theorem isGreeting_of_at (rule : acceptOf kind = some accept) {byte : UInt8}
    (known : kind = .ssh → ¬ FollowsIdentification (bytes ++ byte :: rest))
    (place : At accept bytes line lines) (isLine : IsLine (line ++ [byte]))
    (judged : accept (line ++ [byte]) lines.length = (true, true)) :
    IsGreeting kind (bytes ++ [byte]) := by
  refine ⟨lines, line ++ [byte], by rw [place.bytes_eq, List.append_assoc], ?_, isLine,
    (rule_of_kind rule isLine).1.mp judged, place.lines_lt, ?_⟩
  · exact fun line member => ⟨place.isLine line member,
      continues_of_at rule known (List.cons_ne_nil _ _) place line member⟩
  · rw [List.length_append, List.length_singleton]
    exact place.bytes_lt

theorem verify_of_rule (rule : acceptOf kind = some accept) (reads : List Read) :
    verifyServerGreeting reads kind = (after accept (stream reads)).result := by
  rw [verifyServerGreeting_eq, rule]
  rfl

theorem verify_of_stream {reads' : List Read} (same : stream reads' = stream reads) :
    verifyServerGreeting reads' kind = verifyServerGreeting reads kind := by
  rw [verifyServerGreeting_eq, verifyServerGreeting_eq, same]

/-- A kind without a rule has no greetings. -/
theorem not_isGreeting_of_none (none_ : acceptOf kind = none) : ¬ IsGreeting kind bytes := by
  rintro ⟨-, last, -, -, -, concludes, -⟩
  cases kind with
  | ssh | smtp | submission | smtps | imap | imaps | pop3 | pop3s => cases none_
  | _ => exact concludes

theorem exactGreeting_of_none (none_ : acceptOf kind = none) : ExactGreeting kind reads := by
  have refused : verifyServerGreeting reads kind = (false, 0) := by
    rw [verifyServerGreeting_eq, none_]
    rfl
  constructor
  · rw [refused]
    constructor
    · nofun
    · rintro ⟨bytes, -, greeting⟩
      exact absurd greeting (not_isGreeting_of_none none_)
  · rw [refused]
    nofun
  · rw [refused]
    exact fun _ _ less => absurd less (Nat.not_lt_zero _)
  · rw [refused]
    exact Nat.zero_le _
  · exact fun _ same => verify_of_stream same

theorem exactGreeting_of_known (rule : acceptOf kind = some accept)
    (known : kind = .ssh → ¬ FollowsIdentification (stream reads)) : ExactGreeting kind reads := by
  rcases result_cases accept (stream reads) with ⟨before, rest, stream_eq, total_eq, -, places, verified⟩
  have verify_eq := verify_of_rule rule reads
  rw [← verify_eq] at total_eq verified
  have greeting : (verifyServerGreeting reads kind).1 = true → IsGreeting kind before := by
    intro believed
    rcases verified believed with ⟨part, byte, line, lines, rfl, place, isLine, judged⟩
    have whole : stream reads = part ++ byte :: rest := by
      rw [stream_eq, List.append_assoc]
      rfl
    rw [whole] at known
    exact isGreeting_of_at rule known place isLine judged
  constructor
  · constructor
    · intro believed
      exact ⟨before, ⟨rest, stream_eq.symm⟩, greeting believed⟩
    · rintro ⟨bytes, ⟨rest', whole⟩, isGreeting⟩
      rw [verify_eq, ← whole, after_append, after_of_isGreeting rule isGreeting, foldl_settled]
      rfl
  · intro believed
    rw [total_eq, stream_eq, List.take_left]
    exact greeting believed
  · rintro bytes ⟨rest', whole⟩ less
    rw [total_eq] at less
    have inside : bytes <+: before := by
      apply List.prefix_of_prefix_length_le _ ⟨rest, stream_eq.symm⟩ (Nat.le_of_lt less)
      exact ⟨rest', whole⟩
    have ne : bytes ≠ before := by
      rintro rfl
      exact Nat.lt_irrefl _ less
    rcases places bytes inside ne with ⟨line, lines, place⟩
    have more : rest' ≠ [] := by
      rintro rfl
      rw [List.append_nil] at whole
      have le := congrArg List.length stream_eq
      rw [← whole, List.length_append] at le
      omega
    apply isOpen_of_at rule _ more place
    rw [whole]
    exact known
  · rw [total_eq, stream_eq, List.length_append]
    exact Nat.le_add_right _ _
  · exact fun _ same => verify_of_stream same

end Kinds

/-! ## Lines that SSH does not know -/

theorem append_cons_cancel {A : Type} {member : A} {first second rest rest' : List A}
    (notFirst : member ∉ first) (notSecond : member ∉ second)
    (same : first ++ member :: rest = second ++ member :: rest') : first = second ∧ rest = rest' := by
  induction first generalizing second with
  | nil =>
      cases second with
      | nil => exact ⟨rfl, (List.cons.inj same).2⟩
      | cons head tail =>
          cases (List.cons.inj same).1
          exact absurd (List.mem_cons_self ..) notSecond
  | cons head tail ih =>
      cases second with
      | nil =>
          cases (List.cons.inj same).1
          exact absurd (List.mem_cons_self ..) notFirst
      | cons head' tail' =>
          rcases List.cons.inj same with ⟨rfl, tails⟩
          rcases ih (fun inside => notFirst (List.mem_cons_of_mem _ inside))
            (fun inside => notSecond (List.mem_cons_of_mem _ inside)) tails with ⟨rfl, rfl⟩
          exact ⟨rfl, rfl⟩

theorem IsLine.split (isLine : IsLine line) :
    ∃ content, line = content ++ [lineFeed] ∧ lineFeed ∉ content := by
  rcases isLine.ends with ⟨content, rfl, noFeed⟩
  refine ⟨content ++ [carriageReturn], by rw [List.append_assoc]; rfl, ?_⟩
  rw [List.mem_append, List.mem_singleton]
  rintro (inside | same)
  · exact noFeed inside
  · cases same

/-- Bytes are divided into lines in one way. -/
theorem lines_unique {lines' : List (List UInt8)} (isLine : ∀ line ∈ lines, IsLine line)
    (isLine' : ∀ line ∈ lines', IsLine line) (noFeed : lineFeed ∉ rest)
    (same : lines.flatten = lines'.flatten ++ rest) : lines = lines' := by
  induction lines generalizing lines' with
  | nil =>
      cases lines' with
      | nil => rfl
      | cons first lines' =>
          rcases (isLine' first (List.mem_cons_self ..)).split with ⟨content, rfl, -⟩
          rw [List.flatten_nil, List.flatten_cons, List.append_assoc, List.append_assoc] at same
          exact absurd (List.append_eq_nil_iff.mp same.symm).2 (List.cons_ne_nil _ _)
  | cons first lines ih =>
      rcases (isLine first (List.mem_cons_self ..)).split with ⟨content, rfl, noFeedContent⟩
      rw [List.flatten_cons, List.append_assoc, List.singleton_append] at same
      cases lines' with
      | nil =>
          rw [List.flatten_nil, List.nil_append] at same
          rw [← same] at noFeed
          exact absurd (List.mem_append_right _ (List.mem_cons_self ..)) noFeed
      | cons first' lines' =>
          rcases (isLine' first' (List.mem_cons_self ..)).split with ⟨content', rfl, noFeedContent'⟩
          rw [List.flatten_cons, List.append_assoc, List.append_assoc, List.singleton_append] at same
          rcases append_cons_cancel noFeedContent noFeedContent' same with ⟨rfl, tails⟩
          rw [ih (fun line member => isLine line (List.mem_cons_of_mem _ member))
            (fun line member => isLine' line (List.mem_cons_of_mem _ member)) tails]

/-- The lines up to one that SSH does not know are behind it, and it reads on. -/
theorem not_exactGreeting_of_follows {reads : List Read}
    (follows : FollowsIdentification (stream reads)) : ¬ ExactGreeting .ssh reads := by
  intro exact_
  rcases follows with ⟨lines, line, rest, stream_eq, more, each, isLine, identifies, unknown, few, room⟩
  have isLines : ∀ other ∈ lines ++ [line], IsLine other := by
    intro other member
    rcases List.mem_append.mp member with old | new
    · exact (each other old).1
    · rw [List.mem_singleton.mp new]
      exact isLine
  have flatten_eq : (lines ++ [line]).flatten = lines.flatten ++ line := by
    rw [List.flatten_append, List.flatten_singleton]
  have passed : ∀ index other, (lines ++ [line])[index]? = some other →
      acceptSSH other index = (false, true) := by
    intro index other found
    rcases Collection.getElem?_concat_cases.mp found with ⟨rfl, rfl⟩ | old
    · rw [acceptSSH, if_pos (List.isPrefixOf_iff_prefix.mpr identifies)]
      rw [Prod.mk.injEq]
      refine ⟨?_, rfl⟩
      rw [Bool.and_eq_false_iff, decide_eq_false_iff_not, ← Bool.not_eq_true,
        List.isPrefixOf_iff_prefix]
      by_cases short : other.length ≤ 255
      · exact Or.inr fun known => unknown ⟨known, short⟩
      · exact Or.inl short
    · have inside := (List.getElem?_eq_some_iff.mp old).1
      have early : index < 7 := by
        change lines.length + 1 < 8 at few
        omega
      exact (rule_of_kind (show acceptOf .ssh = some acceptSSH from rfl) (each other (List.mem_of_getElem? old)).1).2
        (each other (List.mem_of_getElem? old)).2 early
  have place : At acceptSSH (lines.flatten ++ line) [] (lines ++ [line]) :=
    ⟨by rw [flatten_eq, List.append_nil], isLines, passed, List.not_mem_nil, Nat.zero_le _,
      by rw [List.length_append, List.length_singleton]; exact few, room⟩
  have further : (lines.flatten ++ line).length < (verifyServerGreeting reads .ssh).2 := by
    rcases result_cases acceptSSH (stream reads) with ⟨before, rest', whole, total_eq, settled, -, -⟩
    rw [verify_of_rule (show acceptOf .ssh = some acceptSSH from rfl), total_eq]
    by_contra short
    rcases settled with rfl | ⟨verified, settled⟩
    · rw [List.append_nil] at whole
      have long := List.length_pos_iff.mpr more
      have length_eq := congrArg List.length (whole.symm.trans stream_eq)
      rw [List.length_append] at length_eq
      omega
    · have inside : before <+: lines.flatten ++ line := by
        apply List.prefix_of_prefix_length_le _ ⟨rest, stream_eq.symm⟩ (Nat.not_lt.mp short)
        exact ⟨rest', whole.symm⟩
      rcases inside with ⟨between, inside⟩
      rw [← inside] at place
      exact place.not_settled settled
  rcases exact_.stops _ ⟨rest, stream_eq.symm⟩ further with
    ⟨lines', rest', bytes_eq, each', -, noFeed, -, -⟩
  rw [← flatten_eq] at bytes_eq
  have unique := lines_unique isLines (fun other member => (each' other member).1) noFeed bytes_eq
  have member : line ∈ lines' := by
    rw [← unique]
    exact List.mem_append_right _ (List.mem_singleton.mpr rfl)
  exact (each' line member).2 identifies

/-- All greetings are exact but those of SSH after an identification line that
it does not know. -/
theorem exactGreeting_iff (kind : Kind) (reads : List Read) :
    ExactGreeting kind reads ↔ ¬ (kind = .ssh ∧ FollowsIdentification (stream reads)) := by
  constructor
  · rintro exact_ ⟨rfl, follows⟩
    exact not_exactGreeting_of_follows follows exact_
  · intro known
    rw [not_and] at known
    cases rule : acceptOf kind with
    | none => exact exactGreeting_of_none rule
    | some accept => exact exactGreeting_of_known rule known

/-- The reads of single bytes. -/
def byteReads (text : String) : List Read := (ascii text).map fun byte => ⟨some byte, false⟩

/-- A version that SSH does not know, and then one that it knows. -/
def oldThenNew : List Read := byteReads "SSH-1.5-old\r\nSSH-2.0-x\r\n"

/-- It is believed without a greeting. -/
theorem ssh_reads_on : (verifyServerGreeting oldThenNew .ssh).1 = true ∧
    ¬ (∃ bytes, bytes <+: stream oldThenNew ∧ IsGreeting .ssh bytes) ∧
    ¬ ExactGreeting .ssh oldThenNew := by
  have old : IsLine (ascii "SSH-1.5-old\r\n") := ⟨⟨ascii "SSH-1.5-old", by decide, by decide⟩, by decide⟩
  have new : IsLine (ascii "SSH-2.0-x\r\n") := ⟨⟨ascii "SSH-2.0-x", by decide, by decide⟩, by decide⟩
  have total : (verifyServerGreeting oldThenNew .ssh).2 = (stream oldThenNew).length := by decide
  have none_ : ¬ ∃ bytes, bytes <+: stream oldThenNew ∧ IsGreeting .ssh bytes := by
    rintro ⟨bytes, isPrefix, greeting⟩
    have read := after_of_isGreeting (show acceptOf .ssh = some acceptSSH from rfl) greeting
    have length_eq : bytes.length = (stream oldThenNew).length := by
      rcases isPrefix with ⟨rest, whole⟩
      rw [← total, verify_of_rule (show acceptOf .ssh = some acceptSSH from rfl), ← whole,
        after_append, read, foldl_settled]
      rfl
    have all := isPrefix.eq_of_length length_eq
    rcases greeting with ⟨lines, last, bytes_eq, each, isLine, -, -, -⟩
    have isLines : ∀ line ∈ lines ++ [last], IsLine line := by
      intro line member
      rcases List.mem_append.mp member with first | final
      · exact (each line first).1
      · rw [List.mem_singleton.mp final]
        exact isLine
    have same : [ascii "SSH-1.5-old\r\n", ascii "SSH-2.0-x\r\n"].flatten =
        (lines ++ [last]).flatten ++ [] := by
      rw [List.append_nil, List.flatten_append, List.flatten_singleton, ← bytes_eq, all]
      decide
    have both : ∀ line ∈ [ascii "SSH-1.5-old\r\n", ascii "SSH-2.0-x\r\n"], IsLine line := by
      intro line member
      rcases List.mem_cons.mp member with rfl | rest
      · exact old
      · rw [List.mem_singleton.mp rest]
        exact new
    have unique := lines_unique both isLines List.not_mem_nil same
    have first_eq : [ascii "SSH-1.5-old\r\n"] = lines := List.append_inj_left' unique rfl
    exact (each (ascii "SSH-1.5-old\r\n") (by rw [← first_eq]; exact List.mem_singleton.mpr rfl)).2
      (by decide)
  exact ⟨by decide, none_, fun exact_ => none_ (exact_.verified_iff.mp (by decide))⟩

end CheckNetwork.Diagnostic
