import CheckNetwork.Collection.Census
import CheckNetwork.Diagnostic.Service
import Mathlib.Data.List.Induction

/-!
# The grammar of greetings

What is read does not depend on how the connection divides its bytes.  A kind
is believed after lines of its grammar, and nothing is read after the line that
settles the matter, except by SSH, which reads on after an identification line
that it does not know.
-/

namespace CheckNetwork.Diagnostic

open Collection

/-! ## Grammar -/

/-- A line within the limit, with its end. -/
structure IsLine (line : List UInt8) : Prop where
  ends : ∃ content, line = content ++ [carriageReturn, lineFeed] ∧ lineFeed ∉ content
  length_le : line.length ≤ serviceGreetingLineLimit

/-- A start followed by a space or by the end of the line. -/
def Delimited (start line : List UInt8) : Prop :=
  start ++ [32] <+: line ∨ line = start ++ [carriageReturn, lineFeed]

/-- The lines after which a greeting goes on. -/
def Continues : Kind → List UInt8 → Prop
  | .ssh, line => ¬ ascii "SSH-" <+: line
  | .smtp, line | .submission, line | .smtps, line => ascii "220-" <+: line
  | _, _ => False

/-- The last lines of greetings. -/
def Concludes : Kind → List UInt8 → Prop
  | .ssh, line => ascii "SSH-2.0-" <+: line ∧ line.length ≤ 255
  | .smtp, line | .submission, line | .smtps, line => ascii "220 " <+: line
  | .imap, line | .imaps, line =>
      Delimited (ascii "* OK") line ∨ Delimited (ascii "* PREAUTH") line
  | .pop3, line | .pop3s, line => Delimited (ascii "+OK") line
  | _, _ => False

def IsGreeting (kind : Kind) (bytes : List UInt8) : Prop :=
  ∃ (lines : List (List UInt8)) (last : List UInt8), bytes = lines.flatten ++ last ∧
    (∀ line ∈ lines, IsLine line ∧ Continues kind line) ∧ IsLine last ∧ Concludes kind last ∧
    lines.length < serviceGreetingLineCountLimit ∧ bytes.length ≤ serviceGreetingAggregateLimit

/-- The lines so far settle nothing, and the limits leave room. -/
def IsOpen (kind : Kind) (bytes : List UInt8) : Prop :=
  ∃ (lines : List (List UInt8)) (rest : List UInt8), bytes = lines.flatten ++ rest ∧
    (∀ line ∈ lines, IsLine line ∧ Continues kind line) ∧
    lines.length < serviceGreetingLineCountLimit ∧ lineFeed ∉ rest ∧
    rest.length ≤ serviceGreetingLineLimit ∧ bytes.length < serviceGreetingAggregateLimit

/-! ## Divisions of a stream -/

/-- The bytes that come before an error. -/
def stream : List Read → List UInt8
  | [] => []
  | read :: reads => read.byte.toList ++ if read.failed then [] else stream reads

/-- What a byte does to the reading, as long as it goes on. -/
inductive Progress
  | reading (line : List UInt8) (total lineIndex : Nat)
  | settled (verified : Bool) (total : Nat)
  deriving DecidableEq

namespace Progress

def step (accept : Accept) : Progress → UInt8 → Progress
  | settled verified total, _ => settled verified total
  | reading line total lineIndex, byte =>
      if isBroken (line ++ [byte]) byte then settled false (total + 1)
      else if isComplete (line ++ [byte]) then
        if (accept (line ++ [byte]) lineIndex).2 = false then settled false (total + 1)
        else if (accept (line ++ [byte]) lineIndex).1 then settled true (total + 1)
        else if lineIndex + 1 = serviceGreetingLineCountLimit then settled false (total + 1)
        else if total + 1 = serviceGreetingAggregateLimit then settled false (total + 1)
        else reading [] (total + 1) (lineIndex + 1)
      else if total + 1 = serviceGreetingAggregateLimit then settled false (total + 1)
      else reading (line ++ [byte]) (total + 1) lineIndex

/-- What is returned when there is nothing more to read. -/
def result : Progress → Bool × Nat
  | reading _ total _ => (false, total)
  | settled verified total => (verified, total)

variable {accept : Accept}

theorem foldl_settled (verified : Bool) (total : Nat) (bytes : List UInt8) :
    bytes.foldl (step accept) (settled verified total) = settled verified total := by
  induction bytes with
  | nil => rfl
  | cons byte bytes ih => exact ih

end Progress

open Progress

theorem readServiceGreeting_full (accept : Accept) (reads : List Read) (line : List UInt8)
    (lineIndex : Nat) : readServiceGreeting accept reads line serviceGreetingAggregateLimit lineIndex =
      (false, serviceGreetingAggregateLimit) := by
  cases reads with
  | nil => rfl
  | cons read reads => rw [readServiceGreeting, if_pos (Nat.le_refl _)]

/-- The reads of a stream are worth its bytes. -/
theorem readServiceGreeting_eq (accept : Accept) (reads : List Read) (line : List UInt8)
    (total lineIndex : Nat) (room : total < serviceGreetingAggregateLimit) :
    readServiceGreeting accept reads line total lineIndex =
      ((stream reads).foldl (step accept) (reading line total lineIndex)).result := by
  induction reads generalizing line total lineIndex with
  | nil => rfl
  | cons read reads ih =>
      rw [readServiceGreeting, if_neg (Nat.not_le.mpr room), stream]
      cases read.byte with
      | none =>
          dsimp only
          split
          · rfl
          · exact ih line total lineIndex room
      | some byte =>
          -- What follows a byte that settles nothing.
          have tail : ∀ line lineIndex, (if read.failed then (false, total + 1)
              else readServiceGreeting accept reads line (total + 1) lineIndex) =
              ((if read.failed then [] else stream reads).foldl (step accept)
                (if total + 1 = serviceGreetingAggregateLimit then settled false (total + 1)
                  else reading line (total + 1) lineIndex)).result := by
            intro line lineIndex
            cases read.failed with
            | true =>
                rw [if_pos rfl, if_pos rfl, List.foldl_nil]
                split <;> rfl
            | false =>
                rw [if_neg Bool.false_ne_true, if_neg Bool.false_ne_true]
                split
                · rename_i full
                  rw [foldl_settled, full, readServiceGreeting_full]
                  rfl
                · rename_i notFull
                  exact ih line (total + 1) lineIndex (Nat.lt_of_le_of_ne room notFull)
          rw [Option.toList_some, List.singleton_append, List.foldl_cons, step]
          dsimp only
          split
          · rw [foldl_settled]
            rfl
          · split
            · cases accept (line ++ [byte]) lineIndex with
              | mk done valid =>
                  cases valid with
                  | false =>
                      rw [if_pos rfl, foldl_settled]
                      rfl
                  | true =>
                      rw [if_neg (show ¬ true = false from nofun)]
                      cases done with
                      | true =>
                          change (true, total + 1) = (List.foldl _ (settled true (total + 1)) _).result
                          rw [foldl_settled]
                          rfl
                      | false =>
                          rw [if_neg Bool.false_ne_true]
                          change (if lineIndex + 1 = serviceGreetingLineCountLimit then _ else _) = _
                          split
                          · change (false, total + 1) =
                              (List.foldl _ (settled false (total + 1)) _).result
                            rw [foldl_settled]
                            rfl
                          · exact tail [] (lineIndex + 1)
            · exact tail (line ++ [byte]) lineIndex

/-! ## What reading goes through -/

namespace Progress

/-- A sound place in a stream: the lines that were read, none of which settled
anything. -/
structure At (accept : Accept) (bytes line : List UInt8) (lines : List (List UInt8)) : Prop where
  bytes_eq : bytes = lines.flatten ++ line
  isLine : ∀ line ∈ lines, IsLine line
  passed : ∀ index line, lines[index]? = some line → accept line index = (false, true)
  noFeed : lineFeed ∉ line
  line_le : line.length ≤ serviceGreetingLineLimit
  lines_lt : lines.length < serviceGreetingLineCountLimit
  bytes_lt : bytes.length < serviceGreetingAggregateLimit

variable {accept : Accept} {line : List UInt8} {byte : UInt8}

theorem getElem?_length_sub_two (line : List UInt8) (byte : UInt8) (two : 2 ≤ (line ++ [byte]).length) :
    (line ++ [byte])[(line ++ [byte]).length - 2]? = line.getLast? := by
  rw [List.length_append, List.length_singleton] at two ⊢
  rw [List.getElem?_append_left (by omega), List.getLast?_eq_getElem?]
  rfl

theorem getElem?_length_sub_one (line : List UInt8) (byte : UInt8) :
    (line ++ [byte])[(line ++ [byte]).length - 1]? = some byte := by
  rw [← List.getLast?_eq_getElem?, List.getLast?_concat]

theorem isComplete_append (line : List UInt8) (byte : UInt8) :
    isComplete (line ++ [byte]) = true ↔
      line.getLast? = some carriageReturn ∧ byte = lineFeed := by
  rw [isComplete, Bool.and_eq_true, Bool.and_eq_true, decide_eq_true_iff, decide_eq_true_iff,
    decide_eq_true_iff, getElem?_length_sub_one, Option.some_inj]
  constructor
  · rintro ⟨⟨two, before⟩, feed⟩
    rw [getElem?_length_sub_two line byte two] at before
    exact ⟨before, feed⟩
  · rintro ⟨before, feed⟩
    have two : 2 ≤ (line ++ [byte]).length := by
      cases line with
      | nil => cases before
      | cons first rest => simp
    rw [getElem?_length_sub_two line byte two]
    exact ⟨⟨two, before⟩, feed⟩

theorem isBroken_append (line : List UInt8) (byte : UInt8) :
    isBroken (line ++ [byte]) byte = true ↔ serviceGreetingLineLimit < line.length + 1 ∨
      byte = lineFeed ∧ line.getLast? ≠ some carriageReturn := by
  rw [isBroken, Bool.or_eq_true, Bool.and_eq_true, Bool.or_eq_true, decide_eq_true_iff,
    decide_eq_true_iff, decide_eq_true_iff, decide_eq_true_iff]
  by_cases two : 2 ≤ (line ++ [byte]).length
  · rw [getElem?_length_sub_two line byte two, List.length_append, List.length_singleton]
    rw [List.length_append, List.length_singleton] at two
    have notLess : ¬ line.length + 1 < 2 := by omega
    simp only [notLess, false_or]
  · have empty : line = [] := by
      cases line with
      | nil => rfl
      | cons first rest => exact absurd (by simp) two
    subst empty
    simp

/-- A byte of a line that goes on. -/
theorem step_content (ne : byte ≠ lineFeed) (short : line.length < serviceGreetingLineLimit)
    {total lineIndex : Nat} : step accept (reading line total lineIndex) byte =
      if total + 1 = serviceGreetingAggregateLimit then settled false (total + 1)
      else reading (line ++ [byte]) (total + 1) lineIndex := by
  have sound : ¬ isBroken (line ++ [byte]) byte = true := by
    rw [isBroken_append]
    rintro (long | ⟨feed, -⟩)
    · omega
    · exact ne feed
  have unfinished : ¬ isComplete (line ++ [byte]) = true := by
    rw [isComplete_append]
    exact fun complete => ne complete.2
  rw [step, if_neg sound, if_neg unfinished]

/-- The last byte of a line. -/
theorem step_feed (before : line.getLast? = some carriageReturn)
    (short : line.length < serviceGreetingLineLimit) {total lineIndex : Nat} :
    step accept (reading line total lineIndex) lineFeed =
      if (accept (line ++ [lineFeed]) lineIndex).2 = false then settled false (total + 1)
      else if (accept (line ++ [lineFeed]) lineIndex).1 then settled true (total + 1)
      else if lineIndex + 1 = serviceGreetingLineCountLimit then settled false (total + 1)
      else if total + 1 = serviceGreetingAggregateLimit then settled false (total + 1)
      else reading [] (total + 1) (lineIndex + 1) := by
  have sound : ¬ isBroken (line ++ [lineFeed]) lineFeed = true := by
    rw [isBroken_append]
    rintro (long | ⟨-, notReturn⟩)
    · omega
    · exact notReturn before
  rw [step, if_neg sound, if_pos ((isComplete_append line lineFeed).mpr ⟨before, rfl⟩)]

theorem foldl_content {content : List UInt8} {total lineIndex : Nat} (noFeed : lineFeed ∉ content)
    (short : line.length + content.length ≤ serviceGreetingLineLimit)
    (room : total + content.length < serviceGreetingAggregateLimit) :
    content.foldl (step accept) (reading line total lineIndex) =
      reading (line ++ content) (total + content.length) lineIndex := by
  induction content generalizing line total with
  | nil => rw [List.foldl_nil, List.append_nil, List.length_nil, Nat.add_zero]
  | cons byte content ih =>
      rw [List.length_cons] at short room
      rw [List.mem_cons, not_or] at noFeed
      rw [List.foldl_cons, step_content (Ne.symm noFeed.1) (by omega), if_neg (by omega),
        ih noFeed.2 (by rw [List.length_append, List.length_singleton]; omega) (by omega),
        List.append_assoc, List.length_cons, Nat.add_assoc, Nat.add_comm 1]
      rfl

/-- The reading of a line up to its last byte. -/
theorem foldl_isLine (isLine : IsLine line) {total lineIndex : Nat}
    (room : total + line.length ≤ serviceGreetingAggregateLimit) :
    line.foldl (step accept) (reading [] total lineIndex) =
      if (accept line lineIndex).2 = false then settled false (total + line.length)
      else if (accept line lineIndex).1 then settled true (total + line.length)
      else if lineIndex + 1 = serviceGreetingLineCountLimit then settled false (total + line.length)
      else if total + line.length = serviceGreetingAggregateLimit then
        settled false (total + line.length)
      else reading [] (total + line.length) (lineIndex + 1) := by
  rcases isLine.ends with ⟨content, line_eq, noFeed⟩
  have short := isLine.length_le
  have split_eq : line = (content ++ [carriageReturn]) ++ [lineFeed] := by
    rw [line_eq, List.append_assoc]
    rfl
  have length_eq : line.length = content.length + 2 := by
    rw [line_eq, List.length_append]
    rfl
  have noFeedReturn : lineFeed ∉ content ++ [carriageReturn] := by
    rw [List.mem_append, List.mem_singleton]
    rintro (inside | same)
    · exact noFeed inside
    · cases same
  have started : (content ++ [carriageReturn]).foldl (step accept) (reading [] total lineIndex) =
      reading (content ++ [carriageReturn]) (total + (content.length + 1)) lineIndex := by
    rw [foldl_content noFeedReturn
      (by simp only [List.length_nil, List.length_append, List.length_singleton]; omega)
      (by simp only [List.length_append, List.length_singleton]; omega), List.nil_append,
      List.length_append, List.length_singleton]
  have total_eq : total + (content.length + 1) + 1 = total + line.length := by omega
  conv_lhs => rw [split_eq]
  rw [List.foldl_append, started, List.foldl_cons, List.foldl_nil,
    step_feed List.getLast?_concat (by rw [List.length_append, List.length_singleton]; omega),
    ← split_eq, total_eq]

/-- Lines that settle nothing. -/
theorem foldl_lines {lines : List (List UInt8)} (isLine : ∀ line ∈ lines, IsLine line)
    {total lineIndex : Nat}
    (passed : ∀ index line, lines[index]? = some line → accept line (lineIndex + index) = (false, true))
    (few : lineIndex + lines.length < serviceGreetingLineCountLimit)
    (room : total + lines.flatten.length < serviceGreetingAggregateLimit) :
    lines.flatten.foldl (step accept) (reading [] total lineIndex) =
      reading [] (total + lines.flatten.length) (lineIndex + lines.length) := by
  induction lines generalizing total lineIndex with
  | nil => rfl
  | cons first rest ih =>
      rw [List.flatten_cons, List.length_append] at room
      rw [List.length_cons] at few
      have firstPassed : accept first lineIndex = (false, true) := passed 0 first rfl
      rw [List.flatten_cons, List.foldl_append, foldl_isLine (isLine first (List.mem_cons_self ..)) (by omega),
        firstPassed, if_neg (show ¬ true = false from nofun), if_neg Bool.false_ne_true,
        if_neg (by omega), if_neg (by omega),
        ih (fun line member => isLine line (List.mem_cons_of_mem _ member))
          (fun index line found => by
            rw [Nat.add_assoc, Nat.add_comm 1]
            exact passed (index + 1) line found) (by omega) (by omega),
        List.length_append, List.length_cons, Nat.add_assoc, Nat.add_assoc, Nat.add_comm 1]

/-- What is known after some bytes. -/
def after (accept : Accept) (bytes : List UInt8) : Progress :=
  bytes.foldl (step accept) (reading [] 0 0)

variable {bytes rest : List UInt8} {lines : List (List UInt8)}

theorem after_of_at (place : At accept bytes line lines) :
    after accept bytes = reading line bytes.length lines.length := by
  have bytes_lt := place.bytes_lt
  have line_le := place.line_le
  have lines_lt := place.lines_lt
  have length_eq : bytes.length = lines.flatten.length + line.length := by
    rw [place.bytes_eq, List.length_append]
  have read : lines.flatten.foldl (step accept) (reading [] 0 0) =
      reading [] (0 + lines.flatten.length) (0 + lines.length) :=
    foldl_lines place.isLine (fun index line found => by
      rw [Nat.zero_add]
      exact place.passed index line found) (by omega) (by omega)
  rw [after]
  conv_lhs => rw [place.bytes_eq]
  rw [List.foldl_append, read, foldl_content place.noFeed (by rw [List.length_nil]; omega) (by omega),
    List.nil_append, length_eq, Nat.zero_add, Nat.zero_add]

theorem after_concat (bytes : List UInt8) (byte : UInt8) :
    after accept (bytes ++ [byte]) = step accept (after accept bytes) byte := by
  rw [after, List.foldl_append, List.foldl_cons, List.foldl_nil, after]

/-- The line that a byte ends. -/
theorem isLine_of_complete (noFeed : lineFeed ∉ line) (short : line.length < serviceGreetingLineLimit)
    (before : line.getLast? = some carriageReturn) : IsLine (line ++ [lineFeed]) := by
  rcases List.getLast?_eq_some_iff.mp before with ⟨content, rfl⟩
  constructor
  · refine ⟨content, by rw [List.append_assoc]; rfl, ?_⟩
    exact fun inside => noFeed (List.mem_append_left _ inside)
  · rw [List.length_append, List.length_singleton]
    exact short

theorem At.line_append (place : At accept bytes line lines) {byte : UInt8} (ne : byte ≠ lineFeed)
    (short : line.length < serviceGreetingLineLimit)
    (room : bytes.length + 1 < serviceGreetingAggregateLimit) :
    At accept (bytes ++ [byte]) (line ++ [byte]) lines where
  bytes_eq := by rw [place.bytes_eq, List.append_assoc]
  isLine := place.isLine
  passed := place.passed
  noFeed := by
    rw [List.mem_append, List.mem_singleton]
    rintro (inside | same)
    · exact place.noFeed inside
    · exact ne same.symm
  line_le := by
    rw [List.length_append, List.length_singleton]
    exact short
  lines_lt := place.lines_lt
  bytes_lt := by
    rw [List.length_append, List.length_singleton]
    exact room

theorem At.lines_append (place : At accept bytes line lines)
    (isLine : IsLine (line ++ [lineFeed]))
    (passed : accept (line ++ [lineFeed]) lines.length = (false, true))
    (few : lines.length + 1 < serviceGreetingLineCountLimit)
    (room : bytes.length + 1 < serviceGreetingAggregateLimit) :
    At accept (bytes ++ [lineFeed]) [] (lines ++ [line ++ [lineFeed]]) where
  bytes_eq := by
    rw [place.bytes_eq, List.flatten_append, List.flatten_singleton, List.append_nil,
      List.append_assoc]
  isLine := by
    intro other member
    rcases List.mem_append.mp member with old | new
    · exact place.isLine other old
    · rw [List.mem_singleton.mp new]
      exact isLine
  passed := by
    intro index other found
    rcases getElem?_concat_cases.mp found with ⟨rfl, rfl⟩ | old
    · exact passed
    · exact place.passed index other old
  noFeed := List.not_mem_nil
  line_le := Nat.zero_le _
  lines_lt := by
    rw [List.length_append, List.length_singleton]
    exact few
  bytes_lt := by
    rw [List.length_append, List.length_singleton]
    exact room

/-- What one more byte leads to. -/
theorem step_cases (place : At accept bytes line lines) (byte : UInt8) :
    (∃ line' lines', step accept (reading line bytes.length lines.length) byte =
        reading line' (bytes.length + 1) lines'.length ∧ At accept (bytes ++ [byte]) line' lines') ∨
      step accept (reading line bytes.length lines.length) byte = settled false (bytes.length + 1) ∨
      step accept (reading line bytes.length lines.length) byte = settled true (bytes.length + 1) ∧
        IsLine (line ++ [byte]) ∧ accept (line ++ [byte]) lines.length = (true, true) := by
  have lines_lt := place.lines_lt
  have bytes_lt := place.bytes_lt
  by_cases broken : isBroken (line ++ [byte]) byte = true
  · right
    left
    rw [step, if_pos broken]
  · have sound := broken
    rw [isBroken_append, not_or, not_and, not_not] at sound
    have short : line.length < serviceGreetingLineLimit := by omega
    by_cases feed : byte = lineFeed
    · subst feed
      have before := sound.2 rfl
      have isLine := isLine_of_complete place.noFeed short before
      rw [step_feed before short]
      cases judged : accept (line ++ [lineFeed]) lines.length with
      | mk done valid =>
          cases valid with
          | false => exact Or.inr (Or.inl (if_pos rfl))
          | true =>
              rw [if_neg (show ¬ true = false from nofun)]
              cases done with
              | true => exact Or.inr (Or.inr ⟨if_pos rfl, isLine, rfl⟩)
              | false =>
                  rw [if_neg Bool.false_ne_true]
                  split
                  · exact Or.inr (Or.inl rfl)
                  · split
                    · exact Or.inr (Or.inl rfl)
                    · left
                      refine ⟨[], lines ++ [line ++ [lineFeed]], ?_,
                        place.lines_append isLine judged (by omega) (by omega)⟩
                      rw [List.length_append, List.length_singleton]
    · rw [step_content feed short]
      split
      · exact Or.inr (Or.inl rfl)
      · exact Or.inl ⟨line ++ [byte], lines, rfl, place.line_append feed short (by omega)⟩

theorem at_nil : At accept [] [] [] where
  bytes_eq := rfl
  isLine := nofun
  passed := nofun
  noFeed := List.not_mem_nil
  line_le := Nat.zero_le _
  lines_lt := Nat.succ_pos 7
  bytes_lt := Nat.succ_pos 4095

/-- Reading either goes on or has been settled by some byte. -/
theorem after_cases (accept : Accept) (bytes : List UInt8) :
    (∃ line lines, At accept bytes line lines) ∨
      ∃ before byte rest line lines, bytes = before ++ byte :: rest ∧ At accept before line lines ∧
        after accept (before ++ [byte]) = after accept bytes ∧
        (after accept bytes = settled false (before.length + 1) ∨
          after accept bytes = settled true (before.length + 1) ∧ IsLine (line ++ [byte]) ∧
            accept (line ++ [byte]) lines.length = (true, true)) := by
  induction bytes using List.reverseRecOn with
  | nil => exact Or.inl ⟨[], [], at_nil⟩
  | append_singleton bytes byte ih =>
      rcases ih with ⟨line, lines, place⟩ | ⟨before, first, rest, line, lines, rfl, place, same, settled⟩
      · rcases step_cases place byte with ⟨line', lines', -, place'⟩ | settled
        · exact Or.inl ⟨line', lines', place'⟩
        · rw [← after_of_at place, ← after_concat] at settled
          exact Or.inr ⟨bytes, byte, [], line, lines, rfl, place, rfl, settled⟩
      · right
        have kept : after accept (before ++ first :: rest ++ [byte]) =
            after accept (before ++ first :: rest) := by
          rw [after_concat]
          rcases settled with refused | ⟨verified, -⟩
          · rw [refused]
            rfl
          · rw [verified]
            rfl
        refine ⟨before, first, rest ++ [byte], line, lines, by rw [List.append_assoc]; rfl, place, ?_, ?_⟩
        · rw [kept, same]
        · rw [kept]
          exact settled

/-- What settled a part of a stream settled the stream. -/
theorem after_append (before rest : List UInt8) :
    after accept (before ++ rest) = rest.foldl (step accept) (after accept before) := by
  rw [after, List.foldl_append, after]

theorem At.not_settled (place : At accept (bytes ++ rest) line lines) {verified : Bool} {total : Nat} :
    after accept bytes ≠ settled verified total := by
  intro settled
  have still := after_of_at place
  rw [after_append, settled, foldl_settled] at still
  cases still

/-- Whatever comes before a sound place was one. -/
theorem At.before (place : At accept (bytes ++ rest) line lines) :
    ∃ line lines, At accept bytes line lines := by
  rcases after_cases accept bytes with sound | ⟨before, byte, rest', line', lines', rfl, place', -, settled⟩
  · exact sound
  · rcases settled with refused | ⟨verified, -⟩
    · exact absurd refused place.not_settled
    · exact absurd verified place.not_settled

/-- The bytes that were read. -/
theorem result_cases (accept : Accept) (bytes : List UInt8) :
    ∃ before rest, bytes = before ++ rest ∧ (after accept bytes).result.2 = before.length ∧
      (rest = [] ∨ ∃ verified, after accept before = settled verified before.length) ∧
      (∀ part, part <+: before → part ≠ before → ∃ line lines, At accept part line lines) ∧
      ((after accept bytes).result.1 = true → ∃ part byte line lines, before = part ++ [byte] ∧
        At accept part line lines ∧ IsLine (line ++ [byte]) ∧
        accept (line ++ [byte]) lines.length = (true, true)) := by
  rcases after_cases accept bytes with
    ⟨line, lines, place⟩ | ⟨before, byte, rest, line, lines, rfl, place, same, settled⟩
  · refine ⟨bytes, [], (List.append_nil _).symm, ?_, Or.inl rfl, ?_, ?_⟩
    · rw [after_of_at place]
      rfl
    · rintro part ⟨rest, rfl⟩ -
      exact place.before
    · rw [after_of_at place]
      exact nofun
  · refine ⟨before ++ [byte], rest, by rw [List.append_assoc]; rfl, ?_, ?_, ?_, ?_⟩
    · rw [List.length_append, List.length_singleton]
      rcases settled with refused | ⟨verified, -⟩
      · rw [refused]
        rfl
      · rw [verified]
        rfl
    · rw [same, List.length_append, List.length_singleton]
      rcases settled with refused | ⟨verified, -⟩
      · exact Or.inr ⟨false, refused⟩
      · exact Or.inr ⟨true, verified⟩
    · intro part isPrefix ne
      rcases List.prefix_concat_iff.mp isPrefix with rfl | ⟨rest', rfl⟩
      · exact absurd rfl ne
      · exact place.before
    · rcases settled with refused | ⟨verified, isLine, judged⟩
      · rw [refused]
        exact nofun
      · exact fun _ => ⟨before, byte, line, lines, rfl, place, isLine, judged⟩

end Progress

end CheckNetwork.Diagnostic
