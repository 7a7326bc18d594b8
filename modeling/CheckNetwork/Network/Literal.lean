import CheckNetwork.Go.Netip

/-!
# Address literals

The texts of addresses: four octets between dots, and eight groups between
colons, one run of which may be left out and the last two of which may be
written as octets.
-/

namespace CheckNetwork.Network

open Go

/-! ## Numbers -/

def isHexDigit (char : Char) : Bool :=
  char.isDigit ∨ ('a' ≤ char ∧ char ≤ 'f') ∨ ('A' ≤ char ∧ char ≤ 'F')

def hexDigit (char : Char) : Nat :=
  if char.isDigit then char.toNat - 48
  else if 'a' ≤ char then char.toNat - 87
  else char.toNat - 55

def hexValue (digits : List Char) : Nat :=
  digits.foldl (fun value char => 16 * value + hexDigit char) 0

/-- `0` or a number without leading zeros, of three digits at most. -/
def isOctetText : List Char → Bool
  | ['0'] => true
  | [] => false
  | first :: rest =>
      '1' ≤ first ∧ first ≤ '9' ∧ rest.length ≤ 2 ∧ rest.all Char.isDigit

def octet (text : List Char) : Option Nat :=
  let value := Nat.ofDigitChars 10 text 0
  if isOctetText text ∧ value ≤ 255 then some value else none

/-- Four octets between dots. -/
def octets (text : List Char) : Option (List Nat) :=
  let parts := text.splitOn '.'
  if parts.length = 4 then parts.mapM octet else none

/-! ## Groups -/

/-- The groups that were read, with those that a gap leaves out. -/
def expand (groups : List Nat) (gap : Option Nat) : Option (List Nat) :=
  match gap with
  | some start =>
      some (groups.take start ++ List.replicate (8 - groups.length) 0 ++ groups.drop start)
  | none => if groups.length = 8 then some groups else none

/-- The groups of a literal, after those that were read.  `gap` is where a double
colon stood. -/
def readGroups : Nat → List Nat → Option Nat → List Char → Option (List Nat)
  | 0, _, _, _ => none
  | _, groups, gap, [] => expand groups gap
  | fuel + 1, groups, gap, first :: rest =>
      if groups.length = 8 then none
      else if first = ':' then
        if gap.isSome then none else readGroups fuel (groups ++ [0]) (some (groups.length + 1)) rest
      else
        let digits := ((first :: rest).take 4).takeWhile isHexDigit
        match (first :: rest).drop digits.length with
        | [] => expand (groups ++ [hexValue digits]) gap
        | ':' :: after =>
            if after = [] then none else readGroups fuel (groups ++ [hexValue digits]) gap after
        | '.' :: _ =>
            if digits = [] ∨ 6 < groups.length then none
            else match octets (first :: rest) with
              | some [a, b, c, d] => expand (groups ++ [256 * a + b, 256 * c + d]) gap
              | _ => none
        | _ => none

/-- The eight groups of a literal. -/
def readV6 (text : List Char) : Option (List Nat) :=
  match text with
  | ':' :: ':' :: rest => readGroups (text.length + 1) [0] (some 1) rest
  | ':' :: _ => none
  | _ => readGroups (text.length + 1) [] none text

/-- The canonical text of groups. -/
def groupsText (groups : List Nat) : List Char :=
  match IP.zeroRun groups with
  | some (start, stop) =>
      IP.groupText (groups.take start) ++ [':', ':'] ++ IP.groupText (groups.drop stop)
  | none => IP.groupText groups

theorem v6Text_eq (ip : IP) : IP.v6Text ip = groupsText (IP.groups ip) := rfl

example : readV6 "64:ff9b::1.2.3.4".toList = some [0x64, 0xff9b, 0, 0, 0, 0, 0x102, 0x304] := by
  decide

/-! ## Written numbers -/

section Numbers

theorem hexDigit_digitChar : ∀ digit < 16, hexDigit (Nat.digitChar digit) = digit := by decide

theorem isHexDigit_digitChar : ∀ digit < 16, isHexDigit (Nat.digitChar digit) = true := by decide

theorem hexValue_toDigits (value : Nat) : hexValue (Nat.toDigits 16 value) = value := by
  induction value using Nat.strong_induction_on with
  | _ value ih =>
      rw [Nat.toDigits_eq_if (by decide)]
      split
      · rename_i small
        simp [hexValue, hexDigit_digitChar value small]
      · rename_i large
        have head := ih _ (Nat.div_lt_self (by omega) (by decide : 1 < 16))
        rw [hexValue] at head ⊢
        rw [List.foldl_append, head]
        simp only [List.foldl_cons, List.foldl_nil]
        rw [hexDigit_digitChar _ (Nat.mod_lt _ (by decide))]
        exact Nat.div_add_mod value 16

theorem all_toDigits_sixteen {test : Char → Bool}
    (holds : ∀ digit < 16, test (Nat.digitChar digit) = true) (value : Nat) :
    (Nat.toDigits 16 value).all test = true := by
  induction value using Nat.strong_induction_on with
  | _ value ih =>
      rw [Nat.toDigits_eq_if (by decide)]
      split
      · rename_i small
        rw [List.all_cons, holds value small]
        rfl
      · rw [List.all_append, ih _ (Nat.div_lt_self (by omega) (by decide)), List.all_cons,
          holds _ (Nat.mod_lt _ (by decide))]
        rfl

theorem all_isHexDigit (value : Nat) : (Nat.toDigits 16 value).all isHexDigit = true :=
  all_toDigits_sixteen isHexDigit_digitChar value

theorem isOctetText_toDigits : ∀ value < 256, isOctetText (Nat.toDigits 10 value) = true := by
  decide +kernel

theorem octet_toDigits {value : Nat} (small : value < 256) :
    octet (Nat.toDigits 10 value) = some value := by
  rw [octet, Nat.ofDigitChars_ten_toDigits]
  exact if_pos ⟨isOctetText_toDigits value small, Nat.le_of_lt_succ small⟩

theorem notMem_toDigits_ten {value : Nat} {mark : Char} (other : mark.isDigit = false) :
    mark ∉ Nat.toDigits 10 value := by
  intro member
  rw [Nat.isDigit_of_mem_toDigits (by decide) (by decide) member] at other
  cases other

theorem notMem_toDigits_sixteen {value : Nat} {mark : Char} (other : isHexDigit mark = false) :
    mark ∉ Nat.toDigits 16 value := by
  intro member
  rw [List.all_eq_true.mp (all_isHexDigit value) mark member] at other
  cases other

theorem octets_decimalText {ip : IP} (four : ip.length = 4) :
    octets (IP.decimalText ip) = some (ip.map UInt8.toNat) := by
  have split_eq : (IP.decimalText ip).splitOn '.' =
      ip.map fun byte => Nat.toDigits 10 byte.toNat := by
    apply List.splitOn_intercalate
    · intro part member
      obtain ⟨byte, _, rfl⟩ := List.mem_map.mp member
      exact notMem_toDigits_ten (by decide)
    · rintro empty
      rw [List.map_eq_nil_iff] at empty
      rw [empty] at four
      cases four
  have read : ∀ bytes : IP, (bytes.map fun byte => Nat.toDigits 10 byte.toNat).mapM octet =
      some (bytes.map UInt8.toNat) := by
    intro bytes
    induction bytes with
    | nil => rfl
    | cons first rest ih =>
        rw [List.map_cons, List.mapM_cons, octet_toDigits first.toNat_lt, ih]
        rfl
  rw [octets, split_eq, List.length_map, if_pos four, read]

end Numbers

/-! ## Written groups -/

section Groups

variable {fuel group : Nat} {groups written : List Nat} {gap : Option Nat} {tail after : List Char}

theorem takeWhile_take_four {digits : List Char} (all : digits.all isHexDigit = true)
    (short : digits.length ≤ 4) (ends : ∀ first ∈ tail.head?, isHexDigit first = false) :
    ((digits ++ tail).take 4).takeWhile isHexDigit = digits := by
  have none_left : (tail.take (4 - digits.length)).takeWhile isHexDigit = [] := by
    cases tail with
    | nil => simp
    | cons first rest =>
        cases 4 - digits.length with
        | zero => rfl
        | succ room =>
            rw [List.take_succ_cons, List.takeWhile_cons_of_neg]
            rw [ends first rfl]
            exact Bool.false_ne_true
  rw [List.take_append, List.take_of_length_le short,
    List.takeWhile_append_of_pos (List.all_eq_true.mp all), none_left, List.append_nil]

/-- Reading the digits of a group, before what is no digit. -/
theorem exists_digits (small : group < 65536) (ends : ∀ first ∈ tail.head?, isHexDigit first = false) :
    ∃ first rest, IP.hexDigits group = first :: rest ∧ first ≠ ':' ∧
      ((first :: (rest ++ tail)).take 4).takeWhile isHexDigit = first :: rest ∧
      (first :: (rest ++ tail)).drop (first :: rest).length = tail ∧
      hexValue (first :: rest) = group := by
  have all := all_isHexDigit group
  have digits_eq := takeWhile_take_four all (length_toDigits_sixteen small) ends
  have value_eq := hexValue_toDigits group
  obtain ⟨first, rest, formed⟩ := List.exists_cons_of_ne_nil (@Nat.toDigits_ne_nil group 16)
  rw [formed] at digits_eq value_eq all
  refine ⟨first, rest, formed, ?_, digits_eq, List.drop_left, value_eq⟩
  rintro rfl
  rw [List.all_cons, Bool.and_eq_true] at all
  exact absurd all.1 (by decide)

theorem readGroups_colon (small : group < 65536) (room : groups.length ≠ 8) (more : after ≠ []) :
    readGroups (fuel + 1) groups gap (IP.hexDigits group ++ ':' :: after) =
      readGroups fuel (groups ++ [group]) gap after := by
  obtain ⟨first, rest, formed, notColon, digits_eq, dropped, value_eq⟩ :=
    @exists_digits group (':' :: after) small (by simp; decide)
  rw [formed, List.cons_append, readGroups, if_neg room, if_neg notColon]
  dsimp only
  rw [digits_eq, dropped, value_eq]
  exact if_neg more

theorem readGroups_last (small : group < 65536) (room : groups.length ≠ 8) :
    readGroups (fuel + 1) groups gap (IP.hexDigits group) = expand (groups ++ [group]) gap := by
  obtain ⟨first, rest, formed, notColon, digits_eq, dropped, value_eq⟩ :=
    @exists_digits group [] small (by simp)
  rw [List.append_nil] at digits_eq dropped
  rw [formed, readGroups, if_neg room, if_neg notColon]
  dsimp only
  rw [digits_eq, dropped, value_eq]

theorem groupText_cons_cons (first second : Nat) (rest : List Nat) :
    IP.groupText (first :: second :: rest) =
      IP.hexDigits first ++ ':' :: IP.groupText (second :: rest) := by
  simp [IP.groupText]

theorem groupText_singleton (group : Nat) : IP.groupText [group] = IP.hexDigits group := by
  simp [IP.groupText]

theorem groupText_ne_nil (nonempty : written ≠ []) : IP.groupText written ≠ [] := by
  obtain ⟨first, rest, rfl⟩ := List.exists_cons_of_ne_nil nonempty
  cases rest with
  | nil =>
      rw [groupText_singleton]
      exact Nat.toDigits_ne_nil
  | cons second rest =>
      rw [groupText_cons_cons]
      simp

/-- Groups that end the literal. -/
theorem readGroups_groupText (small : ∀ group ∈ written, group < 65536) (nonempty : written ≠ [])
    (fits : groups.length + written.length ≤ 8) (enough : written.length ≤ fuel) :
    readGroups fuel groups gap (IP.groupText written) = expand (groups ++ written) gap := by
  induction written generalizing fuel groups with
  | nil => exact absurd rfl nonempty
  | cons first rest ih =>
      rw [List.forall_mem_cons] at small
      rw [List.length_cons] at fits enough
      obtain ⟨fuel, rfl⟩ := Nat.exists_eq_succ_of_ne_zero (by omega : fuel ≠ 0)
      have room : groups.length ≠ 8 := by omega
      cases rest with
      | nil => rw [groupText_singleton, readGroups_last small.1 room]
      | cons second rest =>
          rw [groupText_cons_cons, readGroups_colon small.1 room (groupText_ne_nil (by simp)),
            ih small.2 (by simp) (by rw [List.length_append]; simp at fits ⊢; omega) (by omega)]
          simp

/-- Groups before a gap. -/
theorem readGroups_gap (small : ∀ group ∈ written, group < 65536) (nonempty : written ≠ [])
    (fits : groups.length + written.length < 8) (enough : written.length < fuel) :
    readGroups fuel groups none (IP.groupText written ++ ':' :: ':' :: tail) =
      readGroups (fuel - (written.length + 1)) (groups ++ written ++ [0])
        (some (groups.length + written.length + 1)) tail := by
  induction written generalizing fuel groups with
  | nil => exact absurd rfl nonempty
  | cons first rest ih =>
      rw [List.forall_mem_cons] at small
      rw [List.length_cons] at fits enough
      obtain ⟨fuel, rfl⟩ := Nat.exists_eq_succ_of_ne_zero (by omega : fuel ≠ 0)
      have room : groups.length ≠ 8 := by omega
      cases rest with
      | nil =>
          obtain ⟨fuel, rfl⟩ := Nat.exists_eq_succ_of_ne_zero (by simp at enough; omega : fuel ≠ 0)
          rw [groupText_singleton, readGroups_colon small.1 room (by simp), readGroups,
            if_neg (by simp at fits ⊢; omega), if_pos rfl, if_neg (by simp)]
          simp
      | cons second rest =>
          rw [groupText_cons_cons, List.append_assoc, List.cons_append,
            readGroups_colon small.1 room (by simp [groupText_ne_nil]),
            ih small.2 (by simp) (by simp at fits ⊢; omega) (by omega)]
          have fuel_eq : fuel + 1 - (rest.length + 1 + 1 + 1) = fuel - (rest.length + 1 + 1) := by
            omega
          have index_eq : groups.length + (rest.length + 1 + 1) + 1 =
              groups.length + 1 + (rest.length + 1) + 1 := by omega
          simp only [List.length_cons, List.length_append, List.append_assoc, List.cons_append,
            List.nil_append, List.length_nil, Nat.zero_add, Nat.succ_eq_add_one, fuel_eq, index_eq]

end Groups

/-! ## Canonical texts are read back -/

section Canonical

variable {groups : List Nat} {start stop : Nat}

theorem zeroRun_spec (run : IP.zeroRun groups = some (start, stop)) :
    start + 2 ≤ stop ∧ ((groups.drop start).takeWhile (· = 0)).length = stop - start := by
  have kept : ∀ (starts : List Nat) (found : Option (Nat × Nat)),
      (∀ run ∈ found, run.1 + 2 ≤ run.2 ∧
        ((groups.drop run.1).takeWhile (· = 0)).length = run.2 - run.1) →
      ∀ run ∈ starts.foldl (fun found start =>
          let length := ((groups.drop start).takeWhile (· = 0)).length
          if 2 ≤ length ∧ (found.elim 0 fun run => run.2 - run.1) < length then
            some (start, start + length)
          else found) found, run.1 + 2 ≤ run.2 ∧
            ((groups.drop run.1).takeWhile (· = 0)).length = run.2 - run.1 := by
    intro starts
    induction starts with
    | nil => exact fun found holds => holds
    | cons first rest ih =>
        intro found holds
        apply ih
        dsimp only
        split
        · rename_i longer
          rintro run ⟨⟩
          dsimp only
          omega
        · exact holds
  exact kept _ none (fun _ member => (by cases member)) _ run

theorem zeroRun_le (run : IP.zeroRun groups = some (start, stop)) : stop ≤ groups.length := by
  obtain ⟨order, length_eq⟩ := zeroRun_spec run
  have le := (List.takeWhile_prefix (l := groups.drop start)
    fun group : Nat => decide (group = 0)).length_le
  rw [length_eq, List.length_drop] at le
  omega

/-- A run of zeros between the groups before and after it. -/
theorem eq_of_zeroRun (run : IP.zeroRun groups = some (start, stop)) :
    groups = groups.take start ++ List.replicate (stop - start) 0 ++ groups.drop stop := by
  obtain ⟨_, length_eq⟩ := zeroRun_spec run
  have zeros : (groups.drop start).takeWhile (· = 0) = List.replicate (stop - start) 0 := by
    rw [List.eq_replicate_iff]
    exact ⟨length_eq, fun group member => of_decide_eq_true (List.all_eq_true.mp List.all_takeWhile group member)⟩
  have after : (groups.drop start).dropWhile (· = 0) = groups.drop stop := by
    have whole := @List.takeWhile_append_dropWhile _ (fun group : Nat => decide (group = 0))
      (groups.drop start)
    have dropped := congrArg (List.drop (stop - start)) whole
    rw [← length_eq, List.drop_left] at dropped
    rw [dropped, List.drop_drop, length_eq]
    congr 1
    have := zeroRun_spec run
    omega
  have whole := @List.takeWhile_append_dropWhile _ (fun group : Nat => decide (group = 0))
    (groups.drop start)
  rw [zeros, after] at whole
  rw [List.append_assoc, whole, List.take_append_drop]

theorem readV6_of_head {first : Char} {rest : List Char} (notColon : first ≠ ':') :
    readV6 (first :: rest) = readGroups (rest.length + 2) [] none (first :: rest) := by
  unfold readV6
  split
  · rename_i same
    exact absurd (List.cons.inj same).1 notColon
  · rename_i same
    exact absurd (List.cons.inj same).1 notColon
  · rfl

theorem exists_head_groupText (nonempty : groups ≠ []) :
    ∃ first rest, IP.groupText groups = first :: rest ∧ first ≠ ':' := by
  obtain ⟨group, others, rfl⟩ := List.exists_cons_of_ne_nil nonempty
  obtain ⟨first, rest, formed⟩ := List.exists_cons_of_ne_nil (@Nat.toDigits_ne_nil group 16)
  have notColon : first ≠ ':' := by
    rintro rfl
    exact notMem_toDigits_sixteen (by decide : isHexDigit ':' = false)
      (formed ▸ List.mem_cons_self)
  cases others with
  | nil => exact ⟨first, rest, by rw [groupText_singleton, IP.hexDigits, formed], notColon⟩
  | cons second others =>
      exact ⟨first, rest ++ ':' :: IP.groupText (second :: others),
        by rw [groupText_cons_cons, IP.hexDigits, formed, List.cons_append], notColon⟩

theorem length_le_groupText (written : List Nat) :
    written.length ≤ (IP.groupText written).length := by
  induction written with
  | nil => exact Nat.zero_le _
  | cons first rest ih =>
      have nonempty : 0 < (IP.hexDigits first).length :=
        List.length_pos_iff.mpr (@Nat.toDigits_ne_nil first 16)
      cases rest with
      | nil =>
          rw [groupText_singleton]
          exact nonempty
      | cons second rest =>
          rw [groupText_cons_cons, List.length_append, List.length_cons, List.length_cons]
          rw [List.length_cons] at ih ⊢
          omega

/-- The groups after a gap. -/
theorem readGroups_after {fuel : Nat} {before after : List Nat}
    (small : ∀ group ∈ after, group < 65536) (fits : before.length + 1 + after.length ≤ 8)
    (enough : after.length < fuel) :
    readGroups fuel (before ++ [0]) (some (before.length + 1)) (IP.groupText after) =
      some (before ++ List.replicate (8 - before.length - after.length) 0 ++ after) := by
  have expanded : expand (before ++ [0] ++ after) (some (before.length + 1)) =
      some (before ++ List.replicate (8 - before.length - after.length) 0 ++ after) := by
    have length_eq : (before ++ [0]).length = before.length + 1 := by simp
    have zeros : 8 - before.length - after.length =
        (8 - (before ++ [0] ++ after).length) + 1 := by
      simp
      omega
    rw [expand, ← length_eq, List.take_left, List.drop_left, zeros, List.replicate_succ]
    simp
  rcases eq_or_ne after [] with rfl | nonempty
  · obtain ⟨fuel, rfl⟩ := Nat.exists_eq_succ_of_ne_zero (Nat.ne_of_gt enough)
    rw [List.append_nil] at expanded
    exact expanded
  · rw [readGroups_groupText small nonempty (by simp; omega) enough.le, expanded]

/-- The canonical text of eight groups is read as the groups. -/
theorem readV6_groupsText (eight : groups.length = 8) (small : ∀ group ∈ groups, group < 65536) :
    readV6 (groupsText groups) = some groups := by
  unfold groupsText
  cases run : IP.zeroRun groups with
  | none =>
      have nonempty : groups ≠ [] := by
        rintro rfl
        cases eight
      dsimp only
      obtain ⟨first, rest, formed, notColon⟩ := exists_head_groupText nonempty
      have enough := length_le_groupText groups
      rw [formed, readV6_of_head notColon, ← formed,
        readGroups_groupText small nonempty (by simp [eight])
        (by rw [formed, List.length_cons] at enough; omega)]
      exact if_pos eight
  | some run' =>
      rcases run' with ⟨start, stop⟩
      obtain ⟨order, _⟩ := zeroRun_spec run
      have whole := eq_of_zeroRun run
      have bounded : stop ≤ 8 := (zeroRun_le run).trans eight.le
      dsimp only
      generalize before_eq : groups.take start = before at whole ⊢
      generalize after_eq : groups.drop stop = after at whole ⊢
      have before_length : before.length = start := by
        rw [← before_eq, List.length_take, eight]
        omega
      have after_length : after.length = 8 - stop := by
        rw [← after_eq, List.length_drop, eight]
      have smallBefore : ∀ group ∈ before, group < 65536 := fun group member =>
        small group (List.mem_of_mem_take (before_eq ▸ member))
      have smallAfter : ∀ group ∈ after, group < 65536 := fun group member =>
        small group (List.mem_of_mem_drop (after_eq ▸ member))
      have enough := length_le_groupText after
      have zeros : stop - start = 8 - before.length - after.length := by omega
      rcases eq_or_ne before [] with rfl | nonempty
      · have read := @readGroups_after ((IP.groupText after).length + 3) [] after smallAfter
          (by simp at before_length ⊢; omega) (by omega)
        rw [whole, zeros]
        exact read
      · obtain ⟨first, rest, formed, notColon⟩ := exists_head_groupText nonempty
        have enoughBefore := length_le_groupText before
        have length_formed := congrArg List.length formed
        rw [List.length_cons] at length_formed
        rw [formed, List.append_assoc, List.cons_append, readV6_of_head notColon,
          ← List.cons_append, ← formed]
        change readGroups _ _ _ (IP.groupText before ++ ':' :: ':' :: IP.groupText after) = _
        rw [readGroups_gap smallBefore nonempty (by simp; omega) (by simp; omega)]
        have read := @readGroups_after ((rest ++ ([':', ':'] ++ IP.groupText after)).length + 2 -
          (before.length + 1)) before after smallAfter (by omega) (by simp; omega)
        rw [whole, zeros]
        simpa using read

end Canonical

/-! ## Literals are short -/

section Short

def isLiteralChar (char : Char) : Bool := isHexDigit char || char = ':' || char = '.'

theorem isLiteralChar_of_isDigit {char : Char} (digit : char.isDigit = true) :
    isLiteralChar char = true := by
  simp [isLiteralChar, isHexDigit, digit]

theorem isOctetText_spec {text : List Char} (known : isOctetText text = true) :
    text.length ≤ 3 ∧ text.all isLiteralChar = true := by
  unfold isOctetText at known
  split at known
  · decide
  · cases known
  · rename_i first rest _
    obtain ⟨lower, upper, short, digits⟩ := of_decide_eq_true known
    have digit : first.isDigit = true := by
      rw [Char.isDigit, Bool.and_eq_true, decide_eq_true_iff, decide_eq_true_iff]
      exact ⟨UInt32.le_trans (by decide : '0'.val ≤ '1'.val) lower, upper⟩
    rw [List.length_cons, List.all_cons, isLiteralChar_of_isDigit digit, Bool.true_and,
      List.all_eq_true]
    exact ⟨by omega, fun char member =>
      isLiteralChar_of_isDigit (List.all_eq_true.mp digits char member)⟩

theorem mem_of_mapM_octet {parts : List (List Char)} {values : List Nat}
    (read : parts.mapM octet = some values) :
    ∀ part ∈ parts, part.length ≤ 3 ∧ part.all isLiteralChar = true := by
  induction parts generalizing values with
  | nil => exact fun _ member => (by cases member)
  | cons first rest ih =>
      rw [List.mapM_cons] at read
      obtain ⟨value, head, read⟩ := Option.bind_eq_some_iff.mp read
      obtain ⟨others, tail, _⟩ := Option.bind_eq_some_iff.mp read
      rw [List.forall_mem_cons]
      refine ⟨?_, ih tail⟩
      rcases ite_eq_iff.mp head with ⟨known, _⟩ | ⟨_, rejected⟩
      · exact isOctetText_spec known.1
      · cases rejected

theorem octets_spec {text : List Char} {values : List Nat} (read : octets text = some values) :
    text.length ≤ 15 ∧ text.all isLiteralChar = true := by
  rcases ite_eq_iff.mp read with ⟨four, parsed⟩ | ⟨_, rejected⟩
  · have parts := mem_of_mapM_octet parsed
    have whole : ['.'].intercalate (text.splitOn '.') = text := List.intercalate_splitOn '.'
    generalize text.splitOn '.' = pieces at four parts whole
    rcases pieces with _ | ⟨a, _ | ⟨b, _ | ⟨c, _ | ⟨d, _ | ⟨e, rest⟩⟩⟩⟩⟩
    case cons.cons.cons.cons.nil =>
      simp only [List.forall_mem_cons] at parts
      obtain ⟨⟨shortA, allA⟩, ⟨shortB, allB⟩, ⟨shortC, allC⟩, ⟨shortD, allD⟩, _⟩ := parts
      have dot : isLiteralChar '.' = true := by decide
      rw [← whole]
      simp only [List.intercalate, List.intersperse_cons_cons, List.intersperse_singleton,
        List.flatten_cons, List.flatten_nil, List.append_nil, List.length_append,
        List.length_singleton, List.all_append, List.all_cons, List.all_nil, allA, allB, allC, allD,
        dot]
      exact ⟨by omega, rfl⟩
    all_goals simp at four
  · cases rejected

/-- How much text may follow groups. -/
def room (groups : Nat) : Nat :=
  if groups ≤ 6 then 45 - 5 * groups else if groups = 7 then 4 else 0

theorem room_succ {groups : Nat} (few : groups < 8) : room (groups + 1) + 1 ≤ room groups := by
  unfold room
  split <;> split <;> (try split) <;> (try split) <;> omega

theorem room_digits {groups : Nat} (few : groups < 7) : room (groups + 1) + 5 ≤ room groups := by
  unfold room
  split <;> split <;> (try split) <;> omega

/-- A group that is read, and what follows it. -/
theorem spec_of_digits {fuel : Nat} {groups result : List Nat} {gap : Option Nat} {text : List Char}
    (few : groups.length < 8)
    (read : (let digits := (text.take 4).takeWhile isHexDigit
      match text.drop digits.length with
      | [] => expand (groups ++ [hexValue digits]) gap
      | ':' :: after =>
          if after = [] then none else readGroups fuel (groups ++ [hexValue digits]) gap after
      | '.' :: _ =>
          if digits = [] ∨ 6 < groups.length then none
          else match octets text with
            | some [a, b, c, d] => expand (groups ++ [256 * a + b, 256 * c + d]) gap
            | _ => none
      | _ => none) = some result)
    (later : ∀ {groups : List Nat} {gap : Option Nat} {text : List Char},
      readGroups fuel groups gap text = some result → groups.length ≤ 8 →
        text.length ≤ room groups.length ∧ text.all isLiteralChar = true) :
    text.length ≤ room groups.length ∧ text.all isLiteralChar = true := by
  dsimp only at read
  have short : ((text.take 4).takeWhile isHexDigit).length ≤ 4 :=
    ((List.takeWhile_prefix _).length_le).trans (List.length_take_le 4 text)
  have all : ((text.take 4).takeWhile isHexDigit).all isLiteralChar = true := by
    rw [List.all_eq_true]
    intro char member
    have hex := List.all_eq_true.mp List.all_takeWhile char member
    simp [isLiteralChar, hex]
  have whole : (text.take 4).takeWhile isHexDigit ++
      text.drop ((text.take 4).takeWhile isHexDigit).length = text := by
    have begins := (List.takeWhile_prefix isHexDigit (l := text.take 4)).trans (List.take_prefix 4 text)
    have taken := List.prefix_iff_eq_take.mp begins
    calc (text.take 4).takeWhile isHexDigit ++
          text.drop ((text.take 4).takeWhile isHexDigit).length
        = text.take ((text.take 4).takeWhile isHexDigit).length ++
            text.drop ((text.take 4).takeWhile isHexDigit).length := by rw [← taken]
      _ = text := List.take_append_drop _ _
  generalize (text.take 4).takeWhile isHexDigit = digits at read short all whole
  have four_le : 4 ≤ room groups.length := by
    unfold room
    split <;> (try split) <;> omega
  split at read
  · rename_i ends
    rw [ends, List.append_nil] at whole
    rw [← whole]
    exact ⟨short.trans four_le, all⟩
  · rename_i after follows
    rcases ite_eq_iff.mp read with ⟨_, rejected⟩ | ⟨nonempty, read⟩
    · cases rejected
    · obtain ⟨shortAfter, allAfter⟩ := later read (by simp; omega)
      rw [List.length_append, List.length_singleton] at shortAfter
      have notLast : groups.length < 7 := by
        by_contra last
        have seven : groups.length = 7 := by omega
        rw [seven] at shortAfter
        exact nonempty (List.length_eq_zero_iff.mp (Nat.le_zero.mp shortAfter))
      have next := room_digits notLast
      rw [follows] at whole
      rw [← whole, List.length_append, List.length_cons, List.all_append, List.all_cons, all, allAfter]
      exact ⟨by omega, by decide⟩
  · rcases ite_eq_iff.mp read with ⟨_, rejected⟩ | ⟨dotted, read⟩
    · cases rejected
    · rw [not_or, not_lt] at dotted
      have fifteen_le : 15 ≤ room groups.length := by
        unfold room
        rw [if_pos dotted.2]
        omega
      split at read
      · rename_i parsed
        obtain ⟨shortDotted, allDotted⟩ := octets_spec parsed
        exact ⟨shortDotted.trans fifteen_le, allDotted⟩
      · cases read
  · cases read

theorem readGroups_spec {fuel : Nat} {groups result : List Nat} {gap : Option Nat}
    {text : List Char} (read : readGroups fuel groups gap text = some result)
    (few : groups.length ≤ 8) :
    text.length ≤ room groups.length ∧ text.all isLiteralChar = true := by
  induction fuel generalizing groups gap text with
  | zero => cases read
  | succ fuel ih =>
      cases text with
      | nil => exact ⟨Nat.zero_le _, rfl⟩
      | cons first rest =>
          rw [readGroups] at read
          rcases ite_eq_iff.mp read with ⟨_, rejected⟩ | ⟨notFull, read⟩
          · cases rejected
          · have notFull : groups.length < 8 := by omega
            rcases ite_eq_iff.mp read with ⟨colon, read⟩ | ⟨_, read⟩
            · rcases ite_eq_iff.mp read with ⟨_, rejected⟩ | ⟨_, read⟩
              · cases rejected
              · obtain ⟨short, all⟩ := ih read (by simp; omega)
                have next := room_succ notFull
                rw [List.length_append, List.length_singleton] at short
                rw [List.length_cons, List.all_cons, all, colon]
                exact ⟨by omega, by decide⟩
            · exact spec_of_digits notFull read ih

theorem readV6_spec {text : List Char} {groups : List Nat} (read : readV6 text = some groups) :
    text.length ≤ 45 ∧ text.all isLiteralChar = true := by
  unfold readV6 at read
  split at read
  · obtain ⟨short, all⟩ := readGroups_spec read (by simp)
    have forty : room [0].length = 40 := rfl
    simp only [List.length_cons, List.all_cons, all]
    exact ⟨by omega, by decide⟩
  · cases read
  · obtain ⟨short, all⟩ := readGroups_spec read (by simp)
    exact ⟨short, all⟩

end Short

/-! ## What is read has eight groups -/

section Sized

theorem hexDigit_lt {char : Char} (isHex : isHexDigit char = true) : hexDigit char < 16 := by
  have bounds := of_decide_eq_true isHex
  simp only [Char.isDigit, Char.le_def, Bool.and_eq_true, decide_eq_true_eq,
    UInt32.le_iff_toNat_le] at bounds
  unfold hexDigit
  simp only [Char.isDigit, Char.le_def, Bool.and_eq_true, decide_eq_true_eq,
    UInt32.le_iff_toNat_le, Char.toNat]
  have digits : '0'.val.toNat = 48 ∧ '9'.val.toNat = 57 ∧ 'a'.val.toNat = 97 ∧
      'f'.val.toNat = 102 ∧ 'A'.val.toNat = 65 ∧ 'F'.val.toNat = 70 := by decide
  split <;> (try split) <;> omega

theorem hexValue_lt {digits : List Char} (all : digits.all isHexDigit = true) :
    hexValue digits < 16 ^ digits.length := by
  induction digits using List.reverseRecOn with
  | nil => decide
  | append_singleton rest last ih =>
      rw [List.all_append, Bool.and_eq_true, List.all_cons, Bool.and_eq_true] at all
      have head := ih all.1
      have digit := hexDigit_lt all.2.1
      rw [hexValue] at head ⊢
      rw [List.foldl_append, List.foldl_cons, List.foldl_nil, List.length_append,
        List.length_singleton, Nat.pow_succ]
      omega

/-- What the reading keeps of the groups. -/
def Sized (groups : List Nat) : Prop := groups.length = 8 ∧ ∀ group ∈ groups, group < 65536

variable {fuel : Nat} {groups result : List Nat} {gap : Option Nat} {text : List Char}

theorem sized_expand (expanded : expand groups gap = some result) (few : groups.length ≤ 8)
    (small : ∀ group ∈ groups, group < 65536) : Sized result := by
  cases gap with
  | none =>
      rcases ite_eq_iff.mp expanded with ⟨eight, same⟩ | ⟨_, rejected⟩
      · rw [← Option.some.inj same]
        exact ⟨eight, small⟩
      · cases rejected
  | some start =>
      rw [← Option.some.inj expanded]
      constructor
      · simp only [List.length_append, List.length_take, List.length_replicate, List.length_drop]
        omega
      · intro group member
        simp only [List.mem_append, List.mem_replicate] at member
        rcases member with (before | ⟨_, rfl⟩) | after
        · exact small group (List.mem_of_mem_take before)
        · decide
        · exact small group (List.mem_of_mem_drop after)

theorem small_snoc {group : Nat} (small : ∀ group ∈ groups, group < 65536) (lt : group < 65536) :
    ∀ other ∈ groups ++ [group], other < 65536 := by
  intro other member
  rcases List.mem_append.mp member with inside | last
  · exact small other inside
  · rwa [List.mem_singleton.mp last]

theorem octets_lt {values : List Nat} (read : octets text = some values) :
    ∀ value ∈ values, value < 256 := by
  have parsed : ∀ (parts : List (List Char)) (values : List Nat),
      parts.mapM octet = some values → ∀ value ∈ values, value < 256 := by
    intro parts
    induction parts with
    | nil =>
        rintro values ⟨⟩ value member
        cases member
    | cons first rest ih =>
        intro values read
        rw [List.mapM_cons] at read
        obtain ⟨value, head, read⟩ := Option.bind_eq_some_iff.mp read
        obtain ⟨others, tail, same⟩ := Option.bind_eq_some_iff.mp read
        cases same
        rw [List.forall_mem_cons]
        refine ⟨?_, ih others tail⟩
        rcases ite_eq_iff.mp head with ⟨known, same⟩ | ⟨_, rejected⟩
        · rw [← Option.some.inj same]
          exact Nat.lt_succ_of_le known.2
        · cases rejected
  rcases ite_eq_iff.mp read with ⟨_, read⟩ | ⟨_, rejected⟩
  · exact parsed _ _ read
  · cases rejected

theorem sized_readGroups (read : readGroups fuel groups gap text = some result)
    (few : groups.length ≤ 8) (small : ∀ group ∈ groups, group < 65536) : Sized result := by
  induction fuel generalizing groups gap text with
  | zero => cases read
  | succ fuel ih =>
      cases text with
      | nil => exact sized_expand read few small
      | cons first rest =>
          rw [readGroups] at read
          rcases ite_eq_iff.mp read with ⟨_, rejected⟩ | ⟨notFull, read⟩
          · cases rejected
          · have fewer : ∀ group : Nat, (groups ++ [group]).length ≤ 8 := by
              intro group
              rw [List.length_append, List.length_singleton]
              omega
            rcases ite_eq_iff.mp read with ⟨_, read⟩ | ⟨_, read⟩
            · rcases ite_eq_iff.mp read with ⟨_, rejected⟩ | ⟨_, read⟩
              · cases rejected
              · exact ih read (fewer 0) (small_snoc small (by decide))
            · dsimp only at read
              have value_lt : hexValue (((first :: rest).take 4).takeWhile isHexDigit) < 65536 := by
                have short : (((first :: rest).take 4).takeWhile isHexDigit).length ≤ 4 :=
                  ((List.takeWhile_prefix _).length_le).trans (List.length_take_le 4 _)
                exact (hexValue_lt List.all_takeWhile).trans_le
                  (Nat.pow_le_pow_right (by decide) short)
              generalize ((first :: rest).take 4).takeWhile isHexDigit = digits at read value_lt
              split at read
              · exact sized_expand read (fewer _) (small_snoc small value_lt)
              · rcases ite_eq_iff.mp read with ⟨_, rejected⟩ | ⟨_, read⟩
                · cases rejected
                · exact ih read (fewer _) (small_snoc small value_lt)
              · rcases ite_eq_iff.mp read with ⟨_, rejected⟩ | ⟨dotted, read⟩
                · cases rejected
                · rw [not_or, not_lt] at dotted
                  split at read
                  · rename_i a b c d parsed
                    have bytes := octets_lt parsed
                    simp only [List.forall_mem_cons] at bytes
                    have split_eq : groups ++ [256 * a + b, 256 * c + d] =
                        groups ++ [256 * a + b] ++ [256 * c + d] := by simp
                    rw [split_eq] at read
                    apply sized_expand read
                    · simp
                      omega
                    · exact small_snoc (small_snoc small (by omega)) (by omega)
                  · cases read
              · cases read

/-- What is read are the groups of an address. -/
theorem sized_readV6 (read : readV6 text = some groups) : Sized groups := by
  unfold readV6 at read
  split at read
  · exact sized_readGroups read (by decide) (by decide)
  · cases read
  · exact sized_readGroups read (Nat.zero_le 8) (fun _ member => (by cases member))

end Sized

end CheckNetwork.Network
