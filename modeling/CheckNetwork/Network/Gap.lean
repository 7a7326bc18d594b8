import CheckNetwork.Network.Blocks

/-!
# The gap of an address text

A client splits the text of an address at its double colon, and each half at its
colons.
-/

namespace CheckNetwork.Network

open Go

/-- The parts between the occurrences of a doubled mark. -/
def splitPair (mark : Char) : List Char → List (List Char)
  | first :: second :: rest =>
      if first = mark ∧ second = mark then [] :: splitPair mark rest
      else (splitPair mark (second :: rest)).modifyHead (first :: ·)
  | rest => [rest]

/-- The parts between marks, of which the empty text has none. -/
def partsOf (mark : Char) (text : List Char) : List (List Char) :=
  if text = [] then [] else text.splitOn mark

/-- The address that a text writes. -/
def readLiteral (text : List Char) : Option IP :=
  if ':' ∈ text then (readV6 text).map bytesOfGroups
  else (octets text).map (List.map UInt8.ofNat)

section Split

variable {digits tail : List Char} {groups : List Nat}

theorem splitPair_append (notMark : ':' ∉ digits) :
    splitPair ':' (digits ++ tail) = (splitPair ':' tail).modifyHead (digits ++ ·) := by
  induction digits with
  | nil =>
      rw [List.nil_append]
      cases splitPair ':' tail <;> rfl
  | cons first rest ih =>
      rw [List.mem_cons, not_or] at notMark
      have head := ih notMark.2
      cases joined : rest ++ tail with
      | nil =>
          obtain ⟨rfl, rfl⟩ := List.append_eq_nil_iff.mp joined
          rfl
      | cons second others =>
          rw [List.cons_append, joined, splitPair, if_neg fun both => notMark.1 both.1.symm,
            ← joined, head, List.modifyHead_modifyHead]
          rfl

/-- The colons between groups are single. -/
theorem splitPair_groupText (groups : List Nat) (tail : List Char) :
    splitPair ':' (IP.groupText groups ++ tail) =
      (splitPair ':' tail).modifyHead (IP.groupText groups ++ ·) := by
  have notColon : ∀ group, ':' ∉ IP.hexDigits group := fun group =>
    notMem_toDigits_sixteen (by decide)
  induction groups with
  | nil =>
      change splitPair ':' tail = _
      cases splitPair ':' tail <;> rfl
  | cons first rest ih =>
      cases rest with
      | nil => rw [groupText_singleton, splitPair_append (notColon first)]
      | cons second rest =>
          obtain ⟨head, others, formed, other⟩ := exists_head_groupText (List.cons_ne_nil second rest)
          rw [groupText_cons_cons, List.append_assoc, splitPair_append (notColon first),
            List.cons_append]
          rw [formed] at ih ⊢
          rw [List.cons_append, splitPair, if_neg fun both => other both.2, ← List.cons_append, ih,
            List.modifyHead_modifyHead, List.modifyHead_modifyHead]
          congr 1
          funext text
          simp

theorem partsOf_groupText (groups : List Nat) :
    partsOf ':' (IP.groupText groups) = groups.map IP.hexDigits := by
  rcases eq_or_ne groups [] with rfl | nonempty
  · rfl
  · rw [partsOf, if_neg (groupText_ne_nil nonempty)]
    apply List.splitOn_intercalate
    · intro part member
      obtain ⟨group, _, rfl⟩ := List.mem_map.mp member
      exact notMem_toDigits_sixteen (by decide)
    · intro empty
      exact nonempty (List.map_eq_nil_iff.mp empty)

/-- The canonical text of eight groups has one gap at most, in the place of zeros. -/
theorem splitPair_groupsText (eight : groups.length = 8) :
    (splitPair ':' (groupsText groups) = [IP.groupText groups]) ∨
    ∃ before after, before.length + after.length < 8 ∧
      groups = before ++ List.replicate (8 - (before.length + after.length)) 0 ++ after ∧
        splitPair ':' (groupsText groups) = [IP.groupText before, IP.groupText after] := by
  unfold groupsText
  have closing : ∀ groups : List Nat,
      splitPair ':' (IP.groupText groups) = [IP.groupText groups] := by
    intro groups
    have whole := splitPair_groupText groups []
    rw [List.append_nil] at whole
    rw [whole]
    simp [splitPair]
  cases run : IP.zeroRun groups with
  | none => exact .inl (closing groups)
  | some found =>
      rcases found with ⟨start, stop⟩
      obtain ⟨order, _⟩ := zeroRun_spec run
      have whole := eq_of_zeroRun run
      have bounded : stop ≤ 8 := (zeroRun_le run).trans eight.le
      have taken : (groups.take start).length = start := by
        rw [List.length_take, eight]
        omega
      have dropped : (groups.drop stop).length = 8 - stop := by rw [List.length_drop, eight]
      have zeros : stop - start = 8 - (start + (8 - stop)) := by omega
      refine .inr ⟨groups.take start, groups.drop stop, ?_, ?_, ?_⟩
      · rw [taken, dropped]
        omega
      · rw [taken, dropped, ← zeros]
        exact whole
      · dsimp only
        rw [List.append_assoc, splitPair_groupText, List.cons_append, List.cons_append,
          List.nil_append, splitPair, if_pos ⟨rfl, rfl⟩, closing, List.modifyHead_cons,
          List.append_nil]

end Split

/-! ## Canonical texts are literals -/

section Literals

variable {ip : IP}

theorem groups_lt (ip : IP) : ∀ group ∈ IP.groups ip, group < 65536 := by
  induction ip using IP.groups.induct with
  | case1 high low rest ih =>
      have highByte := high.toNat_lt
      have lowByte := low.toNat_lt
      rw [IP.groups, List.forall_mem_cons]
      exact ⟨by omega, ih⟩
  | case2 rest short =>
      rcases rest with _ | ⟨first, _ | ⟨second, rest⟩⟩
      · exact fun _ member => (by cases member)
      · simp [IP.groups]
      · exact absurd rfl (short first second rest)

theorem length_groups_eight (sixteen : ip.length = 16) : (IP.groups ip).length = 8 := by
  rw [IP.length_groups, sixteen]

theorem colon_mem_groupText {groups : List Nat} (two : 2 ≤ groups.length) :
    ':' ∈ IP.groupText groups := by
  rcases groups with _ | ⟨first, _ | ⟨second, rest⟩⟩
  · simp at two
  · simp at two
  · rw [groupText_cons_cons]
    simp

theorem colon_mem_groupsText {groups : List Nat} (eight : groups.length = 8) :
    ':' ∈ groupsText groups := by
  unfold groupsText
  split
  · simp
  · exact colon_mem_groupText (by omega)

theorem colon_notMem_decimalText (ip : IP) : ':' ∉ IP.decimalText ip := by
  have digits : ∀ byte : UInt8, ':' ∉ Nat.toDigits 10 byte.toNat := fun byte =>
    notMem_toDigits_ten (by decide)
  induction ip with
  | nil => simp [IP.decimalText]
  | cons first rest ih =>
      rw [IP.decimalText] at ih ⊢
      cases rest with
      | nil => simpa using digits first
      | cons second rest =>
          rw [List.map_cons, List.map_cons, List.intersperse_cons_cons, List.flatten_cons,
            List.flatten_cons, List.mem_append, List.mem_append, not_or, not_or]
          exact ⟨digits first, by decide, ih⟩

theorem map_ofNat_toNat (ip : IP) : (ip.map UInt8.toNat).map UInt8.ofNat = ip := by
  rw [List.map_map]
  exact List.map_id'' (fun byte => UInt8.ofNat_toNat) ip

theorem readLiteral_decimalText (four : ip.length = 4) :
    readLiteral (IP.decimalText ip) = some ip := by
  rw [readLiteral, if_neg (colon_notMem_decimalText ip), octets_decimalText four, Option.map_some,
    map_ofNat_toNat]

theorem readLiteral_v6Text (sixteen : ip.length = 16) : readLiteral (IP.v6Text ip) = some ip := by
  have eight := length_groups_eight sixteen
  rw [v6Text_eq, readLiteral, if_pos (colon_mem_groupsText eight),
    readV6_groupsText eight (groups_lt ip), Option.map_some,
    bytesOfGroups_groups (by rw [sixteen])]

/-- Octets that end a literal. -/
theorem readGroups_decimalText {fuel : Nat} {groups : List Nat} {gap : Option Nat}
    (four : ip.length = 4) (few : groups.length ≤ 6) :
    readGroups (fuel + 1) groups gap (IP.decimalText ip) = expand (groups ++ IP.groups ip) gap := by
  have read := octets_decimalText four
  obtain ⟨a, b, c, d, rfl⟩ : ∃ a b c d, ip = [a, b, c, d] := by
    match ip, four with
    | [a, b, c, d], _ => exact ⟨a, b, c, d, rfl⟩
  have formed : IP.decimalText [a, b, c, d] =
      Nat.toDigits 10 a.toNat ++ '.' :: IP.decimalText [b, c, d] := rfl
  have short : (Nat.toDigits 10 a.toNat).length ≤ 4 := by
    have bounded : ∀ byte < 256, (Nat.toDigits 10 byte).length ≤ 4 := by decide +kernel
    exact bounded _ a.toNat_lt
  have all : (Nat.toDigits 10 a.toNat).all isHexDigit = true := by
    rw [List.all_eq_true]
    intro char member
    simp [isHexDigit, Nat.isDigit_of_mem_toDigits (by decide) (by decide) member]
  have digits_eq := @takeWhile_take_four ('.' :: IP.decimalText [b, c, d]) _ all short
    (by simp; decide)
  obtain ⟨first, rest, begins⟩ := List.exists_cons_of_ne_nil (@Nat.toDigits_ne_nil a.toNat 10)
  have notColon : first ≠ ':' := by
    rintro rfl
    exact notMem_toDigits_ten (by decide : ':'.isDigit = false) (begins ▸ List.mem_cons_self)
  rw [formed] at read ⊢
  rw [begins] at read digits_eq ⊢
  rw [List.cons_append] at read digits_eq ⊢
  rw [readGroups, if_neg (by omega), if_neg notColon]
  dsimp only
  rw [digits_eq, ← List.cons_append, List.drop_left, if_neg (by simp; omega), List.cons_append, read]
  rfl

/-- The dotted text of a mapped address is its literal. -/
theorem readLiteral_mapped (four : ip.length = 4) :
    readLiteral ("::ffff:".toList ++ IP.decimalText ip) = some (IP.v4InV6Prefix ++ ip) := by
  have formed : "::ffff:".toList ++ IP.decimalText ip =
      ':' :: ':' :: (IP.hexDigits 65535 ++ ':' :: IP.decimalText ip) := rfl
  have nonempty : IP.decimalText ip ≠ [] := IP.decimalText_ne_nil (by omega)
  have parsed : readV6 (':' :: ':' :: (IP.hexDigits 65535 ++ ':' :: IP.decimalText ip)) =
      expand ([0] ++ [65535] ++ IP.groups ip) (some 1) := by
    rw [readV6, readGroups_colon (by decide) (by decide) nonempty, List.length_cons,
      readGroups_decimalText four (by decide)]
  obtain ⟨a, b, c, d, rfl⟩ : ∃ a b c d, ip = [a, b, c, d] := by
    match ip, four with
    | [a, b, c, d], _ => exact ⟨a, b, c, d, rfl⟩
  have mapped : expand ([0] ++ [65535] ++ IP.groups [a, b, c, d]) (some 1) =
      some (IP.groups (IP.v4InV6Prefix ++ [a, b, c, d])) := rfl
  rw [readLiteral, if_pos (by simp), formed, parsed, mapped, Option.map_some,
    bytesOfGroups_groups (by simp [IP.v4InV6Prefix])]

theorem length_of_octets {text : List Char} {values : List Nat}
    (read : octets text = some values) : values.length = 4 := by
  have lengths : ∀ (parts : List (List Char)) (values : List Nat),
      parts.mapM octet = some values → values.length = parts.length := by
    intro parts
    induction parts with
    | nil =>
        rintro values ⟨⟩
        rfl
    | cons first rest ih =>
        intro values read
        rw [List.mapM_cons] at read
        obtain ⟨value, _, read⟩ := Option.bind_eq_some_iff.mp read
        obtain ⟨others, tail, same⟩ := Option.bind_eq_some_iff.mp read
        cases same
        rw [List.length_cons, List.length_cons, ih others tail]
  rcases ite_eq_iff.mp read with ⟨four, parsed⟩ | ⟨_, rejected⟩
  · rw [← four]
    exact lengths _ _ parsed
  · cases rejected

/-- A literal is an address. -/
theorem length_of_readLiteral {text : List Char} (read : readLiteral text = some ip) :
    ip.length = 4 ∨ ip.length = 16 := by
  rcases ite_eq_iff.mp read with ⟨_, read⟩ | ⟨_, read⟩
  · obtain ⟨groups, parsed, rfl⟩ := Option.map_eq_some_iff.mp read
    apply Or.inr
    rw [bytesOfGroups, List.length_flatMap]
    simp [(sized_readV6 parsed).1]
  · obtain ⟨values, parsed, rfl⟩ := Option.map_eq_some_iff.mp read
    apply Or.inl
    rw [List.length_map, length_of_octets parsed]

end Literals

end CheckNetwork.Network
