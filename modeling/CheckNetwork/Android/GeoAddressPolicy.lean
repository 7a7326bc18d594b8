import CheckNetwork.Network.Gap
import CheckNetwork.Network.Public
import Mathlib.Data.List.Sections

/-!
# The address policy of the phone

The phone asks for the location of an address only if its text is canonical and
it is in none of the phone's own table of blocks.  Bytes are signed there, and
become words when they are masked.
-/

namespace CheckNetwork.Android

open CheckNetwork.Go CheckNetwork.Network

/-! ## Texts -/

def isLowerHexDigit (char : Char) : Bool := char.isDigit ∨ ('a' ≤ char ∧ char ≤ 'f')

def group (part : List Char) : Option Nat :=
  if part ≠ [] ∧ part.length ≤ 4 ∧ part.all isLowerHexDigit then some (hexValue part) else none

def parse (address : List Char) : Option IP :=
  if ':' ∉ address then (octets address).map (List.map UInt8.ofNat)
  else if !address.all fun char => isLowerHexDigit char || char = ':' then none
  else match splitPair ':' address with
    | [whole] =>
        let start := partsOf ':' whole
        if start.length ≠ 8 then none else (start.mapM group).map bytesOfGroups
    | [left, right] =>
        let start := partsOf ':' left
        let finish := partsOf ':' right
        let size := start.length + finish.length
        if 8 ≤ size then none
        else do
          let start ← start.mapM group
          let finish ← finish.mapM group
          pure (bytesOfGroups (start ++ List.replicate (8 - size) 0 ++ finish))
    | _ => none

/-- The scan for the longest run of zeros, from an index on: where it starts, and
its length. -/
def longestRun : Nat → Nat → Option Nat × Nat → List Nat → Option Nat × Nat
  | fuel + 1, i, best, word :: rest =>
      if word ≠ 0 then longestRun fuel (i + 1) best rest
      else
        let run := (rest.takeWhile (· = 0)).length + 1
        longestRun fuel (i + run) (if best.2 < run then (some i, run) else best)
          (rest.drop (run - 1))
  | _, _, best, _ => best

/-- The text before a word. -/
def separate (result : List Char) : List Char :=
  if result ≠ [] ∧ result.getLast? ≠ some ':' then result ++ [':'] else result

/-- The words are appended, from an index on. -/
def appendWords (best : Option Nat) (longest : Nat) : Nat → Nat → List Nat → List Char → List Char
  | fuel + 1, i, word :: rest, result =>
      if best = some i then
        appendWords best longest fuel (i + longest) (rest.drop (longest - 1)) (result ++ [':', ':'])
      else appendWords best longest fuel (i + 1) rest (separate result ++ IP.hexDigits word)
  | _, _, _, result => result

def canonicalV6 (bytes : IP) : List Char :=
  let words := IP.groups bytes
  let (best, longest) := longestRun 8 0 (none, 1) words
  appendWords best longest 8 0 words []

/-! ## Prefixes -/

structure Prefix where
  bytes : IP
  bits : Nat
  deriving DecidableEq

/-- Two bytes under the mask of their first bits. -/
def sameBits (ones : Nat) (first second : UInt8) : Bool :=
  let mask := 255#32 <<< (8 - ones)
  first.toBitVec.signExtend 32 &&& mask = second.toBitVec.signExtend 32 &&& mask

/-- The loop over the bytes, which ends with the bits. -/
def agrees : Nat → IP → IP → Bool
  | bits, first :: firsts, second :: seconds =>
      bits = 0 || (sameBits (min 8 bits) first second && agrees (bits - 8) firsts seconds)
  | _, _, _ => true

def Prefix.contains (block : Prefix) (address : IP) : Bool :=
  block.bytes.length = address.length && agrees block.bits block.bytes address

def readPrefix (cidr : String) : Option Prefix :=
  match cidr.toList.splitOn '/' with
  | [address, bits] => (parse address).map fun bytes => ⟨bytes, Nat.ofDigitChars 10 bits 0⟩
  | _ => none

def blocked : List String :=
  ["0.0.0.0/8", "10.0.0.0/8", "100.64.0.0/10", "127.0.0.0/8", "169.254.0.0/16", "172.16.0.0/12",
    "192.0.0.0/24", "192.0.2.0/24", "192.31.196.0/24", "192.52.193.0/24", "192.88.99.0/24",
    "192.168.0.0/16", "192.175.48.0/24", "198.18.0.0/15", "198.51.100.0/24", "203.0.113.0/24",
    "224.0.0.0/4", "240.0.0.0/4", "100.100.100.200/32", "::/128", "::1/128", "64:ff9b::/96",
    "64:ff9b:1::/48", "100::/64", "100:0:0:1::/64", "2001::/23", "fc00::/7", "fe80::/10",
    "ff00::/8", "2001:db8::/32", "2002::/16", "2620:4f:8000::/48", "3fff::/20", "5f00::/16"]

def prefixes : List Prefix := (blocked.mapM readPrefix).getD []

/-- The phone's own test for a mapped address. -/
def isMapped (bytes : IP) : Bool :=
  (bytes.take 10).all (· = 0) && bytes[10]? = some 255 && bytes[11]? = some 255

def isCanonicalPublic (address : List Char) : Bool :=
  if 39 < address.length then false
  else match parse address with
    | none => false
    | some bytes =>
        if bytes.length = 16 ∧ (canonicalV6 bytes ≠ address ∨ isMapped bytes = true) then false
        else prefixes.all fun block => !block.contains bytes

example : isCanonicalPublic "2606:4700:0:0::1".toList = false := by decide +kernel

/-! ## The canonical text -/

section Canonical

variable {best : Option Nat} {longest : Nat} {words : List Nat} {result : List Char}

theorem longestRun_map_min (fuel i : Nat) (best : Option Nat × Nat) (words : List Nat) :
    longestRun fuel i best (words.map (min · 1)) = longestRun fuel i best words := by
  induction fuel generalizing i best words with
  | zero => cases words <;> rfl
  | succ fuel ih =>
      cases words with
      | nil => rfl
      | cons word rest =>
          have zero_iff : min word 1 ≠ 0 ↔ word ≠ 0 := by omega
          have same : ((rest.map (min · 1)).takeWhile (· = 0)).length =
              (rest.takeWhile (· = 0)).length := by
            rw [List.takeWhile_map, List.length_map]
            congr 2
            funext word
            simp
          rw [List.map_cons, longestRun, longestRun]
          simp only [zero_iff, same, ih, ← List.map_drop]

theorem zeroRun_map_min (words : List Nat) :
    IP.zeroRun (words.map (min · 1)) = IP.zeroRun words := by
  have same : ∀ start, (((words.map (min · 1)).drop start).takeWhile (· = 0)).length =
      ((words.drop start).takeWhile (· = 0)).length := by
    intro start
    rw [← List.map_drop, List.takeWhile_map, List.length_map]
    congr 2
    funext word
    simp
  simp only [IP.zeroRun, List.length_map, same]

/-- Both scans find the first of the longest runs; they see only which words are
zero. -/
theorem zeroRun_eq_longestRun (eight : words.length = 8) : IP.zeroRun words =
    (longestRun 8 0 (none, 1) words).1.map fun start =>
      (start, start + (longestRun 8 0 (none, 1) words).2) := by
  have patterns : ∀ words ∈ (List.replicate 8 [0, 1]).sections, IP.zeroRun words =
      (longestRun 8 0 (none, 1) words).1.map fun start =>
        (start, start + (longestRun 8 0 (none, 1) words).2) := by
    decide +kernel
  rw [← zeroRun_map_min, ← longestRun_map_min]
  apply patterns
  rw [List.mem_sections, ← eight, ← List.map_const', List.forall₂_map_left_iff,
    List.forall₂_map_right_iff]
  apply List.forall₂_same.mpr
  intro word _
  rcases Nat.le_one_iff_eq_zero_or_eq_one.mp (Nat.min_le_right word 1) with zero | one
  · simp [zero]
  · simp [one]

/-- The words before the run are separated from each other. -/
theorem appendWords_append {fuel i : Nat} {before : List Nat} (after : List Nat)
    (apart : ∀ start, best = some start → start < i ∨ i + before.length ≤ start)
    (enough : before.length ≤ fuel) :
    appendWords best longest fuel i (before ++ after) result =
      appendWords best longest (fuel - before.length) (i + before.length) after
        (before.foldl (fun result word => separate result ++ IP.hexDigits word) result) := by
  induction before generalizing fuel i result with
  | nil => rfl
  | cons first rest ih =>
      rw [List.length_cons] at apart enough
      obtain ⟨fuel, rfl⟩ := Nat.exists_eq_succ_of_ne_zero (by omega : fuel ≠ 0)
      have other : best ≠ some i := by
        intro same
        have := apart i same
        omega
      rw [List.cons_append, appendWords, if_neg other, ih _ (by omega), List.foldl_cons,
        List.length_cons, Nat.succ_eq_add_one, Nat.add_sub_add_right, Nat.add_assoc,
        Nat.add_comm 1]
      intro start same
      have := apart start same
      omega

theorem separate_of_clean (clean : result = [] ∨ result.getLast? = some ':') :
    separate result = result := by
  apply if_neg
  rintro ⟨nonempty, other⟩
  exact clean.elim nonempty other

theorem separate_digits (result : List Char) (word : Nat) :
    separate (result ++ IP.hexDigits word) = result ++ IP.hexDigits word ++ [':'] := by
  have nonempty : IP.hexDigits word ≠ [] := Nat.toDigits_ne_nil
  apply if_pos
  constructor
  · simp [nonempty]
  · rw [List.getLast?_append_of_ne_nil _ nonempty]
    intro last
    exact notMem_toDigits_sixteen (by decide : isHexDigit ':' = false)
      (List.mem_of_getLast? last)

theorem foldl_separate (clean : result = [] ∨ result.getLast? = some ':') (words : List Nat) :
    words.foldl (fun result word => separate result ++ IP.hexDigits word) result =
      result ++ IP.groupText words := by
  have later : ∀ (word : Nat) (words : List Nat) (result : List Char),
      words.foldl (fun result word => separate result ++ IP.hexDigits word)
        (result ++ IP.hexDigits word) = result ++ IP.groupText (word :: words) := by
    intro word words
    induction words generalizing word with
    | nil =>
        intro result
        rw [groupText_singleton]
        rfl
    | cons second rest ih =>
        intro result
        rw [List.foldl_cons, separate_digits, ih, groupText_cons_cons]
        simp
  cases words with
  | nil => simp [IP.groupText]
  | cons first rest => rw [List.foldl_cons, separate_of_clean clean, later]

/-- The phone writes the canonical text. -/
theorem canonicalV6_eq {ip : IP} (sixteen : ip.length = 16) : canonicalV6 ip = IP.v6Text ip := by
  have eight := length_groups_eight sixteen
  have scanned := zeroRun_eq_longestRun eight
  rw [canonicalV6, v6Text_eq, groupsText]
  generalize IP.groups ip = words at eight scanned ⊢
  dsimp only
  generalize longestRun 8 0 (none, 1) words = found at scanned ⊢
  rcases found with ⟨_ | start, longest⟩
  · rw [Option.map_none] at scanned
    have plain := @appendWords_append none longest [] 8 0 words [] (fun _ same => (by cases same))
      eight.le
    rw [scanned]
    dsimp only
    rw [List.append_nil, foldl_separate (.inl rfl)] at plain
    rw [plain, eight]
    rfl
  · rw [Option.map_some] at scanned
    obtain ⟨order, _⟩ := zeroRun_spec scanned
    have bounded : start + longest ≤ 8 := (zeroRun_le scanned).trans eight.le
    have taken : (words.take start).length = start := by
      rw [List.length_take, eight]
      omega
    have front := @appendWords_append (some start) longest [] 8 0 (words.take start)
      (words.drop start) (fun other same => by cases same; omega) (by omega)
    rw [List.take_append_drop, taken, foldl_separate (.inl rfl), List.nil_append, Nat.zero_add]
      at front
    obtain ⟨word, rest, dropped⟩ : ∃ word rest, words.drop start = word :: rest := by
      apply List.exists_cons_of_length_pos
      rw [List.length_drop, eight]
      omega
    have skipped : rest.drop (longest - 1) = words.drop (start + longest) := by
      have positive : longest ≠ 0 := by
        dsimp only at order
        omega
      obtain ⟨more, rfl⟩ := Nat.exists_eq_succ_of_ne_zero positive
      rw [← List.drop_drop, dropped]
      rfl
    have fuel_eq : 8 - start = 7 - start + 1 := by omega
    have back := @appendWords_append (some start) longest
      (IP.groupText (words.take start) ++ [':', ':']) (7 - start) (start + longest)
      (words.drop (start + longest)) [] (fun other same => by cases same; omega)
      (by rw [List.length_drop, eight]; omega)
    rw [List.append_nil, foldl_separate (.inr (by simp))] at back
    rw [scanned]
    dsimp only
    rw [front, dropped, fuel_eq, appendWords, if_pos rfl, skipped, back]
    cases 7 - start - (words.drop (start + longest)).length <;> rfl

end Canonical

/-! ## Canonical texts are parsed -/

section Parse

variable {ip : IP} {groups : List Nat}

theorem isLowerHexDigit_digitChar :
    ∀ digit < 16, isLowerHexDigit (Nat.digitChar digit) = true := by
  decide

theorem group_hexDigits {value : Nat} (small : value < 65536) :
    group (IP.hexDigits value) = some value := by
  rw [group, if_pos, IP.hexDigits, hexValue_toDigits]
  exact ⟨Nat.toDigits_ne_nil, length_toDigits_sixteen small,
    all_toDigits_sixteen isLowerHexDigit_digitChar value⟩

theorem mapM_group (small : ∀ value ∈ groups, value < 65536) :
    (groups.map IP.hexDigits).mapM group = some groups := by
  induction groups with
  | nil => rfl
  | cons first rest ih =>
      rw [List.forall_mem_cons] at small
      rw [List.map_cons, List.mapM_cons, group_hexDigits small.1, ih small.2]
      rfl

/-- Groups take five characters each at most, with the colons between them. -/
theorem groupText_spec (small : ∀ value ∈ groups, value < 65536) :
    (IP.groupText groups).length ≤ 5 * groups.length - 1 ∧
      (IP.groupText groups).all (fun char => isLowerHexDigit char || char = ':') = true := by
  have digits : ∀ value, (IP.hexDigits value).all (fun char => isLowerHexDigit char || char = ':') =
      true := by
    intro value
    refine all_toDigits_sixteen (fun digit lt => ?_) value
    rw [isLowerHexDigit_digitChar digit lt]
    rfl
  induction groups with
  | nil => exact ⟨Nat.zero_le _, rfl⟩
  | cons first rest ih =>
      rw [List.forall_mem_cons] at small
      have short : (IP.hexDigits first).length ≤ 4 := length_toDigits_sixteen small.1
      obtain ⟨shortRest, allRest⟩ := ih small.2
      cases rest with
      | nil =>
          rw [groupText_singleton]
          exact ⟨short, digits first⟩
      | cons second rest =>
          rw [groupText_cons_cons, List.length_append, List.length_cons, List.all_append,
            List.all_cons, digits first, allRest]
          rw [List.length_cons] at shortRest ⊢
          constructor
          · rw [List.length_cons]
            omega
          · decide

theorem groupsText_spec (eight : groups.length = 8) (small : ∀ value ∈ groups, value < 65536) :
    (groupsText groups).length ≤ 39 ∧
      (groupsText groups).all (fun char => isLowerHexDigit char || char = ':') = true := by
  unfold groupsText
  cases run : IP.zeroRun groups with
  | none =>
      obtain ⟨short, all⟩ := groupText_spec small
      rw [eight] at short
      exact ⟨short, all⟩
  | some found =>
      rcases found with ⟨start, stop⟩
      obtain ⟨order, _⟩ := zeroRun_spec run
      have bounded : stop ≤ 8 := (zeroRun_le run).trans eight.le
      obtain ⟨shortBefore, allBefore⟩ := @groupText_spec (groups.take start)
        fun value member => small value (List.mem_of_mem_take member)
      obtain ⟨shortAfter, allAfter⟩ := @groupText_spec (groups.drop stop)
        fun value member => small value (List.mem_of_mem_drop member)
      dsimp only
      rw [List.length_take] at shortBefore
      rw [List.length_drop] at shortAfter
      rw [List.length_append, List.length_append, List.all_append, List.all_append, allBefore,
        allAfter]
      constructor
      · simp only [List.length_cons, List.length_nil]
        omega
      · decide

theorem parse_v6Text (sixteen : ip.length = 16) : parse (IP.v6Text ip) = some ip := by
  have eight := length_groups_eight sixteen
  have small := groups_lt ip
  have even : ip.length % 2 = 0 := by rw [sixteen]
  have bytes_eq := bytesOfGroups_groups even
  rw [v6Text_eq, parse, if_neg (not_not.mpr (colon_mem_groupsText eight)),
    (groupsText_spec eight small).2, if_neg (by decide)]
  generalize IP.groups ip = groups at eight small bytes_eq ⊢
  rcases splitPair_groupsText eight with whole | ⟨before, after, few, zeros, halves⟩
  · rw [whole]
    dsimp only
    rw [partsOf_groupText, List.length_map, if_neg (not_not.mpr eight), mapM_group small,
      Option.map_some, bytes_eq]
  · have smallBefore : ∀ value ∈ before, value < 65536 := fun value member =>
      small value (by rw [zeros]; simp [member])
    have smallAfter : ∀ value ∈ after, value < 65536 := fun value member =>
      small value (by rw [zeros]; simp [member])
    rw [halves]
    dsimp only
    rw [partsOf_groupText, partsOf_groupText, List.length_map, List.length_map,
      if_neg (not_le.mpr few), mapM_group smallBefore, mapM_group smallAfter]
    simp only [Option.bind_eq_bind, Option.bind_some, Option.pure_def, Option.some.injEq]
    rw [← zeros, bytes_eq]

theorem parse_decimalText (four : ip.length = 4) : parse (IP.decimalText ip) = some ip := by
  rw [parse, if_pos (colon_notMem_decimalText ip), octets_decimalText four, Option.map_some,
    map_ofNat_toNat]

end Parse

/-! ## The table of the phone -/

section Table

theorem signExtend_and : ∀ ones < 9, ones ≠ 0 → ∀ byte < 256,
    ((UInt8.ofNat byte).toBitVec.signExtend 32 &&& 255#32 <<< (8 - ones)).toNat % 256 /
        2 ^ (8 - ones) = byte / 2 ^ (8 - ones) ∧
      (UInt8.ofNat byte).toBitVec.signExtend 32 &&& 255#32 <<< (8 - ones) =
        (UInt8.ofNat (byte / 2 ^ (8 - ones) * 2 ^ (8 - ones))).toBitVec.signExtend 32 &&&
          255#32 <<< (8 - ones) := by
  decide +kernel

/-- Signed bytes share their first bits as unsigned ones do. -/
theorem sameBits_iff {ones : Nat} {first second : UInt8} (ones_le : ones ≤ 8) (some : ones ≠ 0) :
    sameBits ones first second = true ↔
      first.toNat / 2 ^ (8 - ones) = second.toNat / 2 ^ (8 - ones) := by
  have head := signExtend_and ones (Nat.lt_succ_of_le ones_le) some first.toNat first.toNat_lt
  have head' := signExtend_and ones (Nat.lt_succ_of_le ones_le) some second.toNat second.toNat_lt
  rw [UInt8.ofNat_toNat] at head head'
  rw [sameBits, decide_eq_true_iff]
  constructor
  · intro same
    rw [← head.1, ← head'.1, same]
  · intro same
    rw [head.2, head'.2, same]

/-- Bytes compared as signed numbers under a mask. -/
def signedTest : ByteTest where
  same ones first second := ones = 0 || sameBits ones first second
  same_iff {ones first second} ones_le := by
    by_cases nothing : ones = 0
    · have byte := first.toNat_lt
      have byte' := second.toNat_lt
      rw [nothing, Nat.sub_zero, Nat.div_eq_of_lt byte, Nat.div_eq_of_lt byte']
      simp
    · rw [← sameBits_iff ones_le nothing]
      simp [nothing]

theorem agrees_eq (bits : Nat) (firsts seconds : IP) :
    agrees bits firsts seconds = signedTest.agree bits firsts seconds := by
  induction firsts generalizing bits seconds with
  | nil => rfl
  | cons first firsts ih =>
      cases seconds with
      | nil => rfl
      | cons second seconds =>
          rw [agrees, ByteTest.agree, ih]
          by_cases nothing : bits = 0
          · rw [nothing, agree_zero]
            rfl
          · have some : min 8 bits ≠ 0 := by omega
            simp [nothing, some, signedTest]

theorem prefixes_eq : prefixes = blockedDiagnosticNetworks.map fun network =>
    ⟨network.ip, network.ones⟩ := by
  decide +kernel

theorem all_prefixes (ip : IP) :
    (prefixes.all fun block => !block.contains ip) = true ↔ ¬ Blocked ip := by
  rw [prefixes_eq, List.all_map, List.all_eq_true, Blocked, not_exists]
  refine forall_congr' fun network => ?_
  rw [not_and]
  refine imp_congr_right fun member => ?_
  rw [Function.comp_apply, Bool.not_eq_true', Bool.eq_false_iff, not_iff_not, Prefix.contains,
    Bool.and_eq_true, decide_eq_true_iff, agrees_eq, Covers, eq_comm]
  refine and_congr_right fun sized => ?_
  rw [agree_iff signedTest sized.symm (sized_blocked network member)]
  exact eq_comm

theorem isMapped_of_unmapped {ip : IP} (sixteen : ip.length = 16) (unmapped : ip.to4 = none) :
    isMapped ip = false := by
  rw [Bool.eq_false_iff]
  intro mapped
  have notFour : ip.length ≠ 4 := by
    rw [sixteen]
    decide
  rw [IP.to4, if_neg notFour] at unmapped
  rcases ite_eq_iff.mp unmapped with ⟨_, rejected⟩ | ⟨notMapped, _⟩
  · cases rejected
  · apply notMapped
    refine ⟨sixteen, ?_⟩
    rw [isMapped, Bool.and_eq_true, Bool.and_eq_true, decide_eq_true_eq, decide_eq_true_eq]
      at mapped
    obtain ⟨⟨zeros, tenth⟩, eleventh⟩ := mapped
    have front : ip.take 10 = List.replicate 10 0 := by
      rw [List.eq_replicate_iff, List.length_take, sixteen]
      exact ⟨rfl, fun byte member => of_decide_eq_true (List.all_eq_true.mp zeros byte member)⟩
    rw [List.take_add_one, List.take_add_one, front, tenth, eleventh]
    rfl

/-- The phone finds the canonical text of an address public if the server finds
the address public. -/
theorem isCanonicalPublic_decimalText {ip : IP} (four : ip.length = 4) :
    isCanonicalPublic (IP.decimalText ip) = isPublicDiagnosticIP ip := by
  have short := (octets_spec (octets_decimalText four)).1
  have notSixteen : ¬ (ip.length = 16 ∧
      (canonicalV6 ip ≠ IP.decimalText ip ∨ isMapped ip = true)) := by
    rw [four]
    exact fun both => absurd both.1 (by decide)
  rw [isCanonicalPublic, if_neg (by omega), parse_decimalText four]
  dsimp only
  rw [if_neg notSixteen, Bool.eq_iff_iff, all_prefixes, isPublicDiagnosticIP_iff,
    to4_of_length four, Option.getD_some]
  simp [four]

theorem isCanonicalPublic_v6Text {ip : IP} (sixteen : ip.length = 16) (unmapped : ip.to4 = none) :
    isCanonicalPublic (IP.v6Text ip) = isPublicDiagnosticIP ip := by
  have short := (groupsText_spec (length_groups_eight sixteen) (groups_lt ip)).1
  rw [← v6Text_eq] at short
  have canonical : ¬ (ip.length = 16 ∧
      (canonicalV6 ip ≠ IP.v6Text ip ∨ isMapped ip = true)) := by
    rw [canonicalV6_eq sixteen, isMapped_of_unmapped sixteen unmapped]
    simp
  rw [isCanonicalPublic, if_neg (not_lt.mpr short), parse_v6Text sixteen]
  dsimp only
  rw [if_neg canonical, Bool.eq_iff_iff, all_prefixes, isPublicDiagnosticIP_iff, unmapped,
    Option.getD_none]
  simp [sixteen]

end Table

end CheckNetwork.Android
