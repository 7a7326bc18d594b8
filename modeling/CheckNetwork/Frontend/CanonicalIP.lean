import CheckNetwork.Js.Comparator
import CheckNetwork.Js.Text
import CheckNetwork.Network.Gap

/-!
# Canonical texts of addresses

The browser writes every address in one way, whatever its spelling, and keeps
the zone of an address of sixteen bytes.  Canonical texts have an order.
-/

namespace CheckNetwork.Frontend

open CheckNetwork.Go CheckNetwork.Network
open CheckNetwork.Js (trim Trimmed Ends isSpace families firstDifference Consistent)

def octetsText (bytes : List Nat) : List Char :=
  ['.'].intercalate (bytes.map (Nat.toDigits 10))

def parseIPv4 (value : List Char) : Option (List Char × List Nat) :=
  (octets value).map fun bytes => (octetsText bytes, bytes)

/-- One to four hexadecimal digits. -/
def isWord (part : List Char) : Bool :=
  1 ≤ part.length ∧ part.length ≤ 4 ∧ part.all isHexDigit

/-- The words of the parts between colons, of which the last may be an IPv4
address. -/
def halfWords (allowIPv4 : Bool) : List (List Char) → Option (List Nat)
  | [] => some []
  | part :: rest =>
      if '.' ∈ part then
        if ¬allowIPv4 ∨ rest ≠ [] then none
        else match parseIPv4 part with
          | some (_, [a, b, c, d]) => some [a <<< 8 ||| b, c <<< 8 ||| d]
          | _ => none
      else if isWord part then (halfWords allowIPv4 rest).map (hexValue part :: ·)
      else none

def parseHalf (half : List Char) (allowIPv4 : Bool) : Option (List Nat) :=
  halfWords allowIPv4 (partsOf ':' half)

/-- The eight words of an address without its zone. -/
def ipv6Words (address : List Char) : Option (List Nat) :=
  if ':' ∉ address then none
  else match splitPair ':' address with
    | [whole] => do
        let left ← parseHalf whole true
        if left.length ≠ 8 then none
        pure left
    | [before, after] => do
        let left ← parseHalf before false
        let right ← parseHalf after true
        if 8 < left.length + right.length + 1 then none
        pure (left ++ List.replicate (8 - left.length - right.length) 0 ++ right)
    | _ => none

/-- Words of an IPv4 address that is written as one of sixteen bytes. -/
def mappedWords (words : List Nat) : Option (Nat × Nat) :=
  match words with
  | [0, 0, 0, 0, 0, 0xffff, high, low] => some (high, low)
  | _ => none

/-- `parseIPv6`; its loop finds the run of zeros that the server also leaves
out. -/
def parseIPv6 (value : List Char) : Option (List Char) :=
  let zone := value.drop ((value.takeWhile (· ≠ '%')).length + 1)
  if '%' ∈ value ∧ zone = [] then none
  else (ipv6Words (value.takeWhile (· ≠ '%'))).bind fun words =>
    match mappedWords words with
    | some (high, low) =>
        (parseIPv4 (octetsText [high >>> 8, high &&& 255, low >>> 8, low &&& 255])).map Prod.fst
    | none => some (groupsText words ++ if zone = [] then [] else '%' :: zone)

def canonicalIP (value : List Char) : Option (List Char) :=
  ((parseIPv4 value).map Prod.fst).or (parseIPv6 value)

/-- The canonical text of an address, or the empty text. -/
def canonicalIPAddress (value : List Char) : List Char := (canonicalIP (trim value)).getD []

/-- The words of a canonical text, and its zone. -/
def sortWords (value : List Char) : List Nat × List Char :=
  let address := value.takeWhile (· ≠ '%')
  let words := match splitPair ':' address with
    | [before, after] =>
        let before := (partsOf ':' before).map hexValue
        let after := (partsOf ':' after).map hexValue
        before ++ List.replicate (8 - before.length - after.length) 0 ++ after
    | halves => (partsOf ':' (halves.headD [])).map hexValue
  (words, value.drop (address.length + 1))

/-- `compareCanonicalIP`, with the order of texts of the environment. -/
def compareCanonicalIP (localeCompare : List Char → List Char → Int) (left right : List Char) :
    Int :=
  families (fun text => ':' ∉ text)
    (fun left right => firstDifference (List.range 4)
      ((left.splitOn '.').map fun part => Nat.ofDigitChars 10 part 0)
      ((right.splitOn '.').map fun part => Nat.ofDigitChars 10 part 0) 0)
    (fun left right => firstDifference (List.range 8) (sortWords left).1 (sortWords right).1
      (localeCompare (sortWords left).2 (sortWords right).2))
    (canonicalIPAddress left) (canonicalIPAddress right)

example : canonicalIPAddress " FE80:0:0::1%Eth 0 ".toList = "fe80::1%Eth 0".toList := by decide

example : canonicalIPAddress "::ffff:1.2.3.4".toList = "1.2.3.4".toList := by decide

/-! ## Canonical texts are kept -/

section Octets

variable {text part : List Char} {bytes values : List Nat}

theorem mem_intercalate {mark char : Char} {parts : List (List Char)}
    (member : char ∈ [mark].intercalate parts) : char = mark ∨ ∃ part ∈ parts, char ∈ part := by
  induction parts with
  | nil => cases member
  | cons first rest ih =>
      cases rest with
      | nil =>
          rw [List.intercalate_singleton] at member
          exact .inr ⟨first, List.mem_cons_self, member⟩
      | cons second rest =>
          rw [List.intercalate_cons_cons, List.mem_append, List.mem_append,
            List.mem_singleton] at member
          rcases member with (here | here) | later
          · exact .inr ⟨first, List.mem_cons_self, here⟩
          · exact .inl here
          · rcases ih later with here | ⟨part, listed, inside⟩
            · exact .inl here
            · exact .inr ⟨part, List.mem_cons_of_mem first listed, inside⟩

/-- An octet has digits only. -/
theorem isDigit_of_isOctetText (known : isOctetText text = true) : text.all Char.isDigit = true := by
  unfold isOctetText at known
  split at known
  · decide
  · cases known
  · rename_i first rest _
    obtain ⟨lower, upper, -, digits⟩ := of_decide_eq_true known
    rw [List.all_cons, digits, Bool.and_true, Char.isDigit, Bool.and_eq_true, decide_eq_true_iff,
      decide_eq_true_iff]
    exact ⟨UInt32.le_trans (by decide : '0'.val ≤ '1'.val) lower, upper⟩

theorem isOctetText_of_mapM {parts : List (List Char)} (read : parts.mapM octet = some values) :
    ∀ part ∈ parts, isOctetText part = true := by
  induction parts generalizing values with
  | nil => exact fun _ member => (by cases member)
  | cons first rest ih =>
      rw [List.mapM_cons] at read
      obtain ⟨value, head, read⟩ := Option.bind_eq_some_iff.mp read
      obtain ⟨others, tail, -⟩ := Option.bind_eq_some_iff.mp read
      rw [List.forall_mem_cons]
      refine ⟨?_, ih tail⟩
      rcases ite_eq_iff.mp head with ⟨known, -⟩ | ⟨-, rejected⟩
      · exact known.1
      · cases rejected

/-- An IPv4 address has no colon. -/
theorem colon_notMem_of_octets (read : octets text = some bytes) : ':' ∉ text := by
  intro member
  rcases ite_eq_iff.mp read with ⟨-, parsed⟩ | ⟨-, rejected⟩
  · rw [← @List.intercalate_splitOn _ text _ _ '.'] at member
    rcases mem_intercalate member with same | ⟨part, listed, inside⟩
    · cases same
    · have digits := isDigit_of_isOctetText (isOctetText_of_mapM parsed part listed)
      exact absurd (List.all_eq_true.mp digits _ inside) (by decide)
  · cases rejected

/-- The text of four octets is read as the octets. -/
theorem octets_octetsText (four : bytes.length = 4) (small : ∀ byte ∈ bytes, byte < 256) :
    octets (octetsText bytes) = some bytes := by
  have pieces : (octetsText bytes).splitOn '.' = bytes.map (Nat.toDigits 10) := by
    apply List.splitOn_intercalate
    · intro part member
      obtain ⟨byte, -, rfl⟩ := List.mem_map.mp member
      exact notMem_toDigits_ten (by decide)
    · intro empty
      rw [List.map_eq_nil_iff.mp empty] at four
      cases four
  have read : ∀ bytes : List Nat, (∀ byte ∈ bytes, byte < 256) →
      (bytes.map (Nat.toDigits 10)).mapM octet = some bytes := by
    intro bytes
    induction bytes with
    | nil => exact fun _ => rfl
    | cons first rest ih =>
        intro small
        rw [List.forall_mem_cons] at small
        rw [List.map_cons, List.mapM_cons, octet_toDigits small.1, ih small.2]
        rfl
  rw [octets, pieces, List.length_map, if_pos four, read bytes small]

/-- The texts of canonical IPv4 addresses. -/
theorem parseIPv4_octetsText (four : bytes.length = 4) (small : ∀ byte ∈ bytes, byte < 256) :
    parseIPv4 (octetsText bytes) = some (octetsText bytes, bytes) := by
  rw [parseIPv4, octets_octetsText four small, Option.map_some]

end Octets

section Words

variable {address half : List Char} {words : List Nat} {parts : List (List Char)} {last : Bool}

theorem word_lt {high low : Nat} (high_lt : high < 256) (low_lt : low < 256) :
    high <<< 8 ||| low < 65536 := by
  rw [← Nat.shiftLeft_add_eq_or_of_lt (by exact low_lt), Nat.shiftLeft_eq]
  omega

theorem halfWords_lt (read : halfWords last parts = some words) : ∀ word ∈ words, word < 65536 := by
  induction parts generalizing words with
  | nil =>
      cases read
      exact fun _ member => (by cases member)
  | cons part rest ih =>
      rw [halfWords] at read
      split at read
      · split at read
        · cases read
        · split at read
          · rename_i a b c d parsed
            obtain ⟨bytes, octets_eq, same⟩ := Option.map_eq_some_iff.mp parsed
            cases same
            have small := octets_lt octets_eq
            simp only [List.forall_mem_cons] at small
            cases read
            rw [List.forall_mem_cons, List.forall_mem_singleton]
            exact ⟨word_lt small.1 small.2.1, word_lt small.2.2.1 small.2.2.2.1⟩
          · cases read
      · split at read
        · rename_i known
          obtain ⟨others, tail, rfl⟩ := Option.map_eq_some_iff.mp read
          rw [List.forall_mem_cons]
          refine ⟨?_, ih tail⟩
          obtain ⟨-, short, all⟩ := of_decide_eq_true known
          apply (hexValue_lt all).trans_le
          exact Nat.pow_le_pow_right (by decide) short
        · cases read

theorem sized_ipv6Words (read : ipv6Words address = some words) : Sized words := by
  unfold ipv6Words at read
  split at read
  · cases read
  · split at read
    · obtain ⟨left, leftRead, read⟩ := Option.bind_eq_some_iff.mp read
      split at read
      · cases read
      · rename_i eight
        cases read
        exact ⟨not_not.mp eight, halfWords_lt leftRead⟩
    · obtain ⟨left, leftRead, read⟩ := Option.bind_eq_some_iff.mp read
      obtain ⟨right, rightRead, read⟩ := Option.bind_eq_some_iff.mp read
      split at read
      · cases read
      · rename_i few
        cases read
        constructor
        · rw [List.length_append, List.length_append, List.length_replicate]
          omega
        · intro word member
          rw [List.mem_append, List.mem_append, List.mem_replicate] at member
          rcases member with (before | ⟨-, rfl⟩) | after
          · exact halfWords_lt leftRead word before
          · decide
          · exact halfWords_lt rightRead word after
    · cases read

theorem halfWords_hexDigits (small : ∀ word ∈ words, word < 65536) :
    halfWords last (words.map IP.hexDigits) = some words := by
  induction words with
  | nil => rfl
  | cons first rest ih =>
      rw [List.forall_mem_cons] at small
      have noDot : '.' ∉ IP.hexDigits first := notMem_toDigits_sixteen (by decide)
      have known : isWord (IP.hexDigits first) = true := by
        rw [isWord, decide_eq_true_iff]
        exact ⟨List.length_pos_iff.mpr Nat.toDigits_ne_nil, length_toDigits_sixteen small.1,
          all_isHexDigit first⟩
      rw [List.map_cons, halfWords, if_neg noDot, if_pos known, ih small.2, Option.map_some]
      exact congrArg (fun value => some (value :: rest)) (hexValue_toDigits first)

theorem parseHalf_groupText (small : ∀ word ∈ words, word < 65536) :
    parseHalf (IP.groupText words) last = some words := by
  rw [parseHalf, partsOf_groupText, halfWords_hexDigits small]

/-- The canonical text of words is read as the words. -/
theorem ipv6Words_groupsText (sized : Sized words) : ipv6Words (groupsText words) = some words := by
  obtain ⟨eight, small⟩ := sized
  rw [ipv6Words, if_neg (not_not.mpr (colon_mem_groupsText eight))]
  rcases splitPair_groupsText eight with whole | ⟨before, after, few, same, halves⟩
  · rw [whole]
    dsimp only
    rw [parseHalf_groupText small]
    simp [eight]
  · have smallBefore : ∀ word ∈ before, word < 65536 := fun word member => small word (by
      rw [same]
      exact List.mem_append_left _ (List.mem_append_left _ member))
    have smallAfter : ∀ word ∈ after, word < 65536 := fun word member => small word (by
      rw [same]
      exact List.mem_append_right _ member)
    rw [halves]
    dsimp only
    rw [parseHalf_groupText smallBefore, parseHalf_groupText smallAfter]
    simp only [Option.bind_eq_bind, Option.bind_some, Option.pure_def]
    rw [if_neg (by omega), Nat.sub_sub]
    exact congrArg some same.symm

theorem all_groupsText (sized : Sized words) : (groupsText words).all isLiteralChar = true :=
  (readV6_spec (readV6_groupsText sized.1 sized.2)).2

end Words

def zoneText (zone : List Char) : List Char := if zone = [] then [] else '%' :: zone

/-- The texts that addresses are written as. -/
inductive Canonical : List Char → Prop
  | v4 {bytes : List Nat} (four : bytes.length = 4) (small : ∀ byte ∈ bytes, byte < 256) :
      Canonical (octetsText bytes)
  | v6 {words : List Nat} {zone : List Char} (sized : Sized words)
      (unmapped : mappedWords words = none) (ends : Ends zone) :
      Canonical (groupsText words ++ zoneText zone)

section Canonical

variable {value text zone : List Char} {words : List Nat}

theorem ends_drop {count : Nat} (ends : Ends value) : Ends (value.drop count) := by
  intro last member
  apply ends
  obtain ⟨front, whole⟩ := List.drop_suffix count value
  rw [← whole, List.getLast?_append, Option.mem_def.mp member]
  rfl

theorem byte_lt {value : Nat} (small : value < 65536) : value >>> 8 < 256 ∧ value &&& 255 < 256 := by
  have low : value &&& 255 = value % 2 ^ 8 := Nat.and_two_pow_sub_one_eq_mod value 8
  rw [Nat.shiftRight_eq_div_pow, low]
  omega

theorem mem_of_mappedWords {high low : Nat} (mapped : mappedWords words = some (high, low)) :
    high ∈ words ∧ low ∈ words := by
  unfold mappedWords at mapped
  split at mapped
  · cases mapped
    simp
  · cases mapped

/-- What is read of a text without white space at its end is canonical. -/
theorem canonical_of_canonicalIP (ends : Ends value) (read : canonicalIP value = some text) :
    Canonical text := by
  rw [canonicalIP, Option.or_eq_some_iff] at read
  rcases read with short | ⟨-, long⟩
  · obtain ⟨⟨_, _⟩, parsed, rfl⟩ := Option.map_eq_some_iff.mp short
    obtain ⟨bytes, octets_eq, same⟩ := Option.map_eq_some_iff.mp parsed
    cases same
    exact .v4 (length_of_octets octets_eq) (octets_lt octets_eq)
  · unfold parseIPv6 at long
    dsimp only at long
    split at long
    · cases long
    · obtain ⟨words, wordsRead, written⟩ := Option.bind_eq_some_iff.mp long
      have sized := sized_ipv6Words wordsRead
      cases mapped : mappedWords words with
      | none =>
          rw [mapped] at written
          cases written
          exact .v6 sized mapped (ends_drop ends)
      | some pair =>
          rcases pair with ⟨high, low⟩
          rw [mapped] at written
          obtain ⟨highMem, lowMem⟩ := mem_of_mappedWords mapped
          have high_lt := byte_lt (sized.2 high highMem)
          have low_lt := byte_lt (sized.2 low lowMem)
          have small : ∀ byte ∈ [high >>> 8, high &&& 255, low >>> 8, low &&& 255], byte < 256 := by
            simp only [List.forall_mem_cons]
            exact ⟨high_lt.1, high_lt.2, low_lt.1, low_lt.2, fun _ member => (by cases member)⟩
          dsimp only at written
          rw [parseIPv4_octetsText rfl small] at written
          cases written
          exact .v4 rfl small

/-- Marks beyond the letters are in no literal. -/
theorem le_of_isLiteralChar {char : Char} (literal : isLiteralChar char = true) : char ≤ 'f' := by
  rw [isLiteralChar, Bool.or_eq_true, Bool.or_eq_true, isHexDigit, decide_eq_true_iff,
    decide_eq_true_iff, decide_eq_true_iff, Char.isDigit, Bool.and_eq_true, decide_eq_true_iff,
    decide_eq_true_iff] at literal
  rcases literal with ((⟨-, digit⟩ | ⟨-, lower⟩ | ⟨-, upper⟩) | rfl) | rfl
  · exact UInt32.le_trans digit (by decide : '9'.val ≤ 'f'.val)
  · exact lower
  · exact Char.le_trans upper (by decide)
  · decide
  · decide

theorem isSpace_of_isLiteralChar {char : Char} (literal : isLiteralChar char = true) :
    isSpace char = false := by
  rw [← Bool.not_eq_true, isSpace, decide_eq_true_iff]
  rintro (member | ⟨beyond, -⟩)
  · revert literal
    simp only [List.mem_cons, List.not_mem_nil, or_false] at member
    rcases member with rfl | rfl | rfl | rfl | rfl | rfl | rfl | rfl | rfl | rfl | rfl | rfl | rfl | rfl
    all_goals decide
  · exact absurd (Char.le_trans beyond (le_of_isLiteralChar literal)) (by decide)

/-- A text of literals stays as it is without white space. -/
theorem trimmed_of_literal (all : text.all isLiteralChar = true) : Trimmed text where
  head := fun _ member =>
    isSpace_of_isLiteralChar (List.all_eq_true.mp all _ (List.mem_of_mem_head? member))
  ends := fun _ member =>
    isSpace_of_isLiteralChar (List.all_eq_true.mp all _ (List.mem_of_mem_getLast? member))

theorem groupsText_ne_nil (sized : Sized words) : groupsText words ≠ [] := by
  intro empty
  have colon := colon_mem_groupsText sized.1
  rw [empty] at colon
  cases colon

theorem trimmed_v6 (sized : Sized words) (ends : Ends zone) :
    Trimmed (groupsText words ++ zoneText zone) where
  head := by
    rw [List.head?_append_of_ne_nil _ (groupsText_ne_nil sized)]
    exact (trimmed_of_literal (all_groupsText sized)).head
  ends := by
    rw [zoneText]
    split
    · rw [List.append_nil]
      exact (trimmed_of_literal (all_groupsText sized)).ends
    · rename_i nonempty
      intro last member
      rw [List.getLast?_append_of_ne_nil _ (List.cons_ne_nil _ _),
        List.getLast?_cons_of_ne_nil nonempty] at member
      exact ends last member

/-- The address and the zone are told apart by the first mark. -/
theorem parts_v6 (sized : Sized words) (zone : List Char) :
    (groupsText words ++ zoneText zone).takeWhile (· ≠ '%') = groupsText words ∧
    (groupsText words ++ zoneText zone).drop ((groupsText words).length + 1) = zone := by
  have noMark : ∀ char ∈ groupsText words, decide (char ≠ '%') = true := by
    intro char member
    rw [decide_eq_true_iff]
    rintro rfl
    exact absurd (List.all_eq_true.mp (all_groupsText sized) _ member) (by decide)
  rw [zoneText]
  split
  · rename_i empty
    rw [List.append_nil, List.takeWhile_eq_self_iff.mpr noMark, empty]
    exact ⟨rfl, List.drop_eq_nil_of_le (Nat.le_succ _)⟩
  · rw [List.takeWhile_append_of_pos noMark, List.takeWhile_cons_of_neg (by decide),
      List.append_nil]
    exact ⟨rfl, by rw [List.drop_append]; simp⟩

theorem canonicalIP_of_canonical (canonical : Canonical text) : canonicalIP text = some text := by
  cases canonical with
  | v4 four small => rw [canonicalIP, parseIPv4_octetsText four small, Option.map_some, Option.some_or]
  | @v6 words zone sized unmapped ends =>
      have colon : ':' ∈ groupsText words ++ zoneText zone :=
        List.mem_append_left _ (colon_mem_groupsText sized.1)
      have long : parseIPv4 (groupsText words ++ zoneText zone) = none := by
        rw [parseIPv4, Option.map_eq_none_iff, Option.eq_none_iff_forall_ne_some]
        exact fun bytes read => colon_notMem_of_octets read colon
      obtain ⟨before, after⟩ := parts_v6 sized zone
      have kept : ¬('%' ∈ groupsText words ++ zoneText zone ∧ zone = []) := by
        rintro ⟨member, rfl⟩
        rw [zoneText, if_pos rfl, List.append_nil] at member
        exact absurd (List.all_eq_true.mp (all_groupsText sized) _ member) (by decide)
      rw [canonicalIP, long, Option.map_none, Option.none_or, parseIPv6]
      rw [before, after, if_neg kept, ipv6Words_groupsText sized, Option.bind_some, unmapped, zoneText]

theorem trimmed_of_canonical (canonical : Canonical text) : Trimmed text := by
  cases canonical with
  | v4 four small => exact trimmed_of_literal (octets_spec (octets_octetsText four small)).2
  | v6 sized _ ends => exact trimmed_v6 sized ends

theorem ne_nil_of_canonical (canonical : Canonical text) : text ≠ [] := by
  intro empty
  have read := canonicalIP_of_canonical canonical
  rw [empty] at read
  exact absurd read (by decide)

theorem canonicalIPAddress_of_canonical (canonical : Canonical text) :
    canonicalIPAddress text = text := by
  rw [canonicalIPAddress, Js.trim_eq_self (trimmed_of_canonical canonical),
    canonicalIP_of_canonical canonical, Option.getD_some]

/-- A text that has a canonical form is given one that stays as it is. -/
theorem canonical_canonicalIPAddress (value : List Char) :
    canonicalIPAddress value = [] ∨ Canonical (canonicalIPAddress value) := by
  rw [canonicalIPAddress]
  cases read : canonicalIP (trim value) with
  | none => exact .inl rfl
  | some text => exact .inr (canonical_of_canonicalIP (Js.trimmed_trim value).ends read)

end Canonical

/-! ## The order of canonical texts -/

section Order

variable {localeCompare : List Char → List Char → Int}

theorem consistent_compareCanonicalIP (consistent : Consistent localeCompare) :
    Consistent (compareCanonicalIP localeCompare) := by
  have octets : Consistent fun left right : List Char => firstDifference (List.range 4)
      ((left.splitOn '.').map fun part => Nat.ofDigitChars 10 part 0)
      ((right.splitOn '.').map fun part => Nat.ofDigitChars 10 part 0) 0 :=
    Js.consistent_zero.firstDifference (List.range 4) _
  have words : Consistent fun left right => firstDifference (List.range 8) (sortWords left).1
      (sortWords right).1 (localeCompare (sortWords left).2 (sortWords right).2) :=
    (consistent.comp fun text => (sortWords text).2).firstDifference (List.range 8) _
  exact (octets.families words _).comp canonicalIPAddress

end Order

end CheckNetwork.Frontend
