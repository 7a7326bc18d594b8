import CheckNetwork.Bits.Prefix
import CheckNetwork.Frontend.CanonicalIP

/-!
# The common prefix of addresses

The browser compares up to sixty-four addresses.  For each family it finds the longest prefix that
the addresses share, with the first and the last address of its range and the first bit in which
two addresses differ.
-/

namespace CheckNetwork.Frontend.CommonPrefix

open CheckNetwork.Bits CheckNetwork.Network
open CheckNetwork.Js (trim)

/-! ## Addresses as numbers -/

inductive Family
  | v4
  | v6
  deriving DecidableEq

def Family.width : Family → Nat
  | v4 => 32
  | v6 => 128

structure AddressBits where
  family : Family
  value : Nat
  deriving DecidableEq

def ipv4Bits (text : List Char) : Option AddressBits :=
  (octets text).map fun bytes => ⟨.v4, pack 8 bytes⟩

/-- The number of eight words, of which the last two may be an address of four bytes. -/
def wordsBits (words : List Nat) : AddressBits :=
  match mappedWords words with
  | some (high, low) => ⟨.v4, high <<< 16 ||| low⟩
  | none => ⟨.v6, pack 16 words⟩

/-- `ipv6Words`, with the number of the words; the zone is left out. -/
def ipv6Bits (text : List Char) : Option AddressBits :=
  let address := text.takeWhile (· ≠ '%')
  if '%' ∈ text ∧ text.drop (address.length + 1) = [] then none
  else (ipv6Words address).map wordsBits

def parseAddressBits (rawText : List Char) : Option AddressBits :=
  let text := trim rawText
  if text = [] ∨ ' ' ∈ text then none else (ipv4Bits text).or (ipv6Bits text)

def formatValue (value : Nat) : Family → List Char
  | .v4 => octetsText (unpack 8 4 value)
  | .v6 => groupsText (unpack 16 8 value)

/-! ## Groups -/

structure Group where
  family : Family
  count : Nat
  sharedBits : Option Nat
  cidr : Option (List Char)
  rangeFirst : List Char
  rangeLast : Option (List Char)
  firstDiffBit : Option Nat
  alone : Bool
  members : List (List Char)
  deriving DecidableEq

/-- The bit length of a number, by the loop that shifts it. -/
def bitLength (cursor : Nat) : Nat :=
  if cursor = 0 then 0 else bitLength (cursor >>> 1) + 1
termination_by cursor
decreasing_by
  rw [Nat.shiftRight_one]
  omega

def computeGroup (family : Family) (first : Nat) (rest : List Nat) : Group :=
  let (min, max) := extremes first rest
  let width := family.width
  let shared := if min = max then width else width - bitLength (min ^^^ max)
  let freeBits := width - shared
  let lowMask := if 0 < freeBits then (1 <<< freeBits) - 1 else 0
  let rangeFirst := formatValue (min.ldiff lowMask) family
  { family
    count := (first :: rest).length
    sharedBits := some shared
    cidr := some (rangeFirst ++ '/' :: Nat.toDigits 10 shared)
    rangeFirst
    rangeLast := some (formatValue (min ||| lowMask) family)
    firstDiffBit := if shared = width then none else some (shared + 1)
    alone := false
    members := (first :: rest).map (formatValue · family) }

def loneGroup (family : Family) (value : Nat) : Group where
  family
  count := 1
  sharedBits := none
  cidr := none
  rangeFirst := formatValue value family
  rangeLast := none
  firstDiffBit := none
  alone := true
  members := [formatValue value family]

/-- The group of the addresses of a family. -/
def resultGroup (family : Family) : List Nat → Option Group
  | [] => none
  | [value] => some (loneGroup family value)
  | first :: second :: rest => some (computeGroup family first (second :: rest))

structure Common where
  totalInput : Nat
  analyzed : Nat
  truncated : Bool
  parsed : Nat
  skipped : List (List Char)
  groups : List Group
  deriving DecidableEq

def maxAddresses : Nat := 64

/-- The addresses of a family among the inputs that are looked at. -/
def membersOf (family : Family) (rawAddresses : List (List Char)) : List Nat :=
  (((rawAddresses.take maxAddresses).filterMap parseAddressBits).filter
    (·.family = family)).map (·.value)

/-- `commonPrefix`; the order of the names puts the shorter family first. -/
def commonPrefix (rawAddresses : List (List Char)) : Common :=
  let texts := ((rawAddresses.take maxAddresses).map trim).filter (· ≠ [])
  { totalInput := rawAddresses.length
    analyzed := min rawAddresses.length maxAddresses
    truncated := maxAddresses < rawAddresses.length
    parsed := (texts.filterMap parseAddressBits).length
    skipped := texts.filter fun text => (parseAddressBits text).isNone
    groups := [Family.v4, Family.v6].filterMap fun family =>
      resultGroup family (((texts.filterMap parseAddressBits).filter
        (·.family = family)).map (·.value)) }

example : (["10.0.0.1", "::ffff:10.0.0.2", "fe80::1%eth0", "host"].map fun text =>
    (parseAddressBits text.toList).map fun bits => (bits.family, bits.value)) =
    [some (.v4, 0x0a000001), some (.v4, 0x0a000002),
      some (.v6, 0xfe800000000000000000000000000001), none] := by
  decide

/-! ## What texts say -/

section Texts

variable {text : List Char} {bits : AddressBits} {value : Nat} {family : Family}

/-- A text is an address of a family, whose number it says. -/
def Denotes (text : List Char) : Family → Nat → Prop
  | .v4, value => ∃ bytes, octets text = some bytes ∧ pack 8 bytes = value
  | .v6, value => ∃ words, ipv6Words text = some words ∧ pack 16 words = value

/-- What texts are read as. -/
inductive Read : AddressBits → Prop
  | v4 {value : Nat} (value_lt : value < 2 ^ 32) : Read ⟨.v4, value⟩
  | v6 {words : List Nat} (sized : Sized words) (unmapped : mappedWords words = none) :
      Read ⟨.v6, pack 16 words⟩

theorem sized_unpack (value : Nat) : Sized (unpack 16 8 value) :=
  ⟨length_unpack 16 8 value, unpack_lt⟩

theorem octets_formatValue (value : Nat) :
    octets (formatValue value .v4) = some (unpack 8 4 value) :=
  octets_octetsText (length_unpack 8 4 value) unpack_lt

theorem denotes_formatValue (value_lt : value < 2 ^ family.width) :
    Denotes (formatValue value family) family value := by
  cases family with
  | v4 => exact ⟨unpack 8 4 value, octets_formatValue value, pack_unpack value_lt⟩
  | v6 =>
      exact ⟨unpack 16 8 value, ipv6Words_groupsText (sized_unpack value), pack_unpack value_lt⟩

theorem read_ipv4Bits (read : ipv4Bits text = some bits) : Read bits := by
  obtain ⟨bytes, parsed, rfl⟩ := Option.map_eq_some_iff.mp read
  have bound : pack 8 bytes < 2 ^ (8 * bytes.length) := pack_lt (octets_lt parsed)
  rw [length_of_octets parsed] at bound
  exact .v4 bound

theorem read_ipv6Bits (read : ipv6Bits text = some bits) : Read bits := by
  rw [ipv6Bits] at read
  split at read
  · cases read
  · obtain ⟨words, parsed, rfl⟩ := Option.map_eq_some_iff.mp read
    have sized := sized_ipv6Words parsed
    rw [wordsBits]
    cases mapped : mappedWords words with
    | none => exact .v6 sized mapped
    | some pair =>
        obtain ⟨high, low⟩ := mem_of_mappedWords mapped
        have high_lt := sized.2 _ high
        have low_lt := sized.2 _ low
        apply Read.v4
        rw [← Nat.shiftLeft_add_eq_or_of_lt (show pair.2 < 2 ^ 16 from low_lt), Nat.shiftLeft_eq]
        omega

theorem read_parseAddressBits (read : parseAddressBits text = some bits) : Read bits := by
  rw [parseAddressBits] at read
  split at read
  · cases read
  · rcases Option.or_eq_some_iff.mp read with short | ⟨-, long⟩
    · exact read_ipv4Bits short
    · exact read_ipv6Bits long

theorem Read.value_lt (read : Read bits) : bits.value < 2 ^ bits.family.width := by
  cases read with
  | v4 value_lt => exact value_lt
  | @v6 words sized unmapped =>
      have bound : pack 16 words < 2 ^ (16 * words.length) := pack_lt sized.2
      rw [sized.1] at bound
      exact bound

/-- A text of literals is read without its white space, of which it has none. -/
theorem parseAddressBits_of_literal (all : text.all isLiteralChar = true) (nonempty : text ≠ []) :
    parseAddressBits text = (ipv4Bits text).or (ipv6Bits text) := by
  have noSpace : ' ' ∉ text := by
    intro member
    exact absurd (List.all_eq_true.mp all _ member) (by decide)
  rw [parseAddressBits, Js.trim_eq_self (trimmed_of_literal all),
    if_neg (not_or.mpr ⟨nonempty, noSpace⟩)]

/-- Literals with a colon are addresses of sixteen bytes, without a zone. -/
theorem parseAddressBits_of_colon (all : text.all isLiteralChar = true) (colon : ':' ∈ text) :
    parseAddressBits text = (ipv6Words text).map wordsBits := by
  have long : octets text = none := by
    rw [Option.eq_none_iff_forall_ne_some]
    exact fun bytes parsed => colon_notMem_of_octets parsed colon
  have noZone : '%' ∉ text := by
    intro member
    exact absurd (List.all_eq_true.mp all _ member) (by decide)
  have whole : text.takeWhile (· ≠ '%') = text := by
    rw [List.takeWhile_eq_self_iff]
    intro char member
    rw [decide_eq_true_iff]
    rintro rfl
    exact noZone member
  rw [parseAddressBits_of_literal all (List.ne_nil_of_mem colon), ipv4Bits, long, Option.map_none,
    Option.none_or, ipv6Bits, whole, if_neg fun both => noZone both.1]

/-- The text of what was read is read as the same. -/
theorem Read.parse_formatValue (read : Read bits) :
    parseAddressBits (formatValue bits.value bits.family) = some bits := by
  cases read with
  | @v4 value value_lt =>
      have parsed := octets_formatValue value
      have nonempty : formatValue value .v4 ≠ [] := by
        intro empty
        rw [empty] at parsed
        cases parsed
      rw [parseAddressBits_of_literal (octets_spec parsed).2 nonempty, ipv4Bits, parsed,
        Option.map_some, pack_unpack value_lt, Option.some_or]
  | @v6 words sized unmapped =>
      have text_eq : formatValue (pack 16 words) .v6 = groupsText words := by
        have parts : unpack 16 words.length (pack 16 words) = words := unpack_pack sized.2
        rw [sized.1] at parts
        rw [formatValue, parts]
      change parseAddressBits (formatValue (pack 16 words) .v6) = _
      rw [text_eq, parseAddressBits_of_colon (all_groupsText sized) (colon_mem_groupsText sized.1),
        ipv6Words_groupsText sized, Option.map_some, wordsBits, unmapped]

theorem ipv6Words_mapped {a b c d : Nat} (parsed : octets text = some [a, b, c, d]) :
    ipv6Words ("::ffff:".toList ++ text) =
      some [0, 0, 0, 0, 0, 0xffff, a <<< 8 ||| b, c <<< 8 ||| d] := by
  have noColon := colon_notMem_of_octets parsed
  have dot : '.' ∈ text := by
    rcases ite_eq_iff.mp parsed with ⟨four, -⟩ | ⟨-, rejected⟩
    · obtain ⟨first, rest, pieces⟩ := List.exists_cons_of_length_eq_add_one four
      rw [pieces, List.length_cons, Nat.add_right_cancel_iff] at four
      obtain ⟨second, others, rfl⟩ := List.exists_cons_of_length_eq_add_one four
      rw [← @List.intercalate_splitOn _ text _ _ '.', pieces, List.intercalate_cons_cons]
      exact List.mem_append_left _ (List.mem_append_right _ List.mem_cons_self)
    · cases rejected
  have tail : splitPair ':' text = [text] := by
    have whole : splitPair ':' (text ++ []) = _ := splitPair_append noColon
    rw [List.append_nil] at whole
    rw [whole]
    exact congrArg (fun text => [text]) (List.append_nil text)
  have halves : splitPair ':' ("::ffff:".toList ++ text) = [[], "ffff:".toList ++ text] := by
    cases text with
    | nil => rfl
    | cons first rest =>
        rw [List.mem_cons, not_or] at noColon
        change [] :: splitPair ':' ("ffff".toList ++ ':' :: first :: rest) = _
        rw [splitPair_append (by decide), splitPair, if_neg fun both => noColon.1 both.2.symm, tail]
        rfl
  have parts : partsOf ':' ("ffff:".toList ++ text) = ["ffff".toList, text] := by
    rw [partsOf, if_neg (by simp)]
    have whole : "ffff:".toList ++ text = [':'].intercalate ["ffff".toList, text] := by
      rw [List.intercalate_cons_cons, List.intercalate_singleton]
      rfl
    rw [whole]
    apply List.splitOn_intercalate
    · rw [List.forall_mem_cons, List.forall_mem_singleton]
      exact ⟨by decide, noColon⟩
    · exact List.cons_ne_nil _ _
  have half : parseHalf ("ffff:".toList ++ text) true =
      some [0xffff, a <<< 8 ||| b, c <<< 8 ||| d] := by
    have word : isWord "ffff".toList = true := by decide
    rw [parseHalf, parts, halfWords, if_neg (by decide), if_pos word, halfWords, if_pos dot,
      if_neg (by simp), parseIPv4, parsed]
    rfl
  rw [ipv6Words, if_neg (by simp), halves]
  dsimp only
  rw [half]
  rfl

/-- An address of four bytes that is written as one of sixteen. -/
theorem parseAddressBits_mapped (read : ipv4Bits text = some bits) :
    parseAddressBits ("::ffff:".toList ++ text) = some bits := by
  obtain ⟨bytes, parsed, rfl⟩ := Option.map_eq_some_iff.mp read
  have all : ("::ffff:".toList ++ text).all isLiteralChar = true := by
    rw [List.all_append, (octets_spec parsed).2]
    decide
  have colon : ':' ∈ "::ffff:".toList ++ text := List.mem_append_left _ (by decide)
  have four := length_of_octets parsed
  have small := octets_lt parsed
  rcases bytes with _ | ⟨a, _ | ⟨b, _ | ⟨c, _ | ⟨d, _ | ⟨e, rest⟩⟩⟩⟩⟩
  · cases four
  · cases four
  · cases four
  · cases four
  · simp only [List.forall_mem_cons] at small
    obtain ⟨a_lt, b_lt, c_lt, d_lt, -⟩ := small
    rw [parseAddressBits_of_colon all colon, ipv6Words_mapped parsed]
    change some (⟨.v4, (a <<< 8 ||| b) <<< 16 ||| (c <<< 8 ||| d)⟩ : AddressBits) =
      some ⟨.v4, pack 8 ([] ++ [a] ++ [b] ++ [c] ++ [d])⟩
    have low_lt : c <<< 8 ||| d < 2 ^ 16 := word_lt c_lt d_lt
    rw [pack_concat (by exact d_lt), pack_concat (by exact c_lt), pack_concat (by exact b_lt),
      pack_concat (by exact a_lt), ← Nat.shiftLeft_add_eq_or_of_lt low_lt,
      ← Nat.shiftLeft_add_eq_or_of_lt (show b < 2 ^ 8 from b_lt),
      ← Nat.shiftLeft_add_eq_or_of_lt (show d < 2 ^ 8 from d_lt)]
    refine congrArg (fun value => some (⟨.v4, value⟩ : AddressBits)) ?_
    have none : pack 8 [] = 0 := rfl
    rw [none, Nat.shiftLeft_eq, Nat.shiftLeft_eq, Nat.shiftLeft_eq]
    omega
  · cases four

/-- The words of a number of sixteen bytes that writes one of four bytes. -/
theorem mappedWords_unpack (mapped : value >>> 32 = 0xffff) :
    mappedWords (unpack 16 8 value) =
      some (value >>> 16 &&& 0xffff, value >>> 0 &&& 0xffff) := by
  have higher : ∀ count, value >>> (32 + count) = 0xffff >>> count := by
    intro count
    rw [Nat.shiftRight_add, mapped]
  change mappedWords [value >>> (32 + 80) &&& 0xffff, value >>> (32 + 64) &&& 0xffff,
    value >>> (32 + 48) &&& 0xffff, value >>> (32 + 32) &&& 0xffff, value >>> (32 + 16) &&& 0xffff,
    value >>> (32 + 0) &&& 0xffff, value >>> 16 &&& 0xffff, value >>> 0 &&& 0xffff] = _
  rw [higher, higher, higher, higher, higher, higher]
  rfl

/-- An address that is read as one of sixteen bytes writes none of four bytes. -/
theorem Read.unmapped (read : Read bits) (long : bits.family = .v6) :
    bits.value >>> 32 ≠ 0xffff := by
  cases read with
  | v4 value_lt => cases long
  | @v6 words sized unmapped =>
      intro mapped
      have known := mappedWords_unpack mapped
      have parts : unpack 16 words.length (pack 16 words) = words := unpack_pack sized.2
      rw [sized.1] at parts
      dsimp only at known
      rw [parts, unmapped] at known
      cases known

end Texts

/-! ## The longest prefix -/

/-- The loop finds the bit length. -/
theorem bitLength_eq_size (cursor : Nat) : bitLength cursor = cursor.size := by
  have bounds : ∀ count, bitLength cursor ≤ count ↔ cursor < 2 ^ count := by
    induction cursor using Nat.strong_induction_on with
    | _ cursor ih =>
        intro count
        rw [bitLength]
        split
        · rename_i zero
          rw [zero]
          exact iff_of_true (Nat.zero_le count) (Nat.two_pow_pos count)
        · rename_i nonzero
          cases count with
          | zero =>
              rw [Nat.pow_zero]
              omega
          | succ count =>
              have half : cursor >>> 1 < cursor := by
                rw [Nat.shiftRight_one]
                omega
              rw [Nat.add_le_add_iff_right, ih _ half, Nat.shiftRight_one, Nat.pow_succ]
              omega
  exact eq_of_forall_ge_iff fun count => (bounds count).trans Nat.size_le.symm

/-- The group of members: the longest prefix whose range has all of them, its range, and the first
bit in which members differ. -/
structure Longest (family : Family) (members : List Nat) (group : Group) (first last length : Nat) :
    Prop where
  family_eq : group.family = family
  count : group.count = members.length
  alone : group.alone = false
  texts : group.members = members.map (formatValue · family)
  sharedBits : group.sharedBits = some length
  cidr : group.cidr = some (group.rangeFirst ++ '/' :: Nat.toDigits 10 length)
  rangeFirst : Denotes group.rangeFirst family first
  rangeLast : ∃ text, group.rangeLast = some text ∧ Denotes text family last
  short : length ≤ family.width
  range : ∀ value, first ≤ value ∧ value ≤ last ↔ Agree (family.width - length) first value
  covers : ∀ member ∈ members, Agree (family.width - length) first member
  greatest : ∀ base other, other ≤ family.width →
    (∀ member ∈ members, Agree (family.width - other) base member) → other ≤ length
  same : group.firstDiffBit = none ↔ ∀ left ∈ members, ∀ right ∈ members, left = right
  differ : ∀ bit, group.firstDiffBit = some bit ↔
    1 ≤ bit ∧ bit ≤ family.width ∧ Differ family.width members bit ∧
      ∀ before, 1 ≤ before → before < bit → ¬Differ family.width members before

theorem longest_computeGroup (family : Family) {first : Nat} {rest : List Nat}
    (small : ∀ member ∈ first :: rest, member < 2 ^ family.width) :
    ∃ low high length,
      Longest family (first :: rest) (computeGroup family first rest) low high length := by
  have bounds := bounds_extremes small
  set least := (extremes first rest).1
  set greatest := (extremes first rest).2
  set length := shared family.width least greatest with length_eq
  have short : length ≤ family.width := shared_le _ _ _
  have length_same : (if least = greatest then family.width
      else family.width - bitLength (least ^^^ greatest)) = length := by
    rw [bitLength_eq_size]
    split
    · rename_i same
      rw [length_eq, same, shared, Nat.xor_self, Nat.size_zero, Nat.sub_zero]
    · rfl
  set mask := (1 <<< (family.width - length)) - 1 with mask_eq
  have mask_same : (if 0 < family.width - length then (1 <<< (family.width - length)) - 1 else 0) =
      mask := by
    split
    · rfl
    · rename_i none
      rw [mask_eq, Nat.eq_zero_of_not_pos none]
      rfl
  have least_lt := small least bounds.low_mem
  obtain ⟨low_le, le_high⟩ := agree_iff_block.mp (rfl : Agree (family.width - length) least least)
  have low_agree : Agree (family.width - length) least (least.ldiff mask) :=
    agree_iff_block.mpr ⟨le_rfl, low_le.trans le_high⟩
  have mask_lt : mask < 2 ^ family.width := by
    rw [mask_eq, Nat.shiftLeft_eq, Nat.one_mul]
    exact (Nat.sub_lt (Nat.two_pow_pos _) Nat.one_pos).trans_le
      (Nat.pow_le_pow_right (by decide) (Nat.sub_le _ _))
  have group_eq : computeGroup family first rest =
      { family
        count := (first :: rest).length
        sharedBits := some length
        cidr := some (formatValue (least.ldiff mask) family ++ '/' :: Nat.toDigits 10 length)
        rangeFirst := formatValue (least.ldiff mask) family
        rangeLast := some (formatValue (least ||| mask) family)
        firstDiffBit := if length = family.width then none else some (length + 1)
        alone := false
        members := (first :: rest).map (formatValue · family) } := by
    rw [← mask_same, ← length_same]
    rfl
  refine ⟨least.ldiff mask, least ||| mask, length, ?_⟩
  rw [group_eq]
  refine ⟨rfl, rfl, rfl, rfl, rfl, rfl, ?_, ?_, short, ?_, ?_, ?_, ?_, ?_⟩
  · exact denotes_formatValue (low_le.trans_lt least_lt)
  · exact ⟨_, rfl, denotes_formatValue (Nat.or_lt_two_pow least_lt mask_lt)⟩
  · intro value
    rw [← agree_iff_block]
    exact ⟨low_agree.symm.trans, low_agree.trans⟩
  · exact fun member inside => low_agree.symm.trans (bounds.covers member inside)
  · exact fun base other fits agree => bounds.greatest fits agree
  · rw [← bounds.shared_eq_iff, ite_eq_left_iff]
    exact ⟨fun none => by_contra fun other => (by cases none other),
      fun same other => absurd same other⟩
  · intro bit
    dsimp only
    split
    · rename_i whole
      have same := bounds.shared_eq_iff.mp whole
      constructor
      · intro found
        cases found
      · rintro ⟨-, -, ⟨left, left_mem, right, right_mem, different⟩, -⟩
        exact absurd (by rw [same left left_mem right right_mem]) different
    · rename_i part
      rw [bounds.first_differ_iff (lt_of_le_of_ne short part), Option.some_inj, eq_comm]

/-! ## The result -/

section Result

variable {rawAddresses : List (List Char)} {family : Family} {group other : Group}

theorem trim_trim (text : List Char) : trim (trim text) = trim text :=
  Js.trim_eq_self (Js.trimmed_trim text)

theorem parseAddressBits_trim (text : List Char) :
    parseAddressBits (trim text) = parseAddressBits text := by
  rw [parseAddressBits, parseAddressBits, trim_trim]

/-- Blank inputs are no addresses. -/
theorem filterMap_texts (inputs : List (List Char)) :
    ((inputs.map trim).filter (· ≠ [])).filterMap parseAddressBits =
      inputs.filterMap parseAddressBits := by
  induction inputs with
  | nil => rfl
  | cons text inputs ih =>
      rw [List.map_cons, List.filter_cons, List.filterMap_cons, ← parseAddressBits_trim text]
      split
      · rw [List.filterMap_cons, ih]
      · rename_i blank
        have empty : trim text = [] := by simpa using blank
        rw [ih, empty]
        rfl

theorem groups_commonPrefix (rawAddresses : List (List Char)) :
    (commonPrefix rawAddresses).groups =
      [Family.v4, Family.v6].filterMap fun family =>
        resultGroup family (membersOf family rawAddresses) := by
  rw [commonPrefix]
  dsimp only
  rw [filterMap_texts]
  rfl

theorem membersOf_lt : ∀ member ∈ membersOf family rawAddresses, member < 2 ^ family.width := by
  intro member inside
  obtain ⟨bits, kept, rfl⟩ := List.mem_map.mp inside
  obtain ⟨listed, same⟩ := List.mem_filter.mp kept
  obtain ⟨text, -, parsed⟩ := List.mem_filterMap.mp listed
  rw [← of_decide_eq_true same]
  exact (read_parseAddressBits parsed).value_lt

theorem family_resultGroup {members : List Nat} (found : resultGroup family members = some group) :
    group.family = family ∧ members ≠ [] := by
  unfold resultGroup at found
  split at found
  · cases found
  · cases found
    exact ⟨rfl, List.cons_ne_nil _ _⟩
  · cases found
    exact ⟨rfl, List.cons_ne_nil _ _⟩

theorem mem_groups_iff :
    group ∈ (commonPrefix rawAddresses).groups ↔
      resultGroup group.family (membersOf group.family rawAddresses) = some group := by
  rw [groups_commonPrefix, List.mem_filterMap]
  constructor
  · rintro ⟨family, -, found⟩
    rwa [(family_resultGroup found).1]
  · intro found
    refine ⟨group.family, ?_, found⟩
    cases group.family
    · exact List.mem_cons_self
    · exact List.mem_cons_of_mem _ List.mem_cons_self

/-- Each family with two members has one group, whose prefix is the longest that its members share;
an address that is written as one of sixteen bytes but is one of four counts as that one, and the
text of an address that was read is read as the same address. -/
theorem commonPrefix_longest (rawAddresses : List (List Char)) :
    (∀ group ∈ (commonPrefix rawAddresses).groups, membersOf group.family rawAddresses ≠ []) ∧
    (∀ family, 2 ≤ (membersOf family rawAddresses).length →
      ∃ group ∈ (commonPrefix rawAddresses).groups,
        (∀ other ∈ (commonPrefix rawAddresses).groups, other.family = family → other = group) ∧
        ∃ first last length,
          Longest family (membersOf family rawAddresses) group first last length) ∧
    (∀ text bits, ipv4Bits text = some bits →
      parseAddressBits ("::ffff:".toList ++ text) = some bits) ∧
    (∀ text bits, parseAddressBits text = some bits →
      (bits.family = .v6 → bits.value >>> 32 ≠ 0xffff) ∧
        parseAddressBits (formatValue bits.value bits.family) = some bits) := by
  refine ⟨fun group listed => (family_resultGroup (mem_groups_iff.mp listed)).2, ?_, ?_, ?_⟩
  · intro family two
    rcases members_eq : membersOf family rawAddresses with _ | ⟨first, _ | ⟨second, rest⟩⟩
    · rw [members_eq] at two
      cases two
    · rw [members_eq] at two
      exact absurd two (Nat.not_succ_le_self 1)
    · have listed : computeGroup family first (second :: rest) ∈
          (commonPrefix rawAddresses).groups := by
        rw [mem_groups_iff]
        change resultGroup family (membersOf family rawAddresses) = _
        rw [members_eq]
        rfl
      have small : ∀ member ∈ first :: second :: rest, member < 2 ^ family.width := by
        rw [← members_eq]
        exact membersOf_lt
      refine ⟨_, listed, ?_, longest_computeGroup family small⟩
      rintro other found rfl
      rw [mem_groups_iff, members_eq] at found
      exact (Option.some_inj.mp found).symm
  · exact fun text bits => parseAddressBits_mapped
  · intro text bits parsed
    have read := read_parseAddressBits parsed
    exact ⟨read.unmapped, read.parse_formatValue⟩

/-- Two addresses that share their first twenty-nine bits. -/
theorem commonPrefix_longest_pair :
    ∃ group ∈ (commonPrefix ["10.0.0.1".toList, " ::ffff:10.0.0.6".toList]).groups,
      ∃ first last length, Longest .v4 [0x0a000001, 0x0a000006] group first last length := by
  have members : membersOf .v4 ["10.0.0.1".toList, " ::ffff:10.0.0.6".toList] =
      [0x0a000001, 0x0a000006] := by decide
  have longest := (commonPrefix_longest ["10.0.0.1".toList, " ::ffff:10.0.0.6".toList]).2.1 .v4
  rw [members] at longest
  obtain ⟨group, listed, -, found⟩ := longest le_rfl
  exact ⟨group, listed, found⟩

end Result

end CheckNetwork.Frontend.CommonPrefix
