import CheckNetwork.Network.Gap
import CheckNetwork.Network.Public

/-!
# The address class of the browser

The browser reads an address as a number, and looks it up in tables of its own.
-/

namespace CheckNetwork.Frontend

open CheckNetwork.Go CheckNetwork.Network

structure AddressBits where
  width : Nat
  value : Nat
  deriving DecidableEq

/-- The words of the host name of a parsed literal. -/
def words (text : List Char) : List (List Char) :=
  match splitPair ':' text with
  | [left, right] =>
      let left := partsOf ':' left
      let right := partsOf ':' right
      left ++ List.replicate (8 - (left.length + right.length)) ['0'] ++ right
  | halves => partsOf ':' (halves.headD [])

/-- `addressBits`; the host name of the URL is the canonical text of the groups
that the URL parser reads. -/
def addressBits (address : List Char) : Option AddressBits :=
  if 45 < address.length then none
  else if ':' ∉ address then
    (octets address).map fun parts => ⟨32, parts.foldl (fun n part => n <<< 8 ||| part) 0⟩
  else if !address.all isLiteralChar then none
  else (readV6 address).map fun groups =>
    let value := (words (groupsText groups)).foldl (fun n word => n <<< 16 ||| hexValue word) 0
    if value >>> 32 = 65535 then ⟨32, value &&& 0xffffffff⟩ else ⟨128, value⟩

/-- A range of addresses; `shift` drops the bits that differ inside it. -/
structure Range where
  bits : AddressBits
  shift : Nat
  deriving DecidableEq

def range (cidr : String) : Option Range :=
  match cidr.toList.splitOn '/' with
  | [address, ones] => (addressBits address).map fun bits =>
      ⟨bits, bits.width - Nat.ofDigitChars 10 ones 0⟩
  | _ => none

/-- `networks`; `none` is its exception. -/
def networks (cidrs : List String) : Option (List Range) := cidrs.mapM range

def privateNetworks : List Range :=
  (networks ["10.0.0.0/8", "172.16.0.0/12", "192.168.0.0/16", "fc00::/7"]).getD []

def nonpublicNetworks : List Range :=
  (networks ["0.0.0.0/8", "10.0.0.0/8", "100.64.0.0/10", "127.0.0.0/8", "169.254.0.0/16",
    "172.16.0.0/12", "192.0.0.0/24", "192.0.2.0/24", "192.31.196.0/24", "192.52.193.0/24",
    "192.88.99.0/24", "192.168.0.0/16", "192.175.48.0/24", "198.18.0.0/15", "198.51.100.0/24",
    "203.0.113.0/24", "224.0.0.0/4", "240.0.0.0/4", "100.100.100.200/32", "::/128", "::1/128",
    "64:ff9b::/96", "64:ff9b:1::/48", "100::/64", "100:0:0:1::/64", "2001::/23", "fc00::/7",
    "fe80::/10", "ff00::/8", "2001:db8::/32", "2002::/16", "2620:4f:8000::/48", "3fff::/20",
    "5f00::/16"]).getD []

def inNetworks (bits : AddressBits) (ranges : List Range) : Bool :=
  ranges.any fun range =>
    range.bits.width = bits.width ∧ bits.value >>> range.shift = range.bits.value >>> range.shift

inductive AddressClass
  | privateUse
  | other
  | publicUse
  deriving DecidableEq

def addressClass (address : List Char) : AddressClass :=
  match addressBits address with
  | none => .other
  | some bits =>
      if inNetworks bits privateNetworks then .privateUse
      else if inNetworks bits nonpublicNetworks then .other
      else .publicUse

example : addressClass "::ffff:10.0.0.1".toList = .privateUse := by decide +kernel

/-! ## The number of an address -/

section Bits

variable {ip : IP} {groups : List Nat} {text : List Char}

theorem number_append (front back : IP) :
    number (front ++ back) = number front * 2 ^ (8 * back.length) + number back := by
  rw [number, List.foldl_append, foldl_number, Nat.pow_mul]
  rfl

theorem number_inj {first second : IP} (sized : first.length = second.length)
    (same : number first = number second) : first = second := by
  induction first generalizing second with
  | nil => exact (List.length_eq_zero_iff.mp sized.symm).symm
  | cons head tail ih =>
      obtain ⟨head', tail', rfl⟩ := List.exists_cons_of_length_eq_add_one sized.symm
      rw [List.length_cons, List.length_cons, Nat.add_right_cancel_iff] at sized
      have tailLt := number_lt tail
      have tailLt' := number_lt tail'
      rw [← sized] at tailLt'
      have parts := (div_eq_div_iff (Nat.zero_le _) tailLt tailLt').mp (by
        rw [number_cons, number_cons, ← sized] at same
        rw [same])
      rw [Nat.pow_zero, Nat.div_one, Nat.div_one, UInt8.toNat_inj] at parts
      rw [parts.1, ih sized parts.2]

/-- The number of an address without its mapping, and its width. -/
def bitsOf (ip : IP) : AddressBits :=
  let ip := ip.to4.getD ip
  ⟨8 * ip.length, number ip⟩

theorem foldl_octets (values : List Nat) (small : ∀ value ∈ values, value < 256) :
    values.foldl (fun n part => n <<< 8 ||| part) 0 = number (values.map UInt8.ofNat) := by
  have from_any : ∀ n, values.foldl (fun n part => n <<< 8 ||| part) n =
      (values.map UInt8.ofNat).foldl (fun value byte => 256 * value + byte.toNat) n := by
    induction values with
    | nil => exact fun _ => rfl
    | cons first rest ih =>
        rw [List.forall_mem_cons] at small
        intro n
        rw [List.foldl_cons, ih small.2, List.map_cons, List.foldl_cons,
          UInt8.toNat_ofNat_of_lt' small.1, ← Nat.shiftLeft_add_eq_or_of_lt small.1,
          Nat.shiftLeft_eq, Nat.mul_comm]
  exact from_any 0

theorem foldl_words (small : ∀ group ∈ groups, group < 65536) {parts : List (List Char)}
    (values : parts.map hexValue = groups) :
    parts.foldl (fun n word => n <<< 16 ||| hexValue word) 0 = number (bytesOfGroups groups) := by
  have from_any : ∀ n, groups.foldl (fun n group => n <<< 16 ||| group) n =
      (bytesOfGroups groups).foldl (fun value byte => 256 * value + byte.toNat) n := by
    clear values
    induction groups with
    | nil => exact fun _ => rfl
    | cons first rest ih =>
        rw [List.forall_mem_cons] at small
        intro n
        have high : (UInt8.ofNat (first / 256)).toNat = first / 256 :=
          UInt8.toNat_ofNat_of_lt' (by change _ < 256; omega)
        have low : (UInt8.ofNat (first % 256)).toNat = first % 256 :=
          UInt8.toNat_ofNat_of_lt' (Nat.mod_lt _ (by decide))
        have step := ih small.2
        rw [bytesOfGroups] at step ⊢
        rw [List.foldl_cons, step, ← Nat.shiftLeft_add_eq_or_of_lt small.1, Nat.shiftLeft_eq,
          List.flatMap_cons, List.foldl_append, List.foldl_cons, List.foldl_cons, List.foldl_nil,
          high, low]
        congr 1
        omega
  rw [number, ← from_any 0, ← values, List.foldl_map]

theorem words_groupsText (eight : groups.length = 8) :
    (words (groupsText groups)).map hexValue = groups := by
  have read : ∀ groups : List Nat, (groups.map IP.hexDigits).map hexValue = groups := by
    intro groups
    rw [List.map_map]
    exact List.map_id'' hexValue_toDigits groups
  rcases splitPair_groupsText eight with whole | ⟨before, after, few, zeros, halves⟩
  · rw [words, whole]
    dsimp only [List.headD]
    rw [partsOf_groupText, read]
  · rw [words, halves]
    dsimp only
    rw [partsOf_groupText, partsOf_groupText, List.map_append, List.map_append, read, read,
      List.length_map, List.length_map, List.map_replicate]
    exact zeros.symm

theorem take_twelve_iff (sixteen : ip.length = 16) :
    number ip >>> 32 = 65535 ↔ ip.take 12 = IP.v4InV6Prefix := by
  have four : (ip.drop 12).length = 4 := by rw [List.length_drop, sixteen]
  have shifted : number ip >>> 32 = number (ip.take 12) := by
    have whole := number_append (ip.take 12) (ip.drop 12)
    have tail := number_lt (ip.drop 12)
    rw [List.take_append_drop, four] at whole
    rw [four] at tail
    rw [Nat.shiftRight_eq_div_pow, whole, Nat.mul_comm, Nat.mul_add_div (by decide),
      Nat.div_eq_of_lt tail, Nat.add_zero]
  have mapped : number IP.v4InV6Prefix = 65535 := by decide
  rw [shifted, ← mapped]
  constructor
  · exact number_inj (by rw [List.length_take, sixteen]; rfl)
  · exact congrArg number

theorem bitsOf_v6 (sixteen : ip.length = 16) :
    (if number ip >>> 32 = 65535 then (⟨32, number ip &&& 0xffffffff⟩ : AddressBits)
      else ⟨128, number ip⟩) = bitsOf ip := by
  have notFour : ip.length ≠ 4 := by
    rw [sixteen]
    decide
  rw [bitsOf, IP.to4, if_neg notFour]
  by_cases mapped : ip.take 12 = IP.v4InV6Prefix
  · have four : (ip.drop 12).length = 4 := by rw [List.length_drop, sixteen]
    have whole := number_append (ip.take 12) (ip.drop 12)
    have tail := number_lt (ip.drop 12)
    rw [List.take_append_drop, four] at whole
    rw [four] at tail
    rw [if_pos ((take_twelve_iff sixteen).mpr mapped), if_pos ⟨sixteen, mapped⟩, Option.getD_some,
      four, show (0xffffffff : Nat) = 2 ^ 32 - 1 from rfl, Nat.and_two_pow_sub_one_eq_mod, whole,
      Nat.mul_add_mod_self_right, Nat.mod_eq_of_lt tail]
  · rw [if_neg fun same => mapped ((take_twelve_iff sixteen).mp same),
      if_neg fun same => mapped same.2, Option.getD_none, sixteen]

/-- The browser reads the literals, each as its number. -/
theorem addressBits_eq (text : List Char) :
    addressBits text = (readLiteral text).map bitsOf := by
  rw [addressBits, readLiteral]
  by_cases colon : ':' ∈ text
  · rw [if_pos colon, if_neg (not_not.mpr colon)]
    cases parsed : readV6 text with
    | none => simp
    | some groups =>
        obtain ⟨short, all⟩ := readV6_spec parsed
        obtain ⟨eight, small⟩ := sized_readV6 parsed
        have sixteen : (bytesOfGroups groups).length = 16 := by
          rw [bytesOfGroups, List.length_flatMap]
          simp [eight]
        rw [if_neg (not_lt.mpr short), all, if_neg (by decide), Option.map_some, Option.map_some,
          Option.map_some, foldl_words small (words_groupsText eight), bitsOf_v6 sixteen]
  · rw [if_neg colon, if_pos colon]
    cases parsed : octets text with
    | none => simp
    | some values =>
        have four := length_of_octets parsed
        have short := (octets_spec parsed).1
        rw [if_neg (by omega), Option.map_some, Option.map_some, Option.map_some,
          foldl_octets values (octets_lt parsed), bitsOf, to4_of_length (by rw [List.length_map, four]),
          Option.getD_some, List.length_map, four]

end Bits

/-! ## The class of an address -/

section Class

theorem nonpublicNetworks_eq : nonpublicNetworks = blockedDiagnosticNetworks.map fun network =>
    ⟨⟨8 * network.ip.length, number network.ip⟩, 8 * network.ip.length - network.ones⟩ := by
  decide +kernel

theorem privateNetworks_subset : ∀ range ∈ privateNetworks, range ∈ nonpublicNetworks := by
  decide +kernel

theorem inNetworks_nonpublic (ip : IP) :
    inNetworks (bitsOf ip) nonpublicNetworks = true ↔ Blocked (ip.to4.getD ip) := by
  rw [inNetworks, nonpublicNetworks_eq, List.any_map, List.any_eq_true, Blocked]
  refine exists_congr fun network => and_congr_right fun _ => ?_
  rw [Function.comp_apply, decide_eq_true_iff, Covers, bitsOf, Nat.shiftRight_eq_div_pow,
    Nat.shiftRight_eq_div_pow]
  refine and_congr_left fun _ => ?_
  dsimp only
  constructor
  · exact fun same => (Nat.eq_of_mul_eq_mul_left (by decide) same).symm
  · exact fun same => by rw [same]

/-- The public addresses of the browser are those of the server. -/
theorem addressClass_eq_publicUse_iff (text : List Char) : addressClass text = .publicUse ↔
    ∃ ip, readLiteral text = some ip ∧ isPublicDiagnosticIP ip = true := by
  rw [addressClass, addressBits_eq]
  cases read : readLiteral text with
  | none => simp
  | some ip =>
      have sized : (ip.to4.getD ip).length = 4 ∨ (ip.to4.getD ip).length = 16 := by
        cases short : ip.to4 with
        | some bytes => exact .inl (length_to4 short)
        | none => exact length_of_readLiteral read
      have table := inNetworks_nonpublic ip
      have special : inNetworks (bitsOf ip) privateNetworks = true →
          inNetworks (bitsOf ip) nonpublicNetworks = true := by
        intro known
        obtain ⟨range, member, inside⟩ := List.any_eq_true.mp known
        exact List.any_eq_true.mpr ⟨range, privateNetworks_subset range member, inside⟩
      simp only [Option.map_some, Option.some.injEq, exists_eq_left', isPublicDiagnosticIP_iff,
        sized, true_and, ← table]
      split
      · rename_i known
        simp [special known]
      · split
        · rename_i known
          simp [known]
        · rename_i unknown
          simp [unknown]

end Class

end CheckNetwork.Frontend
