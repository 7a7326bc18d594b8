import CheckNetwork.Network.Blocks

/-!
# Public addresses

The addresses that a diagnostic may contact: those that are no special-purpose
ones.
-/

namespace CheckNetwork.Network

open Go

/-! ## Predicates of `net.IP` -/

def ipv4zero : IP := IP.v4InV6Prefix ++ [0, 0, 0, 0]

def ipv4bcast : IP := IP.v4InV6Prefix ++ [255, 255, 255, 255]

def ipv6unspecified : IP := List.replicate 16 0

def ipv6loopback : IP := List.replicate 15 0 ++ [1]

/-- The `Equal` method: an address equals its mapped form. -/
def equal (ip other : IP) : Bool :=
  if ip.length = other.length then ip = other
  else if ip.length = 4 ∧ other.length = 16 then other = IP.v4InV6Prefix ++ ip
  else if ip.length = 16 ∧ other.length = 4 then ip = IP.v4InV6Prefix ++ other
  else false

def isUnspecified (ip : IP) : Bool := equal ip ipv4zero || equal ip ipv6unspecified

def isLoopback (ip : IP) : Bool :=
  match ip.to4 with
  | some bytes => bytes.head? = some 127
  | none => equal ip ipv6loopback

def isPrivate (ip : IP) : Bool :=
  match ip.to4, ip with
  | some (first :: second :: _), _ =>
      first = 10 ∨ (first = 172 ∧ second &&& 0xf0 = 16) ∨ (first = 192 ∧ second = 168)
  | none, first :: _ => ip.length = 16 ∧ first &&& 0xfe = 0xfc
  | _, _ => false

def isMulticast (ip : IP) : Bool :=
  match ip.to4, ip with
  | some (first :: _), _ => first &&& 0xf0 = 0xe0
  | none, first :: _ => ip.length = 16 ∧ first = 0xff
  | _, _ => false

def isLinkLocalMulticast (ip : IP) : Bool :=
  match ip.to4, ip with
  | some (first :: second :: third :: _), _ => first = 224 ∧ second = 0 ∧ third = 0
  | none, first :: second :: _ => ip.length = 16 ∧ first = 0xff ∧ second &&& 0x0f = 0x02
  | _, _ => false

def isLinkLocalUnicast (ip : IP) : Bool :=
  match ip.to4, ip with
  | some (first :: second :: _), _ => first = 169 ∧ second = 254
  | none, first :: second :: _ => ip.length = 16 ∧ first = 0xfe ∧ second &&& 0xc0 = 0x80
  | _, _ => false

def isGlobalUnicast (ip : IP) : Bool :=
  (ip.length = 4 ∨ ip.length = 16) && !equal ip ipv4bcast && !isUnspecified ip &&
    !isLoopback ip && !isMulticast ip && !isLinkLocalUnicast ip

/-! ## Networks -/

/-- `net.IPNet`, by its address and the number of bits that its mask sets. -/
structure IPNet where
  ip : IP
  ones : Nat
  deriving DecidableEq

/-- The byte of a mask that sets its first bits. -/
def maskByte (ones : Nat) : UInt8 := ~~~ UInt8.ofNat (0xff >>> ones)

/-- `net.CIDRMask`, of a number of bytes. -/
def cidrMask : Nat → Nat → List UInt8
  | _, 0 => []
  | ones, length + 1 =>
      if 8 ≤ ones then 0xff :: cidrMask (ones - 8) length
      else maskByte ones :: cidrMask 0 length

/-- The `Contains` method of a network that is not a mapped one. -/
def IPNet.contains (network : IPNet) (ip : IP) : Bool :=
  let ip := ip.to4.getD ip
  let mask := cidrMask network.ones network.ip.length
  ip.length = network.ip.length ∧
    List.zipWith (· &&& ·) network.ip mask = List.zipWith (· &&& ·) ip mask

/-- `net.ParseCIDR`. -/
def parseCIDR (value : String) : Option IPNet :=
  match value.toList.splitOn '/' with
  | [address, ones] => do
      let ip ← if ':' ∈ address then (readV6 address).map bytesOfGroups
        else (octets address).map (List.map UInt8.ofNat)
      if ones.all Char.isDigit ∧ ones ≠ [] ∧ Nat.ofDigitChars 10 ones 0 ≤ 8 * ip.length then
        pure ⟨ip, Nat.ofDigitChars 10 ones 0⟩
      else none
  | _ => none

/-- `mustCIDRs`; `none` is its panic. -/
def mustCIDRs (values : List String) : Option (List IPNet) := values.mapM parseCIDR

def blockedCIDRs : List String :=
  ["0.0.0.0/8", "10.0.0.0/8", "100.64.0.0/10", "127.0.0.0/8", "169.254.0.0/16", "172.16.0.0/12",
    "192.0.0.0/24", "192.0.2.0/24", "192.31.196.0/24", "192.52.193.0/24", "192.88.99.0/24",
    "192.168.0.0/16", "192.175.48.0/24", "198.18.0.0/15", "198.51.100.0/24", "203.0.113.0/24",
    "224.0.0.0/4", "240.0.0.0/4", "100.100.100.200/32", "::/128", "::1/128", "64:ff9b::/96",
    "64:ff9b:1::/48", "100::/64", "100:0:0:1::/64", "2001::/23", "fc00::/7", "fe80::/10",
    "ff00::/8", "2001:db8::/32", "2002::/16", "2620:4f:8000::/48", "3fff::/20", "5f00::/16"]

def blockedDiagnosticNetworks : List IPNet := (mustCIDRs blockedCIDRs).getD []

/-- `IsPublicDiagnosticIP`. -/
def isPublicDiagnosticIP (ip : IP) : Bool :=
  let ip := ip.to4.getD ip
  if ip = [] || !isGlobalUnicast ip || isPrivate ip || isLoopback ip || isLinkLocalUnicast ip ||
      isLinkLocalMulticast ip || isMulticast ip || isUnspecified ip then false
  else blockedDiagnosticNetworks.all fun network => !network.contains ip

/-! ## The table decides -/

section Table

theorem maskByte_and : ∀ ones < 9, ∀ byte < 256, (UInt8.ofNat byte &&& maskByte ones).toNat =
    byte / 2 ^ (8 - ones) * 2 ^ (8 - ones) := by
  decide +kernel

theorem and_maskByte (byte : UInt8) {ones : Nat} (ones_le : ones ≤ 8) :
    (byte &&& maskByte ones).toNat = byte.toNat / 2 ^ (8 - ones) * 2 ^ (8 - ones) := by
  have masked := maskByte_and ones (Nat.lt_succ_of_le ones_le) byte.toNat byte.toNat_lt
  rwa [UInt8.ofNat_toNat] at masked

/-- Bytes compared under a mask. -/
def maskTest : ByteTest where
  same ones first second := first &&& maskByte ones = second &&& maskByte ones
  same_iff {ones first second} ones_le := by
    rw [decide_eq_true_iff, ← UInt8.toNat_inj, and_maskByte first ones_le,
      and_maskByte second ones_le]
    constructor
    · exact Nat.eq_of_mul_eq_mul_right (Nat.pow_pos (by decide))
    · exact fun same => by rw [same]

theorem cidrMask_succ (ones length : Nat) :
    cidrMask ones (length + 1) = maskByte (min 8 ones) :: cidrMask (ones - 8) length := by
  rw [cidrMask]
  split
  · rename_i whole
    rw [Nat.min_eq_left whole]
    rfl
  · rename_i part
    rw [Nat.min_eq_right (Nat.le_of_not_le part), Nat.sub_eq_zero_of_le (Nat.le_of_not_le part)]

theorem zipWith_cidrMask {ones : Nat} {firsts seconds : IP}
    (sized : firsts.length = seconds.length) :
    decide (List.zipWith (· &&& ·) firsts (cidrMask ones firsts.length) =
      List.zipWith (· &&& ·) seconds (cidrMask ones firsts.length)) =
        maskTest.agree ones firsts seconds := by
  induction firsts generalizing ones seconds with
  | nil =>
      rw [List.length_eq_zero_iff.mp sized.symm]
      rfl
  | cons first firsts ih =>
      obtain ⟨second, seconds, rfl⟩ := List.exists_cons_of_length_eq_add_one sized.symm
      rw [List.length_cons, List.length_cons, Nat.add_right_cancel_iff] at sized
      rw [ByteTest.agree, ← ih sized, List.length_cons, cidrMask_succ, List.zipWith_cons_cons,
        List.zipWith_cons_cons]
      simp only [List.cons.injEq, Bool.decide_and]
      rfl

theorem contains_iff {network : IPNet} {ip : IP} (ones_le : network.ones ≤ 8 * network.ip.length) :
    network.contains ip = true ↔ Covers network.ip network.ones (ip.to4.getD ip) := by
  rw [IPNet.contains, decide_eq_true_iff, Covers]
  refine and_congr_right fun sized => ?_
  have agreed := agree_iff maskTest sized.symm ones_le
  rw [← zipWith_cidrMask sized.symm, decide_eq_true_iff] at agreed
  rw [agreed]
  exact eq_comm

theorem agree_zero (test : ByteTest) (firsts seconds : IP) : test.agree 0 firsts seconds = true := by
  induction firsts generalizing seconds with
  | nil => rfl
  | cons first firsts ih =>
      cases seconds with
      | nil => rfl
      | cons second seconds =>
          have byte := first.toNat_lt
          have byte' := second.toNat_lt
          rw [ByteTest.agree, ih, Bool.and_true, Nat.min_zero, ByteTest.same_iff test (by decide)]
          rw [Nat.div_eq_of_lt byte, Nat.div_eq_of_lt byte']

/-- Addresses of special purpose. -/
def Blocked (ip : IP) : Prop :=
  ∃ network ∈ blockedDiagnosticNetworks, Covers network.ip network.ones ip

theorem sized_blocked : ∀ network ∈ blockedDiagnosticNetworks,
    network.ones ≤ 8 * network.ip.length := by
  decide +kernel

theorem blocked_of_agree {ip : IP} {network : IPNet} (member : network ∈ blockedDiagnosticNetworks)
    (sized : network.ip.length = ip.length)
    (agrees : maskTest.agree network.ones network.ip ip = true) : Blocked ip := by
  refine ⟨network, member, sized.symm, ?_⟩
  exact ((agree_iff maskTest sized (sized_blocked network member)).mp agrees).symm

/-- One byte decides. -/
theorem blocked_of_byte (base : UInt8) (others : IP) (ones : Nat)
    (member : (⟨base :: others, ones⟩ : IPNet) ∈ blockedDiagnosticNetworks) (ones_le : ones ≤ 8)
    {byte : UInt8} {rest : IP} (sized : others.length = rest.length)
    (same : base &&& maskByte ones = byte &&& maskByte ones) : Blocked (byte :: rest) := by
  apply blocked_of_agree member (congrArg (· + 1) sized)
  rw [ByteTest.agree, Nat.sub_eq_zero_of_le ones_le, agree_zero, Bool.and_true,
    Nat.min_eq_right ones_le]
  exact decide_eq_true same

/-- Two bytes decide. -/
theorem blocked_of_bytes (first second : UInt8) (others : IP) (ones : Nat)
    (member : (⟨first :: second :: others, 8 + ones⟩ : IPNet) ∈ blockedDiagnosticNetworks)
    (ones_le : ones ≤ 8) {byte : UInt8} {rest : IP} (sized : others.length = rest.length)
    (same : second &&& maskByte ones = byte &&& maskByte ones) :
    Blocked (first :: byte :: rest) := by
  apply blocked_of_agree member (congrArg (· + 2) sized)
  rw [ByteTest.agree, Nat.add_sub_cancel_left, ByteTest.agree, Nat.sub_eq_zero_of_le ones_le,
    agree_zero, Bool.and_true, Nat.min_eq_right ones_le, Bool.and_eq_true]
  exact ⟨decide_eq_true rfl, decide_eq_true same⟩

theorem to4_of_length {ip : IP} (four : ip.length = 4) : ip.to4 = some ip := if_pos four

/-- Four bytes that a predicate of `net.IP` excludes are of special purpose. -/
theorem blocked_of_v4 {ip : IP} (four : ip.length = 4)
    (special : isGlobalUnicast ip = false ∨ isPrivate ip = true ∨ isLoopback ip = true ∨
      isLinkLocalUnicast ip = true ∨ isLinkLocalMulticast ip = true ∨ isMulticast ip = true ∨
      isUnspecified ip = true) : Blocked ip := by
  have same := to4_of_length four
  obtain ⟨a, b, c, d, rfl⟩ : ∃ a b c d, ip = [a, b, c, d] := by
    match ip, four with
    | [a, b, c, d], _ => exact ⟨a, b, c, d, rfl⟩
  have loopback : isLoopback [a, b, c, d] = true → Blocked [a, b, c, d] := by
    intro known
    simp only [isLoopback, same, List.head?_cons, Option.some.injEq, decide_eq_true_eq] at known
    rw [known]
    exact blocked_of_byte 127 [0, 0, 0] 8 (by decide +kernel) (by decide) rfl rfl
  have multicast : isMulticast [a, b, c, d] = true → Blocked [a, b, c, d] := by
    intro known
    simp only [isMulticast, same, decide_eq_true_eq] at known
    exact blocked_of_byte 224 [0, 0, 0] 4 (by decide +kernel) (by decide) rfl known.symm
  have linkLocal : isLinkLocalUnicast [a, b, c, d] = true → Blocked [a, b, c, d] := by
    intro known
    simp only [isLinkLocalUnicast, same, decide_eq_true_eq] at known
    rw [known.1, known.2]
    exact blocked_of_bytes 169 254 [0, 0] 8 (by decide +kernel) (by decide) rfl rfl
  have unspecified : isUnspecified [a, b, c, d] = true → Blocked [a, b, c, d] := by
    intro known
    rw [isUnspecified, Bool.or_eq_true] at known
    rcases known with zero | zero
    · have first : a = 0 := by
        simp [equal, ipv4zero, IP.v4InV6Prefix] at zero
        exact zero.1.symm
      rw [first]
      exact blocked_of_byte 0 [0, 0, 0] 8 (by decide +kernel) (by decide) rfl rfl
    · simp [equal, ipv6unspecified, IP.v4InV6Prefix, List.replicate] at zero
  have broadcast : equal [a, b, c, d] ipv4bcast = true → Blocked [a, b, c, d] := by
    intro known
    have first : a = 255 := by
      simp [equal, ipv4bcast, IP.v4InV6Prefix] at known
      exact known.1.symm
    rw [first]
    exact blocked_of_byte 240 [0, 0, 0] 4 (by decide +kernel) (by decide) rfl rfl
  rcases special with notGlobal | isPrivate' | isLoop | isLocal | isLocalMulticast | isMulti | isUn
  · simp only [isGlobalUnicast, Bool.and_eq_false_iff, Bool.not_eq_false'] at notGlobal
    rcases notGlobal with ((((unsized | isBroadcast) | isUn) | isLoop) | isMulti) | isLocal
    · simp at unsized
    · exact broadcast isBroadcast
    · exact unspecified isUn
    · exact loopback isLoop
    · exact multicast isMulti
    · exact linkLocal isLocal
  · simp only [isPrivate, same, decide_eq_true_eq] at isPrivate'
    rcases isPrivate' with first | ⟨first, second⟩ | ⟨first, second⟩
    · rw [first]
      exact blocked_of_byte 10 [0, 0, 0] 8 (by decide +kernel) (by decide) rfl rfl
    · rw [first]
      exact blocked_of_bytes 172 16 [0, 0] 4 (by decide +kernel) (by decide) rfl second.symm
    · rw [first, second]
      exact blocked_of_bytes 192 168 [0, 0] 8 (by decide +kernel) (by decide) rfl rfl
  · exact loopback isLoop
  · exact linkLocal isLocal
  · simp only [isLinkLocalMulticast, same, decide_eq_true_eq] at isLocalMulticast
    apply multicast
    simp only [isMulticast, same, decide_eq_true_eq]
    rw [isLocalMulticast.1]
    decide
  · exact multicast isMulti
  · exact unspecified isUn

/-- Sixteen bytes that a predicate of `net.IP` excludes are of special purpose. -/
theorem blocked_of_v6 {ip : IP} (sixteen : ip.length = 16) (unmapped : ip.to4 = none)
    (special : isGlobalUnicast ip = false ∨ isPrivate ip = true ∨ isLoopback ip = true ∨
      isLinkLocalUnicast ip = true ∨ isLinkLocalMulticast ip = true ∨ isMulticast ip = true ∨
      isUnspecified ip = true) : Blocked ip := by
  have notMapped : ∀ bytes : IP, bytes.length = 4 → ip ≠ IP.v4InV6Prefix ++ bytes := by
    rintro bytes four rfl
    have mapped : (IP.v4InV6Prefix ++ bytes).length = 16 ∧
        (IP.v4InV6Prefix ++ bytes).take 12 = IP.v4InV6Prefix := ⟨sixteen, rfl⟩
    rw [IP.to4, if_neg (by rw [sixteen]; decide), if_pos mapped] at unmapped
    cases unmapped
  have equal_iff : ∀ other : IP, other.length = 16 → (equal ip other = true ↔ ip = other) := by
    intro other length_eq
    rw [equal, if_pos (sixteen.trans length_eq.symm), decide_eq_true_iff]
  obtain ⟨first, second, rest, rfl⟩ : ∃ first second rest, ip = first :: second :: rest := by
    cases ip with
    | nil => cases sixteen
    | cons first tail =>
        cases tail with
        | nil => cases sixteen
        | cons second rest => exact ⟨first, second, rest, rfl⟩
  have fourteen : rest.length = 14 := by simpa using sixteen
  have loopback : isLoopback (first :: second :: rest) = true →
      Blocked (first :: second :: rest) := by
    intro known
    simp only [isLoopback, unmapped] at known
    rw [(equal_iff _ rfl).mp known]
    exact @blocked_of_agree _ ⟨ipv6loopback, 128⟩ (by decide +kernel) rfl (by decide +kernel)
  have multicast : isMulticast (first :: second :: rest) = true →
      Blocked (first :: second :: rest) := by
    intro known
    simp only [isMulticast, unmapped, decide_eq_true_eq] at known
    rw [known.2]
    exact blocked_of_byte 0xff (List.replicate 15 0) 8 (by decide +kernel) (by decide)
      (by simp [fourteen]) rfl
  have linkLocal : isLinkLocalUnicast (first :: second :: rest) = true →
      Blocked (first :: second :: rest) := by
    intro known
    simp only [isLinkLocalUnicast, unmapped, decide_eq_true_eq] at known
    rw [known.2.1]
    exact blocked_of_bytes 0xfe 0x80 (List.replicate 14 0) 2 (by decide +kernel) (by decide)
      fourteen.symm known.2.2.symm
  have unspecified : isUnspecified (first :: second :: rest) = true →
      Blocked (first :: second :: rest) := by
    intro known
    rw [isUnspecified, Bool.or_eq_true, equal_iff _ rfl, equal_iff _ rfl] at known
    rcases known with zero | zero
    · exact absurd zero (notMapped _ rfl)
    · rw [zero]
      exact @blocked_of_agree _ ⟨ipv6unspecified, 128⟩ (by decide +kernel) rfl
        (by decide +kernel)
  rcases special with notGlobal | isPrivate' | isLoop | isLocal | isLocalMulticast | isMulti | isUn
  · simp only [isGlobalUnicast, Bool.and_eq_false_iff, Bool.not_eq_false'] at notGlobal
    rcases notGlobal with ((((unsized | isBroadcast) | isUn) | isLoop) | isMulti) | isLocal
    · simp [fourteen] at unsized
    · exact absurd ((equal_iff _ rfl).mp isBroadcast) (notMapped _ rfl)
    · exact unspecified isUn
    · exact loopback isLoop
    · exact multicast isMulti
    · exact linkLocal isLocal
  · simp only [isPrivate, unmapped, decide_eq_true_eq] at isPrivate'
    exact blocked_of_byte 0xfc (List.replicate 15 0) 7 (by decide +kernel) (by decide)
      (by simp [fourteen]) isPrivate'.2.symm
  · exact loopback isLoop
  · exact linkLocal isLocal
  · simp only [isLinkLocalMulticast, unmapped, decide_eq_true_eq] at isLocalMulticast
    apply multicast
    simp only [isMulticast, unmapped, decide_eq_true_eq]
    exact ⟨isLocalMulticast.1, isLocalMulticast.2.1⟩
  · exact multicast isMulti
  · exact unspecified isUn

theorem length_to4 {ip bytes : IP} (short : ip.to4 = some bytes) : bytes.length = 4 := by
  rcases ite_eq_iff.mp short with ⟨four, same⟩ | ⟨_, mapped⟩
  · rwa [← Option.some.inj same]
  · rcases ite_eq_iff.mp mapped with ⟨mapped, same⟩ | ⟨_, absent⟩
    · rw [← Option.some.inj same, List.length_drop, mapped.1]
    · cases absent

theorem to4_canonical (ip : IP) : (ip.to4.getD ip).to4.getD (ip.to4.getD ip) = ip.to4.getD ip := by
  cases short : ip.to4 with
  | none => rw [Option.getD_none, short, Option.getD_none]
  | some bytes => rw [Option.getD_some, to4_of_length (length_to4 short), Option.getD_some]

/-- The predicates of `net.IP` exclude nothing that the table does not. -/
theorem isPublicDiagnosticIP_iff (ip : IP) : isPublicDiagnosticIP ip = true ↔
    ((ip.to4.getD ip).length = 4 ∨ (ip.to4.getD ip).length = 16) ∧ ¬ Blocked (ip.to4.getD ip) := by
  have canonical := to4_canonical ip
  unfold isPublicDiagnosticIP
  generalize ip.to4.getD ip = ip at canonical ⊢
  have clear : (blockedDiagnosticNetworks.all fun network => !network.contains ip) = true ↔
      ¬ Blocked ip := by
    rw [List.all_eq_true, Blocked, not_exists]
    refine forall_congr' fun network => ?_
    rw [not_and]
    refine imp_congr_right fun member => ?_
    rw [Bool.not_eq_true', Bool.eq_false_iff, not_iff_not,
      contains_iff (sized_blocked network member), canonical]
  dsimp only
  constructor
  · intro isPublic
    rcases ite_eq_iff.mp isPublic with ⟨_, rejected⟩ | ⟨passes, rest⟩
    · cases rejected
    · refine ⟨?_, clear.mp rest⟩
      simp only [Bool.or_eq_true, not_or, Bool.not_eq_true', Bool.not_eq_false] at passes
      have isGlobal := passes.1.1.1.1.1.1.2
      simp only [isGlobalUnicast, Bool.and_eq_true] at isGlobal
      exact of_decide_eq_true isGlobal.1.1.1.1.1
  · rintro ⟨sized, notBlocked⟩
    rw [if_neg, clear]
    · exact notBlocked
    · intro special
      simp only [Bool.or_eq_true, Bool.not_eq_true'] at special
      have excluded : isGlobalUnicast ip = false ∨ isPrivate ip = true ∨ isLoopback ip = true ∨
          isLinkLocalUnicast ip = true ∨ isLinkLocalMulticast ip = true ∨ isMulticast ip = true ∨
          isUnspecified ip = true := by
        rcases special with (((((((empty | h) | h) | h) | h) | h) | h) | h)
        · rw [of_decide_eq_true empty] at sized
          simp at sized
        all_goals simp [h]
      apply notBlocked
      rcases sized with four | sixteen
      · exact blocked_of_v4 four excluded
      · apply blocked_of_v6 sixteen _ excluded
        cases short : ip.to4 with
        | none => rfl
        | some bytes =>
            rw [short, Option.getD_some] at canonical
            rw [← canonical, length_to4 short] at sixteen
            cases sixteen

end Table

end CheckNetwork.Network
