import CheckNetwork.Network.Literal
import Mathlib.Tactic.Ring

/-!
# Networks

Addresses as numbers, and a network as the addresses that share its leading
bits, however their bytes are compared.
-/

namespace CheckNetwork.Network

open Go

/-- The number that the bytes of an address write. -/
def number (ip : IP) : Nat := ip.foldl (fun value byte => 256 * value + byte.toNat) 0

/-- The addresses of a network share its first bits. -/
def Covers (network : IP) (bits : Nat) (ip : IP) : Prop :=
  ip.length = network.length ∧
    number ip / 2 ^ (8 * network.length - bits) = number network / 2 ^ (8 * network.length - bits)

instance (network : IP) (bits : Nat) (ip : IP) : Decidable (Covers network bits ip) :=
  inferInstanceAs (Decidable (_ ∧ _))

/-- The bytes that groups write. -/
def bytesOfGroups (groups : List Nat) : IP :=
  groups.flatMap fun group => [UInt8.ofNat (group / 256), UInt8.ofNat (group % 256)]

section Numbers

variable {ip : IP}

theorem foldl_number (ip : IP) (value : Nat) :
    ip.foldl (fun value byte => 256 * value + byte.toNat) value =
      value * 256 ^ ip.length + number ip := by
  induction ip generalizing value with
  | nil => simp [number]
  | cons first rest ih =>
      rw [number, List.foldl_cons, List.foldl_cons, ih, ih (256 * 0 + first.toNat), List.length_cons,
        Nat.pow_succ]
      ring

theorem number_cons (first : UInt8) (rest : IP) :
    number (first :: rest) = first.toNat * 2 ^ (8 * rest.length) + number rest := by
  rw [number, List.foldl_cons, foldl_number, Nat.mul_zero, Nat.zero_add, Nat.pow_mul]

theorem number_lt (ip : IP) : number ip < 2 ^ (8 * ip.length) := by
  induction ip with
  | nil => simp [number]
  | cons first rest ih =>
      have byte := first.toNat_lt
      rw [number_cons, List.length_cons, Nat.mul_add, Nat.pow_add]
      calc first.toNat * 2 ^ (8 * rest.length) + number rest
          < first.toNat * 2 ^ (8 * rest.length) + 2 ^ (8 * rest.length) := Nat.add_lt_add_left ih _
        _ = (first.toNat + 1) * 2 ^ (8 * rest.length) := by ring
        _ ≤ 2 ^ 8 * 2 ^ (8 * rest.length) := Nat.mul_le_mul_right _ (by omega)
        _ = 2 ^ (8 * rest.length) * 2 ^ (8 * 1) := Nat.mul_comm _ _

theorem bytesOfGroups_groups (even : ip.length % 2 = 0) : bytesOfGroups (IP.groups ip) = ip := by
  induction ip using IP.groups.induct with
  | case1 high low rest ih =>
      have restEven : rest.length % 2 = 0 := by
        simp only [List.length_cons] at even
        omega
      have lowByte := low.toNat_lt
      have quotient : (256 * high.toNat + low.toNat) / 256 = high.toNat := by omega
      have remainder : (256 * high.toNat + low.toNat) % 256 = low.toNat := by omega
      have tail := ih restEven
      rw [bytesOfGroups] at tail ⊢
      rw [IP.groups, List.flatMap_cons, tail, quotient, remainder, UInt8.ofNat_toNat,
        UInt8.ofNat_toNat]
      rfl
  | case2 rest short =>
      rcases rest with _ | ⟨first, _ | ⟨second, rest⟩⟩
      · rfl
      · simp at even
      · exact absurd rfl (short first second rest)

end Numbers

/-! ## Comparing bytes -/

section Bytes

/-- How a platform compares the first bits of two bytes. -/
structure ByteTest where
  same : Nat → UInt8 → UInt8 → Bool
  same_iff : ∀ {bits first second}, bits ≤ 8 → (same bits first second = true ↔
    first.toNat / 2 ^ (8 - bits) = second.toNat / 2 ^ (8 - bits))

variable (test : ByteTest)

/-- Bytes that share their first bits, byte after byte. -/
def ByteTest.agree : Nat → IP → IP → Bool
  | bits, first :: firsts, second :: seconds =>
      test.same (min 8 bits) first second && ByteTest.agree (bits - 8) firsts seconds
  | _, _, _ => true

/-- The high digit of a number decides its quotient only together with the rest. -/
theorem div_eq_div_iff {first second rest rest' width shift : Nat} (shift_le : shift ≤ width)
    (small : rest < 2 ^ width) (small' : rest' < 2 ^ width) :
    (first * 2 ^ width + rest) / 2 ^ shift = (second * 2 ^ width + rest') / 2 ^ shift ↔
      first = second ∧ rest / 2 ^ shift = rest' / 2 ^ shift := by
  obtain ⟨more, rfl⟩ := Nat.exists_eq_add_of_le shift_le
  have positive : 0 < 2 ^ shift := Nat.pow_pos (by decide)
  have expand : ∀ head tail : Nat, (head * 2 ^ (shift + more) + tail) / 2 ^ shift =
      head * 2 ^ more + tail / 2 ^ shift := by
    intro head tail
    rw [Nat.pow_add, show head * (2 ^ shift * 2 ^ more) + tail =
      tail + 2 ^ shift * (head * 2 ^ more) by ring, Nat.add_mul_div_left _ _ positive, Nat.add_comm]
  have quotient : ∀ {tail : Nat}, tail < 2 ^ (shift + more) → tail / 2 ^ shift < 2 ^ more := by
    intro tail lt
    rw [Nat.div_lt_iff_lt_mul positive, ← Nat.pow_add, Nat.add_comm]
    exact lt
  have less := quotient small
  have less' := quotient small'
  rw [expand, expand]
  constructor
  · intro same
    have heads := congrArg (· / 2 ^ more) same
    have tails := congrArg (· % 2 ^ more) same
    simp only [Nat.mul_add_mod_self_right, Nat.mod_eq_of_lt less, Nat.mod_eq_of_lt less'] at tails
    rw [tails] at same
    exact ⟨Nat.eq_of_mul_eq_mul_right (Nat.pow_pos (by decide)) (Nat.add_right_cancel same), tails⟩
  · rintro ⟨rfl, same⟩
    rw [same]

/-- Byte by byte, the same bits are shared as by the numbers. -/
theorem agree_iff {bits : Nat} {firsts seconds : IP} (sized : firsts.length = seconds.length)
    (bits_le : bits ≤ 8 * firsts.length) :
    test.agree bits firsts seconds = true ↔
      number firsts / 2 ^ (8 * firsts.length - bits) =
        number seconds / 2 ^ (8 * firsts.length - bits) := by
  induction firsts generalizing bits seconds with
  | nil =>
      rw [List.length_eq_zero_iff.mp sized.symm]
      simp [ByteTest.agree]
  | cons first firsts ih =>
      obtain ⟨second, seconds, rfl⟩ := List.exists_cons_of_length_eq_add_one sized.symm
      rw [List.length_cons, List.length_cons, Nat.add_right_cancel_iff] at sized
      rw [List.length_cons] at bits_le
      have later := @ih (bits - 8) seconds sized (by omega)
      have same := @ByteTest.same_iff test (min 8 bits) first second (Nat.min_le_left 8 bits)
      have firstsLt := number_lt firsts
      have secondsLt := number_lt seconds
      rw [← sized] at secondsLt
      rw [ByteTest.agree, Bool.and_eq_true, later, same, number_cons, number_cons, List.length_cons,
        ← sized]
      rcases Nat.le_total 8 bits with whole | part
      · have shift_eq : 8 * (firsts.length + 1) - bits = 8 * firsts.length - (bits - 8) := by omega
        rw [Nat.min_eq_left whole, shift_eq, div_eq_div_iff (Nat.sub_le _ _) firstsLt secondsLt]
        simp
      · have shift_eq : 8 * (firsts.length + 1) - bits = 8 * firsts.length + (8 - bits) := by omega
        have nothing : bits - 8 = 0 := by omega
        have head : ∀ {byte rest : Nat}, rest < 2 ^ (8 * firsts.length) →
            (byte * 2 ^ (8 * firsts.length) + rest) / 2 ^ (8 * firsts.length + (8 - bits)) =
              byte / 2 ^ (8 - bits) := by
          intro byte rest lt
          rw [Nat.pow_add, ← Nat.div_div_eq_div_mul, Nat.add_comm, Nat.add_mul_div_right _ _
            (Nat.pow_pos (by decide)), Nat.div_eq_of_lt lt, Nat.zero_add]
        rw [Nat.min_eq_right part, shift_eq, head firstsLt, head secondsLt, nothing, Nat.sub_zero,
          Nat.div_eq_of_lt firstsLt, Nat.div_eq_of_lt secondsLt]
        simp

end Bytes

end CheckNetwork.Network
