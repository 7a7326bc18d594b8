import CheckNetwork.Go.Address
import Mathlib.Data.List.Infix

/-!
# Addresses and prefixes

The types `netip.Addr` and `netip.Prefix`, the order of addresses, and the texts
that they are written as.
-/

namespace CheckNetwork.Go

/-- `netip.Addr`, of a valid address. -/
structure Addr where
  bytes : IP
  zone : GoString
  sized : bytes.length = 4 ∨ bytes.length = 16
  deriving DecidableEq

namespace Addr

variable (addr other : Addr)

def bitLen : Nat := 8 * addr.bytes.length

def is4 : Bool := addr.bytes.length = 4

def is4In6 : Bool := addr.bytes.length = 16 ∧ addr.bytes.take 12 = IP.v4InV6Prefix

/-- The address as a number. -/
def number : Nat := addr.bytes.foldl (fun value byte => 256 * value + byte.toNat) 0

/-- `Compare(other) ≤ 0`, of addresses without zones. -/
def le : Bool :=
  addr.bitLen < other.bitLen ∨ (addr.bitLen = other.bitLen ∧ addr.number ≤ other.number)

def text : List Char :=
  if addr.is4 then IP.decimalText addr.bytes
  else if addr.is4In6 then "::ffff:".toList ++ IP.decimalText (addr.bytes.drop 12)
  else IP.v6Text addr.bytes

/-- The `String` method. -/
def string : GoString :=
  addr.text.map .scalar ++ if addr.zone = [] then [] else .scalar '%' :: addr.zone

end Addr

/-- `netip.Prefix`, of a valid prefix. -/
structure AddrPrefix where
  addr : Addr
  bits : Nat
  bits_le : bits ≤ addr.bitLen
  deriving DecidableEq

namespace AddrPrefix

variable (range : AddrPrefix)

/-- Bits that the prefix does not fix. -/
def free : Nat := range.addr.bitLen - range.bits

/-- Whether the prefix equals its masked form. -/
def isMasked : Bool := range.addr.number % 2 ^ range.free = 0

def contains (addr : Addr) : Bool :=
  addr.zone = [] ∧ addr.bitLen = range.addr.bitLen ∧
    addr.number / 2 ^ range.free = range.addr.number / 2 ^ range.free

/-- The `String` method. -/
def string : GoString :=
  range.addr.string ++ .scalar '/' :: (Nat.toDigits 10 range.bits).map .scalar

end AddrPrefix

/-! ## The characters of an address -/

/-- Characters that addresses and prefixes are written with. -/
def isAddrChar (char : Char) : Bool :=
  char.isDigit ∨ ('a' ≤ char ∧ char ≤ 'f') ∨ char = '.' ∨ char = ':' ∨ char = '/'

theorem all_toDigits_ten (value : Nat) : (Nat.toDigits 10 value).all isAddrChar = true := by
  rw [List.all_eq_true]
  intro char member
  exact decide_eq_true (.inl (Nat.isDigit_of_mem_toDigits (by decide) (by decide) member))

theorem all_toDigits_sixteen (value : Nat) : (Nat.toDigits 16 value).all isAddrChar = true := by
  have digits : ∀ digit < 16, isAddrChar (Nat.digitChar digit) = true := by decide
  induction value using Nat.strong_induction_on with
  | _ value ih =>
      rw [Nat.toDigits_eq_if (by decide)]
      split
      · rename_i small
        rw [List.all_cons, digits value small, List.all_nil]
        rfl
      · rename_i large
        rw [List.all_append, ih _ (Nat.div_lt_self (by omega) (by decide)), List.all_cons,
          digits _ (Nat.mod_lt _ (by decide)), List.all_nil]
        rfl

theorem length_toDigits_ten {value : Nat} (small : value < 1000) :
    (Nat.toDigits 10 value).length ≤ 3 :=
  (Nat.length_toDigits_le_iff (by decide) (by decide)).mpr small

theorem length_toDigits_sixteen {value : Nat} (small : value < 65536) :
    (Nat.toDigits 16 value).length ≤ 4 :=
  (Nat.length_toDigits_le_iff (by decide) (by decide)).mpr small

section Separated

variable {parts : List (List Char)} {mark : Char}

theorem all_intersperse (known : isAddrChar mark = true)
    (all : ∀ part ∈ parts, part.all isAddrChar = true) :
    (parts.intersperse [mark]).flatten.all isAddrChar = true := by
  induction parts with
  | nil => rfl
  | cons first rest ih =>
      have head := all first (List.mem_cons_self ..)
      have tail := ih fun part member => all part (List.mem_cons_of_mem _ member)
      cases rest with
      | nil => simpa using head
      | cons second rest =>
          rw [List.intersperse_cons_cons, List.flatten_cons, List.all_append, head,
            List.flatten_cons, List.all_append, tail]
          simp [known]

theorem length_intersperse_le {width : Nat} (narrow : ∀ part ∈ parts, part.length ≤ width) :
    (parts.intersperse [mark]).flatten.length ≤ parts.length * (width + 1) := by
  induction parts with
  | nil => exact Nat.zero_le _
  | cons first rest ih =>
      have head := narrow first (List.mem_cons_self ..)
      have tail := ih fun part member => narrow part (List.mem_cons_of_mem _ member)
      cases rest with
      | nil =>
          simp only [List.intersperse_singleton, List.flatten_cons, List.flatten_nil,
            List.append_nil, List.length_cons, List.length_nil]
          omega
      | cons second rest =>
          rw [List.intersperse_cons_cons, List.flatten_cons, List.length_append, List.flatten_cons,
            List.length_append, List.length_singleton, List.length_cons, Nat.succ_mul]
          omega

end Separated

namespace IP

theorem all_decimalText (ip : IP) : (decimalText ip).all isAddrChar = true := by
  apply all_intersperse (by decide)
  intro part member
  obtain ⟨byte, _, rfl⟩ := List.mem_map.mp member
  exact all_toDigits_ten _

theorem length_decimalText_le (ip : IP) : (decimalText ip).length ≤ ip.length * 4 := by
  rw [decimalText, ← @List.length_map _ _ ip fun byte => Nat.toDigits 10 byte.toNat]
  apply length_intersperse_le
  intro part member
  obtain ⟨byte, _, rfl⟩ := List.mem_map.mp member
  exact length_toDigits_ten (byte.toNat_lt.trans (by decide))

theorem all_groupText (groups : List Nat) : (groupText groups).all isAddrChar = true := by
  apply all_intersperse (by decide)
  intro part member
  obtain ⟨group, _, rfl⟩ := List.mem_map.mp member
  exact all_toDigits_sixteen _

theorem lt_of_mem_groups {ip : IP} {group : Nat} (member : group ∈ groups ip) : group < 65536 := by
  induction ip using groups.induct with
  | case1 high low rest ih =>
      rw [groups, List.mem_cons] at member
      rcases member with rfl | later
      · have := high.toNat_lt
        have := low.toNat_lt
        omega
      · exact ih later
  | case2 rest short =>
      rcases rest with _ | ⟨first, _ | ⟨second, rest⟩⟩
      · cases member
      · cases member
      · exact absurd rfl (short first second rest)

theorem length_groupText_le {parts : List Nat} (small : ∀ group ∈ parts, group < 65536) :
    (groupText parts).length ≤ parts.length * 5 := by
  rw [groupText, ← @List.length_map _ _ parts hexDigits]
  apply length_intersperse_le
  intro part member
  obtain ⟨group, inside, rfl⟩ := List.mem_map.mp member
  exact length_toDigits_sixteen (small group inside)

theorem all_v6Text (ip : IP) : (v6Text ip).all isAddrChar = true := by
  unfold v6Text
  split
  · rw [List.all_append, List.all_append, all_groupText, all_groupText]
    decide
  · exact all_groupText _

theorem length_v6Text_le (ip : IP) : (v6Text ip).length ≤ ip.length * 5 + 2 := by
  have groups_le : (groups ip).length * 2 ≤ ip.length := by
    rw [length_groups]
    omega
  unfold v6Text
  split
  · rename_i start stop _
    have before : (groupText ((groups ip).take start)).length ≤ _ :=
      length_groupText_le fun group member => lt_of_mem_groups (List.mem_of_mem_take member)
    have after : (groupText ((groups ip).drop stop)).length ≤ _ :=
      length_groupText_le fun group member => lt_of_mem_groups (List.mem_of_mem_drop member)
    rw [List.length_take] at before
    rw [List.length_drop] at after
    simp only [List.length_append, List.length_cons, List.length_nil]
    omega
  · have := length_groupText_le fun group (member : group ∈ groups ip) => lt_of_mem_groups member
    omega

end IP

namespace Addr

variable {addr : Addr}

theorem all_text (addr : Addr) : addr.text.all isAddrChar = true := by
  unfold text
  split
  · exact IP.all_decimalText _
  · split
    · rw [List.all_append, IP.all_decimalText]
      decide
    · exact IP.all_v6Text _

theorem length_text_le (addr : Addr) : addr.text.length ≤ 82 := by
  have sized : addr.bytes.length ≤ 16 := by
    rcases addr.sized with four | sixteen
    · omega
    · omega
  unfold text
  split
  · have := IP.length_decimalText_le addr.bytes
    omega
  · split
    · have := IP.length_decimalText_le (addr.bytes.drop 12)
      rw [List.length_drop] at this
      rw [List.length_append]
      change 7 + _ ≤ 82
      omega
    · have := IP.length_v6Text_le addr.bytes
      omega

theorem text_ne_nil (addr : Addr) : addr.text ≠ [] := by
  unfold text is4
  split
  · rename_i four
    rw [decide_eq_true_iff] at four
    exact IP.decimalText_ne_nil (by omega)
  · rename_i other
    rw [decide_eq_true_iff] at other
    split
    · simp
    · exact IP.v6Text_ne_nil (addr.sized.resolve_left other)

theorem string_ne_nil (addr : Addr) : addr.string ≠ [] := by
  simp [string, text_ne_nil]

theorem string_of_zone (none : addr.zone = []) : addr.string = addr.text.map .scalar := by
  rw [string, if_pos none, List.append_nil]

end Addr

theorem AddrPrefix.string_ne_nil (range : AddrPrefix) : range.string ≠ [] := by
  simp [string]

theorem AddrPrefix.string_of_zone {range : AddrPrefix} (none : range.addr.zone = []) :
    ∃ text : List Char, range.string = text.map .scalar ∧ text.all isAddrChar = true ∧
      text.length ≤ 86 := by
  have bits_lt : range.bits < 1000 := by
    have sized := range.addr.sized
    have bits_le := range.bits_le
    unfold Addr.bitLen at bits_le
    omega
  refine ⟨range.addr.text ++ '/' :: Nat.toDigits 10 range.bits, ?_, ?_, ?_⟩
  · rw [string, Addr.string_of_zone none, List.map_append, List.map_cons]
  · rw [List.all_append, Addr.all_text, List.all_cons, all_toDigits_ten]
    decide
  · have short := range.addr.length_text_le
    have digits := length_toDigits_ten bits_lt
    rw [List.length_append, List.length_cons]
    omega

end CheckNetwork.Go
