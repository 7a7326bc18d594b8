import CheckNetwork.Go.Text

/-!
# Addresses of the network

The type `net.IP` and the text of its values, which `net/netip` writes.
-/

namespace CheckNetwork.Go

/-- `net.IP`: four or sixteen bytes where it is an address. -/
abbrev IP := List UInt8

namespace IP

def v4InV6Prefix : List UInt8 := [0, 0, 0, 0, 0, 0, 0, 0, 0, 0, 0xff, 0xff]

def to4 (ip : IP) : Option IP :=
  if ip.length = 4 then some ip
  else if ip.length = 16 ∧ ip.take 12 = v4InV6Prefix then some (ip.drop 12)
  else none

def to16 (ip : IP) : Option IP :=
  if ip.length = 4 then some (v4InV6Prefix ++ ip)
  else if ip.length = 16 then some ip
  else none

def hexDigits (value : Nat) : List Char := Nat.toDigits 16 value

def decimalText (ip : IP) : List Char :=
  (ip.map fun byte => Nat.toDigits 10 byte.toNat).intersperse ['.'] |>.flatten

/-- The sixteen-bit groups of an address. -/
def groups : IP → List Nat
  | high :: low :: rest => (256 * high.toNat + low.toNat) :: groups rest
  | _ => []

/-- The first of the longest runs of zero groups, as its start and its end, when
a run of at least two exists. -/
def zeroRun (groups : List Nat) : Option (Nat × Nat) :=
  (List.range groups.length).foldl (fun found start =>
    let length := ((groups.drop start).takeWhile (· = 0)).length
    if 2 ≤ length ∧ (found.elim 0 fun run => run.2 - run.1) < length then
      some (start, start + length)
    else found) none

def groupText (groups : List Nat) : List Char :=
  ((groups.map hexDigits).intersperse [':']).flatten

def v6Text (ip : IP) : List Char :=
  match zeroRun (groups ip) with
  | some (start, stop) =>
      groupText ((groups ip).take start) ++ [':', ':'] ++ groupText ((groups ip).drop stop)
  | none => groupText (groups ip)

/-- The `String` method. -/
def string (ip : IP) : GoString :=
  if ip = [] then "<nil>"
  else if ip.length ≠ 4 ∧ ip.length ≠ 16 then
    ("?".toList ++ ip.flatMap fun byte =>
      [Nat.digitChar (byte.toNat / 16), Nat.digitChar (byte.toNat % 16)]).map .scalar
  else match ip.to4 with
    | some bytes => (decimalText bytes).map .scalar
    | none => (v6Text ip).map .scalar

example : string [0x20, 0x01, 0x0d, 0xb8, 0, 0, 0, 0, 0, 0, 0, 1, 0, 0, 0, 0] =
    "2001:db8::1:0:0" := by decide

theorem decimalText_ne_nil {ip : IP} (two : 2 ≤ ip.length) : decimalText ip ≠ [] := by
  rcases ip with _ | ⟨first, _ | ⟨second, rest⟩⟩
  · simp at two
  · simp at two
  · cases rest <;> simp [decimalText]

theorem groupText_ne_nil {groups : List Nat} (two : 2 ≤ groups.length) : groupText groups ≠ [] := by
  rcases groups with _ | ⟨first, _ | ⟨second, rest⟩⟩
  · simp at two
  · simp at two
  · cases rest <;> simp [groupText]

theorem length_groups (ip : IP) : (groups ip).length = ip.length / 2 := by
  induction ip using groups.induct with
  | case1 high low rest ih =>
      rw [groups, List.length_cons, ih, List.length_cons, List.length_cons]
      omega
  | case2 rest short =>
      rcases rest with _ | ⟨first, _ | ⟨second, rest⟩⟩
      · rfl
      · simp [groups]
      · exact absurd rfl (short first second rest)

theorem v6Text_ne_nil {ip : IP} (sixteen : ip.length = 16) : v6Text ip ≠ [] := by
  have eight : (groups ip).length = 8 := by rw [length_groups, sixteen]
  unfold v6Text
  split
  · simp
  · exact groupText_ne_nil (by omega)

/-- The text of an address is never empty. -/
theorem string_ne_nil (ip : IP) : ip.string ≠ [] := by
  unfold string
  split
  · decide
  · split
    · simp
    · rename_i sized
      have length_eq : ip.length = 4 ∨ ip.length = 16 := by omega
      cases short : ip.to4 with
      | some bytes =>
          have four : bytes.length = 4 := by
            unfold to4 at short
            split at short
            · rename_i four
              rwa [← Option.some.inj short]
            · split at short
              · rename_i sixteen
                rw [← Option.some.inj short, List.length_drop, sixteen.1]
              · cases short
          simpa using decimalText_ne_nil (by omega : 2 ≤ bytes.length)
      | none =>
          have sixteen : ip.length = 16 := by
            rcases length_eq with four | sixteen
            · rw [to4, if_pos four] at short
              cases short
            · exact sixteen
          simpa using v6Text_ne_nil sixteen

end IP
end CheckNetwork.Go
