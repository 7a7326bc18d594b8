import Mathlib

/-!
# Leading bits

Numbers of a width share leading bits, and a block holds the numbers that share the leading bits
of one.  A number is also the parts that it is put together from, of the same number of bits each.
-/

namespace CheckNetwork.Bits

/-! ## Numbers that share leading bits -/

/-- The numbers agree but for their last bits. -/
def Agree (free left right : Nat) : Prop := left >>> free = right >>> free

section Agree

variable {free left right middle : Nat}

theorem Agree.symm (agree : Agree free left right) : Agree free right left := Eq.symm agree

theorem Agree.trans (first : Agree free left middle) (second : Agree free middle right) :
    Agree free left right :=
  Eq.trans first second

theorem agree_iff_xor_lt : Agree free left right ↔ left ^^^ right < 2 ^ free := by
  have shifted : (left ^^^ right) >>> free = 0 ↔ left >>> free = right >>> free := by
    rw [Nat.shiftRight_xor_distrib]
    exact Nat.xor_eq_zero_iff
  rw [Agree, ← shifted, Nat.shiftRight_eq_div_pow, Nat.div_eq_zero_iff]
  exact or_iff_right (Nat.two_pow_pos free).ne'

theorem Agree.mono {more : Nat} (agree : Agree free left right) (le : free ≤ more) :
    Agree more left right := by
  rw [agree_iff_xor_lt] at agree ⊢
  exact agree.trans_le (Nat.pow_le_pow_right (by decide) le)

/-- What lies between two numbers that agree agrees with them. -/
theorem Agree.between (agree : Agree free left right) (above : left ≤ middle)
    (below : middle ≤ right) : Agree free left middle := by
  rw [Agree, Nat.shiftRight_eq_div_pow, Nat.shiftRight_eq_div_pow] at agree ⊢
  apply le_antisymm (Nat.div_le_div_right above)
  rw [agree]
  exact Nat.div_le_div_right below

/-- Numbers that agree in one more bit. -/
theorem agree_iff_succ :
    Agree free left right ↔
      Agree (free + 1) left right ∧ left.testBit free = right.testBit free := by
  constructor
  · intro agree
    refine ⟨agree.mono (Nat.le_succ free), ?_⟩
    have bit := congrArg (fun value => value.testBit 0) agree
    simpa only [Nat.testBit_shiftRight, Nat.add_zero] using bit
  · rintro ⟨agree, bit⟩
    refine Nat.eq_of_testBit_eq fun index => ?_
    cases index with
    | zero => simpa only [Nat.testBit_shiftRight, Nat.add_zero] using bit
    | succ index =>
        have higher := congrArg (fun value => value.testBit index) agree
        simp only [Nat.testBit_shiftRight] at higher ⊢
        rwa [← Nat.add_assoc, Nat.add_right_comm]

/-- The numbers that agree with a number are a block. -/
theorem agree_iff_block :
    Agree free left right ↔
      left.ldiff ((1 <<< free) - 1) ≤ right ∧ right ≤ left ||| (1 <<< free) - 1 := by
  have size : 1 <<< free = 2 ^ free := by rw [Nat.shiftLeft_eq, Nat.one_mul]
  have low : left.ldiff (2 ^ free - 1) = left / 2 ^ free * 2 ^ free := by
    rw [← Nat.shiftRight_eq_div_pow, ← Nat.shiftLeft_eq]
    refine Nat.eq_of_testBit_eq fun index => ?_
    rw [Nat.testBit_ldiff, Nat.testBit_shiftLeft, Nat.testBit_shiftRight,
      Nat.testBit_two_pow_sub_one]
    by_cases inside : index < free
    · simp [inside]
    · simp [inside, Nat.not_lt.mp inside]
  have high : left ||| (2 ^ free - 1) = left / 2 ^ free * 2 ^ free + (2 ^ free - 1) := by
    have small : 2 ^ free - 1 < 2 ^ free := Nat.sub_lt (Nat.two_pow_pos free) Nat.one_pos
    rw [← Nat.shiftRight_eq_div_pow, ← Nat.shiftLeft_eq, Nat.shiftLeft_add_eq_or_of_lt small]
    refine Nat.eq_of_testBit_eq fun index => ?_
    rw [Nat.testBit_or, Nat.testBit_or, Nat.testBit_shiftLeft, Nat.testBit_shiftRight,
      Nat.testBit_two_pow_sub_one]
    by_cases inside : index < free
    · simp [inside]
    · simp [inside, Nat.not_lt.mp inside]
  have pos := Nat.two_pow_pos free
  rw [Agree, Nat.shiftRight_eq_div_pow, Nat.shiftRight_eq_div_pow, size, low, high, eq_comm,
    Nat.div_eq_iff pos]
  omega

end Agree

/-! ## The leading bits of a list -/

/-- The least and the greatest of numbers. -/
def extremes (first : Nat) (rest : List Nat) : Nat × Nat :=
  rest.foldl (fun bounds value =>
    (if value < bounds.1 then value else bounds.1, if bounds.2 < value then value else bounds.2))
    (first, first)

/-- The number of leading bits that two numbers of a width share. -/
def shared (width low high : Nat) : Nat := width - (low ^^^ high).size

section Shared

variable {width first low high length : Nat} {rest : List Nat}

theorem extremes_spec (first : Nat) (rest : List Nat) :
    (extremes first rest).1 ∈ first :: rest ∧ (extremes first rest).2 ∈ first :: rest ∧
      ∀ value ∈ first :: rest,
        (extremes first rest).1 ≤ value ∧ value ≤ (extremes first rest).2 := by
  induction rest using List.reverseRecOn with
  | nil =>
      refine ⟨List.mem_singleton.mpr rfl, List.mem_singleton.mpr rfl, fun value member => ?_⟩
      rw [List.mem_singleton.mp member]
      exact ⟨le_rfl, le_rfl⟩
  | append_singleton rest last ih =>
      obtain ⟨least, greatest, bounds⟩ := ih
      have step : extremes first (rest ++ [last]) =
          (if last < (extremes first rest).1 then last else (extremes first rest).1,
            if (extremes first rest).2 < last then last else (extremes first rest).2) := by
        rw [extremes, List.foldl_append]
        rfl
      have old : ∀ value ∈ first :: rest, value ∈ first :: (rest ++ [last]) := by
        intro value member
        rw [← List.cons_append]
        exact List.mem_append_left _ member
      have new : last ∈ first :: (rest ++ [last]) := by
        rw [← List.cons_append]
        exact List.mem_append_right _ (List.mem_singleton.mpr rfl)
      rw [step]
      refine ⟨?_, ?_, fun value member => ?_⟩
      · dsimp only
        split
        · exact new
        · exact old _ least
      · dsimp only
        split
        · exact new
        · exact old _ greatest
      · rw [← List.cons_append] at member
        dsimp only
        rcases List.mem_append.mp member with before | here
        · have between := bounds value before
          constructor
          · split <;> omega
          · split <;> omega
        · rw [List.mem_singleton.mp here]
          constructor
          · split <;> omega
          · split <;> omega

/-- Two numbers agree for as many leading bits as they share. -/
theorem agree_iff_le_shared (low_lt : low < 2 ^ width) (high_lt : high < 2 ^ width)
    (short : length ≤ width) :
    Agree (width - length) low high ↔ length ≤ shared width low high := by
  have fits : (low ^^^ high).size ≤ width := Nat.size_le.mpr (Nat.xor_lt_two_pow low_lt high_lt)
  rw [agree_iff_xor_lt, ← Nat.size_le, shared]
  omega

end Shared

/-- Members that differ in a bit, counted from the first of a width. -/
def Differ (width : Nat) (members : List Nat) (bit : Nat) : Prop :=
  ∃ left ∈ members, ∃ right ∈ members,
    left.testBit (width - bit) ≠ right.testBit (width - bit)

section Members

variable {width low high base other bit : Nat} {members : List Nat}

/-- Two members of a width between which all others lie. -/
structure Bounds (width : Nat) (members : List Nat) (low high : Nat) : Prop where
  low_mem : low ∈ members
  high_mem : high ∈ members
  between : ∀ member ∈ members, low ≤ member ∧ member ≤ high
  small : ∀ member ∈ members, member < 2 ^ width

theorem bounds_extremes {first : Nat} {rest : List Nat}
    (small : ∀ member ∈ first :: rest, member < 2 ^ width) :
    Bounds width (first :: rest) (extremes first rest).1 (extremes first rest).2 := by
  obtain ⟨least, greatest, between⟩ := extremes_spec first rest
  exact ⟨least, greatest, between, small⟩

theorem shared_le (width low high : Nat) : shared width low high ≤ width := Nat.sub_le _ _

namespace Bounds

theorem agree_iff (bounds : Bounds width members low high) (short : other ≤ width) :
    Agree (width - other) low high ↔ other ≤ shared width low high :=
  agree_iff_le_shared (bounds.small low bounds.low_mem) (bounds.small high bounds.high_mem) short

/-- All members have the leading bits that their bounds share. -/
theorem covers (bounds : Bounds width members low high) :
    ∀ member ∈ members, Agree (width - shared width low high) low member := by
  intro member inside
  obtain ⟨above, below⟩ := bounds.between member inside
  exact ((bounds.agree_iff (shared_le _ _ _)).mpr le_rfl).between above below

/-- Members have no more leading bits in common. -/
theorem greatest (bounds : Bounds width members low high) (short : other ≤ width)
    (agree : ∀ member ∈ members, Agree (width - other) base member) :
    other ≤ shared width low high :=
  (bounds.agree_iff short).mp
    ((agree low bounds.low_mem).symm.trans (agree high bounds.high_mem))

theorem not_differ (bounds : Bounds width members low high) (before : bit ≤ shared width low high) :
    ¬Differ width members bit := by
  rintro ⟨left, left_mem, right, right_mem, different⟩
  have agree := (bounds.covers left left_mem).symm.trans (bounds.covers right right_mem)
  have further : Agree (width - bit) left right := agree.mono (Nat.sub_le_sub_left before width)
  exact different (agree_iff_succ.mp further).2

/-- Members differ in the bit after those that their bounds share. -/
theorem differ (bounds : Bounds width members low high) (few : shared width low high < width) :
    Differ width members (shared width low high + 1) := by
  by_contra same
  have bit : low.testBit (width - (shared width low high + 1)) =
      high.testBit (width - (shared width low high + 1)) := by
    by_contra different
    exact same ⟨low, bounds.low_mem, high, bounds.high_mem, different⟩
  have agree := (bounds.agree_iff (shared_le _ _ _)).mpr le_rfl
  have succ : width - shared width low high = width - (shared width low high + 1) + 1 := by omega
  rw [succ] at agree
  have more := (bounds.agree_iff few).mp (agree_iff_succ.mpr ⟨agree, bit⟩)
  exact absurd more (Nat.not_succ_le_self _)

theorem shared_eq_iff (bounds : Bounds width members low high) :
    shared width low high = width ↔ ∀ left ∈ members, ∀ right ∈ members, left = right := by
  constructor
  · intro whole left left_mem right right_mem
    have agree := (bounds.covers left left_mem).symm.trans (bounds.covers right right_mem)
    rwa [whole, Nat.sub_self] at agree
  · intro same
    apply le_antisymm (shared_le _ _ _)
    rw [← bounds.agree_iff le_rfl, same low bounds.low_mem high bounds.high_mem]
    rfl

/-- The first bit in which members differ is the one after those that their bounds share. -/
theorem first_differ_iff (bounds : Bounds width members low high)
    (few : shared width low high < width) :
    (1 ≤ bit ∧ bit ≤ width ∧ Differ width members bit ∧
      ∀ before, 1 ≤ before → before < bit → ¬Differ width members before) ↔
      bit = shared width low high + 1 := by
  constructor
  · rintro ⟨-, -, differ, first⟩
    apply le_antisymm
    · by_contra later
      exact first _ (Nat.succ_pos _) (Nat.lt_of_not_le later) (bounds.differ few)
    · by_contra earlier
      exact bounds.not_differ (Nat.le_of_lt_succ (Nat.lt_of_not_le earlier)) differ
  · rintro rfl
    refine ⟨Nat.succ_pos _, few, bounds.differ few, fun before _ earlier => ?_⟩
    exact bounds.not_differ (Nat.le_of_lt_succ earlier)

end Bounds

end Members

/-! ## Numbers of equal parts -/

/-- The number that parts are put together to. -/
def pack (size : Nat) (parts : List Nat) : Nat :=
  parts.foldl (fun value part => value <<< size ||| part) 0

/-- The parts of a number. -/
def unpack (size count value : Nat) : List Nat :=
  (List.range count).reverse.map fun index => value >>> (size * index) &&& (1 <<< size) - 1

section Parts

variable {size count value last : Nat} {parts : List Nat}

theorem pack_concat (last_lt : last < 2 ^ size) :
    pack size (parts ++ [last]) = pack size parts * 2 ^ size + last := by
  rw [pack, List.foldl_append, ← pack]
  change pack size parts <<< size ||| last = _
  rw [← Nat.shiftLeft_add_eq_or_of_lt last_lt, Nat.shiftLeft_eq]

theorem unpack_succ (size count value : Nat) :
    unpack size (count + 1) value = unpack size count (value / 2 ^ size) ++ [value % 2 ^ size] := by
  have mask : (1 <<< size) - 1 = 2 ^ size - 1 := by rw [Nat.shiftLeft_eq, Nat.one_mul]
  rw [unpack, unpack, List.range_succ_eq_map, List.reverse_cons, List.map_append,
    ← List.map_reverse, List.map_map]
  congr 1
  · refine List.map_congr_left fun index _ => ?_
    rw [Function.comp_apply, Nat.mul_succ, Nat.add_comm, Nat.shiftRight_add,
      Nat.shiftRight_eq_div_pow value]
  · rw [List.map_singleton, Nat.mul_zero, Nat.shiftRight_zero, mask, Nat.and_two_pow_sub_one_eq_mod]

theorem length_unpack (size count value : Nat) : (unpack size count value).length = count := by
  rw [unpack, List.length_map, List.length_reverse, List.length_range]

theorem unpack_lt : ∀ part ∈ unpack size count value, part < 2 ^ size := by
  induction count generalizing value with
  | zero => exact List.forall_mem_nil _
  | succ count ih =>
      rw [unpack_succ]
      intro part member
      rcases List.mem_append.mp member with before | here
      · exact ih part before
      · rw [List.mem_singleton.mp here]
        exact Nat.mod_lt _ (Nat.two_pow_pos size)

theorem pack_lt (small : ∀ part ∈ parts, part < 2 ^ size) :
    pack size parts < 2 ^ (size * parts.length) := by
  induction parts using List.reverseRecOn with
  | nil => exact Nat.one_pos
  | append_singleton parts last ih =>
      obtain ⟨before, last_lt⟩ := List.forall_mem_append.mp small
      have last_lt := last_lt last (List.mem_singleton.mpr rfl)
      have bound := ih before
      rw [pack_concat last_lt, List.length_append, List.length_singleton, Nat.mul_succ, Nat.pow_add]
      calc pack size parts * 2 ^ size + last
          < pack size parts * 2 ^ size + 2 ^ size := Nat.add_lt_add_left last_lt _
        _ = (pack size parts + 1) * 2 ^ size := (Nat.succ_mul _ _).symm
        _ ≤ 2 ^ (size * parts.length) * 2 ^ size := Nat.mul_le_mul_right _ bound

/-- The parts of a number that was put together. -/
theorem unpack_pack (small : ∀ part ∈ parts, part < 2 ^ size) :
    unpack size parts.length (pack size parts) = parts := by
  induction parts using List.reverseRecOn with
  | nil => rfl
  | append_singleton parts last ih =>
      obtain ⟨before, last_lt⟩ := List.forall_mem_append.mp small
      have last_lt := last_lt last (List.mem_singleton.mpr rfl)
      rw [List.length_append, List.length_singleton, unpack_succ, pack_concat last_lt,
        Nat.mul_comm, Nat.mul_add_div (Nat.two_pow_pos size), Nat.div_eq_of_lt last_lt,
        Nat.add_zero, ih before, Nat.mul_add_mod, Nat.mod_eq_of_lt last_lt]

/-- The number that the parts of a number are put together to. -/
theorem pack_unpack (value_lt : value < 2 ^ (size * count)) :
    pack size (unpack size count value) = value := by
  induction count generalizing value with
  | zero =>
      rw [Nat.mul_zero, Nat.pow_zero, Nat.lt_one_iff] at value_lt
      rw [value_lt]
      rfl
  | succ count ih =>
      rw [Nat.mul_succ, Nat.pow_add] at value_lt
      rw [unpack_succ, pack_concat (Nat.mod_lt _ (Nat.two_pow_pos size)),
        ih (Nat.div_lt_of_lt_mul (by rwa [Nat.mul_comm])), Nat.div_add_mod']

end Parts

end CheckNetwork.Bits
