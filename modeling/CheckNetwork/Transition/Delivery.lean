import CheckNetwork.Transition.Core
import Mathlib.Data.Finset.Card
import Mathlib.Data.Finset.Range
import Mathlib.Data.List.Nodup
import Mathlib.Data.List.Perm.Subperm
import Mathlib.Logic.Function.Basic

/-!
# Exactly-once delivery

Each of finitely many slots is decided at most once.  The party that decides a
slot holds its value until it sends it over one shared channel, and a single
receiver stores what it takes from the channel.  The invariant says that a
decided value is in exactly one of these places, from which it follows that a
channel with one cell for each slot never blocks a sender and that a receiver
that has taken as many values as there are slots has every decision.
-/

namespace CheckNetwork.Transition

universe u v

/-- `slots` is the number of slots and the capacity of the channel. -/
structure Delivery (π : Type u) (V : Type v) where
  slots : Nat
  decision : Nat → Option V
  holding : Nat → π → Option V
  channel : List (Nat × V)
  results : Nat → Option V
  received : Nat

namespace Delivery

variable {π : Type u} {V : Type v}

inductive Op (π : Type u) (V : Type v)
  | decide (slot : Nat) (party : π) (value : V)
  | send (slot : Nat) (party : π)
  | receive

def empty (slots : Nat) : Delivery π V where
  slots := slots
  decision _ := none
  holding _ _ := none
  channel := []
  results _ := none
  received := 0

def setHolding [DecidableEq π] (delivery : Delivery π V) (slot : Nat) (party : π) (value : Option V) :
    Nat → π → Option V :=
  Function.update delivery.holding slot
    (Function.update (delivery.holding slot) party value)

def next [DecidableEq π] : Step (Delivery π V) (Op π V)
  | delivery, .decide slot party value =>
      match delivery.decision slot with
      | some _ => none
      | none =>
          if slot < delivery.slots then
            some { delivery with
              decision := Function.update delivery.decision slot (some value)
              holding := delivery.setHolding slot party (some value) }
          else none
  | delivery, .send slot party =>
      match delivery.holding slot party with
      | none => none
      | some value =>
          if delivery.channel.length < delivery.slots then
            some { delivery with
              holding := delivery.setHolding slot party none
              channel := delivery.channel ++ [(slot, value)] }
          else none
  | delivery, .receive =>
      match delivery.channel with
      | [] => none
      | (slot, value) :: rest =>
          some { delivery with
            channel := rest
            results := Function.update delivery.results slot (some value)
            received := delivery.received + 1 }

/-- Slots whose value has been received. -/
def filled (delivery : Delivery π V) : Finset Nat :=
  (Finset.range delivery.slots).filter fun slot => (delivery.results slot).isSome

/-- A decided value is in exactly one place, and nothing else is anywhere. -/
structure Exact (delivery : Delivery π V) : Prop where
  decision_lt : ∀ {slot value}, delivery.decision slot = some value → slot < delivery.slots
  holding_decision : ∀ {slot party value}, delivery.holding slot party = some value →
    delivery.decision slot = some value
  holding_unique : ∀ {slot party other value value'},
    delivery.holding slot party = some value → delivery.holding slot other = some value' →
      party = other
  channel_decision : ∀ {slot value}, (slot, value) ∈ delivery.channel →
    delivery.decision slot = some value
  channel_nodup : (delivery.channel.map Prod.fst).Nodup
  channel_holding : ∀ {slot value}, (slot, value) ∈ delivery.channel → ∀ party,
    delivery.holding slot party = none
  results_decision : ∀ {slot value}, delivery.results slot = some value →
    delivery.decision slot = some value
  results_holding : ∀ {slot value}, delivery.results slot = some value → ∀ party,
    delivery.holding slot party = none
  results_channel : ∀ {slot value value'}, delivery.results slot = some value →
    (slot, value') ∉ delivery.channel
  kept : ∀ {slot value}, delivery.decision slot = some value →
    (∃ party, delivery.holding slot party = some value) ∨
      (slot, value) ∈ delivery.channel ∨ delivery.results slot = some value
  received_eq : delivery.received = delivery.filled.card

namespace Exact

variable {delivery after : Delivery π V}

theorem empty (slots : Nat) : (Delivery.empty slots : Delivery π V).Exact := by
  constructor <;> simp [Delivery.empty, filled]

/-- A slot without a decision is in none of the places. -/
theorem untouched (exact : delivery.Exact) {slot : Nat}
    (undecided : delivery.decision slot = none) :
    (∀ party, delivery.holding slot party = none) ∧
      (∀ value, (slot, value) ∉ delivery.channel) ∧ delivery.results slot = none := by
  refine ⟨?_, ?_, ?_⟩
  · intro party
    cases held : delivery.holding slot party with
    | none => rfl
    | some value => simp [exact.holding_decision held] at undecided
  · intro value member
    simp [exact.channel_decision member] at undecided
  · cases filled : delivery.results slot with
    | none => rfl
    | some value => simp [exact.results_decision filled] at undecided

/-- While a party holds a value the channel has room for it. -/
theorem room (exact : delivery.Exact) {slot : Nat} {party : π} {value : V}
    (held : delivery.holding slot party = some value) :
    delivery.channel.length < delivery.slots := by
  have slot_lt := exact.decision_lt (exact.holding_decision held)
  have subset : delivery.channel.map Prod.fst ⊆ (List.range delivery.slots).erase slot := by
    intro other otherMem
    obtain ⟨⟨other, otherValue⟩, member, rfl⟩ := List.mem_map.mp otherMem
    have other_ne : other ≠ slot := by
      rintro rfl
      simp [exact.channel_holding member party] at held
    exact (List.mem_erase_of_ne other_ne).mpr
      (List.mem_range.mpr (exact.decision_lt (exact.channel_decision member)))
  have bounded := (exact.channel_nodup.subperm subset).length_le
  rw [List.length_map, List.length_erase_of_mem (List.mem_range.mpr slot_lt),
    List.length_range] at bounded
  omega

/-- Once as many values as slots were received, every slot is filled. -/
theorem complete (exact : delivery.Exact) (all : delivery.received = delivery.slots)
    {slot : Nat} (slot_lt : slot < delivery.slots) :
    ∃ value, delivery.results slot = some value := by
  have full : delivery.filled = Finset.range delivery.slots := by
    apply Finset.eq_of_subset_of_card_le (Finset.filter_subset _ _)
    have counted := exact.received_eq
    rw [all] at counted
    exact (Finset.card_range _).le.trans counted.le
  have member : slot ∈ delivery.filled := full ▸ Finset.mem_range.mpr slot_lt
  exact Option.isSome_iff_exists.mp (Finset.mem_filter.mp member).2

theorem received_le (exact : delivery.Exact) : delivery.received ≤ delivery.slots := by
  rw [exact.received_eq]
  exact (Finset.card_filter_le _ _).trans (Finset.card_range _).le

/-- Until as many values as slots were received, some slot is not filled. -/
theorem exists_missing (exact : delivery.Exact) (waiting : delivery.received < delivery.slots) :
    ∃ slot < delivery.slots, delivery.results slot = none := by
  rw [exact.received_eq] at waiting
  by_contra full
  push Not at full
  have all : delivery.filled = Finset.range delivery.slots := by
    refine Finset.filter_true_of_mem fun slot member => ?_
    exact Option.isSome_iff_ne_none.mpr (full slot (Finset.mem_range.mp member))
  rw [all, Finset.card_range] at waiting
  exact lt_irrefl _ waiting

section Step

variable [DecidableEq π] {slot : Nat} {party : π} {value : V}

theorem setHolding_eq_some {place : Nat} {holder : π} {held : V} {stored : Option V}
    (found : delivery.setHolding slot party stored place holder = some held) :
    (place = slot ∧ holder = party ∧ stored = some held) ∨
      (¬ (place = slot ∧ holder = party) ∧ delivery.holding place holder = some held) := by
  unfold setHolding at found
  by_cases same : place = slot
  · subst same
    by_cases mine : holder = party
    · subst mine
      simp only [Function.update_self] at found
      exact .inl ⟨rfl, rfl, found⟩
    · simp only [Function.update_self, Function.update_of_ne mine] at found
      exact .inr ⟨fun both => mine both.2, found⟩
  · rw [Function.update_of_ne same] at found
    exact .inr ⟨fun both => same both.1, found⟩

theorem decide (exact : delivery.Exact) (slot_lt : slot < delivery.slots)
    (undecided : delivery.decision slot = none) :
    ({ delivery with
        decision := Function.update delivery.decision slot (some value)
        holding := delivery.setHolding slot party (some value) } : Delivery π V).Exact := by
  obtain ⟨nobody, notSent, notStored⟩ := exact.untouched undecided
  have decision_ne : ∀ {place held}, delivery.decision place = some held → place ≠ slot := by
    rintro place held decided rfl
    simp [undecided] at decided
  have holding_ne : ∀ {place holder}, place ≠ slot →
      delivery.setHolding slot party (some value) place holder = delivery.holding place holder := by
    intro place holder other
    simp [setHolding, other]
  have decision_of_ne : ∀ {place}, place ≠ slot →
      Function.update delivery.decision slot (some value) place = delivery.decision place :=
    fun other => Function.update_of_ne other _ _
  constructor
  case decision_lt =>
    intro place held decided
    by_cases same : place = slot
    · exact same ▸ slot_lt
    · exact exact.decision_lt ((decision_of_ne same).symm.trans decided)
  case holding_decision =>
    intro place holder held found
    rcases setHolding_eq_some found with ⟨rfl, -, stored⟩ | ⟨-, old⟩
    · simpa using stored
    · have other := decision_ne (exact.holding_decision old)
      exact (decision_of_ne other).trans (exact.holding_decision old)
  case holding_unique =>
    intro place holder other held held' found found'
    rcases setHolding_eq_some found with ⟨rfl, rfl, -⟩ | ⟨-, old⟩
    · rcases setHolding_eq_some found' with ⟨-, rfl, -⟩ | ⟨-, old'⟩
      · rfl
      · simp [nobody] at old'
    · rcases setHolding_eq_some found' with ⟨rfl, -, -⟩ | ⟨-, old'⟩
      · simp [nobody] at old
      · exact exact.holding_unique old old'
  case channel_decision =>
    intro place held member
    have decided := exact.channel_decision member
    exact (decision_of_ne (decision_ne decided)).trans decided
  case channel_nodup => exact exact.channel_nodup
  case channel_holding =>
    intro place held member holder
    exact (holding_ne (decision_ne (exact.channel_decision member))).trans
      (exact.channel_holding member holder)
  case results_decision =>
    intro place held stored
    have decided := exact.results_decision stored
    exact (decision_of_ne (decision_ne decided)).trans decided
  case results_holding =>
    intro place held stored holder
    exact (holding_ne (decision_ne (exact.results_decision stored))).trans
      (exact.results_holding stored holder)
  case results_channel => exact exact.results_channel
  case kept =>
    intro place held decided
    by_cases same : place = slot
    · subst same
      refine .inl ⟨party, ?_⟩
      simpa [setHolding] using decided
    · simpa only [holding_ne same] using
        exact.kept ((decision_of_ne same).symm.trans decided)
  case received_eq => exact exact.received_eq

theorem send (exact : delivery.Exact) (held : delivery.holding slot party = some value) :
    ({ delivery with
        holding := delivery.setHolding slot party none
        channel := delivery.channel ++ [(slot, value)] } : Delivery π V).Exact := by
  have decided := exact.holding_decision held
  have notSent : ∀ other, (slot, other) ∉ delivery.channel := by
    intro other member
    simp [exact.channel_holding member party] at held
  have stillHeld : ∀ {place holder found},
      delivery.setHolding slot party none place holder = some found →
        delivery.holding place holder = some found ∧ place ≠ slot := by
    intro place holder found sent
    rcases setHolding_eq_some sent with ⟨-, -, impossible⟩ | ⟨different, old⟩
    · cases impossible
    · refine ⟨old, ?_⟩
      rintro rfl
      exact different ⟨rfl, exact.holding_unique old held⟩
  have released : ∀ {place holder}, delivery.holding place holder = none →
      delivery.setHolding slot party none place holder = none := by
    intro place holder free
    cases found : delivery.setHolding slot party none place holder with
    | none => rfl
    | some other => simp [(stillHeld found).1] at free
  constructor
  case decision_lt => exact exact.decision_lt
  case holding_decision => exact fun found => exact.holding_decision (stillHeld found).1
  case holding_unique =>
    exact fun found found' => exact.holding_unique (stillHeld found).1 (stillHeld found').1
  case channel_decision =>
    intro place other member
    rcases List.mem_append.mp member with old | new
    · exact exact.channel_decision old
    · cases List.mem_singleton.mp new
      exact decided
  case channel_nodup =>
    rw [List.map_append, List.nodup_append]
    refine ⟨exact.channel_nodup, by simp, ?_⟩
    intro place placeMem other otherMem
    obtain ⟨⟨place, stored⟩, member, rfl⟩ := List.mem_map.mp placeMem
    rintro rfl
    have same : place = slot := by simpa using otherMem
    exact notSent stored (same ▸ member)
  case channel_holding =>
    intro place other member holder
    rcases List.mem_append.mp member with old | new
    · exact released (exact.channel_holding old holder)
    · cases List.mem_singleton.mp new
      cases found : delivery.setHolding slot party none slot holder with
      | none => exact found
      | some kept => exact absurd rfl (stillHeld found).2
  case results_decision => exact exact.results_decision
  case results_holding => exact fun stored holder => released (exact.results_holding stored holder)
  case results_channel =>
    intro place stored other found member
    rcases List.mem_append.mp member with old | new
    · exact exact.results_channel found old
    · cases List.mem_singleton.mp new
      simp [exact.results_holding found party] at held
  case kept =>
    intro place other placeDecided
    rcases exact.kept placeDecided with ⟨holder, found⟩ | sent | stored
    · by_cases mine : place = slot ∧ holder = party
      · obtain ⟨rfl, rfl⟩ := mine
        have same : other = value := Option.some.inj (found.symm.trans held)
        exact .inr (.inl (List.mem_append.mpr (.inr (by simp [same]))))
      · refine .inl ⟨holder, ?_⟩
        unfold setHolding
        by_cases sameSlot : place = slot
        · subst sameSlot
          have otherParty : holder ≠ party := fun equal => mine ⟨rfl, equal⟩
          simpa [otherParty] using found
        · simpa [sameSlot] using found
    · exact .inr (.inl (List.mem_append.mpr (.inl sent)))
    · exact .inr (.inr stored)
  case received_eq => exact exact.received_eq

omit [DecidableEq π] in
theorem receive (exact : delivery.Exact) {rest : List (Nat × V)}
    (channel_eq : delivery.channel = (slot, value) :: rest) :
    ({ delivery with
        channel := rest
        results := Function.update delivery.results slot (some value)
        received := delivery.received + 1 } : Delivery π V).Exact := by
  have head : (slot, value) ∈ delivery.channel := channel_eq ▸ List.mem_cons_self
  have decided := exact.channel_decision head
  have tail : ∀ {place other}, (place, other) ∈ rest → (place, other) ∈ delivery.channel :=
    fun member => channel_eq ▸ List.mem_cons_of_mem _ member
  have nodup := exact.channel_nodup
  rw [channel_eq, List.map_cons, List.nodup_cons] at nodup
  have results_none : delivery.results slot = none := by
    cases stored : delivery.results slot with
    | none => rfl
    | some other => exact absurd head (exact.results_channel stored)
  have stored_or : ∀ {place other},
      Function.update delivery.results slot (some value) place = some other →
        (place = slot ∧ value = other) ∨ (place ≠ slot ∧ delivery.results place = some other) := by
    intro place other stored
    by_cases same : place = slot
    · subst same
      exact .inl ⟨rfl, by simpa using stored⟩
    · exact .inr ⟨same, by simpa [same] using stored⟩
  constructor
  case decision_lt => exact exact.decision_lt
  case holding_decision => exact exact.holding_decision
  case holding_unique => exact exact.holding_unique
  case channel_decision => exact fun member => exact.channel_decision (tail member)
  case channel_nodup => exact nodup.2
  case channel_holding => exact fun member => exact.channel_holding (tail member)
  case results_decision =>
    intro place other stored
    rcases stored_or stored with ⟨rfl, rfl⟩ | ⟨-, old⟩
    · exact decided
    · exact exact.results_decision old
  case results_holding =>
    intro place other stored holder
    rcases stored_or stored with ⟨rfl, rfl⟩ | ⟨-, old⟩
    · exact exact.channel_holding head holder
    · exact exact.results_holding old holder
  case results_channel =>
    intro place stored other found member
    rcases stored_or found with ⟨rfl, rfl⟩ | ⟨-, old⟩
    · exact nodup.1 (List.mem_map.mpr ⟨_, member, rfl⟩)
    · exact exact.results_channel old (tail member)
  case kept =>
    intro place other placeDecided
    rcases exact.kept placeDecided with held | sent | stored
    · exact .inl held
    · rw [channel_eq] at sent
      rcases List.mem_cons.mp sent with same | member
      · cases same
        exact .inr (.inr (Function.update_self _ _ _))
      · exact .inr (.inl member)
    · refine .inr (.inr ?_)
      have other_ne : place ≠ slot := by
        rintro rfl
        simp [results_none] at stored
      simpa [other_ne] using stored
  case received_eq =>
    have new : slot ∉ delivery.filled := by simp [filled, results_none]
    have filled_eq : (Finset.range delivery.slots).filter (fun place =>
          (Function.update delivery.results slot (some value) place).isSome) =
        insert slot delivery.filled := by
      ext place
      by_cases same : place = slot
      · subst same
        simp [exact.decision_lt decided]
      · simp [filled, same]
    change delivery.received + 1 = ((Finset.range delivery.slots).filter (fun place =>
          (Function.update delivery.results slot (some value) place).isSome)).card
    rw [filled_eq, Finset.card_insert_of_notMem new, exact.received_eq]

/-- Every operation keeps the invariant. -/
theorem step (exact : delivery.Exact) {op : Op π V}
    (stepped : next delivery op = some after) : after.Exact := by
  cases op with
  | decide slot party value =>
      simp only [next] at stepped
      split at stepped
      · cases stepped
      · rename_i undecided
        split at stepped
        · rename_i slot_lt
          cases stepped
          exact exact.decide slot_lt undecided
        · cases stepped
  | send slot party =>
      simp only [next] at stepped
      split at stepped
      · cases stepped
      · rename_i value held
        split at stepped
        · cases stepped
          exact exact.send held
        · cases stepped
  | receive =>
      simp only [next] at stepped
      split at stepped
      · cases stepped
      · rename_i slot value rest channel_eq
        cases stepped
        exact exact.receive channel_eq

end Step
end Exact

variable [DecidableEq π] {delivery after : Delivery π V} {op : Op π V}

/-- A decision is final. -/
theorem next_decision (stepped : next delivery op = some after) {slot : Nat} {value : V}
    (decided : delivery.decision slot = some value) : after.decision slot = some value := by
  cases op with
  | decide other party chosen =>
      simp only [next] at stepped
      split at stepped
      · cases stepped
      · rename_i undecided
        split at stepped
        · cases stepped
          have different : slot ≠ other := by
            rintro rfl
            simp [undecided] at decided
          simpa [different] using decided
        · cases stepped
  | send other party | receive =>
      simp only [next] at stepped
      repeat' split at stepped
      all_goals cases stepped
      all_goals exact decided

/-- A stored result is final. -/
theorem next_results (exact : delivery.Exact) (stepped : next delivery op = some after)
    {slot : Nat} {value : V} (stored : delivery.results slot = some value) :
    after.results slot = some value := by
  cases op with
  | decide other party chosen | send other party =>
      simp only [next] at stepped
      repeat' split at stepped
      all_goals cases stepped
      all_goals exact stored
  | receive =>
      simp only [next] at stepped
      split at stepped
      · cases stepped
      · rename_i other found rest channel_eq
        cases stepped
        have different : slot ≠ other := by
          rintro rfl
          exact exact.results_channel stored (channel_eq ▸ List.mem_cons_self)
        simpa [different] using stored

end Delivery
end CheckNetwork.Transition
