import Mathlib

/-!
# Fixed windows

Events in the order of their times fall into windows of one span: a window
starts at the first event outside of the one before.  An interval that is not
longer than the span meets the events of two windows at most.
-/

namespace CheckNetwork.Transition

universe u

variable {T : Type u} [AddCommGroup T] [LinearOrder T]

/-- The events of a window, in the order of their times. -/
structure Window (T : Type u) where
  started : T
  later : List T
  deriving DecidableEq

namespace Window

def times (window : Window T) : List T := window.started :: window.later

def count (window : Window T) : Nat := window.times.length

/-- The windows after one more event, the newest first. -/
def extend (span : T) (windows : List (Window T)) (time : T) : List (Window T) :=
  match windows with
  | [] => [⟨time, []⟩]
  | newest :: older =>
      if span ≤ time - newest.started then ⟨time, []⟩ :: newest :: older
      else ⟨newest.started, newest.later ++ [time]⟩ :: older

/-- The windows of events, the newest first. -/
def windows (span : T) (times : List T) : List (Window T) := times.foldl (extend span) []

variable {span : T}

theorem windows_append (times : List T) (time : T) :
    windows span (times ++ [time]) = extend span (windows span times) time := by
  rw [windows, List.foldl_append]
  rfl

omit [AddCommGroup T] [LinearOrder T] in
theorem countP_times_le (window : Window T) (test : T → Bool) :
    window.times.countP test ≤ window.count := List.countP_le_length

/-- Windows whose events lie within a span of their starts, each of which starts
after the span of the one before has passed. -/
structure Spaced (span : T) (windows : List (Window T)) : Prop where
  within : ∀ window ∈ windows, ∀ time ∈ window.times,
    window.started ≤ time ∧ time < window.started + span
  apart : windows.Pairwise fun newer older => older.started + span ≤ newer.started

theorem mem_times_of_mem_windows {times : List T} :
    ∀ window ∈ windows span times, ∀ time ∈ window.times, time ∈ times := by
  induction times using List.reverseRecOn with
  | nil => exact fun _ member => (by cases member)
  | append_singleton earlier time ih =>
      have old : ∀ window ∈ windows span earlier, ∀ found ∈ window.times,
          found ∈ earlier ++ [time] := fun window member found inside =>
        List.mem_append_left _ (ih window member found inside)
      rw [windows_append]
      unfold extend
      cases formed : windows span earlier with
      | nil => simp [Window.times]
      | cons newest older =>
          rw [formed, List.forall_mem_cons] at old
          dsimp only
          split
          · simp only [List.forall_mem_cons]
            exact ⟨by simp [Window.times], old⟩
          · rw [List.forall_mem_cons]
            refine ⟨?_, old.2⟩
            intro found inside
            rw [Window.times, ← List.cons_append, List.mem_append] at inside
            rcases inside with inside | last
            · exact old.1 found inside
            · exact List.mem_append_right _ last

/-- How many of the events lie in an interval is how many of each window do. -/
theorem countP_windows (test : T → Bool) (times : List T) :
    times.countP test = ((windows span times).map fun window => window.times.countP test).sum := by
  induction times using List.reverseRecOn with
  | nil => rfl
  | append_singleton earlier time ih =>
      rw [List.countP_append, ih, windows_append]
      unfold extend
      cases windows span earlier with
      | nil => simp [Window.times]
      | cons newest older =>
          dsimp only
          split
          · simp [Window.times, Nat.add_comm]
          · simp only [List.map_cons, List.sum_cons, Window.times, ← List.cons_append,
              List.countP_append]
            omega

theorem Spaced.tail {newest : Window T} {older : List (Window T)}
    (spaced : Spaced span (newest :: older)) : Spaced span older :=
  ⟨fun window member => spaced.within window (List.mem_cons_of_mem _ member),
    (List.pairwise_cons.mp spaced.apart).2⟩

/-- A window after which no older one meets the interval. -/
theorem sum_older_eq_zero {newest : Window T} {older : List (Window T)} {start : T}
    (spaced : Spaced span (newest :: older)) (started : newest.started ≤ start) {test : T → Bool}
    (tests : ∀ time, test time = true → start ≤ time) :
    (older.map fun window => window.times.countP test).sum = 0 := by
  apply List.sum_eq_zero
  intro number member
  obtain ⟨window, inside, rfl⟩ := List.mem_map.mp member
  rw [List.countP_eq_zero]
  intro time found passes
  have apart := (List.pairwise_cons.mp spaced.apart).1 window inside
  have within := (spaced.within window (List.mem_cons_of_mem _ inside) time found).2
  exact absurd (tests time passes) (not_le.mpr (within.trans_le (apart.trans started)))

variable [IsOrderedAddMonoid T]

/-- The windows of events in order. -/
theorem spaced_windows (positive : 0 < span) {times : List T}
    (ordered : times.Pairwise (· ≤ ·)) : Spaced span (windows span times) := by
  induction times using List.reverseRecOn with
  | nil => exact ⟨fun _ member => (by cases member), .nil⟩
  | append_singleton earlier time ih =>
      rw [List.pairwise_append] at ordered
      obtain ⟨earlierOrdered, _, before⟩ := ordered
      have spaced := ih earlierOrdered
      have inside := @mem_times_of_mem_windows T _ _ span earlier
      have alone : time ≤ time ∧ time < time + span := ⟨le_refl time, lt_add_of_pos_right time positive⟩
      rw [windows_append]
      unfold extend
      cases formed : windows span earlier with
      | nil => exact ⟨by simpa [Window.times] using positive, List.pairwise_singleton _ _⟩
      | cons newest older =>
          rw [formed] at spaced inside
          have started_le : newest.started ≤ time :=
            before _ (inside newest List.mem_cons_self _ List.mem_cons_self) time
              (List.mem_singleton.mpr rfl)
          obtain ⟨within, apart⟩ := spaced
          rw [List.forall_mem_cons] at within
          rw [List.pairwise_cons] at apart
          dsimp only
          split
          · rename_i passed
            rw [le_sub_iff_add_le'] at passed
            refine ⟨?_, ?_⟩
            · rw [List.forall_mem_cons, List.forall_mem_cons]
              exact ⟨by simpa [Window.times] using positive, within⟩
            · rw [List.pairwise_cons, List.forall_mem_cons, List.pairwise_cons]
              refine ⟨⟨passed, fun other member => ?_⟩, apart⟩
              have older_le := apart.1 other member
              exact older_le.trans started_le
          · rename_i running
            rw [not_le, sub_lt_iff_lt_add'] at running
            refine ⟨?_, ?_⟩
            · rw [List.forall_mem_cons]
              refine ⟨fun found member => ?_, within.2⟩
              rw [Window.times, ← List.cons_append, List.mem_append] at member
              rcases member with member | last
              · exact within.1 found member
              · rw [List.mem_singleton.mp last]
                exact ⟨started_le, running⟩
            · exact List.pairwise_cons.mpr apart

/-- An interval of the span meets the events of two windows at most. -/
theorem countP_le_twice {windows : List (Window T)} (spaced : Spaced span windows)
    {limit : Nat} (limited : ∀ window ∈ windows, window.count ≤ limit) {start : T} {test : T → Bool}
    (tests : ∀ time, test time = true → start ≤ time ∧ time ≤ start + span) :
    (windows.map fun window => window.times.countP test).sum ≤ 2 * limit := by
  induction windows with
  | nil => exact Nat.zero_le _
  | cons newest older ih =>
      rw [List.forall_mem_cons] at limited
      rw [List.map_cons, List.sum_cons]
      have newest_le := (newest.countP_times_le test).trans limited.1
      by_cases meets : newest.times.countP test = 0
      · rw [meets, Nat.zero_add]
        exact ih spaced.tail limited.2
      · -- the start of the newest window is not after the end of the interval
        obtain ⟨time, found, passes⟩ := List.countP_pos_iff.mp (Nat.pos_of_ne_zero meets)
        have started_le : newest.started ≤ start + span :=
          (spaced.within newest List.mem_cons_self time found).1.trans (tests time passes).2
        cases older with
        | nil =>
            rw [List.map_nil, List.sum_nil]
            omega
        | cons second rest =>
            have apart := (List.pairwise_cons.mp spaced.apart).1 second List.mem_cons_self
            have second_le : second.started ≤ start :=
              le_of_add_le_add_right (apart.trans started_le)
            have rest_eq := sum_older_eq_zero spaced.tail second_le fun time passes =>
              (tests time passes).1
            have count_le := (second.countP_times_le test).trans
              (limited.2 second List.mem_cons_self)
            rw [List.map_cons, List.sum_cons, rest_eq]
            omega

end Window

end CheckNetwork.Transition
