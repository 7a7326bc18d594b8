import CheckNetwork.Go.Strings
import Mathlib.Data.Int.ModEq
import Mathlib.Data.Nat.Find
import Mathlib.Tactic.IntervalCases

/-!
# The calendar

Days of the proleptic Gregorian calendar, counted from the first of January of
the year 1, and the texts of instants with the layout
`2006-01-02T15:04:05.000Z`.
-/

namespace CheckNetwork.Go

/-! ## Segments of a scale -/

section Segments

variable {start : Nat → Nat} {last place segment : Nat}

theorem start_findGreatest_le (zero : start 0 ≤ place) (last : Nat) :
    start (Nat.findGreatest (fun index => start index ≤ place) last) ≤ place :=
  @Nat.findGreatest_spec 0 (fun index => start index ≤ place) _ last (Nat.zero_le _) zero

theorem lt_start_findGreatest (below : place < start (last + 1)) :
    place < start (Nat.findGreatest (fun index => start index ≤ place) last + 1) := by
  by_contra reached
  rcases (@Nat.findGreatest_le (fun index => start index ≤ place) _ last).lt_or_eq with
    before | same
  · exact Nat.findGreatest_is_greatest (Nat.lt_succ_self _) before (Nat.not_lt.mp reached)
  · rw [same] at reached
    exact reached below

end Segments

/-! ## Days -/

namespace Calendar

/-- Days in the given number of years from the first of a cycle of 400 years. -/
def daysBefore (years : Nat) : Nat := 365 * years + years / 4 - years / 100 + years / 400

def cycleDays : Nat := 146097

def isLeap (year : Int) : Bool := year % 4 = 0 ∧ (year % 100 ≠ 0 ∨ year % 400 = 0)

/-- Days of the year before its months, from January on. -/
def daysBeforeMonth (leap : Bool) (month : Nat) : Nat :=
  let start := [0, 31, 59, 90, 120, 151, 181, 212, 243, 273, 304, 334, 365].getD month 365
  if leap && 2 ≤ month then start + 1 else start

structure Date where
  year : Int
  month : Nat
  day : Nat
  deriving DecidableEq, Repr

/-- A day of the calendar. -/
structure Date.Valid (date : Date) : Prop where
  month_pos : 1 ≤ date.month
  month_le : date.month ≤ 12
  day_pos : 1 ≤ date.day
  day_le : daysBeforeMonth (isLeap date.year) (date.month - 1) + date.day ≤
    daysBeforeMonth (isLeap date.year) date.month

instance (date : Date) : Decidable date.Valid :=
  decidable_of_iff (1 ≤ date.month ∧ date.month ≤ 12 ∧ 1 ≤ date.day ∧
    daysBeforeMonth (isLeap date.year) (date.month - 1) + date.day ≤
      daysBeforeMonth (isLeap date.year) date.month)
    ⟨fun valid => ⟨valid.1, valid.2.1, valid.2.2.1, valid.2.2.2⟩,
      fun valid => ⟨valid.1, valid.2, valid.3, valid.4⟩⟩

def Date.days (date : Date) : Int :=
  cycleDays * ((date.year - 1) / 400) + daysBefore ((date.year - 1) % 400).toNat +
    daysBeforeMonth (isLeap date.year) (date.month - 1) + (date.day - 1)

def Date.ofDays (days : Int) : Date :=
  let inCycle := (days % cycleDays).toNat
  let years := Nat.findGreatest (fun years => daysBefore years ≤ inCycle) 399
  let year := 400 * (days / cycleDays) + years + 1
  let dayOfYear := inCycle - daysBefore years
  let month := Nat.findGreatest (fun month => daysBeforeMonth (isLeap year) month ≤ dayOfYear) 11
  ⟨year, month + 1, dayOfYear - daysBeforeMonth (isLeap year) month + 1⟩

theorem daysBefore_succ (years : Nat) (inside : years < 400) :
    daysBefore (years + 1) = daysBefore years + daysBeforeMonth (isLeap (years + 1)) 12 := by
  have leap_iff : isLeap ((years : Int) + 1) = true ↔
      (years + 1) % 4 = 0 ∧ ((years + 1) % 100 ≠ 0 ∨ (years + 1) % 400 = 0) := by
    rw [isLeap, decide_eq_true_iff]
    omega
  cases leap : isLeap ((years : Int) + 1) with
  | true =>
      have divides := leap_iff.mp leap
      simp only [daysBefore, daysBeforeMonth, Bool.true_and]
      change _ = _ + 366
      omega
  | false =>
      have fails : ¬ _ := fun divides => Bool.false_ne_true (leap.symm.trans (leap_iff.mpr divides))
      simp only [daysBefore, daysBeforeMonth, Bool.false_and]
      change _ = _ + 365
      omega

theorem isLeap_cycle (cycle : Int) (years : Nat) :
    isLeap (400 * cycle + years + 1) = isLeap (years + 1) := by
  unfold isLeap
  rw [decide_eq_decide]
  omega

theorem monotone_daysBeforeMonth (leap : Bool) : Monotone (daysBeforeMonth leap) := by
  apply monotone_nat_of_le_succ
  intro month
  by_cases late : 12 ≤ month
  · have same : ∀ other, 12 ≤ other → daysBeforeMonth leap other =
        if leap then 366 else 365 := by
      intro other beyond
      unfold daysBeforeMonth
      have tail : [0, 31, 59, 90, 120, 151, 181, 212, 243, 273, 304, 334, 365].getD other 365 =
          365 := by
        rcases beyond.lt_or_eq with past | rfl
        · rw [List.getD_eq_getElem?_getD, List.getElem?_eq_none past]
          rfl
        · rfl
      rw [tail]
      cases leap
      · rfl
      · have two : 2 ≤ other := by omega
        simp [two]
    rw [same month late, same (month + 1) (by omega)]
  · interval_cases month <;> cases leap <;> decide

theorem daysBeforeMonth_zero (leap : Bool) : daysBeforeMonth leap 0 = 0 := by
  cases leap <;> rfl

theorem daysBefore_zero : daysBefore 0 = 0 := rfl

/-- A number is found again from its date, which is valid. -/
theorem days_ofDays (days : Int) : (Date.ofDays days).days = days ∧ (Date.ofDays days).Valid := by
  obtain ⟨cycle, place, inside, rfl⟩ : ∃ (cycle : Int) (place : Nat), place < cycleDays ∧
      days = cycleDays * cycle + place :=
    ⟨days / cycleDays, (days % cycleDays).toNat, by unfold cycleDays; omega,
      by unfold cycleDays; omega⟩
  have quotient : (cycleDays * cycle + place : Int) / cycleDays = cycle := by
    unfold cycleDays at *
    omega
  have remainder : ((cycleDays * cycle + place : Int) % cycleDays).toNat = place := by
    unfold cycleDays at *
    omega
  unfold Date.ofDays
  rw [quotient, remainder]
  dsimp only
  have whole : daysBefore 400 = cycleDays := rfl
  have years_le : Nat.findGreatest (fun index => daysBefore index ≤ place) 399 ≤ 399 :=
    Nat.findGreatest_le _
  have lower := start_findGreatest_le (show daysBefore 0 ≤ place from Nat.zero_le _) 399
  have upper := lt_start_findGreatest (show place < daysBefore (399 + 1) from inside)
  generalize Nat.findGreatest (fun index => daysBefore index ≤ place) 399 = years at *
  have succ := daysBefore_succ years (by omega)
  rw [← isLeap_cycle cycle years] at succ
  generalize leap_eq : isLeap (400 * cycle + years + 1) = leap at *
  have month_le : Nat.findGreatest (fun index => daysBeforeMonth leap index ≤
      place - daysBefore years) 11 ≤ 11 := Nat.findGreatest_le _
  have lowerMonth := start_findGreatest_le
    (show daysBeforeMonth leap 0 ≤ place - daysBefore years by
      rw [daysBeforeMonth_zero]; exact Nat.zero_le _) 11
  have insideYear : place - daysBefore years < daysBeforeMonth leap 12 := by omega
  have upperMonth := @lt_start_findGreatest (daysBeforeMonth leap) 11 _ insideYear
  generalize Nat.findGreatest (fun index => daysBeforeMonth leap index ≤
    place - daysBefore years) 11 = month at *
  have split_cycle : (400 * cycle + years + 1 - 1) / 400 = cycle ∧
      ((400 * cycle + years + 1 - 1) % 400).toNat = years := by omega
  constructor
  · simp only [Date.days, Nat.add_sub_cancel, leap_eq]
    rw [split_cycle.1, split_cycle.2]
    omega
  · constructor
    · exact Nat.le_add_left _ _
    · dsimp only
      omega
    · exact Nat.le_add_left _ _
    · simp only [Nat.add_sub_cancel, leap_eq]
      omega

end Calendar
end CheckNetwork.Go
