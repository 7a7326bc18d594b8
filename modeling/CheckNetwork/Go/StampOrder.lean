import CheckNetwork.Go.Stamp
import Mathlib

/-!
# The order of the texts of instants

The texts of instants of the first 9999 years are ordered as the instants are.
-/

namespace CheckNetwork.Go

/-! ## Dates -/

namespace Calendar

/-- Days before a year. -/
def yearStart (year : Int) : Int :=
  cycleDays * ((year - 1) / 400) + daysBefore ((year - 1) % 400).toNat

theorem yearStart_succ (year : Int) :
    yearStart (year + 1) = yearStart year + daysBeforeMonth (isLeap year) 12 := by
  obtain ⟨cycle, years, inside, rfl⟩ : ∃ (cycle : Int) (years : Nat), years < 400 ∧
      year = 400 * cycle + years + 1 :=
    ⟨(year - 1) / 400, ((year - 1) % 400).toNat, by omega, by omega⟩
  have succ := daysBefore_succ years inside
  rw [← isLeap_cycle cycle years] at succ
  have start : (400 * cycle + years + 1 - 1) / 400 = cycle ∧
      ((400 * cycle + years + 1 - 1) % 400).toNat = years := by omega
  have whole : daysBefore 400 = cycleDays := rfl
  rw [yearStart, yearStart, start.1, start.2]
  by_cases last : years = 399
  · have next : (400 * cycle + years + 1 + 1 - 1) / 400 = cycle + 1 ∧
        ((400 * cycle + years + 1 + 1 - 1) % 400).toNat = 0 := by omega
    have end_ : daysBefore (years + 1) = cycleDays := by rw [last, ← whole]
    rw [next.1, next.2, daysBefore_zero, Int.mul_add, ← end_]
    omega
  · have next : (400 * cycle + years + 1 + 1 - 1) / 400 = cycle ∧
        ((400 * cycle + years + 1 + 1 - 1) % 400).toNat = years + 1 := by omega
    rw [next.1, next.2]
    omega

theorem monotone_yearStart : Monotone yearStart := by
  apply monotone_int_of_le_succ
  intro year
  rw [yearStart_succ]
  omega

theorem days_eq (date : Date) : date.days =
    yearStart date.year + daysBeforeMonth (isLeap date.year) (date.month - 1) + (date.day - 1) := rfl

/-- Earlier days have smaller dates. -/
theorem lex_of_days_le {date other : Date} (valid : date.Valid) (valid' : other.Valid)
    (le : date.days ≤ other.days) : date.year < other.year ∨ date.year = other.year ∧
      (date.month < other.month ∨ date.month = other.month ∧ date.day ≤ other.day) := by
  have bounds : ∀ {date : Date}, date.Valid → yearStart date.year ≤ date.days ∧
      date.days < yearStart (date.year + 1) := by
    intro date valid
    have months := monotone_daysBeforeMonth (isLeap date.year) valid.month_le
    have first := valid.day_pos
    have last := valid.day_le
    rw [days_eq, yearStart_succ]
    omega
  rcases lt_trichotomy date.year other.year with before | same | after
  · exact .inl before
  · refine .inr ⟨same, ?_⟩
    rw [days_eq, days_eq, same] at le
    have first := valid.day_pos
    have last' := valid'.day_le
    have pos := valid.month_pos
    have pos' := valid'.month_pos
    rcases lt_trichotomy date.month other.month with before | equal | after
    · exact .inl before
    · rw [equal] at le
      exact .inr ⟨equal, by omega⟩
    · have months := monotone_daysBeforeMonth (isLeap other.year)
        (by omega : other.month ≤ date.month - 1)
      omega
  · have years := monotone_yearStart (by omega : other.year + 1 ≤ date.year)
    have := (bounds valid).1
    have := (bounds valid').2
    omega

end Calendar

/-! ## Texts -/

namespace Stamp

/-- A text that comes before another one, whatever follows. -/
def Below (first second : List Char) : Prop :=
  ∀ rest rest' : List Char, first ++ rest < second ++ rest'

theorem digitChar_lt {digit other : Nat} (less : digit < other) (small : other < 10) :
    digitChar digit < digitChar other := by
  have table : ∀ other < 10, ∀ digit < other, digitChar digit < digitChar other := by decide
  exact table other small digit less

theorem below_cons {first second : Char} (less : first < second) (rest rest' : List Char) :
    Below (first :: rest) (second :: rest') :=
  fun _ _ => List.cons_lt_cons_iff.mpr (.inl less)

theorem Below.cons {first second : List Char} (below : Below first second) (char : Char) :
    Below (char :: first) (char :: second) :=
  fun rest rest' => List.cons_lt_cons_iff.mpr (.inr ⟨rfl, below rest rest'⟩)

theorem below_twoDigits {value other : Nat} (less : value < other) (small : other < 100) :
    Below (twoDigits value) (twoDigits other) := by
  rcases Nat.lt_or_ge (value / 10) (other / 10) with tens | tens
  · exact below_cons (digitChar_lt tens (by omega)) _ _
  · have same : value / 10 = other / 10 := by omega
    have units : value % 10 < other % 10 := by omega
    have char : ∀ number, digitChar number = digitChar (number % 10) := fun number => by
      rw [digitChar, digitChar, Nat.mod_mod]
    rw [twoDigits, twoDigits, same, char value, char other]
    exact (below_cons (digitChar_lt units (by omega)) _ _).cons _

theorem below_threeDigits {value other : Nat} (less : value < other) (small : other < 1000) :
    Below (threeDigits value) (threeDigits other) := by
  have char : ∀ number, twoDigits number = twoDigits (number % 100) := fun number => by
    rw [twoDigits, twoDigits, digitChar, digitChar, digitChar, digitChar,
      show number % 100 / 10 % 10 = number / 10 % 10 by omega,
      show number % 100 % 10 = number % 10 by omega]
  rcases Nat.lt_or_ge (value / 100) (other / 100) with hundreds | hundreds
  · exact below_cons (digitChar_lt hundreds (by omega)) _ _
  · have same : value / 100 = other / 100 := by omega
    have rest : value % 100 < other % 100 := by omega
    rw [threeDigits, threeDigits, same, char value, char other]
    exact (below_twoDigits rest (by omega)).cons _

theorem below_yearText {year other : Int} (less : year < other) (lower : 0 ≤ year)
    (upper : other ≤ 9999) : Below (yearText year) (yearText other) := by
  have written : ∀ year : Int, 0 ≤ year → year ≤ 9999 →
      yearText year = digitChar (year.natAbs / 1000) :: threeDigits (year.natAbs % 1000) := by
    intro year lower upper
    have small : year.natAbs < 10000 := by omega
    have digits : threeDigits (year.natAbs % 1000) = threeDigits year.natAbs := by
      simp only [threeDigits, twoDigits, digitChar]
      rw [show year.natAbs % 1000 / 100 % 10 = year.natAbs / 100 % 10 by omega,
        show year.natAbs % 1000 / 10 % 10 = year.natAbs / 10 % 10 by omega,
        show year.natAbs % 1000 % 10 = year.natAbs % 10 by omega]
    rw [yearText, if_neg (Int.not_lt.mpr lower), if_pos small, digits]
  rw [written year lower (by omega), written other (by omega) upper]
  rcases Nat.lt_or_ge (year.natAbs / 1000) (other.natAbs / 1000) with thousands | thousands
  · exact below_cons (digitChar_lt thousands (by omega)) _ _
  · have same : year.natAbs / 1000 = other.natAbs / 1000 := by omega
    rw [same]
    exact (below_threeDigits (by omega) (Nat.mod_lt _ (by decide))).cons _

theorem append_not_lt {first second rest rest' : List Char}
    (parts : Below first second ∨ first = second ∧ ¬ rest' < rest) :
    ¬ second ++ rest' < first ++ rest := by
  rcases parts with below | ⟨rfl, notLess⟩
  · exact fun less => List.lt_irrefl _ (List.lt_trans (below rest rest') less)
  · induction first with
    | nil => exact notLess
    | cons head tail ih =>
        rw [List.cons_append, List.cons_append, List.cons_lt_cons_self]
        exact ih

theorem cons_not_lt {rest rest' : List Char} (char : Char) (notLess : ¬ rest' < rest) :
    ¬ char :: rest' < char :: rest :=
  @append_not_lt [char] [char] rest rest' (.inr ⟨rfl, notLess⟩)

/-- Later milliseconds of a day have a greater clock. -/
theorem lex_of_clock_le {clock other : Nat} (le : clock ≤ other) :
    clock / 3600000 < other / 3600000 ∨ clock / 3600000 = other / 3600000 ∧
      (clock / 60000 % 60 < other / 60000 % 60 ∨ clock / 60000 % 60 = other / 60000 % 60 ∧
        (clock / 1000 % 60 < other / 1000 % 60 ∨ clock / 1000 % 60 = other / 1000 % 60 ∧
          clock % 1000 ≤ other % 1000)) := by
  omega

theorem milliseconds_le {time other : Time} (le : time.nanoseconds ≤ other.nanoseconds)
    (same : time.date.days = other.date.days) : milliseconds time ≤ milliseconds other := by
  have days : ∀ time : Time, time.date.days = time.nanoseconds / Time.nanosecondsPerDay :=
    fun time => (Calendar.days_ofDays _).1
  rw [days, days] at same
  unfold milliseconds Time.nanosecondsPerMillisecond
  unfold Time.nanosecondsPerDay at same ⊢
  omega

/-- The texts are ordered as the instants. -/
theorem format_not_lt {time other : Time} (le : time.nanoseconds ≤ other.nanoseconds)
    (lower : 0 ≤ time.date.year) (upper : other.date.year ≤ 9999) :
    ¬ format other < format time := by
  have valid : ∀ time : Time, time.date.days = time.nanoseconds / Time.nanosecondsPerDay ∧
      time.date.Valid := fun time => Calendar.days_ofDays _
  have days_le : time.date.days ≤ other.date.days := by
    rw [(valid time).1, (valid other).1]
    exact Int.ediv_le_ediv (by decide) le
  have clock := milliseconds_lt other
  have month_lt : other.date.month < 100 := by
    have := (valid other).2.month_le
    omega
  have day_lt' := day_lt (valid other).2
  have times : ∀ time other : Time, milliseconds time ≤ milliseconds other →
      milliseconds other < 86400000 →
      ¬ twoDigits (milliseconds other / 3600000) ++
        ':' :: (twoDigits (milliseconds other / 60000 % 60) ++
          ':' :: (twoDigits (milliseconds other / 1000 % 60) ++
            '.' :: (threeDigits (milliseconds other % 1000) ++ ['Z']))) <
      twoDigits (milliseconds time / 3600000) ++ ':' :: (twoDigits (milliseconds time / 60000 % 60) ++
        ':' :: (twoDigits (milliseconds time / 1000 % 60) ++
          '.' :: (threeDigits (milliseconds time % 1000) ++ ['Z']))) := by
    intro time other le small
    refine append_not_lt ((lex_of_clock_le le).imp (fun less => below_twoDigits less (by omega))
      (And.imp (congrArg twoDigits) fun minutes => cons_not_lt _ (append_not_lt (minutes.imp
        (fun less => below_twoDigits less (by omega)) (And.imp (congrArg twoDigits)
          fun seconds => cons_not_lt _ (append_not_lt (seconds.imp
            (fun less => below_twoDigits less (by omega)) (And.imp (congrArg twoDigits)
              fun last => cons_not_lt _ ?_))))))))
    rcases last.lt_or_eq with less | same
    · exact append_not_lt (.inl (below_threeDigits less (Nat.mod_lt _ (by decide))))
    · rw [same]
      exact List.lt_irrefl _
  rw [format, format]
  rcases Calendar.lex_of_days_le (valid time).2 (valid other).2 days_le with
    year | ⟨year, month | ⟨month, day⟩⟩
  · exact append_not_lt (.inl (below_yearText year lower upper))
  · exact append_not_lt (.inr ⟨congrArg yearText year,
      cons_not_lt _ (append_not_lt (.inl (below_twoDigits month month_lt)))⟩)
  · refine append_not_lt (.inr ⟨congrArg yearText year, cons_not_lt _ (append_not_lt (.inr
      ⟨congrArg twoDigits month, cons_not_lt _ ?_⟩))⟩)
    rcases day.lt_or_eq with less | same
    · exact append_not_lt (.inl (below_twoDigits less day_lt'))
    · refine append_not_lt (.inr ⟨congrArg twoDigits same, cons_not_lt _ (times time other ?_ clock)⟩)
      apply milliseconds_le le
      rw [Calendar.days_eq, Calendar.days_eq, year, month, same]

end Stamp
end CheckNetwork.Go
