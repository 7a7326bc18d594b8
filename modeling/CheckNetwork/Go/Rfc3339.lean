import CheckNetwork.Go.Stamp

/-!
# Texts of seconds

How `time` writes an instant with the layout `time.RFC3339` and how it reads
such a text: the seconds may have a fraction that the layout does not show, and
the zone is `Z` or an offset.
-/

namespace CheckNetwork.Go

namespace Time

/-- `Truncate(time.Second)`. -/
def truncateSecond (time : Time) : Time :=
  { time with nanoseconds := time.nanoseconds - time.nanoseconds % 1000000000 }

end Time

namespace Rfc3339

open Stamp

/-! ## Writing -/

/-- Seconds of the day. -/
def seconds (time : Time) : Nat :=
  (time.nanoseconds % Time.nanosecondsPerDay / 1000000000).toNat

/-- `Format`, of an instant in UTC. -/
def format (time : Time) : List Char :=
  let clock := seconds time
  yearText time.date.year ++ '-' :: (twoDigits time.date.month ++ '-' :: (twoDigits time.date.day ++
    'T' :: (twoDigits (clock / 3600) ++ ':' :: (twoDigits (clock / 60 % 60) ++
      ':' :: (twoDigits (clock % 60) ++ ['Z'])))))

/-! ## Reading -/

/-- The digits of a fraction after its mark, to nine places. -/
def nanosecondsOf (digits : GoString) : Nat :=
  let shown := digits.take 9
  (GoString.decimal? shown).getD 0 * 10 ^ (9 - shown.length)

/-- A fraction of the seconds that the layout does not ask for. -/
def getfraction : GoString → Nat × GoString
  | mark :: first :: rest =>
      if (mark = .scalar '.' ∨ mark = .scalar ',') ∧ (GoString.digit? first).isSome then
        let digits := (first :: rest).takeWhile fun rune => (GoString.digit? rune).isSome
        (nanosecondsOf digits, (first :: rest).drop digits.length)
      else (0, mark :: first :: rest)
  | text => (0, text)

/-- The offset of a zone, in seconds. -/
def getzone : GoString → Option (Int × GoString)
  | .scalar 'Z' :: rest => some (0, rest)
  | sign :: rest => do
      let (hours, rest) ← getnum true rest
      let (minutes, rest) ← (literal ':' rest).bind (getnum true)
      if hours ≤ 24 ∧ minutes ≤ 60 then
        let offset : Int := ((hours * 60 + minutes) * 60 : Nat)
        if sign = .scalar '+' then pure (offset, rest)
        else if sign = .scalar '-' then pure (-offset, rest)
        else none
      else none
  | [] => none

/-- `time.Parse`. -/
def parse (text : GoString) : Option Time := do
  let (year, text) ← getyear text
  let (month, text) ← (literal '-' text).bind (getnum true)
  let (day, text) ← (literal '-' text).bind (getnum true)
  let (hour, text) ← (literal 'T' text).bind (getnum false)
  let (minute, text) ← (literal ':' text).bind (getnum true)
  let (second, text) ← (literal ':' text).bind (getnum true)
  let (fraction, text) := getfraction text
  let (offset, text) ← getzone text
  let date : Calendar.Date := ⟨year, month, day⟩
  if text = [] ∧ hour < 24 ∧ minute < 60 ∧ second < 60 ∧ date.Valid then
    pure ⟨date.days * Time.nanosecondsPerDay + ((hour * 60 + minute) * 60 + second : Nat) *
      1000000000 + fraction - offset * 1000000000, offset⟩
  else none

example : (parse "2024-02-29T07:05:09.25+09:00").map Time.utc =
    parse "2024-02-28T22:05:09,250Z" := by
  decide

/-! ## Reading what was written -/

section RoundTrip

variable {time : Time}

theorem seconds_lt (time : Time) : seconds time < 86400 := by
  unfold seconds Time.nanosecondsPerDay
  omega

/-- An instant of the first 9999 years is read back to the second. -/
theorem parse_format (lower : 0 ≤ time.date.year) (upper : time.date.year ≤ 9999) :
    parse (spelled (format time)) = some time.truncateSecond.utc := by
  obtain ⟨days_eq, valid⟩ : time.date.days = time.nanoseconds / Time.nanosecondsPerDay ∧
      time.date.Valid := Calendar.days_ofDays _
  have below := seconds_lt time
  have hour : seconds time / 3600 < 24 := by omega
  have minute : seconds time / 60 % 60 < 60 := Nat.mod_lt _ (by decide)
  have second : seconds time % 60 < 60 := Nat.mod_lt _ (by decide)
  have whole : (seconds time / 3600 * 60 + seconds time / 60 % 60) * 60 + seconds time % 60 =
      seconds time := by
    omega
  have sum : time.nanoseconds / Time.nanosecondsPerDay * Time.nanosecondsPerDay +
      (seconds time : Int) * 1000000000 = time.truncateSecond.nanoseconds := by
    unfold seconds Time.truncateSecond Time.nanosecondsPerDay
    dsimp only
    omega
  have date_eq : (⟨(time.date.year.toNat : Int), time.date.month, time.date.day⟩ : Calendar.Date) =
      time.date := by
    rw [Int.toNat_of_nonneg lower]
  have zone : getfraction (.scalar 'Z' :: spelled []) = (0, .scalar 'Z' :: spelled []) := rfl
  have utc : getzone (.scalar 'Z' :: spelled []) = some (0, []) := rfl
  simp only [parse, format, spelled_append, spelled_cons, getyear_yearText lower upper,
    Option.bind_eq_bind, Option.bind_some, literal_cons,
    getnum_twoDigits true (lt_of_le_of_lt valid.month_le (by decide : 12 < 100)),
    getnum_twoDigits true (day_lt valid), getnum_twoDigits false (hour.trans (by decide)),
    getnum_twoDigits true (minute.trans (by decide)),
    getnum_twoDigits true (second.trans (by decide))]
  rw [zone]
  dsimp only
  rw [utc, Option.bind_some]
  dsimp only
  rw [date_eq, whole, days_eq, sum, if_pos ⟨rfl, hour, minute, second, valid⟩]
  simp [Time.utc, Time.truncateSecond]

@[simp]
theorem date_truncateSecond (time : Time) : time.truncateSecond.date = time.date := by
  unfold Time.date Time.truncateSecond Time.nanosecondsPerDay
  dsimp only
  congr 1
  omega

@[simp]
theorem format_truncateSecond (time : Time) : format time.truncateSecond = format time := by
  have clock : seconds time.truncateSecond = seconds time := by
    unfold seconds Time.truncateSecond Time.nanosecondsPerDay
    dsimp only
    congr 1
    omega
  rw [format, clock, date_truncateSecond, format]

@[simp]
theorem format_utc (time : Time) : format time.utc = format time := rfl

/-- A sign is no year. -/
theorem getyear_dash (rest : GoString) : getyear (.scalar '-' :: rest) = none := by
  have unread : ∀ text : GoString, GoString.decimal? (.scalar '-' :: text) = none := fun _ => rfl
  unfold getyear
  split
  · rfl
  · rw [List.take_succ_cons, unread]
    rfl

/-- A year with a sign or more than four digits is not followed by a dash. -/
theorem getyear_of_wide {year : Int} (wide : year < 0 ∨ 9999 < year) (rest : GoString) :
    ((getyear (spelled (yearText year) ++ rest)).bind fun read => literal '-' read.2) = none := by
  by_cases negative : year < 0
  · rw [yearText, if_pos negative, spelled_cons, List.cons_append, getyear_dash]
    rfl
  · have large : ¬year.natAbs < 10000 := by omega
    have digits_eq : yearText year = Nat.toDigits 10 year.natAbs := by
      rw [yearText, if_neg negative, if_neg large, Nat.toString_eq_ofList_toDigits,
        String.toList_ofList]
    have long : 4 < (Nat.toDigits 10 year.natAbs).length := by
      rw [← Nat.not_le, Nat.length_toDigits_le_iff (by decide) (by decide)]
      exact large
    rw [digits_eq]
    generalize digits_eq' : Nat.toDigits 10 year.natAbs = digits at long
    have fifth : ∃ digit tail, digits.drop 4 = digit :: tail ∧ digit.isDigit = true := by
      refine ⟨digits[4], digits.drop 5, List.drop_eq_getElem_cons long, ?_⟩
      apply Nat.isDigit_of_mem_toDigits (b := 10) (n := year.natAbs) (by decide) (by decide)
      rw [digits_eq']
      exact List.getElem_mem long
    obtain ⟨digit, tail, drop_eq, isDigit⟩ := fifth
    have rest_eq : (spelled digits ++ rest).drop 4 = .scalar digit :: (spelled tail ++ rest) := by
      rw [List.drop_append_of_le_length (by rw [spelled, List.length_map]; omega), spelled,
        ← List.map_drop, drop_eq]
      rfl
    have different : Rune.scalar digit ≠ .scalar '-' := by
      intro same
      cases same
      exact absurd isDigit (by decide)
    unfold getyear
    split
    · rfl
    · cases GoString.decimal? ((spelled digits ++ rest).take 4) with
      | none => rfl
      | some value =>
          rw [Option.map_some, Option.bind_some]
          dsimp only
          rw [rest_eq, literal, if_neg different]

/-- An instant outside of the first 9999 years is not read back. -/
theorem parse_format_of_wide (wide : time.date.year < 0 ∨ 9999 < time.date.year) :
    parse (spelled (format time)) = none := by
  have unread := getyear_of_wide wide (.scalar '-' :: spelled (twoDigits time.date.month ++ '-' ::
    (twoDigits time.date.day ++ 'T' :: (twoDigits (seconds time / 3600) ++ ':' ::
      (twoDigits (seconds time / 60 % 60) ++ ':' :: (twoDigits (seconds time % 60) ++ ['Z']))))))
  rw [← spelled_cons, ← spelled_append] at unread
  change ((getyear (spelled (format time))).bind fun read => literal '-' read.2) = none at unread
  unfold parse
  cases read : getyear (spelled (format time)) with
  | none => rfl
  | some read =>
      rw [read, Option.bind_some] at unread
      simp only [Option.bind_eq_bind, Option.bind_some, unread, Option.bind_none]

end RoundTrip

end Rfc3339
end CheckNetwork.Go
