import CheckNetwork.Go.Calendar

/-!
# Texts of instants

How `time` writes an instant with the layout `2006-01-02T15:04:05.000Z` and how
it reads such a text: the hour may have one digit and the fraction may follow a
comma.
-/

namespace CheckNetwork.Go

namespace Time

def nanosecondsPerDay : Int := 86400000000000
def nanosecondsPerMillisecond : Int := 1000000

/-- The date in UTC. -/
def date (time : Time) : Calendar.Date :=
  .ofDays (time.nanoseconds / nanosecondsPerDay)

/-- `Year`, in the location of the instant. -/
def year (time : Time) : Int :=
  (Calendar.Date.ofDays ((time.nanoseconds + time.offset * 1000000000) / nanosecondsPerDay)).year

end Time

/-! ## Writing -/

namespace Stamp

def digitChar (value : Nat) : Char := Nat.digitChar (value % 10)

def twoDigits (value : Nat) : List Char := [digitChar (value / 10), digitChar value]

def threeDigits (value : Nat) : List Char := digitChar (value / 100) :: twoDigits value

/-- A year with at least four digits. -/
def yearText (year : Int) : List Char :=
  let digits := if year.natAbs < 10000 then digitChar (year.natAbs / 1000) :: threeDigits year.natAbs
    else (toString year.natAbs).toList
  if year < 0 then '-' :: digits else digits

/-- Milliseconds of the day. -/
def milliseconds (time : Time) : Nat :=
  (time.nanoseconds % Time.nanosecondsPerDay / Time.nanosecondsPerMillisecond).toNat

/-- `Format`, of an instant in UTC. -/
def format (time : Time) : List Char :=
  let clock := milliseconds time
  yearText time.date.year ++ '-' :: (twoDigits time.date.month ++ '-' :: (twoDigits time.date.day ++
    'T' :: (twoDigits (clock / 3600000) ++ ':' :: (twoDigits (clock / 60000 % 60) ++
      ':' :: (twoDigits (clock / 1000 % 60) ++ '.' :: (threeDigits (clock % 1000) ++ ['Z']))))))

/-! ## Reading -/

/-- `getnum`: two digits, or one where the width is not fixed. -/
def getnum (fixed : Bool) : GoString → Option (Nat × GoString)
  | [] => none
  | first :: rest => do
      let tens ← GoString.digit? first
      match rest.head?.bind GoString.digit? with
      | some ones => pure (10 * tens + ones, rest.tail)
      | none => if fixed then none else pure (tens, rest)

/-- A literal of the layout. -/
def literal (char : Char) : GoString → Option GoString
  | [] => none
  | first :: rest => if first = .scalar char then some rest else none

/-- Four digits of a year. -/
def getyear (text : GoString) : Option (Nat × GoString) :=
  if text.length < 4 then none
  else (GoString.decimal? (text.take 4)).map fun year => (year, text.drop 4)

/-- A fraction with its mark. -/
def getfraction : GoString → Option (Nat × GoString)
  | [] => none
  | mark :: rest =>
      if (mark = .scalar '.' ∨ mark = .scalar ',') ∧ 3 ≤ rest.length then
        ((GoString.atoi (rest.take 3)).filter (0 ≤ ·)).map fun value => (value.toNat, rest.drop 3)
      else none

/-- `time.Parse`. -/
def parse (text : GoString) : Option Time := do
  let (year, text) ← getyear text
  let (month, text) ← (literal '-' text).bind (getnum true)
  let (day, text) ← (literal '-' text).bind (getnum true)
  let (hour, text) ← (literal 'T' text).bind (getnum false)
  let (minute, text) ← (literal ':' text).bind (getnum true)
  let (second, text) ← (literal ':' text).bind (getnum true)
  let (millisecond, text) ← getfraction text
  let text ← literal 'Z' text
  let date : Calendar.Date := ⟨year, month, day⟩
  if text = [] ∧ hour < 24 ∧ minute < 60 ∧ second < 60 ∧ date.Valid then
    pure ⟨date.days * Time.nanosecondsPerDay +
      (((hour * 60 + minute) * 60 + second) * 1000 + millisecond : Nat) *
        Time.nanosecondsPerMillisecond, 0⟩
  else none

example : (parse "2024-02-29T7:05:09,250Z").isSome ∧ parse "2023-02-29T07:05:09.250Z" = none := by
  decide

/-! ## Reading what was written -/

section RoundTrip

variable {rest : GoString} {value : Nat}

/-- Text of characters. -/
def spelled (text : List Char) : GoString := text.map .scalar

@[simp]
theorem spelled_cons (char : Char) (text : List Char) :
    spelled (char :: text) = .scalar char :: spelled text := rfl

@[simp]
theorem spelled_append (first second : List Char) :
    spelled (first ++ second) = spelled first ++ spelled second :=
  List.map_append

@[simp]
theorem digit?_digitChar (value : Nat) :
    GoString.digit? (.scalar (digitChar value)) = some (value % 10) := by
  have digits : ∀ digit < 10, GoString.digit? (.scalar (Nat.digitChar digit)) = some digit := by
    decide
  exact digits _ (Nat.mod_lt _ (by decide))

theorem getnum_twoDigits (fixed : Bool) (small : value < 100) :
    getnum fixed (spelled (twoDigits value) ++ rest) = some (value, rest) := by
  have whole : 10 * (value / 10 % 10) + value % 10 = value := by omega
  simp [getnum, twoDigits, spelled, whole]

theorem literal_cons (char : Char) : literal char (.scalar char :: rest) = some rest :=
  if_pos rfl

theorem decimal?_digits (first : Nat) (small : first < 10) (three : value < 1000) :
    GoString.decimal? (spelled (digitChar first :: threeDigits value)) =
      some (1000 * first + value) := by
  have whole : 10 * (10 * (10 * (first % 10) + value / 100 % 10) + value / 10 % 10) + value % 10 =
      1000 * first + value := by omega
  simp [GoString.decimal?, threeDigits, twoDigits, spelled, whole]

theorem getyear_yearText {year : Int} (lower : 0 ≤ year) (upper : year ≤ 9999) :
    getyear (spelled (yearText year) ++ rest) = some (year.toNat, rest) := by
  obtain ⟨year, rfl⟩ := Int.eq_ofNat_of_zero_le lower
  have small : year < 10000 := by omega
  have read := @decimal?_digits (year % 1000) (year / 1000) (by omega) (by omega)
  rw [Nat.div_add_mod] at read
  have same : threeDigits (year % 1000) = threeDigits year := by
    have hundreds : year % 1000 / 100 % 10 = year / 100 % 10 := by omega
    have tens : year % 1000 / 10 % 10 = year / 10 % 10 := by omega
    have ones : year % 1000 % 10 = year % 10 := by omega
    simp only [threeDigits, twoDigits, digitChar, hundreds, tens, ones]
  rw [same] at read
  simp only [yearText, Int.natAbs_natCast, if_pos small, Int.toNat_natCast]
  rw [if_neg (by omega)]
  simp only [threeDigits, twoDigits, spelled, List.map_cons, List.map_nil] at read ⊢
  simp [getyear, read]

theorem day_lt {date : Calendar.Date} (valid : date.Valid) : date.day < 100 := by
  rcases date with ⟨year, month, day⟩
  obtain ⟨month_pos, month_le, _, day_le⟩ := valid
  dsimp only at month_pos month_le day_le ⊢
  have short : ∀ leap, ∀ month ≤ 12, Calendar.daysBeforeMonth leap month ≤
      Calendar.daysBeforeMonth leap (month - 1) + 31 := by decide
  have := short (Calendar.isLeap year) month month_le
  omega

theorem milliseconds_lt (time : Time) : milliseconds time < 86400000 := by
  unfold milliseconds Time.nanosecondsPerDay Time.nanosecondsPerMillisecond
  omega

end RoundTrip

@[simp]
theorem format_utc (time : Time) : format time.utc = format time := rfl

/-! ## The characters of an instant -/

/-- Digits and the marks between them. -/
def isMark (char : Char) : Bool :=
  char.isDigit ∨ char = '-' ∨ char = 'T' ∨ char = ':' ∨ char = '.' ∨ char = 'Z'

theorem isMark_digitChar (value : Nat) : isMark (digitChar value) = true := by
  have digits : ∀ digit < 10, isMark (Nat.digitChar digit) = true := by decide
  exact digits _ (Nat.mod_lt _ (by decide))

theorem all_isMark_twoDigits (value : Nat) : (twoDigits value).all isMark = true := by
  simp [twoDigits, isMark_digitChar]

theorem all_isMark_threeDigits (value : Nat) : (threeDigits value).all isMark = true := by
  simp [threeDigits, all_isMark_twoDigits, isMark_digitChar]

theorem all_isMark_yearText (year : Int) : (yearText year).all isMark = true := by
  have wide : (toString year.natAbs).toList.all isMark = true := by
    rw [List.all_eq_true]
    intro char member
    have digit : char ∈ Nat.toDigits 10 year.natAbs := by simpa using member
    exact decide_eq_true (.inl (Nat.isDigit_of_mem_toDigits (by decide) (by decide) digit))
  unfold yearText
  dsimp only
  split <;> split <;> simp_all [isMark_digitChar, all_isMark_threeDigits] <;> decide

theorem all_isMark_format (time : Time) : (format time).all isMark = true := by
  simp only [format, List.all_append, List.all_cons, all_isMark_yearText, all_isMark_twoDigits,
    all_isMark_threeDigits]
  decide

theorem length_format {time : Time} (lower : 0 ≤ time.date.year) (upper : time.date.year ≤ 9999) :
    (format time).length = 24 := by
  have narrow : (yearText time.date.year).length = 4 := by
    have small : time.date.year.natAbs < 10000 := by omega
    rw [yearText, if_neg (Int.not_lt.mpr lower), if_pos small]
    rfl
  simp [format, narrow, twoDigits, threeDigits]

end Stamp
end CheckNetwork.Go
