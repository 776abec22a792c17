import Containment.Calendar.Timestamp
import Mathlib.Data.List.Basic

namespace Containment

/-! Dates against day numbers, times of day against seconds of the day, and moments against
seconds counted from the start of 1970: each determines the other. -/

namespace Date

def daysInYear (year : Int) : Nat :=
  if isLeapYear year then 366 else 365

theorem daysBeforeYear_succ (year : Int) :
    daysBeforeYear (year + 1) = daysBeforeYear year + daysInYear year := by
  simp only [daysInYear, isLeapYear, daysBeforeYear, Bool.and_eq_true, Bool.or_eq_true,
    beq_iff_eq, bne_iff_ne]
  split <;> omega

theorem daysBeforeYear_mono {year other : Int} (before : year ≤ other) :
    daysBeforeYear year ≤ daysBeforeYear other := by
  simp only [daysBeforeYear]
  omega

theorem yearOfDay_bounds (day : Int) :
    daysBeforeYear (yearOfDay day) ≤ day ∧ day < daysBeforeYear (yearOfDay day + 1) := by
  simp only [yearOfDay]
  split
  case isTrue below =>
    simp only [daysBeforeYear] at below ⊢
    omega
  split
  case isTrue above =>
    simp only [daysBeforeYear] at above ⊢
    omega
  case isFalse below above => omega

theorem yearOfDay_eq {day year : Int} (within : daysBeforeYear year ≤ day)
    (before : day < daysBeforeYear (year + 1)) : yearOfDay day = year := by
  obtain ⟨within', before'⟩ := yearOfDay_bounds day
  rcases Int.lt_trichotomy (yearOfDay day) year with earlier | same | later
  · have := daysBeforeYear_mono (Int.add_one_le_of_lt earlier)
    omega
  · exact same
  · have := daysBeforeYear_mono (Int.add_one_le_of_lt later)
    omega

/-- The days of the listed months before the one at a position. -/
def daysBefore (lengths : List Nat) (position : Nat) : Nat :=
  (lengths.take position).foldl Nat.add 0

theorem foldl_add (lengths : List Nat) (start : Nat) :
    lengths.foldl Nat.add start = start + lengths.foldl Nat.add 0 := by
  induction lengths generalizing start with
  | nil => rfl
  | cons length rest ih =>
      rw [List.foldl_cons, List.foldl_cons, ih (start.add length), ih (Nat.add 0 length)]
      simp only [Nat.add_eq]
      omega

theorem daysBefore_succ (length : Nat) (rest : List Nat) (position : Nat) :
    daysBefore (length :: rest) (position + 1) = length + daysBefore rest position := by
  rw [daysBefore, List.take_succ_cons, List.foldl_cons, foldl_add]
  exact congrArg (· + _) (Nat.zero_add length)

theorem monthAndDay_of_position {lengths : List Nat} {position length day : Nat}
    (found : lengths[position]? = some length) (within : day < length) (month : Nat) :
    monthAndDay lengths month (daysBefore lengths position + day) =
      (month + position, day + 1) := by
  induction lengths generalizing position month with
  | nil => cases found
  | cons first rest ih =>
      cases position with
      | zero =>
          obtain rfl := Option.some.inj found
          have start : daysBefore (first :: rest) 0 + day = day := Nat.zero_add day
          rw [start, monthAndDay, if_pos within]
          rfl
      | succ position =>
          have later : ¬first + daysBefore rest position + day < first := by omega
          have left : first + daysBefore rest position + day - first =
              daysBefore rest position + day := by omega
          rw [daysBefore_succ, monthAndDay, if_neg later, left, ih found]
          congr 1
          omega

theorem exists_position {lengths : List Nat} {day : Nat}
    (within : day < lengths.foldl Nat.add 0) :
    ∃ position length rest, lengths[position]? = some length ∧ rest < length ∧
      day = daysBefore lengths position + rest := by
  induction lengths generalizing day with
  | nil => cases within
  | cons first others ih =>
      by_cases here : day < first
      · exact ⟨0, first, day, rfl, here, (Nat.zero_add day).symm⟩
      · rw [List.foldl_cons, foldl_add, Nat.add_eq, Nat.zero_add] at within
        obtain ⟨position, length, rest, found, short, parts⟩ :=
          ih (show day - first < others.foldl Nat.add 0 by omega)
        refine ⟨position + 1, length, rest, found, short, ?_⟩
        rw [daysBefore_succ]
        omega

theorem daysBefore_add_lt {lengths : List Nat} {position length day : Nat}
    (found : lengths[position]? = some length) (within : day < length) :
    daysBefore lengths position + day < lengths.foldl Nat.add 0 := by
  induction lengths generalizing position with
  | nil => cases found
  | cons first rest ih =>
      rw [List.foldl_cons, foldl_add, Nat.add_eq, Nat.zero_add]
      cases position with
      | zero =>
          obtain rfl := Option.some.inj found
          have start : daysBefore (first :: rest) 0 = 0 := rfl
          omega
      | succ position =>
          have := ih found
          rw [daysBefore_succ]
          omega

theorem sum_monthLengths (year : Int) :
    (monthLengths year).foldl Nat.add 0 = daysInYear year := by
  rw [monthLengths, daysInYear]
  split <;> rfl

/-- The length of the month of a date, and the day within it counted from zero. -/
theorem monthLength (date : Date) :
    (monthLengths date.year)[date.month - 1]? =
        some (daysInMonth date.year date.month) ∧
      date.day - 1 < daysInMonth date.year date.month := by
  obtain ⟨-, month, day⟩ := date.valid
  refine ⟨?_, by omega⟩
  have within : date.month - 1 < (monthLengths date.year).length := by
    change date.month - 1 < 12
    omega
  rw [daysInMonth, List.getD_eq_getElem?_getD, List.getElem?_eq_getElem within]
  rfl

theorem toDayNumber_eq (date : Date) :
    date.toDayNumber = daysBeforeYear date.year +
      (daysBefore (monthLengths date.year) (date.month - 1) + (date.day - 1) : Nat) := by
  have day := date.valid.2.2.1
  rw [toDayNumber, daysBefore]
  omega

theorem ofDayNumber?_eq_some_iff {day : Int} {date : Date} :
    ofDayNumber? day = some date ↔ date.toDayNumber = day := by
  constructor
  · intro found
    obtain ⟨within, before⟩ := yearOfDay_bounds day
    rw [daysBeforeYear_succ, ← sum_monthLengths] at before
    have inYear : (day - daysBeforeYear (yearOfDay day)).toNat <
        (monthLengths (yearOfDay day)).foldl Nat.add 0 := by omega
    obtain ⟨position, length, rest, month, short, parts⟩ := exists_position inYear
    simp only [ofDayNumber?, parts, monthAndDay_of_position month short] at found
    rw [ofParts?] at found
    split at found
    case isFalse => cases found
    obtain rfl := Option.some.inj found
    rw [toDayNumber_eq]
    simp only [Nat.add_sub_cancel, Nat.add_sub_cancel_left]
    omega
  · rintro rfl
    obtain ⟨month, short⟩ := date.monthLength
    have before := daysBefore_add_lt month short
    rw [sum_monthLengths] at before
    have year : yearOfDay date.toDayNumber = date.year := by
      apply yearOfDay_eq
      · rw [toDayNumber_eq]
        omega
      · rw [daysBeforeYear_succ, toDayNumber_eq]
        omega
    have rest : (date.toDayNumber - daysBeforeYear date.year).toNat =
        daysBefore (monthLengths date.year) (date.month - 1) + (date.day - 1) := by
      rw [toDayNumber_eq]
      omega
    have month_eq : 1 + (date.month - 1) = date.month := by
      have := date.valid.2.1
      omega
    have day_eq : date.day - 1 + 1 = date.day := by
      have := date.valid.2.2
      omega
    simp only [ofDayNumber?, year, rest, monthAndDay_of_position month short, month_eq, day_eq,
      ofParts?_parts]

/-- The dates are the days of the supported years, without a gap. -/
theorem exists_toDayNumber_iff {day : Int} :
    (∃ date : Date, date.toDayNumber = day) ↔
      daysBeforeYear (-262143) ≤ day ∧ day < daysBeforeYear 262143 := by
  constructor
  · rintro ⟨date, rfl⟩
    obtain ⟨month, short⟩ := date.monthLength
    have before := daysBefore_add_lt month short
    rw [sum_monthLengths] at before
    have first := daysBeforeYear_mono date.valid.1.1
    have last : daysBeforeYear (date.year + 1) ≤ daysBeforeYear 262143 :=
      daysBeforeYear_mono (Int.add_le_add_right date.valid.1.2 1)
    rw [daysBeforeYear_succ] at last
    rw [toDayNumber_eq]
    omega
  · rintro ⟨first, last⟩
    obtain ⟨within, before⟩ := yearOfDay_bounds day
    have year : -262143 ≤ yearOfDay day ∧ yearOfDay day ≤ 262142 := by
      constructor
      · by_contra earlier
        have := daysBeforeYear_mono (Int.add_one_le_of_lt (Int.lt_of_not_ge earlier))
        omega
      · by_contra later
        have : daysBeforeYear 262143 ≤ daysBeforeYear (yearOfDay day) :=
          daysBeforeYear_mono (Int.add_one_le_of_lt (Int.lt_of_not_ge later))
        omega
    rw [daysBeforeYear_succ, ← sum_monthLengths] at before
    have inYear : (day - daysBeforeYear (yearOfDay day)).toNat <
        (monthLengths (yearOfDay day)).foldl Nat.add 0 := by omega
    obtain ⟨position, length, rest, month, short, parts⟩ := exists_position inYear
    have twelve : position < 12 := (List.getElem?_eq_some_iff.mp month).1
    have length_eq : daysInMonth (yearOfDay day) (position + 1) = length := by
      rw [daysInMonth, List.getD_eq_getElem?_getD, Nat.add_sub_cancel, month]
      rfl
    refine ⟨⟨yearOfDay day, position + 1, rest + 1, year, by omega, ?_⟩, ?_⟩
    · rw [length_eq]
      omega
    · rw [toDayNumber_eq]
      simp only [Nat.add_sub_cancel]
      omega

end Date

namespace Time

def toSecond (time : Time) : Nat :=
  time.hour * 3600 + time.minute * 60 + time.second

theorem toSecond_lt (time : Time) : time.toSecond < 86400 := by
  have valid := time.valid
  rw [toSecond]
  omega

theorem ofSecondOfDay?_eq_some_iff {seconds nanos : Nat} {time : Time} :
    ofSecondOfDay? seconds nanos = some time ↔
      time.toSecond = seconds ∧ time.nanos = nanos ∧ time.Regular := by
  constructor
  · intro found
    rw [ofSecondOfDay?, ofParts?] at found
    split at found
    case isFalse => cases found
    case isTrue made =>
      obtain rfl := Option.some.inj found
      refine ⟨?_, rfl, made.2⟩
      simp only [toSecond]
      omega
  · rintro ⟨rfl, rfl, regular⟩
    obtain ⟨-, minute, second, -⟩ := time.valid
    have hour_eq : time.toSecond / 3600 = time.hour := by
      rw [toSecond]
      omega
    have minute_eq : time.toSecond / 60 % 60 = time.minute := by
      rw [toSecond]
      omega
    have second_eq : time.toSecond % 60 = time.second := by
      rw [toSecond]
      omega
    rw [ofSecondOfDay?, hour_eq, minute_eq, second_eq, ofParts?_parts regular]

theorem exists_toSecond {seconds nanos : Nat} (within : seconds < 86400)
    (plain : nanos < 1000000000) :
    ∃ time : Time, time.toSecond = seconds ∧ time.nanos = nanos := by
  refine ⟨⟨seconds / 3600, seconds / 60 % 60, seconds % 60, nanos, by omega⟩, ?_, rfl⟩
  simp only [toSecond]
  omega

end Time

namespace DateTime

/-- The whole seconds from the start of 1970. -/
def seconds (moment : DateTime) : Int :=
  (moment.date.toDayNumber - epochDay) * 86400 + moment.time.toSecond

theorem ofSeconds?_eq_some_iff {seconds : Int} {nanos : Nat} {moment : DateTime} :
    ofSeconds? seconds nanos = some moment ↔
      moment.seconds = seconds ∧ moment.time.nanos = nanos ∧ moment.time.Regular := by
  obtain ⟨date, time⟩ := moment
  have made : ofSeconds? seconds nanos = some ⟨date, time⟩ ↔
      Date.ofDayNumber? (seconds / 86400 + epochDay) = some date ∧
        Time.ofSecondOfDay? (seconds % 86400).toNat nanos = some time := by
    simp [ofSeconds?, Option.bind_eq_some_iff]
  rw [made, Date.ofDayNumber?_eq_some_iff, Time.ofSecondOfDay?_eq_some_iff, DateTime.seconds]
  have second := time.toSecond_lt
  constructor
  · rintro ⟨day, clock, rfl, regular⟩
    exact ⟨by dsimp only; omega, rfl, regular⟩
  · rintro ⟨rfl, rfl, regular⟩
    exact ⟨by dsimp only; omega, by dsimp only; omega, rfl, regular⟩

def firstSecond : Int := -8334601228800

def lastSecond : Int := 8210266876799

theorem firstDay_eq : Date.daysBeforeYear (-262143) = firstSecond / 86400 + epochDay := by
  decide

theorem lastDay_eq : Date.daysBeforeYear 262143 = lastSecond / 86400 + 1 + epochDay := by
  decide

theorem seconds_within (moment : DateTime) :
    firstSecond ≤ moment.seconds ∧ moment.seconds ≤ lastSecond := by
  have within := Date.exists_toDayNumber_iff.mp ⟨moment.date, rfl⟩
  have second := moment.time.toSecond_lt
  rw [firstDay_eq, lastDay_eq, firstSecond, lastSecond] at within
  rw [seconds, firstSecond, lastSecond]
  omega

/-- Moments without a leap second are the seconds of the supported years, each at any
nanosecond. -/
theorem exists_seconds_iff {seconds : Int} {nanos : Nat} (plain : nanos < billion) :
    (∃ moment : DateTime, moment.seconds = seconds ∧ moment.time.nanos = nanos) ↔
      firstSecond ≤ seconds ∧ seconds ≤ lastSecond := by
  constructor
  · rintro ⟨moment, rfl, -⟩
    exact moment.seconds_within
  · intro within
    have days : Date.daysBeforeYear (-262143) ≤ seconds / 86400 + epochDay ∧
        seconds / 86400 + epochDay < Date.daysBeforeYear 262143 := by
      rw [firstDay_eq, lastDay_eq, firstSecond, lastSecond]
      rw [firstSecond, lastSecond] at within
      omega
    obtain ⟨date, day⟩ := Date.exists_toDayNumber_iff.mpr days
    obtain ⟨time, second, fraction⟩ :=
      Time.exists_toSecond (show (seconds % 86400).toNat < 86400 by omega) plain
    refine ⟨⟨date, time⟩, ?_, fraction⟩
    rw [DateTime.seconds, day, second]
    omega

theorem ofSeconds?_eq_none {seconds : Int}
    (outside : seconds < firstSecond ∨ lastSecond < seconds) (nanos : Nat) :
    ofSeconds? seconds nanos = none := by
  cases made : ofSeconds? seconds nanos with
  | none => rfl
  | some moment =>
      obtain ⟨rfl, -⟩ := ofSeconds?_eq_some_iff.mp made
      have within := moment.seconds_within
      omega

/-- No leap second. -/
def Plain (moment : DateTime) : Prop :=
  moment.time.nanos < billion

instance (moment : DateTime) : Decidable moment.Plain :=
  inferInstanceAs (Decidable (_ < _))

theorem Plain.regular {moment : DateTime} (plain : moment.Plain) : moment.time.Regular :=
  .inl plain

/-- The nanoseconds from the start of 1970. -/
def sinceEpoch (moment : DateTime) : Int :=
  moment.seconds * billion + moment.time.nanos

theorem sinceEpoch_eq_iff {moment : DateTime} (plain : moment.Plain) {seconds : Int}
    {nanos : Nat} (within : nanos < billion) :
    moment.sinceEpoch = seconds * billion + nanos ↔
      moment.seconds = seconds ∧ moment.time.nanos = nanos := by
  rw [Plain] at plain
  rw [billion] at plain within
  rw [sinceEpoch, billion]
  omega

theorem eq_of_seconds {moment other : DateTime} (plain : other.Plain)
    (second : moment.seconds = other.seconds)
    (fraction : moment.time.nanos = other.time.nanos) : moment = other := by
  have plain' : moment.Plain := lt_of_eq_of_lt fraction plain
  have made : ofSeconds? other.seconds other.time.nanos = some other :=
    ofSeconds?_eq_some_iff.mpr ⟨rfl, rfl, plain.regular⟩
  have same := ofSeconds?_eq_some_iff.mpr ⟨second, fraction, plain'.regular⟩
  exact Option.some.inj (same.symm.trans made)

/-- The moments without a leap second are all the nanoseconds of the supported years. -/
theorem exists_sinceEpoch_iff {nanos : Int} :
    (∃ moment : DateTime, moment.Plain ∧ moment.sinceEpoch = nanos) ↔
      firstSecond * billion ≤ nanos ∧ nanos < (lastSecond + 1) * billion := by
  constructor
  · rintro ⟨moment, plain, rfl⟩
    have within := moment.seconds_within
    rw [Plain] at plain
    rw [billion] at plain
    rw [sinceEpoch, billion]
    omega
  · intro within
    have rest : (nanos % billion).toNat < billion := by
      rw [billion]
      omega
    have second : firstSecond ≤ nanos / billion ∧ nanos / billion ≤ lastSecond := by
      rw [billion] at within ⊢
      omega
    obtain ⟨moment, seconds_eq, nanos_eq⟩ := (exists_seconds_iff rest).mpr second
    refine ⟨moment, lt_of_eq_of_lt nanos_eq rest, ?_⟩
    rw [sinceEpoch, seconds_eq, nanos_eq, billion]
    omega

end DateTime

end Containment
