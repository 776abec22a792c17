import Containment.Calendar.Time
import Containment.Proofs.Text.Digits

namespace Containment

open Text Decimal

/-! The texts of dates and times determine them, but for leap seconds inside a minute: these are
shown as the second after. -/

attribute [local instance(1100)] instPowNat

namespace Date

theorem daysInMonth_le (year : Int) (month : Nat) : daysInMonth year month ≤ 31 := by
  have all : ∀ length ∈ monthLengths year, length ≤ 31 := by
    intro length mem
    simp only [monthLengths, List.mem_cons, List.not_mem_nil, or_false] at mem
    split at mem <;> omega
  rw [daysInMonth, List.getD_eq_getElem?_getD]
  cases found : (monthLengths year)[month - 1]? with
  | none => exact Nat.zero_le 31
  | some length => exact all length (List.mem_of_getElem? found)

theorem yearChars_cases (year : Int) :
    (0 ≤ year ∧ yearChars year = padded 4 year.natAbs) ∨
      (year < 0 ∧ yearChars year = '-' :: padded 4 year.natAbs) ∨
      (9999 < year ∧ yearChars year = '+' :: padded 4 year.natAbs) := by
  unfold yearChars
  dsimp only
  split
  · exact .inl ⟨by omega, rfl⟩
  · split
    · exact .inr (.inl ⟨by omega, rfl⟩)
    · exact .inr (.inr ⟨by omega, rfl⟩)

theorem padded_ne_sign {width n : Nat} {sign : Char} {text : List Char}
    (noDigit : sign.isDigit = false) : padded width n ≠ sign :: text := by
  intro same
  have digit := isDigit_of_mem_padded (c := sign) (by rw [same]; simp)
  exact ne_of_isDigit digit noDigit rfl

theorem yearChars_injective {year other : Int} (same : yearChars year = yearChars other) :
    year = other := by
  rcases yearChars_cases year with ⟨sign, shown⟩ | ⟨sign, shown⟩ | ⟨sign, shown⟩ <;>
    rcases yearChars_cases other with ⟨sign', shown'⟩ | ⟨sign', shown'⟩ | ⟨sign', shown'⟩ <;>
    rw [shown, shown'] at same
  · have := padded_injective same
    omega
  · exact absurd same (padded_ne_sign rfl)
  · exact absurd same (padded_ne_sign rfl)
  · exact absurd same.symm (padded_ne_sign rfl)
  · have := padded_injective (List.cons.inj same).2
    omega
  · exact absurd (List.cons.inj same).1 (by decide)
  · exact absurd same.symm (padded_ne_sign rfl)
  · exact absurd (List.cons.inj same).1 (by decide)
  · have := padded_injective (List.cons.inj same).2
    omega

theorem renderChars_injective {date other : Date} (same : date.renderChars = other.renderChars) :
    date = other := by
  have twoDigits : ∀ (date : Date), (padded 2 date.month).length = 2 ∧
      (padded 2 date.day).length = 2 := by
    intro date
    have days := daysInMonth_le date.year date.month
    have valid := date.valid
    exact ⟨length_padded_of_lt (by decide) (by omega), length_padded_of_lt (by decide) (by omega)⟩
  have widths := twoDigits date
  have widths' := twoDigits other
  unfold renderChars at same
  obtain ⟨front, days⟩ := List.append_inj' same (by simp [widths.2, widths'.2])
  obtain ⟨years, months⟩ := List.append_inj' front (by simp [widths.1, widths'.1])
  have sameDay := padded_injective (List.cons.inj days).2
  have sameMonth := padded_injective (List.cons.inj months).2
  have sameYear := yearChars_injective years
  cases date
  cases other
  simp only at sameDay sameMonth sameYear
  subst sameDay sameMonth sameYear
  rfl

theorem mem_renderChars {date : Date} {c : Char} (mem : c ∈ date.renderChars) :
    c.isDigit = true ∨ c = '-' ∨ c = '+' := by
  have yearDigits : ∀ c ∈ yearChars date.year, c.isDigit = true ∨ c = '-' ∨ c = '+' := by
    intro c mem
    rcases yearChars_cases date.year with ⟨-, shown⟩ | ⟨-, shown⟩ | ⟨-, shown⟩ <;>
      rw [shown] at mem
    · exact .inl (isDigit_of_mem_padded mem)
    · rcases List.mem_cons.mp mem with rfl | mem
      · exact .inr (.inl rfl)
      · exact .inl (isDigit_of_mem_padded mem)
    · rcases List.mem_cons.mp mem with rfl | mem
      · exact .inr (.inr rfl)
      · exact .inl (isDigit_of_mem_padded mem)
  simp only [renderChars, List.mem_append, List.mem_cons] at mem
  rcases mem with (mem | rfl | mem) | rfl | mem
  · exact yearDigits c mem
  · exact .inr (.inl rfl)
  · exact .inl (isDigit_of_mem_padded mem)
  · exact .inr (.inl rfl)
  · exact .inl (isDigit_of_mem_padded mem)

theorem clear_renderChars (date : Date) : ∀ c ∈ date.renderChars, isMark c = false := by
  intro c mem
  rcases mem_renderChars mem with digit | rfl | rfl
  · exact isMark_of_isDigit digit
  · rfl
  · rfl

end Date

namespace Time

theorem mem_fractionChars {nanos : Nat} {c : Char} (mem : c ∈ fractionChars nanos) :
    c.isDigit = true ∨ c = '.' := by
  unfold fractionChars at mem
  split at mem
  · cases mem
  · split at mem
    · rcases List.mem_cons.mp mem with rfl | mem
      · exact .inr rfl
      · exact .inl (isDigit_of_mem_padded mem)
    · split at mem
      · rcases List.mem_cons.mp mem with rfl | mem
        · exact .inr rfl
        · exact .inl (isDigit_of_mem_padded mem)
      · rcases List.mem_cons.mp mem with rfl | mem
        · exact .inr rfl
        · exact .inl (isDigit_of_mem_padded mem)

/-- The fraction that its own text denotes. -/
def nanosOf (text : List Char) : Nat :=
  Nat.ofDigitChars 10 (text.drop 1) 0 * 10 ^ (10 - text.length)

theorem nanosOf_fractionChars {nanos : Nat} (small : nanos < 1000000000) :
    nanosOf (fractionChars nanos) = nanos := by
  have ofPadded : ∀ {width n : Nat}, 0 < width → n < 10 ^ width →
      nanosOf ('.' :: padded width n) = n * 10 ^ (9 - width) := by
    intro width n positive small
    have fits := length_padded_of_lt positive small
    rw [nanosOf, List.drop_one, List.tail_cons, ofDigitChars_padded, List.length_cons, fits]
    congr 2
    omega
  unfold fractionChars
  split
  · rename_i zero
    simp [nanosOf, zero]
  · split
    · rw [ofPadded (by decide) (by omega)]
      omega
    · split
      · rw [ofPadded (by decide) (by omega)]
        omega
      · rw [ofPadded (by decide) (by omega)]
        omega

theorem fractionChars_injective {m n : Nat} (hm : m < 1000000000) (hn : n < 1000000000)
    (same : fractionChars m = fractionChars n) : m = n := by
  rw [← nanosOf_fractionChars hm, same, nanosOf_fractionChars hn]

/-- The time that the text of a time names: a leap second inside a minute is shown as the
second after it. -/
def asShown (time : Time) : Time :=
  if h : time.nanos < 1000000000 ∨ time.second = 59 then time
  else ⟨time.hour, time.minute, time.second + 1, time.nanos - 1000000000, by
    have valid := time.valid
    omega⟩

theorem regular_asShown (time : Time) : time.asShown.Regular := by
  have valid := time.valid
  unfold asShown
  split
  case isTrue regular => exact regular
  case isFalse => exact .inl (by dsimp only; omega)

theorem renderChars_asShown (time : Time) : time.asShown.renderChars = time.renderChars := by
  have valid := time.valid
  unfold asShown
  split
  case isTrue => rfl
  case isFalse leap =>
    have second : time.second + 1 + (time.nanos - 1000000000) / 1000000000 =
        time.second + time.nanos / 1000000000 := by omega
    have fraction : (time.nanos - 1000000000) % 1000000000 = time.nanos % 1000000000 := by omega
    simp only [renderChars, second, fraction]

/-- Regular times are told by their texts: only a leap second makes sixty. -/
theorem Regular.eq_of_renderChars {time other : Time} (regular : time.Regular)
    (regular' : other.Regular) (same : time.renderChars = other.renderChars) : time = other := by
  have twoDigits : ∀ (time : Time), (padded 2 time.hour).length = 2 ∧
      (padded 2 time.minute).length = 2 ∧
      (padded 2 (time.second + time.nanos / 1000000000)).length = 2 := by
    intro time
    have valid := time.valid
    exact ⟨length_padded_of_lt (by decide) (by omega), length_padded_of_lt (by decide) (by omega),
      length_padded_of_lt (by decide) (by omega)⟩
  have widths := twoDigits time
  have widths' := twoDigits other
  unfold renderChars at same
  dsimp only at same
  obtain ⟨front, fractions⟩ := List.append_inj same (by simp [widths, widths'])
  obtain ⟨front, seconds⟩ := List.append_inj front (by simp [widths, widths'])
  obtain ⟨hours, minutes⟩ := List.append_inj front (by simp [widths, widths'])
  have sameHour := padded_injective hours
  have sameMinute := padded_injective (List.cons.inj minutes).2
  have sameSeconds := padded_injective (List.cons.inj seconds).2
  have sameFraction := fractionChars_injective (Nat.mod_lt _ (by decide))
    (Nat.mod_lt _ (by decide)) fractions
  have valid := time.valid
  have valid' := other.valid
  rw [Regular] at regular regular'
  have sameSecond : time.second = other.second := by omega
  have sameNanos : time.nanos = other.nanos := by omega
  exact Time.ext sameHour sameMinute sameSecond sameNanos

theorem asShown_eq_of_renderChars {time other : Time}
    (same : time.renderChars = other.renderChars) : time.asShown = other.asShown := by
  apply time.regular_asShown.eq_of_renderChars other.regular_asShown
  rw [renderChars_asShown, renderChars_asShown, same]

theorem clear_renderChars (time : Time) : ∀ c ∈ time.renderChars, isMark c = false := by
  intro c mem
  simp only [renderChars, List.mem_append, List.mem_cons] at mem
  have digit : ∀ {width n}, c ∈ padded width n → isMark c = false :=
    fun mem => isMark_of_isDigit (isDigit_of_mem_padded mem)
  rcases mem with ((mem | rfl | mem) | rfl | mem) | mem
  · exact digit mem
  · rfl
  · exact digit mem
  · rfl
  · exact digit mem
  · rcases mem_fractionChars mem with isDigit | rfl
    · exact isMark_of_isDigit isDigit
    · rfl

end Time

namespace DateTime

def asShown (moment : DateTime) : DateTime :=
  ⟨moment.date, moment.time.asShown⟩

theorem renderWith_asShown (mark : Char) (moment : DateTime) :
    moment.asShown.renderWith mark = moment.renderWith mark := by
  rw [renderWith, asShown, Time.renderChars_asShown, renderWith]

theorem asShown_eq_of_renderWith {moment other : DateTime}
    (same : moment.renderWith 'T' = other.renderWith 'T') : moment.asShown = other.asShown := by
  have texts := String.toList_inj.mpr same
  simp only [renderWith, String.toList_ofList] at texts
  have unmarked : ∀ (date : Date), ∀ c ∈ date.renderChars, (c == 'T') = false := by
    intro date c mem
    rw [← Bool.not_eq_true, beq_iff_eq]
    rintro rfl
    exact absurd (Date.mem_renderChars mem) (by decide)
  obtain ⟨dates, times⟩ := clear_append_cancel (p := (· == 'T')) (unmarked moment.date)
    (unmarked other.date) (by simp) (by simp) texts
  rw [asShown, asShown, Date.renderChars_injective dates,
    Time.asShown_eq_of_renderChars (List.cons.inj times).2]

theorem clear_renderWith (moment : DateTime) :
    ∀ c ∈ (moment.renderWith 'T').toList, isMark c = false := by
  intro c mem
  simp only [renderWith, String.toList_ofList, List.mem_append, List.mem_cons] at mem
  rcases mem with mem | rfl | mem
  · exact Date.clear_renderChars moment.date c mem
  · rfl
  · exact Time.clear_renderChars moment.time c mem

end DateTime

end Containment
