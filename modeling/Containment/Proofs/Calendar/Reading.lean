import Containment.Calendar.Reader
import Containment.Proofs.Calendar.Rendering
import Containment.Proofs.Text.Reading
import Containment.Proofs.Text.Trimming

namespace Containment

open Text Decimal

/-! Dates and times are read back from their texts. What is read is a part at the front of a
text, whatever stands behind it. -/

attribute [local instance(1100)] instPowNat

namespace Text.Reads

open Calendar

variable {α : Type} {text rest : List Char} {reader : Reader α} {a : α}

theorem orElse (reads : Reads reader text a rest) (default : α) :
    Reads (reader.orElse default) text a rest := by
  rw [Reads, Reader.orElse, reads]
  rfl

theorem complete? (reads : Reads reader text a []) : reader.complete? text = some a := by
  rw [Reader.complete?, reads]

end Text.Reads

namespace Calendar.Reader

variable {rest run : List Char} {width number : Nat}

/-- A run of digits of the whole width, or one with no digit behind it. -/
structure Run (width : Nat) (run rest : List Char) : Prop where
  nonempty : run ≠ []
  all : ∀ c ∈ run, c.isDigit = true
  fits : run.length ≤ width
  ends : run.length = width ∨ ∀ c ∈ rest.head?, c.isDigit = false

namespace Run

theorem padded {width number : Nat} (positive : 0 < width) (small : number < 10 ^ width)
    (rest : List Char) : Run width (padded width number) rest := by
  have length := length_padded_of_lt positive small
  refine ⟨?_, fun c mem => isDigit_of_mem_padded mem, Nat.le_of_eq length, .inl length⟩
  intro empty
  rw [empty] at length
  exact absurd length (Nat.ne_of_lt positive)

theorem exists_cons (digits : Run width run rest) :
    ∃ c others, run = c :: others ∧ c.isDigit = true := by
  obtain ⟨c, others, rfl⟩ := List.exists_cons_of_ne_nil digits.nonempty
  exact ⟨c, others, rfl, digits.all c (by simp)⟩

theorem reads (digits : Run width run rest) : Reads (Reader.digits width) (run ++ rest) run rest := by
  have taken : ((run ++ rest).takeWhile Char.isDigit).take width = run := by
    rcases digits.ends with full | stopped
    · rw [List.takeWhile_append_of_pos digits.all, ← full, List.take_left]
    · rw [takeWhile_run digits.all stopped, List.take_of_length_le digits.fits]
  obtain ⟨c, others, rfl, -⟩ := digits.exists_cons
  rw [Reads, Reader.digits, taken]
  simp

theorem reads_number (digits : Run width run rest) :
    Reads (Reader.number width) (run ++ rest) (Nat.ofDigitChars 10 run 0) rest :=
  digits.reads.map fun run => Nat.ofDigitChars 10 run 0

end Run

theorem fractionChars_cases (nanos : Nat) (small : nanos < 10 ^ (9 : Nat)) :
    Time.fractionChars nanos = [] ∨ ∃ run, Time.fractionChars nanos = '.' :: run ∧
      Run 9 run [] := by
  have digits : ∀ {width number : Nat}, 0 < width → width ≤ 9 → number < 10 ^ width →
      Run 9 (padded width number) [] := by
    intro width number positive most small
    have run := Run.padded positive small []
    exact ⟨run.nonempty, run.all, Nat.le_trans run.fits most, .inr (by simp)⟩
  unfold Time.fractionChars
  split
  case isTrue => exact .inl rfl
  split
  case isTrue => exact .inr ⟨_, rfl, digits (by decide) (by decide) (by omega)⟩
  split
  case isTrue => exact .inr ⟨_, rfl, digits (by decide) (by decide) (by omega)⟩
  case isFalse => exact .inr ⟨_, rfl, digits (by decide) (by decide) small⟩

theorem reads_fraction {nanos : Nat} (small : nanos < 10 ^ (9 : Nat)) :
    Reads fraction (Time.fractionChars nanos) nanos [] := by
  have value := Time.nanosOf_fractionChars small
  unfold fraction
  refine (Reads.get _).bind ?_
  rcases fractionChars_cases nanos small with shown | ⟨run, shown, digits⟩ <;>
    rw [shown] at value ⊢
  · subst value
    exact Reads.pure _ _
  · have read := digits.reads
    rw [List.append_nil] at read
    subst value
    rw [Time.nanosOf, List.length_cons, Nat.succ_sub_succ]
    exact (Reads.set _ _).bind (read.bind ((Reads.modify _ _).bind (Reads.pure _ _)))

end Calendar.Reader

open Calendar

namespace Time

end Time

namespace DateTime

def renderChars (moment : DateTime) : List Char :=
  moment.date.renderChars ++ ' ' :: moment.time.renderChars

end DateTime

end Containment
