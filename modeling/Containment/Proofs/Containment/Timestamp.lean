import Containment.Proofs.Calendar.Timestamp
import Containment.Proofs.Containment.Constant

namespace Containment

/-! Whole timestamps where a date and time is expected. -/

namespace Registry

open DateTime

theorem natAbs_toInt_le (number : Int64) : number.toInt.natAbs ≤ 2 ^ (63 : Nat) := by
  have least := number.le_toInt
  have most := number.toInt_lt
  omega

/-- A timestamp is read as a date and time if and only if its instant is within the supported
years. What is read lies in the same second and less than half a millisecond away. It is exact,
so that the timestamp contains the moment, for seconds and for milliseconds that make eighths of
a second. Of milliseconds from some point on, these are the only ones. A memory does not change
this, as long as no look-alike of the moment was converted lately. -/
theorem integer_timestamps (number : Int64) (location : Location) (caching : Bool)
    (capacity : Nat) (operations : List Operation) :
    (∀ moment : DateTime, moment.Plain → moment.sinceEpoch = instant number.toInt →
      ∃ result : DateTime,
        (Schema.scalar .datetime).validate (.int number) location = .ok (.datetime result) ∧
        result.Plain ∧ result.seconds = moment.seconds ∧
        (result.sinceEpoch - instant number.toInt).natAbs ≤ 488281 ∧
        (number.toInt.natAbs ≤ secondsLimit ∨ 125 ∣ number.toInt → result = moment) ∧
        (coarseLimit ≤ number.toInt.natAbs → result = moment → 125 ∣ number.toInt) ∧
        (Containment.contains (.int number) (.value (.datetime moment)) = .ok () ↔
          result = moment) ∧
        ((Shape.value (.datetime moment)).Unmistaken operations →
          (containsAfter caching capacity operations (.int number) (.value (.datetime moment)) =
            .ok () ↔ result = moment))) ∧
    ((∀ moment : DateTime, moment.Plain → moment.sinceEpoch ≠ instant number.toInt) →
      (Schema.scalar .datetime).validate (.int number) location =
        .error (Fault.dateTimeText.report (.int number) location)) := by
  have word := natAbs_toInt_le number
  have coerced : Scalar.datetime.coerce (.int number) =
      Scalar.momentOr (ofTimestamp? (.ofInt number.toInt)) := rfl
  constructor
  · intro moment plain named
    obtain ⟨result, read, plain', second, near, exact, coarse⟩ :=
      ofTimestamp?_of_instant word plain named
    rw [read] at coerced
    have same : Scalar.datetime.coerce (.int number) = .ok (.datetime moment) ↔ result = moment := by
      rw [coerced, Scalar.momentOr, Except.ok.injEq, Value.datetime.injEq]
    refine ⟨result, ?_, plain', second, near, exact, coarse, ?_, fun unmistaken => ?_⟩
    · rw [Schema.validate, coerced]
      rfl
    · exact (containsAfter_calendar_iff rfl (.fresh (.value (.datetime moment)))).trans same
    · exact (containsAfter_calendar_iff rfl unmistaken).trans same
  · intro none
    rw [ofTimestamp?_of_no_instant word none] at coerced
    rw [Schema.validate, coerced]
    rfl

/-- Milliseconds in 2023, and the first ones past the last year. -/
theorem integer_timestamps_at_an_eighth :
    let moment : DateTime := ⟨⟨2023, 11, 14, by decide⟩, ⟨22, 13, 20, 125000000, by decide⟩⟩
    moment.Plain ∧ moment.sinceEpoch = instant (1700000000125 : Int64).toInt ∧
      125 ∣ (1700000000125 : Int64).toInt ∧
      (Shape.value (.datetime moment)).Unmistaken [.convert .present] ∧
      containsAfter true 2 [.convert .present] (.int 1700000000125) (.value (.datetime moment)) = .ok () ∧
      (∀ moment : DateTime, moment.Plain →
        moment.sinceEpoch ≠ instant (8210266876800000 : Int64).toInt) ∧
      (Schema.scalar .datetime).validate (.int 8210266876800000) (Location.root.index 3) =
        .error (Fault.dateTimeText.report (.int 8210266876800000) (Location.root.index 3)) := by
  intro moment
  have plain : moment.Plain := by decide
  have named : moment.sinceEpoch = instant (1700000000125 : Int64).toInt := by decide
  have eighths : 125 ∣ (1700000000125 : Int64).toInt := by decide
  have outside : ∀ moment : DateTime, moment.Plain →
      moment.sinceEpoch ≠ instant (8210266876800000 : Int64).toInt := by
    intro moment plain named
    have within := exists_sinceEpoch_iff.mp ⟨moment, plain, named⟩
    exact absurd within (by decide)
  have unmistaken : (Shape.value (.datetime moment)).Unmistaken [.convert .present] :=
    .of_shown rfl rfl
  obtain ⟨result, -, -, -, -, exact, -, -, contained⟩ :=
    (integer_timestamps 1700000000125 Location.root true 2 [.convert .present]).1 moment plain named
  exact ⟨plain, named, eighths, unmistaken,
    (contained unmistaken).mpr (exact (.inr eighths)), outside,
    (integer_timestamps 8210266876800000 (Location.root.index 3) true 2 []).2 outside⟩

/-- Two nanoseconds are missing from the first odd millisecond past the limit for seconds. -/
theorem millisecond_inexact :
    let day : Date := ⟨1970, 8, 20, by decide⟩
    let moment : DateTime := ⟨day, ⟨11, 33, 20, 1000000, by decide⟩⟩
    moment.Plain ∧ moment.sinceEpoch = instant (20000000001 : Int64).toInt ∧
      (Schema.scalar .datetime).check (.int 20000000001) =
        .ok (.datetime ⟨day, ⟨11, 33, 20, 999998, by decide⟩⟩) ∧
      Containment.contains (.int 20000000001) (.value (.datetime moment)) ≠ .ok () := by
  intro day moment
  have read : ofTimestamp? (.ofInt (20000000001 : Int64).toInt) =
      some ⟨day, ⟨11, 33, 20, 999998, by decide⟩⟩ := by
    decide +kernel
  have coerced : Scalar.datetime.coerce (.int 20000000001) =
      .ok (.datetime ⟨day, ⟨11, 33, 20, 999998, by decide⟩⟩) := by
    change Scalar.momentOr (ofTimestamp? (.ofInt (20000000001 : Int64).toInt)) = _
    rw [read]
    rfl
  refine ⟨by decide, by decide, ?_, ?_⟩
  · rw [Schema.check, Schema.validate, coerced]
    rfl
  · change containsAfter true Builder.defaultCapacity [] _ _ ≠ _
    rw [Ne, containsAfter_calendar_iff rfl (.fresh _), coerced, Except.ok.injEq,
      Value.datetime.injEq]
    decide

end Registry

end Containment
