import Containment.Fault

namespace Containment

/-! Reports gathered over the parts of a value, and reports seen from further up. -/

@[simp]
theorem mapError_ok {ε δ α : Type} (f : ε → δ) (a : α) :
    (Except.ok a).mapError f = .ok a := rfl

@[simp]
theorem mapError_error {ε δ α : Type} (f : ε → δ) (e : ε) :
    (Except.error e : Except ε α).mapError f = .error (f e) := rfl

theorem mapError_eq_ok_iff {ε δ α : Type} {f : ε → δ} {outcome : Except ε α} {a : α} :
    outcome.mapError f = .ok a ↔ outcome = .ok a := by
  cases outcome <;> simp

theorem mapError_eq_error_iff {ε δ α : Type} {f : ε → δ} {outcome : Except ε α} {d : δ} :
    outcome.mapError f = .error d ↔ ∃ e, outcome = .error e ∧ f e = d := by
  cases outcome <;> simp

theorem map_eq_ok_iff {ε α β : Type} {make : α → β} {outcome : Except ε α} {b : β} :
    outcome.map make = .ok b ↔ ∃ a, outcome = .ok a ∧ make a = b := by
  cases outcome <;> simp [Except.map]

theorem map_eq_error_iff {ε α β : Type} {make : α → β} {outcome : Except ε α} {e : ε} :
    outcome.map make = .error e ↔ outcome = .error e := by
  cases outcome <;> simp [Except.map]

theorem map_ok_iff {ε α β : Type} {make : α → β} {outcome : Except ε α} :
    (∃ b, outcome.map make = .ok b) ↔ ∃ a, outcome = .ok a := by
  cases outcome <;> simp [Except.map]

namespace Report

variable {α β : Type}

theorem gather_ok_cons (value : α) (rest : List (Except Report α)) :
    gather (.ok value :: rest) = (gather rest).map (value :: ·) := by
  rw [gather]
  cases gather rest <;> rfl

theorem gather_error_cons_ne_ok (report : Report) (rest : List (Except Report α))
    (values : List α) : gather (.error report :: rest) ≠ .ok values := by
  rw [gather]
  cases gather rest <;> simp

theorem gather_eq_ok_iff {outcomes : List (Except Report α)} {values : List α} :
    gather outcomes = .ok values ↔ outcomes = values.map .ok := by
  induction outcomes generalizing values with
  | nil => cases values <;> simp [gather]
  | cons outcome rest ih =>
      cases outcome with
      | error report =>
          refine iff_of_false (gather_error_cons_ne_ok report rest values) ?_
          cases values <;> simp
      | ok value =>
          rw [gather_ok_cons, map_eq_ok_iff]
          simp only [ih]
          cases values with
          | nil => simp
          | cons first others =>
              simp only [List.cons.injEq, List.map_cons, Except.ok.injEq]
              constructor
              · rintro ⟨_, same, rfl, rfl⟩
                exact ⟨rfl, same⟩
              · rintro ⟨rfl, same⟩
                exact ⟨others, same, rfl, rfl⟩

theorem length_of_gather {outcomes : List (Except Report α)} {values : List α}
    (gathered : gather outcomes = .ok values) : outcomes.length = values.length := by
  rw [gather_eq_ok_iff.mp gathered, List.length_map]

theorem gather_ok_iff {outcomes : List (Except Report α)} :
    (∃ values, gather outcomes = .ok values) ↔
      ∀ outcome ∈ outcomes, ∃ value, outcome = .ok value := by
  induction outcomes with
  | nil => simp [gather]
  | cons outcome rest ih =>
      rw [List.forall_mem_cons, ← ih]
      cases outcome with
      | ok value => cases gathered : gather rest <;> simp [gather, gathered]
      | error report => cases gathered : gather rest <;> simp [gather, gathered]

/-- The mismatches that an outcome reports. -/
def mismatches : Except Report α → List Mismatch
  | .ok _ => []
  | .error report => report.toList

@[simp]
theorem mismatches_ok (a : α) : mismatches (.ok a) = [] := rfl

@[simp]
theorem mismatches_error (report : Report) :
    mismatches (.error report : Except Report α) = report.toList := rfl

@[simp]
theorem mismatches_map (make : α → β) (outcome : Except Report α) :
    mismatches (outcome.map make) = mismatches outcome := by
  cases outcome <;> rfl

theorem mismatches_gather (outcomes : List (Except Report α)) :
    mismatches (gather outcomes) = outcomes.flatMap mismatches := by
  induction outcomes with
  | nil => rfl
  | cons outcome rest ih =>
      rw [List.flatMap_cons, ← ih]
      cases outcome with
      | ok value =>
          rw [gather]
          cases gather rest <;> rfl
      | error report =>
          rw [gather]
          cases gather rest with
          | ok values => exact (List.append_nil report.toList).symm
          | error others => rfl

def under (location : Location) (report : Report) : Report :=
  report.map (Mismatch.under location)

theorem under_append (location : Location) (left right : Report) :
    (left ++ right).under location = left.under location ++ right.under location :=
  toList_injective (by simp [under])

theorem toList_under (location : Location) (report : Report) :
    (report.under location).toList = report.toList.map (Mismatch.under location) := rfl

theorem prefix_of_mem_under {location : Location} {report : Report} {mismatch : Mismatch}
    (mem : mismatch ∈ (report.under location).toList) : location <+: mismatch.location := by
  rw [toList_under] at mem
  obtain ⟨original, -, rfl⟩ := List.mem_map.mp mem
  exact List.prefix_append location original.location

theorem gather_under (location : Location) (outcomes : List (Except Report α)) :
    gather (outcomes.map (Except.mapError (under location))) =
      (gather outcomes).mapError (under location) := by
  induction outcomes with
  | nil => rfl
  | cons outcome rest ih =>
      cases outcome with
      | ok value =>
          simp only [List.map_cons, mapError_ok, gather, ih]
          cases gather rest <;> rfl
      | error report =>
          simp only [List.map_cons, mapError_error, gather, ih]
          cases gather rest with
          | ok values => rfl
          | error other => simp only [mapError_error, under_append]

theorem choose_under (location : Location) (lastResort : α)
    (outcomes : List (Except Report α)) :
    choose lastResort (outcomes.map (Except.mapError (under location))) =
      (choose lastResort outcomes).mapError (under location) := by
  induction outcomes with
  | nil => rfl
  | cons outcome rest ih =>
      cases outcome with
      | ok value => rfl
      | error report =>
          cases rest with
          | nil => rfl
          | cons second rest =>
              simp only [List.map_cons, mapError_error, choose] at ih ⊢
              rw [ih]
              cases choose lastResort (second :: rest) with
              | ok value => rfl
              | error other => simp only [mapError_error, under_append]

end Report

end Containment
