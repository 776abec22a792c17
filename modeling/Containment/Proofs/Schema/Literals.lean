import Containment.Proofs.Report
import Containment.Proofs.Value.Equality
import Containment.Schema.Validation

namespace Containment

/-! Literals stand for the scalars they are made of. What they match, how they are compared in
sets, and which values are equal is one and the same, and so a schema of literals accepts what
equals one of the values they are made of. -/

namespace Literal

variable {value other : Value} {literal literal' : Literal}

theorem toValue_of_ofValue? (found : ofValue? value = some literal) :
    literal.toValue = value := by
  cases value with
  | float number =>
      rw [ofValue?] at found
      split at found <;> cases found
      rfl
  | bool | int | bytes | str | member =>
      cases found
      rfl
  | _ => cases found

/-- Not-a-number is no literal of a value, and it alone agrees with what it does not equal. -/
theorem agrees_eq_accepts (found : ofValue? other = some literal') :
    literal.agrees literal' = literal.accepts other := by
  cases other with
  | float number =>
      rw [ofValue?] at found
      split at found
      · cases found
      · rename_i given
        cases found
        cases literal with
        | float =>
            rw [agrees, accepts, Binary64.agrees, Bool.eq_false_iff.mpr given,
              Bool.and_false, Bool.false_or]
        | _ => rfl
  | bool | int | bytes | str | member =>
      cases found
      cases literal <;> rfl
  | _ => cases found

end Literal

namespace Schema

theorem validate_literal_eq_ok_iff {literals : List Literal} {value result : Value}
    {location : Location} :
    (Schema.literal literals).validate value location = .ok result ↔
      result = value ∧ ∃ literal ∈ literals, literal.accepts value = true := by
  rw [validate, ← List.any_eq_true]
  split
  · rename_i accepted
    simp [accepted, eq_comm]
  · rename_i refused
    simp [refused]

/-- A literal of a list accepts a value where one of the values they are made of equals it. -/
theorem exists_accepts_iff {values : List Value} {literals : List Literal}
    (made : List.Forall₂ (fun value literal => Literal.ofValue? value = some literal)
      values literals) {other : Value} :
    (∃ literal ∈ literals, literal.accepts other = true) ↔
      ∃ value ∈ values, value.equals other = true := by
  induction made with
  | nil => simp
  | cons found _ ih =>
      rw [List.exists_mem_cons_iff, List.exists_mem_cons_iff, ih, Literal.accepts_eq_equals found]

/-- The literal of a value gives the value back, matches exactly what equals the value, and is
equal in sets to the literals of the values it matches. Literals made of a list of values accept
exactly what equals one of them, and keep it. -/
theorem literals_match_equal_values :
    (∀ (value : Value) (literal : Literal), Literal.ofValue? value = some literal →
      literal.toValue = value ∧
      (∀ other : Value, literal.accepts other = true ↔ value.equals other = true) ∧
      ∀ (other : Value) (literal' : Literal), Literal.ofValue? other = some literal' →
        (literal.agrees literal' = true ↔ literal.accepts other = true)) ∧
    ∀ (values : List Value) (literals : List Literal),
      List.Forall₂ (fun value literal => Literal.ofValue? value = some literal) values literals →
      ∀ (other result : Value) (location : Location),
        (Schema.literal literals).validate other location = .ok result ↔
          result = other ∧ ∃ value ∈ values, value.equals other = true := by
  constructor
  · intro value literal found
    refine ⟨Literal.toValue_of_ofValue? found, fun other => ?_, fun other literal' found' => ?_⟩
    · rw [Literal.accepts_eq_equals found]
    · rw [Literal.agrees_eq_accepts found']
  · intro values literals made other result location
    rw [validate_literal_eq_ok_iff, exists_accepts_iff made]

/-- The two zeros equal each other, and so do members of one name that carry different values. -/
theorem literals_match_equal_values_of_zero_and_red :
    let zero : Value := .float (.zero true)
    let red : Value := .member "Color" "RED" (.int 1)
    let values : List Value := [zero, red]
    let literals : List Literal := [.float (.zero true), .member "Color" "RED" (.int 1)]
    Literal.ofValue? zero = some (.float (.zero true)) ∧
      Literal.ofValue? (.float (.zero false)) = some (.float (.zero false)) ∧
      List.Forall₂ (fun value literal => Literal.ofValue? value = some literal) values literals ∧
      (Literal.float (.zero true)).toValue = zero ∧
      (Literal.float (.zero true)).accepts (.float (.zero false)) = true ∧
      (Literal.float (.zero true)).agrees (.float (.zero false)) = true ∧
      (Schema.literal literals).validate (.member "Color" "RED" .null) [.field "at"] =
        .ok (.member "Color" "RED" .null) := by
  intro zero red values literals
  obtain ⟨single, lists⟩ := literals_match_equal_values
  have found : Literal.ofValue? zero = some (.float (.zero true)) := rfl
  have found' : Literal.ofValue? (.float (.zero false)) = some (.float (.zero false)) := rfl
  have made : List.Forall₂ (fun value literal => Literal.ofValue? value = some literal)
      values literals := .cons found (.cons rfl .nil)
  obtain ⟨stands, equal, agree⟩ := single zero _ found
  have accepts := (equal (.float (.zero false))).mpr (by decide)
  refine ⟨found, found', made, stands, accepts, (agree _ _ found').mpr accepts, ?_⟩
  exact (lists values literals made _ _ _).mpr ⟨rfl, red, .tail _ (.head _), by decide⟩

end Schema

end Containment
