import Containment.Proofs.Number.Integer
import Containment.Proofs.Number.Rendering
import Containment.Schema.Validation

namespace Containment

/-! Where an integer and a float have one text. A literal of one kind never matches a value of the
other, and then the mismatch shows what was expected and what was found in the same words. -/

attribute [local instance(1100)] instPowNat

variable {number : Int64} {x : Binary64}

namespace Value

theorem render_int_eq_render_float_iff :
    (int number).render = (float x).render ↔ ∃ negative m s canonical,
      x = .finite negative m s canonical ∧ Binary64.Large m s ∧
        number.toInt = Binary64.signed negative (Decimal.shortest m s).whole := by
  rw [render, render, eq_comm]
  exact Binary64.render_eq_toString_iff

/-- The integer has at least seventeen digits, and the float is the nearest one to it. -/
theorem ofInt_of_render_eq (same : (int number).render = (float x).render) :
    10 ^ (16 : Nat) ≤ number.toInt.natAbs ∧ Binary64.ofInt number.toInt = x := by
  obtain ⟨negative, m, s, canonical, rfl, large, denoted⟩ := render_int_eq_render_float_iff.mp same
  have least := Binary64.le_whole canonical large
  rw [denoted, Binary64.natAbs_signed]
  exact ⟨least, Decimal.ofInt_of_readsBack canonical (Binary64.whole_readsBack canonical large)
    (Nat.lt_of_lt_of_le (by decide) least)⟩

/-- The floats that have the text of an integer: the whole range of 64 bits from ten to the
sixteenth on. -/
theorem exists_render_eq_iff :
    (∃ number : Int64, (int number).render = (float x).render) ↔
      ∃ units, x.units? = some units ∧
        10 ^ (16 : Nat) * Binary64.unitsPerOne ≤ units.natAbs ∧
        units.natAbs < 2 ^ (63 : Nat) * Binary64.unitsPerOne := by
  constructor
  · rintro ⟨number, same⟩
    obtain ⟨negative, m, s, canonical, rfl, large, denoted⟩ :=
      render_int_eq_render_float_iff.mp same
    have inRange : (Decimal.shortest m s).whole ≤ 2 ^ (63 : Nat) := by
      have low := number.le_toInt
      have high := number.toInt_lt
      rw [← Binary64.natAbs_signed negative (Decimal.shortest m s).whole, ← denoted]
      omega
    refine ⟨_, rfl, ?_⟩
    rw [Binary64.natAbs_signed]
    exact ⟨large, (Binary64.whole_limits canonical large).1 inRange⟩
  · rintro ⟨units, held, large, small⟩
    cases x with
    | nan | infinite => cases held
    | finite negative m s canonical =>
        cases held
        rw [Binary64.natAbs_signed] at large small
        have inRange := (Binary64.whole_limits canonical large).2 small
        obtain ⟨word, denoted⟩ : ∃ word : Int64,
            word.toInt = Binary64.signed negative (Decimal.shortest m s).whole := by
          refine ⟨_, Numeral.toInt_of_int64? (Numeral.int64?_eq_some_iff.mpr ⟨?_, ?_, rfl⟩)⟩ <;>
            cases negative <;> simp only [Binary64.signed] <;> omega
        exact ⟨word, render_int_eq_render_float_iff.mpr
          ⟨negative, m, s, canonical, rfl, large, denoted⟩⟩

end Value

namespace Schema

theorem validate_literal_of_not_accepts {literal : Literal} {value : Value}
    (refused : literal.accepts value = false) (location : Location) :
    (Schema.literal [literal]).validate value location =
      .error ((Fault.notLiteral [literal]).report value location) := by
  rw [validate, List.any_cons, List.any_nil, Bool.or_false, refused]
  rfl

/-- An integer and a float have one text only from ten to the sixteenth on, and then the float is
the nearest one to the integer. Every float from there to the end of the 64-bit range has the text
of some integer. Literals have the texts of their values, and a literal of one kind refuses the
other kind with a mismatch that shows one text twice just where the two have one text. -/
theorem int_and_float_alike_only_when_large (number : Int64) (x : Binary64) (location : Location) :
    ((Value.int number).render = (Value.float x).render →
      10 ^ (16 : Nat) ≤ number.toInt.natAbs ∧ Binary64.ofInt number.toInt = x) ∧
    ((∃ word : Int64, (Value.int word).render = (Value.float x).render) ↔
      ∃ units, x.units? = some units ∧
        10 ^ (16 : Nat) * Binary64.unitsPerOne ≤ units.natAbs ∧
        units.natAbs < 2 ^ (63 : Nat) * Binary64.unitsPerOne) ∧
    ((Literal.int number).render = (Literal.float x).render ↔
      (Value.int number).render = (Value.float x).render) ∧
    (∃ mismatch : Mismatch,
      (Schema.literal [.int number]).validate (.float x) location = .error (.single mismatch) ∧
      mismatch.location = location ∧ mismatch.kind = "literal_error" ∧
      (mismatch.expected? = mismatch.got? ↔
        (Value.int number).render = (Value.float x).render)) ∧
    ∃ mismatch : Mismatch,
      (Schema.literal [.float x]).validate (.int number) location = .error (.single mismatch) ∧
      mismatch.location = location ∧ mismatch.kind = "literal_error" ∧
      (mismatch.expected? = mismatch.got? ↔
        (Value.int number).render = (Value.float x).render) := by
  refine ⟨Value.ofInt_of_render_eq, Value.exists_render_eq_iff, Iff.rfl, ?_, ?_⟩
  · exact ⟨_, validate_literal_of_not_accepts rfl location, rfl, rfl, Option.some_inj⟩
  · exact ⟨_, validate_literal_of_not_accepts rfl location, rfl, rfl,
      Option.some_inj.trans eq_comm⟩

/-- The text of two to the sixtieth as a float is that of another integer, which is rounded to
the power. -/
theorem int_and_float_alike_near_a_power :
    let number : Int64 := 1152921504606847000
    let x : Binary64 := .ofNat (2 ^ (60 : Nat))
    (Value.int number).render = (Value.float x).render ∧
      10 ^ (16 : Nat) ≤ number.toInt.natAbs ∧ Binary64.ofInt number.toInt = x := by
  intro number x
  have same : (Value.int number).render = (Value.float x).render := by decide +kernel
  exact ⟨same, (int_and_float_alike_only_when_large number x []).1 same⟩

/-- Ten to the sixteenth as an integer and as a float. The float has no decimal place, and the
literal error says that the same text was expected and found. -/
theorem int_and_float_alike_at_ten_to_sixteen :
    let x : Binary64 := .ofNat 10000000000000000
    (Value.int 10000000000000000).render = "10000000000000000" ∧
      (Value.float x).render = "10000000000000000" ∧
      (Literal.int 10000000000000000).render = (Literal.float x).render ∧
      (Schema.literal [.int 10000000000000000]).validate (.float x) [] =
        .error (.single ⟨[], "literal_error", "Input should be 10000000000000000",
          some "10000000000000000", some "10000000000000000"⟩) := by
  decide +kernel

end Schema

end Containment
