import Containment.Number.Decimal
import Containment.Proofs.Text.Unambiguous
import Std.Data.String.ToInt

namespace Containment.Text

/-! Numbers are told apart by their digits, also where a sign or zeros are put in front. -/

theorem digitChar_injective {m n : Nat} (hm : m < 16) (hn : n < 16)
    (same : m.digitChar = n.digitChar) : m = n := by
  have all : ∀ m < 16, ∀ n < 16, Nat.digitChar m = Nat.digitChar n → m = n := by decide
  exact all m hm n hn same

theorem toDigits_injective {b : Nat} (two : 1 < b) (sixteen : b ≤ 16) {m n : Nat}
    (same : Nat.toDigits b m = Nat.toDigits b n) : m = n := by
  induction m using Nat.strongRecOn generalizing n with
  | ind m ih =>
      rw [Nat.toDigits_eq_if two (n := m), Nat.toDigits_eq_if two (n := n)] at same
      by_cases hm : m < b
      · by_cases hn : n < b
        · simp only [hm, hn, if_true, List.cons.injEq, and_true] at same
          exact digitChar_injective (by omega) (by omega) same
        · have lengths := congrArg List.length same
          simp [hm, hn] at lengths
      · by_cases hn : n < b
        · have lengths := congrArg List.length same
          simp [hm, hn] at lengths
        · simp only [hm, hn, if_false] at same
          obtain ⟨heads, lasts⟩ := List.append_inj' same rfl
          simp only [List.cons.injEq, and_true] at lasts
          have quotients : m / b = n / b :=
            ih (m / b) (Nat.div_lt_self (by omega) two) heads
          have remainders : m % b = n % b :=
            digitChar_injective (Nat.lt_of_lt_of_le (Nat.mod_lt _ (by omega)) sixteen)
              (Nat.lt_of_lt_of_le (Nat.mod_lt _ (by omega)) sixteen) lasts
          rw [← Nat.div_add_mod m b, ← Nat.div_add_mod n b, quotients, remainders]

theorem clear_toDigits {b : Nat} (two : 1 < b) (sixteen : b ≤ 16) (n : Nat) :
    ∀ c ∈ Nat.toDigits b n, isMark c = false := by
  have digit : ∀ n < 16, isMark (Nat.digitChar n) = false := by decide
  induction n using Nat.strongRecOn with
  | ind n ih =>
      intro c mem
      rw [Nat.toDigits_eq_if two] at mem
      split at mem
      · rw [List.mem_singleton.mp mem]
        exact digit n (by omega)
      · rcases List.mem_append.mp mem with mem | mem
        · exact ih (n / b) (Nat.div_lt_self (by omega) two) c mem
        · rw [List.mem_singleton.mp mem]
          exact digit _ (Nat.lt_of_lt_of_le (Nat.mod_lt _ (by omega)) sixteen)

theorem ne_of_isDigit {c d : Char} (digit : c.isDigit = true) (other : d.isDigit = false) :
    c ≠ d := by
  rintro rfl
  rw [digit] at other
  cases other

theorem isMark_of_isDigit {c : Char} (digit : c.isDigit = true) : isMark c = false := by
  rw [← Bool.not_eq_true]
  intro mark
  simp only [isMark, Bool.or_eq_true, beq_iff_eq] at mark
  rcases mark with (((rfl | rfl) | rfl) | rfl) | rfl <;> exact absurd digit (by decide)

/-- A sign is told from the digit that a text begins with. -/
theorem signChars_append_cancel {a b : Bool} {text text' : List Char}
    (begun : ∃ first rest, text = first :: rest ∧ first.isDigit = true)
    (begun' : ∃ first rest, text' = first :: rest ∧ first.isDigit = true)
    (same : Binary64.signChars a ++ text = Binary64.signChars b ++ text') : a = b ∧ text = text' := by
  obtain ⟨first, rest, rfl, digit⟩ := begun
  obtain ⟨first', rest', rfl, digit'⟩ := begun'
  cases a <;> cases b
  · exact ⟨rfl, same⟩
  · exact absurd (List.cons.inj same).1 (ne_of_isDigit digit rfl)
  · exact absurd (List.cons.inj same).1.symm (ne_of_isDigit digit' rfl)
  · exact ⟨rfl, (List.cons.inj same).2⟩

theorem toList_toString (n : Int) :
    (toString n).toList =
      Binary64.signChars (decide (n < 0)) ++ Nat.toDigits 10 n.natAbs := by
  rw [Int.toString_eq_repr, Int.repr_eq_if]
  split
  case isTrue nonneg =>
    have digits : n.toNat = n.natAbs := by omega
    rw [decide_eq_false (Int.not_lt.mpr nonneg), Nat.toList_repr, digits]
    rfl
  case isFalse negative =>
    have digits : (-n).toNat = n.natAbs := by omega
    rw [decide_eq_true (Int.not_le.mp negative), String.toList_append, Nat.toList_repr, digits]
    rfl

theorem isDigit_or_sign_of_mem_toString {n : Int} {c : Char} (mem : c ∈ (toString n).toList) :
    c.isDigit = true ∨ c = '-' := by
  rw [toList_toString] at mem
  rcases List.mem_append.mp mem with mem | mem
  · right
    cases sign : decide (n < 0) <;> rw [sign] at mem
    · cases mem
    · exact List.mem_singleton.mp mem
  · exact .inl (Nat.isDigit_of_mem_toDigits (by decide) (by decide) mem)

theorem clear_repr (n : Int) : ∀ c ∈ (toString n).toList, isMark c = false := by
  intro c mem
  rcases isDigit_or_sign_of_mem_toString mem with digit | rfl
  · exact isMark_of_isDigit digit
  · rfl

theorem open_toDigits (n : Nat) : Open (Nat.toDigits 10 n) := by
  cases shown : Nat.toDigits 10 n with
  | nil => exact absurd shown Nat.toDigits_ne_nil
  | cons c rest =>
      have mem : c ∈ Nat.toDigits 10 n := by simp [shown]
      exact ⟨c, rest, rfl, clear_toDigits (by decide) (by decide) n c mem⟩

theorem toDigits_eq_cons (n : Nat) :
    ∃ c others, Nat.toDigits 10 n = c :: others ∧ c.isDigit = true := by
  obtain ⟨c, others, shown⟩ := List.exists_cons_of_ne_nil (Nat.toDigits_ne_nil (b := 10) (n := n))
  have digit : c.isDigit = true :=
    Nat.isDigit_of_mem_toDigits (by decide) (by decide) (shown ▸ List.mem_cons_self)
  exact ⟨c, others, shown, digit⟩

/-- No number but zero begins with a zero. -/
theorem head?_toDigits {n : Nat} (positive : n ≠ 0) : (Nat.toDigits 10 n).head? ≠ some '0' := by
  induction n using Nat.strongRecOn with
  | ind n ih =>
      rw [Nat.toDigits_eq_if (by decide)]
      split
      case isTrue small =>
        intro same
        have zero : Nat.digitChar n = Nat.digitChar 0 := Option.some.inj same
        exact positive (digitChar_injective (by omega) (by decide) zero)
      case isFalse large =>
        have more := ih (n / 10) (by omega) (by omega)
        cases shown : Nat.toDigits 10 (n / 10) with
        | nil => exact absurd shown Nat.toDigits_ne_nil
        | cons c rest =>
            rw [shown] at more
            exact more

end Containment.Text

namespace Containment.Decimal

attribute [local instance(1100)] instPowNat

theorem isDigit_of_mem_padded {width n : Nat} {c : Char} (mem : c ∈ padded width n) :
    c.isDigit = true := by
  rcases List.mem_append.mp mem with mem | mem
  · rw [List.eq_of_mem_replicate mem]
    rfl
  · exact Nat.isDigit_of_mem_toDigits (by decide) (by decide) mem

@[simp] theorem ofDigitChars_padded (width n : Nat) :
    Nat.ofDigitChars 10 (padded width n) 0 = n := by
  simp [padded, Nat.ofDigitChars_append]

theorem length_padded (width n : Nat) :
    (padded width n).length = max width (Nat.toDigits 10 n).length := by
  simp only [padded, List.length_append, List.length_replicate]
  omega

/-- A number with at most so many digits fills the width. -/
theorem length_padded_of_lt {width n : Nat} (positive : 0 < width) (small : n < 10 ^ width) :
    (padded width n).length = width := by
  have bound := (Nat.length_toDigits_le_iff (b := 10) (by decide) positive).mpr small
  rw [length_padded]
  omega

theorem padded_injective {width m n : Nat} (same : padded width m = padded width n) :
    m = n := by
  rw [← ofDigitChars_padded width m, same, ofDigitChars_padded]

end Containment.Decimal
