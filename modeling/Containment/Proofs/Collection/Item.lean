import Containment.Collection

namespace Containment

/-! When two literals are one item, and which items a list holds. -/

attribute [local instance(1100)] instPowNat

namespace Binary64

/-- What numbers are compared by; the two zeros have one. -/
def worth : Binary64 → Option (Bool ⊕ Int)
  | .nan => none
  | .infinite negative => some (.inl negative)
  | .finite negative mantissa scale _ => some (.inr (signed negative (mantissa * 2 ^ scale)))

theorem agrees_iff {x y : Binary64} : agrees x y = true ↔ x.worth = y.worth := by
  cases x <;> cases y <;> simp [agrees, worth, equals, isNan]

theorem units?_eq_worth (x : Binary64) : x.units? = x.worth.bind Sum.getRight? := by
  cases x <;> rfl

theorem toInt?_of_worth {x y : Binary64} (worth : x.worth = y.worth) :
    x.toInt? = y.toInt? := by
  rw [toInt?, toInt?, units?_eq_worth, units?_eq_worth, worth]

end Binary64

namespace Literal

/-- What literals in a set are compared by. -/
inductive Identity where
  | bool (flag : Bool)
  | int (number : Int64)
  | float (worth : Option (Bool ⊕ Int))
  | bytes (content : List UInt8)
  | str (text : String)
  | member (enumeration name : String)

def identity : Literal → Identity
  | .bool flag => .bool flag
  | .int number => .int number
  | .float number => .float number.worth
  | .bytes content => .bytes content
  | .str text => .str text
  | .member enumeration name _ => .member enumeration name

theorem agrees_iff {a b : Literal} : a.agrees b = true ↔ a.identity = b.identity := by
  cases a <;> cases b <;> simp [agrees, identity, Binary64.agrees_iff]

end Literal

namespace ItemKey

def identity : ItemKey → Int ⊕ Option (Bool ⊕ Int) ⊕ Literal.Identity
  | .whole number => .inl number
  | .fractional number => .inr (.inl number.worth)
  | .other literal => .inr (.inr literal.identity)

theorem same_iff {a b : ItemKey} : a.same b = true ↔ a.identity = b.identity := by
  cases a <;> cases b <;> simp [same, identity, Binary64.agrees_iff, Literal.agrees_iff]

end ItemKey

namespace ItemKey

theorem ofLiteral_member (enumeration name : String) (payload : Value) :
    ofLiteral (.member enumeration name payload) = .other (.member enumeration name payload) :=
  rfl

theorem identity_ofLiteral_float {x y : Binary64} (worth : x.worth = y.worth) :
    (ofLiteral (.float x)).identity = (ofLiteral (.float y)).identity := by
  have whole := Binary64.toInt?_of_worth worth
  simp only [ofLiteral, whole]
  cases y.toInt?.bind Numeral.int64? with
  | some value => rfl
  | none => simp [identity, worth]

end ItemKey

namespace Literal

theorem agrees_equivalence : Equivalence fun a b : Literal => a.agrees b = true := by
  simp only [agrees_iff]
  exact ⟨fun _ => rfl, Eq.symm, Eq.trans⟩

theorem sameItem_equivalence : Equivalence fun a b : Literal => a.sameItem b = true := by
  simp only [sameItem, ItemKey.same_iff]
  exact ⟨fun _ => rfl, Eq.symm, Eq.trans⟩

/-- Literals that a set holds as one are one item. -/
theorem sameItem_of_agrees {a b : Literal} (agrees : a.agrees b = true) :
    a.sameItem b = true := by
  rw [sameItem, ItemKey.same_iff]
  cases a <;> cases b <;> simp only [Literal.agrees, Bool.false_eq_true] at agrees
  case bool.bool => rw [beq_iff_eq.mp agrees]
  case int.int => rw [beq_iff_eq.mp agrees]
  case float.float => exact ItemKey.identity_ofLiteral_float (Binary64.agrees_iff.mp agrees)
  case bytes.bytes => rw [beq_iff_eq.mp agrees]
  case str.str => rw [beq_iff_eq.mp agrees]
  case member.member =>
    simp only [Bool.and_eq_true, beq_iff_eq] at agrees
    simp [ItemKey.ofLiteral_member, ItemKey.identity, identity, agrees]

/-- A list holds a literal that is the same item. -/
def IsAmong (literal : Literal) (others : List Literal) : Prop :=
  ∃ other ∈ others, literal.sameItem other = true

theorem IsAmong.of_mem {literal : Literal} {others : List Literal} (mem : literal ∈ others) :
    literal.IsAmong others :=
  ⟨literal, mem, sameItem_equivalence.refl literal⟩

theorem IsAmong.of_same {literal other : Literal} {others : List Literal}
    (among : literal.IsAmong others) (same : other.sameItem literal = true) :
    other.IsAmong others := by
  obtain ⟨another, mem, equal⟩ := among
  exact ⟨another, mem, sameItem_equivalence.trans same equal⟩

theorem isAmong_iff_count {literal : Literal} {others : List Literal} :
    literal.IsAmong others ↔ 0 < others.countP literal.sameItem :=
  List.countP_pos_iff.symm

theorem not_any_sameItem_iff {literal : Literal} {others : List Literal} :
    (!others.any literal.sameItem) = true ↔ ¬ literal.IsAmong others := by
  rw [Bool.not_eq_true', ← Bool.not_eq_true, List.any_eq_true, IsAmong]

theorem eq_nil_iff_none_among {literals : List Literal} :
    literals = [] ↔ ∀ literal : Literal, ¬ literal.IsAmong literals := by
  constructor
  · rintro rfl literal ⟨other, mem, -⟩
    exact List.not_mem_nil mem
  · intro none
    rw [List.eq_nil_iff_forall_not_mem]
    exact fun literal mem => none literal (.of_mem mem)

end Literal

/-- Two lists hold the same items, in any order and any number. -/
def SameItems (literals others : List Literal) : Prop :=
  ∀ literal : Literal, literal.IsAmong literals ↔ literal.IsAmong others

namespace SameItems

variable {literals others : List Literal}

theorem symm (same : SameItems literals others) : SameItems others literals :=
  fun literal => (same literal).symm

theorem trans {further : List Literal} (same : SameItems literals others)
    (again : SameItems others further) : SameItems literals further :=
  fun literal => (same literal).trans (again literal)

theorem of_perm (perm : literals.Perm others) : SameItems literals others := by
  intro literal
  rw [Literal.isAmong_iff_count, Literal.isAmong_iff_count, perm.countP_eq]

theorem isEmpty_eq (same : SameItems literals others) : literals.isEmpty = others.isEmpty := by
  rw [Bool.eq_iff_iff, List.isEmpty_iff, List.isEmpty_iff, Literal.eq_nil_iff_none_among,
    Literal.eq_nil_iff_none_among]
  exact forall_congr' fun literal => not_congr (same literal)

end SameItems

end Containment
