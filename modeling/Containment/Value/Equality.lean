import Containment.Value

namespace Containment.Value

/-! Two equalities of values. The equality of the domain compares numbers as numbers,
members by name, and named parts regardless of their order. Identity distinguishes all
that can be told apart. -/

mutual
def equals : Value → Value → Bool
  | .null, .null => true
  | .bool a, .bool b => a == b
  | .int a, .int b => a == b
  | .float a, .float b => a.equals b
  | .bytes a, .bytes b => a == b
  | .str a, .str b => a == b
  | .member a m _, .member b n _ => a == b && m == n
  | .date a, .date b => a == b
  | .time a, .time b => a == b
  | .datetime a, .datetime b => a == b
  | .list as, .list bs => itemsEqual as bs
  | .map as, .map bs => as.length == bs.length && entriesWithin as bs
  | .object a as, .object b bs =>
      a == b && as.length == bs.length && entriesWithin as bs
  | _, _ => false

def itemsEqual : List Value → List Value → Bool
  | [], [] => true
  | a :: as, b :: bs => a.equals b && itemsEqual as bs
  | _, _ => false

/-- Every entry of the first list is found, with an equal value, in the second. -/
def entriesWithin : List (String × Value) → List (String × Value) → Bool
  | [], _ => true
  | (name, a) :: rest, bs =>
      (match Entries.lookup? name bs with
        | some b => a.equals b
        | none => false) && entriesWithin rest bs
end

mutual
def identical : Value → Value → Bool
  | .null, .null => true
  | .bool a, .bool b => a == b
  | .int a, .int b => a == b
  | .float a, .float b => a == b
  | .bytes a, .bytes b => a == b
  | .str a, .str b => a == b
  | .member a m p, .member b n q => a == b && m == n && p.identical q
  | .date a, .date b => a == b
  | .time a, .time b => a == b
  | .datetime a, .datetime b => a == b
  | .list as, .list bs => itemsIdentical as bs
  | .map as, .map bs => entriesIdentical as bs
  | .object a as, .object b bs => a == b && entriesIdentical as bs
  | _, _ => false

def itemsIdentical : List Value → List Value → Bool
  | [], [] => true
  | a :: as, b :: bs => a.identical b && itemsIdentical as bs
  | _, _ => false

def entriesIdentical : List (String × Value) → List (String × Value) → Bool
  | [], [] => true
  | (m, a) :: as, (n, b) :: bs => m == n && a.identical b && entriesIdentical as bs
  | _, _ => false
end

mutual
theorem identical_iff : ∀ a b : Value, a.identical b = true ↔ a = b
  | .member _ _ p, b => by
      cases b <;> simp [identical, identical_iff p, and_assoc]
  | .list as, b => by cases b <;> simp [identical, itemsIdentical_iff as]
  | .map as, b => by cases b <;> simp [identical, entriesIdentical_iff as]
  | .object _ as, b => by cases b <;> simp [identical, entriesIdentical_iff as]
  | .null, b => by cases b <;> simp [identical]
  | .bool _, b => by cases b <;> simp [identical]
  | .int _, b => by cases b <;> simp [identical]
  | .float _, b => by cases b <;> simp [identical]
  | .bytes _, b => by cases b <;> simp [identical]
  | .str _, b => by cases b <;> simp [identical]
  | .date _, b => by cases b <;> simp [identical]
  | .time _, b => by cases b <;> simp [identical]
  | .datetime _, b => by cases b <;> simp [identical]

theorem itemsIdentical_iff : ∀ as bs : List Value, itemsIdentical as bs = true ↔ as = bs
  | [], bs => by cases bs <;> simp [itemsIdentical]
  | a :: as, bs => by
      cases bs <;> simp [itemsIdentical, identical_iff a, itemsIdentical_iff as]

theorem entriesIdentical_iff :
    ∀ as bs : List (String × Value), entriesIdentical as bs = true ↔ as = bs
  | [], bs => by cases bs <;> simp [entriesIdentical]
  | (_, a) :: as, bs => by
      cases bs <;> simp [entriesIdentical, identical_iff a, entriesIdentical_iff as,
        Prod.ext_iff]
end

instance : DecidableEq Value := fun a b =>
  decidable_of_iff (a.identical b = true) (identical_iff a b)

end Containment.Value
