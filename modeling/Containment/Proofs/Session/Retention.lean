import Containment.Proofs.Session.History

namespace Containment

/-! What the memory holds after a history. A conversion is recorded if its shape has a key that
is not held at that moment and converts; the memory holds the last of the recorded rules, as
many as fit, and nothing else moves it. -/

namespace Shape

def IsChild (part whole : Shape) : Prop :=
  (∃ items, whole.items? = some items ∧ part ∈ items) ∨
    ∃ entries, whole.entries? = some entries ∧ ∃ entry ∈ entries, part = entry.2

/-- A shape stands inside another one, at any depth. -/
inductive Within (part : Shape) : Shape → Prop where
  | child {whole : Shape} (isChild : IsChild part whole) : Within part whole
  | deeper {middle whole : Shape} (isChild : IsChild middle whole)
      (inside : Within part middle) : Within part whole

theorem IsChild.size_lt {part whole : Shape} (isChild : IsChild part whole) :
    part.size < whole.size := by
  rcases isChild with ⟨items, found, mem⟩ | ⟨entries, found, entry, mem, rfl⟩
  · exact size_lt_of_items? found mem
  · exact size_lt_of_entries? found mem

theorem Within.size_lt {part whole : Shape} (within : part.Within whole) :
    part.size < whole.size := by
  induction within with
  | child isChild => exact isChild.size_lt
  | deeper isChild _ ih => exact Nat.lt_trans ih isChild.size_lt

theorem IsChild.asShown {part whole : Shape} (isChild : IsChild part whole) :
    IsChild part.asShown whole.asShown := by
  rcases isChild with ⟨items, found, mem⟩ | ⟨entries, found, entry, mem, rfl⟩
  · refine .inl ⟨items.map Shape.asShown, ?_, List.mem_map_of_mem mem⟩
    rw [items?_asShown, found, Option.map_some]
  · refine .inr ⟨entries.map (Prod.map Value.asShown Shape.asShown), ?_, _,
      List.mem_map_of_mem mem, rfl⟩
    rw [entries?_asShown, found, Option.map_some]

theorem Within.asShown {part whole : Shape} (within : part.Within whole) :
    part.asShown.Within whole.asShown := by
  induction within with
  | child isChild => exact .child isChild.asShown
  | deeper isChild _ ih => exact .deeper isChild.asShown ih

/-- What a shape is shown as is larger than what any of its parts is shown as. -/
theorem Within.key?_ne {part whole : Shape} {key : String} (within : part.Within whole)
    (keyed : part.key? = some key) : whole.key? ≠ some key := by
  intro keyed'
  have smaller := within.asShown.size_lt
  rw [asShown_eq_of_key? keyed keyed'] at smaller
  exact Nat.lt_irrefl _ smaller

end Shape

namespace Memo

def keys (memo : Memo) : List String :=
  Entries.names memo.entries

variable {memo : Memo} {key : String} {rule : Rule}

theorem lookup?_eq_none_iff : memo.lookup? key = none ↔ key ∉ memo.keys := by
  rw [lookup?_eq_entries]
  exact Entries.lookup?_eq_none_iff

theorem lookup?_of_mem (distinct : memo.keys.Nodup) (mem : (key, rule) ∈ memo.entries) :
    memo.lookup? key = some rule := by
  rw [lookup?_eq_entries]
  exact Entries.lookup?_of_mem distinct mem

theorem mem_keys_of_lookup? (found : memo.lookup? key = some rule) : key ∈ memo.keys :=
  List.mem_map_of_mem (f := Prod.fst) (mem_of_lookup? found)

/-- The memory holds the last of the recorded entries, as many as fit, and no key twice. -/
structure HoldsLast (memo : Memo) (capacity : Nat) (record : List (String × Rule)) : Prop where
  entries_eq : memo.entries = record.drop (record.length - capacity)
  nodup_keys : memo.keys.Nodup

namespace HoldsLast

variable {capacity : Nat} {record : List (String × Rule)}

theorem empty (capacity : Nat) : HoldsLast Memo.empty capacity [] :=
  ⟨List.drop_nil.symm, List.nodup_nil⟩

theorem clear (memo : Memo) (capacity : Nat) : HoldsLast memo.clear capacity [] :=
  ⟨List.drop_nil.symm, List.nodup_nil⟩

theorem of_entries {other : Memo} (holds : memo.HoldsLast capacity record)
    (same : other.entries = memo.entries) : other.HoldsLast capacity record := by
  refine ⟨same.trans holds.entries_eq, ?_⟩
  rw [keys, same]
  exact holds.nodup_keys

theorem size_eq (holds : memo.HoldsLast capacity record) :
    memo.size = min capacity record.length := by
  rw [size, holds.entries_eq, List.length_drop]
  omega

/-- As many of the oldest entries leave as the new one needs room. -/
theorem entries_store (holds : memo.HoldsLast capacity record) (positive : 0 < capacity)
    (key : String) (rule : Rule) :
    (memo.store capacity key rule).entries =
      memo.entries.drop (memo.size + 1 - capacity) ++ [(key, rule)] := by
  have bounded : memo.size ≤ capacity := by
    rw [holds.size_eq]
    exact Nat.min_le_left _ _
  simp only [Memo.store, if_pos positive]
  split
  · rename_i full
    rw [Nat.le_antisymm bounded full, Nat.add_sub_cancel_left]
  · rename_i room
    rw [show memo.size + 1 - capacity = 0 by omega, List.drop_zero]

theorem store (holds : memo.HoldsLast capacity record) (fresh : key ∉ memo.keys) :
    (memo.store capacity key rule).HoldsLast capacity (record ++ [(key, rule)]) := by
  rcases Nat.eq_zero_or_pos capacity with rfl | positive
  · have none : memo.entries = [] := by
      rw [holds.entries_eq, Nat.sub_zero, List.drop_length]
    have stored : (memo.store 0 key rule).entries = [] := by simp [Memo.store, none]
    refine ⟨?_, ?_⟩
    · rw [stored, Nat.sub_zero, List.drop_length]
    · rw [keys, stored]
      exact List.nodup_nil
  · have stored := holds.entries_store positive key rule
    have dropped : record.length - capacity + (memo.size + 1 - capacity) =
        record.length + 1 - capacity := by
      rw [holds.size_eq]
      omega
    refine ⟨?_, ?_⟩
    · rw [stored, holds.entries_eq, List.drop_drop, dropped, List.length_append,
        List.length_singleton, List.drop_append_of_le_length (by omega)]
    · rw [keys, stored, Entries.names, List.map_append]
      refine List.nodup_append.mpr ⟨?_, List.pairwise_singleton _ _, ?_⟩
      · exact holds.nodup_keys.sublist ((List.drop_sublist _ _).map _)
      · rintro kept mem added among rfl
        rw [List.mem_singleton.mp among] at mem
        exact fresh (((List.drop_sublist _ _).map _).subset mem)

end HoldsLast

end Memo

namespace Registry

/-- The entry that a conversion newly makes: the shape has a key that is not held, and
converts. -/
def addition? (registry : Registry) (memo : Memo) (shape : Shape) : Option (String × Rule) :=
  match shape.key?, ((registry.convert shape).run memo).1 with
  | some key, .ok rule => if key ∈ memo.keys then none else some (key, rule)
  | _, _ => none

/-- The entries made since the memory was last cleared, oldest first, after one more
operation. -/
def recordStep (registry : Registry) (memo : Memo) (record : List (String × Rule))
    (operation : Operation) : List (String × Rule) :=
  match operation.shape? with
  | some shape => record ++ (registry.addition? memo shape).toList
  | none => []

def recordFrom (registry : Registry) :
    Memo → List (String × Rule) → List Operation → List (String × Rule)
  | _, record, [] => record
  | memo, record, operation :: rest =>
      registry.recordFrom (registry.step memo operation)
        (registry.recordStep memo record operation) rest

def recordAfter (registry : Registry) (operations : List Operation) : List (String × Rule) :=
  registry.recordFrom Memo.empty [] operations

variable {registry : Registry} {memo : Memo}

theorem memoKey?_eq_key? (caching : registry.caching = true) (shape : Shape) :
    registry.memoKey? shape = shape.key? :=
  if_pos caching

theorem convert_of_lookup? (caching : registry.caching = true) {shape : Shape} {key : String}
    {rule : Rule} (keyed : shape.key? = some key) (found : memo.lookup? key = some rule) :
    (registry.convert shape).run memo = (.ok rule, memo) := by
  rw [run_convert, memoKey?_eq_key? caching, keyed]
  simp only [found]

/-- The entries change by the new one at most, which is stored. -/
theorem entries_convert (caching : registry.caching = true) (memo : Memo) (shape : Shape) :
    ((registry.convert shape).run memo).2.entries =
      match registry.addition? memo shape with
      | none => memo.entries
      | some (key, rule) => (memo.store registry.capacity key rule).entries := by
  rw [addition?]
  cases keyed : shape.key? with
  | none =>
      rw [run_convert, memoKey?_eq_key? caching, keyed]
      rfl
  | some key =>
      cases found : memo.lookup? key with
      | some rule =>
          rw [convert_of_lookup? caching keyed found]
          simp only [if_pos (Memo.mem_keys_of_lookup? found)]
      | none =>
          rw [run_convert, memoKey?_eq_key? caching, keyed]
          simp only [found]
          cases convertAt registry.recognizers memo.runs Location.root shape with
          | error unclaimed => rfl
          | ok rule =>
              simp only [if_neg (Memo.lookup?_eq_none_iff.mp found)]
              rfl

theorem addition?_eq_some {shape : Shape} {key : String} {rule : Rule}
    (new : registry.addition? memo shape = some (key, rule)) :
    shape.key? = some key ∧ key ∉ memo.keys ∧
      ((registry.convert shape).run memo).1 = .ok rule := by
  rw [addition?] at new
  split at new
  · rename_i keyed made
    split at new
    · cases new
    · rename_i fresh
      cases new
      exact ⟨keyed, fresh, made⟩
  · cases new

theorem holdsLast_step (caching : registry.caching = true) {record : List (String × Rule)}
    (holds : memo.HoldsLast registry.capacity record) (operation : Operation) :
    (registry.step memo operation).HoldsLast registry.capacity
      (registry.recordStep memo record operation) := by
  rw [recordStep]
  cases converts : operation.shape? with
  | none =>
      rw [step_of_shape?_eq_none registry converts]
      exact .clear memo registry.capacity
  | some shape =>
      rw [step_of_shape? registry converts]
      have entries := entries_convert caching memo shape
      cases new : registry.addition? memo shape with
      | none =>
          rw [new] at entries
          simp only [new, Option.toList_none, List.append_nil]
          exact holds.of_entries entries
      | some entry =>
          obtain ⟨key, rule⟩ := entry
          rw [new] at entries
          simp only [new, Option.toList_some]
          exact (holds.store (addition?_eq_some new).2.1).of_entries entries

theorem holdsLast_after (caching : registry.caching = true) (operations : List Operation) :
    (registry.after operations).HoldsLast registry.capacity
      (registry.recordAfter operations) := by
  have steps : ∀ (operations : List Operation) (memo : Memo) (record : List (String × Rule)),
      memo.HoldsLast registry.capacity record →
        (operations.foldl registry.step memo).HoldsLast registry.capacity
          (registry.recordFrom memo record operations) := by
    intro operations
    induction operations with
    | nil => exact fun _ _ holds => holds
    | cons operation rest ih =>
        exact fun memo record holds => ih _ _ (holdsLast_step caching holds operation)
  exact steps operations Memo.empty [] (.empty registry.capacity)

theorem addition?_eq_none {shape : Shape}
    (unkept : shape.key? = none ∨
      ∃ unclaimed, ((registry.convert shape).run memo).1 = .error unclaimed) :
    registry.addition? memo shape = none := by
  rw [addition?]
  rcases unkept with unkeyed | ⟨unclaimed, failed⟩
  · rw [unkeyed]
  · rw [failed]
    cases shape.key? <;> rfl

/-- No part gets an entry, since no part has the key of the whole. -/
theorem mem_entries_of_within (caching : registry.caching = true) {shape part : Shape}
    (within : part.Within shape) {key : String} {rule : Rule} (keyed : part.key? = some key)
    (mem : (key, rule) ∈ ((registry.convert shape).run memo).2.entries) :
    (key, rule) ∈ memo.entries := by
  rw [entries_convert caching] at mem
  cases new : registry.addition? memo shape with
  | none =>
      rw [new] at mem
      exact mem
  | some entry =>
      obtain ⟨own, made⟩ := entry
      rw [new] at mem
      rcases Memo.mem_of_mem_store mem with held | same
      · exact held
      · obtain ⟨rfl, rfl⟩ := Prod.mk.inj same
        exact absurd (addition?_eq_some new).1 (within.key?_ne keyed)

/-- After any history the memory holds the last entries made, as many as fit. A shape that is
held gets the very rule that is kept, and the memory does not move; nor do its entries for a
shape without a key, for one that fails to convert, or for the parts of a shape. -/
theorem memory_first_in_first_out (registry : Registry) (caching : registry.caching = true)
    (operations : List Operation) :
    let memo := registry.after operations
    memo.HoldsLast registry.capacity (registry.recordAfter operations) ∧
      memo.size = min registry.capacity (registry.recordAfter operations).length ∧
      ∀ operation shape, operation.shape? = some shape →
        (∀ key rule, shape.key? = some key → (key, rule) ∈ memo.entries →
          ((registry.convert shape).run memo).1 = .ok rule ∧
            registry.step memo operation = memo) ∧
        ((shape.key? = none ∨
            ∃ unclaimed, ((registry.convert shape).run memo).1 = .error unclaimed) →
          (registry.step memo operation).entries = memo.entries) ∧
        ∀ (part : Shape) (key : String) (rule : Rule), part.Within shape →
          part.key? = some key → (key, rule) ∈ (registry.step memo operation).entries →
            (key, rule) ∈ memo.entries := by
  intro memo
  have holds := holdsLast_after caching operations
  refine ⟨holds, holds.size_eq, fun operation shape converts => ?_⟩
  rw [step_of_shape? registry converts]
  refine ⟨?_, ?_, ?_⟩
  · intro key rule keyed mem
    rw [convert_of_lookup? caching keyed (Memo.lookup?_of_mem holds.nodup_keys mem)]
    exact ⟨rfl, rfl⟩
  · intro unkept
    rw [entries_convert caching, addition?_eq_none unkept]
  · exact fun part key rule within keyed => mem_entries_of_within caching within keyed

/-- A hit does not save the oldest entry from being dropped, and a failure drops none. -/
theorem memory_first_in_first_out_at_capacity_two :
    let registry := (Builder.empty.addStandard.withCapacity 2).build
    let operations : List Operation := [.convert .something, .contains .null .nothing,
      .convertToSchema .something, .convert (.value (.float .nan)), .convert .anything]
    registry.caching = true ∧
      (registry.after operations).keys = ["Value(Null)", "Type(Any)"] ∧
      (registry.after operations).HoldsLast 2 (registry.recordAfter operations) ∧
      (registry.recordAfter operations).length = 3 := by
  intro registry operations
  have caching : registry.caching = true := rfl
  exact ⟨caching, by decide, (memory_first_in_first_out registry caching operations).1, by decide⟩

end Registry

end Containment
