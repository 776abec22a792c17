import Containment.Proofs.Collection.Item
import Containment.Proofs.Collection.Occurrences

namespace Containment

namespace Collection

/-! What the inspection of a list answers, and that the order of the list and of the required
items is of no importance to it. -/

theorem isAmong_occurrences_iff {count : Nat} {elements : List Literal} {literal : Literal} :
    literal.IsAmong (occurrences Literal.sameItem count [] elements) ↔
      count < elements.countP literal.sameItem :=
  exists_mem_occurrences_iff Literal.sameItem Literal.sameItem_equivalence

theorem isAmong_repeated_iff {literals : List Literal} {literal : Literal} :
    literal.IsAmong (repeated Literal.sameItem literals) ↔
      2 ≤ literals.countP literal.sameItem :=
  isAmong_occurrences_iff

theorem isAmong_lacking_iff {items others : List Literal} {literal : Literal} :
    literal.IsAmong (lacking items others) ↔
      literal.IsAmong items ∧ ¬ literal.IsAmong others := by
  have among : literal.IsAmong items ↔ literal.IsAmong (distinct Literal.sameItem items) := by
    rw [distinct, isAmong_occurrences_iff, Literal.isAmong_iff_count]
  rw [among]
  constructor
  · rintro ⟨other, mem, same⟩
    obtain ⟨mem, absent⟩ := List.mem_filter.mp mem
    rw [Literal.not_any_sameItem_iff] at absent
    exact ⟨⟨other, mem, same⟩,
      fun present => absent (present.of_same (Literal.sameItem_equivalence.symm same))⟩
  · rintro ⟨⟨other, mem, same⟩, absent⟩
    refine ⟨other, List.mem_filter.mpr ⟨mem, ?_⟩, same⟩
    rw [Literal.not_any_sameItem_iff]
    exact fun present => absent (present.of_same same)

theorem picks_lacking (items others : List Literal) :
    Picks items
      (fun position item =>
        countBefore Literal.sameItem items position item = 0 ∧ ¬ item.IsAmong others)
      (lacking items others) := by
  refine ((picks_occurrences Literal.sameItem 0 items).filter _).congr fun position item _ => ?_
  rw [Literal.not_any_sameItem_iff]

theorem lacking_eq_nil_iff {items others : List Literal} :
    lacking items others = [] ↔ ∀ item ∈ items, item.IsAmong others := by
  rw [Literal.eq_nil_iff_none_among]
  simp only [isAmong_lacking_iff, not_and, Classical.not_not]
  constructor
  · exact fun all item mem => all item (.of_mem mem)
  · rintro all literal ⟨item, mem, same⟩
    exact (all item mem).of_same same

theorem repeated_eq_nil_iff {literals : List Literal} :
    repeated Literal.sameItem literals = [] ↔
      ∀ literal ∈ literals, ¬ 2 ≤ literals.countP literal.sameItem := by
  rw [Literal.eq_nil_iff_none_among]
  simp only [isAmong_repeated_iff]
  constructor
  · exact fun all literal _ => all literal
  · intro all literal twice
    obtain ⟨other, mem, same⟩ :=
      Literal.isAmong_iff_count.mpr (Nat.lt_of_lt_of_le Nat.zero_lt_two twice)
    have once := all other mem
    rw [same_eq_of_same Literal.sameItem_equivalence same] at once
    exact once twice

/-- The elements of a list are literals. -/
def Reads (elements : List Value) (literals : List Literal) : Prop :=
  elements.map Literal.ofValue? = literals.map some

variable {collection : Collection} {elements : List Value} {literals : List Literal}

/-- All required items occur. -/
def Complete (collection : Collection) (literals : List Literal) : Prop :=
  ∀ item ∈ collection.items, item.IsAmong literals

/-- Only required items occur, if this is checked. -/
def Closed (collection : Collection) (literals : List Literal) : Prop :=
  collection.checkExtra = true → ∀ literal ∈ literals, literal.IsAmong collection.items

/-- No item occurs twice, if this is checked. -/
def Once (collection : Collection) (literals : List Literal) : Prop :=
  collection.checkRepeats = true → ∀ literal ∈ literals, ¬ 2 ≤ literals.countP literal.sameItem

/-- What a collection answers to a list. Of several literals that are one item, those missing
and the extra ones are told by their first occurrence, the repeated ones by their second. -/
inductive Verdict (collection : Collection) (elements : List Value) :
    Except Discrepancy Unit → Prop where
  | unhashable {unhashable : List Value}
      (present : ∃ element ∈ elements, Literal.ofValue? element = none)
      (picks : Picks elements (fun _ element => Literal.ofValue? element = none) unhashable) :
      Verdict collection elements (.error (.unhashable unhashable))
  | missing {literals missing : List Literal} (reads : Reads elements literals)
      (incomplete : ¬ collection.Complete literals)
      (picks : Picks collection.items
        (fun position item => countBefore Literal.sameItem collection.items position item = 0 ∧
          ¬ item.IsAmong literals) missing) :
      Verdict collection elements (.error (.missing missing))
  | extra {literals extra : List Literal} (reads : Reads elements literals)
      (complete : collection.Complete literals) (surplus : ¬ collection.Closed literals)
      (picks : Picks literals
        (fun position literal => countBefore Literal.sameItem literals position literal = 0 ∧
          ¬ literal.IsAmong collection.items) extra) :
      Verdict collection elements (.error (.extra extra))
  | repeats {literals repeats : List Literal} (reads : Reads elements literals)
      (complete : collection.Complete literals) (closed : collection.Closed literals)
      (again : ¬ collection.Once literals)
      (picks : Picks literals
        (fun position literal => countBefore Literal.sameItem literals position literal = 1)
        repeats) :
      Verdict collection elements (.error (.repeats repeats))
  | accepted {literals : List Literal} (reads : Reads elements literals)
      (complete : collection.Complete literals) (closed : collection.Closed literals)
      (once : collection.Once literals) :
      Verdict collection elements (.ok ())

theorem exists_reads (hashable : ∀ element ∈ elements, Literal.ofValue? element ≠ none) :
    ∃ literals, Reads elements literals := by
  induction elements with
  | nil => exact ⟨[], rfl⟩
  | cons element rest ih =>
      obtain ⟨literals, reads⟩ := ih fun other mem => hashable other (.tail element mem)
      obtain ⟨literal, read⟩ := Option.ne_none_iff_exists'.mp (hashable element (.head rest))
      exact ⟨literal :: literals, by rw [Reads, List.map_cons, read, reads, List.map_cons]⟩

theorem inspect_of_reads (reads : Reads elements literals) :
    collection.inspect (.list elements) = collection.compare literals := by
  have hashable : elements.filter (fun element => (Literal.ofValue? element).isNone) = [] := by
    rw [List.filter_eq_nil_iff]
    intro element mem
    have read : Literal.ofValue? element ∈ literals.map some :=
      reads ▸ List.mem_map_of_mem mem
    obtain ⟨literal, -, same⟩ := List.mem_map.mp read
    simp [← same]
  have kept : elements.filterMap Literal.ofValue? = literals := by
    have mapped : elements.filterMap Literal.ofValue? =
        (elements.map Literal.ofValue?).filterMap id := by simp
    rw [mapped, reads]
    simp
  simp only [inspect, hashable, kept, List.isEmpty_nil, if_true]

theorem inspect_of_unhashable (present : ∃ element ∈ elements, Literal.ofValue? element = none) :
    collection.inspect (.list elements) =
      .error (.unhashable (elements.filter fun element => (Literal.ofValue? element).isNone)) := by
  obtain ⟨element, mem, none⟩ := present
  have nonempty : elements.filter (fun element => (Literal.ofValue? element).isNone) ≠ [] :=
    List.ne_nil_of_mem (List.mem_filter.mpr ⟨mem, by rw [none]; rfl⟩)
  rw [inspect, if_neg (by simpa using nonempty)]

theorem complete_iff :
    collection.Complete literals ↔ (lacking collection.items literals).isEmpty = true := by
  rw [List.isEmpty_iff, lacking_eq_nil_iff, Complete]

theorem closed_iff : collection.Closed literals ↔
    ¬ (collection.checkExtra && !(lacking literals collection.items).isEmpty) = true := by
  simp [Closed, lacking_eq_nil_iff]

theorem once_iff : collection.Once literals ↔
    ¬ (collection.checkRepeats && !(repeated Literal.sameItem literals).isEmpty) = true := by
  simp [Once, repeated_eq_nil_iff]

theorem compare_of_incomplete (incomplete : ¬ collection.Complete literals) :
    collection.compare literals = .error (.missing (lacking collection.items literals)) := by
  rw [complete_iff] at incomplete
  simp only [compare, incomplete, Bool.not_false, if_true]

theorem compare_of_complete (complete : collection.Complete literals) :
    collection.compare literals =
      if collection.checkExtra && !(lacking literals collection.items).isEmpty then
        .error (.extra (lacking literals collection.items))
      else if collection.checkRepeats && !(repeated Literal.sameItem literals).isEmpty then
        .error (.repeats (repeated Literal.sameItem literals))
      else .ok () := by
  rw [complete_iff] at complete
  simp only [compare, complete, Bool.not_true, Bool.false_eq_true, if_false]

theorem compare_of_surplus (complete : collection.Complete literals)
    (surplus : ¬ collection.Closed literals) :
    collection.compare literals = .error (.extra (lacking literals collection.items)) := by
  rw [closed_iff, Classical.not_not] at surplus
  rw [compare_of_complete complete, if_pos surplus]

theorem compare_of_closed (complete : collection.Complete literals)
    (closed : collection.Closed literals) :
    collection.compare literals =
      if collection.checkRepeats && !(repeated Literal.sameItem literals).isEmpty then
        .error (.repeats (repeated Literal.sameItem literals))
      else .ok () := by
  rw [compare_of_complete complete, if_neg (closed_iff.mp closed)]

theorem compare_of_again (complete : collection.Complete literals)
    (closed : collection.Closed literals) (again : ¬ collection.Once literals) :
    collection.compare literals = .error (.repeats (repeated Literal.sameItem literals)) := by
  rw [once_iff, Classical.not_not] at again
  rw [compare_of_closed complete closed, if_pos again]

theorem compare_of_once (complete : collection.Complete literals)
    (closed : collection.Closed literals) (once : collection.Once literals) :
    collection.compare literals = .ok () := by
  rw [compare_of_closed complete closed, if_neg (once_iff.mp once)]

theorem verdict_inspect (collection : Collection) (elements : List Value) :
    Verdict collection elements (collection.inspect (.list elements)) := by
  -- The cases follow the order in which the conditions are asked; each leaves its negation.
  by_cases present : ∃ element ∈ elements, Literal.ofValue? element = none
  case pos =>
    rw [inspect_of_unhashable present]
    refine .unhashable present ((picks_filter elements _).congr fun _ element _ => ?_)
    rw [Option.isNone_iff_eq_none]
  obtain ⟨literals, reads⟩ := exists_reads fun element mem none => present ⟨element, mem, none⟩
  rw [inspect_of_reads reads]
  by_cases complete : collection.Complete literals
  case neg =>
    rw [compare_of_incomplete complete]
    exact .missing reads complete (picks_lacking collection.items literals)
  by_cases closed : collection.Closed literals
  case neg =>
    rw [compare_of_surplus complete closed]
    exact .extra reads complete closed (picks_lacking literals collection.items)
  by_cases once : collection.Once literals
  case neg =>
    rw [compare_of_again complete closed once]
    exact .repeats reads complete closed once (picks_occurrences Literal.sameItem 1 literals)
  rw [compare_of_once complete closed once]
  exact .accepted reads complete closed once

theorem inspect_of_verdict {outcome : Except Discrepancy Unit}
    (verdict : Verdict collection elements outcome) :
    collection.inspect (.list elements) = outcome := by
  cases verdict with
  | unhashable present picks =>
      rw [inspect_of_unhashable present]
      have all := (picks_filter elements fun element => (Literal.ofValue? element).isNone).congr
        fun _ element _ => Option.isNone_iff_eq_none
      rw [all.unique picks]
  | missing reads incomplete picks =>
      rw [inspect_of_reads reads, compare_of_incomplete incomplete,
        (picks_lacking _ _).unique picks]
  | extra reads complete surplus picks =>
      rw [inspect_of_reads reads, compare_of_surplus complete surplus,
        (picks_lacking _ _).unique picks]
  | repeats reads complete closed again picks =>
      rw [inspect_of_reads reads, compare_of_again complete closed again, repeated,
        (picks_occurrences _ _ _).unique picks]
  | accepted reads complete closed once =>
      rw [inspect_of_reads reads, compare_of_once complete closed once]

/-- Answers of one category that report the same items, those unhashable in any order. -/
inductive SameAnswer : Except Discrepancy Unit → Except Discrepancy Unit → Prop where
  | unhashable {elements others : List Value} (perm : elements.Perm others) :
      SameAnswer (.error (.unhashable elements)) (.error (.unhashable others))
  | missing {items others : List Literal} (same : SameItems items others) :
      SameAnswer (.error (.missing items)) (.error (.missing others))
  | extra {items others : List Literal} (same : SameItems items others) :
      SameAnswer (.error (.extra items)) (.error (.extra others))
  | repeats {items others : List Literal} (same : SameItems items others) :
      SameAnswer (.error (.repeats items)) (.error (.repeats others))
  | accepted : SameAnswer (.ok ()) (.ok ())

theorem sameItems_lacking {items others literals texts : List Literal}
    (same : SameItems items others) (alike : SameItems literals texts) :
    SameItems (lacking items literals) (lacking others texts) := by
  intro literal
  rw [isAmong_lacking_iff, isAmong_lacking_iff, same literal, alike literal]

theorem sameItems_repeated {literals others : List Literal} (perm : literals.Perm others) :
    SameItems (repeated Literal.sameItem literals) (repeated Literal.sameItem others) := by
  intro literal
  rw [isAmong_repeated_iff, isAmong_repeated_iff, perm.countP_eq]

theorem sameAnswer_compare {items others : List Literal}
    (same : SameItems collection.items items) (perm : literals.Perm others) :
    SameAnswer (collection.compare literals) (({ collection with items }).compare others) := by
  have missing := sameItems_lacking same (.of_perm perm)
  have extra := sameItems_lacking (.of_perm perm) same
  have repeats := sameItems_repeated perm
  simp only [compare, missing.isEmpty_eq, extra.isEmpty_eq, repeats.isEmpty_eq]
  split
  case isTrue => exact .missing missing
  split
  case isTrue => exact .extra extra
  split
  case isTrue => exact .repeats repeats
  exact .accepted

theorem sameAnswer_inspect {items : List Literal} {others : List Value}
    (same : SameItems collection.items items) (perm : elements.Perm others) :
    SameAnswer (collection.inspect (.list elements))
      (({ collection with items }).inspect (.list others)) := by
  have unhashable := perm.filter fun element => (Literal.ofValue? element).isNone
  have literals := sameAnswer_compare same (perm.filterMap Literal.ofValue?)
  simp only [inspect, unhashable.isEmpty_eq]
  split
  case isTrue => exact literals
  case isFalse => exact .unhashable unhashable

/-- A collection is made of the items asked for, however many literals are one of them. -/
theorem sameItems_ofItems (items : List Literal) : SameItems items (ofItems items).items := by
  intro literal
  constructor
  · rintro ⟨item, mem, same⟩
    have occurs : 0 < items.countP item.agrees :=
      List.countP_pos_iff.mpr ⟨item, mem, Literal.agrees_equivalence.refl item⟩
    obtain ⟨kept, mem, agrees⟩ :=
      (exists_mem_occurrences_iff Literal.agrees Literal.agrees_equivalence).mpr occurs
    exact ⟨kept, mem,
      Literal.sameItem_equivalence.trans same (Literal.sameItem_of_agrees agrees)⟩
  · rintro ⟨item, mem, same⟩
    obtain ⟨position, found, -⟩ := (picks_occurrences Literal.agrees 0 items).mem_iff.mp mem
    exact ⟨item, List.mem_of_getElem? found, same⟩

/-- The check of a list answers as the first of its conditions that fails tells, and no order
of the list or of the required items changes what is answered and for which items. -/
theorem check_by_items (collection : Collection) (elements : List Value) :
    (∃ outcome, Verdict collection elements outcome) ∧
      (∀ outcome, Verdict collection elements outcome →
        collection.inspect (.list elements) = outcome ∧
        collection.toGenerator.check (.list elements) = outcome.mapError Discrepancy.render) ∧
      (∀ items others, collection.items.Perm items → elements.Perm others →
        SameAnswer (collection.inspect (.list elements))
          (({ collection with items }).inspect (.list others))) ∧
      (∀ required reordered others, collection.items = (ofItems required).items →
        required.Perm reordered → elements.Perm others →
        SameAnswer (collection.inspect (.list elements))
          (({ collection with items := (ofItems reordered).items }).inspect (.list others))) := by
  refine ⟨⟨_, verdict_inspect collection elements⟩, fun outcome verdict => ?_,
    fun items others same perm => sameAnswer_inspect (.of_perm same) perm,
    fun required reordered others made same perm => sameAnswer_inspect ?_ perm⟩
  · have inspected := inspect_of_verdict verdict
    exact ⟨inspected, congrArg (Except.mapError Discrepancy.render) inspected⟩
  · rw [made]
    exact (sameItems_ofItems required).symm.trans
      ((SameItems.of_perm same).trans (sameItems_ofItems reordered))

/-- One and true are one item, told by whichever of them comes second. -/
theorem check_by_items_of_one_twice :
    Verdict (ofItems [.int 1, .int 2]) [.bool true, .int 2, .int 1]
      (.error (.repeats [.int 1])) ∧
    (ofItems [.int 1, .int 2]).toGenerator.check (.list [.bool true, .int 2, .int 1]) =
      .error "repeating items found: {1}" ∧
    [Literal.int 1, .int 2].Perm [.int 2, .int 1] ∧
    [Value.bool true, .int 2, .int 1].Perm [.int 2, .int 1, .bool true] ∧
    SameAnswer
      ((ofItems [.int 1, .int 2]).inspect (.list [.bool true, .int 2, .int 1]))
      (({ ofItems [.int 1, .int 2] with items := [.int 2, .int 1] }).inspect
        (.list [.int 2, .int 1, .bool true])) ∧
    SameAnswer
      ((ofItems [.int 1, .int 2]).inspect (.list [.bool true, .int 2, .int 1]))
      (({ ofItems [.int 1, .int 2] with items := (ofItems [.int 2, .int 1]).items }).inspect
        (.list [.int 2, .int 1, .bool true])) := by
  have verdict : Verdict (ofItems [.int 1, .int 2]) [.bool true, .int 2, .int 1]
      (.error (.repeats [.int 1])) := verdict_inspect _ _
  have reordered : [Literal.int 1, .int 2].Perm [.int 2, .int 1] := .swap _ _ _
  have moved : [Value.bool true, .int 2, .int 1].Perm [.int 2, .int 1, .bool true] :=
    (List.Perm.swap _ _ _).trans (.cons _ (.swap _ _ _))
  obtain ⟨-, told, permuted, remade⟩ :=
    check_by_items (ofItems [.int 1, .int 2]) [.bool true, .int 2, .int 1]
  exact ⟨verdict, (told _ verdict).2, reordered, moved, permuted _ _ reordered moved,
    remade _ _ _ rfl reordered moved⟩

end Collection

end Containment
