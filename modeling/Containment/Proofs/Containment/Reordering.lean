import Containment.Proofs.Containment.Constant
import Containment.Proofs.Schema.Mismatches

namespace Containment

open Fields (distinctTexts keyText)

/-! The order of the keys of an expected mapping decides nothing but the order of the
mismatches. -/

namespace Shape

/-- Two shapes that differ in the order in which the entries of mappings stand, at any depth
under sequences and mappings, whether these are shapes of parts or constants. -/
inductive Reordered : Shape → Shape → Prop where
  | same (shape : Shape) : Reordered shape shape
  | sequence {shape other : Shape} {parts : List (Shape × Shape)}
      (found : shape.items? = some (parts.map Prod.fst))
      (found' : other.items? = some (parts.map Prod.snd))
      (each : ∀ part ∈ parts, Reordered part.1 part.2) : Reordered shape other
  | mapping {shape other : Shape} {entries : List (Value × Shape)}
      {parts : List (Value × Shape × Shape)} (found : shape.entries? = some entries)
      (shuffled : entries.Perm (parts.map fun part => (part.1, part.2.1)))
      (found' : other.entries? = some (parts.map fun part => (part.1, part.2.2)))
      (each : ∀ part ∈ parts, Reordered part.2.1 part.2.2) : Reordered shape other

theorem distinctTexts_perm {keys others : List Value} (perm : keys.Perm others) :
    distinctTexts keys = distinctTexts others := by
  simp only [distinctTexts, perm.all_eq, (perm.map keyText).nodup_iff]

theorem firstBad?_eq_none_iff_of_items? {shape : Shape} {items : List Shape}
    (found : shape.items? = some items) (location : Location) :
    shape.firstBad? location = none ↔
      ∀ part ∈ items.zipIdx, part.1.firstBad? (location.index part.2) = none := by
  rw [firstBad?_of_items? found, List.findSome?_eq_none_iff, Recognizer.positioned,
    List.forall_mem_map]

theorem firstBad?_eq_none_iff_of_entries? {shape : Shape} {entries : List (Value × Shape)}
    (found : shape.entries? = some entries) (location : Location) :
    shape.firstBad? location = none ↔
      (∀ entry ∈ entries, entry.2.firstBad? (location.field (keyText entry.1)) = none) ∧
        distinctTexts (entries.map Prod.fst) = true := by
  have keys : badKeys? (entries.map Prod.fst) ⟨location, shape⟩ = none ↔
      distinctTexts (entries.map Prod.fst) = true := by simp [badKeys?]
  rw [firstBad?_of_entries? found, Option.or_eq_none_iff, List.findSome?_eq_none_iff, keys]

theorem render_tuple_congr {positions others : List Schema}
    (same : positions.map Schema.render = others.map Schema.render) :
    (Schema.tuple positions).render = (Schema.tuple others).render := by
  cases positions with
  | nil =>
      obtain rfl := List.map_eq_nil_iff.mp same.symm
      rfl
  | cons first rest =>
      cases others with
      | nil => cases same
      | cons first' rest' =>
          simp only [Schema.render, Schema.renderAll_eq_map, same]

namespace Reordered

variable {shape other : Shape}

/-- A reordered shape converts where the shape does. -/
theorem firstBad?_eq_none_iff (reordered : shape.Reordered other) (location : Location) :
    shape.firstBad? location = none ↔ other.firstBad? location = none := by
  induction reordered generalizing location with
  | same => rfl
  | sequence found found' _ ih =>
      rw [firstBad?_eq_none_iff_of_items? found, firstBad?_eq_none_iff_of_items? found']
      simp only [List.zipIdx_map, List.forall_mem_map]
      exact forall₂_congr fun part mem => ih part.1 (List.fst_mem_of_mem_zipIdx mem) _
  | mapping found shuffled found' _ ih =>
      rw [firstBad?_eq_none_iff_of_entries? found, firstBad?_eq_none_iff_of_entries? found',
        distinctTexts_perm (shuffled.map Prod.fst)]
      simp only [shuffled.mem_iff, List.forall_mem_map, List.map_map]
      exact and_congr_left fun _ => forall₂_congr fun part mem => ih part mem _

theorem default?_eq (reordered : shape.Reordered other) :
    shape.rule.default? = other.rule.default? := by
  cases reordered with
  | same => rfl
  | sequence found found' => rw [rule_of_items? found, rule_of_items? found']; rfl
  | mapping found _ found' => rw [rule_of_entries? found, rule_of_entries? found']; rfl

/-- A missing part is described alike: the text of a model is its name. -/
theorem render_eq (reordered : shape.Reordered other) :
    shape.rule.schema.render = other.rule.schema.render := by
  induction reordered with
  | same => rfl
  | sequence found found' _ ih =>
      rw [rule_of_items? found, rule_of_items? found']
      apply render_tuple_congr
      simp only [List.map_map]
      exact List.map_congr_left ih
  | mapping found _ found' => rw [rule_of_entries? found, rule_of_entries? found']; rfl

theorem positionOutcome_perm {location : Location} {item? : Option Value}
    (reordered : shape.Reordered other)
    (ih : ∀ value location, (Report.mismatches (shape.rule.schema.validate value location)).Perm
      (Report.mismatches (other.rule.schema.validate value location))) :
    (Report.mismatches (shape.rule.schema.positionOutcome location item?)).Perm
      (Report.mismatches (other.rule.schema.positionOutcome location item?)) := by
  cases item? with
  | none => rw [Schema.positionOutcome, Schema.positionOutcome, Schema.missing, Schema.missing,
      reordered.render_eq]
  | some item => exact ih item location

theorem fieldOutcome_perm {entries : Entries Value} {location : Location} {name : String}
    (reordered : shape.Reordered other)
    (ih : ∀ value location, (Report.mismatches (shape.rule.schema.validate value location)).Perm
      (Report.mismatches (other.rule.schema.validate value location))) :
    (Report.mismatches (Schema.fieldOutcome entries location (name, shape.rule))).Perm
      (Report.mismatches (Schema.fieldOutcome entries location (name, other.rule))) := by
  simp only [Schema.fieldOutcome, alias?_rule, reordered.default?_eq, Schema.missing,
    reordered.render_eq]
  cases Schema.fieldValue? name none entries with
  | some part => simpa only [Report.mismatches_map] using ih part _
  | none => cases other.rule.default? <;> exact .refl _

theorem mismatches_perm (reordered : shape.Reordered other) (value : Value)
    (location : Location) :
    (Report.mismatches (shape.rule.schema.validate value location)).Perm
      (Report.mismatches (other.rule.schema.validate value location)) := by
  induction reordered generalizing value location with
  | same => exact .refl _
  | sequence found found' each ih =>
      rw [rule_of_items? found, rule_of_items? found']
      cases value with
      | list items =>
          simp only [Slot.required, Schema.mismatches_tuple, List.zipIdx_map, List.flatMap_map,
            List.map_map, List.length_map]
          refine (List.Perm.flatMap_left _ fun part mem => ?_).append_right _
          have among := List.fst_mem_of_mem_zipIdx mem
          exact positionOutcome_perm (each part.1 among) (ih part.1 among)
      | _ => exact .refl _
  | mapping found shuffled found' each ih =>
      rw [rule_of_entries? found, rule_of_entries? found']
      cases named : value.fields? with
      | some entries =>
          simp only [Slot.required, Schema.mismatches_model named, List.flatMap_map]
          refine (shuffled.flatMap_right _).trans ?_
          simp only [List.flatMap_map]
          refine List.Perm.flatMap_left _ fun part mem => ?_
          exact fieldOutcome_perm (each part mem) (ih part mem)
      | none =>
          simp only [Slot.required, Schema.validate, named]
          exact .refl _

end Reordered

/-- A mapping, however it is written, with its own entries in another order. -/
theorem reordered_of_perm {shape other : Shape} {entries others : List (Value × Shape)}
    (found : shape.entries? = some entries) (found' : other.entries? = some others)
    (perm : entries.Perm others) : shape.Reordered other := by
  have unchanged : (others.map fun entry => (entry.1, entry.2, entry.2)).map
      (fun part => (part.1, part.2.1)) = others := by
    rw [List.map_map]
    exact List.map_id others
  refine .mapping found (perm.trans (.of_eq unchanged.symm)) ?_ ?_
  · rw [found', List.map_map]
    exact congrArg some (List.map_id others).symm
  · rw [List.forall_mem_map]
    exact fun entry _ => .same entry.2

end Shape

/-- Both are contained, or both are not and the mismatches are the same but for their order. -/
inductive SameMismatches : Except Failure Unit → Except Failure Unit → Prop where
  | contained : SameMismatches (.ok ()) (.ok ())
  | mismatched {report other : Report} (perm : report.toList.Perm other.toList) :
      SameMismatches (.error (.mismatched report)) (.error (.mismatched other))

theorem sameMismatches_of_perm {outcome other : Except Report Value}
    (perm : (Report.mismatches outcome).Perm (Report.mismatches other)) :
    SameMismatches ((outcome.mapError .mismatched).map fun _ => ())
      ((other.mapError .mismatched).map fun _ => ()) := by
  cases outcome with
  | ok result =>
      cases other with
      | ok result' => exact .contained
      | error report' => exact absurd perm.nil_eq.symm report'.toList_ne_nil
  | error report =>
      cases other with
      | ok result' => exact absurd perm.eq_nil report.toList_ne_nil
      | error report' => exact .mismatched perm

namespace Registry

variable (caching : Bool) (capacity : Nat) (operations others : List Operation)

/-- Shapes that differ in the order of the entries of mappings convert alike. If they convert, they
do so after any history, and come to the same mismatches on every value: at once, and after
histories that have not converted look-alikes of them. -/
theorem key_order_immaterial (shape other : Shape) (reordered : shape.Reordered other) :
    ((∃ rule, ((standard.convert shape).run Memo.empty).1 = .ok rule) ↔
      ∃ rule, ((standard.convert other).run Memo.empty).1 = .ok rule) ∧
    ((∃ rule, ((standard.convert shape).run Memo.empty).1 = .ok rule) →
      (∃ rule, (((standardWith caching capacity).convert shape).run
        ((standardWith caching capacity).after operations)).1 = .ok rule) ∧
      (∃ rule, (((standardWith caching capacity).convert other).run
        ((standardWith caching capacity).after others)).1 = .ok rule) ∧
      ∀ value,
        SameMismatches (Containment.contains value shape) (Containment.contains value other) ∧
        (shape.Unmistaken operations → other.Unmistaken others →
          SameMismatches (containsAfter caching capacity operations value shape)
            (containsAfter caching capacity others value other))) := by
  have clean := reordered.firstBad?_eq_none_iff Location.root
  refine ⟨fresh_convert_ok_iff.trans (clean.trans fresh_convert_ok_iff.symm), fun converts => ?_⟩
  have whole := fresh_convert_ok_iff.mp converts
  have whole' := clean.mp whole
  have answers {caching capacity operations others} (unmistaken : shape.Unmistaken operations)
      (unmistaken' : other.Unmistaken others) (value : Value) :
      SameMismatches (containsAfter caching capacity operations value shape)
        (containsAfter caching capacity others value other) := by
    rw [containsAfter_of_clean unmistaken whole, containsAfter_of_clean unmistaken' whole']
    exact sameMismatches_of_perm (reordered.mismatches_perm value Location.root)
  exact ⟨convert_ok_of_clean operations whole, convert_ok_of_clean others whole', fun value =>
    ⟨answers (.fresh shape) (.fresh other) value, fun unmistaken unmistaken' =>
      answers unmistaken unmistaken' value⟩⟩

/-- The keys of an order and of the constant inside it are shuffled. The value lacks the id, a
line and an item, and has another count. -/
theorem key_order_immaterial_of_order :
    let order : Shape := .dict [(.str "id", .value (.int 7)), (.str "lines",
      .list [.value (.map [("item", .str "tea"), ("count", .int 2)]), .present])]
    let shuffled : Shape := .dict [(.str "lines",
      .list [.value (.map [("count", .int 2), ("item", .str "tea")]), .present]),
      (.str "id", .value (.int 7))]
    let value : Value := .map [("lines", .list [.map [("count", .int 3)]])]
    order.Reordered shuffled ∧
      (∃ rule, ((standard.convert order).run Memo.empty).1 = .ok rule) ∧
      order.Unmistaken [] ∧ shuffled.Unmistaken [.convert order] ∧
      SameMismatches (containsAfter true 1 [] value order)
        (containsAfter true 1 [.convert order] value shuffled) := by
  intro order shuffled value
  have line : Shape.Reordered (.value (.map [("item", .str "tea"), ("count", .int 2)]))
      (.value (.map [("count", .int 2), ("item", .str "tea")])) :=
    Shape.reordered_of_perm rfl rfl (.swap _ _ _)
  have lines : Shape.Reordered
      (.list [.value (.map [("item", .str "tea"), ("count", .int 2)]), .present])
      (.list [.value (.map [("count", .int 2), ("item", .str "tea")]), .present]) := by
    refine @Shape.Reordered.sequence _ _ [(_, _), (_, _)] rfl rfl ?_
    simpa using ⟨line, .same .present⟩
  have reordered : order.Reordered shuffled := by
    refine @Shape.Reordered.mapping _ _ _ [(.str "lines", _, _), (.str "id", _, _)] rfl
      (.swap _ _ _) rfl ?_
    simpa using ⟨lines, .same (.value (.int 7))⟩
  have converts : ∃ rule, ((standard.convert order).run Memo.empty).1 = .ok rule := ⟨_, rfl⟩
  have fresh := Shape.Unmistaken.fresh order
  have unmistaken : shuffled.Unmistaken [.convert order] := .of_shown rfl rfl
  obtain ⟨-, -, answers⟩ :=
    (key_order_immaterial true 1 [] [.convert order] order shuffled reordered).2 converts
  exact ⟨reordered, converts, fresh, unmistaken, (answers value).2 fresh unmistaken⟩

end Registry

end Containment
