import Containment.Proofs.Schema.Declaration
import Containment.Proofs.Schema.Origin
import Containment.Registry

namespace Containment

/-! Conversion of the parts of a shape, and what the recognizers of mappings and sequences
make of the outcomes. -/

def collect {κ : Type} : List (κ × Except Unclaimed Rule) → Except Unclaimed (List (κ × Rule))
  | [] => .ok []
  | (_, .error unclaimed) :: _ => .error unclaimed
  | (key, .ok rule) :: rest => (collect rest).map ((key, rule) :: ·)

/-- The outcome of a conversion, apart from the origin of the checks made in it. -/
def anonymousOutcome (outcome : Except Unclaimed Rule) : Except Unclaimed Rule :=
  outcome.map Rule.anonymous

theorem collect_anonymous {κ : Type} (outcomes : List (κ × Except Unclaimed Rule)) :
    (collect outcomes).map (List.map (Prod.map id Rule.anonymous)) =
      collect (outcomes.map (Prod.map id anonymousOutcome)) := by
  induction outcomes with
  | nil => rfl
  | cons head rest ih =>
      obtain ⟨key, outcome⟩ := head
      cases outcome with
      | error unclaimed => rfl
      | ok rule =>
          simp only [List.map_cons, Prod.map_apply, id_eq, anonymousOutcome, Except.map, collect,
            ← ih]
          cases collect rest <;> rfl

def settled {α : Type} (failure? : Option Unclaimed) (result : α) : Except Unclaimed α :=
  match failure? with
  | some unclaimed => .error unclaimed
  | none => .ok result

theorem collect_settled {κ α : Type} (key : α → κ) (failure? : α → Option Unclaimed)
    (rule : α → Rule) (parts : List α) :
    collect (parts.map fun part => (key part, settled (failure? part) (rule part))) =
      settled (parts.findSome? failure?) (parts.map fun part => (key part, rule part)) := by
  induction parts with
  | nil => rfl
  | cons part rest ih =>
      rw [List.map_cons, List.findSome?_cons]
      cases failure? part with
      | some unclaimed => rfl
      | none =>
          rw [show settled none (rule part) = .ok (rule part) from rfl, collect, ih]
          cases rest.findSome? failure? <;> rfl

/-- A context whose conversion takes shapes of any size. -/
def Context.ofConversion (conversion : Location → Shape → Except Unclaimed Rule) (run : Nat)
    (location : Location) (limit : Nat) : Context limit :=
  ⟨run, location, fun location part _ => conversion location part⟩

theorem Context.convertParts_ofConversion {κ : Type}
    (conversion : Location → Shape → Except Unclaimed Rule) (run : Nat) (location : Location)
    {limit : Nat} (segment : κ → Segment) (parts : List (κ × Shape))
    (smaller : ∀ part ∈ parts, part.2.size < limit) :
    (ofConversion conversion run location limit).convertParts segment parts smaller =
      collect (parts.map fun part =>
        (part.1, conversion (location.push (segment part.1)) part.2)) := by
  induction parts with
  | nil => rfl
  | cons part rest ih =>
      rw [List.map_cons, convertParts, ih]
      simp only [ofConversion]
      cases conversion (location.push (segment part.1)) part.2 with
      | error unclaimed => rfl
      | ok rule =>
          simp only [collect]
          cases collect (rest.map _) <;> rfl

namespace Fields

def isText : Value → Bool
  | .str _ => true
  | _ => false

def keyText : Value → String
  | .str name => name
  | key => key.render

/-- Keys that can name the fields of a model. -/
def distinctTexts (keys : List Value) : Bool :=
  keys.all isText && decide (keys.map keyText).Nodup

theorem distinctTexts_iff {keys : List Value} : distinctTexts keys = true ↔ Declarable keys := by
  have texts : keys.all isText = true ↔ ∀ key ∈ keys, ∃ name, key = .str name := by
    rw [List.all_eq_true]
    refine forall_congr' fun key => imp_congr_right fun _ => ?_
    cases key <;> simp [isText]
  rw [distinctTexts, Bool.and_eq_true, decide_eq_true_eq, texts, Declarable]
  refine and_congr_right fun named => ?_
  have told : ∀ key ∈ keys, ∀ other ∈ keys, keyText key = keyText other → key = other := by
    intro key mem other mem' same
    obtain ⟨name, rfl⟩ := named key mem
    obtain ⟨name', rfl⟩ := named other mem'
    exact congrArg Value.str same
  exact ⟨List.Nodup.of_map keyText, List.Nodup.map_on told⟩

theorem toOption_ofRules (rules : List (Value × Rule)) :
    (ofRules rules).toOption =
      if distinctTexts (rules.map Prod.fst) = true then some (rules.map (Prod.map keyText id))
      else none := by
  split
  · rename_i distinct
    obtain ⟨fields, rfl, names⟩ := declarable_iff.mp (distinctTexts_iff.mp distinct)
    rw [ofRules_eq_ok_iff.mpr ⟨rfl, names⟩, toRules, List.map_map]
    exact congrArg some (List.map_id fields).symm
  · rename_i refused
    cases made : ofRules rules with
    | ok fields =>
        exact absurd (distinctTexts_iff.mpr (declarable_iff.mpr ⟨fields, ofRules_eq_ok_iff.mp made⟩))
          refused
    | error error => rfl

end Fields

namespace Shape

/-- A part of a shape, and its place where the shape stands at the location. -/
inductive ChildAt (whole : Shape) (location : Location) : Shape → Location → Prop where
  | item {items : List Shape} (found : whole.items? = some items) {part : Nat × Shape}
      (mem : part ∈ Recognizer.positioned items) :
      ChildAt whole location part.2 (location.index part.1)
  | value {entries : List (Value × Shape)} (found : whole.entries? = some entries)
      {entry : Value × Shape} (mem : entry ∈ entries) :
      ChildAt whole location entry.2 (location.field (Fields.keyText entry.1))

theorem ChildAt.size_lt {whole part : Shape} {location place : Location}
    (child : ChildAt whole location part place) : part.size < whole.size := by
  cases child with
  | item found mem => exact size_lt_of_items? found (Recognizer.mem_of_mem_positioned mem)
  | value found mem => exact size_lt_of_entries? found mem

end Shape

namespace Recognizer

open Registry

variable (conversion : Location → Shape → Except Unclaimed Rule) (recognizers : List Recognizer)
  (run : Nat) (location : Location)

theorem keySegment_eq (key : Value) : keySegment key = .field (Fields.keyText key) := by
  cases key <;> rfl

theorem mapping_pass {shape : Shape} (found : shape.entries? = none)
    (context : Context shape.size) : mapping.recognize shape context = .ok none := by
  simp only [mapping]
  split
  case h_1 => rfl
  case h_2 other => rw [found] at other; cases other

theorem mapping_ofConversion {shape : Shape} {entries : List (Value × Shape)}
    (found : shape.entries? = some entries) :
    mapping.recognize shape (.ofConversion conversion run location shape.size) =
      (collect (entries.map fun entry => (entry.1,
        conversion (location.field (Fields.keyText entry.1)) entry.2))).map
        fun rules => (Fields.ofRules rules).toOption.map fun fields =>
          .required (.model modelName fields) := by
  simp only [mapping]
  split
  case h_1 other => rw [found] at other; cases other
  case h_2 entries' other =>
    obtain rfl : entries = entries' := Option.some.inj (found.symm.trans other)
    rw [Context.convertParts_ofConversion]
    simp only [keySegment_eq, Location.field]
    cases collect _ with
    | error unclaimed => rfl
    | ok rules =>
        simp only [Except.map]
        cases Fields.ofRules rules <;> rfl

theorem recognize_mapping {shape : Shape} {entries : List (Value × Shape)}
    (found : shape.entries? = some entries) :
    mapping.recognize shape (contextOf recognizers run location shape.size) =
      (collect (entries.map fun entry => (entry.1,
        convertAt recognizers run (location.field (Fields.keyText entry.1)) entry.2))).map
        fun rules => (Fields.ofRules rules).toOption.map fun fields =>
          .required (.model modelName fields) :=
  mapping_ofConversion (convertAt recognizers run) run location found

theorem sequence_pass {shape : Shape} (found : shape.items? = none)
    (context : Context shape.size) : sequence.recognize shape context = .ok none := by
  simp only [sequence]
  split
  case h_1 => rfl
  case h_2 other => rw [found] at other; cases other

theorem sequence_ofConversion {shape : Shape} {items : List Shape}
    (found : shape.items? = some items) :
    sequence.recognize shape (.ofConversion conversion run location shape.size) =
      (collect ((positioned items).map fun part =>
        (part.1, conversion (location.index part.1) part.2))).map
        fun rules => some (.required (.tuple (rules.map fun rule => rule.2.schema))) := by
  simp only [sequence]
  split
  case h_1 other => rw [found] at other; cases other
  case h_2 items' other =>
    obtain rfl : items = items' := Option.some.inj (found.symm.trans other)
    rw [Context.convertParts_ofConversion]
    simp only [Location.index]
    cases collect _ <;> rfl

theorem recognize_sequence {shape : Shape} {items : List Shape}
    (found : shape.items? = some items) :
    sequence.recognize shape (contextOf recognizers run location shape.size) =
      (collect ((positioned items).map fun part =>
        (part.1, convertAt recognizers run (location.index part.1) part.2))).map
        fun rules => some (.required (.tuple (rules.map fun rule => rule.2.schema))) :=
  sequence_ofConversion (convertAt recognizers run) run location found

end Recognizer

theorem firstClaim_append {shape : Shape} {context : Context shape.size}
    {recognizers : List Recognizer} (others : List Recognizer)
    (pass : ∀ recognizer ∈ recognizers, recognizer.recognize shape context = .ok none) :
    firstClaim shape context (recognizers ++ others) = firstClaim shape context others := by
  induction recognizers with
  | nil => rfl
  | cons recognizer rest ih =>
      obtain ⟨head, tail⟩ := List.forall_mem_cons.mp pass
      rw [List.cons_append, firstClaim, head]
      exact ih tail

end Containment
