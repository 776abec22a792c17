import Containment.Fields
import Containment.Proofs.Report
import Mathlib.Data.List.Nodup

namespace Containment

/-! Models declared by rules. Keys that are different texts name the fields, in their order.
Otherwise the first key that is no text, or a text that was declared before, is told. -/

namespace Entries

variable {α : Type}

theorem names_append (entries others : Entries α) :
    names (entries ++ others) = names entries ++ names others :=
  List.map_append

theorem insert_of_new {name : String} {entries : Entries α} (new : name ∉ entries.names)
    (value : α) : entries.insert name value = entries ++ [(name, value)] := by
  induction entries with
  | nil => rfl
  | cons entry rest ih =>
      obtain ⟨other, later⟩ := not_or.mp (mt List.mem_cons.mpr new)
      rw [insert, if_neg (Ne.symm other), ih later, List.cons_append]

theorem foldl_insert_of_distinct {entries pairs : Entries α}
    (distinct : (entries ++ pairs : Entries α).names.Nodup) :
    pairs.foldl (fun entries pair => Entries.insert pair.1 pair.2 entries) entries =
      entries ++ pairs := by
  induction pairs generalizing entries with
  | nil => exact (List.append_nil entries).symm
  | cons pair rest ih =>
      have new : pair.1 ∉ entries.names := by
        rw [names_append] at distinct
        exact fun known => (List.nodup_append.mp distinct).2.2 _ known _ (.head _) rfl
      rw [List.foldl_cons, insert_of_new new, ih, List.append_assoc, List.singleton_append]
      rwa [List.append_assoc, List.singleton_append]

theorem ofList_of_distinct {pairs : Entries α} (distinct : pairs.names.Nodup) :
    ofList pairs = pairs :=
  foldl_insert_of_distinct distinct

end Entries

namespace Fields

/-- The rules that are keyed by the names of given fields. -/
def toRules (fields : Entries Rule) : List (Value × Rule) :=
  fields.map (Prod.map Value.str id)

theorem keys_toRules (fields : Entries Rule) :
    (toRules fields).map Prod.fst = fields.names.map Value.str := by
  rw [toRules, Entries.names, List.map_map, List.map_map]
  rfl

theorem toRules_append (fields others : Entries Rule) :
    toRules (fields ++ others) = toRules fields ++ toRules others :=
  List.map_append

/-- Different texts. -/
def Declarable (keys : List Value) : Prop :=
  (∀ key ∈ keys, ∃ name, key = .str name) ∧ keys.Nodup

/-- Why a key cannot name a field after the keys before it. -/
inductive Unfit (earlier : List Value) : Value → FieldNameError → Prop where
  | notText {key : Value} (other : ∀ name, key ≠ .str name) : Unfit earlier key (.notText key)
  | duplicate {name : String} (declared : .str name ∈ earlier) :
      Unfit earlier (.str name) (.duplicate name)

theorem declarable_iff {rules : List (Value × Rule)} :
    Declarable (rules.map Prod.fst) ↔
      ∃ fields : Entries Rule, rules = toRules fields ∧ fields.names.Nodup := by
  constructor
  · rintro ⟨texts, distinct⟩
    have keyed : ∃ fields : Entries Rule, rules = toRules fields := by
      clear distinct
      induction rules with
      | nil => exact ⟨[], rfl⟩
      | cons head rest ih =>
          obtain ⟨key, rule⟩ := head
          rw [List.map_cons, List.forall_mem_cons] at texts
          obtain ⟨⟨name, rfl⟩, texts⟩ := texts
          obtain ⟨fields, rfl⟩ := ih texts
          exact ⟨(name, rule) :: fields, rfl⟩
    obtain ⟨fields, rfl⟩ := keyed
    rw [keys_toRules] at distinct
    exact ⟨fields, rfl, List.Nodup.of_map _ distinct⟩
  · rintro ⟨fields, rfl, distinct⟩
    rw [keys_toRules]
    refine ⟨?_, List.Nodup.map (fun _ _ => Value.str.inj) distinct⟩
    rw [List.forall_mem_map]
    exact fun name _ => ⟨name, rfl⟩

/-- What rules come to: fields under their keys, or the fault of the first key that cannot
name one. -/
inductive Declares : List (Value × Rule) → Except FieldNameError (Entries Rule) → Prop where
  | fields {fields : Entries Rule} (distinct : fields.names.Nodup) :
      Declares (toRules fields) (.ok fields)
  | unfit {before : Entries Rule} {key : Value} {rule : Rule} {after : List (Value × Rule)}
      {error : FieldNameError} (distinct : before.names.Nodup)
      (unfit : Unfit ((toRules before).map Prod.fst) key error) :
      Declares (toRules before ++ (key, rule) :: after) (.error error)

theorem str_mem_keys_toRules {name : String} {fields : Entries Rule} :
    Value.str name ∈ (toRules fields).map Prod.fst ↔ name ∈ fields.names := by
  rw [keys_toRules, List.mem_map_of_injective fun _ _ => Value.str.inj]

theorem addRules_of_new {name : String} {fields : Entries Rule} (new : name ∉ fields.names)
    (rule : Rule) (rest : List (Value × Rule)) :
    addRules fields ((.str name, rule) :: rest) = addRules (fields ++ [(name, rule)]) rest := by
  rw [addRules, Entries.lookup?_eq_none_iff.mpr new, Option.isSome_none,
    if_neg Bool.false_ne_true]

theorem addRules_of_unfit {fields : Entries Rule} {key : Value} {error : FieldNameError}
    (unfit : Unfit ((toRules fields).map Prod.fst) key error) (rule : Rule)
    (rest : List (Value × Rule)) : addRules fields ((key, rule) :: rest) = .error error := by
  cases unfit with
  | notText other =>
      cases key with
      | str name => exact absurd rfl (other name)
      | _ => rfl
  | @duplicate name declared =>
      have found : Entries.lookup? name fields ≠ none :=
        fun absent => Entries.lookup?_eq_none_iff.mp absent (str_mem_keys_toRules.mp declared)
      rw [addRules, if_pos (Option.isSome_iff_ne_none.mpr found)]

theorem addRules_toRules_append (fields more : Entries Rule)
    (distinct : (fields ++ more : Entries Rule).names.Nodup) (rest : List (Value × Rule)) :
    addRules fields (toRules more ++ rest) = addRules (fields ++ more) rest := by
  induction more generalizing fields with
  | nil => rw [List.append_nil]; rfl
  | cons field others ih =>
      have new : field.1 ∉ fields.names := by
        rw [Entries.names_append] at distinct
        exact fun known => (List.nodup_append.mp distinct).2.2 _ known _ (.head _) rfl
      have moved := ih (fields ++ [field])
      rw [List.append_assoc, List.singleton_append] at moved
      rw [← moved distinct]
      exact addRules_of_new new field.2 _

/-- Each rule either ends the declaration or adds its field to those declared so far. -/
theorem declares_addRules (fields : Entries Rule) (distinct : fields.names.Nodup)
    (rules : List (Value × Rule)) : Declares (toRules fields ++ rules) (addRules fields rules) := by
  induction rules generalizing fields with
  | nil =>
      rw [List.append_nil]
      exact .fields distinct
  | cons head rest ih =>
      obtain ⟨key, rule⟩ := head
      by_cases fault : ∃ error, Unfit ((toRules fields).map Prod.fst) key error
      · obtain ⟨error, unfit⟩ := fault
        rw [addRules_of_unfit unfit]
        exact .unfit distinct unfit
      · obtain ⟨name, rfl⟩ : ∃ name, key = .str name := by
          by_contra other
          exact fault ⟨_, .notText fun name same => other ⟨name, same⟩⟩
        have new : name ∉ fields.names := fun known =>
          fault ⟨_, .duplicate (str_mem_keys_toRules.mpr known)⟩
        have more : (fields ++ [(name, rule)] : Entries Rule).names.Nodup := by
          rw [Entries.names_append]
          exact List.concat_eq_append ▸ distinct.concat new
        rw [addRules_of_new new]
        have added := ih _ more
        rwa [toRules_append, List.append_assoc] at added

theorem ofRules_eq_iff {rules : List (Value × Rule)}
    {outcome : Except FieldNameError (Entries Rule)} :
    ofRules rules = outcome ↔ Declares rules outcome := by
  constructor
  · rintro rfl
    exact declares_addRules [] List.nodup_nil rules
  · intro declares
    cases declares with
    | @fields fields distinct =>
        have added := addRules_toRules_append [] fields distinct []
        rwa [List.append_nil] at added
    | @unfit before key rule after error distinct unfit =>
        rw [ofRules, addRules_toRules_append [] before distinct]
        exact addRules_of_unfit unfit rule after

theorem ofRules_eq_ok_iff {rules : List (Value × Rule)} {fields : Entries Rule} :
    ofRules rules = .ok fields ↔ rules = toRules fields ∧ fields.names.Nodup := by
  rw [ofRules_eq_iff]
  constructor
  · rintro ⟨distinct⟩
    exact ⟨rfl, distinct⟩
  · rintro ⟨rfl, distinct⟩
    exact .fields distinct

theorem ofRules_eq_error_iff {rules : List (Value × Rule)} {error : FieldNameError} :
    ofRules rules = .error error ↔
      ∃ before key rule after, rules = before ++ (key, rule) :: after ∧
        Declarable (before.map Prod.fst) ∧ Unfit (before.map Prod.fst) key error := by
  rw [ofRules_eq_iff]
  constructor
  · rintro (_ | ⟨distinct, unfit⟩)
    exact ⟨_, _, _, _, rfl, declarable_iff.mpr ⟨_, rfl, distinct⟩, unfit⟩
  · rintro ⟨before, key, rule, after, rfl, declarable, unfit⟩
    obtain ⟨fields, rfl, distinct⟩ := declarable_iff.mp declarable
    exact .unfit distinct unfit

theorem Unfit.message_eq {earlier : List Value} {key : Value} {error : FieldNameError}
    (unfit : Unfit earlier key error) :
    ((∀ name, key ≠ .str name) ∧
        error.message = "field names must be strings, got " ++ key.render) ∨
      ∃ name, key = .str name ∧
        error.message = "field '" ++ name ++ "' is declared more than once" := by
  cases unfit with
  | notText other => exact .inl ⟨other, rfl⟩
  | duplicate declared => exact .inr ⟨_, rfl, rfl⟩

/-- Rules make a model exactly if their keys are different texts. It is the model that declaring
the fields one by one makes, in the order of the rules. Otherwise the first key that is no text,
or that was declared before, is told. -/
theorem model_of_rules (name : String) (rules : List (Value × Rule)) :
    ((∃ model, (ofRules rules).map (Schema.model name) = .ok model) ↔
      Declarable (rules.map Prod.fst)) ∧
    (∀ model, (ofRules rules).map (Schema.model name) = .ok model ↔
      ∃ fields : Entries Rule, rules = toRules fields ∧ fields.names.Nodup ∧
        model = .model name fields ∧ model = .model name (Entries.ofList fields)) ∧
    (∀ error, (ofRules rules).map (Schema.model name) = .error error ↔
      ∃ before key rule after, rules = before ++ (key, rule) :: after ∧
        Declarable (before.map Prod.fst) ∧ Unfit (before.map Prod.fst) key error) ∧
    ∀ earlier key error, Unfit earlier key error →
      ((∀ text, key ≠ .str text) ∧
          error.message = "field names must be strings, got " ++ key.render) ∨
        ∃ text, key = .str text ∧
          error.message = "field '" ++ text ++ "' is declared more than once" := by
  refine ⟨?_, fun model => ?_, fun error => ?_, fun _ _ _ => Unfit.message_eq⟩
  · rw [map_ok_iff, declarable_iff]
    exact exists_congr fun fields => ofRules_eq_ok_iff
  · rw [map_eq_ok_iff]
    constructor
    · rintro ⟨fields, made, rfl⟩
      obtain ⟨keyed, distinct⟩ := ofRules_eq_ok_iff.mp made
      exact ⟨fields, keyed, distinct, rfl, by rw [Entries.ofList_of_distinct distinct]⟩
    · rintro ⟨fields, keyed, distinct, rfl, -⟩
      exact ⟨fields, ofRules_eq_ok_iff.mpr ⟨keyed, distinct⟩, rfl⟩
  · rw [map_eq_error_iff, ofRules_eq_error_iff]

/-- A repeated text is told before a key behind it that is no text. -/
theorem model_of_rules_of_repeated_text :
    let rule : Rule := .required (.scalar .int)
    let rules : List (Value × Rule) := [(.str "a", rule), (.str "a", rule), (.int 1, rule)]
    Unfit [.str "a"] (.str "a") (.duplicate "a") ∧
      (ofRules rules).map (Schema.model "M") = .error (.duplicate "a") ∧
      (∃ before key rule after, rules = before ++ (key, rule) :: after ∧
        Declarable (before.map Prod.fst) ∧
        Unfit (before.map Prod.fst) key (.duplicate "a")) ∧
      ∃ text, .str "a" = Value.str text ∧ (FieldNameError.duplicate "a").message =
        "field '" ++ text ++ "' is declared more than once" := by
  intro rule rules
  obtain ⟨-, -, refused, told⟩ := model_of_rules "M" rules
  have unfit : Unfit [.str "a"] (.str "a") (.duplicate "a") := .duplicate (.head _)
  have failed : (ofRules rules).map (Schema.model "M") = .error (.duplicate "a") := rfl
  exact ⟨unfit, failed, (refused _).mp failed,
    (told _ _ _ unfit).resolve_left fun ⟨other, _⟩ => other "a" rfl⟩

end Fields

end Containment
