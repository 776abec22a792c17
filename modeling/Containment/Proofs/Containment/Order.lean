import Containment.Proofs.Containment.Constant

namespace Containment

/-! Containment is a partial order on plain data. -/

/-- Flags, integers, bytes, texts, members, and lists and maps of these, where no map has a name
twice. Null is not plain: it may also be absent, so that a map with a null is contained in the
empty map, which is contained in every map. -/
inductive Value.Plain : Value → Prop where
  | bool (flag : Bool) : Plain (.bool flag)
  | int (number : Int64) : Plain (.int number)
  | bytes (content : List UInt8) : Plain (.bytes content)
  | str (text : String) : Plain (.str text)
  | member (enumeration name : String) {payload : Value} (keyed : payload.wellKeyed = true) :
      Plain (.member enumeration name payload)
  | list {items : List Value} (each : ∀ item ∈ items, Plain item) : Plain (.list items)
  | map {entries : Entries Value} (distinct : entries.names.Nodup)
      (each : ∀ entry ∈ entries, Plain entry.2) : Plain (.map entries)

namespace Value.Plain

open Shape (Matches)

variable {value other : Value}

theorem wellKeyed (plain : value.Plain) : value.wellKeyed = true := by
  induction plain with
  | bool | int | bytes | str => rfl
  | member enumeration name keyed => exact keyed
  | list each ih => exact wellKeyedItems_iff.mpr ih
  | map distinct each ih =>
      rw [Value.wellKeyed, Bool.and_eq_true, decide_eq_true_eq, wellKeyedEntries_iff]
      exact ⟨distinct, ih⟩

theorem firstBad?_eq_none (plain : value.Plain) (location : Location) :
    value.firstBad? location = none := by
  induction plain generalizing location with
  | bool | int | bytes | str | member => rfl
  | list each ih => exact firstBadItem?_eq_none ih location 0
  | map distinct each ih =>
      rw [firstBad?_map distinct]
      exact firstBadValue?_eq_none ih location

theorem ne_null (plain : value.Plain) : value ≠ .null := by
  rintro rfl
  cases plain

theorem eq_map_of_fields? {entries : Entries Value} (plain : value.Plain)
    (named : value.fields? = some entries) : value = .map entries := by
  cases plain with
  | map => cases named; rfl
  | _ => cases named

theorem matches_self (plain : value.Plain) : Matches (.value value) value :=
  Shape.matches_of_equals plain.wellKeyed
    (equals_self_of_clean plain.wellKeyed (plain.firstBad?_eq_none Location.root))

/-- Without nulls, every entry of a map is found in what contains the map. -/
theorem matches_map_iff {entries : Entries Value} (each : ∀ entry ∈ entries, entry.2.Plain) :
    Matches (.value (.map entries)) other ↔ ∃ fields, other.fields? = some fields ∧
      ∀ entry ∈ entries, ∃ part, Entries.lookup? entry.1 fields = some part ∧
        Matches (.value entry.2) part := by
  refine Shape.matches_map_iff.trans (exists_congr fun fields => and_congr_right fun _ => ?_)
  refine forall_congr' fun entry => forall_congr' fun mem => ?_
  cases Entries.lookup? entry.1 fields with
  | none => simp [(each entry mem).ne_null]
  | some part => simp

theorem matches_trans {lower middle upper : Value} (plain : lower.Plain) (plain' : middle.Plain)
    (below : Matches (.value lower) middle) (above : Matches (.value middle) upper) :
    Matches (.value lower) upper := by
  induction plain generalizing middle upper with
  | bool =>
      cases below with
      | bool => exact above
      | sequence found | mapping found => cases found
  | int =>
      cases below with
      | int => exact above
      | sequence found | mapping found => cases found
  | bytes =>
      cases below with
      | bytes => exact above
      | sequence found | mapping found => cases found
  | str =>
      cases below with
      | str => exact above
      | sequence found | mapping found => cases found
  | member enumeration name =>
      cases below with
      | member =>
          cases above with
          | member => exact .member ..
          | sequence found | mapping found => cases found
      | sequence found | mapping found => cases found
  | list each ih =>
      obtain ⟨parts, rfl, length, within⟩ := Shape.matches_list_iff.mp below
      obtain ⟨others, rfl, length', within'⟩ := Shape.matches_list_iff.mp above
      refine Shape.matches_list_iff.mpr ⟨others, rfl, length'.trans length, ?_⟩
      intro position item other declared given
      have inside : position < parts.length :=
        length' ▸ (List.getElem?_eq_some_iff.mp given).1
      have between := List.getElem?_eq_getElem inside
      cases plain' with
      | list each' =>
          exact ih item (List.mem_of_getElem? declared) (each' _ (List.getElem_mem inside))
            (within position item _ declared between) (within' position _ other between given)
  | map distinct each ih =>
      obtain ⟨fields, named, within⟩ := (matches_map_iff each).mp below
      obtain rfl := plain'.eq_map_of_fields? named
      cases plain' with
      | map distinct' each' =>
          obtain ⟨others, named', within'⟩ := (matches_map_iff each').mp above
          refine (matches_map_iff each).mpr ⟨others, named', fun entry mem => ?_⟩
          obtain ⟨part, found, below⟩ := within entry mem
          have among := Entries.mem_of_lookup? found
          obtain ⟨other, found', above⟩ := within' _ among
          exact ⟨other, found', ih entry mem (each' _ among) below above⟩

theorem matches_list_of_asShown {items others : List Value} {upper : Value}
    (alike : others.map asShown = items.map asShown)
    (each : ∀ (position : Nat) (item other : Value), items[position]? = some item →
      others[position]? = some other → other.asShown = item.asShown →
        ∀ part, Matches (.value other) part → Matches (.value item) part)
    (matched : Matches (.value (.list others)) upper) : Matches (.value (.list items)) upper := by
  obtain ⟨parts, rfl, length, within⟩ := Shape.matches_list_iff.mp matched
  have lengths := congrArg List.length alike
  rw [List.length_map, List.length_map] at lengths
  refine Shape.matches_list_iff.mpr ⟨parts, rfl, length.trans lengths, ?_⟩
  intro position item part declared given
  obtain ⟨other, stands, same⟩ := getElem?_of_map_eq alike declared
  exact each position item other declared stands same part (within position other part stands given)

theorem matches_fields_of_asShown {entries others : Entries Value} {upper : Value}
    (alike : others.map (Prod.map id asShown) = entries.map (Prod.map id asShown))
    (each : ∀ entry ∈ entries, ∀ other ∈ others, other.2.asShown = entry.2.asShown →
      ∀ part, Matches (.value other.2) part → Matches (.value entry.2) part)
    (matched : Matches (.value (.map others)) upper) : Matches (.value (.map entries)) upper := by
  obtain ⟨fields, named, within⟩ := Shape.matches_map_iff.mp matched
  refine Shape.matches_map_iff.mpr ⟨fields, named, fun entry mem => ?_⟩
  obtain ⟨other, among, shown⟩ := exists_mem_of_map_eq alike mem
  obtain ⟨name, same⟩ : other.1 = entry.1 ∧ other.2.asShown = entry.2.asShown := Prod.mk.inj shown
  obtain ⟨given, absent⟩ := within other among
  rw [name] at given absent
  refine ⟨fun part found => each entry mem other among same part (given part found), ?_⟩
  intro gone
  rw [absent gone] at same
  exact eq_null_of_asShown same.symm

/-- The look-alikes of plain data differ from it in the payloads of members only, which are not
looked at. -/
theorem matches_iff_of_asShown {upper : Value} (plain : value.Plain)
    (same : other.asShown = value.asShown) :
    Matches (.value other) upper ↔ Matches (.value value) upper := by
  induction plain generalizing other upper with
  | bool =>
      cases other with
      | bool => cases same; rfl
      | _ => cases same
  | int =>
      cases other with
      | int => cases same; rfl
      | _ => cases same
  | bytes =>
      cases other with
      | bytes => cases same; rfl
      | _ => cases same
  | str => rw [eq_str_of_asShown same]
  | member =>
      cases other with
      | member =>
          obtain ⟨rfl, rfl, -⟩ := member.inj same
          rw [Shape.matches_iff_equals rfl, Shape.matches_iff_equals rfl]
          cases upper <;> rfl
      | _ => cases same
  | list each ih =>
      rw [asShown_list] at same
      cases other with
      | list others =>
          rw [asShown_list, list.injEq] at same
          constructor
          · refine matches_list_of_asShown same fun position item other declared _ same part => ?_
            exact (ih item (List.mem_of_getElem? declared) same).mp
          · refine matches_list_of_asShown same.symm
              fun position other item _ declared same part => ?_
            exact (ih item (List.mem_of_getElem? declared) same.symm).mpr
      | _ => cases same
  | map distinct each ih =>
      rw [asShown_map] at same
      cases other with
      | map others =>
          rw [asShown_map, map.injEq] at same
          constructor
          · refine matches_fields_of_asShown same fun entry mem other _ same part => ?_
            exact (ih entry mem same).mp
          · refine matches_fields_of_asShown same.symm fun other _ entry mem same part => ?_
            exact (ih entry mem same.symm).mpr
      | _ => cases same

theorem length_le_of_matches {entries others : Entries Value} (distinct : entries.names.Nodup)
    (within : ∀ entry ∈ entries, ∃ part, Entries.lookup? entry.1 others = some part ∧
      Matches (.value entry.2) part) : entries.length ≤ others.length :=
  Entries.length_le_of_names_subset distinct
    (Entries.names_subset fun entry mem => (within entry mem).imp fun _ found => found.1)

/-- Maps that contain each other have equally many entries, so that no name is left over. -/
theorem equals_of_matches (plain : value.Plain) (plain' : other.Plain)
    (below : Matches (.value value) other) (above : Matches (.value other) value) :
    value.equals other = true := by
  induction plain generalizing other with
  | bool | int | bytes | str | member => exact (Shape.matches_iff_equals rfl).mp below
  | list each ih =>
      obtain ⟨parts, rfl, length, within⟩ := Shape.matches_list_iff.mp below
      obtain ⟨items, same, -, within'⟩ := Shape.matches_list_iff.mp above
      cases same
      cases plain' with
      | list each' =>
          refine equals_list_iff.mpr ⟨parts, rfl, length.symm, ?_⟩
          intro position item part declared given
          exact ih item (List.mem_of_getElem? declared) (each' part (List.mem_of_getElem? given))
            (within position item part declared given) (within' position part item given declared)
  | map distinct each ih =>
      obtain ⟨fields, named, within⟩ := (matches_map_iff each).mp below
      obtain rfl := plain'.eq_map_of_fields? named
      cases plain' with
      | map distinct' each' =>
          obtain ⟨entries, same, within'⟩ := (matches_map_iff each').mp above
          cases same
          have length := Nat.le_antisymm (length_le_of_matches distinct within)
            (length_le_of_matches distinct' within')
          refine equals_map_iff.mpr ⟨fields, rfl, length, fun entry mem => ?_⟩
          obtain ⟨part, found, below⟩ := within entry mem
          have among := Entries.mem_of_lookup? found
          obtain ⟨value, found', above⟩ := within' _ among
          rw [Entries.lookup?_of_mem distinct mem] at found'
          obtain rfl := Option.some.inj found'
          exact ⟨part, found, ih entry mem (each' _ among) below above⟩

end Value.Plain

namespace Registry

variable {caching : Bool} {capacity : Nat} {operations : List Operation}

theorem containsAfter_plain_iff {actual expected : Value} (plain : expected.Plain) :
    containsAfter caching capacity operations actual (.value expected) = .ok () ↔
      Shape.Matches (.value expected) actual := by
  have clean : (Shape.value expected).firstBad? Location.root = none :=
    plain.firstBad?_eq_none Location.root
  obtain ⟨held, holds, contained⟩ := contains_iff_held caching capacity operations actual clean
  refine contained.trans ?_
  have same := holds.asShown_eq
  cases held with
  | value held => exact plain.matches_iff_of_asShown (Shape.value.inj same)
  | _ => cases same

/-- Containment of plain data is reflexive, transitive, and antisymmetric up to the order of
entries and the payloads of members, whatever was converted between the questions. -/
theorem containment_is_partial_order (caching : Bool) (capacity : Nat)
    (operations others later : List Operation) {lower middle : Value} (plain : lower.Plain)
    (plain' : middle.Plain) :
    containsAfter caching capacity operations lower (.value lower) = .ok () ∧
      (∀ upper : Value,
        containsAfter caching capacity operations middle (.value lower) = .ok () →
        containsAfter caching capacity others upper (.value middle) = .ok () →
          containsAfter caching capacity later upper (.value lower) = .ok ()) ∧
      (containsAfter caching capacity operations middle (.value lower) = .ok () →
        containsAfter caching capacity others lower (.value middle) = .ok () →
          lower.equals middle = true) := by
  simp only [containsAfter_plain_iff plain, containsAfter_plain_iff plain']
  exact ⟨plain.matches_self, fun upper => plain.matches_trans plain',
    plain.equals_of_matches plain'⟩

/-- The second order is the first one in another order of entries, and the third one tells
more. -/
theorem containment_is_partial_order_of_orders :
    let member (payload : Int64) : Value := .member "Role" "Buyer" (.int payload)
    let lines : Value := .list [.map [("item", .str "book"), ("count", .int 2)], .bytes [1, 2]]
    let more : Value := .list [
      .map [("count", .int 2), ("gift", .bool true), ("item", .str "book")], .bytes [1, 2]]
    let lower : Value := .map [("role", member 1), ("lines", lines)]
    let middle : Value := .map [("lines", lines), ("role", member 2)]
    let upper : Value := .map [("id", .int 7), ("lines", more), ("role", member 3)]
    lower.Plain ∧ middle.Plain ∧
      containsAfter true 1 [] lower (.value lower) = .ok () ∧
      containsAfter true 1 [.clearMemo] upper (.value lower) = .ok () ∧
      lower.equals middle = true := by
  intro member lines more lower middle upper
  have role (payload : Int64) : (member payload).Plain := .member "Role" "Buyer" rfl
  have plainLines : lines.Plain := by
    refine .list (List.forall_mem_cons.mpr ⟨.map (by decide) ?_, ?_⟩)
    · simp [Value.Plain.str, Value.Plain.int]
    · simp [Value.Plain.bytes]
  have plain : lower.Plain := .map (by decide) (by simp [role, plainLines])
  have plain' : middle.Plain := .map (by decide) (by simp [role, plainLines])
  obtain ⟨self, transitive, antisymmetric⟩ :=
    containment_is_partial_order true 1 [] [.contains upper .nothing] [.clearMemo] plain plain'
  exact ⟨plain, plain', self, transitive upper rfl rfl, antisymmetric rfl rfl⟩

-- A null breaks transitivity: the map with a null is met by its absence, but by no other value.
example :
    let contains (actual expected : Value) : Bool :=
      (containsAfter true 1 [] actual (.value expected)).isOk
    contains (.map []) (.map [("a", .null)]) = true ∧
      contains (.map [("a", .int 1)]) (.map []) = true ∧
      contains (.map [("a", .int 1)]) (.map [("a", .null)]) = false := ⟨rfl, rfl, rfl⟩

end Registry

end Containment
