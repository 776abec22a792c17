import Containment.Mismatch
import Mathlib.Algebra.GroupWithZero.Nat
import Mathlib.Data.List.Induction
import Mathlib.Data.List.Nodup
import Mathlib.Data.List.Perm.Basic

namespace Containment

/-! Reports by location. The groups are the mismatches of a report, each location with its own
in their order, locations in the order of their first mismatch; joined reports are grouped as
their parts are. -/

section FirstOccurrences

variable {α : Type} [BEq α] [LawfulBEq α]

theorem eraseDups_concat (items : List α) (item : α) :
    (items ++ [item]).eraseDups =
      if item ∈ items then items.eraseDups else items.eraseDups ++ [item] := by
  rw [List.eraseDups_append]
  by_cases known : item ∈ items
  · simp [known, List.removeAll]
  · simp [known, List.removeAll, List.eraseDups_cons]

theorem nodup_eraseDups (items : List α) : items.eraseDups.Nodup := by
  induction items using List.reverseRecOn with
  | nil => exact List.nodup_nil
  | append_singleton items item ih =>
      rw [eraseDups_concat]
      split
      case isTrue => exact ih
      case isFalse new =>
        rw [← List.concat_eq_append]
        exact ih.concat (mt List.mem_eraseDups.mp new)

theorem eraseDups_of_nodup {items : List α} (distinct : items.Nodup) :
    items.eraseDups = items := by
  induction items using List.reverseRecOn with
  | nil => rfl
  | append_singleton items item ih =>
      obtain ⟨known, -, apart⟩ := List.nodup_append.mp distinct
      rw [eraseDups_concat, if_neg fun mem => apart item mem item (.head _) rfl, ih known]

theorem eraseDups_filter (p : α → Bool) (items : List α) :
    (items.filter p).eraseDups = items.eraseDups.filter p := by
  induction items using List.reverseRecOn with
  | nil => rfl
  | append_singleton items item ih =>
      rw [List.filter_append, List.filter_singleton, eraseDups_concat]
      cases kept : p item with
      | false =>
          rw [cond_false, List.append_nil, ih]
          split
          case isTrue => rfl
          case isFalse => simp [kept]
      | true =>
          rw [cond_true, eraseDups_concat, ih]
          by_cases known : item ∈ items
          · simp [known, kept]
          · simp [known, kept]

/-- Of the second list only those items are new that are not in the first. -/
theorem eraseDups_append_eq (items others : List α) :
    (items ++ others).eraseDups =
      items.eraseDups ++ others.eraseDups.filter fun item => item ∉ items.eraseDups := by
  rw [List.eraseDups_append, List.removeAll, eraseDups_filter]
  simp

end FirstOccurrences

namespace Report

/-- A mismatch goes to the end of the group of its location. Where there is none, a new group
comes last. -/
theorem addToGroup_map {locations : List Location} (distinct : locations.Nodup)
    (group : Location → List Mismatch) (mismatch : Mismatch)
    (empty : mismatch.location ∉ locations → group mismatch.location = []) :
    addToGroup mismatch (locations.map fun location => (location, group location)) =
      (if mismatch.location ∈ locations then locations
        else locations ++ [mismatch.location]).map fun location =>
          (location, group location ++ [mismatch].filter (·.location = location)) := by
  induction locations with
  | nil => simp [addToGroup, empty List.not_mem_nil]
  | cons first rest ih =>
      obtain ⟨fresh, distinct⟩ := List.nodup_cons.mp distinct
      rw [List.map_cons, addToGroup]
      by_cases here : first = mismatch.location
      · subst here
        have others : ∀ location ∈ rest,
            [mismatch].filter (·.location = location) = [] := by
          intro location mem
          have differ : mismatch.location ≠ location := fun same => fresh (same ▸ mem)
          simp [differ]
        rw [if_pos rfl, if_pos (.head _), List.map_cons]
        refine List.cons_eq_cons.mpr ⟨by simp, List.map_congr_left fun location mem => ?_⟩
        rw [others location mem, List.append_nil]
      · have later : mismatch.location ∈ first :: rest ↔ mismatch.location ∈ rest := by
          simp [Ne.symm here]
        rw [if_neg here, ih distinct fun absent => empty (mt later.mp absent)]
        simp only [later]
        split <;> simp [Ne.symm here]

/-- The groups at any moment are those of the mismatches so far. -/
theorem foldl_addToGroup (mismatches : List Mismatch) :
    mismatches.foldl (fun groups mismatch => addToGroup mismatch groups) [] =
      (mismatches.map Mismatch.location).eraseDups.map fun location =>
        (location, mismatches.filter (·.location = location)) := by
  induction mismatches using List.reverseRecOn with
  | nil => rfl
  | append_singleton earlier mismatch ih =>
      have empty : mismatch.location ∉ (earlier.map Mismatch.location).eraseDups →
          earlier.filter (·.location = mismatch.location) = [] := by
        intro absent
        rw [List.mem_eraseDups] at absent
        refine List.filter_eq_nil_iff.mpr fun other mem same => absent ?_
        exact List.mem_map.mpr ⟨other, mem, of_decide_eq_true same⟩
      rw [List.foldl_concat, ih, addToGroup_map (nodup_eraseDups _) _ mismatch empty,
        List.map_append, List.map_singleton, eraseDups_concat]
      simp only [List.mem_eraseDups, List.filter_append]

variable (report : Report)

theorem locations_eq : report.locations = (report.toList.map Mismatch.location).eraseDups := by
  rw [locations, groups, foldl_addToGroup, List.map_map]
  exact List.map_id _

theorem groups_eq :
    report.groups = report.locations.map fun location => (location, report.atLocation location) := by
  rw [locations_eq, groups, foldl_addToGroup]
  rfl

theorem nodup_locations : report.locations.Nodup := by
  rw [locations_eq]
  exact nodup_eraseDups _

variable {report}

theorem mem_locations_iff {location : Location} :
    location ∈ report.locations ↔ ∃ mismatch ∈ report.toList, mismatch.location = location := by
  rw [locations_eq, List.mem_eraseDups, List.mem_map]

theorem atLocation_eq_nil_iff {location : Location} :
    report.atLocation location = [] ↔ location ∉ report.locations := by
  rw [atLocation, List.filter_eq_nil_iff, mem_locations_iff]
  simp

theorem lookup_groups (report : Report) (location : Location) :
    report.groups.lookup location =
      if location ∈ report.locations then some (report.atLocation location) else none := by
  rw [groups_eq]
  induction report.locations with
  | nil => rfl
  | cons first rest ih =>
      rw [List.map_cons, List.lookup_cons, ih]
      by_cases same : location = first
      · simp [same]
      · rw [beq_false_of_ne same]
        simp [same]

theorem flatMap_addToGroup (mismatch : Mismatch) (groups : List (Location × List Mismatch)) :
    ((addToGroup mismatch groups).flatMap Prod.snd).Perm
      (groups.flatMap Prod.snd ++ [mismatch]) := by
  induction groups with
  | nil => exact .refl _
  | cons first rest ih =>
      obtain ⟨location, group⟩ := first
      rw [addToGroup]
      split
      case isTrue =>
        rw [List.flatMap_cons, List.flatMap_cons, List.append_assoc, List.append_assoc]
        exact List.perm_append_comm.append_left group
      case isFalse =>
        rw [List.flatMap_cons, List.flatMap_cons, List.append_assoc]
        exact ih.append_left group

/-- Every mismatch is in one group, as often as it was reported. -/
theorem flatMap_groups (report : Report) :
    (report.groups.flatMap Prod.snd).Perm report.toList := by
  rw [groups]
  induction report.toList using List.reverseRecOn with
  | nil => exact .refl _
  | append_singleton earlier mismatch ih =>
      rw [List.foldl_concat]
      exact (flatMap_addToGroup mismatch _).trans (ih.append_right [mismatch])

theorem append_assoc (first second third : Report) :
    first ++ second ++ third = first ++ (second ++ third) := by
  apply toList_injective
  rw [toList_append, toList_append, toList_append, toList_append, List.append_assoc]

theorem atLocation_append (left right : Report) (location : Location) :
    (left ++ right).atLocation location =
      left.atLocation location ++ right.atLocation location := by
  rw [atLocation, toList_append, List.filter_append]
  rfl

theorem withKind_append (left right : Report) (kind : String) :
    (left ++ right).withKind kind = left.withKind kind ++ right.withKind kind := by
  rw [withKind, toList_append, List.filter_append]
  rfl

theorem locations_append (left right : Report) :
    (left ++ right).locations =
      left.locations ++ right.locations.filter fun location => location ∉ left.locations := by
  rw [locations_eq, toList_append, List.map_append, eraseDups_append_eq, ← locations_eq,
    ← locations_eq]

/-- Each group is one mismatch where the locations differ. -/
theorem groups_of_distinct {report : Report}
    (distinct : (report.toList.map Mismatch.location).Nodup) :
    report.groups = report.toList.map fun mismatch => (mismatch.location, [mismatch]) := by
  have alone : ∀ mismatch ∈ report.toList,
      report.atLocation mismatch.location = [mismatch] := by
    intro mismatch mem
    have only : ∀ other ∈ report.toList,
        decide (other.location = mismatch.location) = (other == mismatch) := by
      intro other mem'
      have told := List.inj_on_of_nodup_map distinct mem' mem
      rw [Bool.eq_iff_iff, decide_eq_true_eq, beq_iff_eq]
      exact ⟨told, congrArg Mismatch.location⟩
    rw [atLocation, List.filter_congr only, List.filter_beq,
      List.count_eq_one_of_mem (.of_map Mismatch.location distinct) mem]
    rfl
  rw [groups_eq, locations_eq, eraseDups_of_nodup distinct, List.map_map]
  exact List.map_congr_left fun mismatch mem => Prod.ext rfl (alone mismatch mem)

/-- The groups by location lose no mismatch and double none, and joining reports joins what they
tell of each location and of each kind. -/
theorem groups_partition_report (report : Report) :
    (report.groups.map Prod.fst = report.locations ∧
        report.locations = (report.toList.map Mismatch.location).eraseDups ∧
        report.locations.Nodup) ∧
      (∀ location,
        report.atLocation location = report.toList.filter (·.location = location) ∧
          report.groups.lookup location =
            if report.atLocation location = [] then none
            else some (report.atLocation location)) ∧
      ((report.groups.flatMap Prod.snd).Perm report.toList ∧
        (report.groups.map fun group => group.2.length).sum = report.size) ∧
      ∀ other : Report,
        (∀ third : Report, report ++ other ++ third = report ++ (other ++ third)) ∧
          (∀ location, (report ++ other).atLocation location =
            report.atLocation location ++ other.atLocation location) ∧
          (∀ kind, (report ++ other).withKind kind =
            report.withKind kind ++ other.withKind kind) ∧
          (report ++ other).locations =
            report.locations ++ other.locations.filter fun location =>
              location ∉ report.locations := by
  have whole := flatMap_groups report
  refine ⟨⟨rfl, locations_eq report, nodup_locations report⟩, fun location => ⟨rfl, ?_⟩,
    ⟨whole, ?_⟩, fun other => ⟨append_assoc report other, atLocation_append report other,
      withKind_append report other, locations_append report other⟩⟩
  · rw [lookup_groups]
    simp only [atLocation_eq_nil_iff, ite_not]
  · rw [size, ← whole.length_eq, List.length_flatMap]

end Report

end Containment
