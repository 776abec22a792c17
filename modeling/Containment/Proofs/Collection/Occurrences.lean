import Containment.Collection

namespace Containment

/-! Elements picked from a list by their positions, and the positions at which elements occur
for the first or the second time. -/

variable {α : Type}

/-- Increasing positions are determined by which they are. -/
theorem eq_of_increasing {positions others : List Nat} (increasing : positions.Pairwise (· < ·))
    (increasing' : others.Pairwise (· < ·))
    (same : ∀ position, position ∈ positions ↔ position ∈ others) : positions = others := by
  have apart {numbers : List Nat} (sorted : numbers.Pairwise (· < ·)) : numbers.Nodup :=
    sorted.imp Nat.ne_of_lt
  have perm : positions.Perm others :=
    (List.perm_ext_iff_of_nodup (apart increasing) (apart increasing')).mpr same
  exact perm.eq_of_pairwise (fun _ _ _ _ less more => absurd less (Nat.lt_asymm more))
    increasing increasing'

/-- The elements at just the positions with a property, in the order of the list. -/
def Picks (elements : List α) (property : Nat → α → Prop) (picked : List α) : Prop :=
  ∃ positions : List Nat, positions.Pairwise (· < ·) ∧
    (∀ position, position ∈ positions ↔
      ∃ element, elements[position]? = some element ∧ property position element) ∧
    positions.map (elements[·]?) = picked.map some

namespace Picks

variable {elements picked : List α} {property other : Nat → α → Prop}

theorem mem_iff (picks : Picks elements property picked) {element : α} :
    element ∈ picked ↔
      ∃ position, elements[position]? = some element ∧ property position element := by
  obtain ⟨positions, -, mem, placed⟩ := picks
  have mapped : element ∈ picked ↔ some element ∈ positions.map (elements[·]?) := by
    rw [placed]
    simp
  rw [mapped, List.mem_map]
  constructor
  · rintro ⟨position, inside, found⟩
    obtain ⟨same, here, holds⟩ := (mem position).mp inside
    obtain rfl := Option.some.inj (here.symm.trans found)
    exact ⟨position, found, holds⟩
  · rintro ⟨position, found, holds⟩
    exact ⟨position, (mem position).mpr ⟨element, found, holds⟩, found⟩

/-- A list has one list of picked elements. -/
theorem unique (picks : Picks elements property picked) {others : List α}
    (again : Picks elements property others) : picked = others := by
  obtain ⟨positions, increasing, mem, placed⟩ := picks
  obtain ⟨positions', increasing', mem', placed'⟩ := again
  obtain rfl := eq_of_increasing increasing increasing' fun position =>
    (mem position).trans (mem' position).symm
  exact (List.map_inj_right fun _ _ => Option.some.inj).mp (placed.symm.trans placed')

theorem congr (picks : Picks elements property picked)
    (same : ∀ position element, elements[position]? = some element →
      (property position element ↔ other position element)) :
    Picks elements other picked := by
  obtain ⟨positions, increasing, mem, placed⟩ := picks
  refine ⟨positions, increasing, fun position => ?_, placed⟩
  rw [mem]
  constructor
  · rintro ⟨element, found, holds⟩
    exact ⟨element, found, (same position element found).mp holds⟩
  · rintro ⟨element, found, holds⟩
    exact ⟨element, found, (same position element found).mpr holds⟩

theorem nil : Picks [] property ([] : List α) :=
  ⟨[], .nil, by simp, rfl⟩

theorem pairwise_succ {positions : List Nat} (increasing : positions.Pairwise (· < ·)) :
    (positions.map (· + 1)).Pairwise (· < ·) :=
  List.pairwise_map.mpr (increasing.imp Nat.succ_lt_succ)

theorem cons_of_pos {element : α} (holds : property 0 element)
    (picks : Picks elements (fun position => property (position + 1)) picked) :
    Picks (element :: elements) property (element :: picked) := by
  obtain ⟨positions, increasing, mem, placed⟩ := picks
  refine ⟨0 :: positions.map (· + 1), ?_, ?_, ?_⟩
  · refine List.pairwise_cons.mpr ⟨?_, pairwise_succ increasing⟩
    simp
  · intro position
    cases position with
    | zero => simpa using holds
    | succ position => simpa using mem position
  · simpa [Function.comp_def] using placed

theorem cons_of_neg {element : α} (fails : ¬ property 0 element)
    (picks : Picks elements (fun position => property (position + 1)) picked) :
    Picks (element :: elements) property picked := by
  obtain ⟨positions, increasing, mem, placed⟩ := picks
  refine ⟨positions.map (· + 1), pairwise_succ increasing, ?_, ?_⟩
  · intro position
    cases position with
    | zero => simpa using fails
    | succ position => simpa using mem position
  · simpa [Function.comp_def] using placed

theorem filter (picks : Picks elements property picked) (keep : α → Bool) :
    Picks elements (fun position element => property position element ∧ keep element = true)
      (picked.filter keep) := by
  obtain ⟨positions, increasing, mem, placed⟩ := picks
  refine ⟨positions.filter fun position => (elements[position]?).any keep,
    increasing.filter _, fun position => ?_, ?_⟩
  · rw [List.mem_filter, mem]
    constructor
    · rintro ⟨⟨element, found, holds⟩, kept⟩
      rw [found] at kept
      exact ⟨element, found, holds, kept⟩
    · rintro ⟨element, found, holds, kept⟩
      exact ⟨⟨element, found, holds⟩, by rw [found]; exact kept⟩
  · have filtered := congrArg (List.filter fun entry : Option α => entry.any keep) placed
    rw [List.filter_map, List.filter_map] at filtered
    exact filtered

theorem all (elements : List α) : Picks elements (fun _ _ => True) elements := by
  induction elements with
  | nil => exact nil
  | cons element rest ih => exact cons_of_pos trivial ih

end Picks

theorem picks_filter (elements : List α) (keep : α → Bool) :
    Picks elements (fun _ element => keep element = true) (elements.filter keep) :=
  ((Picks.all elements).filter keep).congr fun _ _ _ => by simp

theorem same_eq_of_same {same : α → α → Bool}
    (equivalence : Equivalence fun a b => same a b = true) {element other : α}
    (related : same element other = true) : same other = same element := by
  funext another
  rw [Bool.eq_iff_iff]
  exact ⟨equivalence.trans related, equivalence.trans (equivalence.symm related)⟩

section Occurrences

variable (same : α → α → Bool)

/-- How often an element occurred before a position. -/
def countBefore (elements : List α) (position : Nat) (element : α) : Nat :=
  (elements.take position).countP (same element)

theorem countBefore_succ (first : α) (elements : List α) (position : Nat) (element : α) :
    countBefore same (first :: elements) (position + 1) element =
      countBefore same elements position element + if same element first then 1 else 0 := by
  rw [countBefore, List.take_succ_cons, List.countP_cons, countBefore]

/-- The induction is on the elements with those before them kept apart: what is asked of a
position counts both. -/
theorem picks_occurrences_after (count : Nat) (earlier elements : List α) :
    Picks elements
      (fun position element =>
        earlier.countP (same element) + countBefore same elements position element = count)
      (occurrences same count earlier elements) := by
  induction elements generalizing earlier with
  | nil => exact .nil
  | cons element rest ih =>
      have later : Picks rest
          (fun position other => earlier.countP (same other) +
            countBefore same (element :: rest) (position + 1) other = count)
          (occurrences same count (element :: earlier) rest) := by
        refine (ih (element :: earlier)).congr fun position other _ => ?_
        rw [List.countP_cons, countBefore_succ]
        omega
      rw [occurrences]
      split
      case isTrue now => exact .cons_of_pos (by simpa [countBefore] using now) later
      case isFalse never => exact .cons_of_neg (by simpa [countBefore] using never) later

theorem picks_occurrences (count : Nat) (elements : List α) :
    Picks elements (fun position element => countBefore same elements position element = count)
      (occurrences same count [] elements) := by
  simpa using picks_occurrences_after same count [] elements

/-- Occurrences are counted up one at a time, so each number up to the last is met. -/
theorem exists_counted_iff {holds : α → Bool} {elements : List α} {count : Nat} :
    (∃ position element, elements[position]? = some element ∧ holds element = true ∧
      (elements.take position).countP holds = count) ↔ count < elements.countP holds := by
  induction elements generalizing count with
  | nil => simp
  | cons first rest ih =>
      constructor
      · rintro ⟨position, element, found, held, counted⟩
        cases position with
        | zero =>
            obtain rfl := Option.some.inj (List.getElem?_cons_zero.symm.trans found)
            rw [List.countP_cons_of_pos held]
            simp only [List.take_zero, List.countP_nil] at counted
            omega
        | succ position =>
            rw [List.getElem?_cons_succ] at found
            rw [List.take_succ_cons, List.countP_cons] at counted
            have before := ih.mp ⟨position, element, found, held, rfl⟩
            rw [List.countP_cons]
            omega
      · intro below
        cases counts : holds first with
        | false =>
            rw [List.countP_cons_of_neg (by simp [counts])] at below
            obtain ⟨position, element, found, held, counted⟩ := ih.mpr below
            refine ⟨position + 1, element, found, held, ?_⟩
            rw [List.take_succ_cons, List.countP_cons_of_neg (by simp [counts]), counted]
        | true =>
            rw [List.countP_cons_of_pos counts] at below
            cases count with
            | zero => exact ⟨0, first, rfl, counts, rfl⟩
            | succ count =>
                obtain ⟨position, element, found, held, counted⟩ :=
                  ih.mpr (Nat.lt_of_succ_lt_succ below)
                refine ⟨position + 1, element, found, held, ?_⟩
                rw [List.take_succ_cons, List.countP_cons_of_pos counts, counted]

/-- Whether an element, or one that is the same, is listed depends only on how often it
occurs: which of them is listed depends on their order. -/
theorem exists_mem_occurrences_iff (equivalence : Equivalence fun a b => same a b = true)
    {elements : List α} {count : Nat} {element : α} :
    (∃ other ∈ occurrences same count [] elements, same element other = true) ↔
      count < elements.countP (same element) := by
  rw [← exists_counted_iff]
  constructor
  · rintro ⟨other, mem, related⟩
    obtain ⟨position, found, counted⟩ := (picks_occurrences same count elements).mem_iff.mp mem
    rw [countBefore, same_eq_of_same equivalence related] at counted
    exact ⟨position, other, found, related, counted⟩
  · rintro ⟨position, other, found, related, counted⟩
    rw [← same_eq_of_same equivalence related] at counted
    exact ⟨other, (picks_occurrences same count elements).mem_iff.mpr ⟨position, found, counted⟩,
      related⟩

end Occurrences

end Containment
