namespace Containment

/-! Named entries in order. The names of a list built by `insert` are distinct. -/

abbrev Entries (α : Type) := List (String × α)

namespace Entries

variable {α : Type}

def names (entries : Entries α) : List String :=
  entries.map Prod.fst

def lookup? (name : String) : Entries α → Option α
  | [] => none
  | (key, value) :: rest => if key = name then some value else lookup? name rest

/-- Replaces the value of a name in its place, or adds the name at the end. -/
def insert (name : String) (value : α) : Entries α → Entries α
  | [] => [(name, value)]
  | (key, old) :: rest =>
      if key = name then (key, value) :: rest else (key, old) :: insert name value rest

/-- Enters the pairs in order: a repeated name keeps its place and takes the last value. -/
def ofList (pairs : List (String × α)) : Entries α :=
  pairs.foldl (fun entries pair => entries.insert pair.1 pair.2) []

@[simp] theorem lookup?_nil (name : String) : lookup? name ([] : Entries α) = none := rfl

@[simp] theorem lookup?_cons (name key : String) (value : α) (rest : Entries α) :
    lookup? name ((key, value) :: rest) =
      if key = name then some value else lookup? name rest := rfl

@[simp] theorem names_nil : names ([] : Entries α) = [] := rfl

@[simp] theorem names_cons (key : String) (value : α) (rest : Entries α) :
    names ((key, value) :: rest) = key :: names rest := rfl

theorem lookup?_eq_none_iff {name : String} {entries : Entries α} :
    lookup? name entries = none ↔ name ∉ names entries := by
  induction entries with
  | nil => simp
  | cons entry rest ih =>
      obtain ⟨key, value⟩ := entry
      by_cases h : key = name
      · simp [h]
      · simp [h, ih, Ne.symm h]

theorem mem_of_lookup? {name : String} {value : α} {entries : Entries α}
    (found : lookup? name entries = some value) : (name, value) ∈ entries := by
  induction entries with
  | nil => cases found
  | cons entry rest ih =>
      obtain ⟨key, first⟩ := entry
      rw [lookup?_cons] at found
      split at found
      · rename_i same
        cases found
        exact same ▸ .head _
      · exact .tail _ (ih found)

theorem lookup?_of_mem {entries : Entries α} (distinct : (names entries).Nodup) {name : String}
    {value : α} (mem : (name, value) ∈ entries) : lookup? name entries = some value := by
  induction entries with
  | nil => cases mem
  | cons entry rest ih =>
      obtain ⟨key, first⟩ := entry
      obtain ⟨fresh, distinct⟩ := List.nodup_cons.mp distinct
      rcases List.mem_cons.mp mem with same | mem
      · obtain ⟨rfl, rfl⟩ := Prod.mk.inj same
        exact if_pos rfl
      · have other : key ≠ name := by
          rintro rfl
          exact fresh (List.mem_map.mpr ⟨_, mem, rfl⟩)
        rw [lookup?_cons, if_neg other, ih distinct mem]

theorem lookup?_perm {entries others : Entries α} (distinct : (names entries).Nodup)
    (perm : entries.Perm others) (name : String) :
    lookup? name entries = lookup? name others := by
  have names_perm : (names entries).Perm (names others) := perm.map Prod.fst
  cases found : lookup? name entries with
  | some value =>
      have mem := perm.mem_iff.mp (mem_of_lookup? found)
      rw [lookup?_of_mem (names_perm.nodup distinct) mem]
  | none =>
      rw [lookup?_eq_none_iff, names_perm.mem_iff] at found
      rw [lookup?_eq_none_iff.mpr found]

theorem names_insert (name : String) (value : α) (entries : Entries α) :
    names (insert name value entries) =
      if name ∈ names entries then names entries else names entries ++ [name] := by
  induction entries with
  | nil => simp [insert]
  | cons entry rest ih =>
      obtain ⟨key, old⟩ := entry
      by_cases h : key = name
      · simp [insert, h]
      · by_cases hmem : name ∈ names rest <;> simp [insert, h, Ne.symm h, ih, hmem]

theorem nodup_names_insert {entries : Entries α} (h : (names entries).Nodup)
    (name : String) (value : α) : (names (insert name value entries)).Nodup := by
  rw [names_insert]
  split
  · exact h
  · rename_i fresh
    exact List.nodup_append.mpr ⟨h, by simp, by
      intro a ha b hb hab
      simp only [List.mem_singleton] at hb
      exact fresh (hb ▸ hab ▸ ha)⟩

theorem nodup_names_ofList (pairs : List (String × α)) :
    (names (ofList pairs)).Nodup :=
  List.foldlRecOn (motive := fun entries => (names entries).Nodup) pairs _ List.nodup_nil
    fun _ distinct _ _ => nodup_names_insert distinct _ _

theorem map_insert {β : Type} (f : α → β) (name : String) (value : α) (entries : Entries α) :
    (insert name value entries).map (Prod.map id f) =
      insert name (f value) (entries.map (Prod.map id f)) := by
  induction entries with
  | nil => rfl
  | cons entry rest ih =>
      obtain ⟨key, old⟩ := entry
      by_cases h : key = name <;> simp [insert, h, ih]

theorem map_ofList {β : Type} (f : α → β) (pairs : List (String × α)) :
    (ofList pairs).map (Prod.map id f) = ofList (pairs.map (Prod.map id f)) := by
  rw [ofList, ofList, List.foldl_map]
  exact (List.foldl_hom (List.map (Prod.map id f)) fun entries pair =>
    (map_insert f pair.1 pair.2 entries).symm).symm

theorem mem_of_mem_insert {name : String} {value : α} {entries : Entries α}
    {entry : String × α} (mem : entry ∈ insert name value entries) :
    entry = (name, value) ∨ entry ∈ entries := by
  induction entries with
  | nil => exact .inl (List.mem_singleton.mp mem)
  | cons first rest ih =>
      obtain ⟨key, old⟩ := first
      rw [insert] at mem
      split at mem
      case isTrue same =>
        rcases List.mem_cons.mp mem with rfl | mem
        · exact .inl (same ▸ rfl)
        · exact .inr (.tail _ mem)
      case isFalse =>
        rcases List.mem_cons.mp mem with rfl | mem
        · exact .inr (.head _)
        · exact (ih mem).imp_right (.tail _)

theorem mem_of_mem_ofList {pairs : List (String × α)} {entry : String × α}
    (mem : entry ∈ ofList pairs) : entry ∈ pairs := by
  refine List.foldlRecOn (motive := fun entries => entry ∈ entries → entry ∈ pairs) pairs _
    (absurd · List.not_mem_nil) (fun entries known pair among mem => ?_) mem
  rcases mem_of_mem_insert mem with rfl | mem
  · exact among
  · exact known mem

end Entries

end Containment
