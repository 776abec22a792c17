import Containment.Schema.Validation

namespace Containment

/-! What scalars and enumerations read a value as: always a value of their own, which they then
keep. -/

namespace Scalar

/-- A value that comes out is one of the type as it stands. -/
def Yields (type : Scalar) (outcome : Except Fault Value) : Prop :=
  ∀ result, outcome = .ok result → (Schema.scalar type).isExact result = true

variable {type : Scalar}

theorem Yields.ok {value : Value} (exact : (Schema.scalar type).isExact value = true) :
    type.Yields (.ok value) := by
  rintro result ⟨⟩
  exact exact

theorem Yields.error (fault : Fault) : type.Yields (.error fault) :=
  fun _ made => nomatch made

theorem Yields.ofText {read : List Char → Except Fault Value}
    (each : ∀ text, type.Yields (read text)) (unreadable : Fault) (text? : Option String) :
    type.Yields (Scalar.ofText unreadable read text?) := by
  cases text? with
  | some text => exact each _
  | none => exact .error unreadable

theorem yields_boolOfText (text : List Char) : bool.Yields (boolOfText text) := by
  unfold boolOfText
  dsimp only
  split
  · exact .ok rfl
  · split
    · exact .ok rfl
    · exact .error _

theorem yields_toBool (value : Value) : bool.Yields (toBool value) := by
  unfold toBool
  split
  · exact .ok rfl
  · split
    · exact .ok rfl
    · split
      · exact .ok rfl
      · exact .error _
  · split
    · exact .ok rfl
    · split
      · exact .ok rfl
      · exact .error _
  · exact .ofText yields_boolOfText _ _
  · exact .ofText yields_boolOfText _ _
  · exact .error _

theorem yields_intOfText (text : List Char) : int.Yields (intOfText text) := by
  unfold intOfText
  split
  · split
    · exact .ok rfl
    · exact .error _
  · exact .error _

theorem yields_intOfFloat (number : Binary64) : int.Yields (intOfFloat number) := by
  unfold intOfFloat
  split
  · exact .error _
  · exact .error _
  · split
    · exact .ok rfl
    · exact .error _

theorem yields_toInt (value : Value) : int.Yields (toInt value) := by
  unfold toInt
  split
  · exact .ok rfl
  · exact .ok rfl
  · exact yields_intOfFloat _
  · exact .ofText yields_intOfText _ _
  · exact .ofText yields_intOfText _ _
  · exact .error _

theorem yields_floatOfText (text : List Char) : float.Yields (floatOfText text) := by
  unfold floatOfText
  split
  · exact .ok rfl
  · exact .error _

theorem yields_toFloat (value : Value) : float.Yields (toFloat value) := by
  unfold toFloat
  split
  · exact .ok rfl
  · exact .ok rfl
  · exact .ok rfl
  · exact .ofText yields_floatOfText _ _
  · exact .ofText yields_floatOfText _ _
  · exact .error _

theorem yields_toStr (value : Value) : str.Yields (toStr value) := by
  unfold toStr
  split
  · exact .ok rfl
  · split
    · exact .ok rfl
    · exact .error _
  · exact .ok rfl
  · exact .error _

theorem yields_toBytes (value : Value) : bytes.Yields (toBytes value) := by
  unfold toBytes
  split
  · exact .ok rfl
  · exact .ok rfl
  · exact .error _

theorem yields_dateOfText (text : List Char) : date.Yields (dateOfText text) := by
  unfold dateOfText
  split
  · exact .ok rfl
  · exact .error _

theorem yields_toDate (value : Value) : date.Yields (toDate value) := by
  unfold toDate
  split
  · exact .ok rfl
  · split
    · exact .ok rfl
    · exact .error _
  · exact .ofText yields_dateOfText _ _
  · exact .ofText yields_dateOfText _ _
  · exact .error _

theorem yields_timeOfText (text : List Char) : time.Yields (timeOfText text) := by
  unfold timeOfText
  split
  · exact .ok rfl
  · exact .error _

theorem yields_toTime (value : Value) : time.Yields (toTime value) := by
  unfold toTime
  split
  · exact .ok rfl
  · exact .ofText yields_timeOfText _ _
  · exact .ofText yields_timeOfText _ _
  · exact .error _

theorem yields_momentOr (moment? : Option DateTime) : datetime.Yields (momentOr moment?) := by
  unfold momentOr
  split
  · exact .ok rfl
  · exact .error _

theorem yields_toDateTime (value : Value) : datetime.Yields (toDateTime value) := by
  unfold toDateTime
  split
  · exact .ok rfl
  · exact .ofText (fun _ => yields_momentOr _) _ _
  · exact .ofText (fun _ => yields_momentOr _) _ _
  · exact yields_momentOr _
  · exact yields_momentOr _
  · exact .error _

theorem yields_toNull (value : Value) : null.Yields (toNull value) := by
  unfold toNull
  split
  · exact .ok rfl
  · exact .error _

theorem yields_coerce (type : Scalar) (value : Value) : type.Yields (type.coerce value) := by
  cases type with
  | null => exact yields_toNull value
  | bool => exact yields_toBool value
  | int => exact yields_toInt value
  | float => exact yields_toFloat value
  | bytes => exact yields_toBytes value
  | str => exact yields_toStr value
  | date => exact yields_toDate value
  | time => exact yields_toTime value
  | datetime => exact yields_toDateTime value

theorem coerce_of_isExact {value : Value}
    (exact : (Schema.scalar type).isExact value = true) : type.coerce value = .ok value := by
  cases type with
  | null => cases value with | null => rfl | _ => cases exact
  | bool => cases value with | bool => rfl | _ => cases exact
  | int => cases value with | int => rfl | _ => cases exact
  | float => cases value with | float => rfl | _ => cases exact
  | bytes => cases value with | bytes => rfl | _ => cases exact
  | str => cases value with | str => rfl | _ => cases exact
  | date => cases value with | date => rfl | _ => cases exact
  | time => cases value with | time => rfl | _ => cases exact
  | datetime => cases value with | datetime => rfl | _ => cases exact

theorem coerce_coerce {value result : Value} (made : type.coerce value = .ok result) :
    type.coerce result = .ok result :=
  coerce_of_isExact (yields_coerce type value result made)

end Scalar

namespace EnumType

theorem contains_memberValue {type : EnumType} {entry : String × Value}
    (mem : entry ∈ type.members) : type.contains (type.memberValue entry.1 entry.2) = true := by
  have named : entry.1 ∈ Entries.names type.members := List.mem_map_of_mem mem
  have found : Entries.lookup? entry.1 type.members ≠ none :=
    fun gone => Entries.lookup?_eq_none_iff.mp gone named
  simp only [memberValue, contains, beq_self_eq_true, Bool.true_and]
  exact Option.isSome_iff_ne_none.mpr found

theorem contains_of_coerce {type : EnumType} {value result : Value}
    (made : type.coerce value = .ok result) : type.contains result = true := by
  unfold coerce at made
  split at made
  · rename_i contained
    cases made
    exact contained
  · split at made
    · rename_i member picked
      cases made
      obtain ⟨entry, found, rfl⟩ := Option.map_eq_some_iff.mp picked
      exact contains_memberValue (List.mem_of_find?_eq_some found)
    · cases made

theorem coerce_coerce {type : EnumType} {value result : Value}
    (made : type.coerce value = .ok result) : type.coerce result = .ok result := by
  rw [coerce, if_pos (contains_of_coerce made)]

end EnumType

end Containment
