import Containment.Number.Numeral
import Containment.Proofs.Text.Digits

namespace Containment

open Text

/-! Which texts are written integers, and what number such a text denotes: a grammar on one
side, the readers on the other. -/

attribute [local instance(1100)] instPowNat

namespace Text

/-- What a digit of any script counts: how far it stands from the zero of its row. -/
def digitValue (c : Char) : Nat :=
  ((digitZeros.find? fun first => first ≤ c.toNat && c.toNat < first + 10).map
    (c.toNat - ·)).getD 0

/-- The number that digits of any script make in decimal. -/
def numberOf (digits : List Char) : Nat :=
  digits.foldl (fun number c => 10 * number + digitValue c) 0

theorem digitValue_of_isDigit {c : Char} (digit : c.isDigit = true) :
    digitValue c = c.toNat - '0'.toNat := by
  have bounds := bounds_of_isDigit digit
  have found : digitZeros.find? (fun first => first ≤ c.toNat && c.toNat < first + 10) =
      some 0x30 := by
    apply List.find?_cons_of_pos
    simp only [Bool.and_eq_true, decide_eq_true_eq]
    omega
  rw [digitValue, found]
  rfl

theorem numberOf_ascii {digits : List Char} (ascii : ∀ c ∈ digits, c.isDigit = true) :
    numberOf digits = Nat.ofDigitChars 10 digits 0 := by
  have step : ∀ (digits : List Char) (start : Nat), (∀ c ∈ digits, c.isDigit = true) →
      digits.foldl (fun number c => 10 * number + digitValue c) start =
        Nat.ofDigitChars 10 digits start := by
    intro digits
    induction digits with
    | nil => intro _ _; rfl
    | cons c rest ih =>
        intro start ascii
        rw [List.foldl_cons, Nat.ofDigitChars_cons, digitValue_of_isDigit (ascii c (by simp))]
        exact ih _ fun d mem => ascii d (by simp [mem])
  exact step digits 0 ascii

theorem dropUnderscores_append (text rest : List Char) :
    dropUnderscores (text ++ rest) = dropUnderscores text ++ dropUnderscores rest :=
  List.filter_append text rest

theorem dropUnderscores_underscore (text : List Char) :
    dropUnderscores ('_' :: text) = dropUnderscores text :=
  List.filter_cons_of_neg (by decide)

variable {isDigit : Char → Bool} {text group digits : List Char}

/-- Digits in one or more groups, with single underscores between the groups. -/
inductive Grouped (isDigit : Char → Bool) : (text digits : List Char) → Prop
  | last {group : List Char} (nonempty : group ≠ [])
      (all : ∀ c ∈ group, isDigit c = true) : Grouped isDigit group group
  | next (group : List Char) {text digits : List Char} (nonempty : group ≠ [])
      (all : ∀ c ∈ group, isDigit c = true) (rest : Grouped isDigit text digits) :
      Grouped isDigit (group ++ '_' :: text) (group ++ digits)

namespace Grouped

theorem cons {c : Char} (digit : isDigit c = true) (grouped : Grouped isDigit text digits) :
    Grouped isDigit (c :: text) (c :: digits) := by
  cases grouped with
  | last nonempty all =>
      exact .last (List.cons_ne_nil c _) (List.forall_mem_cons.mpr ⟨digit, all⟩)
  | next group nonempty all rest =>
      exact .next (c :: group) (List.cons_ne_nil c _) (List.forall_mem_cons.mpr ⟨digit, all⟩) rest

theorem isDigit_of_mem (grouped : Grouped isDigit text digits) :
    ∀ c ∈ digits, isDigit c = true := by
  induction grouped with
  | last _ all => exact all
  | next _ _ all _ ih => exact List.forall_mem_append.mpr ⟨all, ih⟩

/-- The first character of the text is the first digit. -/
theorem exists_cons (grouped : Grouped isDigit text digits) :
    ∃ c rest others, text = c :: rest ∧ digits = c :: others ∧ isDigit c = true := by
  cases grouped with
  | last nonempty all =>
      obtain ⟨c, rest, rfl⟩ := List.exists_cons_of_ne_nil nonempty
      exact ⟨c, rest, rest, rfl, rfl, all c (by simp)⟩
  | @next group text digits nonempty all _ =>
      obtain ⟨c, rest, rfl⟩ := List.exists_cons_of_ne_nil nonempty
      exact ⟨c, rest ++ '_' :: text, rest ++ digits, rfl, rfl, all c (by simp)⟩

theorem restrict {isDigit' : Char → Bool} (grouped : Grouped isDigit text digits)
    (all' : ∀ c ∈ digits, isDigit' c = true) : Grouped isDigit' text digits := by
  induction grouped with
  | last nonempty _ => exact .last nonempty all'
  | next group nonempty _ _ ih =>
      obtain ⟨all, rest⟩ := List.forall_mem_append.mp all'
      exact .next group nonempty all (ih rest)

theorem dropUnderscores_eq (grouped : Grouped isDigit text digits)
    (apart : isDigit '_' = false) : dropUnderscores text = digits := by
  have kept : ∀ {group : List Char}, (∀ c ∈ group, isDigit c = true) →
      dropUnderscores group = group := by
    intro group all
    refine List.filter_eq_self.mpr fun c mem => bne_iff_ne.mpr ?_
    rintro rfl
    exact absurd (all _ mem) (Bool.eq_false_iff.mp apart)
  induction grouped with
  | last _ all => exact kept all
  | next _ _ all _ ih => rw [dropUnderscores_append, dropUnderscores_underscore, kept all, ih]

end Grouped

theorem isDigitGroups_append (nonempty : group ≠ []) (all : ∀ c ∈ group, isDigit c = true)
    (apart : isDigit '_' = false) (text : List Char) :
    isDigitGroups isDigit group = true ∧
      isDigitGroups isDigit (group ++ '_' :: text) = isDigitGroups isDigit text := by
  induction group with
  | nil => exact absurd rfl nonempty
  | cons c rest ih =>
      have digit := all c (by simp)
      cases rest with
      | nil => simp [isDigitGroups, digit]
      | cons d rest =>
          have next : d ≠ '_' := by
            rintro rfl
            exact absurd (all _ (by simp)) (Bool.eq_false_iff.mp apart)
          have step : ∀ more, isDigitGroups isDigit (c :: d :: more) =
              isDigitGroups isDigit (d :: more) := by
            intro more
            rw [isDigitGroups.eq_4 _ _ _ (by simp) (by simpa using next), digit, Bool.true_and]
          have ⟨alone, before⟩ := ih (List.cons_ne_nil d rest) fun e mem => all e (by simp [mem])
          exact ⟨(step rest).trans alone, (step _).trans before⟩

theorem isDigitGroups_iff (apart : isDigit '_' = false) :
    isDigitGroups isDigit text = true ↔ ∃ digits, Grouped isDigit text digits := by
  constructor
  · intro accepted
    fun_induction isDigitGroups isDigit text with
    | case1 => cases accepted
    | case2 c => exact ⟨[c], .last (by simp) (by simpa using accepted)⟩
    | case3 c rest ih =>
        obtain ⟨digit, accepted⟩ := Bool.and_eq_true_iff.mp accepted
        obtain ⟨digits, grouped⟩ := ih accepted
        exact ⟨c :: digits, .next [c] (by simp) (by simpa using digit) grouped⟩
    | case4 c rest _ _ ih =>
        obtain ⟨digit, accepted⟩ := Bool.and_eq_true_iff.mp accepted
        obtain ⟨digits, grouped⟩ := ih accepted
        exact ⟨c :: digits, grouped.cons digit⟩
  · rintro ⟨digits, grouped⟩
    induction grouped with
    | last nonempty all => exact (isDigitGroups_append nonempty all apart []).1
    | next _ nonempty all _ ih => rw [(isDigitGroups_append nonempty all apart _).2, ih]

end Text

namespace Numeral

variable {isDigit : Char → Bool} {text digits : List Char} {negative : Bool}

/-- An integer as it is written: one sign or none, then groups of digits. -/
inductive Written (isDigit : Char → Bool) :
    (text : List Char) → (negative : Bool) → (digits : List Char) → Prop
  | bare {text digits : List Char} (grouped : Grouped isDigit text digits) :
      Written isDigit text false digits
  | plus {text digits : List Char} (grouped : Grouped isDigit text digits) :
      Written isDigit ('+' :: text) false digits
  | minus {text digits : List Char} (grouped : Grouped isDigit text digits) :
      Written isDigit ('-' :: text) true digits

/-- The text is a written integer with this value. -/
def Denotes (isDigit : Char → Bool) (text : List Char) (number : Int) : Prop :=
  ∃ negative digits, Written isDigit text negative digits ∧
    number = Binary64.signed negative (numberOf digits)

theorem splitSign_of_isDecimalDigit {c : Char} (digit : isDecimalDigit c = true)
    (rest : List Char) : splitSign (c :: rest) = (false, c :: rest) := by
  unfold splitSign
  split
  case h_1 same => obtain ⟨rfl, -⟩ := List.cons.inj same; exact absurd digit (by decide)
  case h_2 same => obtain ⟨rfl, -⟩ := List.cons.inj same; exact absurd digit (by decide)
  case h_3 => rfl

namespace Written

/-- Sign and digits can be taken from the text without its underscores. -/
theorem splitSign_eq (written : Written isDecimalDigit text negative digits) :
    splitSign (dropUnderscores text) = (negative, digits) := by
  cases written with
  | bare grouped =>
      rw [grouped.dropUnderscores_eq (by decide)]
      obtain ⟨c, _, others, -, rfl, digit⟩ := grouped.exists_cons
      exact splitSign_of_isDecimalDigit digit others
  | plus grouped =>
      rw [dropUnderscores, List.filter_cons_of_pos (by decide)]
      exact congrArg (Prod.mk false) (grouped.dropUnderscores_eq (by decide))
  | minus grouped =>
      rw [dropUnderscores, List.filter_cons_of_pos (by decide)]
      exact congrArg (Prod.mk true) (grouped.dropUnderscores_eq (by decide))

theorem grouped (written : Written isDigit text negative digits) :
    ∃ rest, Grouped isDigit rest digits := by
  cases written with
  | bare grouped | plus grouped | minus grouped => exact ⟨_, grouped⟩

theorem restrict {isDigit' : Char → Bool} (written : Written isDigit text negative digits)
    (all' : ∀ c ∈ digits, isDigit' c = true) : Written isDigit' text negative digits := by
  cases written with
  | bare grouped => exact .bare (grouped.restrict all')
  | plus grouped => exact .plus (grouped.restrict all')
  | minus grouped => exact .minus (grouped.restrict all')

end Written

theorem isInteger_iff :
    isInteger text = true ↔ ∃ negative digits, Written isDecimalDigit text negative digits := by
  have groups : ∀ text, isDigitGroups isDecimalDigit text = true ↔
      ∃ digits, Grouped isDecimalDigit text digits := fun _ => isDigitGroups_iff (by decide)
  constructor
  · intro integer
    unfold isInteger splitSign at integer
    split at integer
    case h_1 =>
      obtain ⟨digits, grouped⟩ := (groups _).mp integer
      exact ⟨true, digits, .minus grouped⟩
    case h_2 =>
      obtain ⟨digits, grouped⟩ := (groups _).mp integer
      exact ⟨false, digits, .plus grouped⟩
    case h_3 =>
      obtain ⟨digits, grouped⟩ := (groups _).mp integer
      exact ⟨false, digits, .bare grouped⟩
  · rintro ⟨negative, digits, written⟩
    cases written with
    | bare grouped =>
        have accepted := (groups _).mpr ⟨digits, grouped⟩
        obtain ⟨c, rest, _, rfl, -, digit⟩ := grouped.exists_cons
        rwa [isInteger, splitSign_of_isDecimalDigit digit]
    | plus grouped | minus grouped => exact (groups _).mpr ⟨digits, grouped⟩

theorem isInteger_iff_denotes :
    isInteger text = true ↔ ∃ number, Denotes isDecimalDigit text number := by
  rw [isInteger_iff]
  constructor
  · rintro ⟨negative, digits, written⟩
    exact ⟨_, negative, digits, written, rfl⟩
  · rintro ⟨_, negative, digits, written, -⟩
    exact ⟨negative, digits, written⟩

theorem natOfDigits?_eq_some_iff {number : Nat} (nonempty : digits ≠ []) :
    natOfDigits? digits = some number ↔
      (∀ c ∈ digits, c.isDigit = true) ∧ number = numberOf digits := by
  have all : isDigits Char.isDigit digits = true ↔ ∀ c ∈ digits, c.isDigit = true := by
    obtain ⟨c, rest, rfl⟩ := List.exists_cons_of_ne_nil nonempty
    exact List.all_eq_true
  unfold natOfDigits?
  split
  case isTrue accepted =>
    have ascii := all.mp accepted
    rw [Option.some.injEq, numberOf_ascii ascii, and_iff_right ascii, eq_comm]
  case isFalse refused => simp [mt all.mpr refused]

/-- ASCII digits are digits of their script. -/
theorem Denotes.of_ascii {number : Int} (denotes : Denotes Char.isDigit text number) :
    Denotes isDecimalDigit text number := by
  obtain ⟨negative, digits, written, value⟩ := denotes
  obtain ⟨_, grouped⟩ := written.grouped
  have decimal : ∀ c ∈ digits, isDecimalDigit c = true := fun c mem =>
    isDecimalDigit_of_isDigit (grouped.isDigit_of_mem c mem)
  exact ⟨negative, digits, written.restrict decimal, value⟩

theorem Denotes.unique {number other : Int} (first : Denotes isDecimalDigit text number)
    (second : Denotes isDecimalDigit text other) : number = other := by
  obtain ⟨negative, digits, written, rfl⟩ := first
  obtain ⟨negative', digits', written', rfl⟩ := second
  have same := written.splitSign_eq.symm.trans written'.splitSign_eq
  cases same
  rfl

/-- Of the written integers, those with ASCII digits have a number. -/
theorem int?_eq_some_iff {number : Int} (integer : isInteger text = true) :
    int? text = some number ↔ Denotes Char.isDigit text number := by
  obtain ⟨negative, digits, written⟩ := isInteger_iff.mp integer
  obtain ⟨_, grouped⟩ := written.grouped
  obtain ⟨_, _, _, -, nonempty, -⟩ := grouped.exists_cons
  have read : int? text = (natOfDigits? digits).map (Binary64.signed negative) := by
    rw [int?, written.splitSign_eq]
  rw [read, Option.map_eq_some_iff]
  constructor
  · rintro ⟨magnitude, found, rfl⟩
    obtain ⟨ascii, rfl⟩ := (natOfDigits?_eq_some_iff (by simp [nonempty])).mp found
    exact ⟨negative, digits, written.restrict ascii, rfl⟩
  · rintro ⟨negative', digits', written', rfl⟩
    obtain ⟨_, ascii⟩ := written'.grouped
    have decimal : Written isDecimalDigit text negative' digits' := written'.restrict fun c mem =>
      isDecimalDigit_of_isDigit (ascii.isDigit_of_mem c mem)
    have same := written.splitSign_eq.symm.trans decimal.splitSign_eq
    cases same
    exact ⟨_, (natOfDigits?_eq_some_iff (by simp [nonempty])).mpr ⟨ascii.isDigit_of_mem, rfl⟩, rfl⟩

theorem int64?_eq_some_iff {number : Int} {word : Int64} :
    int64? number = some word ↔
      -2 ^ (63 : Nat) ≤ number ∧ number ≤ 2 ^ (63 : Nat) - 1 ∧ word = Int64.ofInt number := by
  unfold int64?
  split
  case isTrue within =>
    rw [Option.some.injEq, eq_comm, and_iff_right within.1, and_iff_right (by omega)]
  case isFalse beyond =>
    simp only [reduceCtorEq, false_iff]
    omega

theorem int64?_eq_none_iff {number : Int} :
    int64? number = none ↔ number < -2 ^ (63 : Nat) ∨ 2 ^ (63 : Nat) - 1 < number := by
  unfold int64?
  split
  case isTrue within =>
    simp only [reduceCtorEq, false_iff]
    omega
  case isFalse beyond =>
    simp only [true_iff]
    omega

end Numeral

end Containment
