import Containment.Json.Reader
import Containment.Number.Decimal
import Containment.Proofs.Text.Digits
import Containment.Proofs.Text.Reading
import Mathlib.Data.Option.Basic

namespace Containment.Json

open Text

/-! Integers and arrays of integers as JSON writes them, and the documents that they are read as. -/

attribute [local instance(1100)] instPowNat

/-- An integer without fraction and exponent: a minus sign or none, and the digits of a number. -/
structure WrittenInteger where
  negative : Bool
  magnitude : Nat
  deriving DecidableEq

namespace WrittenInteger

def value (written : WrittenInteger) : Int :=
  Binary64.signed written.negative written.magnitude

def chars (written : WrittenInteger) : List Char :=
  Binary64.signChars written.negative ++ Nat.toDigits 10 written.magnitude

/-- A word of 64 bits holds the integer, with a sign or without. -/
def Fits (written : WrittenInteger) : Prop :=
  -2 ^ (63 : Nat) ≤ written.value ∧ written.value < 2 ^ (64 : Nat)

instance (written : WrittenInteger) : Decidable written.Fits :=
  inferInstanceAs (Decidable (_ ∧ _))

def minusZero : WrittenInteger := ⟨true, 0⟩

/-- Minus zero is not read as an integer. -/
def document (written : WrittenInteger) : Json :=
  if written = minusZero then .decimal (.zero true) rfl else .integer written.value

/-- What stands behind the opening bracket of an array. -/
def elementChars : WrittenInteger → List WrittenInteger → List Char
  | last, [] => last.chars ++ [']']
  | first, second :: rest => first.chars ++ ',' :: elementChars second rest

def arrayChars : List WrittenInteger → List Char
  | [] => ['[', ']']
  | first :: rest => '[' :: elementChars first rest

theorem length_lt_elementChars (first : WrittenInteger) (others : List WrittenInteger) :
    others.length < (elementChars first others).length := by
  induction others generalizing first with
  | nil => simp [elementChars]
  | cons second others ih =>
      have := ih second
      simp only [elementChars, List.length_append, List.length_cons]
      omega

theorem length_lt_arrayChars (written : List WrittenInteger) :
    written.length < (arrayChars written).length := by
  cases written with
  | nil => exact Nat.zero_lt_two
  | cons first others => exact Nat.succ_lt_succ (length_lt_elementChars first others)

end WrittenInteger

namespace Reader

variable {text rest run : List Char}

theorem le_ofDigitChars (digits : List Char) (start : Nat) :
    start ≤ Nat.ofDigitChars 10 digits start := by
  induction digits generalizing start with
  | nil => exact Nat.le_refl start
  | cons c rest ih =>
      rw [Nat.ofDigitChars_cons]
      exact Nat.le_trans (by omega) (ih _)

/-- All digits are taken where 64 bits hold their number. -/
theorem accumulate_eq (digits : List Char) (start : Nat)
    (small : Nat.ofDigitChars 10 digits start < 2 ^ (64 : Nat)) :
    accumulate start digits = (Nat.ofDigitChars 10 digits start, digits.length) := by
  induction digits generalizing start with
  | nil => rfl
  | cons c rest ih =>
      rw [Nat.ofDigitChars_cons] at small ⊢
      have longer := Nat.lt_of_le_of_lt (le_ofDigitChars rest _) small
      rw [accumulate]
      dsimp only
      rw [if_pos longer, ih _ small]
      rfl

theorem scaled_zero (exponent : Int) : scaled 0 exponent = .zero false := by
  have start : Binary64.ofNat 0 = .zero false := by
    rw [Binary64.ofNat, Binary64.ofQuotient]
    generalize Binary64.unitsPerOne = units
    rw [Nat.zero_mul]
    rfl
  rw [scaled]
  dsimp only
  rw [if_pos rfl, start]

theorem accumulate_toDigits {n : Nat} (small : n < 2 ^ (64 : Nat)) :
    accumulate 0 (Nat.toDigits 10 n) = (n, (Nat.toDigits 10 n).length) := by
  have taken := accumulate_eq (Nat.toDigits 10 n) 0
  rw [Nat.ofDigitChars_toDigits (by decide) (by decide)] at taken
  exact taken small

theorem numberOf_toDigits {written : WrittenInteger} (fits : written.Fits) :
    numberOf written.negative (Nat.toDigits 10 written.magnitude) none none =
      some written.document := by
  obtain ⟨negative, magnitude⟩ := written
  obtain ⟨least, most⟩ := fits
  have small : magnitude < 2 ^ (64 : Nat) := by
    cases negative <;> simp only [WrittenInteger.value, Binary64.signed] at least most <;> omega
  rw [numberOf, accumulate_toDigits small]
  simp only [Option.isNone_none, Bool.true_and, beq_self_eq_true]
  split
  case isTrue integral =>
    have plain : (⟨negative, magnitude⟩ : WrittenInteger) ≠ .minusZero := by
      rintro ⟨⟩
      exact absurd integral (by decide)
    rw [WrittenInteger.document, if_neg plain]
    rfl
  case isFalse decimal =>
    have minusZero : (⟨negative, magnitude⟩ : WrittenInteger) = .minusZero := by
      cases negative with
      | false => exact absurd rfl decimal
      | true =>
          simp only [WrittenInteger.value, Binary64.signed, if_true] at least
          simp only [Bool.not_true, Bool.false_or, Bool.and_eq_true, decide_eq_true_eq] at decimal
          obtain rfl : magnitude = 0 := by omega
          rfl
    cases minusZero
    simp only [Option.getD_none, accumulate, scaled_zero, if_true]
    rfl

/-- What stands behind a number without fraction and exponent. -/
def Ends (rest : List Char) : Prop :=
  ∀ c ∈ rest.head?, c.isDigit = false ∧ c ≠ '.' ∧ c ≠ 'e' ∧ c ≠ 'E'

theorem reads_digits (all : ∀ c ∈ run, c.isDigit = true) (ends : Ends rest) :
    Reads digits (run ++ rest) run rest := by
  have stops : ∀ c ∈ rest.head?, c.isDigit = false := fun c first => (ends c first).1
  refine (Reads.get _).bind ((Reads.set _ _).bind ?_)
  rw [takeWhile_run all stops, dropWhile_run all stops]
  exact Reads.pure run rest

theorem reads_fraction (ends : Ends rest) : Reads fraction? rest none rest := by
  unfold fraction?
  refine (Reads.get _).bind ?_
  split
  case h_1 => exact absurd rfl (ends _ rfl).2.1
  case h_2 => exact Reads.pure none rest

theorem reads_exponent (ends : Ends rest) : Reads exponent? rest none rest := by
  unfold exponent?
  refine (Reads.get _).bind ?_
  split
  case h_1 => exact absurd rfl (ends _ rfl).2.2.1
  case h_2 => exact absurd rfl (ends _ rfl).2.2.2
  case h_3 => exact Reads.pure none rest

/-- Zero is written with one digit, and other numbers without a leading zero. -/
theorem noLeadingZero_toDigits (n : Nat) :
    (!(Nat.toDigits 10 n).isEmpty &&
      ((Nat.toDigits 10 n).length == 1 || (Nat.toDigits 10 n).head? != some '0')) = true := by
  by_cases zero : n = 0
  · subst zero
    rfl
  · have some? : (Nat.toDigits 10 n).isEmpty = false :=
      List.isEmpty_eq_false_iff.mpr Nat.toDigits_ne_nil
    have head : ((Nat.toDigits 10 n).head? != some '0') = true :=
      bne_iff_ne.mpr (head?_toDigits zero)
    rw [some?, head, Bool.or_true]
    rfl

/-- A number starts with a sign or with a digit. -/
def Starts (c : Char) : Prop :=
  c = '-' ∨ c.isDigit = true

theorem Starts.ne {c mark : Char} (starts : Starts c) (sign : mark ≠ '-')
    (plain : mark.isDigit = false) : c ≠ mark := by
  rintro rfl
  rcases starts with rfl | digit
  · exact sign rfl
  · rw [plain] at digit
    cases digit

theorem Starts.not_isSpace {c : Char} (starts : Starts c) : ¬ isSpace c = true := by
  simp only [isSpace, Bool.or_eq_true, beq_iff_eq]
  rintro (((same | same) | same) | same) <;> exact starts.ne (by decide) rfl same

theorem reads_spaces {c : Char} (solid : ¬ isSpace c = true) (rest : List Char) :
    Reads spaces (c :: rest) () (c :: rest) := by
  have read : Reads spaces (c :: rest) () ((c :: rest).dropWhile isSpace) := Reads.modify _ _
  rwa [List.dropWhile_cons_of_neg solid] at read

theorem chars_eq_cons (written : WrittenInteger) :
    ∃ c others, written.chars = c :: others ∧ Starts c := by
  obtain ⟨negative, magnitude⟩ := written
  cases negative with
  | true => exact ⟨'-', Nat.toDigits 10 magnitude, rfl, .inl rfl⟩
  | false =>
      obtain ⟨c, others, shown, digit⟩ := toDigits_eq_cons magnitude
      exact ⟨c, others, shown, .inr digit⟩

theorem elementChars_eq_cons (first : WrittenInteger) (others : List WrittenInteger) :
    ∃ c run, WrittenInteger.elementChars first others = c :: run ∧ Starts c := by
  obtain ⟨c, run, shown, starts⟩ := chars_eq_cons first
  cases others with
  | nil => exact ⟨c, run ++ [']'], by rw [WrittenInteger.elementChars, shown]; rfl, starts⟩
  | cons => exact ⟨c, _, by rw [WrittenInteger.elementChars, shown]; rfl, starts⟩

theorem reads_number {written : WrittenInteger} (fits : written.Fits) (ends : Ends rest) :
    Reads number (written.chars ++ rest) written.document rest := by
  have all : ∀ c ∈ Nat.toDigits 10 written.magnitude, c.isDigit = true := fun c mem =>
    Nat.isDigit_of_mem_toDigits (by decide) (by decide) mem
  have unsigned : Reads (digits >>= fun whole => do
      guard ((!whole.isEmpty && (whole.length == 1 || whole.head? != some '0')) = true)
      let fraction ← fraction?
      let power ← exponent?
      liftM (numberOf written.negative whole fraction power))
      (Nat.toDigits 10 written.magnitude ++ rest) written.document rest :=
    (reads_digits all ends).bind <| (Reads.guarded (noLeadingZero_toDigits _) rest).bind <|
      (reads_fraction ends).bind <| (reads_exponent ends).bind <|
        Reads.lift (numberOf_toDigits fits) rest
  obtain ⟨negative, magnitude⟩ := written
  unfold number
  refine (Reads.get _).bind ?_
  cases negative with
  | true => exact (Reads.set _ _).bind unsigned
  | false =>
      obtain ⟨c, others, shown, digit⟩ := toDigits_eq_cons magnitude
      have start : WrittenInteger.chars ⟨false, magnitude⟩ ++ rest = c :: (others ++ rest) :=
        congrArg (· ++ rest) shown
      dsimp only
      split
      case h_1 tail same =>
        rw [start] at same
        rw [(List.cons.inj same).1] at digit
        exact absurd digit (by decide)
      case h_2 => exact unsigned

/-- No other kind of document starts as a number does. -/
theorem reads_document {written : WrittenInteger} (fits : written.Fits) (ends : Ends rest)
    (steps depth : Nat) :
    Reads (document (steps + 1) (depth + 1)) (written.chars ++ rest) written.document rest := by
  have whole := reads_number fits ends
  obtain ⟨c, others, shown, starts⟩ := chars_eq_cons written
  rw [shown, List.cons_append] at whole ⊢
  rw [document]
  refine (reads_spaces starts.not_isSpace _).bind ((Reads.get _).bind ?_)
  split
  case h_7 => exact whole
  all_goals
    rename_i same
    exact absurd (List.cons.inj same).1 (starts.ne (by decide) rfl)

/-- The induction is on the integers, each of which takes one step of those that are left. -/
theorem reads_elements {first : WrittenInteger} {others : List WrittenInteger}
    (fit : ∀ written ∈ first :: others, written.Fits) (spare depth : Nat) (rest : List Char) :
    Reads (elements (spare + others.length + 2) (depth + 1))
      (WrittenInteger.elementChars first others ++ rest)
      ((first :: others).map WrittenInteger.document) rest := by
  have single : first.Fits := fit first List.mem_cons_self
  induction others generalizing first with
  | nil =>
      have close : Ends (']' :: rest) := by
        rintro c ⟨⟩
        decide
      have read := reads_document single close spare depth
      rw [WrittenInteger.elementChars, List.append_assoc, elements]
      exact read.bind ((reads_spaces (by decide) rest).bind (Reads.pure _ rest))
  | cons second others ih =>
      have comma : Ends (',' :: (WrittenInteger.elementChars second others ++ rest)) := by
        rintro c ⟨⟩
        decide
      have read := reads_document single comma (spare + (second :: others).length) depth
      have fit' : ∀ written ∈ second :: others, written.Fits :=
        fun written mem => fit written (List.mem_cons_of_mem first mem)
      have left := ih fit' (fit' second List.mem_cons_self)
      rw [WrittenInteger.elementChars, List.append_assoc, elements]
      refine read.bind ((reads_spaces (by decide) _).bind ?_)
      exact left.map (first.document :: ·)

theorem reads_array {written : List WrittenInteger} (fit : ∀ integer ∈ written, integer.Fits)
    (spare depth : Nat) (rest : List Char) :
    Reads (document (spare + written.length + 3) (depth + 2))
      (WrittenInteger.arrayChars written ++ rest)
      (.array (written.map WrittenInteger.document)) rest := by
  cases written with
  | nil =>
      rw [WrittenInteger.arrayChars, document]
      exact (reads_spaces (by decide) _).bind rfl
  | cons first others =>
      obtain ⟨c, run, shown, starts⟩ := elementChars_eq_cons first others
      have read := reads_elements fit (spare + 1) depth rest
      rw [shown, List.cons_append, Nat.add_right_comm spare 1] at read
      rw [WrittenInteger.arrayChars, shown, document]
      refine (reads_spaces (by decide) _).bind ((Reads.get _).bind ?_)
      refine (Reads.set _ _).bind ((Reads.guarded (Nat.succ_pos depth) _).bind ?_)
      refine (reads_spaces starts.not_isSpace _).bind ((Reads.get _).bind ?_)
      split
      case h_1 same => exact absurd (List.cons.inj same).1 (starts.ne (by decide) rfl)
      case h_2 => exact read.map _

end Reader

/-- An integer that fits is read as it is written. -/
theorem ofText?_chars {written : WrittenInteger} (fits : written.Fits) :
    ofText? (String.ofList written.chars) = some written.document := by
  have nothing : Reader.Ends [] := by
    intro c mem
    cases mem
  have whole := Reader.reads_document fits nothing (2 * written.chars.length + 1) 127
  rw [List.append_nil] at whole
  rw [ofText?, String.toList_ofList, Reader.maxDepth, whole]
  rfl

theorem ofText?_arrayChars {written : List WrittenInteger}
    (fit : ∀ integer ∈ written, integer.Fits) :
    ofText? (String.ofList (WrittenInteger.arrayChars written)) =
      some (.array (written.map WrittenInteger.document)) := by
  obtain ⟨spare, enough⟩ : ∃ spare, 2 * (WrittenInteger.arrayChars written).length + 2 =
      spare + written.length + 3 :=
    ⟨2 * (WrittenInteger.arrayChars written).length - written.length - 1, by
      have := WrittenInteger.length_lt_arrayChars written
      omega⟩
  have whole := Reader.reads_array fit spare 126 []
  rw [List.append_nil] at whole
  rw [ofText?, String.toList_ofList, Reader.maxDepth, enough, whole]
  rfl

end Containment.Json
