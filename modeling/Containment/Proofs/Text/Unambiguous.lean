import Containment.Schema.Description

namespace Containment.Text

/-! Descriptions are put together from texts of their parts, with marks in between. Two
parts are unambiguous if their texts, whatever marked text follows them, are one only where what
they tell is. Lists and records of unambiguous parts are unambiguous again. -/

variable {α β : Type}

/-- The marks that follow a part of a description. -/
def isMark (c : Char) : Bool :=
  c == ',' || c == ' ' || c == ')' || c == ']' || c == '\x7d'

/-- Empty, or beginning with a mark. -/
def Marked (rest : List Char) : Prop :=
  ∀ c ∈ rest.head?, isMark c = true

/-- Begins with a character, and not with a mark. -/
def Open (text : List Char) : Prop :=
  ∃ c rest, text = c :: rest ∧ isMark c = false

/-- A text that tells something of a part. It tells the part itself where that is the identity. -/
def Unambiguous (text : α → List Char) (told : α → β) (a b : α) : Prop :=
  ∀ rest others, Marked rest → Marked others →
    text a ++ rest = text b ++ others → told a = told b ∧ rest = others

/-- The text of a part can be told apart whatever follows it. -/
def SelfDelimiting (text : α → List Char) : Prop :=
  ∀ ⦃a b : α⦄ ⦃rest others : List Char⦄,
    text a ++ rest = text b ++ others → a = b ∧ rest = others

theorem SelfDelimiting.unambiguous {text : α → List Char} (delimited : SelfDelimiting text)
    (a b : α) : Unambiguous text id a b :=
  fun _ _ _ _ same => delimited same

@[simp] theorem marked_nil : Marked [] := by
  simp [Marked]

@[simp] theorem marked_cons (c : Char) (rest : List Char) :
    Marked (c :: rest) ↔ isMark c = true := by
  simp [Marked]

theorem Open.not_marked {text : List Char} (opened : Open text) (rest : List Char) :
    ¬ Marked (text ++ rest) := by
  obtain ⟨c, tail, rfl, unmarked⟩ := opened
  simp [unmarked]

theorem Open.append {text : List Char} (opened : Open text) (rest : List Char) :
    Open (text ++ rest) := by
  obtain ⟨c, tail, rfl, unmarked⟩ := opened
  exact ⟨c, tail ++ rest, rfl, unmarked⟩

/-- A text without stops ends where the first stop is. -/
theorem clear_append_cancel {p : Char → Bool} :
    ∀ {text other rest others : List Char},
      (∀ c ∈ text, p c = false) → (∀ c ∈ other, p c = false) →
      (∀ c ∈ rest.head?, p c = true) → (∀ c ∈ others.head?, p c = true) →
      text ++ rest = other ++ others → text = other ∧ rest = others
  | [], [], _, _, _, _, _, _, same => ⟨rfl, same⟩
  | [], d :: _, _, _, _, clear, stopped, _, same => by
      subst same
      simp [clear d (by simp)] at stopped
  | c :: _, [], _, _, clear, _, _, stopped, same => by
      subst same
      simp [clear c (by simp)] at stopped
  | c :: text, d :: other, rest, others, clear, clear', stopped, stopped', same => by
      simp only [List.cons_append, List.cons.injEq] at same
      obtain ⟨rfl, tails⟩ := same
      obtain ⟨rfl, ends⟩ := clear_append_cancel
        (fun e mem => clear e (by simp [mem])) (fun e mem => clear' e (by simp [mem]))
        stopped stopped' tails
      exact ⟨rfl, ends⟩

theorem unambiguous_of_clear {text : α → List Char} {told : α → β} {a b : α}
    (clear : ∀ a, ∀ c ∈ text a, isMark c = false)
    (tells : ∀ a b, text a = text b → told a = told b) : Unambiguous text told a b := by
  intro rest others marked marked' same
  obtain ⟨texts, ends⟩ := clear_append_cancel (clear a) (clear b) marked marked' same
  exact ⟨tells a b texts, ends⟩

theorem toList_join_cons (first : String) (texts : List String) :
    (join ", " (first :: texts)).toList =
      first.toList ++ texts.flatMap fun text => ',' :: ' ' :: text.toList := by
  induction texts generalizing first with
  | nil => simp [join]
  | cons second texts ih => simp [join, ih]

theorem unambiguous_tail {text : α → List Char} {told : α → β} {z : Char}
    (closing : isMark z = true) (noComma : z ≠ ',') (rest others : List Char) :
    ∀ as bs : List α, (∀ a ∈ as, ∀ b ∈ bs, Unambiguous text told a b) →
      as.flatMap (fun a => ',' :: ' ' :: text a) ++ z :: rest =
        bs.flatMap (fun b => ',' :: ' ' :: text b) ++ z :: others →
      as.map told = bs.map told ∧ rest = others
  | [], [], _, same => by simpa using same
  | [], b :: bs, _, same => by
      simp only [List.flatMap_nil, List.nil_append, List.flatMap_cons, List.cons_append,
        List.cons.injEq] at same
      exact absurd same.1 noComma
  | a :: as, [], _, same => by
      simp only [List.flatMap_nil, List.nil_append, List.flatMap_cons, List.cons_append,
        List.cons.injEq] at same
      exact absurd same.1.symm noComma
  | a :: as, b :: bs, parts, same => by
      have marked : ∀ (cs : List α) (rest : List Char),
          Marked (cs.flatMap (fun c => ',' :: ' ' :: text c) ++ z :: rest) := by
        intro cs rest
        cases cs with
        | nil => simpa using closing
        | cons c cs => simp [isMark]
      simp only [List.flatMap_cons, List.cons_append, List.append_assoc, List.cons.injEq,
        true_and] at same
      obtain ⟨head, tails⟩ :=
        parts a (by simp) b (by simp) _ _ (marked as rest) (marked bs others) same
      obtain ⟨tail, ends⟩ := unambiguous_tail closing noComma rest others as bs
        (fun a mem b mem' => parts a (by simp [mem]) b (by simp [mem'])) tails
      exact ⟨by rw [List.map_cons, List.map_cons, head, tail], ends⟩

section Lists

variable {describe : α → String} {told : α → β} {as bs : List α}
  (opened : ∀ a ∈ as ++ bs, Open (describe a).toList)
  (parts : ∀ a ∈ as, ∀ b ∈ bs, Unambiguous (fun a => (describe a).toList) told a b)

include opened parts

theorem join_append_cancel {z : Char} (closing : isMark z = true) (noComma : z ≠ ',')
    {rest others : List Char}
    (same : (join ", " (as.map describe)).toList ++ z :: rest =
      (join ", " (bs.map describe)).toList ++ z :: others) :
    as.map told = bs.map told ∧ rest = others := by
  have start : ∀ (a : α) (as : List α) (rest others : List Char), Open (describe a).toList →
      (join ", " ((a :: as).map describe)).toList ++ rest ≠ z :: others := by
    intro a as rest others opened same
    rw [List.map_cons, toList_join_cons, List.append_assoc] at same
    exact opened.not_marked _ (by rw [same]; simpa using closing)
  cases as with
  | nil =>
      cases bs with
      | nil => simpa [join] using same
      | cons b bs => exact absurd same.symm (start b bs _ _ (opened b (by simp)))
  | cons a as =>
      cases bs with
      | nil => exact absurd same (start a as _ _ (opened a (by simp)))
      | cons b bs =>
          -- One comma in front of both lists makes them tails.
          rw [List.map_cons, List.map_cons, toList_join_cons, toList_join_cons,
            List.flatMap_map, List.flatMap_map] at same
          apply unambiguous_tail closing noComma rest others (a :: as) (b :: bs) parts
          simpa [List.append_assoc] using same

theorem unambiguous_bracketed :
    Unambiguous (fun cs => (bracketed (cs.map describe)).toList) (List.map told) as bs := by
  intro rest others _ _ same
  apply join_append_cancel (z := ']') opened parts rfl (by decide)
  simpa [bracketed] using same

theorem braced_append_cancel {rest others : List Char}
    (same : (braced (as.map describe)).toList ++ rest =
      (braced (bs.map describe)).toList ++ others) :
    as.map told = bs.map told ∧ rest = others := by
  apply join_append_cancel (z := '\x7d') opened parts rfl (by decide)
  simpa [braced] using same

end Lists

theorem applied_append_cancel {γ : Type} {name : String} {describe : α → String} {told : α → β}
    {a b : α} (make : β → γ) (part : Unambiguous (fun a => (describe a).toList) told a b)
    {rest others : List Char}
    (same : (applied name (describe a)).toList ++ rest =
      (applied name (describe b)).toList ++ others) :
    make (told a) = make (told b) ∧ rest = others := by
  simp only [applied, String.toList_append, List.append_assoc, List.append_cancel_left_eq] at same
  obtain ⟨parts, ends⟩ := part _ _ (by simp [isMark]) (by simp [isMark]) same
  exact ⟨congrArg make parts, List.append_cancel_left ends⟩

def endsWord (c : Char) : Bool :=
  c == '(' || isMark c

/-- A text is a word, alone or applied to something. -/
inductive Headed (word : String) : String → Prop where
  | alone (clear : word.toList.any endsWord = false) : Headed word word
  | applied (clear : word.toList.any endsWord = false) (argument : String) :
      Headed word (applied word argument)

namespace Headed

variable {word text other text' : String} {rest others : List Char}

theorem split (headed : Headed word text) (marked : Marked rest) :
    (∀ c ∈ word.toList, endsWord c = false) ∧
      ∃ tail, text.toList ++ rest = word.toList ++ tail ∧ ∀ c ∈ tail.head?, endsWord c = true := by
  have inside : word.toList.any endsWord = false → ∀ c ∈ word.toList, endsWord c = false :=
    fun clear c mem => Bool.eq_false_iff.mpr (List.any_eq_false.mp clear c mem)
  cases headed with
  | alone clear =>
      refine ⟨inside clear, rest, rfl, fun c first => ?_⟩
      rw [endsWord, marked c first, Bool.or_true]
  | applied clear argument =>
      refine ⟨inside clear, '(' :: (argument.toList ++ ')' :: rest), by simp [Text.applied], ?_⟩
      rintro c ⟨⟩
      rfl

theorem word_eq (headed : Headed word text) (headed' : Headed other text')
    (marked : Marked rest) (marked' : Marked others)
    (same : text.toList ++ rest = text'.toList ++ others) : word = other := by
  obtain ⟨clear, tail, shown, stopped⟩ := headed.split marked
  obtain ⟨clear', tail', shown', stopped'⟩ := headed'.split marked'
  rw [shown, shown'] at same
  exact String.toList_inj.mp (clear_append_cancel clear clear' stopped stopped' same).1

end Headed

def entryText (nameText : String → String) (text : α → String) (entry : String × α) : String :=
  nameText entry.1 ++ ": " ++ text entry.2

theorem open_entryText {nameText : String → String} (opened : ∀ name, Open (nameText name).toList)
    (text : α → String) (entry : String × α) : Open (entryText nameText text entry).toList := by
  simp only [entryText, String.toList_append]
  exact ((opened entry.1).append _).append _

theorem unambiguous_entryText {nameText : String → String} {text : α → String} {told : α → β}
    {a b : String × α} (names : SelfDelimiting fun name => (nameText name).toList)
    (parts : Unambiguous (fun a => (text a).toList) told a.2 b.2) :
    Unambiguous (fun entry => (entryText nameText text entry).toList) (Prod.map id told) a b := by
  intro rest others marked marked' same
  simp only [entryText, String.toList_append, List.append_assoc] at same
  obtain ⟨name, tails⟩ := names same
  obtain ⟨value, ends⟩ := parts rest others marked marked' (List.append_cancel_left tails)
  exact ⟨Prod.ext name value, ends⟩

end Containment.Text
