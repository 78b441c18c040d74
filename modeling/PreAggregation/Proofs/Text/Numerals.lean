import Mathlib.Data.List.Induction
import Mathlib.Data.List.TakeWhile
import Mathlib.Data.Nat.Digits.Defs
import PreAggregation.Text.Blank
import PreAggregation.Text.Numeral

/-!
# The spellings of a number

A numeral is an optional sign and one or more ASCII digits.  What is read from a text is
the number that it spells, if the number fits the width, and nothing else is read.  No
digit and no sign is blank, so blanks around a numeral can be taken away without harm.
-/

namespace PreAggregation
namespace Text

/-! ## Blanks -/

theorem exists_append_dropWhile
    (text : List Char) :
    ∃ before, text = before ++ text.dropWhile isBlank ∧ ∀ c ∈ before, isBlank c = true :=
  ⟨text.takeWhile isBlank, List.takeWhile_append_dropWhile.symm, fun _ => List.mem_takeWhile_imp⟩

/-- What is trimmed off is blank. -/
theorem exists_append_trim_append
    (text : List Char) :
    ∃ before after, text = before ++ trim text ++ after ∧
      ∀ c ∈ before ++ after, isBlank c = true := by
  obtain ⟨before, front, blankBefore⟩ := exists_append_dropWhile text
  obtain ⟨after, back, blankAfter⟩ := exists_append_dropWhile (text.dropWhile isBlank).reverse
  refine ⟨before, after.reverse, ?_, ?_⟩
  · rw [trim, List.append_assoc, ← List.reverse_append, ← back, List.reverse_reverse]
    exact front
  · intro c member
    rcases List.mem_append.mp member with inFront | behind
    · exact blankBefore c inFront
    · exact blankAfter c (List.mem_reverse.mp behind)

theorem dropWhile_append_of_blank
    {before text : List Char}
    (blank : ∀ c ∈ before, isBlank c = true)
    (solid : ∀ c ∈ text.head?, isBlank c = false) :
    (before ++ text).dropWhile isBlank = text := by
  rw [List.dropWhile_append_of_pos blank]
  cases text with
  | nil => rfl
  | cons c rest => exact List.dropWhile_cons_of_neg (by simpa using solid c rfl)

/-- Blanks around a text without blanks are trimmed off. -/
theorem trim_append_append
    {before text after : List Char}
    (blank : ∀ c ∈ before ++ after, isBlank c = true)
    (solid : ∀ c ∈ text, isBlank c = false) :
    trim (before ++ text ++ after) = text := by
  have blankBefore : ∀ c ∈ before, isBlank c = true :=
    fun c member => blank c (List.mem_append_left after member)
  have blankAfter : ∀ c ∈ after.reverse, isBlank c = true :=
    fun c member => blank c (List.mem_append_right before (List.mem_reverse.mp member))
  cases text with
  | nil =>
      have nothing : (before ++ [] ++ after).dropWhile isBlank = [] := by
        rw [List.append_nil, ← List.append_nil (before ++ after)]
        exact dropWhile_append_of_blank blank (fun _ absent => absurd absent (by simp))
      rw [trim, nothing]
      rfl
  | cons c rest =>
      have front : (before ++ c :: rest ++ after).dropWhile isBlank = c :: rest ++ after := by
        rw [List.append_assoc]
        refine dropWhile_append_of_blank blankBefore ?_
        intro first isFirst
        cases isFirst
        exact solid c List.mem_cons_self
      rw [trim, front, List.reverse_append, dropWhile_append_of_blank blankAfter,
        List.reverse_reverse]
      intro last isLast
      exact solid last (List.mem_reverse.mp (List.mem_of_mem_head? isLast))

namespace Numeral

/-- One or more ASCII digits. -/
structure IsDigits (text : List Char) : Prop where
  /-- There is one. -/
  ne_nil : text ≠ []
  /-- All are digits. -/
  digits : ∀ c ∈ text, '0' ≤ c ∧ c ≤ '9'

/-- The value of a row of digits, of which the last one counts least. -/
def value (digits : List Char) : Nat :=
  Nat.ofDigits 10 (digits.reverse.map fun digit => digit.toNat - '0'.toNat)

/-- The number that a text spells by digits and an optional sign. -/
inductive Spells : List Char → Int → Prop
  | unsigned {digits : List Char} : IsDigits digits → Spells digits (value digits)
  | positive {digits : List Char} : IsDigits digits → Spells ('+' :: digits) (value digits)
  | negative {digits : List Char} : IsDigits digits → Spells ('-' :: digits) (-value digits)

theorem isDigit_iff (c : Char) : c.isDigit = true ↔ '0' ≤ c ∧ c ≤ '9' := by
  simp [Char.isDigit, Char.le_def]

theorem isDigits_iff
    {text : List Char} :
    IsDigits text ↔ text ≠ [] ∧ text.all Char.isDigit = true := by
  simp only [List.all_eq_true, isDigit_iff]
  exact ⟨fun isDigits => ⟨isDigits.ne_nil, isDigits.digits⟩, fun ⟨ne_nil, digits⟩ =>
    ⟨ne_nil, digits⟩⟩

theorem ofDigitChars_eq_value (digits : List Char) :
    Nat.ofDigitChars 10 digits 0 = value digits := by
  induction digits using List.reverseRecOn with
  | nil => rfl
  | append_singleton digits digit inductionHypothesis =>
      rw [Nat.ofDigitChars_append, inductionHypothesis, Nat.ofDigitChars_cons, Nat.ofDigitChars_nil,
        value, value, List.reverse_append, List.reverse_singleton, List.singleton_append,
        List.map_cons, Nat.ofDigits_cons, Nat.add_comm]

/-- Just rows of digits are read, as what they are worth. -/
theorem digits?_eq_some_iff
    {text : List Char}
    {number : Nat} :
    digits? text = some number ↔ IsDigits text ∧ value text = number := by
  rw [digits?, ofDigitChars_eq_value, isDigits_iff]
  constructor
  · intro read
    split at read
    · cases read
    · rename_i wellFormed
      simp only [Bool.or_eq_true, List.isEmpty_iff, Bool.not_eq_true', not_or,
        Bool.not_eq_false] at wellFormed
      exact ⟨wellFormed, Option.some.inj read⟩
  · rintro ⟨⟨ne_nil, digits⟩, rfl⟩
    have wellFormed : ¬(text.isEmpty || !text.all Char.isDigit) = true := by
      rw [digits]
      simpa using ne_nil
    rw [if_neg wellFormed]

theorem map_digits?_eq_some_iff
    {text : List Char}
    {make : Nat → Int}
    {number : Int} :
    (digits? text).map make = some number ↔ IsDigits text ∧ make (value text) = number := by
  rw [Option.map_eq_some_iff]
  constructor
  · rintro ⟨worth, taken, made⟩
    obtain ⟨isDigits, rfl⟩ := digits?_eq_some_iff.mp taken
    exact ⟨isDigits, made⟩
  · rintro ⟨isDigits, made⟩
    exact ⟨value text, digits?_eq_some_iff.mpr ⟨isDigits, rfl⟩, made⟩

theorem bounded_eq_some_iff
    {width : Nat}
    {read? : Option Int}
    {number : Int} :
    (read?.bind fun value =>
        let bound : Int := Nat.pow 2 (width - 1)
        if -bound ≤ value ∧ value < bound then some value else none) = some number ↔
      read? = some number ∧ -2 ^ (width - 1) ≤ number ∧ number < 2 ^ (width - 1) := by
  have bound_eq : ((Nat.pow 2 (width - 1) : Nat) : Int) = 2 ^ (width - 1) := by
    exact_mod_cast rfl
  simp only [bound_eq, Option.bind_eq_some_iff, Option.ite_none_right_eq_some, Option.some.injEq]
  constructor
  · rintro ⟨value, spelled, fits, rfl⟩
    exact ⟨spelled, fits⟩
  · rintro ⟨spelled, fits⟩
    exact ⟨number, spelled, fits, rfl⟩

/-- Just the numbers that are spelled and fit the width are read. -/
theorem signed?_eq_some_iff
    {width : Nat}
    {text : List Char}
    {number : Int} :
    signed? width text = some number ↔
      Spells text number ∧ -2 ^ (width - 1) ≤ number ∧ number < 2 ^ (width - 1) := by
  constructor
  · intro read
    unfold signed? at read
    split at read
    · obtain ⟨spelled, fits⟩ := bounded_eq_some_iff.mp read
      obtain ⟨isDigits, rfl⟩ := map_digits?_eq_some_iff.mp spelled
      exact ⟨.positive isDigits, fits⟩
    · obtain ⟨spelled, fits⟩ := bounded_eq_some_iff.mp read
      obtain ⟨isDigits, rfl⟩ := map_digits?_eq_some_iff.mp spelled
      exact ⟨.negative isDigits, fits⟩
    · obtain ⟨spelled, fits⟩ := bounded_eq_some_iff.mp read
      obtain ⟨isDigits, rfl⟩ := map_digits?_eq_some_iff.mp spelled
      exact ⟨.unsigned isDigits, fits⟩
  · rintro ⟨spells, fits⟩
    cases spells with
    | positive isDigits =>
        exact bounded_eq_some_iff.mpr ⟨map_digits?_eq_some_iff.mpr ⟨isDigits, rfl⟩, fits⟩
    | negative isDigits =>
        exact bounded_eq_some_iff.mpr ⟨map_digits?_eq_some_iff.mpr ⟨isDigits, rfl⟩, fits⟩
    | unsigned isDigits =>
        unfold signed?
        split
        · exact absurd (isDigits.digits '+' List.mem_cons_self) (by decide)
        · exact absurd (isDigits.digits '-' List.mem_cons_self) (by decide)
        · exact bounded_eq_some_iff.mpr ⟨map_digits?_eq_some_iff.mpr ⟨isDigits, rfl⟩, fits⟩

theorem isDigits_toDigits (number : Nat) : IsDigits (Nat.toDigits 10 number) where
  ne_nil := Nat.toDigits_ne_nil
  digits c member := (isDigit_iff c).mp (Nat.isDigit_of_mem_toDigits (by decide) (by decide) member)

theorem value_toDigits (number : Nat) : value (Nat.toDigits 10 number) = number := by
  rw [← ofDigitChars_eq_value, Nat.ofDigitChars_ten_toDigits]

/-- A number is printed as a text that spells it. -/
theorem spells_toString (number : Int) : Spells (toString number).toList number := by
  cases number with
  | ofNat magnitude =>
      have spells := Spells.unsigned (isDigits_toDigits magnitude)
      rw [value_toDigits, ← Nat.toList_repr] at spells
      exact spells
  | negSucc predecessor =>
      have spells := Spells.negative (isDigits_toDigits (predecessor + 1))
      rw [value_toDigits, ← Nat.toList_repr] at spells
      have printed : (toString (Int.negSucc predecessor)).toList =
          '-' :: (predecessor + 1).repr.toList := by
        change ("-" ++ (predecessor + 1).repr).toList = _
        rw [String.toList_append]
        rfl
      rw [printed]
      exact spells

/-- Nothing in a numeral is blank. -/
theorem Spells.solid
    {text : List Char}
    {number : Int}
    (spells : Spells text number) :
    ∀ c ∈ text, isBlank c = false := by
  have digit (c : Char) (isDigit : '0' ≤ c ∧ c ≤ '9') : isBlank c = false := by
    have least : 0x30 ≤ c.toNat := isDigit.1
    have greatest : c.toNat ≤ 0x39 := isDigit.2
    simp only [isBlank, CodePoints.has, blanks, List.any_cons, List.any_nil, Bool.or_eq_false_iff,
      Bool.and_eq_false_iff, decide_eq_false_iff_not, and_true]
    omega
  cases spells with
  | unsigned isDigits => exact fun c member => digit c (isDigits.digits c member)
  | positive isDigits =>
      intro c member
      rcases List.mem_cons.mp member with rfl | inside
      · decide
      · exact digit c (isDigits.digits c inside)
  | negative isDigits =>
      intro c member
      rcases List.mem_cons.mp member with rfl | inside
      · decide
      · exact digit c (isDigits.digits c inside)

end Numeral
end Text
end PreAggregation
