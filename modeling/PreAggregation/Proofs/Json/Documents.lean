import PreAggregation.Proofs.Json.Strings
import PreAggregation.Proofs.Text.Numerals

/-!
# Documents that are read back

Every document whose numbers are natural, and whose strings and names are texts, comes back
from what is written of it.  Nothing that stands behind a part of a document can be taken for
more of a numeral, so each part uses up just what was written of it.
-/

namespace PreAggregation
namespace Json

open Text

/-! ## Numerals -/

/-- What does not begin with more of a numeral. -/
def EndsNumeral (text : List Char) : Prop :=
  ∀ c ∈ text.head?, c.isDigit = false ∧ c ≠ '.' ∧ c ≠ 'e' ∧ c ≠ 'E'

theorem endsNumeral_nil : EndsNumeral [] :=
  fun _ absent => absurd absent (by simp)

theorem endsNumeral_cons
    {c : Char}
    {rest : List Char}
    (other : c.isDigit = false ∧ c ≠ '.' ∧ c ≠ 'e' ∧ c ≠ 'E') :
    EndsNumeral (c :: rest) := by
  intro first isFirst
  cases isFirst
  exact other

section Numerals

variable {digits rest : List Char}

theorem readDigits?_append
    (isDigits : Numeral.IsDigits digits)
    (ends : EndsNumeral rest) :
    readDigits? (digits ++ rest) = some (digits, rest) := by
  have all : ∀ c ∈ digits, c.isDigit = true :=
    fun c member => (Numeral.isDigit_iff c).mpr (isDigits.digits c member)
  have taken : rest.takeWhile Char.isDigit = [] ∧ rest.dropWhile Char.isDigit = rest := by
    cases rest with
    | nil => exact ⟨rfl, rfl⟩
    | cons c rest =>
        have other : ¬c.isDigit = true := by simp [(ends c rfl).1]
        exact ⟨List.takeWhile_cons_of_neg other, List.dropWhile_cons_of_neg other⟩
  rw [readDigits?, List.takeWhile_append_of_pos all, List.dropWhile_append_of_pos all, taken.1,
    taken.2, List.append_nil]
  exact if_neg (by simpa using isDigits.ne_nil)

theorem readFraction?_of_ends (ends : EndsNumeral rest) : readFraction? rest = some ([], rest) := by
  unfold readFraction?
  split
  · exact absurd rfl (ends '.' rfl).2.1
  · rfl

theorem readExponent?_of_ends (ends : EndsNumeral rest) : readExponent? rest = some ([], rest) := by
  cases rest with
  | nil => rfl
  | cons c rest =>
      obtain ⟨-, -, notSmall, notGreat⟩ := ends c rfl
      have other : ¬(c = 'e' || c = 'E') = true := by simp [notSmall, notGreat]
      exact if_neg other

/-- A number is printed as a single zero, or without a leading one. -/
theorem toDigits_eq_zero_or_head_ne (number : Nat) :
    Nat.toDigits 10 number = ['0'] ∨ ∃ c rest, Nat.toDigits 10 number = c :: rest ∧ c ≠ '0' := by
  induction number using Nat.strongRecOn with
  | ind number inductionHypothesis =>
      by_cases small : number < 10
      · rw [Nat.toDigits_of_lt_base small]
        have cases : ∀ digit < 10, digit = 0 ∨ digit.digitChar ≠ '0' := by decide
        rcases cases number small with zero | other
        · exact .inl (by rw [zero]; rfl)
        · exact .inr ⟨_, [], rfl, other⟩
      · have large : 10 ≤ number := Nat.le_of_not_lt small
        rw [Nat.toDigits_of_base_le (by decide) large]
        rcases inductionHypothesis (number / 10) (by omega) with zero | ⟨c, rest, printed, other⟩
        · -- The leading digits of what has two of them are not zero.
          have value := Numeral.value_toDigits (number / 10)
          rw [zero] at value
          have : number / 10 = 0 := value.symm
          omega
        · exact .inr ⟨c, _, by rw [printed, List.cons_append], other⟩

theorem readWhole?_toDigits
    (number : Nat)
    (ends : EndsNumeral rest) :
    readWhole? (Nat.toDigits 10 number ++ rest) = some (Nat.toDigits 10 number, rest) := by
  rcases toDigits_eq_zero_or_head_ne number with zero | ⟨c, others, printed, other⟩
  · rw [zero]
    rfl
  · have isDigits := Numeral.isDigits_toDigits number
    rw [printed] at isDigits ⊢
    rw [List.cons_append, readWhole?]
    · exact readDigits?_append isDigits ends
    · intro _ zero
      exact other (List.cons.inj zero).1

/-- A natural number comes back from its digits. -/
theorem readNumber_toDigits
    (number : Nat)
    (ends : EndsNumeral rest) :
    readNumber (Nat.toDigits 10 number ++ rest) = some (.natural number, rest) := by
  have unsigned : ∀ others, Nat.toDigits 10 number ++ rest ≠ '-' :: others := by
    intro others minus
    cases printed : Nat.toDigits 10 number with
    | nil => exact Nat.toDigits_ne_nil printed
    | cons c tail =>
        rw [printed, List.cons_append] at minus
        have isDigit := (Numeral.isDigits_toDigits number).digits c (printed ▸ List.mem_cons_self)
        rw [(List.cons.inj minus).1] at isDigit
        exact absurd isDigit (by decide)
  unfold readNumber
  split
  rename_i sign text signed
  split at signed
  · rename_i others minus
    exact absurd minus (unsigned others)
  · cases signed
    simp only [readWhole?_toDigits number ends, readFraction?_of_ends ends,
      readExponent?_of_ends ends, Option.bind_eq_bind, Option.bind_some, List.isEmpty_nil,
      Bool.and_self, if_true, Nat.ofDigitChars_ten_toDigits]

end Numerals

/-! ## Documents -/

/-- A document whose numbers are natural and whose strings and names are texts. -/
inductive Value.Plain : Value → Prop
  | null : Plain .null
  | bool (value : Bool) : Plain (.bool value)
  | natural (value : Nat) : Plain (.natural value)
  | text (text : String) : Plain (.text text)
  | array {items : List Value} : (∀ item ∈ items, Plain item) → Plain (.array items)
  | object {members : List (Option String × Value)} :
      (∀ member ∈ members, member.1.isSome = true) → (∀ member ∈ members, Plain member.2) →
      Plain (.object members)

/-- A character with which a document can begin, and which ends no list. -/
structure Begins (c : Char) : Prop where
  /-- It is not blank. -/
  solid : (c = ' ' || c = '\t' || c = '\n' || c = '\r') = false
  /-- It does not close a list. -/
  ne_bracket : c ≠ ']'

theorem skipBlanks_cons
    {c : Char}
    (begins : Begins c)
    (rest : List Char) :
    skipBlanks (c :: rest) = c :: rest :=
  List.dropWhile_cons_of_neg (by simpa using begins.solid)

theorem ne_of_isDigit
    {c other : Char}
    (isDigit : '0' ≤ c ∧ c ≤ '9')
    (foreign : ¬('0' ≤ other ∧ other ≤ '9')) :
    c ≠ other := by
  rintro rfl
  exact foreign isDigit

theorem begins_of_isDigit
    {c : Char}
    (isDigit : '0' ≤ c ∧ c ≤ '9') :
    Begins c where
  solid := by
    have notSpace : c ≠ ' ' := ne_of_isDigit isDigit (by decide)
    have notTab : c ≠ '\t' := ne_of_isDigit isDigit (by decide)
    have notLine : c ≠ '\n' := ne_of_isDigit isDigit (by decide)
    have notReturn : c ≠ '\r' := ne_of_isDigit isDigit (by decide)
    simp [notSpace, notTab, notLine, notReturn]
  ne_bracket := ne_of_isDigit isDigit (by decide)

theorem exists_toDigits_eq_cons (number : Nat) :
    ∃ c tail, Nat.toDigits 10 number = c :: tail ∧ '0' ≤ c ∧ c ≤ '9' := by
  obtain ⟨c, tail, printed⟩ :=
    List.exists_cons_of_ne_nil (Nat.toDigits_ne_nil (n := number) (b := 10))
  exact ⟨c, tail, printed,
    (Numeral.isDigits_toDigits number).digits c (printed ▸ List.mem_cons_self)⟩

/-- What is written of a document begins with a character that is not blank. -/
theorem Value.Plain.exists_write_eq_cons
    {value : Value}
    (plain : value.Plain) :
    ∃ c tail, write value = c :: tail ∧ Begins c := by
  cases plain with
  | null => exact ⟨'n', _, rfl, by decide, by decide⟩
  | bool value =>
      cases value with
      | true => exact ⟨'t', _, rfl, by decide, by decide⟩
      | false => exact ⟨'f', _, rfl, by decide, by decide⟩
  | natural number =>
      obtain ⟨c, tail, printed, isDigit⟩ := exists_toDigits_eq_cons number
      exact ⟨c, tail, printed, begins_of_isDigit isDigit⟩
  | text text => exact ⟨'"', _, rfl, by decide, by decide⟩
  | array items => exact ⟨'[', _, rfl, by decide, by decide⟩
  | object named members => exact ⟨'\x7b', _, rfl, by decide, by decide⟩

/-- A numeral is read as a number. -/
theorem readValue_toDigits
    {rest : List Char}
    (fuel number : Nat)
    (ends : EndsNumeral rest) :
    readValue (fuel + 1) (Nat.toDigits 10 number ++ rest) = some (.natural number, rest) := by
  have isRead := readNumber_toDigits number ends
  obtain ⟨c, tail, printed, isDigit⟩ := exists_toDigits_eq_cons number
  rw [printed, List.cons_append] at isRead ⊢
  rw [readValue, skipBlanks_cons (begins_of_isDigit isDigit)]
  split
  · rename_i begins
    exact absurd (List.cons.inj begins).1 (ne_of_isDigit isDigit (by decide))
  · rename_i begins
    exact absurd (List.cons.inj begins).1 (ne_of_isDigit isDigit (by decide))
  · rename_i begins
    exact absurd (List.cons.inj begins).1 (ne_of_isDigit isDigit (by decide))
  · rename_i begins
    exact absurd (List.cons.inj begins).1 (ne_of_isDigit isDigit (by decide))
  · rename_i begins
    exact absurd (List.cons.inj begins).1 (ne_of_isDigit isDigit (by decide))
  · rename_i begins
    exact absurd (List.cons.inj begins).1 (ne_of_isDigit isDigit (by decide))
  · exact isRead

theorem quote_append
    (text : String)
    (rest : List Char) :
    quote text ++ rest = '"' :: (text.toList.flatMap escape ++ '"' :: rest) := by
  rw [quote, List.cons_append, List.cons_append, List.append_assoc, List.singleton_append]

theorem readValue_quote
    (fuel : Nat)
    (text : String)
    (rest : List Char) :
    readValue (fuel + 1) (quote text ++ rest) = some (.text text, rest) := by
  rw [quote_append, readValue, skipBlanks_cons ⟨by decide, by decide⟩]
  simp only [readString_escaped, Option.map_some, Value.text]

/-- Behind the opening of a list stands its end or its first item. -/
theorem readValue_bracket
    (fuel : Nat)
    (text : List Char) :
    readValue (fuel + 1) ('[' :: text) =
      match skipBlanks text with
      | ']' :: rest => some (.array [], rest)
      | rest => readItems fuel [] rest :=
  rfl

/-- Behind the opening of an object stands its end or its first name. -/
theorem readValue_brace
    (fuel : Nat)
    (text : List Char) :
    readValue (fuel + 1) ('\x7b' :: text) =
      match skipBlanks text with
      | '\x7d' :: rest => some (.object [], rest)
      | rest => readMembers fuel [] rest :=
  rfl

section Members

variable {fuel : Nat} {text rest : List Char} {value : Value}

/-- Behind a member and a comma stand others. -/
theorem readMembers_of_comma
    (read : List (Option String × Value))
    (name : String)
    (isRead : readValue fuel text = some (value, ',' :: rest)) :
    readMembers (fuel + 1) read (quote name ++ ':' :: text) =
      readMembers fuel ((some name, value) :: read) rest := by
  rw [quote_append, readMembers, skipBlanks_cons ⟨by decide, by decide⟩]
  simp only [readString_escaped, skipBlanks_cons (c := ':') ⟨by decide, by decide⟩, isRead,
    skipBlanks_cons (c := ',') ⟨by decide, by decide⟩]

/-- Behind the last member the object is closed. -/
theorem readMembers_of_brace
    (read : List (Option String × Value))
    (name : String)
    (isRead : readValue fuel text = some (value, '\x7d' :: rest)) :
    readMembers (fuel + 1) read (quote name ++ ':' :: text) =
      some (.object ((some name, value) :: read).reverse, rest) := by
  rw [quote_append, readMembers, skipBlanks_cons ⟨by decide, by decide⟩]
  simp only [readString_escaped, skipBlanks_cons (c := ':') ⟨by decide, by decide⟩, isRead,
    skipBlanks_cons (c := '\x7d') ⟨by decide, by decide⟩]

end Members

/-- An item stands before the rest of its list, or before its end. -/
theorem writeItems_append
    (item : Value)
    (more : List Value)
    (rest : List Char) :
    writeItems (item :: more) ++ rest =
      write item ++ if more.isEmpty then rest else ',' :: (writeItems more ++ rest) := by
  cases more with
  | nil => rw [writeItems]; rfl
  | cons next more =>
      rw [writeItems, List.append_assoc]
      · rfl
      · exact List.cons_ne_nil next more

/-- A member stands before the rest of its object, or before its end. -/
theorem writeMembers_append
    (name : String)
    (value : Value)
    (more : List (Option String × Value))
    (rest : List Char) :
    writeMembers ((some name, value) :: more) ++ rest =
      quote name ++ ':' :: (write value ++
        if more.isEmpty then rest else ',' :: (writeMembers more ++ rest)) := by
  cases more with
  | nil =>
      rw [List.isEmpty_nil, if_pos rfl, writeMembers, List.append_assoc]
      rfl
  | cons next more =>
      rw [List.isEmpty_cons, if_neg Bool.false_ne_true, writeMembers]
      · simp only [Option.getD_some, List.append_assoc, List.cons_append]
      · exact List.cons_ne_nil next more

/-- With so much fuel every document, every list and every object comes back. -/
structure Reads (fuel : Nat) : Prop where
  value : ∀ {value : Value} {rest : List Char}, value.Plain → EndsNumeral rest →
    2 * (write value).length ≤ fuel + 1 →
    readValue fuel (write value ++ rest) = some (value, rest)
  items : ∀ {items : List Value} (read : List Value) (rest : List Char), items ≠ [] →
    (∀ item ∈ items, item.Plain) → 2 * (writeItems items).length ≤ fuel →
    readItems fuel read (writeItems items ++ ']' :: rest) =
      some (.array (read.reverse ++ items), rest)
  members : ∀ {members : List (Option String × Value)} (read : List (Option String × Value))
    (rest : List Char), members ≠ [] → (∀ member ∈ members, member.1.isSome = true) →
    (∀ member ∈ members, member.2.Plain) → 2 * (writeMembers members).length ≤ fuel →
    readMembers fuel read (writeMembers members ++ '\x7d' :: rest) =
      some (.object (read.reverse ++ members), rest)

theorem Reads.succ_value
    {fuel : Nat}
    (reads : Reads fuel)
    {value : Value}
    {rest : List Char}
    (plain : value.Plain)
    (ends : EndsNumeral rest)
    (enough : 2 * (write value).length ≤ fuel + 2) :
    readValue (fuel + 1) (write value ++ rest) = some (value, rest) := by
  cases plain with
  | null => rfl
  | bool value => cases value <;> rfl
  | natural number => exact readValue_toDigits fuel number ends
  | text text => exact readValue_quote fuel text rest
  | array plainItems =>
      rename_i items
      cases items with
      | nil => rfl
      | cons item more =>
          have isRead := reads.items [] rest (List.cons_ne_nil item more) plainItems (by
            simp only [write, List.length_append, List.length_cons, List.length_nil] at enough
            omega)
          obtain ⟨c, tail, written, begins⟩ :=
            (plainItems item List.mem_cons_self).exists_write_eq_cons
          rw [writeItems_append, written, List.cons_append] at isRead
          rw [write, List.cons_append, List.cons_append, List.append_assoc, List.singleton_append,
            readValue_bracket, writeItems_append, written, List.cons_append, skipBlanks_cons begins]
          split
          · rename_i closed
            exact absurd (List.cons.inj closed).1 begins.ne_bracket
          · exact isRead
  | object named plainMembers =>
      rename_i members
      cases members with
      | nil => rfl
      | cons member more =>
          have isRead := reads.members [] rest (List.cons_ne_nil member more) named plainMembers (by
            simp only [write, List.length_append, List.length_cons, List.length_nil] at enough
            omega)
          obtain ⟨name?, value⟩ := member
          obtain ⟨name, rfl⟩ := Option.isSome_iff_exists.mp (named _ List.mem_cons_self)
          rw [writeMembers_append, quote_append] at isRead
          rw [write, List.cons_append, List.cons_append, List.append_assoc, List.singleton_append,
            readValue_brace, writeMembers_append, quote_append,
            skipBlanks_cons ⟨by decide, by decide⟩]
          exact isRead

theorem Reads.succ_items
    {fuel : Nat}
    (reads : Reads fuel)
    {items : List Value}
    (read : List Value)
    (rest : List Char)
    (present : items ≠ [])
    (plain : ∀ item ∈ items, item.Plain)
    (enough : 2 * (writeItems items).length ≤ fuel + 1) :
    readItems (fuel + 1) read (writeItems items ++ ']' :: rest) =
      some (.array (read.reverse ++ items), rest) := by
  cases items with
  | nil => exact absurd rfl present
  | cons item more =>
      have length_eq := congrArg List.length (writeItems_append item more [])
      rw [List.append_nil, List.length_append] at length_eq
      have isRead {following : List Char} (ends : EndsNumeral following) :=
        reads.value (plain item List.mem_cons_self) ends (by omega)
      rw [writeItems_append, readItems]
      cases more with
      | nil =>
          rw [List.isEmpty_nil, if_pos rfl, isRead (endsNumeral_cons (by decide)),
            ← List.reverse_cons]
          rfl
      | cons next more =>
          have others := reads.items (item :: read) rest (List.cons_ne_nil next more)
            (fun other member => plain other (List.mem_cons_of_mem item member)) (by
              rw [List.isEmpty_cons, if_neg Bool.false_ne_true, List.append_nil,
                List.length_cons] at length_eq
              omega)
          rw [List.reverse_cons, List.append_assoc, List.singleton_append] at others
          rw [List.isEmpty_cons, if_neg Bool.false_ne_true, isRead (endsNumeral_cons (by decide))]
          exact others

theorem Reads.succ_members
    {fuel : Nat}
    (reads : Reads fuel)
    {members : List (Option String × Value)}
    (read : List (Option String × Value))
    (rest : List Char)
    (present : members ≠ [])
    (named : ∀ member ∈ members, member.1.isSome = true)
    (plain : ∀ member ∈ members, member.2.Plain)
    (enough : 2 * (writeMembers members).length ≤ fuel + 1) :
    readMembers (fuel + 1) read (writeMembers members ++ '\x7d' :: rest) =
      some (.object (read.reverse ++ members), rest) := by
  cases members with
  | nil => exact absurd rfl present
  | cons member more =>
      obtain ⟨name?, value⟩ := member
      obtain ⟨name, rfl⟩ := Option.isSome_iff_exists.mp (named _ List.mem_cons_self)
      have length_eq := congrArg List.length (writeMembers_append name value more [])
      rw [List.append_nil, List.length_append, List.length_cons, List.length_append] at length_eq
      have isRead {following : List Char} (ends : EndsNumeral following) :=
        reads.value (plain _ List.mem_cons_self) ends (by dsimp only; omega)
      rw [writeMembers_append]
      cases more with
      | nil =>
          rw [List.isEmpty_nil, if_pos rfl,
            readMembers_of_brace read name (isRead (endsNumeral_cons (by decide))),
            List.reverse_cons]
      | cons next more =>
          have others := reads.members ((some name, value) :: read) rest
            (List.cons_ne_nil next more)
            (fun other member => named other (List.mem_cons_of_mem _ member))
            (fun other member => plain other (List.mem_cons_of_mem _ member)) (by
              rw [List.isEmpty_cons, if_neg Bool.false_ne_true, List.append_nil,
                List.length_cons] at length_eq
              omega)
          rw [List.reverse_cons, List.append_assoc, List.singleton_append] at others
          rw [List.isEmpty_cons, if_neg Bool.false_ne_true,
            readMembers_of_comma read name (isRead (endsNumeral_cons (by decide)))]
          exact others

/-- Twice the length of what was written is enough.  The induction is on the fuel, as in the
reading itself. -/
theorem reads (fuel : Nat) : Reads fuel := by
  induction fuel with
  | zero =>
      refine ⟨?_, ?_, ?_⟩
      · intro value rest plain _ enough
        obtain ⟨c, tail, written, -⟩ := plain.exists_write_eq_cons
        rw [written, List.length_cons] at enough
        omega
      · intro items read rest present plain enough
        obtain ⟨item, more, rfl⟩ := List.exists_cons_of_ne_nil present
        obtain ⟨c, tail, written, -⟩ :=
          (plain item List.mem_cons_self).exists_write_eq_cons
        have length_eq := congrArg List.length (writeItems_append item more [])
        rw [List.append_nil, List.length_append, written, List.length_cons] at length_eq
        omega
      · intro members read rest present named plain enough
        obtain ⟨⟨name?, value⟩, more, rfl⟩ := List.exists_cons_of_ne_nil present
        obtain ⟨name, rfl⟩ := Option.isSome_iff_exists.mp (named _ List.mem_cons_self)
        have length_eq := congrArg List.length (writeMembers_append name value more [])
        rw [List.append_nil, List.length_append, List.length_cons] at length_eq
        omega
  | succ fuel inductionHypothesis =>
      exact
        { value := inductionHypothesis.succ_value
          items := inductionHypothesis.succ_items
          members := inductionHypothesis.succ_members }

/-- A document comes back from what is written of it. -/
theorem read?_write
    {value : Value}
    (plain : value.Plain) :
    read? (write value) = some value := by
  have isRead := (reads (2 * (write value).length + 2)).value plain endsNumeral_nil (by omega)
  rw [List.append_nil] at isRead
  rw [read?, isRead]
  rfl

end Json
end PreAggregation
