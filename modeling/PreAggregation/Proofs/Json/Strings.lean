import PreAggregation.Json.Reader
import PreAggregation.Json.Writer

/-!
# Strings that are read back

Every character of a text is written so that it is read as one letter, which stands for
just this character.  So a text comes back from its string, whatever it is made of.
-/

namespace PreAggregation
namespace Json

/-- A letter stands for a character by itself, whatever letters follow. -/
def Letter.StandsFor (letter : Letter) (c : Char) : Prop :=
  ∀ read letters, spell? read (letter :: letters) = spell? (c :: read) letters

theorem Letter.standsFor_char (c : Char) : (Letter.char c).StandsFor c :=
  fun _ _ => rfl

/-- A code unit that is no surrogate stands for the character of its number. -/
theorem Letter.standsFor_unit
    {c : Char}
    (isControl : c.toNat < 0x20) :
    (Letter.unit c.toNat).StandsFor c := by
  intro read letters
  have notTrailing : isTrailing c.toNat = false := by
    simp only [isTrailing, Bool.and_eq_false_iff, decide_eq_false_iff_not]
    omega
  have notLeading : isLeading c.toNat = false := by
    simp only [isLeading, Bool.and_eq_false_iff, decide_eq_false_iff_not]
    omega
  rw [spell?.eq_def]
  simp only [notTrailing, notLeading, Char.ofNat_toNat]
  rfl

/-- The code unit of a control is named by its four digits. -/
theorem codeUnit?_fourDigits :
    ∀ number < 0x20,
      fourDigits number = ['0', '0', (number / 16).digitChar, (number % 16).digitChar] ∧
        codeUnit? '0' '0' (number / 16).digitChar (number % 16).digitChar = some number := by
  decide +kernel

/-- A character is written so that it is read as a letter that stands for it. -/
theorem exists_letter
    (c : Char) :
    ∃ letter : Letter, letter.StandsFor c ∧
      ∀ read rest, readLetters read (escape c ++ rest) = readLetters (letter :: read) rest := by
  unfold escape
  split
  · exact ⟨.char '"', Letter.standsFor_char _, fun _ _ => rfl⟩
  · exact ⟨.char '\\', Letter.standsFor_char _, fun _ _ => rfl⟩
  · exact ⟨.char '\x08', Letter.standsFor_char _, fun _ _ => rfl⟩
  · exact ⟨.char '\t', Letter.standsFor_char _, fun _ _ => rfl⟩
  · exact ⟨.char '\n', Letter.standsFor_char _, fun _ _ => rfl⟩
  · exact ⟨.char '\x0c', Letter.standsFor_char _, fun _ _ => rfl⟩
  · exact ⟨.char '\r', Letter.standsFor_char _, fun _ _ => rfl⟩
  · rename_i noQuote noBackslash _ _ _ _ _
    split
    · rename_i isControl
      obtain ⟨digits, named⟩ := codeUnit?_fourDigits c.toNat isControl
      refine ⟨.unit c.toNat, Letter.standsFor_unit isControl, fun read rest => ?_⟩
      rw [digits]
      simp only [List.cons_append, List.nil_append, readLetters, named]
    · rename_i visible
      refine ⟨.char c, Letter.standsFor_char c, fun read rest => ?_⟩
      rw [List.singleton_append, readLetters, if_neg visible]
      · exact noQuote
      · exact noBackslash

theorem exists_letters
    (text : List Char) :
    ∃ letters,
      (∀ read, spell? read letters = some (String.ofList (read.reverse ++ text))) ∧
      ∀ read rest, readLetters read (text.flatMap escape ++ '"' :: rest) =
        some (read.reverse ++ letters, rest) := by
  induction text with
  | nil =>
      refine ⟨[], fun read => ?_, fun read rest => ?_⟩
      · rw [List.append_nil]
        rfl
      · rw [List.append_nil]
        rfl
  | cons c text inductionHypothesis =>
      obtain ⟨letter, standsFor, isRead⟩ := exists_letter c
      obtain ⟨letters, spelled, areRead⟩ := inductionHypothesis
      refine ⟨letter :: letters, fun read => ?_, fun read rest => ?_⟩
      · rw [standsFor, spelled, List.reverse_cons, List.append_assoc, List.singleton_append]
      · rw [List.flatMap_cons, List.append_assoc, isRead, areRead, List.reverse_cons,
          List.append_assoc, List.singleton_append]

/-- A text comes back from behind its opening quote. -/
theorem readString_escaped
    (text : String)
    (rest : List Char) :
    readString (text.toList.flatMap escape ++ '"' :: rest) = some (some text, rest) := by
  obtain ⟨letters, spelled, areRead⟩ := exists_letters text.toList
  have spelled := spelled []
  rw [List.reverse_nil, List.nil_append, String.ofList_toList] at spelled
  rw [readString, areRead, List.reverse_nil, List.nil_append, Option.map_some]
  exact congrArg (fun text => some (text, rest)) spelled

end Json
end PreAggregation
