import PreAggregation.Adjustment
import PreAggregation.Proofs.Text.Numerals
import PreAggregation.Proofs.Text.Utf8

/-!
# The payloads that are adjustments

A payload is an adjustment if it is the text of a numeral, with blanks around it or not,
and the number fits a signed word.  Every other payload is refused, with the payload in the
error.  So what is published as an adjustment is read as the same number.
-/

namespace PreAggregation

namespace Adjustment

open Text

/-- A text is read as an adjustment if a numeral is left when the blanks around it are gone. -/
theorem signed?_trim_eq_some_iff
    {text : List Char}
    {delta : Int} :
    Numeral.signed? 64 (trim text) = some delta ↔
      ∃ before numeral after, text = before ++ numeral ++ after ∧
        (∀ c ∈ before ++ after, isBlank c = true) ∧
        Numeral.Spells numeral delta ∧ -2 ^ 63 ≤ delta ∧ delta < 2 ^ 63 := by
  rw [Numeral.signed?_eq_some_iff]
  constructor
  · rintro ⟨spells, fits⟩
    obtain ⟨before, after, around, blank⟩ := exists_append_trim_append text
    exact ⟨before, trim text, after, around, blank, spells, fits⟩
  · rintro ⟨before, numeral, after, rfl, blank, spells, fits⟩
    rw [trim_append_append blank spells.solid]
    exact ⟨spells, fits⟩

theorem parse_encode_of_some
    {text : String}
    {delta : Int}
    (read : Numeral.signed? 64 (trim text.toList) = some delta) :
    parse (Utf8.encode text) = .ok delta := by
  rw [parse, Utf8.decode?_encode]
  dsimp only
  rw [read]

theorem parse_encode_of_none
    {text : String}
    (unread : Numeral.signed? 64 (trim text.toList) = none) :
    parse (Utf8.encode text) = .error ⟨.stage (.invalidAdjustment text), []⟩ := by
  rw [parse, Utf8.decode?_encode]
  dsimp only
  rw [unread]

theorem parse_of_foreign
    {payload : List UInt8}
    (foreign : Utf8.decode? payload = none) :
    parse payload = .error ⟨.stage (.invalidAdjustment (Utf8.lossy payload)), []⟩ := by
  rw [parse, foreign]

theorem parse_eq_ok_iff
    {payload : List UInt8}
    {delta : Int} :
    parse payload = .ok delta ↔
      ∃ before numeral after,
        payload = Utf8.encode (String.ofList (before ++ numeral ++ after)) ∧
        (∀ c ∈ before ++ after, isBlank c = true) ∧
        Numeral.Spells numeral delta ∧ -2 ^ 63 ≤ delta ∧ delta < 2 ^ 63 := by
  constructor
  · intro parsed
    cases decoded : Utf8.decode? payload with
    | none =>
        rw [parse_of_foreign decoded] at parsed
        cases parsed
    | some text =>
        have spelled : Utf8.encode text = payload := Utf8.encode_of_decode? decoded
        rw [← spelled] at parsed
        cases read : Numeral.signed? 64 (trim text.toList) with
        | none =>
            rw [parse_encode_of_none read] at parsed
            cases parsed
        | some number =>
            rw [parse_encode_of_some read] at parsed
            cases parsed
            obtain ⟨before, numeral, after, around, rest⟩ := signed?_trim_eq_some_iff.mp read
            refine ⟨before, numeral, after, ?_, rest⟩
            rw [← around, String.ofList_toList, spelled]
  · rintro ⟨before, numeral, after, rfl, rest⟩
    apply parse_encode_of_some
    rw [String.toList_ofList]
    exact signed?_trim_eq_some_iff.mpr ⟨before, numeral, after, rfl, rest⟩

theorem parse_eq_error
    {payload : List UInt8}
    (refused : ∀ delta, parse payload ≠ .ok delta) :
    parse payload = .error ⟨.stage (.invalidAdjustment
      ((Utf8.decode? payload).getD (Utf8.lossy payload))), []⟩ := by
  cases decoded : Utf8.decode? payload with
  | none => exact parse_of_foreign decoded
  | some text =>
      rw [← Utf8.encode_of_decode? decoded] at refused ⊢
      cases read : Numeral.signed? 64 (trim text.toList) with
      | none => exact parse_encode_of_none read
      | some number => exact absurd (parse_encode_of_some read) (refused number)

/-- A payload is an adjustment just if it is the text of one or more digits, with or without a
sign in front and with blanks on either side, whose number fits a signed word of 64 bits.  Any
other payload is refused.  So every number that fits comes back from the payload that it is
published as, whatever blanks stand around it. -/
theorem parse_reads_just_numerals :
    (∀ payload delta, parse payload = .ok delta ↔
      ∃ before numeral after,
        payload = Utf8.encode (String.ofList (before ++ numeral ++ after)) ∧
        (∀ c ∈ before ++ after, isBlank c = true) ∧
        Numeral.Spells numeral delta ∧ -2 ^ 63 ≤ delta ∧ delta < 2 ^ 63) ∧
    (∀ payload, (∀ delta, parse payload ≠ .ok delta) →
      parse payload = .error ⟨.stage (.invalidAdjustment
        ((Utf8.decode? payload).getD (Utf8.lossy payload))), []⟩) ∧
    ∀ delta : Int, -2 ^ 63 ≤ delta → delta < 2 ^ 63 →
      ∀ before after : String, (∀ c ∈ before.toList ++ after.toList, isBlank c = true) →
        parse (Utf8.encode before ++ payload delta ++ Utf8.encode after) = .ok delta := by
  refine ⟨fun _ _ => parse_eq_ok_iff, fun _ => parse_eq_error, ?_⟩
  intro delta least greatest before after blank
  refine parse_eq_ok_iff.mpr
    ⟨before.toList, (toString delta).toList, after.toList, ?_, blank,
      Numeral.spells_toString delta, least, greatest⟩
  rw [payload, ← Utf8.encode_append, ← Utf8.encode_append, ← String.toList_append,
    ← String.toList_append, String.ofList_toList]

/-- The least number comes back from between an ideographic space and a line break, and leading
zeros do not matter.  One number more than the greatest is refused, and so are a point, a sign by
itself, and bytes that are no text. -/
theorem parse_reads_just_numerals_at_limits :
    parse (Utf8.encode "\u3000" ++ payload (-2 ^ 63) ++ Utf8.encode "\n") = .ok (-2 ^ 63) ∧
      parse (Utf8.encode " +0007 ") = .ok 7 ∧
      parse (Utf8.encode "9223372036854775808") =
        .error ⟨.stage (.invalidAdjustment "9223372036854775808"), []⟩ ∧
      parse (Utf8.encode "1.5") = .error ⟨.stage (.invalidAdjustment "1.5"), []⟩ ∧
      parse (Utf8.encode "-") = .error ⟨.stage (.invalidAdjustment "-"), []⟩ ∧
      parse [0xFF, 0xFE] = .error ⟨.stage (.invalidAdjustment "\uFFFD\uFFFD"), []⟩ := by
  obtain ⟨reads, refuses, returns⟩ := parse_reads_just_numerals
  have foreign : ∀ delta, parse [0xFF, 0xFE] ≠ .ok delta := by
    intro delta read
    rw [parse_of_foreign (by decide +kernel)] at read
    cases read
  refine ⟨?_, ?_, ?_, ?_, ?_, ?_⟩
  · exact returns (-2 ^ 63) (by decide) (by decide) "\u3000" "\n"
      (List.all_eq_true.mp (by decide +kernel))
  · exact (reads _ 7).mpr ⟨[' '], ['+', '0', '0', '0', '7'], [' '], by decide +kernel,
      List.all_eq_true.mp (by decide), .positive (Numeral.isDigits_iff.mpr (by decide)),
      by decide, by decide⟩
  · decide +kernel
  · decide +kernel
  · decide +kernel
  · rw [refuses [0xFF, 0xFE] foreign]
    decide +kernel

end Adjustment
end PreAggregation
