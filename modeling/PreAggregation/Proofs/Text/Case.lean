import Mathlib
import PreAggregation.Text.Case

/-!
# Small letters on both sides of a mark

A mark such as a bar is not a letter and ends every word, so a sigma never sees past it.
A text with marks in it is put in small letters part by part: no mark is made or lost, and
no part depends on another one.
-/

namespace PreAggregation
namespace Text

/-! ## Marks -/

/-- An ASCII character that is no letter and does not stand between letters. -/
structure IsMark (mark : Char) : Prop where
  positive : 0 < mark.toNat
  ascii : mark.toNat < 0x80
  unlettered : mark.isAlpha = false
  uncased : isCased mark = false
  heeded : isCaseIgnorable mark = false

theorem isMark_bar : IsMark '|' :=
  ⟨by decide, by decide, by decide, by decide +kernel, by decide +kernel⟩

theorem isMark_semicolon : IsMark ';' :=
  ⟨by decide, by decide, by decide, by decide +kernel, by decide +kernel⟩

variable {mark : Char}

theorem IsMark.not_within
    (isMark : IsMark mark) :
    ¬(0x61 ≤ mark.toNat ∧ mark.toNat ≤ 0x7A) := by
  rintro ⟨atLeast, atMost⟩
  have lower : mark.isLower = true := by
    simp only [Char.isLower, Bool.and_eq_true, decide_eq_true_eq, ge_iff_le,
      UInt32.le_iff_toNat_le]
    exact ⟨atLeast, atMost⟩
  have letter : mark.isAlpha = true := by rw [Char.isAlpha, lower, Bool.or_true]
  rw [isMark.unlettered] at letter
  exact Bool.false_ne_true letter

/-! ## Single letters -/

theorem not_isUpper_of_unlettered
    {c : Char}
    (unlettered : c.isAlpha = false) :
    ¬c.isUpper = true := by
  rw [Char.isAlpha, Bool.or_eq_false_iff] at unlettered
  rw [unlettered.1]
  exact Bool.false_ne_true

theorem IsMark.eq_of_toLower_eq
    (isMark : IsMark mark)
    {c : Char}
    (same : c.toLower = mark) :
    c = mark := by
  have unlettered : c.isAlpha = false := by
    rw [← Char.isAlpha_toLower_eq_isAlpha, same, isMark.unlettered]
  rw [← same, Char.toLower_eq_of_not_isUpper (not_isUpper_of_unlettered unlettered)]

/-- The small forms of capitals above ASCII are ASCII letters or lie above ASCII too. -/
theorem apart_of_mem_capitals :
    ∀ row ∈ capitals, 0x80 ≤ row.first + row.shift ∨
      0x61 ≤ row.first + row.shift ∧ row.last + row.shift ≤ 0x7A := by
  decide +kernel

/-- No other character has a mark for its small form. -/
theorem IsMark.eq_of_mem_small
    (isMark : IsMark mark)
    {c : Char}
    (member : mark ∈ small c) :
    c = mark := by
  rw [small] at member
  split at member
  · exact isMark.eq_of_toLower_eq (List.mem_singleton.mp member).symm
  · split at member
    · rcases List.mem_pair.mp member with rfl | rfl
      · exact absurd isMark.unlettered (by decide)
      · exact absurd isMark.ascii (by decide)
    · split at member
      · rename_i row found
        have apart := apart_of_mem_capitals row (List.mem_of_find?_eq_some found)
        have within := List.find?_some found
        simp only [Capitals.has, Bool.and_eq_true, decide_eq_true_eq] at within
        have image : mark.toNat = (c.toNat + row.shift).toNat := by
          have positive := isMark.positive
          rw [List.mem_singleton.mp member, Char.toNat_ofNat] at positive ⊢
          split at positive
          · rename_i valid
            rw [if_pos valid]
          · exact absurd positive (Nat.lt_irrefl 0)
        have ascii := isMark.ascii
        have notWithin := isMark.not_within
        omega
      · exact (List.mem_singleton.mp member).symm

theorem IsMark.small_eq
    (isMark : IsMark mark) :
    small mark = [mark] := by
  rw [small, if_pos isMark.ascii,
    Char.toLower_eq_of_not_isUpper (not_isUpper_of_unlettered isMark.unlettered)]

/-! ## What is around a letter -/

/-- Nothing behind a mark is met. -/
theorem IsMark.meetsCased_append_cons
    (isMark : IsMark mark)
    (text rest : List Char) :
    meetsCased (text ++ mark :: rest) = meetsCased text := by
  have stops : (mark :: rest).dropWhile isCaseIgnorable = mark :: rest :=
    List.dropWhile_cons_of_neg (by simp [isMark.heeded])
  unfold meetsCased
  rw [List.dropWhile_append, stops]
  cases text.dropWhile isCaseIgnorable with
  | nil => exact isMark.uncased
  | cons c others => rfl

theorem IsMark.smallBetween_eq
    (isMark : IsMark mark)
    (before after : List Char) :
    smallBetween before mark after = [mark] := by
  have noSigma : mark ≠ sigma := by
    rintro rfl
    exact absurd isMark.ascii (by decide)
  rw [smallBetween, decide_eq_false noSigma, Bool.false_and, if_neg Bool.false_ne_true,
    isMark.small_eq]

theorem IsMark.smallBetween_append_before
    (isMark : IsMark mark)
    (before earlier : List Char)
    (c : Char)
    (after : List Char) :
    smallBetween (before ++ mark :: earlier) c after = smallBetween before c after := by
  rw [smallBetween, smallBetween, endsWord, endsWord, isMark.meetsCased_append_cons]

theorem IsMark.smallBetween_append_after
    (isMark : IsMark mark)
    (before : List Char)
    (c : Char)
    (after later : List Char) :
    smallBetween before c (after ++ mark :: later) = smallBetween before c after := by
  rw [smallBetween, smallBetween, endsWord, endsWord, isMark.meetsCased_append_cons]

theorem IsMark.eq_of_mem_smallBetween
    (isMark : IsMark mark)
    {before after : List Char}
    {c : Char}
    (member : mark ∈ smallBetween before c after) :
    c = mark := by
  rw [smallBetween] at member
  split at member
  · obtain rfl := List.mem_singleton.mp member
    exact absurd isMark.ascii (by decide)
  · exact isMark.eq_of_mem_small member

/-! ## Texts -/

theorem lowerBehind_eq
    (before written text : List Char) :
    lowerBehind before written text = written.reverse ++ lowerBehind before [] text := by
  induction text generalizing before written with
  | nil => exact (List.append_nil _).symm
  | cons c after inductionHypothesis =>
      rw [lowerBehind, inductionHypothesis, lowerBehind,
        inductionHypothesis (c :: before) (_ ++ []), List.reverse_append, List.reverse_append,
        List.reverse_nil, List.nil_append, List.append_assoc]

theorem lowerBehind_cons
    (before : List Char)
    (c : Char)
    (after : List Char) :
    lowerBehind before [] (c :: after) =
      smallBetween before c after ++ lowerBehind (c :: before) [] after := by
  rw [lowerBehind, lowerBehind_eq]
  simp

/-- What stands before a mark makes no difference behind it. -/
theorem IsMark.lowerBehind_append_before
    (isMark : IsMark mark)
    (before earlier text : List Char) :
    lowerBehind (before ++ mark :: earlier) [] text = lowerBehind before [] text := by
  induction text generalizing before with
  | nil => rfl
  | cons c after inductionHypothesis =>
      rw [lowerBehind_cons, lowerBehind_cons, isMark.smallBetween_append_before,
        ← List.cons_append, inductionHypothesis]

/-- A text with a mark in it is put in small letters on each side of it. -/
theorem IsMark.lower_append_cons
    (isMark : IsMark mark)
    (text rest : List Char) :
    lower (text ++ mark :: rest) = lower text ++ mark :: lower rest := by
  have behind (before : List Char) :
      lowerBehind before [] (text ++ mark :: rest) =
        lowerBehind before [] text ++ mark :: lower rest := by
    induction text generalizing before with
    | nil =>
        rw [List.nil_append, lowerBehind_cons, isMark.smallBetween_eq]
        have afresh := isMark.lowerBehind_append_before [] before rest
        rw [List.nil_append] at afresh
        rw [afresh]
        rfl
    | cons c after inductionHypothesis =>
        rw [List.cons_append, lowerBehind_cons, isMark.smallBetween_append_after,
          inductionHypothesis, lowerBehind_cons, List.append_assoc]
  exact behind []

theorem IsMark.mem_of_mem_lowerBehind
    (isMark : IsMark mark)
    {before text : List Char}
    (member : mark ∈ lowerBehind before [] text) :
    mark ∈ text := by
  induction text generalizing before with
  | nil => exact member
  | cons c after inductionHypothesis =>
      rw [lowerBehind_cons] at member
      rcases List.mem_append.mp member with here | later
      · exact List.mem_cons.mpr (.inl (isMark.eq_of_mem_smallBetween here).symm)
      · exact List.mem_cons_of_mem c (inductionHypothesis later)

/-- The parts between marks are put in small letters one by one. -/
theorem IsMark.splitOn_lower
    (isMark : IsMark mark)
    (text : List Char) :
    (lower text).splitOn mark = (text.splitOn mark).map lower := by
  have unmade {text : List Char} (unmarked : mark ∉ text) : mark ∉ lower text :=
    fun member => unmarked (isMark.mem_of_mem_lowerBehind member)
  induction size : text.length using Nat.strongRecOn generalizing text with
  | _ length inductionHypothesis =>
  by_cases marked : mark ∈ text
  · obtain ⟨front, rest, rfl, unmarked⟩ := List.eq_append_cons_of_mem marked
    have shorter : rest.length < length := by
      rw [← size, List.length_append, List.length_cons]
      omega
    rw [isMark.lower_append_cons, List.splitOn_append_cons_self_of_not_mem (unmade unmarked),
      List.splitOn_append_cons_self_of_not_mem unmarked, inductionHypothesis _ shorter rest rfl,
      List.map_cons]
  · rw [List.splitOn_eq_singleton marked, List.splitOn_eq_singleton (unmade marked), List.map_singleton]

end Text
end PreAggregation
