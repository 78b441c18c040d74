import PreAggregation.Proofs.Text.Case
import PreAggregation.Sensor.Sample

/-!
# Lines and their tokens

A line gives the samples of its tokens, in their order.  What a token gives does not depend
on the other tokens, although the line is put in small letters as a whole: a token gives
one sample if it spells one, and nothing otherwise.
-/

namespace PreAggregation
namespace Sensor

open Text

/-- A token spells a sample: it has just one semicolon, with the number of the sensor before
it and the value behind it, both read in small letters and without blanks at their ends. -/
def Spells
    (token : List Char)
    (sample : Sample) : Prop :=
  ∃ left right, token = left ++ ';' :: right ∧ ';' ∉ left ∧ ';' ∉ right ∧
    Numeral.unsigned? 32 (trim (lower left)) = some sample.1 ∧
    Decimal.read? (trim (lower right)) = some sample.2

/-! ## One token -/

theorem splitOn_eq_singleton_iff
    {mark : Char}
    {text part : List Char} :
    text.splitOn mark = [part] ↔ text = part ∧ mark ∉ text := by
  by_cases marked : mark ∈ text
  · obtain ⟨front, rest, rfl, unmarked⟩ := List.eq_append_cons_of_mem marked
    rw [List.splitOn_append_cons_self_of_not_mem unmarked]
    simp [List.splitOn_ne_nil]
  · rw [List.splitOn_eq_singleton marked]
    simp [marked]

/-- A text has two parts just if one mark stands between them and no other in them. -/
theorem splitOn_eq_pair_iff
    {mark : Char}
    {text left right : List Char} :
    text.splitOn mark = [left, right] ↔
      text = left ++ mark :: right ∧ mark ∉ left ∧ mark ∉ right := by
  constructor
  · intro parts
    by_cases marked : mark ∈ text
    · obtain ⟨front, rest, rfl, unmarked⟩ := List.eq_append_cons_of_mem marked
      rw [List.splitOn_append_cons_self_of_not_mem unmarked] at parts
      obtain ⟨rfl, last⟩ := List.cons.inj parts
      obtain ⟨rfl, otherUnmarked⟩ := splitOn_eq_singleton_iff.mp last
      exact ⟨rfl, unmarked, otherUnmarked⟩
    · rw [List.splitOn_eq_singleton marked] at parts
      exact absurd parts (by simp)
  · rintro ⟨rfl, unmarked, otherUnmarked⟩
    rw [List.splitOn_append_cons_self_of_not_mem unmarked, List.splitOn_eq_singleton otherUnmarked]

/-- A token in small letters is read as a sample just if it spells one. -/
theorem sample?_lower_eq_some_iff
    {token : List Char}
    {sample : Sample} :
    sample? (lower token) = some sample ↔ Spells token sample := by
  obtain ⟨id, value⟩ := sample
  rw [sample?, isMark_semicolon.splitOn_lower]
  constructor
  · intro found
    split at found
    · rename_i idText valueText parts
      obtain ⟨left, rest, divided, rfl, others⟩ := List.map_eq_cons_iff.mp parts
      obtain ⟨right, rfl, rfl⟩ := List.map_eq_singleton_iff.mp others
      obtain ⟨whole, unmarked, otherUnmarked⟩ := splitOn_eq_pair_iff.mp divided
      obtain ⟨_, isId, found⟩ := Option.bind_eq_some_iff.mp found
      obtain ⟨_, isValue, same⟩ := Option.bind_eq_some_iff.mp found
      obtain ⟨rfl, rfl⟩ := Prod.mk.inj (Option.some.inj same)
      exact ⟨left, right, whole, unmarked, otherUnmarked, isId, isValue⟩
    · exact absurd found (by simp)
  · rintro ⟨left, right, whole, unmarked, otherUnmarked, isId, isValue⟩
    rw [splitOn_eq_pair_iff.mpr ⟨whole, unmarked, otherUnmarked⟩]
    simp only [List.map_cons, List.map_nil, isId, isValue]
    rfl

theorem tokenize_of_unbarred
    {token : String}
    (unbarred : '|' ∉ token.toList) :
    tokenize token = (sample? (lower token.toList)).toList := by
  rw [tokenize, isMark_bar.splitOn_lower, List.splitOn_eq_singleton unbarred, List.map_singleton]
  cases found : sample? (lower token.toList) <;> simp [found]

theorem tokenize_eq_singleton_iff
    {token : String}
    (unbarred : '|' ∉ token.toList)
    (sample : Sample) :
    tokenize token = [sample] ↔ Spells token.toList sample := by
  rw [tokenize_of_unbarred unbarred, ← sample?_lower_eq_some_iff]
  cases sample? (lower token.toList) <;> simp

/-! ## Many tokens -/

/-- What stands on the two sides of a bar gives its samples alone. -/
theorem tokenize_append
    (first second : String) :
    tokenize (first ++ "|" ++ second) = tokenize first ++ tokenize second := by
  have spelled : (first ++ "|" ++ second).toList = first.toList ++ '|' :: second.toList := by
    simp
  rw [tokenize, spelled, isMark_bar.lower_append_cons, List.splitOn_append_cons_self,
    List.filterMap_append, tokenize, tokenize]

theorem tokenize_intercalate (tokens : List String) :
    tokenize ("|".intercalate tokens) = tokens.flatMap tokenize := by
  induction tokens with
  | nil => decide +kernel
  | cons token rest inductionHypothesis =>
      cases rest with
      | nil => simp
      | cons next others =>
          rw [String.intercalate_cons_cons, tokenize_append, inductionHypothesis]
          rfl

/-- A line gives the samples of its parts, wherever it is cut at a bar.  Each token gives
just the sample that it spells, if it spells one, and a token that spells none can be left
out. -/
theorem tokenizes_apart :
    (∀ first second : String,
      tokenize (first ++ "|" ++ second) = tokenize first ++ tokenize second) ∧
    ∀ tokens : List String, (∀ token ∈ tokens, '|' ∉ token.toList) →
      tokenize ("|".intercalate tokens) = tokens.flatMap tokenize ∧
      (∀ token ∈ tokens, (tokenize token).length ≤ 1 ∧
        ∀ sample, tokenize token = [sample] ↔ Spells token.toList sample) ∧
      ∀ earlier malformed later, tokens = earlier ++ malformed :: later →
        (∀ sample, ¬Spells malformed.toList sample) →
        tokenize ("|".intercalate tokens) = tokenize ("|".intercalate (earlier ++ later)) := by
  refine ⟨tokenize_append, ?_⟩
  intro tokens unbarred
  refine ⟨tokenize_intercalate tokens, ?_, ?_⟩
  · intro token member
    refine ⟨?_, tokenize_eq_singleton_iff (unbarred token member)⟩
    rw [tokenize_of_unbarred (unbarred token member)]
    exact Option.length_toList_le
  · rintro earlier malformed later rfl spellsNone
    have silent : tokenize malformed = [] := by
      have apart := unbarred malformed (by simp)
      rw [tokenize_of_unbarred apart, Option.toList_eq_nil_iff, Option.eq_none_iff_forall_ne_some]
      exact fun sample found => spellsNone sample (sample?_lower_eq_some_iff.mp found)
    rw [tokenize_intercalate, tokenize_intercalate, List.flatMap_append, List.flatMap_cons, silent,
      List.nil_append, List.flatMap_append]

/-- Between two samples stand a value that is none, nothing at all, one field too many and a
word that ends with a sigma.  They leave no trace. -/
theorem tokenizes_apart_malformed :
    let tokens := ["1;20.5", "2;abc", "", "3;1;2", "\u03A3\u0391\u03A3", " +4 ;-INF"]
    (∀ token ∈ tokens, '|' ∉ token.toList) ∧
      (tokenize ("|".intercalate tokens)).map Prod.fst = [1, 4] ∧
      tokenize ("|".intercalate tokens) =
        tokenize ("|".intercalate ["1;20.5", "2;abc", "", "3;1;2", " +4 ;-INF"]) := by
  intro tokens
  have unbarred : ∀ token ∈ tokens, '|' ∉ token.toList := by decide +kernel
  obtain ⟨samples, _, omits⟩ := tokenizes_apart.2 tokens unbarred
  refine ⟨unbarred, ?_, ?_⟩
  · rw [samples]
    decide +kernel
  · refine omits ["1;20.5", "2;abc", "", "3;1;2"] _ [" +4 ;-INF"] rfl ?_
    rintro sample ⟨left, right, divided, _⟩
    have marked : ';' ∈ "\u03A3\u0391\u03A3".toList := by
      rw [divided]
      exact List.mem_append_cons_self
    exact absurd marked (by decide +kernel)

end Sensor
end PreAggregation
