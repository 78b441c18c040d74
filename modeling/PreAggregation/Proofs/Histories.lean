import Mathlib.Data.List.DropRight

/-!
# Histories

A history grows at its end, and a proof about every history goes from one to the next.  What
it tells of a thing is what its entries tell, since the last one that cut the thing off.
-/

namespace PreAggregation

variable {α β : Type}

/-- One more entry tells what it tells behind what the others tell. -/
theorem filterMap_concat
    (tells : α → Option β)
    (history : List α)
    (entry : α) :
    (history ++ [entry]).filterMap tells = history.filterMap tells ++ (tells entry).toList := by
  rw [List.filterMap_append]
  cases told : tells entry with
  | none => rw [List.filterMap_cons_none told]; rfl
  | some value => rw [List.filterMap_cons_some told]; rfl

/-- One more entry cuts off all that was told, or tells something behind it. -/
theorem filterMap_rtakeWhile_concat
    (cuts : α → Bool)
    (tells : α → Option β)
    (history : List α)
    (entry : α) :
    ((history ++ [entry]).rtakeWhile fun entry => !cuts entry).filterMap tells =
      if cuts entry then []
      else (history.rtakeWhile fun entry => !cuts entry).filterMap tells ++
        (tells entry).toList := by
  rw [List.rtakeWhile_concat]
  cases cuts entry with
  | true => rfl
  | false => exact filterMap_concat tells _ entry

/-- What holds of every entry and those before it holds with one entry more. -/
theorem forall_division_concat
    {motive : List α → α → Prop}
    {history : List α}
    {last : α}
    (before : ∀ past entry later, history = past ++ entry :: later → motive past entry)
    (holds : motive history last) :
    ∀ past entry later, history ++ [last] = past ++ entry :: later → motive past entry := by
  intro past entry later division
  rcases List.eq_nil_or_concat later with rfl | ⟨rest, final, rfl⟩
  · obtain ⟨rfl, same⟩ := List.append_inj' division rfl
    obtain ⟨rfl, _⟩ := List.cons.inj same
    exact holds
  · rw [List.concat_eq_append, ← List.cons_append, ← List.append_assoc] at division
    exact before past entry rest (List.append_inj' division rfl).1

end PreAggregation
