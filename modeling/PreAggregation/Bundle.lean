/-!
# Bundles

A bundle holds one partial for each key that has records since the last flush.  A
record is folded into the partial of its key; a fold that fails takes the partial
with it.

The partials are listed in the order in which their keys arrived.  A map promises no order
in which its entries are visited; one that it takes is an order of visiting.
-/

namespace PreAggregation

/-- Partials by key. -/
structure Bundle (κ ν : Type) where
  /-- The keys with their partials, in the order in which the keys arrived. -/
  entries : List (κ × ν)
  deriving Repr

namespace Bundle

/-- An order in which entries are visited. -/
structure Visit (κ ν : Type) where
  /-- The entries as they are visited. -/
  arrange : List (κ × ν) → List (κ × ν)
  /-- Each of them is visited once. -/
  perm : ∀ entries, (arrange entries).Perm entries

variable {κ ν ε : Type}

/-- The bundle of no records. -/
def empty : Bundle κ ν :=
  ⟨[]⟩

/-- The number of keys with a partial. -/
def size (bundle : Bundle κ ν) : Nat :=
  bundle.entries.length

/-- Whether there is no partial. -/
def isEmpty (bundle : Bundle κ ν) : Bool :=
  bundle.entries.isEmpty

/-- The keys with a partial. -/
def keys (bundle : Bundle κ ν) : List κ :=
  bundle.entries.map Prod.fst

/-- The bundle as it is visited. -/
def visited (bundle : Bundle κ ν) (visit : Visit κ ν) : Bundle κ ν :=
  ⟨visit.arrange bundle.entries⟩

/-- The entries are visited in the order in which their keys arrived. -/
def Visit.byArrival : Visit κ ν where
  arrange entries := entries
  perm entries := .refl entries

variable [DecidableEq κ]

/-- The partial found first under a key. -/
def lookup (key : κ) : List (κ × ν) → Option ν
  | [] => none
  | (other, value) :: rest => if other = key then some value else lookup key rest

/-- The entries with the partial of a key replaced, or added behind the others. -/
def assign (key : κ) (value : ν) : List (κ × ν) → List (κ × ν)
  | [] => [(key, value)]
  | (other, old) :: rest =>
      if other = key then (key, value) :: rest
      else (other, old) :: assign key value rest

/-- The entries of the other keys. -/
def remove (key : κ) : List (κ × ν) → List (κ × ν)
  | [] => []
  | (other, value) :: rest =>
      if other = key then remove key rest else (other, value) :: remove key rest

/-- The partial of a key. -/
def get? (bundle : Bundle κ ν) (key : κ) : Option ν :=
  lookup key bundle.entries

/-- Whether a key has a partial. -/
def contains (bundle : Bundle κ ν) (key : κ) : Bool :=
  (bundle.get? key).isSome

/-- Folds into the partial of a key.  If the fold fails the key has no partial. -/
def merge (bundle : Bundle κ ν) (key : κ) (fold : Option ν → Except ε ν) :
    Bundle κ ν × Except ε Unit :=
  match fold (bundle.get? key) with
  | .ok merged => (⟨assign key merged bundle.entries⟩, .ok ())
  | .error error => (⟨remove key bundle.entries⟩, .error error)

/-! ## Entries by key -/

@[simp] theorem get?_empty (key : κ) : (empty : Bundle κ ν).get? key = none := rfl

theorem lookup_assign (key other : κ) (value : ν) (entries : List (κ × ν)) :
    lookup other (assign key value entries) =
      if key = other then some value else lookup other entries := by
  induction entries with
  | nil => simp [assign, lookup]
  | cons entry rest inductionHypothesis =>
      obtain ⟨head, old⟩ := entry
      by_cases same : head = key
      · subst same
        by_cases equal : head = other <;> simp [assign, lookup, equal]
      · by_cases equal : head = other
        · subst equal
          simp [assign, lookup, same, Ne.symm same]
        · simp [assign, lookup, same, equal, inductionHypothesis]

theorem lookup_remove (key other : κ) (entries : List (κ × ν)) :
    lookup other (remove key entries) = if key = other then none else lookup other entries := by
  induction entries with
  | nil => simp [remove, lookup]
  | cons entry rest inductionHypothesis =>
      obtain ⟨head, old⟩ := entry
      by_cases same : head = key
      · subst same
        simp only [remove, if_true, inductionHypothesis, lookup]
        split <;> rfl
      · by_cases equal : head = other
        · subst equal
          simp [remove, lookup, same, Ne.symm same]
        · simp [remove, lookup, same, equal, inductionHypothesis]

end Bundle
end PreAggregation
