import PreAggregation.Error
import PreAggregation.Text.Blank

/-!
# Coordination strategies

Which instances of a stage an adjustment reaches, and the topic on which an instance
listens for it.
-/

namespace PreAggregation

/-- The scope of a threshold adjustment. -/
inductive Strategy
  /-- One topic for the stage: every instance applies the same adjustment. -/
  | global
  /-- One topic for each instance. -/
  | perInstance
  /-- Reserved: no topic carries adjustments for single keys. -/
  | perKey
  deriving DecidableEq, Repr

namespace Strategy

/-- The name of a strategy in configurations and reports. -/
def name : Strategy → String
  | .global => "GLOBAL"
  | .perInstance => "LOCAL"
  | .perKey => "PER_KEY"

/-- The strategy that a configuration names. -/
def ofName? (name : String) : Option Strategy :=
  if name = "GLOBAL" then some .global
  else if name = "LOCAL" then some .perInstance
  else if name = "PER_KEY" then some .perKey
  else none

/-- The form in which the names of strategies are compared: without blanks around it,
in ASCII capitals, and with underscores for hyphens. -/
def normalize (text : String) : String :=
  String.ofList ((Text.trim text.toList).map fun c => if c = '-' then '_' else c.toUpper)

/-- The strategy that a person names. -/
def parse (text : String) : Except Error Strategy :=
  let name := normalize text
  match ofName? (if name = "PERKEY" then "PER_KEY" else name) with
  | some strategy => .ok strategy
  | none => .error ⟨.stage (.configuration (.unknownStrategy name)), []⟩

/-- The topic on which an instance listens. -/
def topic? (strategy : Strategy) (base : String) (index : Nat) : Option String :=
  match strategy with
  | .global => some base
  | .perInstance => some (base ++ "-" ++ index.repr)
  | .perKey => none

@[simp] theorem ofName?_name (strategy : Strategy) : ofName? strategy.name = some strategy := by
  cases strategy <;> rfl

end Strategy
end PreAggregation
