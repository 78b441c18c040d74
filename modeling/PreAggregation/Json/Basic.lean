/-!
# JSON documents

The values that a JSON text can spell.  Texts whose escapes leave a surrogate
unpaired are well formed but name no text, so a string carries `none` for them.
-/

namespace PreAggregation
namespace Json

/-- A JSON document. -/
inductive Value
  | null
  | bool (value : Bool)
  /-- A numeral of digits alone. -/
  | natural (value : Nat)
  /-- A numeral with a sign, a fraction or an exponent, as it is written. -/
  | number (literal : String)
  /-- A string, and the text it names if its surrogates are paired. -/
  | string (text : Option String)
  | array (items : List Value)
  /-- Names with documents, in the order of the text and repeated where it repeats them. -/
  | object (members : List (Option String × Value))

/-- The string of a text. -/
def Value.text (text : String) : Value :=
  .string (some text)

/-- The number that a document is, if it is one of digits alone and below `2 ^ 64`. -/
def Value.word? : Value → Option UInt64
  | .natural value => if value < UInt64.size then some (UInt64.ofNat value) else none
  | _ => none

/-- The text that a document is. -/
def Value.text? : Value → Option String
  | .string text => text
  | _ => none

end Json
end PreAggregation
