import PreAggregation.Json.Basic

/-!
# Writing JSON

The compact text of a document: no blanks, members in order, and escapes only where
a character may not stand in a string.
-/

namespace PreAggregation
namespace Json

/-- The four hexadecimal digits of a code unit. -/
def fourDigits (unit : Nat) : List Char :=
  let digits := Nat.toDigits 16 unit
  List.replicate (4 - digits.length) '0' ++ digits

/-- How one character stands in a string. -/
def escape (c : Char) : List Char :=
  match c with
  | '"' => ['\\', '"']
  | '\\' => ['\\', '\\']
  | '\x08' => ['\\', 'b']
  | '\t' => ['\\', 't']
  | '\n' => ['\\', 'n']
  | '\x0c' => ['\\', 'f']
  | '\r' => ['\\', 'r']
  | c => if c.toNat < 0x20 then '\\' :: 'u' :: fourDigits c.toNat else [c]

/-- A text between quotes. -/
def quote (text : String) : List Char :=
  '"' :: text.toList.flatMap escape ++ ['"']

mutual

/-- The compact text of a document.  A string that names no text is written empty. -/
def write : Value → List Char
  | .null => "null".toList
  | .bool true => "true".toList
  | .bool false => "false".toList
  | .natural value => Nat.toDigits 10 value
  | .number literal => literal.toList
  | .string text => quote (text.getD "")
  | .array items => '[' :: writeItems items ++ [']']
  | .object members => '\x7b' :: writeMembers members ++ ['\x7d']

/-- The items of a list with a comma between each two. -/
def writeItems : List Value → List Char
  | [] => []
  | [item] => write item
  | item :: rest => write item ++ ',' :: writeItems rest

/-- The members of an object with a comma between each two. -/
def writeMembers : List (Option String × Value) → List Char
  | [] => []
  | [(name, value)] => quote (name.getD "") ++ ':' :: write value
  | (name, value) :: rest =>
      quote (name.getD "") ++ ':' :: write value ++ ',' :: writeMembers rest

end

/-- The compact text of a document as a string. -/
def Value.compact (value : Value) : String :=
  String.ofList (write value)

end Json
end PreAggregation
