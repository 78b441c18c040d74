import PreAggregation.Text.Hidden

/-!
# Quoted text

Text between double quotes, in one line and with every character visible: quotes,
backslashes and the common controls have escapes of two characters, any other
hidden character is given by its code point.
-/

namespace PreAggregation
namespace Text
namespace Quoted

/-- The escape of a code point in hexadecimal digits. -/
def codePoint (c : Char) : List Char :=
  "\\u\x7b".toList ++ Nat.toDigits 16 c.toNat ++ ['\x7d']

/-- How one character stands inside the quotes. -/
def character (c : Char) : List Char :=
  match c with
  | '"' => ['\\', '"']
  | '\\' => ['\\', '\\']
  | '\n' => ['\\', 'n']
  | '\r' => ['\\', 'r']
  | '\t' => ['\\', 't']
  | '\x00' => ['\\', '0']
  | c => if isHidden c then codePoint c else [c]

/-- The text between quotes. -/
def encode (text : String) : String :=
  String.ofList ('"' :: text.toList.flatMap character ++ ['"'])

end Quoted
end Text
end PreAggregation
