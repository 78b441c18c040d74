import PreAggregation.Json.Basic

/-!
# Reading JSON

A text is one document with blanks around it.  Every part of a document is read from
the front of the remaining characters, and what the part does not use is handed on.
-/

namespace PreAggregation
namespace Json

/-- The text behind the blanks that may stand between the parts of a document. -/
def skipBlanks (text : List Char) : List Char :=
  text.dropWhile fun c => c = ' ' || c = '\t' || c = '\n' || c = '\r'

/-- The value of a hexadecimal digit. -/
def hexDigit? (c : Char) : Option Nat :=
  if '0' ≤ c ∧ c ≤ '9' then some (c.toNat - '0'.toNat)
  else if 'a' ≤ c ∧ c ≤ 'f' then some (c.toNat - 'a'.toNat + 10)
  else if 'A' ≤ c ∧ c ≤ 'F' then some (c.toNat - 'A'.toNat + 10)
  else none

/-- The code unit that four hexadecimal digits name. -/
def codeUnit? (a b c d : Char) : Option Nat := do
  some (((← hexDigit? a) * 16 + (← hexDigit? b)) * 256 + (← hexDigit? c) * 16 + (← hexDigit? d))

/-- A code unit that begins a pair. -/
def isLeading (unit : Nat) : Bool :=
  0xD800 ≤ unit && unit < 0xDC00

/-- A code unit that ends a pair. -/
def isTrailing (unit : Nat) : Bool :=
  0xDC00 ≤ unit && unit < 0xE000

/-- The character that a pair of code units names. -/
def pair (leading trailing : Nat) : Char :=
  Char.ofNat (0x10000 + (leading - 0xD800) * 0x400 + (trailing - 0xDC00))

/-- The character of an escape of two characters. -/
def shortEscape? (c : Char) : Option Char :=
  match c with
  | '"' => some '"'
  | '\\' => some '\\'
  | '/' => some '/'
  | 'b' => some '\x08'
  | 'f' => some '\x0c'
  | 'n' => some '\n'
  | 'r' => some '\r'
  | 't' => some '\t'
  | _ => none

/-- What a string is made of: characters that stand for themselves or have a short
escape, and code units. -/
inductive Letter
  | char (c : Char)
  /-- A code unit given by its number. -/
  | unit (number : Nat)
  deriving DecidableEq, Repr

/-- The letters up to the closing quote, behind those of `read` in reverse. -/
def readLetters (read : List Letter) : List Char → Option (List Letter × List Char)
  | [] => none
  | '"' :: rest => some (read.reverse, rest)
  | '\\' :: rest =>
      match rest with
      | 'u' :: a :: b :: c :: d :: rest =>
          match codeUnit? a b c d with
          | some number => readLetters (.unit number :: read) rest
          | none => none
      | c :: rest =>
          match shortEscape? c with
          | some c => readLetters (.char c :: read) rest
          | none => none
      | [] => none
  | c :: rest => if c.toNat < 0x20 then none else readLetters (.char c :: read) rest

/-- The text of some letters, behind the characters of `read` in reverse.  Surrogates
have to stand in pairs. -/
def spell? (read : List Char) : List Letter → Option String
  | [] => some (String.ofList read.reverse)
  | .char c :: rest => spell? (c :: read) rest
  | .unit number :: rest =>
      if isTrailing number then none
      else if isLeading number then
        match rest with
        | .unit second :: rest =>
            if isTrailing second then spell? (pair number second :: read) rest else none
        | _ => none
      else spell? (Char.ofNat number :: read) rest

/-- The rest of a string behind its opening quote. -/
def readString (text : List Char) : Option (Option String × List Char) :=
  (readLetters [] text).map fun (letters, rest) => (spell? [] letters, rest)

/-- One or more digits, and what follows them. -/
def readDigits? (text : List Char) : Option (List Char × List Char) :=
  let digits := text.takeWhile Char.isDigit
  if digits.isEmpty then none else some (digits, text.dropWhile Char.isDigit)

/-- The whole part of a numeral: a single zero, or digits that do not begin with one. -/
def readWhole? (text : List Char) : Option (List Char × List Char) :=
  match text with
  | '0' :: rest => some (['0'], rest)
  | text => readDigits? text

/-- The fraction of a numeral with its point, if there is one. -/
def readFraction? (text : List Char) : Option (List Char × List Char) :=
  match text with
  | '.' :: rest => (readDigits? rest).map fun (digits, rest) => ('.' :: digits, rest)
  | text => some ([], text)

/-- The exponent of a numeral with its mark and sign, if there is one. -/
def readExponent? (text : List Char) : Option (List Char × List Char) :=
  match text with
  | mark :: rest =>
      if mark = 'e' || mark = 'E' then
        match rest with
        | '+' :: rest => (readDigits? rest).map fun (digits, rest) => (mark :: '+' :: digits, rest)
        | '-' :: rest => (readDigits? rest).map fun (digits, rest) => (mark :: '-' :: digits, rest)
        | rest => (readDigits? rest).map fun (digits, rest) => (mark :: digits, rest)
      else some ([], text)
  | [] => some ([], [])

/-- A numeral. -/
def readNumber (text : List Char) : Option (Value × List Char) := do
  let (sign, text) := match text with
    | '-' :: rest => (['-'], rest)
    | text => ([], text)
  let (whole, text) ← readWhole? text
  let (fraction, text) ← readFraction? text
  let (exponent, text) ← readExponent? text
  if sign.isEmpty && fraction.isEmpty && exponent.isEmpty then
    some (.natural (Nat.ofDigitChars 10 whole 0), text)
  else
    some (.number (String.ofList (sign ++ whole ++ fraction ++ exponent)), text)

mutual

/-- A document from the front of a text.  The fuel bounds the number of parts. -/
def readValue : Nat → List Char → Option (Value × List Char)
  | 0, _ => none
  | fuel + 1, text =>
      match skipBlanks text with
      | 'n' :: 'u' :: 'l' :: 'l' :: rest => some (.null, rest)
      | 't' :: 'r' :: 'u' :: 'e' :: rest => some (.bool true, rest)
      | 'f' :: 'a' :: 'l' :: 's' :: 'e' :: rest => some (.bool false, rest)
      | '"' :: rest => (readString rest).map fun (text, rest) => (.string text, rest)
      | '[' :: rest =>
          match skipBlanks rest with
          | ']' :: rest => some (.array [], rest)
          | rest => readItems fuel [] rest
      | '\x7b' :: rest =>
          match skipBlanks rest with
          | '\x7d' :: rest => some (.object [], rest)
          | rest => readMembers fuel [] rest
      | rest => readNumber rest

/-- The rest of a list from one of its items on, behind the items of `read` in reverse. -/
def readItems : Nat → List Value → List Char → Option (Value × List Char)
  | 0, _, _ => none
  | fuel + 1, read, text =>
      match readValue fuel text with
      | none => none
      | some (item, rest) =>
          match skipBlanks rest with
          | ',' :: rest => readItems fuel (item :: read) rest
          | ']' :: rest => some (.array (item :: read).reverse, rest)
          | _ => none

/-- The rest of an object from one of its names on, behind the members of `read` in
reverse. -/
def readMembers : Nat → List (Option String × Value) → List Char → Option (Value × List Char)
  | 0, _, _ => none
  | fuel + 1, read, text =>
      match skipBlanks text with
      | '"' :: rest =>
          match readString rest with
          | none => none
          | some (name, rest) =>
              match skipBlanks rest with
              | ':' :: rest =>
                  match readValue fuel rest with
                  | none => none
                  | some (value, rest) =>
                      match skipBlanks rest with
                      | ',' :: rest => readMembers fuel ((name, value) :: read) rest
                      | '\x7d' :: rest => some (.object ((name, value) :: read).reverse, rest)
                      | _ => none
              | _ => none
      | _ => none

end

/-- The document that a text spells.  Two units of fuel for each character are enough:
every second step uses up a character. -/
def read? (text : List Char) : Option Value :=
  match readValue (2 * text.length + 2) text with
  | some (value, rest) => if (skipBlanks rest).isEmpty then some value else none
  | none => none

end Json
end PreAggregation
