/-!
# Bytes that are not text

Reading bytes as UTF-8 text is the standard library's.  This module adds what it
does not tell: where a byte string stops being well formed, and the text that is
left when every malformed part is replaced by one replacement character.
-/

namespace PreAggregation
namespace Text
namespace Utf8

/-- The bytes of a text. -/
def encode (text : String) : List UInt8 :=
  text.toUTF8.toList

/-- The text that the bytes spell, if they are well formed. -/
def decode? (bytes : List UInt8) : Option String :=
  String.fromUTF8? ⟨bytes.toArray⟩

/-- How a byte string fails to be well formed. -/
inductive Fault
  /-- The sequence at `index` cannot be continued to a character after `length` bytes. -/
  | invalid (length index : Nat)
  /-- The bytes end inside the character at `index`. -/
  | incomplete (index : Nat)
  deriving DecidableEq, Repr

/-- One line about the fault. -/
def Fault.message : Fault → String
  | .invalid length index => s!"invalid utf-8 sequence of {length} bytes from index {index}"
  | .incomplete index => s!"incomplete utf-8 byte sequence from index {index}"

/-- What a byte string begins with. -/
inductive Piece
  | character (code : Nat)
  /-- The longest beginning of a character, followed by a byte that does not continue it. -/
  | invalid (length : Nat)
  /-- The beginning of a character, cut off by the end of the bytes. -/
  | incomplete
  deriving DecidableEq, Repr

/-- The character that stands for a piece in a text. -/
def Piece.char : Piece → Char
  | .character code => Char.ofNat code
  | .invalid _ | .incomplete => '\uFFFD'

/-- How many bytes follow a leading byte, the payload bits of the leading byte, and
the range that the next byte has to be in. -/
structure Lead where
  /-- Number of bytes that follow. -/
  following : Nat
  /-- The bits that the leading byte contributes to the code point. -/
  bits : Nat
  /-- Least value of the next byte. -/
  low : UInt8
  /-- Greatest value of the next byte. -/
  high : UInt8

/-- Classifies a leading byte.  The narrowed ranges exclude overlong forms,
surrogates, and code points above the last one. -/
def Lead.ofByte? (byte : UInt8) : Option Lead :=
  if byte < 0x80 then some ⟨0, byte.toNat, 0x80, 0xBF⟩
  else if byte < 0xC2 then none
  else if byte < 0xE0 then some ⟨1, byte.toNat - 0xC0, 0x80, 0xBF⟩
  else if byte = 0xE0 then some ⟨2, 0x0, 0xA0, 0xBF⟩
  else if byte = 0xED then some ⟨2, 0xD, 0x80, 0x9F⟩
  else if byte < 0xF0 then some ⟨2, byte.toNat - 0xE0, 0x80, 0xBF⟩
  else if byte = 0xF0 then some ⟨3, 0, 0x90, 0xBF⟩
  else if byte < 0xF4 then some ⟨3, byte.toNat - 0xF0, 0x80, 0xBF⟩
  else if byte = 0xF4 then some ⟨3, 4, 0x80, 0x8F⟩
  else none

/-- Reads the bytes that continue a character of which `taken` bytes are read. -/
def continuation (low high : UInt8) (taken code : Nat) : Nat → List UInt8 → Piece × List UInt8
  | 0, rest => (.character code, rest)
  | _ + 1, [] => (.incomplete, [])
  | missing + 1, byte :: rest =>
      if low ≤ byte && byte ≤ high then
        continuation 0x80 0xBF (taken + 1) (code * 64 + (byte.toNat - 0x80)) missing rest
      else
        (.invalid taken, byte :: rest)

/-- Splits off the piece that a nonempty byte string begins with. -/
def first (byte : UInt8) (rest : List UInt8) : Piece × List UInt8 :=
  match Lead.ofByte? byte with
  | none => (.invalid 1, rest)
  | some lead => continuation lead.low lead.high 1 lead.bits lead.following rest

theorem length_continuation_le (low high : UInt8) (taken code missing : Nat)
    (bytes : List UInt8) :
    (continuation low high taken code missing bytes).2.length ≤ bytes.length := by
  fun_induction continuation low high taken code missing bytes with
  | case1 => exact Nat.le_refl _
  | case2 => exact Nat.le_refl _
  | case3 _ _ _ _ _ _ _ _ inductionHypothesis =>
      simpa using Nat.le_succ_of_le inductionHypothesis
  | case4 => exact Nat.le_refl _

/-- What follows the first piece is shorter than the whole. -/
theorem length_first_lt (byte : UInt8) (rest : List UInt8) :
    (first byte rest).2.length < (byte :: rest).length := by
  unfold first
  split
  · simp
  · simpa using Nat.lt_succ_of_le (length_continuation_le ..)

/-- The first fault of the bytes that stand at position `index`. -/
def faultFrom (index : Nat) : List UInt8 → Option Fault
  | [] => none
  | byte :: rest =>
      match split : first byte rest with
      | (.character _, left) => faultFrom (index + (rest.length + 1 - left.length)) left
      | (.invalid length, _) => some (.invalid length index)
      | (.incomplete, _) => some (.incomplete index)
termination_by bytes => bytes.length
decreasing_by simpa [split] using length_first_lt byte rest

/-- The first place at which the bytes are not well formed. -/
def fault? (bytes : List UInt8) : Option Fault :=
  faultFrom 0 bytes

/-- The characters of the bytes, with U+FFFD for each malformed piece, in front of
which stand the characters of `read` in reverse. -/
def lossyFrom (read : List Char) : List UInt8 → List Char
  | [] => read.reverse
  | byte :: rest =>
      lossyFrom ((first byte rest).1.char :: read) (first byte rest).2
termination_by bytes => bytes.length
decreasing_by exact length_first_lt byte rest

/-- The bytes as text, with one replacement character for each malformed piece. -/
def lossy (bytes : List UInt8) : String :=
  String.ofList (lossyFrom [] bytes)

end Utf8
end Text
end PreAggregation
