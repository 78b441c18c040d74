import PreAggregation.Text.Utf8

/-!
# Sources of lines

Lines come from a file, or are made up in a fixed pattern.
-/

namespace PreAggregation
namespace Sensor

/-- Where the lines of a job come from. -/
inductive Source
  /-- So many lines of the pattern. -/
  | pattern (lines : Nat)
  /-- A file with its content, if it can be read. -/
  | file (content : Option (List UInt8))

/-- What a source gives. -/
structure Feed where
  /-- The lines. -/
  lines : List String
  /-- Whether the source came to its end. -/
  complete : Bool

/-- The number of sensors in the pattern. -/
def sensors : Nat := 8

/-- The number of samples in a line of the pattern. -/
def samplesPerLine : Nat := 4

/-- Half of a number, as a decimal numeral. -/
def halfText (number : Nat) : String :=
  (number / 2).repr ++ if number % 2 = 1 then ".5" else ""

/-- A sample of the pattern.  The sensors take turns, and the values go from 20 up to 28
in steps of one half. -/
def patternToken (number : Nat) : String :=
  (number % sensors).repr ++ ";" ++ halfText (40 + number % 17)

/-- A line of the pattern. -/
def patternLine (index : Nat) : String :=
  "|".intercalate ((List.range samplesPerLine).map fun slot =>
    patternToken (index * samplesPerLine + slot))

/-- The lines of some bytes.  A line ends at a line feed, with a carriage return before
it or without; bytes behind the last line feed are a line too. -/
def byteLines (bytes : List UInt8) : List (List UInt8) :=
  match (bytes.splitOn 0x0A).reverse with
  | [] => []
  | last :: ended =>
      let complete := ended.reverse.map fun line =>
        if line.getLast? = some 0x0D then line.dropLast else line
      if last.isEmpty then complete else complete ++ [last]

/-- Reads lines up to the first that is not text, behind those of `read` in reverse. -/
def decodeLines (read : List String) : List (List UInt8) → Feed
  | [] => ⟨read.reverse, true⟩
  | line :: rest =>
      match Text.Utf8.decode? line with
      | some text => decodeLines (text :: read) rest
      | none => ⟨read.reverse, false⟩

/-- What a source gives.  One that cannot be read gives no line and has no end. -/
def Source.feed : Source → Feed
  | .pattern lines => ⟨(List.range lines).map patternLine, true⟩
  | .file (some content) => decodeLines [] (byteLines content)
  | .file none => ⟨[], false⟩

end Sensor
end PreAggregation
