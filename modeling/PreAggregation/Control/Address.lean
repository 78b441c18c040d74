import PreAggregation.Control.Client
import PreAggregation.Text.Numeral

/-!
# Addresses of brokers

An address is a host and a port with a colon between them.  No name service is at
hand, so only hosts that are given by their numbers are known.
-/

namespace PreAggregation
namespace Address

/-- The host and the port of an address, split at the last colon. -/
def split? (address : List Char) : Option (List Char × List Char) :=
  let reversed := address.reverse
  match reversed.dropWhile (· ≠ ':') with
  | [] => none
  | _ :: host => some (host.reverse, (reversed.takeWhile (· ≠ ':')).reverse)

/-- The parts of a text between dots. -/
def fields (text : List Char) : List (List Char) :=
  text.splitOn '.'

/-- Whether a text is one of the four numbers of a host. -/
def isOctet (text : List Char) : Bool :=
  text.length ≤ 3 && (text.head? ≠ some '0' || text.length = 1) &&
    ((Text.Numeral.digits? text).any (· ≤ 255))

/-- Whether a host is given by its four numbers. -/
def isNumeric (host : List Char) : Bool :=
  (fields host).length = 4 && (fields host).all isOctet

/-- Whether a text is one group of hexadecimal digits. -/
def isGroup (text : List Char) : Bool :=
  !text.isEmpty && text.length ≤ 4 &&
    text.all fun c => c.isDigit || ('a' ≤ c && c ≤ 'f') || ('A' ≤ c && c ≤ 'F')

/-- The parts of a text between colons. -/
def groups (text : List Char) : List (List Char) :=
  if text.isEmpty then [] else text.splitOn ':'

/-- The number of groups that some parts stand for.  The last part may be four numbers,
which stand for two groups. -/
def groupCount? (parts : List (List Char)) : Option Nat :=
  if parts.all isGroup then some parts.length
  else if parts.dropLast.all isGroup && parts.getLast?.any isNumeric then some (parts.length + 1)
  else none

/-- A text without its first two colons in a row, if it has such: what stands before
them and what stands behind them. -/
def splitGap? : List Char → Option (List Char × List Char)
  | [] => none
  | ':' :: ':' :: rest => some ([], rest)
  | c :: rest => (splitGap? rest).map fun (before, behind) => (c :: before, behind)

/-- Whether a host is given by its eight groups.  Two colons in a row stand for one or
more groups that are zero. -/
def isGrouped (host : List Char) : Bool :=
  match splitGap? host with
  | none => groupCount? (groups host) = some 8
  | some (before, behind) =>
      (groups before).all isGroup &&
        (groupCount? (groups behind)).any fun count => (groups before).length + count < 8

/-- Whether a text is the number of a port. -/
def isPort (text : List Char) : Bool :=
  (Text.Numeral.digits? text).any (· < UInt16.size)

/-- Whether a text is empty or names a zone by its number. -/
def isZone (text : List Char) : Bool :=
  match text with
  | [] => true
  | mark :: number => mark = '%' && (Text.Numeral.digits? number).any (· < UInt32.size)

/-- Whether an address has a host given by its numbers, which stands between brackets
if it has eight groups. -/
def isExact (address : List Char) : Bool :=
  match address with
  | '[' :: rest =>
      let inside := rest.takeWhile (· ≠ ']')
      match rest.dropWhile (· ≠ ']') with
      | ']' :: ':' :: port =>
          isGrouped (inside.takeWhile (· ≠ '%')) && isZone (inside.dropWhile (· ≠ '%')) &&
            isPort port
      | _ => false
  | address => (split? address).any fun (host, port) => isNumeric host && isPort port

/-- Why an address cannot be used. -/
def fault? (address : String) : Option TransportFault :=
  if isExact address.toList then none
  else
    match split? address.toList with
    | none => some .invalidAddress
    | some (host, port) =>
        if (Text.Numeral.unsigned? 16 port).isNone || '\x00' ∈ host then some .invalidAddress
        else if isNumeric host || isGrouped host then none
        else some .unknownHost

/-- What a subscriber meets at an address where no broker can be. -/
def subscribeFailure (address topic : String) : Error :=
  Client.failure topic
    (match fault? address with
      | some fault => ⟨.unresolvedBroker address, [.transport fault]⟩
      | none => ⟨.unreachableBroker address, [.transport .refused]⟩)

/-- What a publisher meets at an address where no broker can be. -/
def publishFailure (address : String) : Error :=
  ⟨.unreachableBroker address, [.transport ((fault? address).getD .refused)]⟩

end Address
end PreAggregation
