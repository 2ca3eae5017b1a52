import Nodewright.Text.Blank
import Nodewright.Text.Parts

/-! # Formats of addresses

Recognisers of the texts that name an account, a node or a person. Each takes the whole text.

* `isAccountAddress`   `0x` and forty hexadecimal digits
* `isEnode`   `enode://`, a key of 128 hexadecimal digits, `@`, a host, `:`, a port, and possibly
  `?discport=` and another port
* `isMultiaddr`   one or more pairs of a protocol and a value, each behind a stroke
* `isEmail`   a part before `@`, and a part behind it with a dot inside -/

namespace Nodewright.Format

open Text (isBlank)

/-- Whether a character is a hexadecimal digit. -/
def isHexDigit (c : Char) : Bool :=
  ('0' ≤ c && c ≤ '9') || ('a' ≤ c && c ≤ 'f') || ('A' ≤ c && c ≤ 'F')

/-- The text behind the given beginning. -/
def behind? (start : List Char) (cs : List Char) : Option (List Char) :=
  if start.isPrefixOf cs then some (cs.drop start.length) else none

/-- The address of an account. -/
def isAccountAddress (s : String) : Bool :=
  match behind? ['0', 'x'] s.toList with
  | some digits => digits.length = 40 && digits.all isHexDigit
  | none => false

/-- Whether a text is a port: one to five decimal digits. -/
def isPort (cs : List Char) : Bool := 1 ≤ cs.length && cs.length ≤ 5 && cs.all Char.isDigit

/-- What stands between the port of a node and the port of its discovery. -/
def discoveryMark : List Char := "?discport=".toList

/-- What stands behind the host of a node: a port, and possibly that of its discovery. -/
def isPorts (cs : List Char) : Bool :=
  isPort (cs.takeWhile Char.isDigit) &&
    match cs.dropWhile Char.isDigit with
    | [] => true
    | rest =>
      match behind? discoveryMark rest with
      | some port => isPort port
      | none => false

/-- What stands behind the key of a node: a host and its ports. -/
def isEndpoint (cs : List Char) : Bool :=
  let inHost (c : Char) : Bool := c ≠ ':' && !isBlank c
  !(cs.takeWhile inHost).isEmpty &&
    match cs.dropWhile inHost with
    | ':' :: ports => isPorts ports
    | _ => false

/-- The address of an execution node. -/
def isEnode (s : String) : Bool :=
  match behind? "enode://".toList s.toList with
  | some rest =>
    let key := rest.take 128
    key.length = 128 && key.all isHexDigit &&
      match rest.drop 128 with
      | '@' :: endpoint => isEndpoint endpoint
      | _ => false
  | none => false

/-- Whether a character may stand in the name of a protocol. -/
def isProtocolChar (c : Char) : Bool := ('a' ≤ c && c ≤ 'z') || c.isDigit || c = '-'

/-- Whether a character may stand in the value of a protocol. -/
def isComponentChar (c : Char) : Bool := c ≠ '/' && !isBlank c

/-- Whether the parts of a text between its strokes are pairs of a protocol and a value. -/
def arePairs : List (List Char) → Bool
  | [] => true
  | [_] => false
  | protocol :: value :: rest =>
    (!protocol.isEmpty && protocol.all isProtocolChar) &&
      (!value.isEmpty && value.all isComponentChar) && arePairs rest

/-- A self-describing network address. -/
def isMultiaddr (s : String) : Bool :=
  match s.toList with
  | '/' :: rest => arePairs (Text.parts '/' rest)
  | _ => false

/-- The address of a mailbox. -/
def isEmail (s : String) : Bool :=
  let cs := s.toList
  let mailbox := cs.takeWhile (· ≠ '@')
  match cs.dropWhile (· ≠ '@') with
  | [] => false
  | _ :: domain =>
    !mailbox.isEmpty && mailbox.all (!isBlank ·) && domain.all (fun c => c ≠ '@' && !isBlank c) &&
      (domain.drop 1).dropLast.contains '.'

end Nodewright.Format
