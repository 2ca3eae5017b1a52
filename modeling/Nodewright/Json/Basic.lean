import Nodewright.Keyed

/-! # JSON values

A value keeps the entries of its objects in written order, repeated keys included; the reader of a
record decides what a repeated key means. `Json.canonical` is the value with every object in the
order of its keys, each of them once.

A number is kept in one of three forms: a natural number below `2 ^ 64`, a negative integer not
below `- 2 ^ 63`, or a double. -/

namespace Nodewright

/-- A number of a JSON text. -/
inductive Json.Number where
  /-- A natural number of 64 bits. -/
  | natural (n : UInt64)
  /-- The integer `- size`. -/
  | negative (size : UInt64)
  /-- The double of so many units of `2 ^ -1074`. -/
  | float (isNegative : Bool) (units : Nat)
deriving DecidableEq, Repr

/-- A JSON value. -/
inductive Json where
  | null
  | bool (b : Bool)
  | number (n : Json.Number)
  | string (s : String)
  | array (items : List Json)
  | object (entries : List (String × Json))
deriving Repr, Inhabited, BEq

namespace Json

mutual

/-- The same value with every object in the order of its keys; of a repeated key the last entry
    stays. -/
def canonical : Json → Json
  | array items => array (canonicalItems items)
  | object entries => object (canonicalEntries entries [])
  | null => null
  | bool b => bool b
  | number n => number n
  | string s => string s

/-- The canonical forms of the items. -/
def canonicalItems : List Json → List Json
  | [] => []
  | item :: rest => item.canonical :: canonicalItems rest

/-- Adds the canonical forms of the entries to those already in order. -/
def canonicalEntries : List (String × Json) → List (String × Json) → List (String × Json)
  | [], done => done
  | (key, value) :: rest, done => canonicalEntries rest (insertEntry key value.canonical done)

end

/-- A JSON value without what is inside it, if it is a container. -/
inductive Outline where
  | null
  | bool (b : Bool)
  | number (n : Number)
  | string (s : String)
  | array
  | object
deriving DecidableEq, Repr

/-- The outline of a value. -/
def outline : Json → Outline
  | .null => .null
  | .bool b => .bool b
  | .number n => .number n
  | .string s => .string s
  | .array _ => .array
  | .object _ => .object

/-- The list of texts as an array of strings. -/
def ofTexts (texts : List String) : Json := array (texts.map string)

/-- A natural number of at most 64 bits. -/
def natural (n : UInt64) : Json := number (.natural n)

/-- The text, or null where there is none. -/
def ofText? : Option String → Json
  | some s => string s
  | none => null

end Json

end Nodewright
