import Nodewright.Codec.Error

/-! # Codecs

A codec writes the values of a type as JSON and reads them back. What it reads may depend on the
setting: inside the envelope of a manifest the rules for arrays and for names of a vocabulary are
slightly wider than for a value that stands alone. -/

namespace Nodewright

/-- Where a value stands that is being read. -/
inductive Setting where
  /-- Inside a manifest. -/
  | enveloped
  /-- By itself. -/
  | alone
deriving DecidableEq, Repr

/-- A way to write the values of a type as JSON and to read them back. -/
structure Codec (α : Type) where
  encode : α → Json
  decode : Setting → Json → Except DecodeError α

namespace Codec

/-- Any text. -/
def text : Codec String where
  encode := .string
  decode _ v :=
    match v with
    | .string s => .ok s
    | v => .error (.wrongType v.outline "a string")

/-- True or false. -/
def flag : Codec Bool where
  encode := .bool
  decode _ v :=
    match v with
    | .bool b => .ok b
    | v => .error (.wrongType v.outline "a boolean")

/-- The natural number of a value, if it is one below the bound. -/
def bounded (bound : Nat) (expected : String) (v : Json) : Except DecodeError Nat :=
  match v with
  | .number (.natural n) =>
    if n.toNat < bound then .ok n.toNat else .error (.wrongValue v.outline expected)
  | .number (.negative _) => .error (.wrongValue v.outline expected)
  | v => .error (.wrongType v.outline expected)

/-- A natural number of 16 bits. -/
def word16 : Codec UInt16 where
  encode n := .natural n.toUInt64
  decode _ v := (bounded (Nat.pow 2 16) "u16" v).map UInt16.ofNat

/-- A natural number of 32 bits. -/
def word32 : Codec UInt32 where
  encode n := .natural n.toUInt64
  decode _ v := (bounded (Nat.pow 2 32) "u32" v).map UInt32.ofNat

/-- A natural number of 64 bits. -/
def word64 : Codec UInt64 where
  encode := .natural
  decode _ v := (bounded (Nat.pow 2 64) "u64" v).map UInt64.ofNat

/-- A value, or null. -/
def nullable {α : Type} (c : Codec α) : Codec (Option α) where
  encode
    | some a => c.encode a
    | none => .null
  decode setting v :=
    match v with
    | .null => .ok none
    | v => (c.decode setting v).map some

/-- A list of values. -/
def list {α : Type} (c : Codec α) : Codec (List α) where
  encode items := .array (items.map c.encode)
  decode setting v :=
    match v with
    | .array items => items.mapM (c.decode setting)
    | v => .error (.wrongType v.outline "a sequence")

/-- The codec that refuses some of the values of another one. -/
def narrowed {α β : Type} (c : Codec α) (widen : β → α) (narrow : α → Except DecodeError β) :
    Codec β where
  encode b := c.encode (widen b)
  decode setting v := c.decode setting v >>= narrow

end Codec

end Nodewright
