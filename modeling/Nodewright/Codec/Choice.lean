import Nodewright.Codec.Basic

/-! # Codecs of closed vocabularies

* `Codec.choice`   a name of the vocabulary, or an object with that name as its only key and
  nothing under it
* `Codec.client`   the name of a client of a kind, as a plain text -/

namespace Nodewright.Codec

/-- The value of a name, which must be of the vocabulary. -/
def variantOf (α : Type) [Named α] (name : String) : Except DecodeError α :=
  match Named.ofName? name with
  | some a => .ok a
  | none => .error (.unknownVariant name (Named.names α))

/-- Nothing: null, or inside a manifest an empty object. -/
def nothing (setting : Setting) : Json → Except DecodeError Unit
  | .null => .ok ()
  | .object [] =>
    if setting = .enveloped then .ok () else .error (.wrongType .object "unit")
  | v => .error (.wrongType v.outline "unit")

/-- A name of the vocabulary, or an object with that name over nothing. -/
def choice (α : Type) [Named α] : Codec α where
  encode a := .string (Named.name a)
  decode setting v :=
    match v with
    | .string name => variantOf α name
    | .object [(name, content)] => do
      let a ← variantOf α name
      nothing setting content
      return a
    | .object entries =>
      .error (.wrongValue (Json.object entries).outline "map with a single key")
    | v => .error (.wrongType v.outline "string or map")

/-- The client of a name, which must be one of the kind's. -/
def clientOf (α : Type) [Named α] (kind : Kind) (name : String) : Except DecodeError α :=
  match Named.ofName? name with
  | some a => .ok a
  | none => .error (.unsupportedClient name kind)

/-- The name of a client of the kind. -/
def client (α : Type) [Named α] (kind : Kind) : Codec α :=
  text.narrowed Named.name (clientOf α kind)

end Nodewright.Codec
