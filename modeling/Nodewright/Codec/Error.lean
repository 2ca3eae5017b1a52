import Nodewright.Json.Basic
import Nodewright.Kind
import Nodewright.Binary64.Shortest
import Nodewright.Text.Quoted

/-! # Why a value is not what was expected

`DecodeError` lists the causes, and `DecodeError.message` has their wording. -/

namespace Nodewright

/-- How an outline is described. -/
def Json.Outline.describe : Json.Outline → String
  | null => "null"
  | bool b => "boolean " ++ Text.ticked (toString b)
  | number (.natural n) => "integer " ++ Text.ticked (toString n.toNat)
  | number (.negative size) => "integer " ++ Text.ticked ("-" ++ toString size.toNat)
  | number (.float isNegative units) =>
    "floating point " ++ Text.ticked (Binary64.text isNegative units)
  | string s => "string " ++ Text.quoted s
  | array => "sequence"
  | object => "map"

/-- Why a value is not what was expected. -/
inductive DecodeError where
  /-- The value is of another type. -/
  | wrongType (found : Json.Outline) (expected : String)
  /-- The value is of the type expected, but outside its range. -/
  | wrongValue (found : Json.Outline) (expected : String)
  | missingField (name : String)
  | duplicateField (name : String)
  /-- A name outside a closed vocabulary. -/
  | unknownVariant (name : String) (known : List String)
  /-- An array with so many items. -/
  | wrongLength (items : Nat) (expected : String)
  /-- A client that no spec of the kind may have. -/
  | unsupportedClient (client : String) (kind : Kind)
deriving DecidableEq, Repr

namespace DecodeError

/-- The choice that a closed vocabulary leaves. -/
def choice : List String → String
  | [] => "there are no variants"
  | [a] => "expected " ++ Text.ticked a
  | [a, b] => "expected " ++ Text.ticked a ++ " or " ++ Text.ticked b
  | known => "expected one of " ++ Text.joinWith ", " (known.map Text.ticked)

/-- The wording of the rule that a client is none of the kind's. -/
def unsupportedClientText (client : String) (kind : Kind) : String :=
  "unsupported client " ++ Text.quoted client ++ " for " ++ kind.name

/-- The wording of an error. -/
def message : DecodeError → String
  | wrongType found expected => "invalid type: " ++ found.describe ++ ", expected " ++ expected
  | wrongValue found expected => "invalid value: " ++ found.describe ++ ", expected " ++ expected
  | missingField name => "missing field " ++ Text.ticked name
  | duplicateField name => "duplicate field " ++ Text.ticked name
  | unknownVariant name known => "unknown variant " ++ Text.ticked name ++ ", " ++ choice known
  | wrongLength items expected =>
    "invalid length " ++ toString items ++ ", expected " ++ expected
  | unsupportedClient client kind => unsupportedClientText client kind

end DecodeError

end Nodewright
