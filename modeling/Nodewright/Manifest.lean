import Nodewright.Codec.Text
import Nodewright.Spec

/-! # Manifests

A manifest is a spec with its kind and a name: `{"kind": K, "name": N, "spec": {...}}`. The kind
says how to read the rest, which is why it is read first, wherever it stands; `Envelope` is a
manifest of which only the kind has been read.

* `Manifest.toJson`, `Manifest.ofJson`   manifests as JSON values
* `Manifest.ofText`   the manifest of a text; a fault of the envelope is reported with its place,
  as soon as it is met -/

namespace Nodewright

/-- A named spec. -/
structure Manifest where
  name : String
  spec : Spec
deriving DecidableEq

/-- A manifest of which only the kind has been read. -/
structure Envelope where
  kind : Kind
  /-- What stood beside the kind. -/
  body : Json

namespace Envelope

/-- The name of the entry that holds the kind. -/
def tag : String := "kind"

/-- What an envelope is called. -/
def title : String := "internally tagged enum Manifest"

/-- The kind that a value names. -/
def kindOf : Json.Outline → Except DecodeError Kind
  | .string name => Codec.variantOf Kind name
  | found => .error (.wrongType found "variant identifier")

/-- Reads the kind from the entries of an object, and collects the others in reverse. -/
def openEntries : Option Kind → List (String × Json) → List (String × Json) →
    Except DecodeError Envelope
  | some kind, rest, [] => .ok ⟨kind, .object rest.reverse⟩
  | none, _, [] => .error (.missingField tag)
  | kind, rest, (key, value) :: more =>
    if key = tag then
      if kind.isSome then .error (.duplicateField tag)
      else
        match kindOf value.outline with
        | .ok kind => openEntries (some kind) rest more
        | .error e => .error e
    else openEntries kind ((key, value) :: rest) more

/-- The envelope of a value. In an array the kind stands first. -/
def ofJson : Json → Except DecodeError Envelope
  | .object entries => openEntries none [] entries
  | .array (first :: rest) => (kindOf first.outline).map fun kind => ⟨kind, .array rest⟩
  | .array [] => .error (.missingField tag)
  | v => .error (.wrongType v.outline title)

/-- What has been read of an envelope: the kind, if it has been met, and the rest in reverse. -/
abbrev Partial (α : Type) := Option Kind × List α

/-- Reads the kind at which a text goes on. -/
def readKind (src : List Char) : Json.Reading DecodeError Kind :=
  (Json.outlineAt src).andThen fun outline rest =>
    match kindOf outline with
    | .ok kind => .ok (kind, rest)
    | .error e => Json.refuse e rest

/-- Reads a value inside an envelope. -/
def readInner (src : List Char) : Json.Reading DecodeError Json :=
  Json.value (Json.maxDepth - 1) src

/-- Reads an entry of an envelope. -/
def readEntry (done : Partial (String × Json)) (key : String) (src : List Char) :
    Json.Reading DecodeError (Partial (String × Json)) :=
  if key = tag then
    if done.1.isSome then Json.refuse (.duplicateField tag) (Json.skipBlanks src)
    else
      (Json.colon src).andThen fun _ src => (readKind src).as fun kind => (some kind, done.2)
  else
    (Json.colon src).andThen fun _ src =>
      (readInner src).as fun value => (done.1, (key, value) :: done.2)

/-- Reads an item of an envelope that is written as an array. -/
def readItem (done : Partial Json) (src : List Char) : Json.Reading DecodeError (Partial Json) :=
  match done.1 with
  | none => (readKind src).as fun kind => (some kind, done.2)
  | some kind => (readInner src).as fun value => (some kind, value :: done.2)

/-- The envelope of what has been read, which needs a kind. -/
def close {α : Type} (body : List α → Json) (done : Partial α) (rest : List Char) :
    Json.Reading DecodeError Envelope :=
  match done.1 with
  | some kind => .ok (⟨kind, body done.2.reverse⟩, rest)
  | none => Json.refuse (.missingField tag) rest

/-- Reads an envelope. -/
def read (src : List Char) : Json.Reading DecodeError Envelope :=
  match src with
  | '{' :: rest => (Json.foldEntries readEntry (none, []) rest).andThen (close .object)
  | '[' :: rest => (Json.foldItems readItem (none, []) rest).andThen (close .array)
  | src =>
    (Json.outlineAt src).andThen fun outline rest => Json.refuse (.wrongType outline title) rest

end Envelope

namespace Manifest

/-- The kind of a manifest. -/
def kind (m : Manifest) : Kind := m.spec.kind

/-- The spec as a member of a manifest of a kind. -/
def specMember (kind : Kind) : Member Spec :=
  ⟨"spec", fun s => some s.encode, Spec.decode kind, none, none⟩

/-- The members of a manifest of a kind, beside the kind. -/
def members (kind : Kind) : Fields Manifest Manifest :=
  Fields.build mk
    |>.member (.required "name" .text) name
    |>.member (specMember kind) spec

/-- A manifest as JSON. -/
def toJson (m : Manifest) : Json :=
  .object ((Envelope.tag, .string m.kind.name) :: (members m.kind).entries m)

/-- The manifest of an envelope. -/
def ofEnvelope (e : Envelope) : Except DecodeError Manifest :=
  (members e.kind).decode "Object" .enveloped e.body

/-- The manifest of a value. -/
def ofJson (v : Json) : Except DecodeError Manifest := Envelope.ofJson v >>= ofEnvelope

/-- The manifest of a text. -/
def ofText (text : String) : Except TextError Manifest :=
  match Envelope.read (Json.skipBlanks text.toList) with
  | .error f => .error (.ofFailure text.toList f)
  | .ok (e, rest) =>
    match ofEnvelope e with
    | .error e => .error (.refused e none)
    | .ok m => do
      TextError.checkEnd text.toList rest
      return m

end Manifest

end Nodewright
