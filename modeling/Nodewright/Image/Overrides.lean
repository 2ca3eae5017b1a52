import Nodewright.Codec.Record
import Nodewright.Codec.Text

/-! # Images of nodes

Each client has an image of its own and a key under which another image may be put in its place.
`Image.Overrides` holds such images by their keys.

* `Overrides.resolve`   the image of a node: the one that its spec names, else the one under the
  key, else the image of the client
* `Overrides.merge`   the images of a second configuration over those of a first
* `Overrides.ofText`   the configuration of a text `{"images": {KEY: IMAGE}}` -/

namespace Nodewright.Image

/-- The image of a client, and the key under which another one may be put in its place. -/
structure Source where
  key : String
  builtIn : String
deriving DecidableEq, Repr

/-- Images in the place of those of the clients, by their keys. -/
structure Overrides where
  images : Keyed String
deriving DecidableEq

namespace Overrides

/-- No image in the place of another one. -/
def none : Overrides := ⟨.empty⟩

instance : Inhabited Overrides := ⟨none⟩

/-- The image under a key. -/
def get? (o : Overrides) (key : String) : Option String := o.images.get? key

/-- Puts an image under a key. -/
def set (o : Overrides) (key image : String) : Overrides := ⟨o.images.insert key image⟩

/-- Puts the images of the second configuration over those of the first. -/
def merge (o p : Overrides) : Overrides := ⟨o.images.union p.images⟩

/-- The image of a node whose spec may name one. -/
def resolve (o : Overrides) (explicit : Option String) (source : Source) : String :=
  explicit.getD ((o.get? source.key).getD source.builtIn)

/-- The overrides that an environment has under the given keys. An empty value counts as none. -/
def ofEnvironment (keys : List String) (value : String → Option String) : Overrides :=
  keys.foldl (fun o key =>
    match value key with
    | some image => if image = "" then o else o.set key image
    | .none => o) none

@[simp] theorem get?_none (key : String) : none.get? key = .none := rfl

@[simp] theorem get?_set_self (o : Overrides) (key image : String) :
    (o.set key image).get? key = some image :=
  o.images.get?_insert_self key image

/-- To set an image leaves those under other keys alone. -/
theorem get?_set_of_ne (o : Overrides) {key other : String} (image : String) (h : other ≠ key) :
    (o.set key image).get? other = o.get? other :=
  o.images.get?_insert_of_ne image h

/-- Of two images under a key, that of the second configuration counts. -/
theorem get?_merge (o p : Overrides) (key : String) :
    (o.merge p).get? key = (p.get? key).or (o.get? key) :=
  o.images.get?_union p.images key

/-- Adds the images of entries that are all texts; of a repeated key the last one stays. -/
def addAll (o : Overrides) (setting : Setting) :
    List (String × Json) → Except DecodeError Overrides
  | [] => .ok o
  | (key, value) :: rest =>
    match Codec.text.decode setting value with
    | .ok image => (o.set key image).addAll setting rest
    | .error e => .error e

/-- Images by their keys, as JSON. -/
def mapCodec : Codec Overrides where
  encode o := .object (o.images.entries.map fun e => (e.1, .string e.2))
  decode setting v :=
    match v with
    | .object entries => none.addAll setting entries
    | v => .error (.wrongType v.outline "a map")

/-- The title of a configuration. -/
def title : String := "ImageConfig"

/-- A configuration as JSON. -/
def codec : Codec Overrides :=
  (Fields.build id |>.member (.defaulted "images" mapCodec none) id).codec title

/-- Reads an image under its key. -/
def readImage (o : Overrides) (key : String) (src : List Char) :
    Json.Reading DecodeError Overrides :=
  (Json.colon src).andThen fun _ src =>
    (Json.outlineAt src).andThen fun outline rest =>
      match outline with
      | .string image => .ok (o.set key image, rest)
      | outline => Json.refuse (.wrongType outline "a string") rest

/-- Reads images by their keys. -/
def readMap (src : List Char) : Json.Reading DecodeError Overrides :=
  match src with
  | '{' :: rest => Json.foldEntries readImage none rest
  | src =>
    (Json.outlineAt src).andThen fun outline rest =>
      Json.refuse (.wrongType outline "a map") rest

/-- Reads an entry of a configuration. The images may stand there once, and other entries are
    passed over. -/
def readEntry (done : Option Overrides) (key : String) (src : List Char) :
    Json.Reading DecodeError (Option Overrides) :=
  if key = "images" then
    match done with
    | some _ => Json.refuse (.duplicateField key) (Json.skipBlanks src)
    | .none => (Json.colon src).andThen fun _ src => (readMap src).as some
  else
    (Json.colon src).andThen fun _ src => (Json.skip (src.length + 1) src).as fun _ => done

/-- Reads an item of a configuration that is written as an array. -/
def readItem (done : Option Overrides) (src : List Char) :
    Json.Reading DecodeError (Option Overrides) :=
  match done with
  | some _ => Json.fail .trailingText (src.drop 1)
  | .none => (readMap src).as some

/-- Reads a configuration. -/
def read (src : List Char) : Json.Reading DecodeError Overrides :=
  match src with
  | '{' :: rest => (Json.foldEntries readEntry .none rest).as (·.getD none)
  | '[' :: rest => (Json.foldItems readItem .none rest).as (·.getD none)
  | src =>
    (Json.outlineAt src).andThen fun outline rest =>
      Json.refuse (.wrongType outline ("struct " ++ title)) rest

/-- The configuration of a text. -/
def ofText (text : String) : Except TextError Overrides :=
  match read (Json.skipBlanks text.toList) with
  | .error f => .error (.ofFailure text.toList f)
  | .ok (o, rest) => do
    TextError.checkEnd text.toList rest
    return o

end Overrides

end Nodewright.Image
