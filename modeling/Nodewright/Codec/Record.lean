import Nodewright.Codec.Basic

/-! # Codecs of records

A record is written as an object with its members in declared order. It is read from an object,
in which members may stand in any order and unknown names are passed over, or from an array of its
members in declared order.

`Fields σ α` describes members of a record `σ` from which an `α` is built; `Fields.build` and
`Fields.member` add them one by one, and `Fields.codec` closes the description.

Of several faults in an object the one that stands first counts: an entry that cannot be read, or
the second entry of a name. A member without an entry comes behind all entries, and of several such
members the one declared first counts. This is what `Fault.place` is for. -/

namespace Nodewright

/-- One member of a record. -/
structure Member (α : Type) where
  name : String
  /-- What is written under the name, if anything. -/
  write : α → Option Json
  /-- Reads what stands under the name. -/
  read : Setting → Json → Except DecodeError α
  /-- The value of an object that lacks the name. -/
  absent : Option α
  /-- The value of an array that is too short for the member. -/
  omitted : Option α

namespace Member

variable {α : Type}

/-- A member that must be there. -/
def required (name : String) (c : Codec α) : Member α :=
  ⟨name, fun a => some (c.encode a), c.decode, none, none⟩

/-- A member that takes a value of its own where it is not there. -/
def defaulted (name : String) (c : Codec α) (value : α) : Member α :=
  ⟨name, fun a => some (c.encode a), c.decode, some value, some value⟩

/-- A member that may be left out, and is not written then. -/
def optional (name : String) (c : Codec α) : Member (Option α) :=
  ⟨name, Option.map c.encode, c.nullable.decode, some none, some none⟩

/-- A list that is not written while it is empty. -/
def listing (name : String) (c : Codec α) : Member (List α) :=
  ⟨name, fun items => if items.isEmpty then none else some (c.list.encode items), c.list.decode,
    some [], some []⟩

end Member

/-- A fault in an object, with the place of the entry that shows it. -/
structure Fault where
  place : Nat
  error : DecodeError
deriving DecidableEq, Repr

/-- Both results, or the fault that stands first. -/
def Fault.first {α β : Type} (f : Except Fault (α → β)) (a : Except Fault α) : Except Fault β :=
  match f, a with
  | .ok f, .ok a => .ok (f a)
  | .ok _, .error e => .error e
  | .error e, .ok _ => .error e
  | .error d, .error e => .error (if e.place < d.place then e else d)

/-- The values under a name, with their places, the first entry standing at the given one. -/
def occurrences (name : String) : Nat → List (String × Json) → List (Nat × Json)
  | _, [] => []
  | place, (key, value) :: rest =>
    if key = name then (place, value) :: occurrences name (place + 1) rest
    else occurrences name (place + 1) rest

/-- Reads a member from the entries of an object. -/
def Member.find {α : Type} (m : Member α) (setting : Setting) (entries : List (String × Json)) :
    Except Fault α :=
  match occurrences m.name 0 entries with
  | [] =>
    match m.absent with
    | some a => .ok a
    | none => .error ⟨entries.length, .missingField m.name⟩
  | (place, value) :: again =>
    match m.read setting value with
    | .error e => .error ⟨place, e⟩
    | .ok a =>
      match again with
      | [] => .ok a
      | (place, _) :: _ => .error ⟨place, .duplicateField m.name⟩

/-- Members of a record `σ`, from which an `α` is built. -/
structure Fields (σ α : Type) where
  /-- How many members there are. -/
  count : Nat
  /-- The entries that the members of a record are written as. -/
  entries : σ → List (String × Json)
  /-- Reads the members from the entries of an object. -/
  find : Setting → List (String × Json) → Except Fault α
  /-- Reads the members from the front of an array, and leaves the rest of it. The function gives
      the error of an array that ends before the member of a place. -/
  take : Setting → (Nat → DecodeError) → List Json → Except DecodeError (α × List Json)

namespace Fields

variable {σ α β : Type}

/-- No members yet, and the function that builds the record. -/
def build (f : α) : Fields σ α where
  count := 0
  entries _ := []
  find _ _ := .ok f
  take _ _ items := .ok (f, items)

/-- The same members, and another record built from what they give. -/
def map (fs : Fields σ α) (f : α → β) : Fields σ β where
  count := fs.count
  entries := fs.entries
  find setting entries := (fs.find setting entries).map f
  take setting short items := (fs.take setting short items).map fun (a, rest) => (f a, rest)

/-- One more member, behind the others. -/
def member (fs : Fields σ (α → β)) (m : Member α) (get : σ → α) : Fields σ β where
  count := fs.count + 1
  entries s :=
    fs.entries s ++
      match m.write (get s) with
      | some v => [(m.name, v)]
      | none => []
  find setting entries := Fault.first (fs.find setting entries) (m.find setting entries)
  take setting short items := do
    let (f, items) ← fs.take setting short items
    match items with
    | item :: items => return (f (← m.read setting item), items)
    | [] =>
      match m.omitted with
      | some a => return (f a, [])
      | none => .error (short fs.count)

/-- So many things. -/
def counted (n : Nat) : String :=
  if n = 1 then "1 element" else toString n ++ " elements"

/-- The members of a record as an object. -/
def encode (fs : Fields σ α) (s : σ) : Json := .object (fs.entries s)

/-- Reads a record from an object, or from an array with nothing behind its members. -/
def decode (fs : Fields σ α) (title : String) (setting : Setting) : Json → Except DecodeError α
  | .object entries =>
    match fs.find setting entries with
    | .ok a => .ok a
    | .error fault => .error fault.error
  | .array items => do
    let short (place : Nat) : DecodeError :=
      .wrongLength place ("struct " ++ title ++ " with " ++ counted fs.count)
    let (a, rest) ← fs.take setting short items
    if rest.isEmpty then return a
    else
      .error (.wrongLength items.length
        (match setting with
          | .enveloped => counted fs.count ++ " in sequence"
          | .alone => "fewer elements in array"))
  | v => .error (.wrongType v.outline ("struct " ++ title))

/-- The codec of a record with the given title. -/
def codec (fs : Fields α α) (title : String) : Codec α where
  encode := fs.encode
  decode := fs.decode title

end Fields

end Nodewright
