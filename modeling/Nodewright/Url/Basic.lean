import Nodewright.Url.Host

/-! # Addresses of resources

An address has a scheme, an authority (who answers, and where) unless it needs none, a path, and
possibly a query and a fragment. Some schemes are special: they have a default port, and their
addresses always have an authority.

* `Url.text`   an address in its canonical form
* `Url.host?`, `Url.port?`   where to connect to -/

namespace Nodewright

/-- Who answers at an address, and where. -/
structure Url.Authority where
  username : String
  password : String
  host : Url.Host
  port : Option UInt16
deriving DecidableEq, Repr

/-- What an address names at its host. -/
inductive Url.Path where
  /-- A text without structure. -/
  | plain (s : String)
  /-- Segments, each behind a stroke. -/
  | segments (parts : List String)
deriving DecidableEq, Repr

/-- The address of a resource. -/
structure Url where
  scheme : String
  authority : Option Url.Authority
  path : Url.Path
  query : Option String
  fragment : Option String
deriving DecidableEq, Repr

namespace Url

/-- The special schemes, each with its default port if it has one. -/
def specialSchemes : List (String × Option UInt16) :=
  [("http", some 80), ("https", some 443), ("ws", some 80), ("wss", some 443), ("ftp", some 21),
    ("file", none)]

/-- Whether a scheme is special. -/
def isSpecial (scheme : String) : Bool := specialSchemes.any fun s => s.1 == scheme

/-- The port that a scheme uses where none is given. -/
def defaultPort? (scheme : String) : Option UInt16 :=
  (specialSchemes.find? fun s => s.1 == scheme).bind (·.2)

namespace Authority

/-- The user in front of the host, if there is one. -/
def userText (a : Authority) : String :=
  if a.username = "" ∧ a.password = "" then ""
  else a.username ++ (if a.password = "" then "" else ":" ++ a.password) ++ "@"

/-- The port behind the host, if there is one. -/
def portText (a : Authority) : String :=
  match a.port with
  | some p => ":" ++ toString p.toNat
  | none => ""

/-- An authority as text. -/
def text (a : Authority) : String := a.userText ++ a.host.text ++ a.portText

end Authority

/-- A path as text. -/
def Path.text : Path → String
  | plain s => s
  | segments parts => String.join (parts.map ("/" ++ ·))

/-- What keeps an empty first segment from being taken for an authority. -/
def pathGuard : Path → String
  | .segments ("" :: _ :: _) => "/."
  | _ => ""

/-- The authority of an address with the strokes before it, or what stands in its place. -/
def authorityText (u : Url) : String :=
  match u.authority with
  | some a => "//" ++ a.text
  | none => pathGuard u.path

/-- A part behind its mark, if there is one. -/
def markedText (mark : String) : Option String → String
  | some s => mark ++ s
  | none => ""

/-- An address in its canonical form. -/
def text (u : Url) : String :=
  u.scheme ++ ":" ++ u.authorityText ++ u.path.text ++ markedText "?" u.query ++
    markedText "#" u.fragment

/-- The host of an address, if it has one that is not empty. -/
def host? (u : Url) : Option String :=
  match u.authority with
  | some a => if a.host = .name "" then none else some a.host.text
  | none => none

/-- The port of an address: the one that it names, else that of its scheme. -/
def port? (u : Url) : Option UInt16 :=
  match u.authority.bind (·.port) with
  | some p => some p
  | none => defaultPort? u.scheme

end Url

end Nodewright
