import Nodewright.Url.Basic
import Nodewright.Url.Segments

/-! # Reading addresses

`Url.ofText?` reads an address that stands by itself. Blanks and controls around it do not count,
and neither do tabs and line ends within it. What is read is put into canonical form: the scheme
and the host without case, the path without dotted segments, a default port left out, and every
character encoded that its part cannot hold. -/

namespace Nodewright.Url

/-- An address without the blanks and controls around it. -/
def trim (cs : List Char) : List Char :=
  let outer (c : Char) : Bool := c.toNat ≤ 0x20
  ((cs.dropWhile outer).reverse.dropWhile outer).reverse

/-- Whether a character may stand in a scheme behind its first letter. -/
def isSchemeChar (c : Char) : Bool := isLetter c || c.isDigit || c = '+' || c = '-' || c = '.'

/-- A text before the first occurrence of a character, and behind it if there is one. -/
def splitAtFirst (mark : Char) (cs : List Char) : List Char × Option (List Char) :=
  match cs.dropWhile (· ≠ mark) with
  | _ :: rest => (cs.takeWhile (· ≠ mark), some rest)
  | [] => (cs, none)

/-- A text before the last occurrence of a character, if there is one, and behind it. -/
def splitAtLast (mark : Char) (cs : List Char) : Option (List Char) × List Char :=
  let (behind, before) := splitAtFirst mark cs.reverse
  (before.map List.reverse, behind.reverse)

/-- The scheme of an address without case, and what stands behind its colon. -/
def scheme? (cs : List Char) : Option (String × List Char) :=
  match splitAtFirst ':' cs with
  | (name, some rest) =>
    let name := compact name
    if name.head?.any isLetter && name.all isSchemeChar then
      some (String.ofList (name.map Char.toLower), rest)
    else none
  | (_, none) => none

/-- The segments of a path that is no file's. A special address always has one. -/
def segmentsOf (special : Bool) (cs : List Char) : List (List Char) :=
  match cs with
  | [] => if special then [[]] else []
  | c :: rest => (Trail.ofText special false (if isStroke special c then rest else cs)).done.reverse

/-- The path of the segments. -/
def Path.ofSegments (parts : List (List Char)) : Path := .segments (parts.map String.ofList)

/-- The path of a file: empty segments in front of others do not count. -/
def Path.ofFile (parts : List (List Char)) : Path :=
  match parts.dropWhile List.isEmpty with
  | [] => .ofSegments [[]]
  | parts => .ofSegments parts

/-- The host of an authority, up to the colon before its port; a colon in brackets does not
    count. -/
def hostText (inBrackets : Bool) : List Char → List Char
  | [] => []
  | c :: rest =>
    if c = ':' && !inBrackets then []
    else c :: hostText (c = '[' || (inBrackets && c ≠ ']')) rest

/-- The port behind a host, if one is named that is not the default of the scheme, and what follows
    it. Only a backstroke that divides nothing else can follow a port. -/
def portOf? (scheme : String) (cs : List Char) : Option (Option UInt16 × List Char) :=
  match cs with
  | ':' :: cs =>
    let digits := cs.takeWhile Char.isDigit
    let rest := cs.dropWhile Char.isDigit
    if rest.head?.any (· ≠ '\\') then none
    else if digits.isEmpty then some (none, rest)
    else
      match number? 10 digits with
      | some n =>
        if n < Nat.pow 2 16 then
          let port := UInt16.ofNat n
          some (if defaultPort? scheme = some port then none else some port, rest)
        else none
      | none => none
  | _ => some (none, [])

/-- The name and the password of a user. -/
def userOf (cs : List Char) : String × String :=
  let (name, password) := splitAtFirst ':' cs
  (String.ofList (percentEncode .userinfo name),
    String.ofList (percentEncode .userinfo (password.getD [])))

/-- Reads an authority, and gives it with what follows its port. A special address needs a host, and
    so does one with a user or a port. The flag says that nothing follows the authority. -/
def authorityOf? (scheme : String) (isLast : Bool) (cs : List Char) :
    Option (Authority × List Char) := do
  let (user, place) := splitAtLast '@' cs
  if user = some [] && place.isEmpty && !isLast then none
  else
    let (username, password) := userOf (user.getD [])
    let host := hostText false place
    let behind := place.drop host.length
    let host ← if isSpecial scheme then Host.ofDomain? host else Host.ofOpaque? host
    let (port, rest) ← portOf? scheme behind
    if host = .name "" && (username ≠ "" || password ≠ "" || !behind.isEmpty) then none
    else return ({ username, password, host, port }, rest)

/-- The host of a file: none at all if the file is here. -/
def fileHost? (cs : List Char) : Option Host :=
  if cs.isEmpty then some (.name "")
  else
    (Host.ofDomain? cs).map fun host => if host = .name "localhost" then .name "" else host

/-- What stands behind a stroke at the front of a file's address. -/
def behindStroke? (cs : List Char) : Option (List Char) :=
  match cs.dropWhile isIgnored with
  | c :: rest => if isStroke true c then some rest else none
  | [] => none

/-- A file that is here. -/
def fileHere (path : Trail) : Authority × Path :=
  (⟨"", "", .name "", none⟩, .ofFile path.done.reverse)

/-- Where a file is: the host, and the path from the root of that host. A drive in place of the
    host belongs to the path. A path behind no host has an empty segment at its root, and a path
    behind a host that starts at a drive has no host. -/
def fileOf? (cs : List Char) : Option (Authority × Path) :=
  let path := Trail.ofText true true
  match behindStroke? cs with
  | none => some (fileHere (path cs))
  | some rest =>
    match behindStroke? rest with
    | none => some (fileHere (path rest))
    | some place =>
      let host := compact (place.takeWhile fun c => !isStroke true c)
      let rest := place.dropWhile fun c => !isStroke true c
      if isDrive host then some (fileHere (path place))
      else
        (fileHost? host).map fun host =>
          if host = .name "" then fileHere (path rest)
          else
            let path := path (rest.drop 1)
            if path.onDrive then fileHere path
            else (⟨"", "", host, none⟩, .ofFile path.done.reverse)

/-- Reads what stands between the scheme and the query: who answers, and the path. The flag says
    that neither a query nor a fragment follows. -/
def locationOf? (scheme : String) (isLast : Bool) (cs : List Char) :
    Option (Option Authority × Path) :=
  if scheme = "file" then (fileOf? cs).map fun (authority, path) => (some authority, path)
  else
    let special := isSpecial scheme
    let isStroke := isStroke special
    let behind (cs : List Char) : Option (Option Authority × Path) :=
      let path := cs.dropWhile fun c => !isStroke c
      (authorityOf? scheme (isLast && path.isEmpty) (cs.takeWhile fun c => !isStroke c)).map
        fun (authority, rest) => (some authority, .ofSegments (segmentsOf special (rest ++ path)))
    let cs := compact cs
    if special then behind (cs.dropWhile isStroke)
    else
      match cs with
      | '/' :: '/' :: cs => behind cs
      | '/' :: _ => some (none, .ofSegments (segmentsOf false cs))
      | cs => some (none, .plain (String.ofList (percentEncode .control cs)))

/-- The address that a text is, if it is one. -/
def ofText? (s : String) : Option Url := do
  let (scheme, rest) ← scheme? (trim s.toList)
  let (rest, fragment) := splitAtFirst '#' rest
  let (rest, query) := splitAtFirst '?' rest
  let (authority, path) ← locationOf? scheme (query.isNone && fragment.isNone) rest
  let reserved := if isSpecial scheme then Reserved.specialQuery else Reserved.query
  return {
    scheme, authority, path
    query := query.map fun q => String.ofList (percentEncode reserved (compact q))
    fragment := fragment.map fun f => String.ofList (percentEncode .fragment (compact f)) }

end Nodewright.Url
