import Nodewright.Codec.Error
import Nodewright.Json.Reader

/-! # Why a text was not read

A text is either no JSON, which is always reported with its place, or a value that is refused; the
place of that is known only if the value was refused while the text was being read. -/

namespace Nodewright

/-- Why a text was not read. -/
inductive TextError where
  | malformed (problem : Json.Problem) (place : Json.Position)
  | refused (error : DecodeError) (place : Option Json.Position)
deriving DecidableEq, Repr

namespace TextError

/-- The wording of an error, with its place if that is known. -/
def message : TextError → String
  | malformed problem place => problem.message ++ place.suffix
  | refused error (some place) => error.message ++ place.suffix
  | refused error none => error.message

/-- The error of a failure in the given text. -/
def ofFailure (text : List Char) (f : Json.Failure DecodeError) : TextError :=
  match f.cause with
  | .problem p => malformed p (f.position text)
  | .refused e => refused e (some (f.position text))

/-- Nothing but blanks may stand behind a value. -/
def checkEnd (text rest : List Char) : Except TextError Unit :=
  match Json.skipBlanks rest with
  | [] => .ok ()
  | _ :: rest => .error (malformed .trailingText (.after (text.take (text.length - rest.length))))

end TextError

end Nodewright
