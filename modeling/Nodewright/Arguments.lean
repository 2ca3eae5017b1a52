import Nodewright.Text.Joined

/-! # Arguments of a command

Small lists of arguments, from which a client's command line is put together. -/

namespace Nodewright.Arguments

/-- The arguments, if the condition holds. -/
def when (holds : Bool) (args : List String) : List String := if holds then args else []

/-- A flag and its value, if there is one. -/
def given (flag : String) (value : Option String) : List String :=
  match value with
  | some v => [flag, v]
  | none => []

/-- A flag and its values with commas between them, if there are any. -/
def listed (flag : String) (values : List String) : List String :=
  if values.isEmpty then [] else [flag, Text.joinWith "," values]

/-- A flag and its value in one argument. -/
def assigned (flag value : String) : String := flag ++ "=" ++ value

/-- A port in decimal digits. -/
def port (p : UInt16) : String := toString p.toNat

end Nodewright.Arguments
