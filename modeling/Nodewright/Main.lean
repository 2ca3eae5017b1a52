import Nodewright.CommandLine

/-! # The program

Finds out which files the arguments may name, and hands them to the command line with the
environment. -/

namespace Nodewright

/-- What stands under the name of a file. -/
def readContent (file : String) : IO FileContent := do
  try
    let bytes ← IO.FS.readBinFile file
    match String.fromUTF8? bytes with
    | some text => return .text text
    | none => return .notText
  catch e =>
    match e with
    | .inappropriateType .. => return .directory
    | _ => return .absent

/-- The files that arguments may name. -/
def namedFiles (args : List String) : List String :=
  args ++ args.filterMap fun arg => (Command.splitOption? arg).bind (·.2)

/-- What is said to whoever gives other arguments. -/
def usage : String :=
  "usage: nodewright (default | validate [--old FILE] | compile) --manifest FILE [--config FILE]"

end Nodewright

open Nodewright in
/-- Runs the command of the arguments. -/
def main (args : List String) : IO UInt32 := do
  let files ← (namedFiles args).mapM fun file => return (file, ← readContent file)
  let values ← Image.keys.mapM fun key => return (key, ← IO.getEnv key)
  let surroundings : Surroundings := {
    file := fun name => (lookupEntry name files).getD .absent
    environment := fun name => (lookupEntry name values).join }
  let outcome := Outcome.ofArguments surroundings args
  IO.print outcome.output
  match outcome.errors with
  | some errors => IO.eprint errors
  | none => IO.eprintln usage
  return outcome.exitCode
