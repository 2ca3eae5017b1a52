import Nodewright.Admission
import Nodewright.Json.Printer

/-! # The command line

Three commands read a manifest from a file: `default` prints it filled, `validate` says what is
wrong with it, by itself or in the place of an older one, and `compile` prints its workloads. Images
come from the environment, and from a configuration file in their place.

* `Command.ofArguments?`   the command of the arguments
* `Command.run`   what a command does, given what it finds in files and in its environment -/

namespace Nodewright

/-- What a command finds under the name of a file. -/
inductive FileContent where
  | absent
  /-- A directory of that name. -/
  | directory
  /-- Bytes that are no text. -/
  | notText
  | text (s : String)
deriving DecidableEq

/-- What a command finds around it. -/
structure Surroundings where
  file : String → FileContent
  environment : String → Option String

/-- What a command leaves behind: its exit code and what it printed. What a command that cannot be
    understood says about it is not fixed. -/
structure Outcome where
  exitCode : UInt32
  output : String
  errors : Option String
deriving DecidableEq

/-- What to do. -/
inductive Command where
  | fill (manifest : String) (config : Option String)
  | validate (manifest : String) (old : Option String) (config : Option String)
  | compile (manifest : String) (config : Option String)
deriving DecidableEq

/-- Why a command fails. -/
inductive CommandError where
  /-- A file that cannot be read. -/
  | unreadable (what file : String) (content : FileContent)
  /-- A file whose text is not what it should be. -/
  | unparsable (what file : String) (cause : TextError)
  | invalid (r : Rejection)
deriving DecidableEq

namespace CommandError

/-- A text whose further lines are indented like its first one. -/
def indented (s : String) : String :=
  String.join (s.toList.map fun c => if c = '\n' then "\n    " else c.toString)

/-- What failed, and why. -/
def withCause (what cause : String) : String :=
  "Error: " ++ what ++ "\n\nCaused by:\n    " ++ indented cause ++ "\n"

/-- Why a file cannot be read. -/
def reason : FileContent → String
  | .absent => "No such file or directory (os error 2)"
  | .directory => "Is a directory (os error 21)"
  | _ => "stream did not contain valid UTF-8"

/-- The wording of an error. -/
def message : CommandError → String
  | unreadable what file content => withCause ("read " ++ what ++ " " ++ file) (reason content)
  | unparsable what file cause => withCause ("parse " ++ what ++ " " ++ file) cause.message
  | invalid r => "Error: " ++ r.message ++ "\n"

end CommandError

namespace Outcome

/-- A command that cannot be understood. -/
def misused : Outcome := ⟨2, "", none⟩

/-- A command that did what it was to do. -/
def success (output : String) : Outcome := ⟨0, output, some ""⟩

/-- A command that failed. -/
def failure (output errors : String) : Outcome := ⟨1, output, some errors⟩

end Outcome

namespace Command

/-- The options of a command with their values. -/
abbrev Options := List (String × String)

/-- Whether an argument may be the value of the option before it. -/
def isValue (arg : String) : Bool := arg = "-" || !(arg.toList.head? = some '-')

/-- The option that an argument names, and the value that it gives at once. -/
def splitOption? (arg : String) : Option (String × Option String) :=
  match arg.toList with
  | '-' :: '-' :: rest =>
    let name := String.ofList (rest.takeWhile (· ≠ '='))
    match rest.dropWhile (· ≠ '=') with
    | _ :: value => some (name, some (String.ofList value))
    | [] => some (name, none)
  | _ => none

/-- Adds an option that is known and has not been given yet. -/
def addOption? (known : List String) (options : Options) (name value : String) : Option Options :=
  if known.contains name && !(options.any fun o => o.1 == name) then
    some ((name, value) :: options)
  else none

/-- The options of the arguments, if each of them is known, has a value, and is given once. -/
def options? (known : List String) : Options → List String → Option Options
  | options, [] => some options
  | options, ["--"] => some options
  | options, [arg] =>
    match splitOption? arg with
    | some (name, some value) => addOption? known options name value
    | _ => none
  | options, arg :: next :: rest =>
    match splitOption? arg with
    | some (name, some value) =>
      match addOption? known options name value with
      | some options => options? known options (next :: rest)
      | none => none
    | some (name, none) =>
      if isValue next then
        match addOption? known options name next with
        | some options => options? known options rest
        | none => none
      else none
    | none => none

/-- The command of the arguments, if they are one. -/
def ofArguments? : List String → Option Command
  | "default" :: args => do
    let options ← options? ["manifest", "config"] [] args
    return fill (← lookupEntry "manifest" options) (lookupEntry "config" options)
  | "validate" :: args => do
    let options ← options? ["manifest", "old", "config"] [] args
    return validate (← lookupEntry "manifest" options) (lookupEntry "old" options)
      (lookupEntry "config" options)
  | "compile" :: args => do
    let options ← options? ["manifest", "config"] [] args
    return compile (← lookupEntry "manifest" options) (lookupEntry "config" options)
  | _ => none

/-- Reads a file and what its text says. -/
def load {α : Type} (s : Surroundings) (what file : String)
    (ofText : String → Except TextError α) : Except CommandError α :=
  match s.file file with
  | .text text =>
    match ofText text with
    | .ok a => .ok a
    | .error e => .error (.unparsable what file e)
  | content => .error (.unreadable what file content)

/-- Reads a manifest. -/
def loadManifest (s : Surroundings) (file : String) : Except CommandError Manifest :=
  load s "manifest" file Manifest.ofText

/-- The images of the environment, with those of a configuration file over them. -/
def loadImages (s : Surroundings) (config : Option String) :
    Except CommandError Image.Overrides :=
  let images := Image.Overrides.ofEnvironment Image.keys s.environment
  match config with
  | some file => (load s "config file" file Image.Overrides.ofText).map images.merge
  | none => .ok images

/-- Reads the images and then a manifest. -/
def loadInputs (s : Surroundings) (manifest : String) (config : Option String) :
    Except CommandError (Image.Overrides × Manifest) := do
  let images ← loadImages s config
  let m ← loadManifest s manifest
  return (images, m)

/-- Reads the manifest whose place another one takes, and fills it. -/
def loadOld (s : Surroundings) (images : Image.Overrides) (old : Option String) :
    Except CommandError (Option Manifest) :=
  match old with
  | some file => (loadManifest s file).map fun m => some (m.fill images)
  | none => .ok none

/-- A text and the end of its line. -/
def line (s : String) : String := s ++ "\n"

/-- What is said of a manifest with the given report. -/
def verdict (m : Manifest) (report : Report) : Outcome :=
  let what := m.kind.name ++ " " ++ Text.quoted m.name
  if report.isEmpty then .success (line (what ++ " is valid"))
  else
    .failure (String.join (report.map fun v => line v.text))
      (line ("Error: " ++ what ++ " has " ++ toString report.length ++ " violation(s)"))

/-- What a command does, or why it fails. -/
def outcome (s : Surroundings) : Command → Except CommandError Outcome
  | fill manifest config => do
    let (images, m) ← loadInputs s manifest config
    return .success (line (m.fill images).toJson.indented)
  | validate manifest old config => do
    let (images, m) ← loadInputs s manifest config
    let old ← loadOld s images old
    return verdict m ((m.fill images).problemsAfter old)
  | compile manifest config => do
    let (images, m) ← loadInputs s manifest config
    match m.admission images none with
    | .ok a => return .success (line (Json.array (a.workloads.map Workload.toJson)).indented)
    | .error r => .error (.invalid r)

/-- What a command leaves behind. -/
def run (s : Surroundings) (c : Command) : Outcome :=
  match c.outcome s with
  | .ok o => o
  | .error e => .failure "" e.message

end Command

/-- What the program leaves behind with the given arguments. -/
def Outcome.ofArguments (s : Surroundings) (args : List String) : Outcome :=
  match Command.ofArguments? args with
  | some c => c.run s
  | none => .misused

end Nodewright
