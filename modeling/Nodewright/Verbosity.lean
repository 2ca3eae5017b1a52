import Nodewright.Named

/-! # Levels of logging

The levels that some client knows; which of them a client accepts is part of its capabilities. -/

namespace Nodewright

/-- How much a client writes to its log. -/
inductive Verbosity where
  | off
  | none
  | fatal
  | panic
  | crit
  | error
  | warn
  | notice
  | info
  | debug
  | trace
  | all
deriving DecidableEq, Repr

namespace Verbosity

/-- The name of a level. -/
def name : Verbosity → String
  | off => "off"
  | none => "none"
  | fatal => "fatal"
  | panic => "panic"
  | crit => "crit"
  | error => "error"
  | warn => "warn"
  | notice => "notice"
  | info => "info"
  | debug => "debug"
  | trace => "trace"
  | all => "all"

/-- The name of a level in capital letters. -/
def upperName : Verbosity → String
  | off => "OFF"
  | none => "NONE"
  | fatal => "FATAL"
  | panic => "PANIC"
  | crit => "CRIT"
  | error => "ERROR"
  | warn => "WARN"
  | notice => "NOTICE"
  | info => "INFO"
  | debug => "DEBUG"
  | trace => "TRACE"
  | all => "ALL"

instance : Named Verbosity where
  all := [off, none, fatal, panic, crit, error, warn, notice, info, debug, trace, all]
  name := name
  mem_all a := by cases a <;> simp
  name_injective a b := by cases a <;> cases b <;> simp [name]

end Verbosity

end Nodewright
