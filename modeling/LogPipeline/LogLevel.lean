import LogPipeline.Failure
import LogPipeline.Unicode.Case

/-!
# Log levels

How much the agent reports about itself. White space around a level and its case do not count.
-/

namespace LogPipeline

inductive LogLevel where
  | trace
  | debug
  | info
  | warn
  | error
deriving DecidableEq, Repr

namespace LogLevel

/-- The level with a name in lower case. -/
def named? : String → Option LogLevel
  | "trace" => some trace
  | "debug" => some debug
  | "info" => some info
  | "warn" => some warn
  | "error" => some error
  | _ => none

/-- Reads a level. A refused one is reported in the form in which it was looked up. -/
def read (text : String) : Except SettingsError LogLevel :=
  let name := Unicode.toLower (Unicode.trim text)
  match named? name with
  | some level => .ok level
  | none => .error (.logLevel name)

/-- Reads a level for an agent that already reports; whether the level took effect is the answer. -/
def install (installed : Bool) (text : String) : Except SettingsError Bool := do
  let _ ← read text
  return !installed

end LogLevel

end LogPipeline
