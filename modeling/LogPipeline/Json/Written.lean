import LogPipeline.Json.Decimal
import LogPipeline.Json.Quoted
import LogPipeline.Json.Value

/-!
# Writing JSON values

A value is written without white space, entries in their order.
-/

namespace LogPipeline.Json

mutual

/-- A value as text. -/
def write : Json → String
  | null => "null"
  | bool true => "true"
  | bool false => "false"
  | int n => toString n
  | float x => floatText x
  | str s => quote s
  | arr items => "[" ++ String.intercalate "," (writeItems items) ++ "]"
  | obj entries => "\x7b" ++ String.intercalate "," (writeEntries entries) ++ "\x7d"

def writeItems : List Json → List String
  | [] => []
  | v :: rest => v.write :: writeItems rest

def writeEntries : List (String × Json) → List String
  | [] => []
  | (key, v) :: rest => (quote key ++ ":" ++ v.write) :: writeEntries rest

end

end LogPipeline.Json
