import LogPipeline.Record
import LogPipeline.Json.Written

/-!
# Lines of output

A record is written as one line: an object with its timestamp and then each field under its name in
the schema, as far as there are both a field and a name. A quoted text holds no line break, so the
one at the end is the only one.
-/

namespace LogPipeline

/-- A record as an object, timestamp first. -/
def Record.json (schema : Schema) (r : Record) : Json :=
  .obj (("timestamp", .int r.timestamp) ::
    (schema.names.zip r.fields).map fun (name, f) => (name, .str f.text))

/-- The line that a record is written as. -/
def Record.line (schema : Schema) (r : Record) : String := (r.json schema).write ++ "\n"

def Record.lineBytes (schema : Schema) (r : Record) : ByteArray := (r.line schema).toUTF8

end LogPipeline
