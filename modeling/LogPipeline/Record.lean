import LogPipeline.Total

/-!
# Records, batches and schemas

A record is one parsed log entry: a timestamp, one field per name of the schema, and the length of
the input it was parsed from. A field carries, beside its text, the room its storage has, since a
pooled record is filed by the room it brings back.
-/

namespace LogPipeline

/-- A point in time, in milliseconds since the clock was started. -/
abbrev Instant := Nat

/-- The text of one field and the bytes its storage can hold without growing. -/
structure Field where
  text : String
  room : Nat
deriving DecidableEq, Repr, Inhabited

namespace Field

/-- A field stored in exactly the bytes its text needs. -/
def ofString (s : String) : Field := ⟨s, s.utf8ByteSize⟩

def blank (room : Nat) : Field := ⟨"", room⟩

/-- Emptying a field keeps its storage. -/
def clear (f : Field) : Field := { f with text := "" }

/-- The room after `n` bytes were written over a storage of `room` bytes: it at least doubles when
it has to grow, and never grows to less than eight bytes. -/
def grown (room n : Nat) : Nat :=
  if n ≤ room then room else max (2 * room) (max n 8)

/-- Replaces the text, growing the storage only if it is too small. -/
def write (f : Field) (s : String) : Field := ⟨s, grown f.room s.utf8ByteSize⟩

@[simp] theorem ofString_text (s : String) : (ofString s).text = s := rfl

@[simp] theorem blank_text (room : Nat) : (blank room).text = "" := rfl

@[simp] theorem clear_text (f : Field) : f.clear.text = "" := rfl

@[simp] theorem clear_room (f : Field) : f.clear.room = f.room := rfl

@[simp] theorem write_text (f : Field) (s : String) : (f.write s).text = s := rfl

theorem le_grown (room n : Nat) : n ≤ grown room n := by
  unfold grown
  split <;> omega

end Field

/-- One parsed log entry. `size` is the length of the raw input it was parsed from. -/
structure Record where
  timestamp : Int := 0
  fields : List Field := []
  size : Nat := 0
deriving DecidableEq, Repr, Inhabited

namespace Record

/-- The text of field `i`, empty where the record has no such field. -/
def field (r : Record) (i : Nat) : String :=
  (r.fields[i]?.map Field.text).getD ""

/-- Writes field `i`; a record without such a field stays as it is. -/
def setField (r : Record) (i : Nat) (s : String) : Record :=
  { r with fields := r.fields.modify i (·.write s) }

def texts (r : Record) : List String := r.fields.map Field.text

def room (r : Record) : Nat := total Field.room r.fields

/-- The record with every field emptied and its storage kept. -/
def clear (r : Record) : Record := { r with fields := r.fields.map Field.clear }

@[simp] theorem setField_timestamp (r : Record) (i : Nat) (s : String) :
    (r.setField i s).timestamp = r.timestamp := rfl

@[simp] theorem setField_size (r : Record) (i : Nat) (s : String) :
    (r.setField i s).size = r.size := rfl

@[simp] theorem length_setField (r : Record) (i : Nat) (s : String) :
    (r.setField i s).fields.length = r.fields.length := by
  simp [setField]

@[simp] theorem clear_room (r : Record) : r.clear.room = r.room := by
  simp [clear, room]

end Record

/-- Records in order, owned by whoever holds them. -/
abbrev Batch := List Record

/-- The byte measure of every threshold: the sum of the sizes. -/
def Batch.bytes (b : Batch) : Nat := total Record.size b

@[simp] theorem Batch.bytes_nil : Batch.bytes [] = 0 := rfl

@[simp] theorem Batch.bytes_cons (r : Record) (b : Batch) :
    Batch.bytes (r :: b) = r.size + Batch.bytes b := by
  simp [Batch.bytes]

/-- A batch on its way to one of several workers. `run` names the run it belongs to, whose output
may leave only after every earlier run has completed; `isLast` marks the end of that run. -/
structure OrderedBatch where
  records : Batch
  run : Option Nat
  isLast : Bool
deriving DecidableEq, Repr, Inhabited

/-- A batch that is under no ordering constraint. -/
def OrderedBatch.unordered (records : Batch) : OrderedBatch := ⟨records, none, false⟩

/-- The names of the fields of all records of one agent, in order. -/
structure Schema where
  names : List String
deriving DecidableEq, Repr, Inhabited

namespace Schema

def arity (s : Schema) : Nat := s.names.length

/-- The first position of a name. -/
def locate (s : Schema) (name : String) : Option Nat := s.names.idxOf? name

def name (s : Schema) (i : Nat) : Option String := s.names[i]?

end Schema

end LogPipeline
