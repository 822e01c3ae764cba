import LogPipeline.Json.Token
import LogPipeline.Json.Decimal
import LogPipeline.Text.Shown

/-!
# Reading values out of JSON

A reader takes tokens from the front and returns what they say, or the first thing that is wrong
with them in the order of the text. `document` runs a reader on a whole text. Containers that are
read as plain values may be nested to a depth of 127; what is skipped may be nested to any depth.
-/

namespace LogPipeline.Json

/-- What stands where something else was expected. -/
inductive Found where
  | null
  | bool (b : Bool)
  | int (n : Int)
  | float (x : Float)
  | str (s : String)
  | sequence
  | map
deriving Inhabited, Repr

/-- Why a text cannot be read. -/
inductive ReadError where
  | malformed
  | wrongType (found : Found) (wanted : String)
  | wrongValue (found : Found) (wanted : String)
  | wrongLength (n : Nat) (wanted : String)
  | missingField (name : String)
  | duplicateField (name : String)
  | unknownVariant (name : String) (known : List String)
deriving Inhabited, Repr

def Found.message : Found → String
  | null => "null"
  | bool b => "boolean `" ++ toString b ++ "`"
  | int n => "integer `" ++ toString n ++ "`"
  | float x => "floating point `" ++ floatText x ++ "`"
  | str s => "string " ++ Text.shown s
  | sequence => "sequence"
  | map => "map"

/-- Names between backticks, two joined by "or", more of them introduced by "one of". -/
def oneOf : List String → String
  | [] => "there are no variants"
  | [a] => "`" ++ a ++ "`"
  | [a, b] => "`" ++ a ++ "` or `" ++ b ++ "`"
  | names => "one of " ++ String.intercalate ", " (names.map fun n => "`" ++ n ++ "`")

def ReadError.message : ReadError → String
  | malformed => ""
  | wrongType found wanted => "invalid type: " ++ found.message ++ ", expected " ++ wanted
  | wrongValue found wanted => "invalid value: " ++ found.message ++ ", expected " ++ wanted
  | wrongLength n wanted => "invalid length " ++ toString n ++ ", expected " ++ wanted
  | missingField name => "missing field `" ++ name ++ "`"
  | duplicateField name => "duplicate field `" ++ name ++ "`"
  | unknownVariant name known => "unknown variant `" ++ name ++ "`, expected " ++ oneOf known

/-- Takes tokens from the front. -/
abbrev Reader (α : Type) := List Token → Except ReadError (α × List Token)

/-- The error of a token that begins a value of another kind than `wanted`. -/
def wrong (wanted : String) : Token → ReadError
  | .null => .wrongType .null wanted
  | .bool b => .wrongType (.bool b) wanted
  | .number (.whole n) => .wrongType (.int n) wanted
  | .number (.float x) => .wrongType (.float x) wanted
  | .text (some s) => .wrongType (.str s) wanted
  | .openBracket => .wrongType .sequence wanted
  | .openBrace => .wrongType .map wanted
  | _ => .malformed

/-- Fails on the token at the front. -/
def refuse {α : Type} (wanted : String) : Reader α
  | [] => .error .malformed
  | t :: _ => .error (wrong wanted t)

/-- A whole number within bounds. -/
def whole (lo hi : Int) (wanted : String) : Reader Int
  | .number (.whole n) :: rest =>
    if lo ≤ n ∧ n ≤ hi then .ok (n, rest) else .error (.wrongValue (.int n) wanted)
  | ts => refuse wanted ts

def count (wanted : String) : Reader Nat := fun ts => do
  let (n, rest) ← whole 0 Text.maxWord wanted ts
  return (n.toNat, rest)

def flag : Reader Bool
  | .bool b :: rest => .ok (b, rest)
  | ts => refuse "a boolean" ts

def text (wanted : String) : Reader String
  | .text (some s) :: rest => .ok (s, rest)
  | ts => refuse wanted ts

def optional {α : Type} (r : Reader α) : Reader (Option α)
  | .null :: rest => .ok (none, rest)
  | ts => do
    let (a, rest) ← r ts
    return (some a, rest)

/-- What a reader expects next. -/
def expect (p : Token → Bool) : Reader Unit
  | t :: rest => if p t then .ok ((), rest) else .error .malformed
  | [] => .error .malformed

def Token.closesArray : Token → Bool
  | .closeBracket => true
  | _ => false

def Token.closesObject : Token → Bool
  | .closeBrace => true
  | _ => false

/-- The token stands between a key and its value. -/
def Token.isColon : Token → Bool
  | .colon => true
  | _ => false

/-- Whether another item of an array follows: at the first item, anything but the closing bracket;
later a comma that is not followed by the bracket. The closing bracket stays in front. -/
def another (first : Bool) : Reader Bool
  | .closeBracket :: rest => .ok (false, .closeBracket :: rest)
  | .comma :: .closeBracket :: _ => .error .malformed
  | .comma :: rest => if first then .error .malformed else .ok (true, rest)
  | [] => .error .malformed
  | ts => if first then .ok (true, ts) else .error .malformed

/-- The key of the next entry of an object, or `none` at the closing brace, which is taken. -/
def nextKey (first : Bool) : Reader (Option String)
  | .closeBrace :: rest => .ok (none, rest)
  | .comma :: .text (some k) :: rest => if first then .error .malformed else .ok (some k, rest)
  | .text (some k) :: rest => if first then .ok (some k, rest) else .error .malformed
  | _ => .error .malformed

/-- How plain values are read: strictly and to a depth, or only to pass over them. -/
inductive Care where
  | strict (depth : Nat)
  | lenient

/-- The care for what a container holds, if it may be entered. -/
def Care.inside : Care → Option Care
  | strict d => if d ≤ 1 then none else some (.strict (d - 1))
  | lenient => some .lenient

mutual

/-- A plain value. Every call takes a token or ends, so the number of tokens is fuel enough. -/
def value (care : Care) : Nat → Reader Json
  | 0, _ => .error .malformed
  | fuel + 1, ts =>
    match ts with
    | .null :: rest => .ok (.null, rest)
    | .bool b :: rest => .ok (.bool b, rest)
    | .number (.whole n) :: rest => .ok (.int n, rest)
    | .number (.float x) :: rest => .ok (.float x, rest)
    | .text (some s) :: rest => .ok (.str s, rest)
    | .number .tooLarge :: rest =>
      match care with
      | .strict _ => .error .malformed
      | .lenient => .ok (.null, rest)
    | .text none :: rest =>
      match care with
      | .strict _ => .error .malformed
      | .lenient => .ok (.null, rest)
    | .openBracket :: rest =>
      match care.inside with
      | none => .error .malformed
      | some care => do
        let (items, rest) ← items care true fuel rest
        return (.arr items, rest)
    | .openBrace :: rest =>
      match care.inside with
      | none => .error .malformed
      | some care => do
        let (entries, rest) ← entries care true fuel rest
        return (.obj entries, rest)
    | _ => .error .malformed

/-- The items of an array up to its closing bracket, which is taken. -/
def items (care : Care) (first : Bool) : Nat → Reader (List Json)
  | 0, _ => .error .malformed
  | fuel + 1, ts => do
    let (more, ts) ← another first ts
    if more then
      let (v, ts) ← value care fuel ts
      let (vs, ts) ← items care false fuel ts
      return (v :: vs, ts)
    else
      let ((), ts) ← expect Token.closesArray ts
      return ([], ts)

/-- The entries of an object up to its closing brace, which is taken. -/
def entries (care : Care) (first : Bool) : Nat → Reader (List (String × Json))
  | 0, _ => .error .malformed
  | fuel + 1, ts => do
    let ts := match care, ts with
      | .lenient, .comma :: .text none :: rest => .comma :: .text (some "") :: rest
      | .lenient, .text none :: rest => .text (some "") :: rest
      | _, ts => ts
    let (key, ts) ← nextKey first ts
    match key with
    | none => return ([], ts)
    | some k =>
      let ((), ts) ← expect Token.isColon ts
      let (v, ts) ← value care fuel ts
      let (es, ts) ← entries care false fuel ts
      return ((k, v) :: es, ts)

end

/-- The depth to which plain values may be nested. -/
def maxDepth : Nat := 128

/-- A plain value at a place that lies `depth` containers deep. -/
def valueAt (depth : Nat) : Reader Json := fun ts =>
  value (.strict (maxDepth - depth)) (2 * ts.length + 1) ts

def skip : Reader Unit := fun ts => do
  let (_, rest) ← value .lenient (2 * ts.length + 1) ts
  return ((), rest)

/-- The items of an array, each read by `r`, after its opening bracket. -/
def listItems {α : Type} (r : Reader α) (first : Bool) : Nat → Reader (List α)
  | 0, _ => .error .malformed
  | fuel + 1, ts => do
    let (more, ts) ← another first ts
    if more then
      let (a, ts) ← r ts
      let (as, ts) ← listItems r false fuel ts
      return (a :: as, ts)
    else
      let ((), ts) ← expect Token.closesArray ts
      return ([], ts)

/-- An array whose items are all read by `r`. -/
def list {α : Type} (r : Reader α) : Reader (List α)
  | .openBracket :: rest => listItems r true (rest.length + 1) rest
  | ts => refuse "a sequence" ts

/-- One field of a value: its name, whether it has to be given, and how it is read into what has
been read so far. -/
structure FieldReader (σ : Type) where
  name : String
  required : Bool
  read : σ → Reader σ

/-- The fields of an object in the order of the text. Fields of other names are passed over; a name
that comes twice is an error before its value is read. -/
def namedFields {σ : Type} (fields : List (FieldReader σ)) (first : Bool) (seen : List String) :
    Nat → σ → Reader (σ × List String)
  | 0, _, _ => .error .malformed
  | fuel + 1, s, ts => do
    let (key, ts) ← nextKey first ts
    match key with
    | none => return ((s, seen), ts)
    | some k =>
      match fields.find? (·.name == k) with
      | none =>
        let ((), ts) ← expect Token.isColon ts
        let ((), ts) ← skip ts
        namedFields fields false seen fuel s ts
      | some f =>
        if seen.contains k then .error (.duplicateField k)
        else
          let ((), ts) ← expect Token.isColon ts
          let (s, ts) ← f.read s ts
          namedFields fields false (k :: seen) fuel s ts

/-- The fields of an array in the order of the structure. Those that are missing at the end keep
their defaults, or are an error if they have to be given. -/
def placedFields {σ : Type} (wanted : String) (first : Bool) (n : Nat) :
    List (FieldReader σ) → σ → Reader σ
  | [], s, ts => do
    let ((), ts) ← expect Token.closesArray ts
    return (s, ts)
  | f :: fs, s, ts => do
    let (more, ts) ← another first ts
    if more then
      let (s, ts) ← f.read s ts
      placedFields wanted false (n + 1) fs s ts
    else if (f :: fs).any (·.required) then
      .error (.wrongLength (n + ((f :: fs).takeWhile (!·.required)).length) wanted)
    else
      let ((), ts) ← expect Token.closesArray ts
      return (s, ts)

/-- The first field that has to be given and was not. -/
def missing? {σ : Type} (fields : List (FieldReader σ)) (seen : List String) : Option String :=
  (fields.find? fun f => f.required && !seen.contains f.name).map (·.name)

/-- A value with fields, written as an object or as an array of them. `kind` is its name in
messages. -/
def fieldwise {σ : Type} (kind : String) (fields : List (FieldReader σ)) (default : σ) : Reader σ
  | .openBrace :: rest => do
    let ((s, seen), rest) ← namedFields fields true [] (rest.length + 1) default rest
    match missing? fields seen with
    | some name => .error (.missingField name)
    | none => return (s, rest)
  | .openBracket :: rest =>
    let wanted := "struct " ++ kind ++
      (if fields.any (·.required) then " with " ++ toString fields.length ++ " elements" else "")
    placedFields wanted true 0 fields default rest
  | ts => refuse ("struct " ++ kind) ts

/-- Reads a whole text. -/
def document {α : Type} (r : Reader α) (ts : List Token) : Except ReadError α := do
  let (a, rest) ← r ts
  match rest with
  | [] => return a
  | _ => .error .malformed

/-- The value that a text writes, nested to any depth. -/
def parse (s : String) : Except ReadError Json :=
  let ts := tokens s
  document (value (.strict (ts.length + 2)) (2 * ts.length + 1)) ts

end LogPipeline.Json
