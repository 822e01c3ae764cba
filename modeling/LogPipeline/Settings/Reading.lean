import LogPipeline.Json.Reading
import LogPipeline.Settings
import LogPipeline.Rule.Settings

/-!
# Settings written in JSON

A structure of settings is an object, whose fields may come in any order and may be missing, or an
array of its fields in order. The routing is an object with a `kind`, or an array that begins with
it; the kind may stand anywhere in the object, so its other entries are read as plain values first.
-/

namespace LogPipeline

open Json

/-- A field that may be missing. -/
def Json.given {σ : Type} (name : String) (r : σ → Reader σ) : FieldReader σ := ⟨name, false, r⟩

/-- A field that must be there. -/
def Json.needed {σ : Type} (name : String) (r : σ → Reader σ) : FieldReader σ := ⟨name, true, r⟩

/-- Reads a value and puts it into what was read so far. -/
def Json.into {σ α : Type} (r : Reader α) (put : σ → α → σ) : σ → Reader σ := fun s ts => do
  let (a, ts) ← r ts
  return (put s a, ts)

namespace Settings

def bufferLimits : Reader BufferLimits :=
  fieldwise "BufferLimits"
    [given "max_records" (into (count "usize") fun s n => { s with maxRecords := n }),
     given "max_bytes" (into (count "usize") fun s n => { s with maxBytes := n }),
     given "flush_interval_ms" (into (count "u64") fun s n => { s with flushInterval := n })]
    {}

def runLimits : Reader RunLimits :=
  fieldwise "DistributorConfig"
    [given "max_records" (into (count "usize") fun s n => { s with maxRecords := n }),
     given "max_bytes" (into (count "usize") fun s n => { s with maxBytes := n }),
     given "flush_interval_ms" (into (count "u64") fun s n => { s with flushInterval := n })]
    {}

def processing : Reader ProcessingSettings :=
  fieldwise "ProcessingConfig"
    [given "chunk_max_bytes" (into (count "usize") fun s n => { s with chunkMaxBytes := n }),
     given "chunk_flush_interval_ms"
       (into (count "u64") fun s n => { s with chunkFlushInterval := n }),
     given "max_pending_chunks" (into (count "usize") fun s n => { s with maxPendingChunks := n }),
     given "compress" (into flag fun s b => { s with compress := b }),
     given "compression_level"
       (into (whole (-2147483648) 2147483647 "i32") fun s n => { s with compressionLevel := n })]
    {}

def routingKinds : List String := ["singleton", "by_key_set"]

def routingKind : Reader String := fun ts => do
  let (kind, rest) ← text "variant identifier" ts
  if routingKinds.contains kind then return (kind, rest)
  else .error (.unknownVariant kind routingKinds)

/-- The entries of a routing object: its kind, and the others as plain values. -/
def routingEntries (depth : Nat) (first : Bool) (kind : Option String)
    (others : List (String × Json)) : Nat → Reader (Option String × List (String × Json))
  | 0, _ => .error .malformed
  | fuel + 1, ts => do
    let (key, ts) ← nextKey first ts
    match key with
    | none => return ((kind, others.reverse), ts)
    | some "kind" =>
      if kind.isSome then .error (.duplicateField "kind")
      else
        let ((), ts) ← expect Token.isColon ts
        let (k, ts) ← routingKind ts
        routingEntries depth false (some k) others fuel ts
    | some key =>
      let ((), ts) ← expect Token.isColon ts
      let (v, ts) ← valueAt (depth + 1) ts
      routingEntries depth false kind ((key, v) :: others) fuel ts

/-- The fields of a routing by key set, as they are read: nothing for a field not read yet. -/
abbrev KeySetDraft := Option (List String) × Option String

/-- The fields of a routing by key set. -/
def keySetFields : List (FieldReader KeySetDraft) :=
  [needed "key_fields" (into (list (text "a string")) fun d fs => (some fs, d.2)),
   given "tag_template" (into (optional (text "a string")) fun d t => (d.1, t))]

/-- A routing by key set from entries of an object. -/
def keySetNamed (others : List (String × Json)) : Except ReadError Routing := do
  let ts := (Json.obj others).toTokens.drop 1
  let ((d, seen), _) ← namedFields keySetFields true [] (ts.length + 1) (none, none) ts
  match missing? keySetFields seen with
  | some name => .error (.missingField name)
  | none => return .byKeySet (d.1.getD []) d.2

/-- How many elements there are, in words. -/
def elements (n : Nat) : String := toString n ++ (if n = 1 then " element" else " elements")

/-- A routing by key set from the items of an array behind the kind. -/
def keySetPlaced (items : List Json) : Except ReadError Routing := do
  let ts := (Json.arr (items.take 2)).toTokens.drop 1
  let (d, _) ← placedFields "struct variant OrchestratorKind::ByKeySet with 2 elements" true 0
    keySetFields (none, none) ts
  if 2 < items.length then .error (.wrongLength items.length (elements 2 ++ " in sequence"))
  else return .byKeySet (d.1.getD []) d.2

/-- The routing, at a place that lies `depth` containers deep. -/
def routing (depth : Nat) : Reader Routing
  | .openBrace :: rest => do
    let ((kind, others), rest) ← routingEntries depth true none [] (rest.length + 1) rest
    match kind with
    | none => .error (.missingField "kind")
    | some "singleton" => return (.singleton, rest)
    | some _ => do
      let r ← keySetNamed others
      return (r, rest)
  | .openBracket :: rest => do
    let (more, ts) ← another true rest
    if more then
      let (kind, ts) ← routingKind ts
      let (items, ts) ← items (.strict (maxDepth - depth - 1)) false (2 * ts.length + 1) ts
      if kind = "singleton" then
        if items.isEmpty then return (.singleton, ts)
        else .error (.wrongLength items.length (elements 0 ++ " in sequence"))
      else
        let r ← keySetPlaced items
        return (r, ts)
    else .error (.missingField "kind")
  | ts => refuse "internally tagged enum OrchestratorKind" ts

def pipeline : Reader PipelineSettings :=
  fieldwise "PipelineConfig"
    [given "workers" (into (count "usize") fun s n => { s with workers := n }),
     given "queue_capacity" (into (count "usize") fun s n => { s with queueCapacity := n }),
     given "send_timeout_ms" (into (count "u64") fun s n => { s with sendTimeout := n }),
     given "tick_interval_ms" (into (count "u64") fun s n => { s with tickInterval := n }),
     given "buffer" (into bufferLimits fun s b => { s with buffer := b }),
     given "distributor" (into runLimits fun s d => { s with distributor := d }),
     given "processing" (into processing fun s p => { s with processing := p }),
     given "orchestrator" (into (routing 1) fun s r => { s with routing := r })]
    {}

def ruleKinds : List String := ["exclude_at_match", "include_at_match", "mask_sequences"]

def ruleKindNamed (name : String) : Except ReadError RuleKind :=
  match name with
  | "exclude_at_match" => .ok .exclude
  | "include_at_match" => .ok .keep
  | "mask_sequences" => .ok .mask
  | _ => .error (.unknownVariant name ruleKinds)

/-- The kind of a rule: its name, or an object with the name as its only key and null under it. -/
def ruleKind : Reader RuleKind
  | .text (some name) :: rest => do
    let k ← ruleKindNamed name
    return (k, rest)
  | .openBrace :: ts => do
    let (name, ts) ← text "variant identifier" ts
    let k ← ruleKindNamed name
    let ((), ts) ← expect Token.isColon ts
    match ts with
    | .null :: ts => do
      let ((), ts) ← expect Token.closesObject ts
      return (k, ts)
    | ts => refuse "unit" ts
  | _ => .error .malformed

def rule : Reader RuleSettings :=
  fieldwise "ProcessingRuleConfig"
    [needed "type" (into ruleKind fun s k => { s with kind := k }),
     needed "name" (into (text "a string") fun s t => { s with name := t }),
     needed "field" (into (text "a string") fun s t => { s with field := t }),
     needed "pattern" (into (text "a string") fun s t => { s with pattern := t }),
     given "replace_placeholder"
       (into (optional (text "a string")) fun s t => { s with placeholder := t })]
    default

def rules : Reader (List RuleSettings) := list rule

end Settings

end LogPipeline
