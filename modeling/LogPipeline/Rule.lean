import LogPipeline.Record
import LogPipeline.Failure
import LogPipeline.Rule.Settings
import LogPipeline.Pattern.Replacement

/-!
# Rules

A rule is bound to one field of a schema. Rules are applied in order, and the first one that drops a
record ends the chain. What mask rules before it have written stays in the record.
-/

namespace LogPipeline

/-- A rule ready for use. -/
structure Rule where
  kind : RuleKind
  name : String
  field : Nat
  regex : Pattern.Regex
  placeholder : String
deriving Inhabited

/-- What a chain of rules decided on a record. -/
inductive Verdict where
  | pass
  | drop
deriving DecidableEq, Repr, Inhabited

namespace Rule

/-- Binds a rule to its field and reads its pattern. An unknown field is reported before a malformed
pattern. -/
def compile (schema : Schema) (s : RuleSettings) : Except SettingsError Rule :=
  match schema.locate s.field with
  | none => .error (.unknownField s.field)
  | some field =>
    match Pattern.Regex.ofString? s.pattern with
    | none => .error (.pattern s.pattern)
    | some regex => .ok ⟨s.kind, s.name, field, regex, s.placeholder.getD ""⟩

def compileAll (schema : Schema) (ss : List RuleSettings) : Except SettingsError (List Rule) :=
  ss.mapM (compile schema)

def drops (rule : Rule) (r : Record) : Bool :=
  match rule.kind with
  | .exclude => rule.regex.isMatch (r.field rule.field)
  | .keep => !rule.regex.isMatch (r.field rule.field)
  | .mask => false

/-- The record with the matches of a mask rule replaced. Nothing is written if there is no match. -/
def masked (rule : Rule) (r : Record) : Record :=
  match rule.kind with
  | .mask =>
    match rule.regex.replaceAll? rule.placeholder (r.field rule.field) with
    | some s => r.setField rule.field s
    | none => r
  | _ => r

/-- Applies a chain of rules. -/
def applyAll : List Rule → Record → Verdict × Record
  | [], r => (.pass, r)
  | rule :: rest, r => if rule.drops r then (.drop, r) else applyAll rest (rule.masked r)

end Rule

end LogPipeline
