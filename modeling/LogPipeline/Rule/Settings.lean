/-!
# Rules as they are written in settings
-/

namespace LogPipeline

/-- What a rule does to a record: drop it if its pattern matches, drop it if its pattern does not
match, or replace every match. -/
inductive RuleKind where
  | exclude
  | keep
  | mask
deriving DecidableEq, Repr, Inhabited

/-- The name of a kind of rule in settings and reports. -/
def RuleKind.name : RuleKind → String
  | exclude => "exclude_at_match"
  | keep => "include_at_match"
  | mask => "mask_sequences"

/-- A rule as it is written in settings: a pattern to be matched against one field, and for a mask
what stands in place of a match. -/
structure RuleSettings where
  kind : RuleKind
  name : String
  field : String
  pattern : String
  placeholder : Option String := none
deriving DecidableEq, Repr, Inhabited

end LogPipeline
