/-!
# What can go wrong before a pipeline is live

Every cause is a constructor; its wording is in one function.
-/

namespace LogPipeline

/-- What is wrong with a tag template. -/
inductive TemplateFault where
  | nested
  | unclosed
  | unknown (name : String)
  | unmatched
deriving DecidableEq, Repr, Inhabited

def TemplateFault.message : TemplateFault → String
  | nested => "nested '\x7b'"
  | unclosed => "unclosed '\x7b'"
  | unknown name => "'" ++ name ++ "' is not a key field"
  | unmatched => "unmatched '\x7d'"

inductive SettingsError where
  | zero (field : String)
  | unknownField (name : String)
  | duplicateField (name : String)
  | emptyKeySet
  | tagTemplate (template : String) (fault : TemplateFault)
  | pattern (pattern : String)
  | logLevel (level : String)
deriving DecidableEq, Repr, Inhabited

/-- The refusal in words. A pattern is named as it was written. -/
def SettingsError.message : SettingsError → String
  | zero field => field ++ " must be greater than 0"
  | unknownField name => "unknown key field '" ++ name ++ "'"
  | duplicateField name => "key field '" ++ name ++ "' listed more than once"
  | emptyKeySet => "key set must name at least one field"
  | tagTemplate template fault =>
    "malformed tag template '" ++ template ++ "': " ++ fault.message
  | pattern p => "invalid pattern '" ++ p ++ "'"
  | logLevel level => "invalid log level '" ++ level ++ "'"

/-- Why something could not be created. -/
inductive CreationError where
  | settings (e : SettingsError)
  | mapDestroyed (key : String)
deriving DecidableEq, Repr, Inhabited

def CreationError.message : CreationError → String
  | settings e => "invalid configuration: " ++ e.message
  | mapDestroyed key => "key map already destroyed, refusing to create '" ++ key ++ "'"

inductive OutputError where
  | destinationClosed
deriving DecidableEq, Repr, Inhabited

def OutputError.message : OutputError → String
  | destinationClosed => "output failed to start: destination queue is closed"

end LogPipeline
