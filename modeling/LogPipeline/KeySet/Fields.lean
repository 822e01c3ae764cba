import LogPipeline.Record
import LogPipeline.Failure
import LogPipeline.KeySet.Framing

/-!
# Key fields

The fields of a schema whose values decide which pipeline a record goes to.
-/

namespace LogPipeline

/-- Named key fields with their positions in the schema. -/
structure KeyFields where
  names : List String
  positions : List Nat
deriving DecidableEq, Repr, Inhabited

namespace KeyFields

/-- Finds the names in the schema, in order, none at a position already taken. -/
def locate (schema : Schema) (taken : List Nat) : List String → Except SettingsError (List Nat)
  | [] => .ok []
  | name :: rest =>
    match schema.locate name with
    | none => .error (.unknownField name)
    | some i =>
      if i ∈ taken then .error (.duplicateField name)
      else do
        let is ← locate schema (taken ++ [i]) rest
        return i :: is

/-- Key fields with the given names. At least one is needed. -/
def ofNames (schema : Schema) (names : List String) : Except SettingsError KeyFields :=
  if names.isEmpty then .error .emptyKeySet
  else do
    let positions ← locate schema [] names
    return ⟨names, positions⟩

def values (k : KeyFields) (r : Record) : List String := k.positions.map r.field

/-- The merged key of a record. -/
def key (k : KeyFields) (r : Record) : String := KeySet.merge (k.values r)

end KeyFields

end LogPipeline
