/-!
# JSON values

Whole numbers and numbers with a fraction are told apart by how they are written. Entries of an
object keep their order and may repeat a key.
-/

namespace LogPipeline

inductive Json where
  | null
  | bool (b : Bool)
  | int (n : Int)
  | float (x : Float)
  | str (s : String)
  | arr (items : List Json)
  | obj (entries : List (String × Json))
deriving Inhabited, Repr

namespace Json

/-- The value under a key: that of the last entry with it. -/
def get? (key : String) : Json → Option Json
  | obj entries => (entries.reverse.find? (·.1 == key)).map (·.2)
  | _ => none

end Json

end LogPipeline
