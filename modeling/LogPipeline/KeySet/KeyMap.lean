import LogPipeline.Failure
import LogPipeline.KeySet.Framing

/-!
# The map from keys to long-lived objects

An object is created the first time its key is asked for, and never again while the map lives. Each
object is made with an owner token, which it lets go of once it has stopped. Destroying the map
hands out its entries and refuses every later creation; the map is quiet once no token is left.

A caller keeps a cache of its own in front of the map, with what it made of each object.
-/

namespace LogPipeline

/-- Objects by merged key, in the order of their creation, which numbers their owner tokens. `live`
holds the tokens not yet let go of. -/
structure KeyMap (ω : Type) where
  entries : List (String × ω) := []
  created : Nat := 0
  destroyed : Bool := false
  live : List Nat := []
deriving Repr, Inhabited

namespace KeyMap

variable {ω α : Type}

def find? (key : String) (m : KeyMap ω) : Option ω :=
  (m.entries.find? (·.1 == key)).map (·.2)

/-- The object under a key. A new one is made from the parts of the key and its owner token. -/
def getOrCreate (make : List String → Nat → ω) (key : String) (m : KeyMap ω) :
    Except CreationError (ω × KeyMap ω) :=
  if m.destroyed then .error (.mapDestroyed key)
  else
    match m.find? key with
    | some v => .ok (v, m)
    | none =>
      let v := make (KeySet.split key) m.created
      .ok (v, { m with
        entries := m.entries ++ [(key, v)]
        created := m.created + 1
        live := m.live ++ [m.created] })

/-- An owner token is let go of. -/
def release (token : Nat) (m : KeyMap ω) : KeyMap ω := { m with live := m.live.erase token }

/-- Refuses further creations and hands out the entries. -/
def destroy (m : KeyMap ω) : List (String × ω) × KeyMap ω :=
  (m.entries, { m with entries := [], destroyed := true })

/-- The map is destroyed and every owner token has been let go of. -/
def isQuiet (m : KeyMap ω) : Bool := m.destroyed && m.live.isEmpty

end KeyMap

/-- What one caller made of the objects it has asked for, in the order it asked. -/
structure LocalCache (α : Type) where
  entries : List (String × α) := []
deriving Repr, Inhabited

namespace LocalCache

variable {ω α : Type}

def find? (key : String) (c : LocalCache α) : Option α :=
  (c.entries.find? (·.1 == key)).map (·.2)

def put (key : String) (a : α) (c : LocalCache α) : LocalCache α :=
  ⟨c.entries.map fun e => if e.1 == key then (key, a) else e⟩

/-- What the cache holds under a key. The map is asked only for a key that is not there. -/
def getOrCreate (make : List String → Nat → ω) (wrap : String → ω → α) (key : String)
    (c : LocalCache α) (m : KeyMap ω) : Except CreationError (α × LocalCache α × KeyMap ω) :=
  match c.find? key with
  | some a => .ok (a, c, m)
  | none => do
    let (v, m) ← m.getOrCreate make key
    let a := wrap key v
    return (a, ⟨c.entries ++ [(key, a)]⟩, m)

end LocalCache

end LogPipeline
