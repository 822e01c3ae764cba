import LogPipeline.Pattern.Parser
import LogPipeline.Pattern.Program

/-!
# Searching

A search runs all ways through a program at once, one character at a time, and keeps them in the
order of preference. Of two ways that reach the same state at the same place only the preferred one
is kept, so the work is bounded by the size of the program times the length of the text. Among all
matches the one that starts first is found, and among those the preferred one.
-/

namespace LogPipeline.Pattern

/-- A pattern ready for use: its program and the numbers of its named groups. -/
structure Regex where
  program : Program
  names : List (String × Nat)
deriving Inhabited

def Regex.ofString? (pattern : String) : Option Regex := do
  let (t, groups, names) ← parse pattern
  let (e, _) ← t.expr {}
  let program ← e.program? groups
  return ⟨program, names⟩

/-- Positions noted by a way through a program, one for each slot. -/
abbrev Slots := Array (Option Nat)

/-! ## Places -/

/-- The character belongs to a word; the ends of the text do not. -/
def isWordSide (ascii : Bool) (c : Option Char) : Bool :=
  c.any fun c => if ascii then c.isAlphanum || c = '_' else Unicode.isWord c.toNat

/-- The boundary is there between two sides. -/
def WordEdge.holds (before after : Bool) : WordEdge → Bool
  | either => before != after
  | neither => before == after
  | start => !before && after
  | stop => before && !after
  | startHalf => !before
  | stopHalf => !after

def Anchor.holds (before after : Option Char) : Anchor → Bool
  | textStart => before.isNone
  | textEnd => after.isNone
  | lineStart false => before.all (· = '\n')
  | lineEnd false => after.all (· = '\n')
  | lineStart true => before.all fun c => c = '\n' || (c = '\r' && after != some '\n')
  | lineEnd true => after.all fun c => c = '\r' || (c = '\n' && before != some '\r')
  | word edge ascii => edge.holds (isWordSide ascii before) (isWordSide ascii after)

/-! ## Threads -/

/-- A way through a program: the state it is in and the positions it has noted. -/
structure Thread where
  state : Nat
  slots : Slots

/-- The threads at one place of a text, the least preferred first. `seen` marks the states that were
reached at this place. -/
structure Frontier where
  seen : Array Bool
  threads : List Thread := []

/-- A place in a text: its position and the characters at both sides. -/
structure Spot where
  index : Nat
  before : Option Char
  after : Option Char

def Spot.at (text : Array Char) (i : Nat) : Spot :=
  ⟨i, if i = 0 then none else text[i - 1]?, text[i]?⟩

/-- Follows threads until each consumes a character or accepts, the one on top first. Every state is
entered once and puts at most two threads on the stack, so twice the number of states and the
threads on the stack at the beginning are fuel enough. -/
def follow (p : Program) (spot : Spot) : Nat → List Thread → Frontier → Frontier
  | 0, _, f => f
  | _, [], f => f
  | fuel + 1, t :: stack, f =>
    if f.seen.getD t.state true then follow p spot fuel stack f
    else
      let f := { f with seen := f.seen.setIfInBounds t.state true }
      match p.states.getD t.state .accept with
      | .char _ _ | .accept => follow p spot fuel stack { f with threads := t :: f.threads }
      | .split a b => follow p spot fuel (⟨a, t.slots⟩ :: ⟨b, t.slots⟩ :: stack) f
      | .note slot next =>
        let slots := t.slots.setIfInBounds slot (some spot.index)
        follow p spot fuel (⟨next, slots⟩ :: stack) f
      | .anchor a next =>
        if a.holds spot.before spot.after then follow p spot fuel (⟨next, t.slots⟩ :: stack) f
        else follow p spot fuel stack f

def Frontier.add (p : Program) (spot : Spot) (t : Thread) (f : Frontier) : Frontier :=
  follow p spot (2 * p.states.size + 2) [t] f

/-- No thread has reached any state yet. -/
def Frontier.new (p : Program) : Frontier := { seen := Array.replicate p.states.size false }

/-- Lets threads, the preferred one first, consume the character behind a place. A thread that
accepts ends those behind it, and gives the positions it has noted. -/
def consume (p : Program) (c : Option Char) (there : Spot) :
    List Thread → Frontier → Option Slots × Frontier
  | [], f => (none, f)
  | t :: rest, f =>
    match p.states.getD t.state .accept with
    | .accept => (some t.slots, f)
    | .char s next =>
      if c.any (s.contains ·.toNat) then consume p c there rest (f.add p there ⟨next, t.slots⟩)
      else consume p c there rest f
    | _ => consume p c there rest f

/-- Searches from a place on. The number of characters left, and one for the end, is the fuel. As
long as nothing was found, a new thread begins at every place, behind all others. -/
def searchFrom (p : Program) (text : Array Char) :
    Nat → Nat → Frontier → Option Slots → Option Slots
  | 0, _, _, found => found
  | fuel + 1, i, f, found =>
    let f := if found.isSome then f
      else f.add p (.at text i) ⟨p.start, Array.replicate p.slots none⟩
    if f.threads.isEmpty && found.isSome then found
    else
      let (better, f) := consume p text[i]? (.at text (i + 1)) f.threads.reverse (.new p)
      searchFrom p text fuel (i + 1) f (better.orElse fun _ => found)

/-- The first match that begins at `start` or later. The characters before `start` still count for
what stands before a place. -/
def Regex.find? (r : Regex) (text : Array Char) (start : Nat) : Option Slots :=
  searchFrom r.program text (text.size + 1 - start) start (.new r.program) none

def Regex.isMatch (r : Regex) (s : String) : Bool := (r.find? s.toList.toArray 0).isSome

/-- Where a group begins and ends in a match, if it took part. -/
def Slots.group (slots : Slots) (i : Nat) : Option (Nat × Nat) := do
  let a ← slots.getD (2 * i) none
  let b ← slots.getD (2 * i + 1) none
  return (a, b)

end LogPipeline.Pattern
