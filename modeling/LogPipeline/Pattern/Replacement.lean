import LogPipeline.Pattern.Search
import LogPipeline.Text.Numeral

/-!
# Replacing matches

A placeholder is literal but for references to groups: a dollar sign with a number or a name behind
it, between braces or not, and two dollar signs for one. Matches are replaced from left to right; an
empty match is passed over where the match before it ended.
-/

namespace LogPipeline.Pattern

inductive Piece where
  | literal (cs : List Char)
  | group (index : Nat)
  | named (name : String)
deriving DecidableEq, Repr

/-- A character of a reference without braces. -/
def isReferenceChar (c : Char) : Bool := c.isAlphanum || c = '_'

/-- The group that a reference names: by its number if the name is a numeral. -/
def reference (name : List Char) : Piece :=
  match Text.readNumeral name with
  | some i => .group i
  | none => .named (String.ofList name)

/-- The reference behind a dollar sign and what follows it, if there is one. -/
def readReference (cs : List Char) : Option (Piece × List Char) :=
  match cs with
  | '{' :: rest =>
    let name := rest.takeWhile (· ≠ '}')
    match rest.dropWhile (· ≠ '}') with
    | _ :: behind => some (reference name, behind)
    | [] => none
  | cs =>
    let name := cs.takeWhile isReferenceChar
    if name.isEmpty then none else some (reference name, cs.dropWhile isReferenceChar)

/-- The pieces of a placeholder. Its length is fuel enough. -/
def piecesFrom : Nat → List Char → List Piece
  | 0, cs => [.literal cs]
  | _, [] => []
  | fuel + 1, '$' :: '$' :: rest => .literal ['$'] :: piecesFrom fuel rest
  | fuel + 1, '$' :: rest =>
    match readReference rest with
    | some (piece, behind) => piece :: piecesFrom fuel behind
    | none => .literal ['$'] :: piecesFrom fuel rest
  | fuel + 1, c :: rest => .literal [c] :: piecesFrom fuel rest

def pieces (placeholder : String) : List Piece :=
  piecesFrom placeholder.length placeholder.toList

def span (text : Array Char) (a b : Nat) : List Char := (text.extract a b).toList

/-- The text of a group in a match; a group that took no part has none. -/
def groupText (text : Array Char) (slots : Slots) (i : Nat) : List Char :=
  match slots.group i with
  | some (a, b) => span text a b
  | none => []

/-- What a piece stands for in a match. -/
def Piece.expand (r : Regex) (text : Array Char) (slots : Slots) : Piece → List Char
  | literal cs => cs
  | group i => groupText text slots i
  | named name =>
    match r.names.find? (·.1 == name) with
    | some (_, i) => groupText text slots i
    | none => []

/-- The matches from `start` on, in order. `ended` is where the match before them ended. Every match
but the first ends behind it, so one for every place is fuel enough. -/
def matchesFrom (r : Regex) (text : Array Char) : Nat → Nat → Option Nat → List Slots
  | 0, _, _ => []
  | fuel + 1, start, ended =>
    let first := r.find? text start
    let found := match first.bind (·.group 0) with
      | some (a, b) => if a = b && ended = some b then r.find? text (start + 1) else first
      | none => first
    match found with
    | none => []
    | some slots =>
      match slots.group 0 with
      | none => []
      | some (_, b) => slots :: matchesFrom r text fuel b (some b)

/-- The text from `at` on, with matches replaced. -/
def rebuilt (r : Regex) (text : Array Char) (ps : List Piece) : Nat → List Slots → List Char
  | i, [] => span text i text.size
  | i, slots :: rest =>
    match slots.group 0 with
    | none => rebuilt r text ps i rest
    | some (a, b) => span text i a ++ ps.flatMap (·.expand r text slots) ++ rebuilt r text ps b rest

/-- The text with every match replaced, or nothing if there is no match. -/
def Regex.replaceAll? (r : Regex) (placeholder : String) (s : String) : Option String :=
  let text := s.toList.toArray
  match matchesFrom r text (text.size + 1) 0 none with
  | [] => none
  | found => some (String.ofList (rebuilt r text (pieces placeholder) 0 found))

end LogPipeline.Pattern
