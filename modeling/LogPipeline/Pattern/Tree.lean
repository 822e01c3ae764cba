import LogPipeline.Pattern.Property

/-!
# Patterns as they are written

The tree of a pattern: what was written where, before any flag has taken effect.
-/

namespace LogPipeline.Pattern

inductive Place where
  | lineStart
  | lineEnd
  | textStart
  | textEnd
  | boundary
  | noBoundary
  | wordStart
  | wordEnd
  | wordStartHalf
  | wordEndHalf
deriving DecidableEq, Repr

/-- A class with a letter of its own. -/
inductive LetterClass where
  | digit
  | space
  | word
deriving DecidableEq, Repr

inductive Flag where
  | ignoreCase
  | multiLine
  | dotAll
  | swapGreed
  | unicode
  | crlf
  | spaced
deriving DecidableEq, Repr

abbrev FlagChanges := List (Flag × Bool)

/-- What a class between brackets is made of. A literal that was written as two hexadecimal digits
is marked, since it can stand for a byte. -/
inductive SetTree where
  | empty
  | literal (c : Char) (isByte : Bool)
  | range (lo hi : Char)
  | ascii (s : CharSet) (negated : Bool)
  | letter (k : LetterClass) (negated : Bool)
  | property (c : NamedClass) (negated : Bool)
  | bracket (s : SetTree) (negated : Bool)
  | union (items : List SetTree)
  | inter (a b : SetTree)
  | diff (a b : SetTree)
  | symm (a b : SetTree)

/-- A pattern. A group without index is not captured. -/
inductive Tree where
  | empty
  | flags (changes : FlagChanges)
  | literal (c : Char) (isByte : Bool)
  | dot
  | place (p : Place)
  | letter (k : LetterClass) (negated : Bool)
  | property (c : NamedClass) (negated : Bool)
  | bracket (s : SetTree) (negated : Bool)
  | repeated (t : Tree) (least : Nat) (most : Option Nat) (greedy : Bool)
  | group (index : Option Nat) (changes : FlagChanges) (t : Tree)
  | alternatives (ts : List Tree)
  | sequence (ts : List Tree)

mutual

def SetTree.depth : SetTree → Nat
  | .bracket s _ => s.depth + 1
  | .union items => depths items + 1
  | .inter a b | .diff a b | .symm a b => max a.depth b.depth + 1
  | _ => 0

def depths : List SetTree → Nat
  | [] => 0
  | s :: rest => max s.depth (depths rest)

end

mutual

def Tree.depth : Tree → Nat
  | .bracket s _ => s.depth + 1
  | .repeated t _ _ _ => t.depth + 1
  | .group _ _ t => t.depth + 1
  | .alternatives ts => treeDepths ts + 1
  | .sequence ts => treeDepths ts + 1
  | _ => 0

def treeDepths : List Tree → Nat
  | [] => 0
  | t :: rest => max t.depth (treeDepths rest)

end

/-- Several patterns in a row; one alone stands for itself. -/
def Tree.ofSequence : List Tree → Tree
  | [] => .empty
  | [t] => t
  | ts => .sequence ts

/-- Several alternatives; one alone stands for itself. -/
def Tree.ofAlternatives : List Tree → Tree
  | [] => .empty
  | [t] => t
  | ts => .alternatives ts

/-- The union of items; one alone stands for itself. -/
def SetTree.ofUnion : List SetTree → SetTree
  | [] => .empty
  | [s] => s
  | ss => .union ss

end LogPipeline.Pattern
