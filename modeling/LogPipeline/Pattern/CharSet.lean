import LogPipeline.Unicode.Case
import LogPipeline.Unicode.Script

/-!
# Sets of characters

What one position of a pattern may match: ranges, named classes, and what can be built of them. A
set may be closed under case, fully or for the ASCII letters alone.
-/

namespace LogPipeline.Pattern

inductive NamedClass where
  /-- Decimal digits. -/
  | digit
  /-- White space. -/
  | space
  /-- Characters of words. -/
  | word
  /-- Characters of the given general categories. -/
  | category (cs : List Unicode.Category)
  /-- Characters of a script, by its number. -/
  | script (n : Nat)
  /-- Characters with a property. -/
  | property (p : Nat → Bool)
  /-- Every character. -/
  | any

def NamedClass.contains (n : Nat) : NamedClass → Bool
  | digit => Unicode.isDigit n
  | space => Unicode.isWhiteSpace n
  | word => Unicode.isWord n
  | category cs => cs.contains (Unicode.categoryOf n)
  | script s => Unicode.scriptOf n == s
  | property p => p n
  | any => true

inductive CharSet where
  | none
  | range (lo hi : Nat)
  | named (c : NamedClass)
  | folded (s : CharSet)
  | foldedAscii (s : CharSet)
  | negated (s : CharSet)
  | union (a b : CharSet)
  | inter (a b : CharSet)
  | diff (a b : CharSet)
  | symm (a b : CharSet)

/-- The other case of an ASCII letter; any other code point stays itself. -/
def swapAscii (n : Nat) : Nat :=
  if 65 ≤ n ∧ n ≤ 90 then n + 32 else if 97 ≤ n ∧ n ≤ 122 then n - 32 else n

namespace CharSet

def contains : CharSet → Nat → Bool
  | none, _ => false
  | range lo hi, n => lo ≤ n && n ≤ hi
  | named c, n => c.contains n
  | folded s, n => (Unicode.orbit n).any s.contains || s.contains n
  | foldedAscii s, n => s.contains n || s.contains (swapAscii n)
  | negated s, n => !s.contains n
  | union a b, n => a.contains n || b.contains n
  | inter a b, n => a.contains n && b.contains n
  | diff a b, n => a.contains n && !b.contains n
  | symm a b, n => a.contains n != b.contains n

def single (c : Char) : CharSet := range c.toNat c.toNat

def unions : List CharSet → CharSet
  | [] => none
  | [s] => s
  | s :: rest => union s (unions rest)

/-- The set holds no byte beyond the ASCII characters. -/
def isAscii (s : CharSet) : Bool := (List.range 128).all fun i => !s.contains (128 + i)

end CharSet

/-- A class of ASCII characters, as named between `[:` and `:]`. -/
def asciiClass? : String → Option CharSet
  | "alnum" => some (.unions [.range 48 57, .range 65 90, .range 97 122])
  | "alpha" => some (.unions [.range 65 90, .range 97 122])
  | "ascii" => some (.range 0 127)
  | "blank" => some (.unions [.range 9 9, .range 32 32])
  | "cntrl" => some (.unions [.range 0 31, .range 127 127])
  | "digit" => some (.range 48 57)
  | "graph" => some (.range 33 126)
  | "lower" => some (.range 97 122)
  | "print" => some (.range 32 126)
  | "punct" => some (.unions [.range 33 47, .range 58 64, .range 91 96, .range 123 126])
  | "space" => some (.unions [.range 9 13, .range 32 32])
  | "upper" => some (.range 65 90)
  | "word" => some (.unions [.range 48 57, .range 65 90, .range 95 95, .range 97 122])
  | "xdigit" => some (.unions [.range 48 57, .range 65 70, .range 97 102])
  | _ => none

end LogPipeline.Pattern
