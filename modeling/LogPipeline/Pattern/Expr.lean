import LogPipeline.Pattern.Tree

/-!
# Patterns with their flags resolved

What a pattern means once every flag has taken effect: sets of characters, places between
characters, and the ways to combine them. A flag set inside a group holds to the end of that group,
across its alternatives. Without the flag for Unicode, classes and boundaries know ASCII alone, and
a pattern that could then match part of a character is refused.
-/

namespace LogPipeline.Pattern

/-- What a boundary of words looks for at its two sides. -/
inductive WordEdge where
  | either
  | neither
  | start
  | stop
  | startHalf
  | stopHalf
deriving DecidableEq, Repr

/-- A condition on the characters at both sides of a place. -/
inductive Anchor where
  | textStart
  | textEnd
  | lineStart (crlf : Bool)
  | lineEnd (crlf : Bool)
  | word (edge : WordEdge) (ascii : Bool)
deriving DecidableEq, Repr

/-- A pattern with its flags resolved. -/
inductive Expr where
  | empty
  | set (s : CharSet)
  | anchor (a : Anchor)
  | seq (a b : Expr)
  | alt (a b : Expr)
  | repeated (e : Expr) (least : Nat) (most : Option Nat) (greedy : Bool)
  | capture (index : Nat) (e : Expr)

/-- The flags in force at one place of a pattern. -/
structure Flags where
  ignoreCase : Bool := false
  multiLine : Bool := false
  dotAll : Bool := false
  swapGreed : Bool := false
  unicode : Bool := true
  crlf : Bool := false
deriving DecidableEq, Repr

namespace Flags

def change (fs : Flags) : Flag × Bool → Flags
  | (.ignoreCase, b) => { fs with ignoreCase := b }
  | (.multiLine, b) => { fs with multiLine := b }
  | (.dotAll, b) => { fs with dotAll := b }
  | (.swapGreed, b) => { fs with swapGreed := b }
  | (.unicode, b) => { fs with unicode := b }
  | (.crlf, b) => { fs with crlf := b }
  | (.spaced, _) => fs

def apply (fs : Flags) (changes : FlagChanges) : Flags := changes.foldl change fs

/-- The set, closed under case if case does not count. -/
def fold (fs : Flags) (s : CharSet) : CharSet :=
  if fs.ignoreCase then (if fs.unicode then .folded s else .foldedAscii s) else s

/-- The set or its complement. Without Unicode, only a set of ASCII characters is allowed. -/
def negate (fs : Flags) (negated : Bool) (s : CharSet) : Option CharSet :=
  let s := if negated then .negated s else s
  if fs.unicode || s.isAscii then some s else none

def literal (fs : Flags) (c : Char) (isByte : Bool) : Option CharSet :=
  if !fs.unicode && isByte && 127 < c.toNat then none
  else some (fs.fold (.single c))

def dot (fs : Flags) : Option CharSet :=
  if !fs.unicode then none
  else if fs.dotAll then some (.named .any)
  else if fs.crlf then some (.negated (.union (.single '\n') (.single '\r')))
  else some (.negated (.single '\n'))

/-- The set that a class with a letter stands for. Such classes are closed under case. -/
def letter (fs : Flags) (k : LetterClass) (negated : Bool) : Option CharSet :=
  if fs.unicode then
    let s := match k with
      | .digit => CharSet.named .digit
      | .space => .named .space
      | .word => .named .word
    fs.negate negated s
  else
    let name := match k with
      | .digit => "digit"
      | .space => "space"
      | .word => "word"
    (asciiClass? name).bind (fs.negate negated)

def property (fs : Flags) (c : NamedClass) (negated : Bool) : Option CharSet :=
  if fs.unicode then fs.negate negated (fs.fold (.named c)) else none

def anchor (fs : Flags) : Place → Anchor
  | .lineStart => if fs.multiLine then .lineStart fs.crlf else .textStart
  | .lineEnd => if fs.multiLine then .lineEnd fs.crlf else .textEnd
  | .textStart => .textStart
  | .textEnd => .textEnd
  | .boundary => .word .either (!fs.unicode)
  | .noBoundary => .word .neither (!fs.unicode)
  | .wordStart => .word .start (!fs.unicode)
  | .wordEnd => .word .stop (!fs.unicode)
  | .wordStartHalf => .word .startHalf (!fs.unicode)
  | .wordEndHalf => .word .stopHalf (!fs.unicode)

end Flags

mutual

/-- The set that a class between brackets stands for. -/
def SetTree.set (fs : Flags) : SetTree → Option CharSet
  | .empty => some .none
  | .literal c _ => if fs.unicode || c.toNat < 128 then some (.single c) else none
  | .range lo hi => if fs.unicode || hi.toNat < 128 then some (.range lo.toNat hi.toNat) else none
  | .ascii s negated => fs.negate negated (fs.fold s)
  | .letter k negated => fs.letter k negated
  | .property c negated => fs.property c negated
  | .bracket s negated => do fs.negate negated (fs.fold (← s.set fs))
  | .union items => unionOf fs items
  | .inter a b => do return .inter (fs.fold (← a.set fs)) (fs.fold (← b.set fs))
  | .diff a b => do return .diff (fs.fold (← a.set fs)) (fs.fold (← b.set fs))
  | .symm a b => do return .symm (fs.fold (← a.set fs)) (fs.fold (← b.set fs))

def unionOf (fs : Flags) : List SetTree → Option CharSet
  | [] => some .none
  | s :: rest => do return .union (← s.set fs) (← unionOf fs rest)

end

/-- A pattern in a group, captured if it has an index. -/
def Expr.grouped (index : Option Nat) (e : Expr) : Expr :=
  match index with
  | some i => .capture i e
  | none => e

mutual

/-- What a pattern means under flags, and the flags behind it. -/
def Tree.expr (fs : Flags) : Tree → Option (Expr × Flags)
  | .empty => some (.empty, fs)
  | .flags changes => some (.empty, fs.apply changes)
  | .literal c isByte => (fs.literal c isByte).map fun s => (.set s, fs)
  | .dot => fs.dot.map fun s => (.set s, fs)
  | .place p => some (.anchor (fs.anchor p), fs)
  | .letter k negated => (fs.letter k negated).map fun s => (.set s, fs)
  | .property c negated => (fs.property c negated).map fun s => (.set s, fs)
  | .bracket s negated => do
    let s ← fs.negate negated (fs.fold (← s.set fs))
    return (.set s, fs)
  | .repeated t least most greedy => do
    let (e, fs) ← t.expr fs
    return (.repeated e least most (greedy != fs.swapGreed), fs)
  | .group index changes t => do
    let (e, _) ← t.expr (fs.apply changes)
    return (.grouped index e, fs)
  | .alternatives ts => altOf fs ts
  | .sequence ts => seqOf fs ts

/-- What patterns in a row mean. -/
def seqOf (fs : Flags) : List Tree → Option (Expr × Flags)
  | [] => some (.empty, fs)
  | t :: rest => do
    let (a, fs) ← t.expr fs
    let (b, fs) ← seqOf fs rest
    return (.seq a b, fs)

/-- What alternatives mean, the first one preferred. -/
def altOf (fs : Flags) : List Tree → Option (Expr × Flags)
  | [] => some (.empty, fs)
  | [t] => t.expr fs
  | t :: rest => do
    let (a, fs) ← t.expr fs
    let (b, fs) ← altOf fs rest
    return (.alt a b, fs)

end

end LogPipeline.Pattern
