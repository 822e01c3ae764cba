import LogPipeline.Pattern.Expr

/-!
# Programs

A pattern is turned into a program: states that consume a character, test a place, note a position,
or go two ways of which the first is preferred. A repetition is written out, each copy with states
of its own, so a program can be far larger than its pattern; one beyond a fixed size is refused
before it is made.
-/

namespace LogPipeline.Pattern

/-- A state of a program, with the states it leads to. -/
inductive State where
  | char (s : CharSet) (next : Nat)
  | anchor (a : Anchor) (next : Nat)
  | note (slot : Nat) (next : Nat)
  | split (first second : Nat)
  | accept
deriving Inhabited

/-- The states of a pattern. Group `i` notes where it begins in slot `2 * i` and where it ends in
slot `2 * i + 1`; group 0 is the whole match. -/
structure Program where
  states : Array State
  start : Nat
  slots : Nat
deriving Inhabited

/-! ## Size -/

/-- The bytes of UTF-8 that a code point takes. -/
def utf8Length (n : Nat) : Nat :=
  if n < 0x80 then 1 else if n < 0x800 then 2 else if n < 0x10000 then 3 else 4

/-- About how many states the class takes when it is written out in bytes. -/
def NamedClass.weight : NamedClass → Nat
  | digit => 320
  | space => 32
  | word => 1600
  | category _ => 1200
  | script _ => 200
  | property _ => 1200
  | any => 10

def CharSet.weight : CharSet → Nat
  | none => 1
  | range lo hi => if lo = hi then utf8Length lo else utf8Length hi * utf8Length hi
  | named c => c.weight
  | folded s => 2 * s.weight
  | foldedAscii s => 2 * s.weight
  | negated s => s.weight + 8
  | union a b | inter a b | diff a b | symm a b => a.weight + b.weight

def Expr.weight : Expr → Nat
  | empty => 1
  | set s => s.weight
  | anchor _ => 1
  | seq a b => a.weight + b.weight
  | alt a b => a.weight + b.weight + 1
  | repeated e least most _ => (e.weight + 1) * max least (most.getD 1)
  | capture _ e => e.weight + 2

def stateBytes : Nat := 32

/-- The most bytes that a program may take, ten megabytes. -/
def maxProgramBytes : Nat := 10 * 1024 * 1024

/-! ## Compilation -/

/-- States so far. -/
abbrev Build := StateM (Array State)

def emit (s : State) : Build Nat := fun states => (states.size, states.push s)

/-- A choice between going on and stopping; the first is preferred if `greedy`. -/
def choice (greedy : Bool) (more stop : Nat) : State :=
  if greedy then .split more stop else .split stop more

/-- States for `n` copies, each leading to the one behind it and the last to `next`. -/
def copies (one : Nat → Build Nat) : Nat → Nat → Build Nat
  | 0, next => return next
  | n + 1, next => do copies one n (← one next)

/-- States for up to `n` copies. Whoever stops goes on at `stop`. -/
def options (one : Nat → Build Nat) (greedy : Bool) (stop : Nat) : Nat → Nat → Build Nat
  | 0, next => return next
  | n + 1, next => do
    let body ← one next
    let here ← emit (choice greedy body stop)
    options one greedy stop n here

/-- States for one copy or more: behind each copy there is a choice to begin again. -/
def oneOrMore (one : Nat → Build Nat) (greedy : Bool) (next : Nat) : Build Nat := do
  let again ← emit .accept
  let body ← one again
  modify fun states => states.setIfInBounds again (choice greedy body next)
  return body

/-- States for a pattern that lead to `next`, and the first of them. Any number of copies is an
option of one or more, so that an empty copy does not lose its place in the order of preference. -/
def Expr.compile : Expr → Nat → Build Nat
  | empty, next => return next
  | set s, next => emit (.char s next)
  | anchor a, next => emit (.anchor a next)
  | seq a b, next => do a.compile (← b.compile next)
  | alt a b, next => do
    let first ← a.compile next
    let second ← b.compile next
    emit (.split first second)
  | repeated e least most greedy, next => do
    match most with
    | some most => copies e.compile least (← options e.compile greedy next (most - least) next)
    | none =>
      let body ← oneOrMore e.compile greedy next
      if least = 0 then emit (choice greedy body next)
      else copies e.compile (least - 1) body
  | capture i e, next => do
    let stop ← emit (.note (2 * i + 1) next)
    emit (.note (2 * i) (← e.compile stop))

/-- The program of a pattern with the given number of groups, unless it would be too large. -/
def Expr.program? (e : Expr) (groups : Nat) : Option Program :=
  if maxProgramBytes < e.weight * stateBytes then none
  else
    let build : Build Nat := do
      let accept ← emit .accept
      (Expr.capture 0 e).compile accept
    let (start, states) := build #[]
    some ⟨states, start, 2 * (groups + 1)⟩

end LogPipeline.Pattern
