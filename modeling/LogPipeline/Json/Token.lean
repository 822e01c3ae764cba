import LogPipeline.Json.Value
import LogPipeline.Json.Quoted
import LogPipeline.Text.Numeral

/-!
# JSON tokens

A text is cut into tokens as far as it is written well. The first place where it is not leaves the
token `bad` as the last one, so a reader that works through the tokens meets it exactly when it gets
there, after everything that stands before it.

A number without fraction and exponent is whole if it fits 64 bits, signed or unsigned. Every other
number is read from at most as many leading digits as fit 64 bits, scaled by a power of ten.
-/

namespace LogPipeline.Json

/-- What a number says. `tooLarge` is written well but beyond every floating-point number. -/
inductive Number where
  | whole (n : Int)
  | float (x : Float)
  | tooLarge
deriving Inhabited, Repr

inductive Token where
  | openBrace
  | closeBrace
  | openBracket
  | closeBracket
  | comma
  | colon
  | null
  | bool (b : Bool)
  | number (n : Number)
  | text (s : Option String)
  | bad
deriving Inhabited, Repr

/-- The leading decimal digits, as numbers, and the rest. -/
def digits : List Char → List Nat × List Char
  | [] => ([], [])
  | c :: rest =>
    if c.isDigit then
      let (ds, rest) := digits rest
      ((c.toNat - 48) :: ds, rest)
    else ([], c :: rest)

/-- Appends digits to a significand while it fits 64 bits, and counts the digits left over. -/
def extend (sig : Nat) : List Nat → Nat × Nat
  | [] => (sig, 0)
  | d :: ds =>
    if sig * 10 + d ≤ Text.maxWord then extend (sig * 10 + d) ds else (sig, ds.length + 1)

/-- A significand times a power of ten, in steps that the table of powers up to `10 ^ 308` allows.
`none` if it is too large. -/
def scaled (sig : Nat) (exponent : Int) : Option Float :=
  let x := sig.toUInt64.toFloat
  if 0 ≤ exponent then
    if exponent ≤ 308 then
      let y := x * Float.ofScientific 1 false exponent.toNat
      if y.isInf then none else some y
    else if sig = 0 then some x else none
  else
    let e := (-exponent).toNat
    if e ≤ 308 then some (x / Float.ofScientific 1 false e)
    else if e ≤ 616 then
      some (x / Float.ofScientific 1 false 308 / Float.ofScientific 1 false (e - 308))
    else some 0.0

/-- The number with the given sign, digits and exponent. -/
def number (negative : Bool) (whole frac : List Nat) (exponent : Option Int) : Number :=
  let (sig, excess) := extend 0 whole
  let fits := excess == 0 && !(negative && (sig == 0 || 0x8000000000000000 < sig))
  if frac.isEmpty && exponent.isNone && fits then
    .whole (if negative then -(sig : Int) else sig)
  else
    let (sig, left) := extend sig frac
    let used := frac.length - left
    let scale := (excess : Int) - used + exponent.getD 0
    match scaled sig scale with
    | some x => .float (if negative then -x else x)
    | none => .tooLarge

/-- Reads an exponent after its letter. -/
def readExponent (cs : List Char) : Option (Int × List Char) :=
  let (negative, cs) := match cs with
    | '+' :: cs => (false, cs)
    | '-' :: cs => (true, cs)
    | cs => (false, cs)
  match digits cs with
  | ([], _) => none
  | (ds, rest) =>
    let n : Nat := ds.foldl (fun n d => n * 10 + d) 0
    some (if negative then -n else n, rest)

def readNumber (cs : List Char) : Option (Number × List Char) := do
  let (negative, cs) := match cs with
    | '-' :: cs => (true, cs)
    | cs => (false, cs)
  let (whole, cs) := digits cs
  if whole.isEmpty || (whole.head? == some 0 && 1 < whole.length) then none
  else
    let (frac, cs) ← match cs with
      | '.' :: cs =>
        match digits cs with
        | ([], _) => none
        | (frac, cs) => some (frac, cs)
      | cs => some ([], cs)
    match cs with
    | c :: rest =>
      if c = 'e' || c = 'E' then
        let (e, rest) ← readExponent rest
        return (number negative whole frac (some e), rest)
      else return (number negative whole frac none, c :: rest)
    | [] => return (number negative whole frac none, [])

/-- The token at the front of a text without leading blanks, and what follows. -/
def readToken : List Char → Option (Token × List Char)
  | [] => none
  | '{' :: rest => some (.openBrace, rest)
  | '}' :: rest => some (.closeBrace, rest)
  | '[' :: rest => some (.openBracket, rest)
  | ']' :: rest => some (.closeBracket, rest)
  | ',' :: rest => some (.comma, rest)
  | ':' :: rest => some (.colon, rest)
  | 'n' :: 'u' :: 'l' :: 'l' :: rest => some (.null, rest)
  | 't' :: 'r' :: 'u' :: 'e' :: rest => some (.bool true, rest)
  | 'f' :: 'a' :: 'l' :: 's' :: 'e' :: rest => some (.bool false, rest)
  | '"' :: rest => (readQuoted rest (some [])).map fun (s, rest) => (.text s, rest)
  | cs => (readNumber cs).map fun (n, rest) => (.number n, rest)

def isBlank (c : Char) : Bool := c = ' ' || c = '\n' || c = '\t' || c = '\r'

/-- Cuts at most `fuel` tokens. Every token takes a character, so the length of the text is enough.
-/
def cut : Nat → List Char → List Token
  | 0, _ => []
  | fuel + 1, cs =>
    match cs.dropWhile isBlank with
    | [] => []
    | cs =>
      match readToken cs with
      | none => [.bad]
      | some (t, rest) => t :: cut fuel rest

def tokens (s : String) : List Token := cut s.length s.toList

/-- The tokens that write a value. -/
def toTokens : Json → List Token
  | null => [.null]
  | bool b => [.bool b]
  | int n => [.number (.whole n)]
  | float x => [.number (.float x)]
  | str s => [.text (some s)]
  | arr items => .openBracket :: (go items ++ [.closeBracket])
  | obj entries => .openBrace :: (goEntries entries ++ [.closeBrace])
where
  /-- The items of an array, with commas between them. -/
  go : List Json → List Token
    | [] => []
    | [v] => toTokens v
    | v :: vs => toTokens v ++ .comma :: go vs
  /-- The entries of an object, with commas between them. -/
  goEntries : List (String × Json) → List Token
    | [] => []
    | [(k, v)] => .text (some k) :: .colon :: toTokens v
    | (k, v) :: es => .text (some k) :: .colon :: (toTokens v ++ .comma :: goEntries es)

end LogPipeline.Json
