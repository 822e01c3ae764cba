/-!
# Quoted text in JSON

`quote` writes a text between quotation marks, with an escape for each character that may not stand
there. `readQuoted` reads what follows an opening quotation mark. It accepts every escape of JSON,
and tells a text that is written wrong from one that is written well but names half of a surrogate
pair.
-/

namespace LogPipeline.Json

def hexDigit (n : Nat) : Char :=
  if n < 10 then Char.ofNat (48 + n) else Char.ofNat (87 + n)

/-- How a character stands between quotation marks. -/
def escape (c : Char) : List Char :=
  if c = '"' then ['\\', '"']
  else if c = '\\' then ['\\', '\\']
  else if c = '\x08' then ['\\', 'b']
  else if c = '\t' then ['\\', 't']
  else if c = '\n' then ['\\', 'n']
  else if c = '\x0c' then ['\\', 'f']
  else if c = '\r' then ['\\', 'r']
  else if c.toNat < 32 then
    ['\\', 'u', '0', '0', hexDigit (c.toNat / 16), hexDigit (c.toNat % 16)]
  else [c]

/-- A text in quotation marks, in characters. -/
def quoteChars (cs : List Char) : List Char := '"' :: (cs.flatMap escape ++ ['"'])

def quote (s : String) : String := String.ofList (quoteChars s.toList)

def hexValue? (c : Char) : Option Nat :=
  let n := c.toNat
  if 48 ≤ n ∧ n ≤ 57 then some (n - 48)
  else if 97 ≤ n ∧ n ≤ 102 then some (n - 87)
  else if 65 ≤ n ∧ n ≤ 70 then some (n - 55)
  else none

/-- The number that four hexadecimal digits write. -/
def hex4? (a b c d : Char) : Option Nat := do
  let a ← hexValue? a
  let b ← hexValue? b
  let c ← hexValue? c
  let d ← hexValue? d
  return ((a * 16 + b) * 16 + c) * 16 + d

/-- The unit is the first half of a surrogate pair. -/
def isLeading (n : Nat) : Bool := 0xD800 ≤ n && n ≤ 0xDBFF

/-- The unit is the second half of a surrogate pair. -/
def isTrailing (n : Nat) : Bool := 0xDC00 ≤ n && n ≤ 0xDFFF

/-- The character that an escape letter other than `u` names. -/
def shortEscape? : Char → Option Char
  | '"' => some '"'
  | '\\' => some '\\'
  | '/' => some '/'
  | 'b' => some '\x08'
  | 'f' => some '\x0c'
  | 'n' => some '\n'
  | 'r' => some '\r'
  | 't' => some '\t'
  | _ => none

/-- Reads up to the closing quotation mark and returns what follows it. `read` holds the characters
so far, last first, or nothing once half a surrogate pair was seen. -/
def readQuoted : List Char → Option (List Char) → Option (Option String × List Char)
  | [], _ => none
  | '"' :: rest, read => some (read.map fun cs => String.ofList cs.reverse, rest)
  | '\\' :: 'u' :: a :: b :: c :: d :: '\\' :: 'u' :: e :: f :: g :: h :: rest, read =>
    match hex4? a b c d with
    | none => none
    | some n =>
      if isLeading n then
        match hex4? e f g h with
        | none => none
        | some m =>
          if isTrailing m then
            readQuoted rest
              (read.map (Char.ofNat (0x10000 + (n - 0xD800) * 0x400 + (m - 0xDC00)) :: ·))
          else readQuoted ('\\' :: 'u' :: e :: f :: g :: h :: rest) none
      else if isTrailing n then readQuoted ('\\' :: 'u' :: e :: f :: g :: h :: rest) none
      else readQuoted ('\\' :: 'u' :: e :: f :: g :: h :: rest) (read.map (Char.ofNat n :: ·))
  | '\\' :: 'u' :: a :: b :: c :: d :: rest, read =>
    match hex4? a b c d with
    | none => none
    | some n =>
      if isLeading n || isTrailing n then readQuoted rest none
      else readQuoted rest (read.map (Char.ofNat n :: ·))
  | '\\' :: c :: rest, read =>
    match shortEscape? c with
    | none => none
    | some c => readQuoted rest (read.map (c :: ·))
  | c :: rest, read =>
    if c.toNat < 32 then none else readQuoted rest (read.map (c :: ·))
termination_by cs => cs.length

end LogPipeline.Json
