/-!
# Numerals

Decimal numerals of 64-bit numbers: digits, at least one, with an optional plus sign in front.
-/

namespace LogPipeline.Text

/-- The largest number of 64 bits. -/
def maxWord : Nat := 0xFFFFFFFFFFFFFFFF

/-- The number that decimal digits write, appended to `n`, if all are digits. -/
def digitsFrom (n : Nat) : List Char → Option Nat
  | [] => some n
  | c :: cs => if c.isDigit then digitsFrom (n * 10 + (c.toNat - 48)) cs else none

def readNumeral (cs : List Char) : Option Nat :=
  let digits := match cs with
    | '+' :: rest => rest
    | cs => cs
  if digits.isEmpty then none
  else (digitsFrom 0 digits).filter (· ≤ maxWord)

end LogPipeline.Text
