import LogPipeline.Unicode.Property

/-!
# Text shown for a reader

A text shown in a message stands between quotation marks, on one line, with everything that a
terminal would not show as a character of its own written as a code point.
-/

namespace LogPipeline.Text

/-- A code point in hexadecimal between braces, as an escape. -/
def codeEscape (c : Char) : List Char :=
  '\\' :: 'u' :: '{' :: (Nat.toDigits 16 c.toNat ++ ['}'])

def shownChar (c : Char) : List Char :=
  if c = '\x00' then ['\\', '0']
  else if c = '\t' then ['\\', 't']
  else if c = '\n' then ['\\', 'n']
  else if c = '\r' then ['\\', 'r']
  else if c = '"' then ['\\', '"']
  else if c = '\\' then ['\\', '\\']
  else if Unicode.isExtend c.toNat || !Unicode.isPrintable c.toNat then codeEscape c
  else [c]

/-- A text between quotation marks. -/
def shown (s : String) : String :=
  String.ofList ('"' :: (s.toList.flatMap shownChar ++ ['"']))

def shownList (ss : List String) : String :=
  "[" ++ String.intercalate ", " (ss.map shown) ++ "]"

end LogPipeline.Text
