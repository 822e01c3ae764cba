import LogPipeline.Pattern.Tree

/-!
# Reading patterns

A pattern is read from left to right. While the flag for spaced patterns is on, white space and
comments between its parts are passed over. Every call of the mutually recursive readers takes a
character or ends, so the length of the pattern is fuel enough.
-/

namespace LogPipeline.Pattern

/-- What is left to read, whether spaces are passed over, and the groups so far. -/
structure Source where
  rest : List Char
  spaced : Bool := false
  groups : Nat := 0
  names : List (String × Nat) := []

/-- A step of reading, which may fail. -/
abbrev Parse (α : Type) := StateT Source Option α

namespace Parse

def peek : Parse (Option Char) := return (← get).rest.head?

def bump : Parse Unit := modify fun s => { s with rest := s.rest.drop 1 }

def afterComment : List Char → List Char
  | [] => []
  | '\n' :: rest => rest
  | _ :: rest => afterComment rest

theorem length_afterComment (cs : List Char) : (afterComment cs).length ≤ cs.length := by
  fun_induction afterComment cs with
  | case1 => simp
  | case2 => simp
  | case3 c rest _ ih => simp; omega

/-- What is left after white space and comments. -/
def afterSpace (cs : List Char) : List Char :=
  match cs with
  | [] => []
  | c :: rest =>
    if Unicode.isWhiteSpace c.toNat then afterSpace rest
    else if c = '#' then afterSpace (afterComment rest)
    else c :: rest
termination_by cs.length
decreasing_by
  · simp
  · have := length_afterComment rest
    simp
    omega

/-- Passes over white space and comments, if they do not count. -/
def skipSpace : Parse Unit :=
  modify fun s => if s.spaced then { s with rest := afterSpace s.rest } else s

/-- Drops the next character and what may be passed over behind it. -/
def bumpSpace : Parse Unit := do
  bump
  skipSpace

/-- The next character; the pattern must not end here. -/
def next : Parse Char := do
  match ← peek with
  | some c => return c
  | none => failure

/-- Takes a literal text if it comes next. -/
def bumpIf (text : List Char) : Parse Bool := do
  let s ← get
  if text.isPrefixOf s.rest then
    set { s with rest := s.rest.drop text.length }
    return true
  else return false

/-- The character that decides what a hyphen in a class means: the first one behind it that is no
white space, where one sign that opens a comment does not count. -/
def behindHyphen (inComment : Bool) : List Char → Option Char
  | [] => none
  | c :: rest =>
    if Unicode.isWhiteSpace c.toNat then behindHyphen inComment rest
    else if !inComment && c = '#' then behindHyphen true rest
    else some c

def second : Parse (Option Char) := do
  let s ← get
  let rest := s.rest.drop 1
  return if s.spaced then behindHyphen false rest else rest.head?

/-- The character behind the next one, whatever it is. -/
def secondRaw : Parse (Option Char) := return ((← get).rest.drop 1).head?

/-- Characters that mean something of their own and lose it behind a backslash. -/
def isMeta (c : Char) : Bool := "\\.+*?()|[]\x7b\x7d^$#&-~".toList.contains c

/-- Other characters that may stand behind a backslash. -/
def isEscapable (c : Char) : Bool :=
  c.toNat < 128 && !c.isAlphanum && c != '<' && c != '>'

def hexValue? (c : Char) : Option Nat :=
  if c.isDigit then some (c.toNat - 48)
  else if 'a' ≤ c ∧ c ≤ 'f' then some (c.toNat - 87)
  else if 'A' ≤ c ∧ c ≤ 'F' then some (c.toNat - 55)
  else none

def charOf (n : Nat) : Parse Char :=
  if h : n.isValidChar then return Char.ofNatAux n h else failure

/-- Exactly `n` hexadecimal digits, appended to `value`. The first one is already next. -/
def hexDigits : Nat → Nat → Parse Nat
  | 0, value => return value
  | n + 1, value => do
    match hexValue? (← next) with
    | none => failure
    | some d =>
      if n = 0 then bump else bumpSpace
      hexDigits n (value * 16 + d)

/-- Hexadecimal digits up to a closing brace, which is next at the end. -/
def bracedHex : Nat → List Nat → Parse (List Nat)
  | 0, _ => failure
  | fuel + 1, read => do
    let c ← next
    if c = '}' then return read.reverse
    else
      match hexValue? c with
      | none => failure
      | some d =>
        bumpSpace
        bracedHex fuel (d :: read)

/-- A character written by its code point, with `n` digits or between braces. -/
def hexChar (n : Nat) : Parse (Char × Bool) := do
  bumpSpace
  if (← next) = '{' then
    bumpSpace
    let ds ← bracedHex ((← get).rest.length + 1) []
    bumpSpace
    if ds.isEmpty then failure
    let c ← charOf (ds.foldl (fun (v d : Nat) => v * 16 + d) 0)
    return (c, false)
  else
    let v ← hexDigits n 0
    skipSpace
    let c ← charOf v
    return (c, n = 2)

/-- The characters up to a closing brace, which is taken. -/
def bracedName : Nat → List Char → Parse (List Char)
  | 0, _ => failure
  | fuel + 1, read => do
    let c ← next
    if c = '}' then
      bump
      return read.reverse
    else
      bumpSpace
      bracedName fuel (c :: read)

/-- Splits a text at the first place where another text begins. -/
def splitAt? (text : List Char) : List Char → List Char → Option (List Char × List Char)
  | _, [] => none
  | read, c :: rest =>
    if text.isPrefixOf (c :: rest) then some (read.reverse, (c :: rest).drop text.length)
    else splitAt? text (c :: read) rest

/-- The class that the name between the braces of a property stands for, and whether it excludes. -/
def propertyOf (name : List Char) : Option (NamedClass × Bool) :=
  let valued := fun (a b : List Char) => classValued? (String.ofList a) (String.ofList b)
  match splitAt? ['!', '='] [] name with
  | some (a, b) => (valued a b).map (·, true)
  | none =>
    match splitAt? [':'] [] name with
    | some (a, b) => (valued a b).map (·, false)
    | none =>
      match splitAt? ['='] [] name with
      | some (a, b) => (valued a b).map (·, false)
      | none => (classNamed? (String.ofList name)).map (·, false)

def property : Parse (NamedClass × Bool) := do
  let negated := (← next) = 'P'
  bumpSpace
  let c ← next
  let name ←
    if c = '{' then
      bumpSpace
      bracedName ((← get).rest.length + 1) []
    else if c = '\\' then failure
    else
      bumpSpace
      pure [c]
  match propertyOf name with
  | some (cls, excludes) => return (cls, negated != excludes)
  | none => failure

/-- A character, a class or a place that takes no further reading. -/
inductive Primitive where
  | literal (c : Char) (isByte : Bool)
  | dot
  | place (p : Place)
  | letter (k : LetterClass) (negated : Bool)
  | property (c : NamedClass) (negated : Bool)

/-- The kind of a word boundary that is named between braces, if a name begins there. Otherwise
nothing is taken: the brace begins a repetition. -/
def boundaryKind : Parse Place := do
  let saved ← get
  if saved.rest.head? ≠ some '{' then return .boundary
  bumpSpace
  let isNameChar := fun (c : Char) => c.isAlpha || c = '-'
  let c ← next
  if !isNameChar c then
    set saved
    return .boundary
  let rec name : Nat → List Char → Parse (List Char)
    | 0, _ => failure
    | fuel + 1, read => do
      match ← peek with
      | some c =>
        if isNameChar c then
          bumpSpace
          name fuel (c :: read)
        else return read.reverse
      | none => failure
  let name ← name (saved.rest.length + 1) []
  if (← next) ≠ '}' then failure
  bump
  match String.ofList name with
  | "start" => return .wordStart
  | "end" => return .wordEnd
  | "start-half" => return .wordStartHalf
  | "end-half" => return .wordEndHalf
  | _ => failure

/-- What a backslash introduces. The backslash is next. -/
def escaped : Parse Primitive := do
  bump
  let c ← next
  match c with
  | 'x' => return (fun (c, b) => Primitive.literal c b) (← hexChar 2)
  | 'u' => return (fun (c, b) => Primitive.literal c b) (← hexChar 4)
  | 'U' => return (fun (c, b) => Primitive.literal c b) (← hexChar 8)
  | 'p' | 'P' => return (fun (c, n) => Primitive.property c n) (← property)
  | _ =>
    bump
    match c with
    | 'd' => return .letter .digit false
    | 'D' => return .letter .digit true
    | 's' => return .letter .space false
    | 'S' => return .letter .space true
    | 'w' => return .letter .word false
    | 'W' => return .letter .word true
    | 'a' => return .literal '\x07' false
    | 'f' => return .literal '\x0c' false
    | 't' => return .literal '\t' false
    | 'n' => return .literal '\n' false
    | 'r' => return .literal '\r' false
    | 'v' => return .literal '\x0b' false
    | 'A' => return .place .textStart
    | 'z' => return .place .textEnd
    | 'b' => return .place (← boundaryKind)
    | 'B' => return .place .noBoundary
    | '<' => return .place .wordStart
    | '>' => return .place .wordEnd
    | c => if isMeta c || isEscapable c then return .literal c false else failure

def primitive : Parse Primitive := do
  let c ← next
  match c with
  | '\\' => escaped
  | '.' => bump; return .dot
  | '^' => bump; return .place .lineStart
  | '$' => bump; return .place .lineEnd
  | c => bump; return .literal c false

def Primitive.toTree : Primitive → Tree
  | literal c b => .literal c b
  | dot => .dot
  | place p => .place p
  | letter k n => .letter k n
  | property c n => .property c n

def Primitive.toItem : Primitive → Option SetTree
  | literal c b => some (.literal c b)
  | letter k n => some (.letter k n)
  | property c n => some (.property c n)
  | _ => none

/-- A primitive as the end of a range. -/
def Primitive.toLiteral : Primitive → Option Char
  | literal c _ => some c
  | _ => none

/-- A class of ASCII characters in a bracket of its own. Nothing is taken unless it is one. -/
def asciiItem : Parse (Option SetTree) := do
  let saved ← get
  match saved.rest with
  | '[' :: ':' :: rest =>
    let (negated, rest) := match rest with
      | '^' :: rest => (true, rest)
      | rest => (false, rest)
    match splitAt? [':', ']'] [] rest with
    | some (name, behind) =>
      match asciiClass? (String.ofList name) with
      | some s =>
        set { saved with rest := behind }
        return some (.ascii s negated)
      | none => return none
    | none => return none
  | _ => return none

def setPrimitive : Parse Primitive := do
  let c ← next
  if c = '\\' then escaped
  else
    bump
    return .literal c false

def setItem : Parse SetTree := do
  let a ← setPrimitive
  skipSpace
  let c ← next
  let behind ← second
  if c ≠ '-' || behind = some ']' || behind = some '-' then
    match a.toItem with
    | some s => return s
    | none => failure
  else
    bumpSpace
    let _ ← next
    let b ← setPrimitive
    match a.toLiteral, b.toLiteral with
    | some lo, some hi => if lo ≤ hi then return .range lo hi else failure
    | _, _ => failure

/-- An operator between two parts of a class. -/
inductive SetOperator where
  | inter
  | diff
  | symm

/-- A class with the part read last combined into what stands before it. -/
def combine (before : Option (SetTree × SetOperator)) (items : List SetTree) : SetTree :=
  let last := SetTree.ofUnion items.reverse
  match before with
  | none => last
  | some (a, .inter) => .inter a last
  | some (a, .diff) => .diff a last
  | some (a, .symm) => .symm a last

/-- Hyphens that stand for themselves at the start of a class, last first. -/
def leadingHyphens : Nat → List SetTree → Parse (List SetTree)
  | 0, _ => failure
  | fuel + 1, items => do
    if (← next) = '-' then
      bumpSpace
      leadingHyphens fuel (.literal '-' false :: items)
    else return items

/-- The start of a class: its bracket, whether it excludes, and the items that stand for themselves
only here, last first. -/
def setOpen : Parse (Bool × List SetTree) := do
  bumpSpace
  let negated := (← next) = '^'
  if negated then bumpSpace
  let items ← leadingHyphens ((← get).rest.length + 1) []
  if items.isEmpty && (← next) = ']' then
    bumpSpace
    let _ ← next
    return (negated, [.literal ']' false])
  else return (negated, items)

/-- The rest of a class up to its closing bracket. `items` are those of the part being read, last
first. -/
def setBody : Nat → Option (SetTree × SetOperator) → List SetTree → Parse SetTree
  | 0, _, _ => failure
  | fuel + 1, before, items => do
    skipSpace
    let c ← next
    let behind ← secondRaw
    if c = '[' then
      match ← asciiItem with
      | some s => setBody fuel before (s :: items)
      | none =>
        let (negated, inner) ← setOpen
        let s ← setBody fuel none inner
        setBody fuel before (.bracket s negated :: items)
    else if c = ']' then
      bump
      return combine before items
    else if c = '&' && behind = some '&' then
      bump
      bump
      setBody fuel (some (combine before items, .inter)) []
    else if c = '-' && behind = some '-' then
      bump
      bump
      setBody fuel (some (combine before items, .diff)) []
    else if c = '~' && behind = some '~' then
      bump
      bump
      setBody fuel (some (combine before items, .symm)) []
    else
      let s ← setItem
      setBody fuel before (s :: items)

def set : Parse Tree := do
  let fuel := (← get).rest.length + 1
  let (negated, items) ← setOpen
  let s ← setBody fuel none items
  return .bracket s negated

def flagOf : Char → Option Flag
  | 'i' => some .ignoreCase
  | 'm' => some .multiLine
  | 's' => some .dotAll
  | 'U' => some .swapGreed
  | 'u' => some .unicode
  | 'R' => some .crlf
  | 'x' => some .spaced
  | _ => none

/-- Flags up to a colon or a closing parenthesis, which is next at the end. `on` tells which way
they are switched; a hyphen may come once and not last. -/
def flags (on : Bool) (dangling : Bool) : Nat → FlagChanges → Parse FlagChanges
  | 0, _ => failure
  | fuel + 1, read => do
    let c ← next
    if c = ':' || c = ')' then
      if dangling then failure else return read.reverse
    else if c = '-' then
      if on then
        bump
        flags false true fuel read
      else failure
    else
      match flagOf c with
      | none => failure
      | some f =>
        if read.any (·.1 == f) then failure
        else
          bump
          flags on false fuel ((f, on) :: read)

/-- The name of a group up to its closing angle, which is taken. -/
def groupName : Nat → List Char → Parse String
  | 0, _ => failure
  | fuel + 1, read => do
    let c ← next
    if c = '>' then
      bump
      if read.isEmpty then failure else return String.ofList read.reverse
    else
      let ok :=
        c = '_' || Unicode.isAlphabetic c.toNat ||
          (!read.isEmpty && (c = '.' || c = '[' || c = ']' || Unicode.isNumeric c.toNat))
      if ok then
        bump
        groupName fuel (c :: read)
      else failure

/-- How a parenthesis opens: flags for what follows, or a group with its index and flags. -/
inductive Opening where
  | flags (changes : FlagChanges)
  | group (index : Option Nat) (changes : FlagChanges)

def newGroup : Parse Nat := do
  modify fun s => { s with groups := s.groups + 1 }
  return (← get).groups

/-- What stands between an opening parenthesis and the content of its group. -/
def opening : Parse Opening := do
  bumpSpace
  if ← bumpIf ['?', '='] then failure
  if ← bumpIf ['?', '!'] then failure
  if ← bumpIf ['?', '<', '='] then failure
  if ← bumpIf ['?', '<', '!'] then failure
  let fuel := (← get).rest.length + 1
  if (← bumpIf ['?', 'P', '<']) || (← bumpIf ['?', '<']) then
    let index ← newGroup
    let name ← groupName fuel []
    if (← get).names.any (·.1 == name) then failure
    modify fun s => { s with names := (name, index) :: s.names }
    return .group (some index) []
  else if ← bumpIf ['?'] then
    let changes ← flags true false fuel []
    let c ← next
    bump
    if c = ')' then
      if changes.isEmpty then failure else return .flags changes
    else return .group none changes
  else
    let index ← newGroup
    return .group (some index) []

/-- Whether spaces are passed over after flag changes. -/
def spacedAfter (changes : FlagChanges) (spaced : Bool) : Bool :=
  ((changes.find? (·.1 == Flag.spaced)).map (·.2)).getD spaced

def dropSpace : Nat → Parse Unit
  | 0 => return ()
  | fuel + 1 => do
    match ← peek with
    | some c =>
      if Unicode.isWhiteSpace c.toNat then
        bump
        dropSpace fuel
      else return ()
    | none => return ()

/-- Digits, appended to those read so far. -/
def decimalDigits : Nat → List Nat → Parse (List Nat)
  | 0, read => return read.reverse
  | fuel + 1, read => do
    match ← peek with
    | some c =>
      if c.isDigit then
        bumpSpace
        decimalDigits fuel ((c.toNat - 48) :: read)
      else return read.reverse
    | none => return read.reverse

/-- A count of 32 bits, with white space around it. `none` if there are no digits. -/
def decimal : Parse (Option Nat) := do
  let fuel := (← get).rest.length + 1
  dropSpace fuel
  let ds ← decimalDigits fuel []
  dropSpace fuel
  if ds.isEmpty then return none
  let n := ds.foldl (fun (v d : Nat) => v * 10 + d) 0
  if n ≤ 0xFFFFFFFF then return some n else failure

/-- A question mark, which turns greed around, if it is next. -/
def lazyMark : Parse Bool := do
  if (← peek) = some '?' then
    bump
    return true
  else return false

/-- How often the last part is repeated, between braces. The opening brace is next. -/
def bounds : Parse (Nat × Option Nat) := do
  bumpSpace
  let _ ← next
  let least ← decimal
  let c ← next
  if c = ',' then
    bumpSpace
    if (← next) = '}' then
      match least with
      | some n => return (n, none)
      | none => failure
    else
      match least with
      | none => failure
      | some n =>
        match ← decimal with
        | none => failure
        | some m => if n ≤ m then return (n, some m) else failure
  else
    match least with
    | some n => return (n, some n)
    | none => failure

/-- Puts a repetition around the part read last. Flags cannot be repeated. -/
def repeatLast (least : Nat) (most : Option Nat) (greedy : Bool) : List Tree → Parse (List Tree)
  | [] => failure
  | .flags _ :: _ => failure
  | t :: rest => return .repeated t least most greedy :: rest

mutual

/-- Alternatives up to a closing parenthesis or the end. -/
def alternatives : Nat → List Tree → Parse Tree
  | 0, _ => failure
  | fuel + 1, read => do
    let t ← sequence fuel []
    if (← peek) = some '|' then
      bump
      alternatives fuel (t :: read)
    else return Tree.ofAlternatives (t :: read).reverse

/-- Parts in a row, those read so far last first, up to a bar, a closing parenthesis or the end. -/
def sequence : Nat → List Tree → Parse Tree
  | 0, _ => failure
  | fuel + 1, read => do
    skipSpace
    match ← peek with
    | none => return Tree.ofSequence read.reverse
    | some c =>
      if c = '|' || c = ')' then return Tree.ofSequence read.reverse
      else if c = '(' then
        match ← opening with
        | .flags changes =>
          modify fun s => { s with spaced := spacedAfter changes s.spaced }
          sequence fuel (.flags changes :: read)
        | .group index changes =>
          let spaced := (← get).spaced
          modify fun s => { s with spaced := spacedAfter changes s.spaced }
          let t ← alternatives fuel []
          if (← next) ≠ ')' then failure
          bump
          modify fun s => { s with spaced }
          sequence fuel (.group index changes t :: read)
      else if c = '[' then
        let t ← set
        sequence fuel (t :: read)
      else if c = '?' then
        bump
        let isLazy ← lazyMark
        sequence fuel (← repeatLast 0 (some 1) (!isLazy) read)
      else if c = '*' then
        bump
        let isLazy ← lazyMark
        sequence fuel (← repeatLast 0 none (!isLazy) read)
      else if c = '+' then
        bump
        let isLazy ← lazyMark
        sequence fuel (← repeatLast 1 none (!isLazy) read)
      else if c = '{' then
        if read.isEmpty then failure
        let (least, most) ← bounds
        if (← next) ≠ '}' then failure
        bumpSpace
        let isLazy ← lazyMark
        sequence fuel (← repeatLast least most (!isLazy) read)
      else
        let p ← primitive
        sequence fuel (p.toTree :: read)

end

end Parse

/-- How deep the parts of a pattern may be nested. -/
def maxNesting : Nat := 250

/-- Reads a pattern. The number and the names of its groups come with it. -/
def parse (pattern : String) : Option (Tree × Nat × List (String × Nat)) := do
  let cs := pattern.toList
  let (t, s) ← (Parse.alternatives (2 * cs.length + 2) []).run { rest := cs }
  if s.rest.isEmpty && t.depth ≤ maxNesting then some (t, s.groups, s.names) else none

end LogPipeline.Pattern
