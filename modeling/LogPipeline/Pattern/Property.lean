import LogPipeline.Pattern.CharSet

/-!
# Properties by name

The names of general categories, scripts and properties that a pattern may use. Names are compared
without case, spaces, hyphens and underscores, and with or without a leading "is".
-/

namespace LogPipeline.Pattern

open Unicode

/-- A name in the form in which names are compared. -/
def plainName (s : String) : String :=
  let keep := fun (cs : List Char) =>
    (cs.filter fun c => c.toNat < 128 && !(c = ' ' || c = '_' || c = '-')).map Char.toLower
  match s.toList with
  | a :: b :: rest =>
    if (a = 'i' || a = 'I') && (b = 's' || b = 'S') then
      let name := keep rest
      String.ofList (if name = ['c'] then ['i', 's', 'c'] else name)
    else String.ofList (keep (a :: b :: rest))
  | cs => String.ofList (keep cs)

/-- The general categories with a name, single or grouped. -/
def categoryNamed? : String → Option NamedClass
  | "any" => some .any
  | "ascii" => some (.property (· < 128))
  | "assigned" => some (.property fun n => categoryOf n != .cn)
  | "lu" | "uppercaseletter" => some (.category [.lu])
  | "ll" | "lowercaseletter" => some (.category [.ll])
  | "lt" | "titlecaseletter" => some (.category [.lt])
  | "lc" | "casedletter" => some (.category [.lu, .ll, .lt])
  | "lm" | "modifierletter" => some (.category [.lm])
  | "lo" | "otherletter" => some (.category [.lo])
  | "l" | "letter" => some (.category [.lu, .ll, .lt, .lm, .lo])
  | "mn" | "nonspacingmark" => some (.category [.mn])
  | "mc" | "spacingmark" => some (.category [.mc])
  | "me" | "enclosingmark" => some (.category [.me])
  | "m" | "mark" | "combiningmark" => some (.category [.mn, .mc, .me])
  | "nd" | "decimalnumber" | "digit" => some (.category [.nd])
  | "nl" | "letternumber" => some (.category [.nl])
  | "no" | "othernumber" => some (.category [.no])
  | "n" | "number" => some (.category [.nd, .nl, .no])
  | "pc" | "connectorpunctuation" => some (.category [.pc])
  | "pd" | "dashpunctuation" => some (.category [.pd])
  | "ps" | "openpunctuation" => some (.category [.ps])
  | "pe" | "closepunctuation" => some (.category [.pe])
  | "pi" | "initialpunctuation" => some (.category [.pi])
  | "pf" | "finalpunctuation" => some (.category [.pf])
  | "po" | "otherpunctuation" => some (.category [.po])
  | "p" | "punctuation" | "punct" => some (.category [.pc, .pd, .ps, .pe, .pi, .pf, .po])
  | "sm" | "mathsymbol" => some (.category [.sm])
  | "sc" | "currencysymbol" => some (.category [.sc])
  | "sk" | "modifiersymbol" => some (.category [.sk])
  | "so" | "othersymbol" => some (.category [.so])
  | "s" | "symbol" => some (.category [.sm, .sc, .sk, .so])
  | "zs" | "spaceseparator" => some (.category [.zs])
  | "zl" | "lineseparator" => some (.category [.zl])
  | "zp" | "paragraphseparator" => some (.category [.zp])
  | "z" | "separator" => some (.category [.zs, .zl, .zp])
  | "cc" | "control" | "cntrl" => some (.category [.cc])
  | "cf" | "format" => some (.category [.cf])
  | "cs" | "surrogate" => some (.category [.cs])
  | "co" | "privateuse" => some (.category [.co])
  | "cn" | "unassigned" => some (.category [.cn])
  | "c" | "other" => some (.category [.cc, .cf, .cs, .co, .cn])
  | _ => none

def propertyNamed? : String → Option (Nat → Bool)
  | "alpha" | "alphabetic" => some isAlphabetic
  | "lower" | "lowercase" => some isLower
  | "upper" | "uppercase" => some isUpper
  | "cased" => some isCased
  | "ci" | "caseignorable" => some isCaseIgnorable
  | "wspace" | "whitespace" | "space" => some isWhiteSpace
  | "math" => some fun n => categoryOf n == .sm || otherMath.contains n
  | "hex" | "hexdigit" => some hexDigits.contains
  | "ahex" | "asciihexdigit" => some fun n => n < 128 && hexDigits.contains n
  | "ids" | "idstart" => some isNameStart
  | "idc" | "idcontinue" => some isNameContinue
  | "xids" | "xidstart" => some fun n => isNameStart n && !unstableStart.contains n
  | "xidc" | "xidcontinue" => some fun n => isNameContinue n && !unstableContinue.contains n
  | "grext" | "graphemeextend" => some isExtend
  | "dash" => some dashes.contains
  | "dia" | "diacritic" => some diacritics.contains
  | "ext" | "extender" => some extenders.contains
  | "qmark" | "quotationmark" => some quotationMarks.contains
  | "ideo" | "ideographic" => some ideographic.contains
  | "uideo" | "unifiedideograph" => some unifiedIdeographs.contains
  | "emoji" => some emoji.contains
  | "epres" | "emojipresentation" => some emojiPresentation.contains
  | "emod" | "emojimodifier" => some fun n => 0x1F3FB ≤ n && n ≤ 0x1F3FF
  | "ebase" | "emojimodifierbase" => some emojiModifierBase.contains
  | "ecomp" | "emojicomponent" => some emojiComponent.contains
  | "extpict" | "extendedpictographic" => some pictographic.contains
  | "sterm" | "sentenceterminal" => some sentenceTerminals.contains
  | "term" | "terminalpunctuation" => some terminalPunctuation.contains
  | "sd" | "softdotted" => some softDotted.contains
  | "di" | "defaultignorablecodepoint" => some defaultIgnorable.contains
  | "joinc" | "joincontrol" => some fun n => n == 0x200C || n == 0x200D
  | "vs" | "variationselector" => some variationSelectors.contains
  | "ri" | "regionalindicator" => some fun n => 0x1F1E6 ≤ n && n ≤ 0x1F1FF
  | "nchar" | "noncharactercodepoint" => some noncharacters.contains
  | "patsyn" | "patternsyntax" => some patternPunctuation.contains
  | "patws" | "patternwhitespace" => some patternSpace.contains
  | "radical" => some radicals.contains
  | "dep" | "deprecated" => some deprecatedCharacters.contains
  | "bidic" | "bidicontrol" => some bidiControls.contains
  | "loe" | "logicalorderexception" => some logicalOrderExceptions.contains
  | _ => none

/-- The class that a single name stands for: a property, a general category or a script. -/
def classNamed? (name : String) : Option NamedClass :=
  let name := plainName name
  match propertyNamed? name with
  | some p => some (.property p)
  | none =>
    match categoryNamed? name with
    | some c => some c
    | none => (scriptNamed? name).map .script

/-- The class that a kind of property and a value stand for. -/
def classValued? (kind value : String) : Option NamedClass :=
  let value := plainName value
  match plainName kind with
  | "gc" | "generalcategory" => categoryNamed? value
  | "sc" | "script" | "scx" | "scriptextensions" => (scriptNamed? value).map .script
  | _ => none

end LogPipeline.Pattern
