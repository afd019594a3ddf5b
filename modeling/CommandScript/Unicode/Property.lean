import CommandScript.Unicode.Age
import CommandScript.Unicode.Break

/-!
# Properties of characters by name

The names by which patterns ask for properties of characters, in the sixteenth edition.

## Main definitions

* `CommandScript.Unicode.binary?`, `CommandScript.Unicode.categorySet?`,
  `CommandScript.Unicode.script?`, `CommandScript.Unicode.age?` — properties, categories, scripts
  and ages by name.
* `CommandScript.Unicode.named?`, `CommandScript.Unicode.valued?` — the characters that a name, or
  a name with a value, stands for.
-/

namespace CommandScript.Unicode

/-- A name without case, blanks, hyphens, underscores and what is not ASCII. A leading `is` does
not count either. -/
def plainName (name : String) : String :=
  let keep (cs : List Char) : String :=
    String.ofList ((cs.filter fun c => c != ' ' && c != '_' && c != '-' && c.toNat < 128).map
      Char.toLower)
  match name.toList with
  | i :: s :: rest =>
    if i.toLower == 'i' && s.toLower == 's' then
      if keep rest == "c" then "isc" else keep rest
    else keep (i :: s :: rest)
  | cs => keep cs

/-- The property with a plain name. -/
def binary? : String → Option CharSet
  | "ahex" | "asciihexdigit" => some asciiHexDigit
  | "alpha" | "alphabetic" => some (alphabetic .sixteenth)
  | "bidic" | "bidicontrol" => some bidiControl
  | "bidim" | "bidimirrored" => some bidiMirrored
  | "ci" | "caseignorable" => some (caseIgnorable .sixteenth)
  | "cased" => some (cased .sixteenth)
  | "cwcf" | "changeswhencasefolded" => some changesWhenCasefolded
  | "cwcm" | "changeswhencasemapped" => some changesWhenCasemapped
  | "cwl" | "changeswhenlowercased" => some changesWhenLowercased
  | "cwt" | "changeswhentitlecased" => some changesWhenTitlecased
  | "cwu" | "changeswhenuppercased" => some changesWhenUppercased
  | "dash" => some dash
  | "dep" | "deprecated" => some deprecated
  | "di" | "defaultignorablecodepoint" => some (defaultIgnorable .sixteenth)
  | "dia" | "diacritic" => some diacritic
  | "ebase" | "emojimodifierbase" => some emojiModifierBase
  | "ecomp" | "emojicomponent" => some emojiComponent
  | "emod" | "emojimodifier" => some emojiModifier
  | "emoji" => some emoji
  | "epres" | "emojipresentation" => some emojiPresentation
  | "ext" | "extender" => some extender
  | "extpict" | "extendedpictographic" => some extendedPictographic
  | "grbase" | "graphemebase" => some graphemeBase
  | "grlink" | "graphemelink" => some graphemeLink
  | "grext" | "graphemeextend" => some (graphemeExtend .sixteenth)
  | "hex" | "hexdigit" => some hexDigit
  | "hyphen" => some hyphen
  | "idcompatmathcontinue" => some idCompatMathContinue
  | "idcompatmathstart" => some idCompatMathStart
  | "idc" | "idcontinue" => some idContinue
  | "ideo" | "ideographic" => some ideographic
  | "ids" | "idstart" => some idStart
  | "idsb" | "idsbinaryoperator" => some idsBinaryOperator
  | "idst" | "idstrinaryoperator" => some idsTrinaryOperator
  | "idsu" | "idsunaryoperator" => some idsUnaryOperator
  | "joinc" | "joincontrol" => some joinControl
  | "loe" | "logicalorderexception" => some logicalOrderException
  | "lower" | "lowercase" => some (lowercase .sixteenth)
  | "math" => some mathematical
  | "mcm" | "modifiercombiningmark" => some modifierCombiningMark
  | "nchar" | "noncharactercodepoint" => some noncharacter
  | "oalpha" | "otheralphabetic" => some otherAlphabetic
  | "odi" | "otherdefaultignorablecodepoint" => some otherDefaultIgnorable
  | "ogrext" | "othergraphemeextend" => some otherGraphemeExtend
  | "oidc" | "otheridcontinue" => some otherIdContinue
  | "oids" | "otheridstart" => some otherIdStart
  | "olower" | "otherlowercase" => some otherLowercase
  | "omath" | "othermath" => some otherMath
  | "oupper" | "otheruppercase" => some otherUppercase
  | "patsyn" | "patternsyntax" => some patternSyntax
  | "patws" | "patternwhitespace" => some patternWhiteSpace
  | "pcm" | "prependedconcatenationmark" => some prependedConcatenationMark
  | "qmark" | "quotationmark" => some quotationMark
  | "radical" => some radical
  | "ri" | "regionalindicator" => some regionalIndicator
  | "sd" | "softdotted" => some softDotted
  | "sterm" | "sentenceterminal" => some sentenceTerminal
  | "term" | "terminalpunctuation" => some terminalPunctuation
  | "uideo" | "unifiedideograph" => some unifiedIdeograph
  | "upper" | "uppercase" => some (uppercase .sixteenth)
  | "vs" | "variationselector" => some variationSelector
  | "space" | "whitespace" | "wspace" => some whiteSpace
  | "xidc" | "xidcontinue" => some (idContinue \ notXidContinue)
  | "xids" | "xidstart" => some (idStart \ notXidStart)
  | _ => none

/-- The categories with a plain name. Surrogates are no characters, so they have none. -/
def categories? : String → Option (List Category)
  | "lu" | "uppercaseletter" => some [.uppercaseLetter]
  | "ll" | "lowercaseletter" => some [.lowercaseLetter]
  | "lt" | "titlecaseletter" => some [.titlecaseLetter]
  | "lc" | "casedletter" => some [.uppercaseLetter, .lowercaseLetter, .titlecaseLetter]
  | "lm" | "modifierletter" => some [.modifierLetter]
  | "lo" | "otherletter" => some [.otherLetter]
  | "l" | "letter" =>
    some [.uppercaseLetter, .lowercaseLetter, .titlecaseLetter, .modifierLetter, .otherLetter]
  | "mn" | "nonspacingmark" => some [.nonspacingMark]
  | "mc" | "spacingmark" => some [.spacingMark]
  | "me" | "enclosingmark" => some [.enclosingMark]
  | "m" | "mark" | "combiningmark" => some [.nonspacingMark, .spacingMark, .enclosingMark]
  | "nd" | "decimalnumber" | "digit" => some [.decimalNumber]
  | "nl" | "letternumber" => some [.letterNumber]
  | "no" | "othernumber" => some [.otherNumber]
  | "n" | "number" => some [.decimalNumber, .letterNumber, .otherNumber]
  | "pc" | "connectorpunctuation" => some [.connectorPunctuation]
  | "pd" | "dashpunctuation" => some [.dashPunctuation]
  | "ps" | "openpunctuation" => some [.openPunctuation]
  | "pe" | "closepunctuation" => some [.closePunctuation]
  | "pi" | "initialpunctuation" => some [.initialPunctuation]
  | "pf" | "finalpunctuation" => some [.finalPunctuation]
  | "po" | "otherpunctuation" => some [.otherPunctuation]
  | "p" | "punctuation" | "punct" =>
    some [.connectorPunctuation, .dashPunctuation, .openPunctuation, .closePunctuation,
      .initialPunctuation, .finalPunctuation, .otherPunctuation]
  | "sm" | "mathsymbol" => some [.mathSymbol]
  | "sc" | "currencysymbol" => some [.currencySymbol]
  | "sk" | "modifiersymbol" => some [.modifierSymbol]
  | "so" | "othersymbol" => some [.otherSymbol]
  | "s" | "symbol" => some [.mathSymbol, .currencySymbol, .modifierSymbol, .otherSymbol]
  | "zs" | "spaceseparator" => some [.spaceSeparator]
  | "zl" | "lineseparator" => some [.lineSeparator]
  | "zp" | "paragraphseparator" => some [.paragraphSeparator]
  | "z" | "separator" => some [.spaceSeparator, .lineSeparator, .paragraphSeparator]
  | "cc" | "control" | "cntrl" => some [.control]
  | "cf" | "format" => some [.format]
  | "co" | "privateuse" => some [.privateUse]
  | "cn" | "unassigned" => some [.unassigned]
  | "c" | "other" => some [.control, .format, .privateUse, .unassigned]
  | _ => none

/-- The characters of the categories with a plain name, or of one of the sets that are asked for
like categories. -/
def categorySet? (name : String) : Option CharSet :=
  match name with
  | "any" => some .univ
  | "assigned" => some (ofCategories .sixteenth [.unassigned]).compl
  | "ascii" => some (.range '\x00' '\x7f')
  | _ => (categories? name).map (ofCategories .sixteenth)

/-- The code of the script with a plain name. -/
def script? (name : String) : Option String := do
  let names ← scriptNames.find? fun names => (names.map plainName).contains name
  names.head?

/-- The characters as old as the edition with a plain name, which is written as `6.1`, or as `v61`
without the dot. -/
def age? (name : String) : Option CharSet := do
  let spelled (edition : String) : Bool :=
    name == edition || name == String.ofList ('v' :: edition.toList.filter (· != '.'))
  let n ← ages.findIdx? fun age => spelled age.1
  return asOldAs (n + 1)

/-- The characters that a name stands for: those with a property, of a category, or of a
script. -/
def named? (name : String) : Option CharSet :=
  let name := plainName name
  match binary? name with
  | some p => some p
  | none =>
    match categorySet? name with
    | some p => some p
    | none => (script? name).map ofScript

/-- The characters for which a property has a value. -/
def valued? (property value : String) : Option CharSet :=
  let value := plainName value
  match plainName property with
  | "gc" | "generalcategory" => categorySet? value
  | "sc" | "script" => (script? value).map ofScript
  | "scx" | "scriptextensions" => (script? value).map usedIn
  | "age" => age? value
  | "gcb" | "graphemeclusterbreak" =>
    (GraphemeClass.named? value).map (firstTaken · graphemeClasses)
  | "wb" | "wordbreak" => (WordClass.named? value).map (firstTaken · wordClasses)
  | "sb" | "sentencebreak" => (SentenceClass.named? value).map (firstTaken · sentenceClasses)
  | _ => none

end CommandScript.Unicode
