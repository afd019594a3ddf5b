import CommandScript.Text.Blank
import CommandScript.Unicode.Case
import CommandScript.Unicode.Category
import CommandScript.Unicode.PropertyTable
import CommandScript.Unicode.Script

/-!
# Derived properties of characters

The properties of characters that follow from their general categories and from tables, each as the
set of the characters that have it. Where both editions of the data are in use, the edition is an
argument; all else is for the sixteenth.

## Main definitions

* `CommandScript.Unicode.alphabetic`, `CommandScript.Unicode.cased` and so on — properties.
* `CommandScript.Unicode.word` — the characters of words.
* `CommandScript.Unicode.printable`, `CommandScript.Unicode.combining` — the characters that show
  something, and those that need another one before them.

## Main results

* `CommandScript.Unicode.contains_whiteSpace` — blanks are the same here and for texts.
-/

namespace CommandScript.Unicode

/-! ## Properties in both editions -/

/-- Characters that count since the seventeenth edition. -/
def since (e : Edition) (s : CharSet) : CharSet := if e = .seventeenth then s else ∅

/-- Lowercase characters. -/
def lowercase (e : Edition) : CharSet :=
  ofCategories e [.lowercaseLetter] ∪ otherLowercase ∪ since e laterLowercase

/-- Uppercase characters. -/
def uppercase (e : Edition) : CharSet := ofCategories e [.uppercaseLetter] ∪ otherUppercase

/-- Alphabetic characters. -/
def alphabetic (e : Edition) : CharSet :=
  ofCategories e (.letterNumber :: Category.ofLetter) ∪ otherAlphabetic ∪ since e laterAlphabetic

/-- Letters, and numbers of any sort. -/
def alphanumeric (e : Edition) : CharSet :=
  alphabetic e ∪ ofCategories e [.decimalNumber, .letterNumber, .otherNumber]

/-- Characters that have a case. -/
def cased (e : Edition) : CharSet :=
  lowercase e ∪ uppercase e ∪ ofCategories e [.titlecaseLetter]

/-- Characters that case mapping looks through. -/
def caseIgnorable (e : Edition) : CharSet :=
  ofCategories e [.nonspacingMark, .enclosingMark, .format, .modifierLetter, .modifierSymbol] ∪
    wordInner

/-- Characters that extend the grapheme before them. -/
def graphemeExtend (e : Edition) : CharSet :=
  ofCategories e [.nonspacingMark, .enclosingMark] ∪ otherGraphemeExtend

/-- Characters that are ignorable by default. -/
def defaultIgnorable (e : Edition) : CharSet :=
  ((ofCategories e [.format] ∪ variationSelector) \ shownFormat) ∪ otherDefaultIgnorable

/-- Blanks. -/
def whiteSpace : CharSet := .ofRanges [
    ('\t', '\r'), (' ', ' '), ('\u0085', '\u0085'), ('\u00a0', '\u00a0'), ('\u1680', '\u1680'),
    ('\u2000', '\u200a'), ('\u2028', '\u2029'), ('\u202f', '\u202f'), ('\u205f', '\u205f'),
    ('\u3000', '\u3000')]

/-- The blanks are those of texts. -/
theorem contains_whiteSpace (c : Char) : whiteSpace.contains c = Text.isBlank c := by
  have turns : whiteSpace.turns = ['\t', '\x0e', ' ', '!', '\u0085', '\u0086', '\u00a0', '\u00a1',
      '\u1680', '\u1681', '\u2000', '\u200b', '\u2028', '\u202a', '\u202f', '\u2030', '\u205f',
      '\u2060', '\u3000', '\u3001'] := by decide
  rw [Bool.eq_iff_iff, CharSet.contains, turns]
  simp [CharSet.inside, Text.isBlank, Char.le_def, UInt32.le_iff_toNat_le]
  omega

/-! ## Properties of the sixteenth edition -/

/-- Mathematical characters. -/
def mathematical : CharSet := ofCategories .sixteenth [.mathSymbol] ∪ otherMath

/-- Characters that are the base of a grapheme. -/
def graphemeBase : CharSet :=
  (ofCategories .sixteenth Category.ofHidden ∪ graphemeExtend .sixteenth).compl

/-- Characters that an identifier may start with. -/
def idStart : CharSet :=
  (ofCategories .sixteenth (.letterNumber :: Category.ofLetter) ∪ otherIdStart) \
    (patternSyntax ∪ patternWhiteSpace)

/-- Characters that an identifier may go on with. -/
def idContinue : CharSet :=
  idStart ∪ otherIdContinue ∪ ofCategories .sixteenth
    [.nonspacingMark, .spacingMark, .decimalNumber, .connectorPunctuation]

/-- Characters that lower case changes. -/
def changesWhenLowercased : CharSet :=
  (lowerShifts.changed ∪ .singleton '\u0130') \ laterCases

/-- Characters that upper case changes. -/
def changesWhenUppercased : CharSet :=
  (upperShifts.changed ∪ .ofChars (longUpperCases.map Prod.fst)) \ laterCases

/-- Characters that title case changes. -/
def changesWhenTitlecased : CharSet := changesWhenUppercased.symmDiff titleUnlikeUpper

/-- Characters that some case mapping changes. -/
def changesWhenCasemapped : CharSet :=
  changesWhenLowercased ∪ changesWhenUppercased ∪ changesWhenTitlecased

/-- Characters that case folding changes. -/
def changesWhenCasefolded : CharSet := changesWhenLowercased.symmDiff foldUnlikeLower

/-- The characters that words are made of. -/
def word : CharSet :=
  alphabetic .sixteenth ∪ joinControl ∪
    ofCategories .sixteenth (.decimalNumber :: .connectorPunctuation :: Category.ofMark)

/-- Decimal digits. -/
def decimal : CharSet := ofCategories .sixteenth [.decimalNumber]

/-! ## Properties of the seventeenth edition -/

/-- Characters that show something when they are printed. A space does, other blanks and what is
ignorable by default do not. -/
def printable : CharSet :=
  (defaultIgnorable .seventeenth ∪
    (ofCategories .seventeenth (.spaceSeparator :: Category.ofHidden) \ .singleton ' ')).compl

/-- Marks that combine with the character before them. -/
def combining : CharSet :=
  ofCategories .seventeenth Category.ofMark ∩ graphemeExtend .seventeenth

end CommandScript.Unicode
