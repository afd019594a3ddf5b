import CommandScript.Unicode.Derived

/-!
# Classes of characters at boundaries

How a character takes part in the boundaries of graphemes, of words and of sentences. The classes
follow from the other properties of a character, but for some characters that are named one by one.
They are listed in an order, and a character belongs to the first class that takes it. All of this
is for the sixteenth edition.

## Main definitions

* `CommandScript.Unicode.firstTaken` — the characters of a class.
* `CommandScript.Unicode.graphemeClasses` — the property `Grapheme_Cluster_Break`.
* `CommandScript.Unicode.wordClasses` — the property `Word_Break`.
* `CommandScript.Unicode.sentenceClasses` — the property `Sentence_Break`.
* `CommandScript.Unicode.GraphemeClass.named?` and so on — the classes by name.
-/

namespace CommandScript.Unicode

/-- The characters of a class: those of its set that no class before it takes. -/
def firstTaken {κ : Type} [DecidableEq κ] (k : κ) : List (κ × CharSet) → CharSet
  | [] => ∅
  | (k', s) :: rest => if k = k' then s else firstTaken k rest \ s

/-- The set of the character with a code. -/
def only (n : Nat) : CharSet := .singleton (Char.ofNat n)

/-! ## Graphemes -/

/-- The classes of characters at the boundaries of graphemes. -/
inductive GraphemeClass where
  | carriageReturn
  | lineFeed
  | control
  | extend
  | joiner
  | regionalIndicator
  | prepended
  | spacingMark
  | leading
  | vowel
  | trailing
  | leadingVowel
  | leadingVowelTrailing
deriving DecidableEq, Repr

/-- Consonants that belong to the grapheme after them. -/
def prepended : CharSet := readSet [
    "d4e 111c2-111c3 113d1 1193f 11941 11a3a 11a84-11a89 11d46 11f02"]

/-- Spacing marks that do not belong to the grapheme before them. -/
def detachedMark : CharSet := readSet [
    "102b-102c 1038 1062-1064 1067-106d 1083 1087-108c 108f 109a-109c 1a61 1a63-1a64 aa7b aa7d",
    "11720-11721"]

/-- Letters that start a syllable block. -/
def leadingJamo : CharSet := readSet ["1100-115f a960-a97c"]

/-- Vowels inside a syllable block, and those that combine like them. -/
def vowelJamo : CharSet := readSet ["1160-11a7 d7b0-d7c6 16d63 16d67-16d6a"]

/-- Letters that end a syllable block. -/
def trailingJamo : CharSet := readSet ["11a8-11ff d7cb-d7fb"]

/-- Syllables that end with a vowel. -/
def openSyllable : CharSet :=
  .ofChars ((List.range 399).map fun k => Char.ofNat (0xAC00 + 28 * k))

/-- The classes at the boundaries of graphemes. -/
def graphemeClasses : List (GraphemeClass × CharSet) := [
    (.carriageReturn, .singleton '\r'),
    (.lineFeed, .singleton '\n'),
    (.joiner, only 0x200D),
    (.extend, graphemeExtend .sixteenth ∪ emojiModifier),
    (.prepended, prependedConcatenationMark ∪ prepended),
    (.control,
      ofCategories .sixteenth [.lineSeparator, .paragraphSeparator, .control, .format] ∪
        (ofCategories .sixteenth [.unassigned] ∩ defaultIgnorable .sixteenth)),
    (.regionalIndicator, regionalIndicator),
    (.spacingMark,
      (ofCategories .sixteenth [.spacingMark] ∪ only 0xE33 ∪ only 0xEB3) \ detachedMark),
    (.leading, leadingJamo),
    (.vowel, vowelJamo),
    (.trailing, trailingJamo),
    (.leadingVowel, openSyllable),
    (.leadingVowelTrailing, readSet ["ac00-d7a3"])]

/-- The class with a plain name. -/
def GraphemeClass.named? : String → Option GraphemeClass
  | "cn" | "control" => some control
  | "cr" => some carriageReturn
  | "ex" | "extend" => some extend
  | "l" => some leading
  | "lf" => some lineFeed
  | "lv" => some leadingVowel
  | "lvt" => some leadingVowelTrailing
  | "pp" | "prepend" => some prepended
  | "ri" | "regionalindicator" => some regionalIndicator
  | "sm" | "spacingmark" => some spacingMark
  | "t" => some trailing
  | "v" => some vowel
  | "zwj" => some joiner
  | _ => none

/-! ## Words -/

/-- The classes of characters at the boundaries of words. -/
inductive WordClass where
  | carriageReturn
  | lineFeed
  | newline
  | extend
  | joiner
  | regionalIndicator
  | format
  | katakana
  | hebrewLetter
  | letter
  | singleQuote
  | doubleQuote
  | midNumberOrLetter
  | midLetter
  | midNumber
  | numeric
  | connector
  | space
deriving DecidableEq, Repr

/-- Characters that words are made of although they are not alphabetic. -/
def wordLetter : CharSet := readSet [
    "2c2-2c5 2d2-2d7 2de-2df 2e5-2eb 2ed 2ef-2ff 55a-55c 55e 58a 5f3 70f a708-a716 a720-a721",
    "a789-a78a ab5b"]

/-- Characters that join words of the script Katakana although they are not of that script alone. -/
def katakanaLetter : CharSet := readSet ["3031-3035 309b-309c 30a0 30fc ff70"]

/-- Letters of scripts that do not mark the boundaries of words. -/
def unspacedLetter : CharSet := readSet [
    "e01-e30 e32-e33 e40-e46 e81-e82 e84 e86-e8a e8c-ea3 ea5 ea7-eb0 eb2-eb3 ebd ec0-ec4 ec6",
    "edc-edf 1000-102a 103f 1050-1055 105a-105d 1061 1065-1066 106e-1070 1075-1081 108e 1780-17b3",
    "17d7 17dc 1950-196d 1970-1974 1980-19ab 19b0-19c9 1a20-1a54 1aa7 a9e0-a9e4 a9e6-a9ef",
    "a9fa-a9fe aa60-aa76 aa7a aa7e-aaaf aab1 aab5-aab6 aab9-aabd aac0 aac2 aadb-aadd 11700-1171a",
    "11740-11746"]

/-- Punctuation between letters and between digits. -/
def midNumberOrLetter : CharSet := readSet ["2e 2018-2019 2024 fe52 ff07 ff0e"]

/-- Punctuation between letters. -/
def midLetter : CharSet := readSet ["3a b7 387 55f 5f4 2027 fe13 fe55 ff1a"]

/-- Punctuation between digits. -/
def midNumber : CharSet := readSet [
    "2c 3b 37e 589 60c-60d 66c 7f8 2044 fe50 fe54 ff0c ff1b"]

/-- Parts of numbers. -/
def numeric : CharSet :=
  ofCategories .sixteenth [.decimalNumber] ∪ readSet ["66b-66c 19da"] ∪
    (prependedConcatenationMark \ only 0x70F)

/-- The classes at the boundaries of words. -/
def wordClasses : List (WordClass × CharSet) := [
    (.carriageReturn, .singleton '\r'),
    (.lineFeed, .singleton '\n'),
    (.newline, readSet ["b-c 85 2028-2029"]),
    (.joiner, only 0x200D),
    (.extend,
      graphemeExtend .sixteenth ∪ ofCategories .sixteenth [.spacingMark] ∪ emojiModifier),
    (.regionalIndicator, regionalIndicator),
    (.format,
      ofCategories .sixteenth [.format] \ (only 0x200B ∪ prependedConcatenationMark)),
    (.katakana, ofScript "Kana" ∪ katakanaLetter),
    (.hebrewLetter, ofScript "Hebr" ∩ ofCategories .sixteenth [.otherLetter]),
    (.doubleQuote, .singleton '"'),
    (.singleQuote, only 0x27),
    (.midNumberOrLetter, midNumberOrLetter),
    (.midLetter, midLetter),
    (.midNumber, midNumber),
    (.numeric, numeric),
    (.connector, ofCategories .sixteenth [.connectorPunctuation] ∪ only 0x202F),
    (.space, ofCategories .sixteenth [.spaceSeparator] \ (only 0xA0 ∪ only 0x2007)),
    (.letter,
      (alphabetic .sixteenth ∪ wordLetter) \ (ideographic ∪ unspacedLetter ∪ ofScript "Hira"))]

/-- The class with a plain name. -/
def WordClass.named? : String → Option WordClass
  | "le" | "aletter" => some letter
  | "cr" => some carriageReturn
  | "dq" | "doublequote" => some doubleQuote
  | "ex" | "extendnumlet" => some connector
  | "extend" => some extend
  | "fo" | "format" => some format
  | "hl" | "hebrewletter" => some hebrewLetter
  | "ka" | "katakana" => some katakana
  | "lf" => some lineFeed
  | "mb" | "midnumlet" => some midNumberOrLetter
  | "ml" | "midletter" => some midLetter
  | "mn" | "midnum" => some midNumber
  | "nl" | "newline" => some newline
  | "nu" | "numeric" => some numeric
  | "ri" | "regionalindicator" => some regionalIndicator
  | "sq" | "singlequote" => some singleQuote
  | "wsegspace" => some space
  | "zwj" => some joiner
  | _ => none

/-! ## Sentences -/

/-- The classes of characters at the boundaries of sentences. -/
inductive SentenceClass where
  | carriageReturn
  | lineFeed
  | separator
  | extend
  | format
  | space
  | lower
  | upper
  | letter
  | numeric
  | fullStop
  | continuation
  | terminal
  | close
deriving DecidableEq, Repr

/-- Lowercase letters that have no part in telling where a sentence starts. -/
def unbicameralLower : CharSet := readSet ["10d0-10fa 10fd-10ff"]

/-- Uppercase letters that have no part in telling where a sentence starts. -/
def unbicameralUpper : CharSet := readSet ["1c90-1cba 1cbd-1cbf"]

/-- Full stops, which may also end an abbreviation. -/
def fullStop : CharSet := readSet ["2e 2024 fe52 ff0e"]

/-- Punctuation after which a sentence goes on. -/
def continuation : CharSet := readSet [
    "2c-2d 3a-3b 37e 55d 60c-60d 7f8 1802 1808 2013-2014 3001 fe10-fe11 fe13-fe14 fe31-fe32",
    "fe50-fe51 fe54-fe55 fe58 fe63 ff0c-ff0d ff1a-ff1b ff64"]

/-- Quotation marks that open as well as close. -/
def neutralQuote : CharSet := readSet ["22 27 275b-2760 2e00-2e01 2e06-2e08 2e0b 1f676-1f678"]

/-- The classes at the boundaries of sentences. -/
def sentenceClasses : List (SentenceClass × CharSet) := [
    (.carriageReturn, .singleton '\r'),
    (.lineFeed, .singleton '\n'),
    (.extend,
      graphemeExtend .sixteenth ∪ ofCategories .sixteenth [.spacingMark] ∪ only 0x200D),
    (.separator, readSet ["85 2028-2029"]),
    (.format,
      ofCategories .sixteenth [.format] \ (prependedConcatenationMark \ only 0x70F)),
    (.space, whiteSpace),
    (.lower, lowercase .sixteenth \ unbicameralLower),
    (.upper,
      ofCategories .sixteenth [.titlecaseLetter] ∪ (uppercase .sixteenth \ unbicameralUpper)),
    (.letter, alphabetic .sixteenth ∪ only 0x5F3),
    (.numeric, numeric),
    (.fullStop, fullStop),
    (.continuation, continuation),
    (.terminal, sentenceTerminal),
    (.close,
      ofCategories .sixteenth [.openPunctuation, .closePunctuation, .initialPunctuation,
        .finalPunctuation] ∪ neutralQuote)]

/-- The class with a plain name. -/
def SentenceClass.named? : String → Option SentenceClass
  | "at" | "aterm" => some fullStop
  | "cl" | "close" => some close
  | "cr" => some carriageReturn
  | "ex" | "extend" => some extend
  | "fo" | "format" => some format
  | "le" | "oletter" => some letter
  | "lf" => some lineFeed
  | "lo" | "lower" => some lower
  | "nu" | "numeric" => some numeric
  | "sc" | "scontinue" => some continuation
  | "se" | "sep" => some separator
  | "sp" => some space
  | "st" | "sterm" => some terminal
  | "up" | "upper" => some upper
  | _ => none

end CommandScript.Unicode
