import CommandScript.Unicode.Property

/-!
# Sets of ASCII characters

## Main definitions

* `CommandScript.Pattern.Ascii.digit`, `CommandScript.Pattern.Ascii.space`,
  `CommandScript.Pattern.Ascii.word` — digits, blanks, and what words are made of.
* `CommandScript.Pattern.Ascii.named?` — the sets with names.
* `CommandScript.Pattern.Ascii.foldCase` — a set with both cases of its letters.
-/

namespace CommandScript.Pattern.Ascii

/-- All ASCII characters. -/
def any : CharSet := .range '\x00' '\x7f'

/-- Digits. -/
def digit : CharSet := .range '0' '9'

/-- Small letters. -/
def lower : CharSet := .range 'a' 'z'

/-- Capital letters. -/
def upper : CharSet := .range 'A' 'Z'

/-- Letters and digits. -/
def alphanumeric : CharSet := digit ∪ upper ∪ lower

/-- The characters that words are made of. -/
def word : CharSet := alphanumeric ∪ .singleton '_'

/-- Blanks. -/
def space : CharSet := .range '\t' '\r' ∪ .singleton ' '

/-- What shows something, a blank apart. -/
def graph : CharSet := .range '!' '~'

/-- The set with a name. -/
def named? : String → Option CharSet
  | "alnum" => some alphanumeric
  | "alpha" => some (upper ∪ lower)
  | "ascii" => some any
  | "blank" => some (.ofChars ['\t', ' '])
  | "cntrl" => some (.range '\x00' '\x1f' ∪ .singleton '\x7f')
  | "digit" => some digit
  | "graph" => some graph
  | "lower" => some lower
  | "print" => some (.range ' ' '~')
  | "punct" => some (graph \ alphanumeric)
  | "space" => some space
  | "upper" => some upper
  | "word" => some word
  | "xdigit" => some (digit ∪ .range 'a' 'f' ∪ .range 'A' 'F')
  | _ => none

/-- A small letter with its capital letter, for all letters. -/
def letters : List (List Char) :=
  (List.range 26).map fun k => [Char.ofNat (97 + k), Char.ofNat (65 + k)]

/-- The set with the upper and lower case of its letters. -/
def foldCase (s : CharSet) : CharSet := s.closeUnder letters

end CommandScript.Pattern.Ascii
