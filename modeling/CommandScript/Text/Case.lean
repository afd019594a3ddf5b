import CommandScript.Unicode.Derived

/-!
# Upper and lower case of texts

Case is mapped character by character, where one character may become several. Only the capital
sigma depends on what surrounds it: at the end of a word it has a form of its own.

## Main definitions

* `CommandScript.Text.upper`, `CommandScript.Text.lower` — a text in upper and in lower case.
-/

namespace CommandScript.Text

/-- A text in upper case. -/
def upper (s : String) : String := String.ofList (s.toList.flatMap (Unicode.upperCase))

/-- Characters that case mapping looks through. -/
def ignored : CharSet := Unicode.caseIgnorable .seventeenth

/-- Characters that have a case. -/
def cased : CharSet := Unicode.cased .seventeenth

/-- Whether the first of some characters that case mapping does not look through has a case. -/
def meetsCased (cs : List Char) : Bool := (cs.find? (!ignored.contains ·)).any cased.contains

/-- The lower case of the characters `rest`, which come after the characters `before`, the nearest
first. -/
def lowerFrom (before : List Char) : (rest : List Char) → List Char
  | [] => []
  | c :: rest =>
    (if c = 'Σ' then [if meetsCased before && !meetsCased rest then 'ς' else 'σ']
      else Unicode.lowerCase c) ++ lowerFrom (c :: before) rest

/-- A text in lower case. -/
def lower (s : String) : String := String.ofList (lowerFrom [] s.toList)

end CommandScript.Text
