/-!
# Blank and control characters

The two character classes that the script reader distinguishes beyond ASCII, and removal of
blanks from both ends of a text.

## Main definitions

* `CommandScript.Text.isBlank` — the Unicode property `White_Space`.
* `CommandScript.Text.isControl` — the Unicode general category `Cc`.
* `CommandScript.Text.trim` — a text without its leading and trailing blanks.
-/

namespace CommandScript.Text

/-- A blank is a character with the Unicode property `White_Space`. -/
def isBlank (c : Char) : Bool :=
  let n := c.toNat
  (9 ≤ n && n ≤ 13) || n == 0x20 || n == 0x85 || n == 0xA0 || n == 0x1680 ||
    (0x2000 ≤ n && n ≤ 0x200A) || n == 0x2028 || n == 0x2029 || n == 0x202F || n == 0x205F ||
    n == 0x3000

/-- A control character is one of general category `Cc`. -/
def isControl (c : Char) : Bool :=
  let n := c.toNat
  n < 0x20 || (0x7F ≤ n && n ≤ 0x9F)

/-- The characters left after removing the leading blanks. -/
def stripStart (cs : List Char) : List Char := cs.dropWhile isBlank

/-- The characters left after removing the trailing blanks. -/
def stripEnd (cs : List Char) : List Char := (cs.reverse.dropWhile isBlank).reverse

/-- The characters left after removing the blanks at both ends. -/
def strip (cs : List Char) : List Char := stripEnd (stripStart cs)

/-- The text without its leading and trailing blanks. -/
def trim (s : String) : String := String.ofList (strip s.toList)

end CommandScript.Text
