import CommandScript.Pattern.Expr
import CommandScript.Text.Blank

/-!
# Reading patterns

## Main definitions

* `CommandScript.Pattern.Flags` — the options that hold at some point of a pattern.
* `CommandScript.Pattern.Read` — reading the characters of a pattern, which may fail.
* `CommandScript.Pattern.Read.collect` — reads characters while they satisfy a condition.
-/

namespace CommandScript.Pattern

/-- The options that hold at some point of a pattern. -/
structure Flags where
  /-- Letters match without regard to case. -/
  ignoreCase : Bool := false
  /-- The start and the end of the text are those of each line. -/
  multiLine : Bool := false
  /-- The dot also matches a line break. -/
  dotAll : Bool := false
  /-- Repetitions are lazy unless marked. -/
  swapGreed : Bool := false
  /-- Characters beyond ASCII count. -/
  unicode : Bool := true
  /-- A carriage return may end a line. -/
  crlf : Bool := false
  /-- Blanks and comments in the pattern do not count. -/
  extended : Bool := false
deriving DecidableEq, Repr

/-- A set with the characters that the options add to it. -/
def Flags.fold (f : Flags) (s : CharSet) : CharSet :=
  if f.ignoreCase then if f.unicode then Unicode.foldCase s else Ascii.foldCase s else s

/-- What is left to read, and what was found before. -/
structure Progress where
  /-- The characters that are left. -/
  rest : List Char
  /-- The options that hold. -/
  flags : Flags := {}
  /-- How many groups were opened. -/
  opened : Nat := 0
  /-- The names of groups. -/
  names : List String := []

/-- Reading a pattern, which may fail. -/
abbrev Read : Type → Type := StateT Progress Option

/-- The characters after blanks and comments. A comment ends with its line. -/
def dropLayout (inComment : Bool) : List Char → List Char
  | [] => []
  | c :: cs =>
    if inComment then dropLayout (c != '\n') cs
    else if Text.isBlank c then dropLayout false cs
    else if c = '#' then dropLayout true cs
    else c :: cs

namespace Read

/-- The next character. -/
def peek? : Read (Option Char) := return (← get).rest.head?

/-- The next character, which has to be there. -/
def peek : Read Char := do
  match ← peek? with
  | some c => return c
  | none => failure

/-- The options that hold. -/
def flags : Read Flags := return (← get).flags

/-- Changes the options. -/
def setFlags (f : Flags) : Read Unit := modify fun s => { s with flags := f }

/-- Goes on by one character. -/
def skip : Read Unit := modify fun s => { s with rest := s.rest.tail }

/-- Goes on over blanks and comments, if they do not count. -/
def skipLayout : Read Unit := modify fun s =>
  if s.flags.extended then { s with rest := dropLayout false s.rest } else s

/-- Goes on by one character, and over blanks and comments. -/
def skipOn : Read Unit := do
  skip
  skipLayout

/-- Goes on by one character, which has to be the given one. -/
def expect (c : Char) : Read Unit := do
  if (← peek) = c then skip else failure

/-- Goes on over a text, if it is next. -/
def skip? (text : String) : Read Bool := do
  let s ← get
  let cs := text.toList
  if s.rest.take cs.length = cs then
    set { s with rest := s.rest.drop cs.length }
    return true
  else return false

/-- Reads characters while they satisfy a condition, at most as many as there is fuel. Blanks and
comments after a character are passed over. -/
def collectWith (p : Char → Bool) : (fuel : Nat) → Read (List Char)
  | 0 => return []
  | fuel + 1 => do
    match ← peek? with
    | some c =>
      if p c then
        skipOn
        let cs ← collectWith p fuel
        return c :: cs
      else return []
    | none => return []

/-- Reads characters while they satisfy a condition. -/
def collect (p : Char → Bool) : Read (List Char) := do
  collectWith p (← get).rest.length

/-- Goes on over blanks. -/
def skipBlanks : Read Unit := modify fun s => { s with rest := s.rest.dropWhile Text.isBlank }

/-- Reads a decimal number of at most 32 bits, between blanks. -/
def number : Read Nat := do
  skipBlanks
  let digits ← collect Char.isDigit
  let _ ← collect Text.isBlank
  let n := Unicode.decimalNumber digits
  if digits.isEmpty || n ≥ UInt32.size then failure else return n

end Read

end CommandScript.Pattern
