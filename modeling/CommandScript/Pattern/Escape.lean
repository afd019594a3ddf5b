import CommandScript.Pattern.Join
import CommandScript.Pattern.Reader
import CommandScript.Token.Escape

/-!
# Escapes in patterns

## Main definitions

* `CommandScript.Pattern.Atom` — what one character or escape of a pattern stands for.
* `CommandScript.Pattern.Read.escape` — reads what follows a backslash.
-/

namespace CommandScript.Pattern

/-- What one character or escape of a pattern stands for. -/
inductive Atom where
  /-- A character. It may have been written as the two digits of a byte. -/
  | literal (c : Char) (asByte : Bool)
  /-- A set of characters. -/
  | set (s : CharSet)
  /-- A condition on a position. -/
  | look (l : Look)

/-- Whether a backslash before an ASCII character makes it stand for itself. -/
def isEscapable (c : Char) : Bool :=
  c.toNat < 128 && !c.isAlphanum && c != '<' && c != '>'

/-- The character that a letter after a backslash stands for. -/
def control? : Char → Option Char
  | 'a' => some '\x07'
  | 'f' => some '\x0c'
  | 't' => some '\t'
  | 'n' => some '\n'
  | 'r' => some '\r'
  | 'v' => some '\x0b'
  | _ => none

/-- The character whose code some hexadecimal digits spell. -/
def hexChar? (digits : List Char) : Option Char := do
  let values ← digits.mapM Escape.hexDigit?
  let n := values.foldl (fun n v => n * 16 + v) 0
  if values.isEmpty then none else Escape.scalar? n

/-- The characters that the text between the braces of a property stands for, and whether the
others are meant. -/
def property? (text : String) : Option (CharSet × Bool) :=
  let split (sep : String) : Option (String × String) :=
    match text.splitOn sep with
    | name :: value :: values => some (name, sep.intercalate (value :: values))
    | _ => none
  match split "!=" with
  | some (name, value) => (Unicode.valued? name value).map (·, true)
  | none =>
    match (split ":").or (split "=") with
    | some (name, value) => (Unicode.valued? name value).map (·, false)
    | none => (Unicode.named? text).map (·, false)

/-- The characters of a class that is asked for by a letter. -/
def classOf (unicode : Bool) : Char → CharSet
  | 'd' => if unicode then Unicode.decimal else Ascii.digit
  | 's' => if unicode then Unicode.whiteSpace else Ascii.space
  | _ => if unicode then Unicode.word else Ascii.word

namespace Read

/-- Reads a number of hexadecimal digits. -/
def hexDigits : (count : Nat) → Read (List Char)
  | 0 => return []
  | n + 1 => do
    let c ← peek
    skipOn
    let cs ← hexDigits n
    return c :: cs

/-- Reads a character that is given by its code, with a number of digits or between braces. -/
def codePoint (count : Nat) : Read Atom := do
  skipOn
  if (← peek) = '\x7b' then
    skipOn
    let digits ← collect (· != '\x7d')
    expect '\x7d'
    skipLayout
    return .literal (← hexChar? digits) false
  else return .literal (← hexChar? (← hexDigits count)) (count == 2)

/-- Reads a set of characters that is given by a property. -/
def property (negated : Bool) : Read Atom := do
  skipOn
  let c ← peek
  let (s, others) ←
    if c = '\x7b' then
      skipOn
      let name ← collect (· != '\x7d')
      expect '\x7d'
      property? (String.ofList name)
    else if c = '\\' then failure
    else
      skipOn
      (Unicode.named? (String.singleton c)).map (·, false)
  let f ← flags
  if !f.unicode then failure
  let s := f.fold s
  return .set (if negated != others then s.compl else s)

/-- Reads a class that is given by a letter; a capital one stands for the other characters. The
others cannot be meant if only ASCII characters count. -/
def letterClass (c : Char) : Read Atom := do
  skip
  let unicode := (← flags).unicode
  let s := classOf unicode c.toLower
  if c.isUpper then
    if unicode then return .set s.compl else failure
  else return .set s

/-- The condition that a word in braces after `\b` asks for. -/
def boundary? (ascii : Bool) : String → Option Look
  | "start" => some (.wordStart ascii)
  | "end" => some (.wordEnd ascii)
  | "start-half" => some (.noWordBefore ascii)
  | "end-half" => some (.noWordAfter ascii)
  | _ => none

/-- Reads what follows `\b`: a word in braces, unless a repetition follows. -/
def boundary (ascii : Bool) : Read Atom := do
  if (← peek?) = some '\x7b' then
    let before ← get
    skipOn
    let isNameChar := fun c : Char => c.isAlpha || c == '-'
    if isNameChar (← peek) then
      let name ← collect isNameChar
      expect '\x7d'
      return .look (← boundary? ascii (String.ofList name))
    else set before
  return .look (.boundary ascii)

/-- Reads an escape of one letter. -/
def letterEscape (c : Char) : Read Atom := do
  skip
  let ascii := !(← flags).unicode
  if isEscapable c then return .literal c false
  match control? c with
  | some d => return .literal d false
  | none =>
    match c with
    | 'A' => return .look .textStart
    | 'z' => return .look .textEnd
    | 'b' => boundary ascii
    | 'B' => return .look (.noBoundary ascii)
    | '<' => return .look (.wordStart ascii)
    | '>' => return .look (.wordEnd ascii)
    | _ => failure

/-- Reads what follows a backslash. -/
def escape : Read Atom := do
  match ← peek with
  | 'x' => codePoint 2
  | 'u' => codePoint 4
  | 'U' => codePoint 8
  | 'p' => property false
  | 'P' => property true
  | c =>
    if ['d', 's', 'w', 'D', 'S', 'W'].contains c then letterClass c else letterEscape c

/-- The expression for an atom. A byte beyond ASCII is no character if only ASCII characters
count. -/
def atomExpr (a : Atom) : Read Expr := do
  let f ← flags
  match a with
  | .literal c asByte =>
    if asByte && !f.unicode && 128 ≤ c.toNat then failure
    else return .ofSet (f.fold (.singleton c)) (!f.unicode)
  | .set s => return .ofSet s (!f.unicode)
  | .look l => return .look l

end Read

end CommandScript.Pattern
