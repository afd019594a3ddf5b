import CommandScript.Pattern.Bracket

/-!
# Patterns as regular expressions

## Main definitions

* `CommandScript.Pattern.Part` — a part of a pattern that was read.
* `CommandScript.Pattern.Read.alternatives` — reads a whole pattern, or what is inside a group.
* `CommandScript.Pattern.Expr.ofPattern?` — the regular expression that a pattern spells.
-/

namespace CommandScript.Pattern

/-- The deepest nesting in a pattern. -/
def maxDepth : Nat := 250

/-- A part of a pattern that was read. -/
structure Part where
  /-- What it matches. -/
  expr : Expr
  /-- How deeply things are nested in it. -/
  depth : Nat := 0
  /-- Whether it can be repeated. -/
  repeatable : Bool := true

/-- The depth of some parts together. A single part is no deeper than it is on its own. -/
def Part.depthAll : List Part → Nat
  | [] => 0
  | [p] => p.depth
  | ps => 1 + (ps.map Part.depth).foldl max 0

/-- Parts one after another, given the last one first. -/
def Part.seqAll (ps : List Part) : Part :=
  { expr := .seqAll (ps.reverse.map Part.expr), depth := depthAll ps }

/-- Parts to choose from, given the last one first. -/
def Part.altAll (ps : List Part) : Part :=
  { expr := .altAll (ps.reverse.map Part.expr), depth := depthAll ps }

/-- The options with one of them turned on or off, by its letter. -/
def Flags.turn? (f : Flags) (on : Bool) : Char → Option Flags
  | 'i' => some { f with ignoreCase := on }
  | 'm' => some { f with multiLine := on }
  | 's' => some { f with dotAll := on }
  | 'U' => some { f with swapGreed := on }
  | 'u' => some { f with unicode := on }
  | 'R' => some { f with crlf := on }
  | 'x' => some { f with extended := on }
  | _ => none

/-- The options after a list of letters, of which those after a hyphen are turned off. No letter
stands twice, and a hyphen does not stand at the end. -/
def Flags.change? (f : Flags) (on : Bool) (seen : List Char) : List Char → Option Flags
  | [] => some f
  | c :: cs =>
    if seen.contains c then none
    else if c = '-' then if cs.isEmpty then none else f.change? false (c :: seen) cs
    else do (← f.turn? on c).change? on (c :: seen) cs

/-- The characters that a dot stands for. -/
def Flags.dot (f : Flags) : CharSet :=
  if f.dotAll then .univ
  else (CharSet.ofChars (if f.crlf then ['\n', '\r'] else ['\n'])).compl

/-- The start of the text, or of a line. -/
def Flags.lineStart (f : Flags) : Look :=
  if f.multiLine then if f.crlf then .anyLineStart else .lineStart else .textStart

/-- The end of the text, or of a line. -/
def Flags.lineEnd (f : Flags) : Look :=
  if f.multiLine then if f.crlf then .anyLineEnd else .lineEnd else .textEnd

/-- What an opening parenthesis starts. -/
inductive Opening where
  /-- A change of options for the rest of the group around it. -/
  | options (f : Flags)
  /-- A group whose text is kept under a number, if there is one, and the options inside of it. -/
  | group (index : Option Nat) (f : Flags)

/-- The characters that the name of a group may start with. -/
def nameStart : CharSet := Unicode.alphabetic .seventeenth ∪ .singleton '_'

/-- The characters that the name of a group may go on with. -/
def nameRest : CharSet := Unicode.alphanumeric .seventeenth ∪ .ofChars ['_', '.', '[', ']']

/-- Whether some characters are the name of a group. -/
def isName : List Char → Bool
  | [] => false
  | c :: cs => nameStart.contains c && cs.all nameRest.contains

namespace Read

/-- The number of the next group. -/
def nextIndex : Read Nat := do
  let s ← get
  set { s with opened := s.opened + 1 }
  return s.opened + 1

/-- Reads the name of a group, which no other group has. -/
def groupName : Read Unit := do
  let s ← get
  let name := s.rest.takeWhile (· != '>')
  let text := String.ofList name
  if !isName name || s.names.contains text then failure
  set { s with rest := s.rest.drop name.length, names := text :: s.names }
  expect '>'

/-- Reads the name of a group whose text is kept. -/
def namedGroup : Read Opening := do
  let index ← nextIndex
  groupName
  return .group (some index) (← flags)

/-- Reads options and the character that ends them. -/
def options : Read Opening := do
  let s ← get
  let letters := s.rest.takeWhile fun c => c != ':' && c != ')'
  let new ← s.flags.change? true [] letters
  set { s with rest := s.rest.drop letters.length }
  if (← peek) = ':' then
    skip
    return .group none new
  else
    skip
    if letters.isEmpty then failure else return .options new

/-- Reads what follows an opening parenthesis. Conditions on what is further on or back are not
supported. -/
def opening : Read Opening := do
  skip
  skipLayout
  let f ← flags
  let rest := (← get).rest
  if rest.take 2 = "?=".toList || rest.take 2 = "?!".toList || rest.take 3 = "?<=".toList ||
      rest.take 3 = "?<!".toList then failure
  else if ← skip? "?P<" then namedGroup
  else if ← skip? "?<" then namedGroup
  else if ← skip? "?" then options
  else return .group (some (← nextIndex)) f

/-- Reads the mark of a lazy repetition: whether a repetition is greedy. -/
def greedy : Read Bool := do
  let swap := (← flags).swapGreed
  if (← peek?) = some '?' then
    skip
    return swap
  else return !swap

/-- Reads the rest of a repetition: how often at least and at most, and whether it is greedy. -/
def repetition (c : Char) : Read (Nat × Option Nat × Bool) := do
  if c = '\x7b' then
    skipOn
    let _ ← peek
    let least ← number
    let most ← do
      if (← peek) = ',' then
        skipOn
        if (← peek) = '\x7d' then pure none else pure (some (← number))
      else pure (some least)
    expect '\x7d'
    skipLayout
    let g ← greedy
    if most.any (· < least) then failure else return (least, most, g)
  else
    skip
    let g ← greedy
    return (if c = '+' then 1 else 0, if c = '?' then some 1 else none, g)

/-- Reads one character or escape. -/
def single : Read Part := do
  let f ← flags
  let c ← peek
  skip
  let atom ← match c with
    | '.' => if f.unicode then pure (.set f.dot) else failure
    | '^' => pure (.look f.lineStart)
    | '$' => pure (.look f.lineEnd)
    | '\\' => escape
    | c => pure (.literal c false)
  return { expr := ← atomExpr atom }

/-- Reads parts and alternatives up to the end of a group or of the pattern. Both lists of what was
read before have the last one first. -/
def alternatives : (fuel : Nat) → (done : List Part) → (parts : List Part) → Read Part
  | 0, _, _ => failure
  | fuel + 1, done, parts => do
    skipLayout
    match ← peek? with
    | none | some ')' => return .altAll (.seqAll parts :: done)
    | some '|' =>
      skip
      alternatives fuel (.seqAll parts :: done) []
    | some '(' =>
      let outer ← flags
      match ← opening with
      | .options f =>
        setFlags f
        alternatives fuel done ({ expr := .empty, repeatable := false } :: parts)
      | .group index f =>
        setFlags f
        let inner ← alternatives fuel [] []
        expect ')'
        setFlags outer
        let e := match index with
          | some i => .group i inner.expr
          | none => inner.expr
        alternatives fuel done ({ expr := e, depth := 1 + inner.depth } :: parts)
    | some '[' =>
      let s ← bracket
      let e ← atomExpr (.set s.set)
      alternatives fuel done ({ expr := e, depth := s.depth } :: parts)
    | some c =>
      if c = '?' || c = '*' || c = '+' || c = '\x7b' then
        match parts with
        | p :: ps =>
          if !p.repeatable then failure
          let (least, most, g) ← repetition c
          let q : Part := { expr := .repeated least most g p.expr, depth := 1 + p.depth }
          alternatives fuel done (q :: ps)
        | [] => failure
      else alternatives fuel done ((← single) :: parts)

end Read

/-- The regular expression that a pattern spells. -/
def Expr.ofPattern? (pattern : String) : Option Expr := do
  let cs := pattern.toList
  let (p, s) ← (Read.alternatives (cs.length + 1) [] []).run { rest := cs }
  if s.rest.isEmpty && p.depth ≤ maxDepth then some p.expr else none

end CommandScript.Pattern
