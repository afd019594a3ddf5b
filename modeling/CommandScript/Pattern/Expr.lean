import CommandScript.Pattern.Ascii

/-!
# Regular expressions

## Main definitions

* `CommandScript.Pattern.Look` — conditions on the two characters around a position.
* `CommandScript.Pattern.Expr` — regular expressions.
* `CommandScript.Pattern.Expr.takesSome` — whether an expression takes a character.
-/

namespace CommandScript.Pattern

/-- The conditions on the two characters around a position. Those on words are for all characters
or for ASCII characters only. -/
inductive Look where
  /-- The start of the text. -/
  | textStart
  /-- The end of the text. -/
  | textEnd
  /-- The start of a line. -/
  | lineStart
  /-- The end of a line. -/
  | lineEnd
  /-- The start of a line, where a carriage return may end one. -/
  | anyLineStart
  /-- The end of a line, where a carriage return may end one. -/
  | anyLineEnd
  /-- The start or the end of a word. -/
  | boundary (ascii : Bool)
  /-- Neither the start nor the end of a word. -/
  | noBoundary (ascii : Bool)
  /-- The start of a word. -/
  | wordStart (ascii : Bool)
  /-- The end of a word. -/
  | wordEnd (ascii : Bool)
  /-- No word before. -/
  | noWordBefore (ascii : Bool)
  /-- No word after. -/
  | noWordAfter (ascii : Bool)
deriving DecidableEq, Repr

namespace Look

/-- Whether there is a character that words are made of. -/
def inWord (ascii : Bool) (c : Option Char) : Bool :=
  c.any (if ascii then Ascii.word else Unicode.word).contains

/-- Whether a condition holds between two characters, of which the ends of the text have none. -/
def holds (l : Look) (before after : Option Char) : Bool :=
  match l with
  | textStart => before.isNone
  | textEnd => after.isNone
  | lineStart => before.all (· == '\n')
  | lineEnd => after.all (· == '\n')
  | anyLineStart => before.all (· == '\n') || (before == some '\r' && after != some '\n')
  | anyLineEnd => after.all (· == '\r') || (after == some '\n' && before != some '\r')
  | boundary ascii => inWord ascii before != inWord ascii after
  | noBoundary ascii => inWord ascii before == inWord ascii after
  | wordStart ascii => !inWord ascii before && inWord ascii after
  | wordEnd ascii => inWord ascii before && !inWord ascii after
  | noWordBefore ascii => !inWord ascii before
  | noWordAfter ascii => !inWord ascii after

end Look

/-- Regular expressions. -/
inductive Expr where
  /-- Nothing. -/
  | empty
  /-- No text at all. -/
  | fail
  /-- Some characters in a row. -/
  | literal (cs : List Char)
  /-- One character of a set, which may have been written where only ASCII characters count. -/
  | set (s : CharSet) (ascii : Bool)
  /-- Nothing, where a condition holds. -/
  | look (l : Look)
  /-- One expression after another. -/
  | seq (first second : Expr)
  /-- Either of two expressions, the first one preferred. -/
  | alt (first second : Expr)
  /-- An expression at least and at most some number of times, as often as possible if it is
  greedy and else as seldom as possible. -/
  | loop (least : Nat) (most : Option Nat) (greedy : Bool) (body : Expr)
  /-- An expression whose text is kept under a number. -/
  | group (index : Nat) (body : Expr)
deriving DecidableEq, Inhabited, Repr

namespace Expr

/-- Whether an expression never takes a character. -/
def takesNothing : Expr → Bool
  | empty | look _ => true
  | fail | literal _ | set _ _ => false
  | seq a b | alt a b => a.takesNothing && b.takesNothing
  | loop _ most _ e => most.isSome && e.takesNothing
  | group _ e => e.takesNothing

/-- The least number of characters that an expression takes. Nothing is known if some part of it
matches no text. -/
def leastLength? : Expr → Option Nat
  | empty | look _ => some 0
  | fail => none
  | literal cs => some cs.length
  | set _ _ => some 1
  | seq a b => do return (← a.leastLength?) + (← b.leastLength?)
  | alt a b => do return min (← a.leastLength?) (← b.leastLength?)
  | loop least _ _ e => e.leastLength?.map (least * ·)
  | group _ e => e.leastLength?

/-- Whether an expression is known to take some character. -/
def takesSome (e : Expr) : Bool := e.leastLength?.any (0 < ·)

/-- One more than the highest number of a group. -/
def groups : Expr → Nat
  | empty | fail | literal _ | set _ _ | look _ => 0
  | seq a b | alt a b => max a.groups b.groups
  | loop _ _ _ e => e.groups
  | group i e => max (i + 1) e.groups

end Expr

end CommandScript.Pattern
