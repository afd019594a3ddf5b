import CommandScript.Pattern.Parser
import CommandScript.Pattern.Search

/-!
# Patterns

A pattern is the text of a regular expression. A search in a text gives the leftmost match; of
several there it gives the one that comes first by the preferences of the expression.

## Main definitions

* `CommandScript.Pattern` — a pattern that was understood.
* `CommandScript.Pattern.parse?` — reads a pattern.
* `CommandScript.Pattern.find?` — the first match in a text, and the texts of its groups.
-/

namespace CommandScript

/-- A pattern that was understood, as a program. -/
structure Pattern where
  /-- The program. -/
  program : Pattern.Program

namespace Pattern

/-- Reads a pattern. -/
def parse? (pattern : String) : Option Pattern :=
  (Expr.ofPattern? pattern).map fun e => ⟨.ofExpr e⟩

/-- The texts between pairs of remembered places. -/
def texts (text : List Char) : List (Option Nat) → List (Option String)
  | start :: stop :: rest =>
    (do return String.ofList ((text.take (← stop)).drop (← start))) :: texts text rest
  | _ => []

/-- The first match in a text: the whole, and then each group, where one that took no part has no
text. -/
def find? (p : Pattern) (text : String) : Option (List (Option String)) :=
  (p.program.search text.toList).map fun slots => texts text.toList slots.toList

end Pattern

end CommandScript
