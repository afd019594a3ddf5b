import CommandScript.Node.Fold
import CommandScript.Node.Parser
import CommandScript.Token.Lexer

/-!
# Compiling scripts

## Main definitions

* `CommandScript.Library.compileTokens` — the statements that a list of tokens stands for.
* `CommandScript.Library.compile` — the statements of a text.
-/

namespace CommandScript.Library

/-- The statements that a list of tokens stands for, with calls on constants folded if asked. -/
def compileTokens (lib : Library) (folding : Bool) (ts : List Token) : Compile (List Node) :=
  match Node.parse lib.signature ts with
  | .error e => throw e
  | .ok nodes => if folding then Node.foldAll lib nodes else return nodes

/-- The statements of a text, with calls on constants folded if asked. -/
def compile (lib : Library) (folding : Bool) (text : String) (source : Option String := none) :
    Compile (List Node) :=
  match Token.lex text source with
  | .error e => throw e
  | .ok ts => lib.compileTokens folding ts

end CommandScript.Library
