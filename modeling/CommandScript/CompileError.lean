import CommandScript.Failure
import CommandScript.Token

/-!
# Compile errors

## Main definitions

* `CommandScript.CompileError` — why a text is no script.
* `CommandScript.CompileError.message` — its message.
* `CommandScript.CompileError.loc?` — the place that it is about.
-/

namespace CommandScript

/-- The deepest nesting of calls and indices in a script. -/
def maxNesting : Nat := 128

/-- What was still expected at the end of a script. -/
inductive Expected where
  | expression
  | openParen
  | closeBracket
  | closeCall (name : String)
deriving DecidableEq, Repr

/-- How messages show what was expected. -/
def Expected.text : Expected → String
  | expression => "expected an expression"
  | openParen => "expected '('"
  | closeBracket => "expected ']'"
  | closeCall n => s!"unclosed call to {n}()"

/-- Why a text is no script. -/
inductive CompileError where
  /-- A call of a function that is not in the library. -/
  | unknownFunction (name : String) (loc : Location)
  /-- A call with a number of arguments that the function does not accept. -/
  | arity (name : String) (got : Nat) (expected : Arity) (loc : Location)
  /-- A quote that is never closed. -/
  | unterminatedString (loc : Location)
  /-- A block comment that is never closed. -/
  | unterminatedComment (loc : Location)
  /-- A bracket that is never closed. -/
  | unclosed (opener : Char) (loc : Location)
  /-- A token where it cannot stand. -/
  | unexpected (found : Token.Kind) (loc : Location)
  /-- Calls and indices nested too deeply. -/
  | tooDeep (loc : Location)
  /-- The end of the script inside an expression. -/
  | unexpectedEnd (expected : Expected)
  /-- A call on constants that fails. -/
  | fold (name : String) (failure : Failure)

namespace CompileError

/-- The message of a compile error. -/
def message : CompileError → String
  | unknownFunction n l => s!"unknown function {n}() ({l.text})"
  | arity n g a l => s!"{n}() does not accept {g} argument(s); expected {a.text} ({l.text})"
  | unterminatedString l => s!"unterminated string literal starting at {l.text}"
  | unterminatedComment l => s!"unterminated block comment starting at {l.text}"
  | unclosed c l => s!"unclosed '{c}' opened at {l.text}"
  | unexpected k l => s!"unexpected {k.describe} ({l.text})"
  | tooDeep l => s!"expressions nested deeper than {maxNesting} levels ({l.text})"
  | unexpectedEnd e => s!"unexpected end of script; {e.text}"
  | fold n f => s!"could not fold {n}(): {f.text}"

/-- The place that a compile error is about; the end of a script has none. -/
def loc? : CompileError → Option Location
  | unknownFunction _ l | arity _ _ _ l | unterminatedString l | unterminatedComment l
  | unclosed _ l | unexpected _ l | tooDeep l => some l
  | unexpectedEnd _ => none
  | fold _ f => some f.loc

end CompileError

end CommandScript
