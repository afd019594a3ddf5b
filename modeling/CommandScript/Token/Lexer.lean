import CommandScript.CompileError
import CommandScript.Token.Piece

/-!
# From text to tokens

The pieces of a text are placed one after the other. Blanks and comments leave no token; a line
break leaves one outside of all brackets. Line breaks at the start and at the end of a script,
and those that follow another, are then dropped.

## Main definitions

* `CommandScript.Token.place` — the tokens of a list of pieces.
* `CommandScript.Token.tidy` — tokens without the line breaks that separate nothing.
* `CommandScript.Token.lex` — the tokens of a text.
-/

namespace CommandScript

/-- An opening bracket that waits for its closing one. -/
structure Opener where
  /-- The bracket. -/
  char : Char
  /-- Where it stands. -/
  loc : Location

namespace Token

/-- The brackets that are open after a token at a place. A closing bracket closes the innermost
open one if they match, and otherwise none. -/
def brackets (kind : Kind) (loc : Location) (opened : List Opener) : List Opener :=
  match kind, opened with
  | .openParen, _ => ⟨'(', loc⟩ :: opened
  | .openBracket, _ => ⟨'[', loc⟩ :: opened
  | .closeParen, o :: outer => if o.char = '(' then outer else opened
  | .closeBracket, o :: outer => if o.char = '[' then outer else opened
  | _, _ => opened

/-- The tokens of the pieces that start at a place inside some open brackets. -/
def place (loc : Location) (opened : List Opener) : List Piece → Except CompileError (List Token)
  | [] =>
    match opened with
    | [] => .ok []
    | o :: _ => .error (.unclosed o.char o.loc)
  | p :: ps =>
    let after := loc.advance p.chars
    match p.kind with
    | .lineBreak =>
      if opened.isEmpty then (place after opened ps).map (⟨.newline, loc⟩ :: ·)
      else place after opened ps
    | .blank | .comment => place after opened ps
    | .token kind => (place after (brackets kind loc opened) ps).map (⟨kind, loc⟩ :: ·)
    | .openQuote => .error (.unterminatedString loc)
    | .openComment => .error (.unterminatedComment loc)

/-- The tokens without each line break that follows another, or that comes first if `atStart`,
or that comes last. -/
def tidyFrom (atStart : Bool) : List Token → List Token
  | [] => []
  | t :: ts =>
    if t.kind.isNewline then
      if atStart || ts.all (·.kind.isNewline) then tidyFrom true ts else t :: tidyFrom true ts
    else t :: tidyFrom false ts

/-- The tokens without the line breaks that separate nothing: of those between two statements
only the first stays. -/
def tidy (ts : List Token) : List Token := tidyFrom true ts

/-- The tokens of a text. -/
def lex (text : String) (source : Option String := none) : Except CompileError (List Token) :=
  (place (.start source) [] (Piece.split text.toList)).map tidy

end Token

end CommandScript
