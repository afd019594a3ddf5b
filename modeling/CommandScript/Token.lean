import CommandScript.Decimal.Shortest
import CommandScript.Location

/-!
# Tokens

The words of a script, each with the place where it was written.

## Main definitions

* `CommandScript.Token.Kind` — what a token says.
* `CommandScript.Token` — a kind and its place.
* `CommandScript.Token.Kind.describe` — how a message names a token.
-/

namespace CommandScript

/-- What a token says. -/
inductive Token.Kind where
  /-- A name directly before an opening parenthesis. -/
  | functionName (name : String)
  /-- A run of characters that is no number and no keyword. -/
  | word (text : String)
  /-- A quoted text, with its escapes undone. -/
  | quoted (text : String)
  /-- An integer of 64 bits. -/
  | int (n : Int64)
  /-- A number with a fraction, or one too large for an integer. -/
  | double (x : Float)
  /-- One of the keywords `true` and `false`. -/
  | boolean (b : Bool)
  /-- The keyword `null`. -/
  | null
  /-- A script variable, written `@name`. -/
  | ivar (name : String)
  /-- A variable that the host binds, written `$name`. -/
  | var (name : String)
  /-- An opening parenthesis. -/
  | openParen
  /-- A closing parenthesis. -/
  | closeParen
  /-- An opening square bracket. -/
  | openBracket
  /-- A closing square bracket. -/
  | closeBracket
  /-- A comma. -/
  | comma
  /-- A line break outside all brackets. -/
  | newline
  /-- A control character, which starts no other token. -/
  | stray (c : Char)

/-- A token and the place where it was written. -/
structure Token where
  /-- What the token says. -/
  kind : Token.Kind
  /-- Where the token was written. -/
  loc : Location

namespace Token.Kind

/-- A control character between quotes, by its code or by its short escape. -/
def quoteControl (c : Char) : String :=
  if c.toNat = 0 then "'\\0'"
  else if c = '\t' then "'\\t'"
  else if c = '\n' then "'\\n'"
  else if c = '\r' then "'\\r'"
  else "'\\u\x7b" ++ String.ofList (Nat.toDigits 16 c.toNat) ++ "\x7d'"

/-- How a message names a token of this kind. -/
def describe : Token.Kind → String
  | functionName n => s!"function name {n}"
  | word w => s!"word '{w}'"
  | quoted _ => "string literal"
  | int n => s!"number {n.toInt}"
  | double x => "number " ++ Decimal.plain x
  | boolean b => s!"keyword {b}"
  | null => "keyword null"
  | ivar n => s!"@{n}"
  | var n => s!"${n}"
  | openParen => "'('"
  | closeParen => "')'"
  | openBracket => "'['"
  | closeBracket => "']'"
  | comma => "','"
  | newline => "line break"
  | stray c => "character " ++ quoteControl c

/-- Whether the token is a line break. -/
def isNewline : Token.Kind → Bool
  | newline => true
  | _ => false

/-- Whether the token ends an argument of a call. -/
def endsArgument : Token.Kind → Bool
  | comma | closeParen => true
  | _ => false

/-- Whether the token ends an index. -/
def endsIndex : Token.Kind → Bool
  | closeBracket => true
  | _ => false

end Token.Kind

end CommandScript
