import CommandScript.Token
import CommandScript.Token.Escape
import CommandScript.Value

/-!
# Pieces of a script

A script text is cut into consecutive pieces: line breaks, other blanks, comments, and the
written forms of tokens. A quote or a block comment that is never closed is a piece of its own,
which runs to the end of the text. Each piece keeps its characters, so that nothing is lost and
the place of every piece can be counted.

## Main definitions

* `CommandScript.Piece` — a run of characters and what it is.
* `CommandScript.Piece.first` — the piece at the front of a text, and the rest.
* `CommandScript.Piece.split` — all pieces of a text.

## Main results

* `CommandScript.Piece.first_append` — a piece and the rest make up the text.
* `CommandScript.Piece.flatMap_split` — the pieces of a text make up the text.
-/

namespace CommandScript

/-- What a piece of a script text is. -/
inductive Piece.Kind where
  /-- A single line break. -/
  | lineBreak
  /-- A single blank other than a line break. -/
  | blank
  /-- A comment. -/
  | comment
  /-- The written form of a token. -/
  | token (kind : Token.Kind)
  /-- A quote that is never closed. -/
  | openQuote
  /-- A block comment that is never closed. -/
  | openComment

/-- A run of characters of a script text, and what it is. -/
structure Piece where
  /-- What the piece is. -/
  kind : Piece.Kind
  /-- The characters of the piece. -/
  chars : List Char

namespace Piece

/-- The characters that a name may start with. -/
def isNameStart (c : Char) : Bool := c.isAlpha || c == '_'

/-- The characters of a name. -/
def isNameChar (c : Char) : Bool := c.isAlphanum || c == '_'

/-- The characters that end a word. -/
def endsWord (c : Char) : Bool :=
  Text.isBlank c || c == '(' || c == ')' || c == '[' || c == ']' || c == ',' || c == '"' ||
    c == '\''

/-- Whether a name could go on with the first of the characters. -/
def startsName (cs : List Char) : Bool := (cs.head?.map isNameChar).getD false

/-- Whether the characters form a name. -/
def isName (cs : List Char) : Bool :=
  match cs with
  | [] => false
  | c :: _ => isNameStart c && cs.all isNameChar

/-- The token that a word stands for: a keyword or number if it spells one, else the word. -/
def wordKind (cs : List Char) : Token.Kind :=
  match Value.ofText (String.ofList cs) .unknown with
  | .int n _ => .int n
  | .double x _ => .double x
  | .boolean b _ => .boolean b
  | .null _ => .null
  | _ => .word (String.ofList cs)

/-- The text of a block comment behind its opening `/*`, up to and with its `*/`, and what
follows it. -/
def commentBody? : List Char → Option (List Char × List Char)
  | [] => none
  | '*' :: '/' :: rest => some (['*', '/'], rest)
  | c :: rest => (commentBody? rest).map fun p => (c :: p.1, p.2)

/-- A token of one character. -/
def single (kind : Token.Kind) (c : Char) (cs : List Char) : Piece × List Char :=
  (⟨.token kind, [c]⟩, cs)

/-- A variable: the mark `c` and a name. -/
def named (kind : String → Token.Kind) (c : Char) (cs : List Char) : Piece × List Char :=
  let name := cs.takeWhile isNameChar
  (⟨.token (kind (String.ofList name)), c :: name⟩, cs.dropWhile isNameChar)

/-- A comment that runs to the end of its line. -/
def lineComment (c : Char) (cs : List Char) : Piece × List Char :=
  (⟨.comment, c :: cs.takeWhile (· ≠ '\n')⟩, cs.dropWhile (· ≠ '\n'))

/-- A comment between `/*` and `*/`; the characters behind the slash are `cs`. -/
def blockComment (c : Char) (cs : List Char) : Piece × List Char :=
  match commentBody? cs.tail with
  | some (body, rest) => (⟨.comment, c :: (cs.take 1 ++ body)⟩, rest)
  | none => (⟨.openComment, c :: cs⟩, [])

/-- A text between two quotes `c`. -/
def quote (c : Char) (cs : List Char) : Piece × List Char :=
  match Escape.body? c cs with
  | some (body, rest) =>
    (⟨.token (.quoted (String.ofList (Escape.undo body))), c :: (body ++ [c])⟩, rest)
  | none => (⟨.openQuote, c :: cs⟩, [])

/-- The word that starts with the character `c`. Directly before an opening parenthesis, a name
is the name of a function. -/
def word (c : Char) (cs : List Char) : Piece × List Char :=
  let text := c :: cs.takeWhile (!endsWord ·)
  let rest := cs.dropWhile (!endsWord ·)
  let kind :=
    if isName text && rest.head? == some '(' then .functionName (String.ofList text)
    else wordKind text
  (⟨.token kind, text⟩, rest)

/-- The piece that starts with the character `c`, before the characters `cs`, and the rest. -/
def first (c : Char) (cs : List Char) : Piece × List Char :=
  if c = '\n' then (⟨.lineBreak, [c]⟩, cs)
  else if Text.isBlank c then (⟨.blank, [c]⟩, cs)
  else if c = '#' then lineComment c cs
  else if c = '/' ∧ cs.head? = some '*' then blockComment c cs
  else if c = '"' ∨ c = '\'' then quote c cs
  else if c = '(' then single .openParen c cs
  else if c = ')' then single .closeParen c cs
  else if c = '[' then single .openBracket c cs
  else if c = ']' then single .closeBracket c cs
  else if c = ',' then single .comma c cs
  else if c = '@' ∧ startsName cs then named .ivar c cs
  else if c = '$' ∧ startsName cs then named .var c cs
  else if Text.isControl c then single (.stray c) c cs
  else word c cs

/-! ## Nothing is lost -/

/-- The pair of a piece and a rest takes the text `c :: cs` apart, with `c` in the piece. -/
def TakesApart (c : Char) (cs : List Char) (p : Piece × List Char) : Prop :=
  ∃ ds, p.1.chars = c :: ds ∧ ds ++ p.2 = cs

/-- The text of a block comment and the rest make up the input. -/
theorem commentBody?_append {cs body rest : List Char} (h : commentBody? cs = some (body, rest)) :
    cs = body ++ rest := by
  fun_induction commentBody? cs generalizing body with
  | case1 => simp at h
  | case2 cs =>
    simp only [Option.some.injEq, Prod.mk.injEq] at h
    obtain ⟨rfl, rfl⟩ := h
    rfl
  | case3 c cs _ ih =>
    obtain ⟨p, hp, he⟩ := Option.map_eq_some_iff.1 h
    obtain ⟨rfl, rfl⟩ := Prod.mk.injEq .. ▸ he
    simp [ih hp]

theorem takesApart_single (kind : Token.Kind) (c : Char) (cs : List Char) :
    TakesApart c cs (single kind c cs) := ⟨[], rfl, rfl⟩

theorem takesApart_named (kind : String → Token.Kind) (c : Char) (cs : List Char) :
    TakesApart c cs (named kind c cs) := ⟨_, rfl, List.takeWhile_append_dropWhile⟩

theorem takesApart_lineComment (c : Char) (cs : List Char) : TakesApart c cs (lineComment c cs) :=
  ⟨_, rfl, List.takeWhile_append_dropWhile⟩

theorem takesApart_word (c : Char) (cs : List Char) : TakesApart c cs (word c cs) :=
  ⟨_, rfl, List.takeWhile_append_dropWhile⟩

theorem takesApart_blockComment (c : Char) (cs : List Char) :
    TakesApart c cs (blockComment c cs) := by
  unfold blockComment
  split
  · rename_i body rest h
    refine ⟨_, rfl, ?_⟩
    rw [List.append_assoc, ← commentBody?_append h, ← List.drop_one]
    exact List.take_append_drop 1 cs
  · exact ⟨cs, rfl, List.append_nil cs⟩

theorem takesApart_quote (c : Char) (cs : List Char) : TakesApart c cs (quote c cs) := by
  unfold quote
  split
  · rename_i body rest h
    exact ⟨_, rfl, by simp [Escape.body?_append h]⟩
  · exact ⟨cs, rfl, List.append_nil cs⟩

theorem TakesApart.ite {c : Char} {cs : List Char} {p q : Piece × List Char} {a : Prop}
    [Decidable a] (hp : TakesApart c cs p) (hq : TakesApart c cs q) :
    TakesApart c cs (if a then p else q) := by
  split
  · exact hp
  · exact hq

/-- The first piece and the rest take a text apart. -/
theorem takesApart_first (c : Char) (cs : List Char) : TakesApart c cs (first c cs) :=
  .ite ⟨[], rfl, rfl⟩ <| .ite ⟨[], rfl, rfl⟩ <|
  .ite (takesApart_lineComment c cs) <| .ite (takesApart_blockComment c cs) <|
  .ite (takesApart_quote c cs) <|
  .ite (takesApart_single _ c cs) <| .ite (takesApart_single _ c cs) <|
  .ite (takesApart_single _ c cs) <| .ite (takesApart_single _ c cs) <|
  .ite (takesApart_single _ c cs) <|
  .ite (takesApart_named _ c cs) <| .ite (takesApart_named _ c cs) <|
  .ite (takesApart_single _ c cs) (takesApart_word c cs)

/-- A piece and the rest make up the text. -/
theorem first_append (c : Char) (cs : List Char) :
    (first c cs).1.chars ++ (first c cs).2 = c :: cs := by
  obtain ⟨ds, hd, ha⟩ := takesApart_first c cs
  rw [hd, List.cons_append, ha]

/-- No piece is empty, so the rest is shorter than the text. -/
theorem length_first_lt (c : Char) (cs : List Char) : (first c cs).2.length < (c :: cs).length := by
  obtain ⟨ds, _, ha⟩ := takesApart_first c cs
  have hl := congrArg List.length ha
  simp only [List.length_append, List.length_cons] at hl ⊢
  omega

/-- All pieces of a text, in order. -/
def split : List Char → List Piece
  | [] => []
  | c :: cs => (first c cs).1 :: split (first c cs).2
termination_by cs => cs.length
decreasing_by exact length_first_lt c cs

/-- The pieces of a text make up the text. -/
theorem flatMap_split (cs : List Char) : (split cs).flatMap Piece.chars = cs := by
  fun_induction split cs with
  | case1 => rfl
  | case2 c cs ih => simp [ih, first_append]

end Piece

end CommandScript
