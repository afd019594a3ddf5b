import CommandScript.CompileError
import CommandScript.Node

/-!
# From tokens to trees

The grammar is

* a script: statements, separated by line breaks;
* a statement, an argument or an index: one or more expressions side by side, where two or more
  stand for a call of `sconcat`;
* an expression: a primary and any number of indices in square brackets, each of which stands for
  a call of `array_get`;
* a primary: a name with its arguments in parentheses, or a single token.

Every call is checked against the functions that exist. Statements, arguments and indices nest at
most `maxNesting` deep. The levels still left are the argument on which the parser recurses, and
its loops end because every part takes tokens away.

## Main definitions

* `CommandScript.Parser` — a reader of tokens that takes at least one.
* `CommandScript.Node.slot` — a statement, an argument or an index.
* `CommandScript.Node.parse` — the statements of a script.
-/

namespace CommandScript

/-- The tokens left when at least one of `ts` was taken. -/
abbrev Shorter (ts : List Token) : Type := { rest : List Token // rest.length < ts.length }

/-- The tokens left when some of `ts`, or none, were taken. -/
abbrev NoLonger (ts : List Token) : Type := { rest : List Token // rest.length ≤ ts.length }

/-- A reader of tokens that takes at least one. -/
abbrev Parser (α : Type) : Type := (ts : List Token) → Except CompileError (α × Shorter ts)

/-- The argument counts of the functions that exist. -/
abbrev Signature : Type := String → Option Arity

namespace Parser

/-- The error for tokens that cannot go on: the first of them, or the end of the script. -/
def reject (ts : List Token) (expected : Expected) : CompileError :=
  match ts with
  | t :: _ => .unexpected t.kind t.loc
  | [] => .unexpectedEnd expected

/-- The error for tokens that nest too deeply, reported at the first of them. -/
def tooDeep (ts : List Token) : CompileError :=
  .tooDeep ((ts.head?.map Token.loc).getD .unknown)

/-- Reads parts with `p` until a token at which to `stop`, or the end. -/
def many {α : Type} (stop : Token.Kind → Bool) (p : Parser α) (ts : List Token) :
    Except CompileError (List α × NoLonger ts) :=
  match ts with
  | [] => .ok ([], ⟨[], Nat.le_refl _⟩)
  | t :: ts =>
    if stop t.kind then .ok ([], ⟨t :: ts, Nat.le_refl _⟩)
    else do
      let (a, ⟨rest, h⟩) ← p (t :: ts)
      let (as, ⟨rest', h'⟩) ← many stop p rest
      return (a :: as, ⟨rest', by omega⟩)
termination_by ts.length
decreasing_by exact h

/-- Reads the arguments of a call of `name`, each with `p`, up to and with the closing
parenthesis. -/
def arguments (name : String) (p : Parser Node) (ts : List Token) :
    Except CompileError (List Node × Shorter ts) := do
  let (a, ⟨rest, h⟩) ← p ts
  match rest, h with
  | ⟨.comma, _⟩ :: rest, h =>
    let (as, ⟨rest', h'⟩) ← arguments name p rest
    return (a :: as, ⟨rest', by simp only [List.length_cons] at h; omega⟩)
  | ⟨.closeParen, _⟩ :: rest, h =>
    return ([a], ⟨rest, by simp only [List.length_cons] at h; omega⟩)
  | rest, _ => throw (reject rest (.closeCall name))
termination_by ts.length
decreasing_by simp only [List.length_cons] at *; omega

end Parser

namespace Node

open CommandScript.Parser

/-- A call, checked against the functions that exist. Procedures are looked up when they are
called. -/
def checkedCall (sig : Signature) (name : String) (args : List Node) (loc : Location) :
    Except CompileError Node :=
  if isProcedureName name then .ok (call name args loc)
  else match sig name with
    | none => .error (.unknownFunction name loc)
    | some arity =>
      if arity.accepts args.length then .ok (call name args loc)
      else .error (.arity name args.length arity loc)

/-- One part stands for itself, several for their call of `sconcat`. -/
def juxtapose (sig : Signature) : List Node → Node → Except CompileError Node
  | [], n => .ok n
  | ns, n => checkedCall sig "sconcat" (n :: ns) n.loc

/-- The expression that a single token stands for. -/
def ofToken? (t : Token) : Option Node :=
  match t.kind with
  | .quoted s | .word s => some (literal (.string s t.loc))
  | .int n => some (literal (.int n t.loc))
  | .double x => some (literal (.double x t.loc))
  | .boolean b => some (literal (.boolean b t.loc))
  | .null => some (literal (.null t.loc))
  | .ivar name => some (ivar name t.loc)
  | .var name => some (var name t.loc)
  | _ => none

/-- Reads a primary, with `argument` for the arguments of a call. -/
def primary (sig : Signature) (argument : Parser Node) : Parser Node
  | [] => .error (.unexpectedEnd .expression)
  | ⟨.functionName name, loc⟩ :: ts =>
    match ts with
    | ⟨.openParen, _⟩ :: ⟨.closeParen, _⟩ :: rest => do
      let node ← checkedCall sig name [] loc
      return (node, ⟨rest, by simp only [List.length_cons]; omega⟩)
    | ⟨.openParen, _⟩ :: rest => do
      let (args, ⟨rest', h⟩) ← arguments name argument rest
      let node ← checkedCall sig name args loc
      return (node, ⟨rest', by simp only [List.length_cons]; omega⟩)
    | ts => .error (reject ts .openParen)
  | t :: ts =>
    match ofToken? t with
    | some node => .ok (node, ⟨ts, by simp⟩)
    | none => .error (.unexpected t.kind t.loc)

/-- Reads one or more expressions side by side, each with `expr`, until `stop`. -/
def juxtaposed (sig : Signature) (stop : Token.Kind → Bool) (expr : Parser Node) : Parser Node
  | [] => .error (.unexpectedEnd .expression)
  | t :: ts =>
    if stop t.kind then .error (.unexpected t.kind t.loc)
    else do
      let (first, ⟨rest, h⟩) ← expr (t :: ts)
      let (others, ⟨rest', h'⟩) ← many stop expr rest
      let node ← juxtapose sig others first
      return (node, ⟨rest', by omega⟩)

mutual

/-- Reads a statement, an argument or an index: expressions side by side until `stop`, with `room`
levels of nesting left. -/
def slot (sig : Signature) : (room : Nat) → (stop : Token.Kind → Bool) → Parser Node
  | 0, _ => fun ts => .error (tooDeep ts)
  | room + 1, stop => juxtaposed sig stop fun ts => do
    let (node, ⟨rest, h⟩) ← primary sig (slot sig room Token.Kind.endsArgument) ts
    let (node', ⟨rest', h'⟩) ← indices sig room node rest
    return (node', ⟨rest', by omega⟩)

/-- Reads the indices that follow an expression. Each index counts as a level for all that follow
it in the same expression. -/
def indices (sig : Signature) : (room : Nat) → (node : Node) → (ts : List Token) →
    Except CompileError (Node × NoLonger ts)
  | 0, node => fun ts =>
    match ts with
    | ⟨.openBracket, l⟩ :: ts => .error (tooDeep (⟨.openBracket, l⟩ :: ts))
    | ts => .ok (node, ⟨ts, Nat.le_refl _⟩)
  | room + 1, node => fun ts =>
    match ts with
    | ⟨.openBracket, _⟩ :: ts => do
      let (index, ⟨rest, h⟩) ← slot sig room Token.Kind.endsIndex ts
      match rest, h with
      | ⟨.closeBracket, _⟩ :: rest, h => do
        let node' ← checkedCall sig "array_get" [node, index] node.loc
        let (node'', ⟨rest', h'⟩) ← indices sig room node' rest
        return (node'', ⟨rest', by simp only [List.length_cons] at *; omega⟩)
      | rest, _ => throw (reject rest .closeBracket)
    | ts => .ok (node, ⟨ts, Nat.le_refl _⟩)

end

/-- Reads statements, each with `statement`, past the line breaks between them. -/
def statements (statement : Parser Node) (ts : List Token) : Except CompileError (List Node) :=
  match ts with
  | [] => .ok []
  | t :: ts =>
    if t.kind.isNewline then statements statement ts
    else do
      let (node, ⟨rest, _⟩) ← statement (t :: ts)
      return node :: (← statements statement rest)
termination_by ts.length
decreasing_by
  · exact Nat.lt_succ_self _
  · assumption

/-- The statements of a script. -/
def parse (sig : Signature) (ts : List Token) : Except CompileError (List Node) :=
  statements (slot sig maxNesting Token.Kind.isNewline) ts

end Node

end CommandScript
