/-!
# Places in a script

A `Location` says where in a script something was written. Tokens, tree nodes, values and
failures all carry one, so that a message can point back at the text.

## Main definitions

* `CommandScript.Location` — a line and a column, both counted from one, with the name of the
  script when it has one.
* `CommandScript.Location.text` — the form in which messages show a place.
-/

namespace CommandScript

/-- A place in a script. Line zero marks a place that is not known. -/
structure Location where
  /-- The name of the script, when it has one. -/
  source : Option String := none
  /-- The line, counted from one. -/
  line : Nat
  /-- The column, counted from one in characters. -/
  column : Nat
deriving DecidableEq, Repr, Inhabited

namespace Location

/-- The place of things that no script text gave rise to. -/
def unknown : Location := { line := 0, column := 0 }

/-- The first character of a script. -/
def start (source : Option String) : Location := { source, line := 1, column := 1 }

/-- The place after the character `c` written at `l`: a line break opens the next line. -/
def next (l : Location) (c : Char) : Location :=
  if c = '\n' then { l with line := l.line + 1, column := 1 }
  else { l with column := l.column + 1 }

/-- The place after the characters `cs` written at `l`. -/
def advance (l : Location) (cs : List Char) : Location := cs.foldl next l

/-- The form in which messages show a place. -/
def text (l : Location) : String :=
  if l.line = 0 then "<unknown>"
  else match l.source with
    | some name => s!"{name}:{l.line}:{l.column}"
    | none => s!"line {l.line}, column {l.column}"

@[simp] theorem advance_nil (l : Location) : l.advance [] = l := rfl

@[simp] theorem advance_cons (l : Location) (c : Char) (cs : List Char) :
    l.advance (c :: cs) = (l.next c).advance cs := rfl

/-- Advancing over two runs of characters is advancing over both at once. -/
theorem advance_append (l : Location) (cs ds : List Char) :
    l.advance (cs ++ ds) = (l.advance cs).advance ds := by
  simp [advance]

end Location

end CommandScript
