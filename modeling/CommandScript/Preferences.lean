import CommandScript.Text.Blank

/-!
# Preferences

A preferences text has one setting on a line, a key and a value with an equals sign between them.
Blank lines and lines that start with a hash mark say nothing. A line that cannot be understood is
reported and changes nothing.

## Main definitions

* `CommandScript.Preferences` — the preferences.
* `CommandScript.Preferences.Line` — what one line says.
* `CommandScript.Preferences.load` — the preferences of a text, and the faults of its lines.

## Main results

* `CommandScript.Preferences.intercalate_lines` — the lines of a text, joined by line breaks, are
  the text.
-/

namespace CommandScript

/-- The preferences. -/
structure Preferences where
  /-- Whether details of a run are logged. -/
  debug : Bool := false
  /-- Whether calls on constants are folded. -/
  folding : Bool := true
  /-- Whether the console may call restricted functions. -/
  privileged : Bool := true
  /-- The name of the console. -/
  sender : String := "~console"
  /-- Whether the faults of the preferences are shown. -/
  warnings : Bool := true
deriving DecidableEq, Repr

namespace Preferences

/-- The preferences that are on or off. -/
inductive Switch where
  | debug
  | folding
  | privileged
  | warnings
deriving DecidableEq, Repr

/-- The key of a switch. -/
def Switch.key : Switch → String
  | debug => "debug-mode"
  | folding => "optimize"
  | privileged => "console-privileged"
  | warnings => "show-warnings"

/-- The switch with a key. -/
def Switch.ofKey? (key : String) : Option Switch :=
  [debug, folding, privileged, warnings].find? (·.key == key)

/-- A change of one preference. -/
inductive Setting where
  /-- Turns a switch on or off. -/
  | turn (s : Switch) (on : Bool)
  /-- Names the console. -/
  | name (sender : String)
deriving DecidableEq, Repr

/-- The preferences after a change. -/
def set (p : Preferences) : Setting → Preferences
  | .turn .debug b => { p with debug := b }
  | .turn .folding b => { p with folding := b }
  | .turn .privileged b => { p with privileged := b }
  | .turn .warnings b => { p with warnings := b }
  | .name n => { p with sender := n }

/-- Why a line cannot be understood. -/
inductive Fault where
  /-- There is no equals sign. -/
  | noSetting (line : String)
  /-- There is no preference with that key. -/
  | unknownKey (key : String)
  /-- A switch is neither on nor off. -/
  | noTruthValue (key value : String)
  /-- The console needs a name. -/
  | noName
deriving DecidableEq, Repr

/-- The message of a fault. -/
def Fault.message : Fault → String
  | noSetting l => s!"expected key=value, found \"{l}\""
  | unknownKey k => s!"unknown preference \"{k}\""
  | noTruthValue k v => s!"{k} expects true or false, found \"{v}\""
  | noName => "sender-name must not be empty"

/-- The truth value that a word spells, in upper or lower case. -/
def truth? (word : String) : Option Bool :=
  match word.map Char.toLower with
  | "true" | "yes" | "on" | "1" => some true
  | "false" | "no" | "off" | "0" => some false
  | _ => none

/-- The setting that a key and a value stand for. -/
def Setting.read (key value : String) : Except Fault Setting :=
  match Switch.ofKey? key with
  | some s =>
    match truth? value with
    | some b => .ok (.turn s b)
    | none => .error (.noTruthValue key value)
  | none =>
    if key = "sender-name" then
      if value.isEmpty then .error .noName else .ok (.name value)
    else .error (.unknownKey key)

/-- What one line says. -/
inductive Line where
  /-- Nothing. -/
  | silent
  /-- A change of one preference. -/
  | setting (s : Setting)
  /-- Something that cannot be understood. -/
  | faulty (f : Fault)
deriving DecidableEq, Repr

/-- What a line without its outer blanks says. -/
def Line.ofStripped (line : List Char) : Line :=
  match line with
  | [] | '#' :: _ => silent
  | _ =>
    match line.span (· != '=') with
    | (_, []) => faulty (.noSetting (String.ofList line))
    | (key, _ :: value) =>
      match Setting.read (String.ofList (Text.strip key)) (String.ofList (Text.strip value)) with
      | .ok s => setting s
      | .error f => faulty f

/-- What a line says. -/
def Line.read (line : List Char) : Line := ofStripped (Text.strip line)

/-- The preferences after a line. -/
def apply (p : Preferences) : Line → Preferences
  | .setting s => p.set s
  | _ => p

/-- A fault and the number of its line. -/
structure Warning where
  /-- The line, counted from one. -/
  line : Nat
  /-- What is wrong with it. -/
  fault : Fault
deriving DecidableEq, Repr

/-- How a warning is shown. -/
def Warning.text (w : Warning) : String := s!"line {w.line}: {w.fault.message}"

/-- The lines of a text. The last one ends with the text. -/
def lines : List Char → List (List Char)
  | [] => [[]]
  | c :: cs =>
    if c = '\n' then [] :: lines cs
    else match lines cs with
      | [] => [[c]]
      | l :: ls => (c :: l) :: ls

/-- What the lines of a text say. -/
def read (text : String) : List Line := (lines text.toList).map Line.read

/-- The faults of lines, of which the first has the given number. -/
def faults (number : Nat) : List Line → List Warning
  | [] => []
  | .faulty f :: ls => ⟨number, f⟩ :: faults (number + 1) ls
  | _ :: ls => faults (number + 1) ls

/-- The preferences that a text gives, from the usual ones on, and the faults of its lines. -/
def load (text : String) : Preferences × List Warning :=
  ((read text).foldl apply {}, faults 1 (read text))

/-- The lines of a text are never none. -/
theorem lines_ne_nil (cs : List Char) : lines cs ≠ [] := by
  cases cs with
  | nil => simp [lines]
  | cons c cs =>
    rw [lines]
    split
    · simp
    · split <;> simp

/-- The lines of a text, joined by line breaks, are the text. -/
theorem intercalate_lines (cs : List Char) : ['\n'].intercalate (lines cs) = cs := by
  induction cs with
  | nil => rfl
  | cons c cs ih =>
    rw [lines]
    split
    · subst c
      obtain ⟨l, ls, h⟩ := List.exists_cons_of_ne_nil (lines_ne_nil cs)
      rw [h] at ih ⊢
      simpa [List.intercalate] using ih
    · split
      · exact absurd ‹_› (lines_ne_nil cs)
      · rename_i l ls h
        rw [h] at ih
        cases ls <;> simp_all [List.intercalate]

end Preferences

end CommandScript
