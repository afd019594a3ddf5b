import CommandScript.Arguments
import CommandScript.Audit
import CommandScript.Builtin
import CommandScript.Description
import CommandScript.Preferences

/-!
# The command line

What the program does for a command line, given ways to read files and the standard input, and the
explanations of invalid patterns.

## Main definitions

* `CommandScript.CommandLine.Host` — the ways to read, and the explanations.
* `CommandScript.CommandLine.Outcome` — what the program writes, and whether it failed.
* `CommandScript.CommandLine.run` — what the program does for a command line.
-/

namespace CommandScript.CommandLine

/-- What a command line needs from outside. What cannot be read gives a reason. -/
structure Host (m : Type → Type) where
  /-- The text of a file. -/
  fileText : String → m (Except String String)
  /-- The text of the standard input. -/
  inputText : m (Except String String)
  /-- The text of the user's own preferences, if there are any. -/
  userPreferences : m (Option (Except String String))
  /-- Why a text is no pattern, if the host can tell. -/
  explain : String → Option String := fun _ => none

/-- What the program writes, and whether it failed. -/
structure Outcome where
  /-- The lines of the standard output. -/
  out : List String := []
  /-- The lines of the standard error. -/
  err : List String := []
  /-- Whether the program failed. -/
  failed : Bool := false
deriving DecidableEq, Repr

/-- The name of the program. -/
def program : String := "mscript"

/-- The line that shows how the program is called. -/
def usage : String :=
  s!"Usage: {program} [-p<prefs>] [-dDV] [-c<script> | -f<file>] [--] [<arg>...]"

/-- A line of the standard error. -/
def complaint (message : String) : String := s!"{program}: {message}"

namespace Outcome

/-- The end of a program that failed with a message. -/
def failure (message : String) : Outcome := { err := [complaint message], failed := true }

/-- The outcome after some lines of the standard error. -/
def after (err : List String) (o : Outcome) : Outcome := { o with err := err ++ o.err }

end Outcome

variable {m : Type → Type} [Monad m]

/-- The preferences that a command line names, or else the user's own, or else the usual ones. -/
def loadPreferences (host : Host m) (path : Option String) :
    m (Except String (Preferences × List Preferences.Warning)) := do
  match path with
  | some p => return (← host.fileText p).map Preferences.load
  | none =>
    match ← host.userPreferences with
    | some text => return text.map Preferences.load
    | none => return .ok ({}, [])

/-- The text of a script, and its name if it has one. -/
def loadScript (host : Host m) : ScriptSource → m (Except String (String × Option String))
  | .stdin => return (← host.inputText).map (·, none)
  | .inline text => return .ok (text, none)
  | .file path => return (← host.fileText path).map (·, some path)

/-- What is written for a report, after what the actor heard. -/
def Outcome.ofReport (r : Report) (heard : List String) : Outcome :=
  let out := heard ++ (r.output.toList.filter (!·.isEmpty))
  match r.result with
  | .ok _ => { out }
  | .error f => { out, err := [complaint f.text], failed := true }

/-- The run of a script for the console; nothing if the fuel is used up. -/
def runScript (lib : Library) (fuel : Nat) (prefs : Preferences) (positional : List String)
    (text : String) (source : Option String) : Option Outcome :=
  match lib.compile prefs.folding text source .empty with
  | (.error e, _) => some (.failure e.message)
  | (.ok nodes, store) =>
    let console : Environment := { actor := some ⟨prefs.sender, prefs.privileged⟩ }
    (execute lib fuel nodes ⟨console.setPositional positional, store⟩).map fun (r, w) =>
      .ofReport r w.env.heard.toList

/-- The audit of all functions. -/
def audit (lib : Library) (fuel : Nat) : Outcome :=
  match lib.audit fuel with
  | [] => { out := [s!"{lib.size} functions validated"] }
  | vs => { err := vs.map (complaint ·.text), failed := true }

/-- What the program does for arguments and preferences. -/
def perform (host : Host m) (fuel : Nat) (args : Arguments) (prefs : Preferences) :
    m (Option Outcome) := do
  let lib := Library.builtin host.explain
  if args.listing then return some { out := lib.describe.flatMap Description.listing }
  else if args.audit then return some (audit lib fuel)
  else match ← loadScript host args.script with
    | .error reason => return some (.failure reason)
    | .ok (text, source) => return runScript lib fuel prefs args.positional text source

/-- What the program does for a command line; nothing if the fuel is used up. -/
def run (host : Host m) (fuel : Nat) (argv : List String) : m (Option Outcome) := do
  match Arguments.parse argv with
  | .error e => return some { Outcome.failure e.message with err := [complaint e.message, usage] }
  | .ok args =>
    match ← loadPreferences host args.preferences with
    | .error reason => return some (.failure s!"preferences: {reason}")
    | .ok (prefs, warnings) =>
      let shown := if prefs.warnings then warnings else []
      return (← perform host fuel args prefs).map
        (.after (shown.map fun w => complaint s!"preferences: {w.text}"))

end CommandScript.CommandLine
