import CommandScript.Environment
import CommandScript.Library
import CommandScript.Text.Quoted

/-!
# Summaries

## Main definitions

* `CommandScript.Environment.summary` — the actor and the numbers of frames and procedures.
* `CommandScript.Library.summary` — the number of functions.
-/

namespace CommandScript

/-- The actor and the numbers of frames and procedures, for logs. -/
def Environment.summary (e : Environment) : String :=
  let sender := match e.actor with
    | some a => "Some(" ++ Text.quoted a.name ++ ")"
    | none => "None"
  "Environment \x7b sender: " ++ sender ++ s!", frames: {e.depth}, procs: {e.procedures.size} \x7d"

/-- The number of functions, for logs. -/
def Library.summary (lib : Library) : String := s!"Registry \x7b functions: {lib.size} \x7d"

end CommandScript
