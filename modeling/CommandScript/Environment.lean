import CommandScript.Bindings
import CommandScript.Node
import CommandScript.Store

/-!
# The surroundings of a running script

A script runs for an actor on a server, either of which may be missing. Its script variables live
in frames, one per procedure call, of which only the innermost is seen. The host binds the
variables that are written with a dollar sign. What the actor was sent and what the server was
asked to run is recorded.

## Main definitions

* `CommandScript.Actor`, `CommandScript.Server` — whom the script runs for, and where.
* `CommandScript.Environment` — all that surrounds a running script.
* `CommandScript.World` — the environment and the arrays.
-/

namespace CommandScript

/-- Whom a script runs for. -/
structure Actor where
  /-- The name of the actor. -/
  name : String
  /-- Whether the actor may call restricted functions. -/
  privileged : Bool
deriving DecidableEq, Repr

/-- A command that is run for a player. -/
structure Command where
  /-- The player. -/
  player : String
  /-- The command, without its slash. -/
  text : String
deriving DecidableEq, Repr

/-- Where a script runs. What a server answers may depend on the commands it was asked to run
before. -/
structure Server where
  /-- Whether a player is online, after some commands. -/
  online : Array Command → String → Bool
  /-- Whether a command is run, after some commands. -/
  accepts : Array Command → Command → Bool

/-- A procedure that a script has defined. -/
structure Procedure where
  /-- The name. -/
  name : String
  /-- The parameters and their defaults. -/
  params : List (String × Value)
  /-- The body. -/
  body : Node

/-- All that surrounds a running script. -/
structure Environment where
  /-- Whom the script runs for. -/
  actor : Option Actor := none
  /-- Where the script runs. -/
  server : Option Server := none
  /-- The script variables of the innermost frame. -/
  frame : Bindings Value := .empty
  /-- The frames further out, the nearest first. -/
  outer : List (Bindings Value) := []
  /-- The variables that the host has bound. -/
  aliases : Bindings Value := .empty
  /-- The procedures. -/
  procedures : Bindings Procedure := .empty
  /-- What the actor was sent. -/
  heard : Array String := #[]
  /-- What the server was asked to run. -/
  ran : Array Command := #[]

namespace Environment

/-- Whether the actor may call restricted functions; nobody may not. -/
def privileged (e : Environment) : Bool := e.actor.any Actor.privileged

/-- The environment after a message to the actor; without an actor it is lost. -/
def send (e : Environment) (message : String) : Environment :=
  if e.actor.isSome then { e with heard := e.heard.push message } else e

/-- The value of a script variable in the innermost frame. -/
def ivar? (e : Environment) (name : String) : Option Value := e.frame.get? name

/-- The environment with a script variable bound in the innermost frame. -/
def setIvar (e : Environment) (name : String) (v : Value) : Environment :=
  { e with frame := e.frame.insert name v }

/-- The environment with a new, empty frame innermost. -/
def pushFrame (e : Environment) : Environment :=
  { e with frame := .empty, outer := e.frame :: e.outer }

/-- The environment without its innermost frame; the last frame stays. -/
def popFrame (e : Environment) : Environment :=
  match e.outer with
  | [] => e
  | f :: fs => { e with frame := f, outer := fs }

/-- The number of frames. -/
def depth (e : Environment) : Nat := e.outer.length + 1

/-- The value that the host bound to a variable, or else a fallback. -/
def aliasD (e : Environment) (name : String) (fallback : Value) : Value :=
  (e.aliases.get? name).getD fallback

/-- The environment with a variable bound by the host. -/
def setAlias (e : Environment) (name : String) (v : Value) : Environment :=
  { e with aliases := e.aliases.insert name v }

/-- The environment with the variables `$1`, `$2` and so on bound to what some texts spell. -/
def setPositional (e : Environment) (texts : List String) : Environment :=
  (texts.zipIdx 1).foldl (fun e p => e.setAlias s!"{p.2}" (.ofText p.1 .unknown)) e

/-- The environment with a procedure defined under its name. -/
def define (e : Environment) (p : Procedure) : Environment :=
  { e with procedures := e.procedures.insert p.name p }

end Environment

/-- The state of a run: what surrounds the script, and the arrays. -/
structure World where
  /-- What surrounds the script. -/
  env : Environment := {}
  /-- The arrays. -/
  store : Store := .empty

end CommandScript
