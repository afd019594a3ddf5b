import CommandScript.Environment
import CommandScript.Library
import CommandScript.Script

/-!
# Runs

A run changes the world and gives a value or stops. It stops with a halt, or because its fuel is
used up; in both cases the world is the one that it had reached.

## Main definitions

* `CommandScript.Run` — the runs of expressions.
* `CommandScript.Run.ofCompute`, `CommandScript.Run.ofCompile` — computations and compiling as
  runs.
* `CommandScript.Contact.run` — a contact with the actor and the server.
* `CommandScript.Run.round`, `CommandScript.Run.inFrame`, `CommandScript.Run.settle` — what loops
  and procedure calls take up.
-/

namespace CommandScript

/-- What stops a run. -/
inductive Stop where
  /-- A failure or a signal. -/
  | halt (h : Halt)
  /-- The fuel is used up. -/
  | outOfFuel

/-- The runs of expressions, which change the world and may stop. -/
abbrev Run : Type → Type := ExceptT Stop (StateM World)

namespace Run

variable {α : Type}

/-- Stops because the fuel is used up. -/
def outOfFuel : Run α := throw .outOfFuel

/-- Stops with a failure. -/
def fail (loc : Location) (cause : Cause) : Run α := throw (.halt (.failure ⟨cause, loc⟩))

/-- Stops with a signal. -/
def raise (s : Signal) : Run α := throw (.halt (.signal s))

/-- A result that may have failed, with failures reported at a place. -/
def ofExcept (loc : Location) : Except Cause α → Run α
  | .ok a => pure a
  | .error c => fail loc c

/-- A computation, which changes nothing but the arrays. -/
def ofCompute (c : Compute α) : Run α := fun w =>
  match c w.store with
  | (.ok a, s) => (.ok a, { w with store := s })
  | (.error h, s) => (.error (.halt h), { w with store := s })

/-- Compiling, where an error is reported as a failure at a place. -/
def ofCompile (loc : Location) (c : Compile α) : Run α := fun w =>
  match c w.store with
  | (.ok a, s) => (.ok a, { w with store := s })
  | (.error e, s) => (.error (.halt (.failure ⟨.badScript e.message, loc⟩)), { w with store := s })

/-- The environment. -/
def env : Run Environment := return (← get).env

/-- Changes the environment. -/
def modifyEnv (f : Environment → Environment) : Run Unit :=
  modify fun w => { w with env := f w.env }

/-- The text of a value. -/
def textOf (v : Value) : Run String := return v.text (← get).store

/-- A value as a condition. -/
def isTrue (v : Value) : Run Bool := return v.isTrue (← get).store

/-- One round of a loop: whether the loop goes on. A continue ends the round. A break ends the
loop, and goes on to the next loop out if it is for more loops than this one. -/
def round (body : Run Value) : Run Bool := fun w =>
  match body w with
  | (.ok _, w) => (.ok true, w)
  | (.error (.halt (.signal .continueLoop)), w) => (.ok true, w)
  | (.error (.halt (.signal (.breakLoop n))), w) =>
    if n ≤ 1 then (.ok false, w) else (.error (.halt (.signal (.breakLoop (n - 1)))), w)
  | (.error e, w) => (.error e, w)

/-- The rounds of a loop over values, each of which is stored before its round. -/
def rounds (store : Value → Run Unit) (body : Run Value) : List Value → Run Unit
  | [] => return ()
  | v :: vs => do
    store v
    if ← round body then rounds store body vs

/-- The rounds of a loop with a condition, at most as many as there is fuel. -/
def roundsWhile (condition step body : Run Value) : (fuel : Nat) → Run Unit
  | 0 => outOfFuel
  | fuel + 1 => do
    if ← isTrue (← condition) then
      if ← round body then
        let _ ← step
        roundsWhile condition step body fuel

/-- A run with a frame of its own, which is set up first and taken away afterwards, however the
run halts. -/
def inFrame (setUp : Environment → Environment) (body : Run Value) : Run Value := fun w =>
  match body { w with env := setUp w.env.pushFrame } with
  | (.error .outOfFuel, w) => (.error .outOfFuel, w)
  | (r, w) => (r, { w with env := w.env.popFrame })

/-- The result of a procedure call at a place: what its body returns, and else void. Signals for
loops do not leave a procedure. -/
def settle (loc : Location) (body : Run Value) : Run Value := fun w =>
  match body w with
  | (.ok _, w) => (.ok (.void loc), w)
  | (.error (.halt (.signal (.returnValue v))), w) => (.ok v, w)
  | (.error (.halt (.signal (.breakLoop n))), w) =>
    (.error (.halt (.failure ((Signal.breakLoop n).toFailure loc))), w)
  | (.error (.halt (.signal .continueLoop)), w) =>
    (.error (.halt (.failure (Signal.continueLoop.toFailure loc))), w)
  | (.error e, w) => (.error e, w)

end Run

/-- The argument at an index; a missing one is void. -/
def argument (args : List Value) (i : Nat) : Value := args[i]?.getD (.void .unknown)

namespace Contact

/-- The name of the function for a contact. -/
def name : Contact → String
  | msg => "msg"
  | player => "player"
  | runas => "runas"
  | die => "die"

/-- Asks the server to run a command. -/
def dispatch (loc : Location) (server : Server) (c : Command) : Run Value := do
  let ran := (← Run.env).ran
  Run.modifyEnv fun e => { e with ran := e.ran.push c }
  if server.accepts ran c then return .void loc else Run.fail loc (.refused c.text c.player)

/-- Runs a command for a player. The command has to start with a slash, and the player has to be
online; the slash is not part of what the server is asked to run. -/
def runCommand (loc : Location) (player command : String) : Run Value := do
  match (← Run.env).server with
  | none => Run.fail loc .noServer
  | some server =>
    match command.toList with
    | '/' :: text =>
      if server.online (← Run.env).ran player then
        dispatch loc server ⟨player, String.ofList text⟩
      else Run.fail loc (.notOnline player)
    | _ => Run.fail loc .noSlash

/-- A contact with the actor and the server of a running script. -/
def run (c : Contact) (loc : Location) (args : List Value) : Run Value :=
  match c with
  | msg => do
    if (← Run.env).actor.isNone then Run.fail loc .nobody
    let message ← Run.textOf (argument args 0)
    Run.modifyEnv (·.send message)
    return .void loc
  | player => do
    match (← Run.env).actor with
    | some a => return .string a.name loc
    | none => return .null loc
  | runas => do
    let player ← Run.textOf (argument args 0)
    let command ← Run.textOf (argument args 1)
    runCommand loc player command
  | die => do
    match args with
    | v :: _ =>
      let message ← Run.textOf v
      Run.modifyEnv (·.send message)
    | [] => pure ()
    Run.raise .cancel

/-- A contact where no script is running. -/
def detached (c : Contact) (loc : Location) : Compute Value :=
  match c with
  | msg | runas => Compute.fail loc (.noEnvironment c.name)
  | player => return .null loc
  | die => Compute.raise .cancel

end Contact

end CommandScript
