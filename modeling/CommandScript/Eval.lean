import CommandScript.Arithmetic
import CommandScript.Run

/-!
# Evaluation

One layer of evaluation is a function of the evaluation of the parts (`step`); evaluation with
some fuel is that many layers (`eval`). A property of evaluation is thus proved of one layer, and
holds of all by induction on the fuel.

Expressions are evaluated from left to right. A call looks for the function, checks the number of
arguments and the privilege of the actor, and only then evaluates arguments.

## Main definitions

* `CommandScript.Form.run` — the special forms.
* `CommandScript.Node.runCall` and `CommandScript.Node.step` — a call, and one layer of evaluation.
* `CommandScript.Node.eval` — evaluation.
* `CommandScript.Entry.exec`, `CommandScript.Entry.execDetached` — a function called on values,
  in a running script or without one.
* `CommandScript.execute` — the run of a whole script.
-/

namespace CommandScript

/-- The evaluation of expressions inside a number of procedure calls. -/
abbrev Evaluator : Type := (depth : Nat) → Node → Run Value

/-- The values of expressions, evaluated in order. -/
def evalAll (ev : Node → Run Value) : List Node → Run (List Value)
  | [] => return []
  | n :: ns => do
    let v ← ev n
    let vs ← evalAll ev ns
    return v :: vs

/-- The values of expressions, evaluated in order and followed through slots. -/
def evalResolved (ev : Node → Run Value) (ns : List Node) : Run (List Value) :=
  return (← evalAll ev ns).map Value.resolved

/-- The texts of the values that are not void, of expressions evaluated in order. -/
def evalTexts (ev : Node → Run Value) : List Node → Run (List String)
  | [] => return []
  | n :: ns => do
    let v ← ev n
    if v.isVoid then evalTexts ev ns
    else
      let t ← Run.textOf v
      let ts ← evalTexts ev ns
      return t :: ts

/-- Stops where calls are nested too deeply. -/
def checkDepth (depth : Nat) (what : Nesting) (loc : Location) : Run Unit :=
  if maxCallDepth ≤ depth then Run.fail loc (.tooDeep what) else return ()

namespace Form

/-- The name of the function for a special form. -/
def name : Form → String
  | assign => "assign"
  | forLoop => "for"
  | foreach => "foreach"
  | proc => "proc"
  | eval => "eval"
  | ifElse => "if"
  | conjunction => "and"
  | disjunction => "or"
  | increment => "inc"
  | decrement => "dec"

/-- The expression given as an argument of a form. -/
def part (f : Form) (args : List Node) (i : Nat) (loc : Location) : Run Node :=
  match args[i]? with
  | some n => return n
  | none => Run.fail loc (.missingArgument f.name (i + 1))

/-- The name of the script variable given as an argument of a form. -/
def variableName (f : Form) (position : Nat) : Node → Run String
  | .ivar name _ => return name
  | n => Run.fail n.loc (.notIvar position f.name)

/-- Stores a value in a script variable, and gives it. -/
def runAssign (ev : Node → Run Value) (loc : Location) (args : List Node) : Run Value := do
  let name ← variableName assign 1 (← part assign args 0 loc)
  let value := (← ev (← part assign args 1 loc)).resolved
  Run.modifyEnv (·.setIvar name value)
  return value

/-- A loop with a condition. It starts with an assignment; each round is followed by a step. -/
def runFor (ev : Node → Run Value) (fuel : Nat) (loc : Location) (args : List Node) :
    Run Value := do
  let start ← part forLoop args 0 loc
  match start with
  | .call "assign" _ _ =>
    let condition ← part forLoop args 1 loc
    let next ← part forLoop args 2 loc
    let body ← part forLoop args 3 loc
    let _ ← ev start
    Run.roundsWhile (ev condition) (ev next) (ev body) fuel
    return .void loc
  | _ => Run.fail start.loc .notAssignment

/-- A loop over the cells that an array has when the loop starts. -/
def runForeach (ev : Node → Run Value) (loc : Location) (args : List Node) : Run Value := do
  let name ← variableName foreach 2 (← part foreach args 1 loc)
  let body ← part foreach args 2 loc
  let source ← ev (← part foreach args 0 loc)
  match source.resolved with
  | .array r _ =>
    let cells := (← get).store.cells r
    Run.rounds (fun v => Run.modifyEnv (·.setIvar name v)) (ev body) cells.toList
    return .void loc
  | v => Run.fail loc (.notArray foreach.name v.typeName)

/-- A parameter of a procedure and its default. -/
def parameter (ev : Node → Run Value) (position : Nat) : Node → Run (String × Value)
  | .ivar name loc => return (name, .string "" loc)
  | .call "assign" [target, default] _ => do
    let name ← variableName proc position target
    return (name, (← ev default).resolved)
  | n => Run.fail n.loc (.notParameter position)

/-- The parameters of a procedure, of which the first has the given position. -/
def parameters (ev : Node → Run Value) (position : Nat) : List Node → Run (List (String × Value))
  | [] => return []
  | n :: ns => do
    let p ← parameter ev position n
    let ps ← parameters ev (position + 1) ns
    return p :: ps

/-- Defines a procedure: its name first, its body last, its parameters between them. -/
def runProc (ev : Node → Run Value) (loc : Location) (args : List Node) : Run Value :=
  match args with
  | first :: rest =>
    match rest.getLast? with
    | some body => do
      let name ← Run.textOf (← ev first)
      if isProcedureName name then
        let params ← parameters ev 2 rest.dropLast
        Run.modifyEnv (·.define ⟨name, params, body⟩)
        return .void loc
      else Run.fail first.loc (.badProcedureName name)
    | none => Run.fail loc .noProcedureBody
  | [] => Run.fail loc .noProcedureBody

/-- Compiles a text and evaluates its statements one level deeper. The result is what they give,
as one text. -/
def runEval (lib : Library) (ev : Evaluator) (depth : Nat) (loc : Location) (args : List Node) :
    Run Value := do
  let text ← Run.textOf (← ev depth (← part eval args 0 loc))
  let nodes ← Run.ofCompile loc (lib.compile true text)
  checkDepth depth .eval loc
  match ← evalTexts (ev (depth + 1)) nodes with
  | [] => return .void loc
  | texts => return .string (" ".intercalate texts) loc

/-- A choice between two expressions, of which only one is evaluated. -/
def runIf (ev : Node → Run Value) (loc : Location) (args : List Node) : Run Value := do
  let condition ← ev (← part ifElse args 0 loc)
  if ← Run.isTrue condition then ev (← part ifElse args 1 loc)
  else match args[2]? with
    | some otherwise => ev otherwise
    | none => return .void loc

/-- Evaluates conditions until one of them is not `wanted`; whether all were. -/
def allAre (wanted : Bool) (ev : Node → Run Value) : List Node → Run Bool
  | [] => return true
  | n :: ns => do
    if (← Run.isTrue (← ev n)) = wanted then allAre wanted ev ns else return false

/-- Changes a script variable by an amount, which is one if it is not given. -/
def runStep (f : Form) (ev : Node → Run Value) (loc : Location) (args : List Node) : Run Value := do
  let name ← variableName f 1 (← part f args 0 loc)
  let amount ← match args[1]? with
    | some n => do Run.ofExcept loc (← ev n).number
    | none => pure (.int 1)
  let change ←
    if f = decrement then Run.ofExcept loc (amount.negate f.name) else pure amount
  let current ← match (← Run.env).ivar? name with
    | some v => Run.ofExcept loc v.number
    | none => pure (.int 0)
  let next := (← Run.ofExcept loc (current.add f.name change)).toValue loc
  Run.modifyEnv (·.setIvar name next)
  return next

/-- A special form, given the evaluation of its parts. -/
def run (f : Form) (lib : Library) (ev : Evaluator) (fuel depth : Nat) (loc : Location)
    (args : List Node) : Run Value :=
  match f with
  | assign => runAssign (ev depth) loc args
  | forLoop => runFor (ev depth) fuel loc args
  | foreach => runForeach (ev depth) loc args
  | proc => runProc (ev depth) loc args
  | eval => runEval lib ev depth loc args
  | ifElse => runIf (ev depth) loc args
  | conjunction => return .boolean (← allAre true (ev depth) args) loc
  | disjunction => return .boolean (!(← allAre false (ev depth) args)) loc
  | increment | decrement => runStep f (ev depth) loc args

end Form

/-- What the parameters of a procedure stand for in a call: the arguments, and defaults where there
are none left. -/
def Procedure.bindings (p : Procedure) (values : List Value) : List (String × Value) :=
  p.params.zipIdx.map fun q => (q.1.1, values[q.2]?.getD q.1.2)

/-- The environment with the parameters of a procedure bound, and with all arguments in an array. -/
def Procedure.setUp (p : Procedure) (values : List Value) (arguments : Value) (e : Environment) :
    Environment :=
  ((p.bindings values).foldl (fun e q => e.setIvar q.1 q.2) e).setIvar "arguments" arguments

namespace Node

/-- A call of a procedure. It is looked up before its arguments are evaluated, and its body runs
in a frame of its own, one level deeper. -/
def callProcedure (ev : Evaluator) (depth : Nat) (name : String) (args : List Node)
    (loc : Location) : Run Value := do
  match (← Run.env).procedures.get? name with
  | none => Run.fail loc (.unknownProcedure name)
  | some p =>
    let values ← evalResolved (ev depth) args
    checkDepth depth .procedures loc
    let arguments ← Run.ofCompute (Compute.newArray loc values)
    Run.settle loc (Run.inFrame (p.setUp values arguments) (ev (depth + 1) p.body))

/-- What a function does, on expressions. -/
def apply (lib : Library) (ev : Evaluator) (fuel depth : Nat) (b : Behaviour) (args : List Node)
    (loc : Location) : Run Value :=
  match b with
  | .compute c => do
    let values ← if c.resolves then evalResolved (ev depth) args else evalAll (ev depth) args
    Run.ofCompute (c.run loc values)
  | .contact c => do c.run loc (← evalResolved (ev depth) args)
  | .form f => f.run lib ev fuel depth loc args

/-- A call of a function or procedure. -/
def runCall (lib : Library) (ev : Evaluator) (fuel depth : Nat) (name : String) (args : List Node)
    (loc : Location) : Run Value :=
  if isProcedureName name then callProcedure ev depth name args loc
  else match lib.find? name with
    | none => Run.fail loc (.unknownFunction name)
    | some e => do
      if !e.arity.accepts args.length then Run.fail loc (.wrongCount name e.arity args.length)
      if e.restricted && !(← Run.env).privileged then Run.fail loc (.notPermitted name)
      apply lib ev fuel depth e.behaviour args loc

/-- One layer of evaluation, given the evaluation of the parts. A script variable without a value
is the empty text. -/
def step (lib : Library) (ev : Evaluator) (fuel depth : Nat) : Node → Run Value
  | literal v => return v
  | ivar name loc => return ((← Run.env).ivar? name).getD (.string "" loc)
  | var name loc => return (← Run.env).aliasD name (.string "" loc)
  | call name args loc => runCall lib ev fuel depth name args loc

/-- Evaluation, with fuel for that many layers and for that many rounds of each loop. -/
def eval (lib : Library) : (fuel : Nat) → Evaluator
  | 0 => fun _ _ => Run.outOfFuel
  | fuel + 1 => fun depth n => step lib (eval lib fuel) fuel depth n

end Node

namespace Entry

/-- A function called on values in a running script. -/
def exec (lib : Library) (fuel : Nat) (e : Entry) (loc : Location) (args : List Value) :
    Run Value :=
  match e.behaviour with
  | .compute c => Run.ofCompute (c.run loc args)
  | .contact c => c.run loc args
  | .form f => f.run lib (Node.eval lib fuel) fuel 0 loc (args.map Node.literal)

/-- A function called on values where no script is running. A special form gets an environment of
its own. -/
def execDetached (lib : Library) (fuel : Nat) (e : Entry) (loc : Location) (args : List Value) :
    Run Value :=
  match e.behaviour with
  | .compute c => Run.ofCompute (c.run loc args)
  | .contact c => Run.ofCompute (c.detached loc)
  | .form _ => fun w =>
    let (r, w') := exec lib fuel e loc args { w with env := {} }
    (r, { w' with env := w.env })

/-- What a call without a running script gives when a script is compiled; a halt is a compile
error. -/
def constant (lib : Library) (fuel : Nat) (e : Entry) (loc : Location) (args : List Value)
    (w : World) : Option (Except CompileError Value) × World :=
  match execDetached lib fuel e loc args w with
  | (.ok v, w) => (some (.ok v), w)
  | (.error (.halt (.failure f)), w) => (some (.error (.fold e.name f)), w)
  | (.error (.halt (.signal s)), w) => (some (.error (.fold e.name (s.toFailure loc))), w)
  | (.error .outOfFuel, w) => (none, w)

end Entry

/-- What a script gives. -/
structure Report where
  /-- The last value, or why the script failed. -/
  result : Except Failure Value
  /-- What the statements gave, as one text, unless the script failed. -/
  output : Option String

/-- The end of a script that failed: the failure is sent to the actor. -/
def failed (f : Failure) (w : World) : Report × World :=
  (⟨.error f, none⟩, { w with env := w.env.send f.text })

/-- The end of a script that did not fail, with its last value and the texts so far, the latest
first. -/
def finished (last : Value) (texts : List String) (w : World) : Report × World :=
  (⟨.ok last, some (" ".intercalate texts.reverse)⟩, w)

/-- The run of the statements of a script from a last value and some texts on; nothing if the fuel
is used up. The first statement that halts ends the script. -/
def executeFrom (ev : Node → Run Value) :
    List Node → (last : Value) → (texts : List String) → World → Option (Report × World)
  | [], last, texts, w => some (finished last texts w)
  | n :: ns, last, texts, w =>
    match ev n w with
    | (.ok v, w) => executeFrom ev ns v (if v.isVoid then texts else v.text w.store :: texts) w
    | (.error (.halt (.signal .cancel)), w) => some (finished last texts w)
    | (.error (.halt (.signal s)), w) => some (failed (s.toFailure n.loc) w)
    | (.error (.halt (.failure f)), w) => some (failed f w)
    | (.error .outOfFuel, _) => none

/-- The run of a script. -/
def execute (lib : Library) (fuel : Nat) (nodes : List Node) (w : World) :
    Option (Report × World) :=
  executeFrom (Node.eval lib fuel 0) nodes (.void .unknown) [] w

end CommandScript
