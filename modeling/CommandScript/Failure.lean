import CommandScript.Arity
import CommandScript.Value

/-!
# Failures, signals and halts

An evaluation that gives no value halts: with a failure, which is reported to the user, or with
a signal, which an enclosing loop, procedure or run takes up. Each cause of a failure has a kind,
by which functions declare what can go wrong, and a message.

## Main definitions

* `CommandScript.Signal` — break, continue, return and cancel.
* `CommandScript.Cause` — everything that can go wrong in a running script.
* `CommandScript.Cause.kind`, `CommandScript.Cause.message` — its kind and its message.
* `CommandScript.Failure` — a cause and the place it is reported at.
* `CommandScript.Halt` — a failure or a signal.
-/

namespace CommandScript

/-- The kinds of failures. -/
inductive Failure.Kind where
  | cast
  | format
  | insufficientArguments
  | security
  | pluginInternal
  | range
  | indexOverflow
  | nullPointer
  | invalidProcedure
  | misuse
deriving DecidableEq, Repr

namespace Failure.Kind

/-- The kinds, in the order in which they are listed. -/
def all : List Failure.Kind :=
  [cast, format, insufficientArguments, security, pluginInternal, range, indexOverflow, nullPointer,
    invalidProcedure, misuse]

/-- The name that messages use for a kind. -/
def name : Failure.Kind → String
  | cast => "CastException"
  | format => "FormatException"
  | insufficientArguments => "InsufficientArgumentsException"
  | security => "SecurityException"
  | pluginInternal => "PluginInternalException"
  | range => "RangeException"
  | indexOverflow => "IndexOverflowException"
  | nullPointer => "NullPointerException"
  | invalidProcedure => "InvalidProcedureException"
  | misuse => "MisuseException"

/-- The kind with a name. -/
def ofName? (n : String) : Option Failure.Kind := all.find? (·.name == n)

end Failure.Kind

/-- The kinds of signals. -/
inductive Signal.Kind where
  | breakLoop
  | continueLoop
  | returnValue
  | cancel
deriving DecidableEq, Repr

namespace Signal.Kind

/-- The name of a kind of signal. -/
def name : Signal.Kind → String
  | breakLoop => "Break"
  | continueLoop => "Continue"
  | returnValue => "Return"
  | cancel => "Cancel"

/-- The function that raises signals of a kind. -/
def origin : Signal.Kind → String
  | breakLoop => "break()"
  | continueLoop => "continue()"
  | returnValue => "return()"
  | cancel => "die()"

/-- Where a signal of a kind does not belong. -/
def outside : Signal.Kind → String
  | breakLoop | continueLoop => "outside of a loop"
  | returnValue => "outside of a procedure"
  | cancel => "where it cannot be handled"

end Signal.Kind

/-- A signal travels outward until something takes it up. -/
inductive Signal where
  /-- Leaves that many loops. -/
  | breakLoop (levels : Nat)
  /-- Goes on with the next round of a loop. -/
  | continueLoop
  /-- Leaves a procedure with a value. -/
  | returnValue (value : Value)
  /-- Ends the script. -/
  | cancel

/-- The kind of a signal. -/
def Signal.kind : Signal → Signal.Kind
  | breakLoop _ => .breakLoop
  | continueLoop => .continueLoop
  | returnValue _ => .returnValue
  | cancel => .cancel

/-- The things that stand under a limit on nested calls. -/
inductive Nesting where
  | procedures
  | eval
deriving DecidableEq, Repr

/-- How messages name the things under the limit. -/
def Nesting.text : Nesting → String
  | procedures => "procedure calls"
  | eval => "eval()"

/-- The deepest nesting of procedure calls and evaluated texts. -/
def maxCallDepth : Nat := 128

/-- Everything that can go wrong in a running script. -/
inductive Cause where
  /-- A text that spells no number. -/
  | notNumeric (text : String)
  /-- A value of a type that has no numbers. -/
  | noNumber (typeName : String)
  /-- A value that has no elements. -/
  | notIndexable (typeName : String)
  /-- A value that is no array, given to a function on arrays. -/
  | notArray (function typeName : String)
  /-- An argument that is no script variable. -/
  | notIvar (position : Nat) (function : String)
  /-- A parameter of a procedure that is no script variable, with or without default. -/
  | notParameter (position : Nat)
  /-- A loop that starts with something other than an assignment. -/
  | notAssignment
  /-- An index that is no integer. -/
  | notIndex (index : String)
  /-- An invalid regular expression, and why it is none if that is known. -/
  | badPattern (pattern : String) (explanation : Option String)
  /-- A name without the mark of procedures. -/
  | badProcedureName (name : String)
  /-- A text that does not compile, and why. -/
  | badScript (reason : String)
  /-- A command without its slash. -/
  | noSlash
  /-- A player who is not online. -/
  | notOnline (player : String)
  /-- A command that the server does not run. -/
  | refused (command player : String)
  /-- A call with a number of arguments that the function does not accept. -/
  | wrongCount (function : String) (expected : Arity) (got : Nat)
  /-- An argument that a special form needs and did not get. -/
  | missingArgument (function : String) (position : Nat)
  /-- A procedure without name or body. -/
  | noProcedureBody
  /-- A restricted function, called for an actor without privilege. -/
  | notPermitted (function : String)
  /-- A digest that is not known. -/
  | noDigest (algorithm : String)
  /-- An integer result outside the range of 64 bits. -/
  | overflow (function : String)
  /-- A division by zero. -/
  | divisionByZero
  /-- A remainder modulo zero. -/
  | modulusByZero
  /-- A break out of fewer than one loops. -/
  | badLevels (levels : Int64)
  /-- Calls nested too deeply. -/
  | tooDeep (what : Nesting)
  /-- An index outside a text. -/
  | outsideString (index : Int64) (length : Nat)
  /-- An index outside an array. -/
  | outsideArray (index : Int64) (size : Nat)
  /-- A function that needs a running script. -/
  | noEnvironment (function : String)
  /-- A message without a receiver. -/
  | nobody
  /-- A command without a server. -/
  | noServer
  /-- A function that is not in the library. -/
  | unknownFunction (name : String)
  /-- A procedure that is not defined. -/
  | unknownProcedure (name : String)
  /-- A change of a slot that is final. -/
  | finalSlot (name : String)
  /-- A signal that nothing takes up. -/
  | stray (signal : Signal.Kind)
  /-- A failure of a function of the host. -/
  | host (kind : Failure.Kind) (message : String)
deriving DecidableEq

namespace Cause

/-- The kind of a cause. -/
def kind : Cause → Failure.Kind
  | notNumeric _ | noNumber _ | notIndexable _ | notArray .. | notIvar .. | notParameter _
  | notAssignment => .cast
  | notIndex _ | badPattern .. | badProcedureName _ | badScript _ | noSlash | notOnline _
  | refused .. => .format
  | wrongCount .. | missingArgument .. | noProcedureBody => .insufficientArguments
  | notPermitted _ => .security
  | noDigest _ => .pluginInternal
  | overflow _ | divisionByZero | modulusByZero | badLevels _ | tooDeep _ => .range
  | outsideString .. | outsideArray .. => .indexOverflow
  | noEnvironment _ | nobody | noServer => .nullPointer
  | unknownFunction _ | unknownProcedure _ => .invalidProcedure
  | finalSlot _ | stray _ => .misuse
  | host k _ => k

/-- The message of a cause. -/
def message : Cause → String
  | notNumeric t => s!"expecting a number, but received \"{t}\""
  | noNumber t => s!"expecting a number, but received a value of type {t}"
  | notIndexable t => s!"a value of type {t} cannot be indexed"
  | notArray f t => s!"{f}() expects an array, but received a value of type {t}"
  | notIvar p f => s!"argument {p} of {f}() must be an ivariable"
  | notParameter p => s!"argument {p} of proc() must be an ivariable or assign(@ivar, default)"
  | notAssignment => "the first argument of for() must be an assign() call"
  | notIndex i => s!"Expecting numerical index, but received {i}"
  | badPattern p none => s!"invalid regular expression \"{p}\""
  | badPattern p (some e) => s!"invalid regular expression \"{p}\": {e}"
  | badProcedureName n => s!"procedure names must start with an underscore, but got \"{n}\""
  | badScript r => s!"eval() could not compile its argument: {r}"
  | noSlash => "runas() commands must start with a /"
  | notOnline p => s!"player {p} is not online"
  | refused c p => s!"the server refused to run /{c} as {p}"
  | wrongCount f a n => s!"{f}() expects {a.text} argument(s), but got {n}"
  | missingArgument f p => s!"{f}() is missing argument {p}"
  | noProcedureBody => "proc() needs at least a name and a body"
  | notPermitted f => s!"you do not have permission to use {f}()"
  | noDigest a => s!"no digest implementation for {a}"
  | overflow f => s!"integer overflow in {f}()"
  | divisionByZero => "division by zero"
  | modulusByZero => "modulus by zero"
  | badLevels n => s!"break() needs at least 1 level, got {n.toInt}"
  | tooDeep w => s!"{w.text} nested deeper than {maxCallDepth} calls"
  | outsideString i n => s!"index {i.toInt} is out of bounds for a string of length {n}"
  | outsideArray i n => s!"index {i.toInt} is out of bounds for an array of size {n}"
  | noEnvironment f => s!"{f}() needs a running script environment"
  | nobody => "msg() has nobody to send to"
  | noServer => "runas() has no server to run on"
  | unknownFunction n => s!"unknown function {n}()"
  | unknownProcedure n => s!"unknown procedure {n}"
  | finalSlot n => s!"${n} is final and cannot be reassigned"
  | stray k => s!"{k.origin} used {k.outside}"
  | host _ m => m

end Cause

/-- A cause and the place that it is reported at. -/
structure Failure where
  /-- What went wrong. -/
  cause : Cause
  /-- Where it is reported. -/
  loc : Location
deriving DecidableEq

namespace Failure

/-- The kind of a failure. -/
def kind (f : Failure) : Failure.Kind := f.cause.kind

/-- The message of a failure. -/
def message (f : Failure) : String := f.cause.message

/-- The line that reports a failure. -/
def text (f : Failure) : String := s!"{f.kind.name}: {f.message} ({f.loc.text})"

end Failure

/-- The failure that a signal becomes where nothing takes it up. -/
def Signal.toFailure (s : Signal) (loc : Location) : Failure := ⟨.stray s.kind, loc⟩

/-- What stops an evaluation that gives no value. -/
inductive Halt where
  /-- A failure, reported to the user. -/
  | failure (f : Failure)
  /-- A signal, taken up further out. -/
  | signal (s : Signal)

end CommandScript
