/-!
# Command-line arguments

An argument that starts with a dash gives options, one for each further character; the options
`c`, `f` and `p` take what follows them in the argument, or else the next argument, as their value.
All other arguments are given to the script, and so are all after a double dash.

## Main definitions

* `CommandScript.Arguments` — what the command line asks for.
* `CommandScript.Arguments.parse` — reads a command line.
-/

namespace CommandScript

/-- Where the script comes from. -/
inductive ScriptSource where
  /-- From the standard input. -/
  | stdin
  /-- From the command line. -/
  | inline (text : String)
  /-- From a file. -/
  | file (path : String)
deriving DecidableEq, Repr

/-- What the command line asks for. -/
structure Arguments where
  /-- Where the script comes from. -/
  script : ScriptSource := .stdin
  /-- The file of preferences. -/
  preferences : Option String := none
  /-- Whether details of the run are logged. -/
  debug : Bool := false
  /-- Whether the functions are listed instead of running a script. -/
  listing : Bool := false
  /-- Whether the functions are checked instead of running a script. -/
  audit : Bool := false
  /-- What is given to the script. -/
  positional : List String := []
deriving DecidableEq, Repr

namespace Arguments

/-- The options that stand for themselves. -/
inductive Switch where
  | debug
  | listing
  | audit
deriving DecidableEq, Repr

/-- The options that take a value. -/
inductive Flag where
  | inline
  | file
  | preferences
deriving DecidableEq, Repr

/-- The letter of an option with a value. -/
def Flag.letter : Flag → Char
  | inline => 'c'
  | file => 'f'
  | preferences => 'p'

/-- The switch with a letter. -/
def Switch.ofLetter? : Char → Option Switch
  | 'd' => some debug
  | 'D' => some listing
  | 'V' => some audit
  | _ => none

/-- The option with a value that has a letter. -/
def Flag.ofLetter? (c : Char) : Option Flag := [inline, file, preferences].find? (·.letter == c)

/-- What is wrong with a command line. -/
inductive Fault where
  /-- An option without its value. -/
  | noValue (f : Flag)
  /-- An option that does not exist. -/
  | unknownOption (letter : Char)
  /-- Two scripts. -/
  | twoScripts
deriving DecidableEq, Repr

/-- The message of a fault. -/
def Fault.message : Fault → String
  | noValue f => s!"-{f.letter} requires an argument"
  | unknownOption c => s!"unknown option: -{c}"
  | twoScripts => "only one of -c and -f may be given"

/-- The arguments with a switch turned on. -/
def turnOn (a : Arguments) : Switch → Arguments
  | .debug => { a with debug := true }
  | .listing => { a with listing := true }
  | .audit => { a with audit := true }

/-- The arguments with a script, if there is none yet. -/
def setScript (a : Arguments) (s : ScriptSource) : Except Fault Arguments :=
  if a.script = .stdin then .ok { a with script := s } else .error .twoScripts

/-- The arguments with the value of an option. -/
def give (a : Arguments) (value : String) : Flag → Except Fault Arguments
  | .inline => a.setScript (.inline value)
  | .file => a.setScript (.file value)
  | .preferences => .ok { a with preferences := some value }

/-- The arguments with one more for the script. -/
def pass (a : Arguments) (word : String) : Arguments :=
  { a with positional := a.positional ++ [word] }

/-- Reads the letters of one argument. If the last of them is an option whose value is still
missing, it is named. -/
def letters (a : Arguments) : List Char → Except Fault (Arguments × Option Flag)
  | [] => .ok (a, none)
  | c :: cs =>
    match Switch.ofLetter? c with
    | some s => letters (a.turnOn s) cs
    | none =>
      match Flag.ofLetter? c with
      | none => .error (.unknownOption c)
      | some f =>
        if cs.isEmpty then .ok (a, some f)
        else (a.give (String.ofList cs) f).map (·, none)

/-- The letters of an argument that gives options. -/
def options? (word : String) : Option (List Char) :=
  match word.toList with
  | '-' :: c :: cs => some (c :: cs)
  | _ => none

/-- Reads a command line on top of what was read before. -/
def parseFrom (a : Arguments) : List String → Except Fault Arguments
  | [] => .ok a
  | word :: rest =>
    if word = "--" then .ok { a with positional := a.positional ++ rest }
    else match options? word with
      | none => parseFrom (a.pass word) rest
      | some cs =>
        match letters a cs with
        | .error e => .error e
        | .ok (a, none) => parseFrom a rest
        | .ok (a, some f) =>
          match rest with
          | [] => .error (.noValue f)
          | value :: rest =>
            match a.give value f with
            | .error e => .error e
            | .ok a => parseFrom a rest

/-- Reads a command line. -/
def parse (argv : List String) : Except Fault Arguments := parseFrom {} argv

end Arguments

end CommandScript
