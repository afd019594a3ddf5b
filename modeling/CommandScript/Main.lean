import CommandScript.CommandLine

/-!
# The program

Reads files and the standard input, and writes what the command line asks for.
-/

namespace CommandScript

/-- The wording and the code of an error of the operating system. A code may come with its sign
turned around, as a word of 32 bits. -/
def systemReason (code : UInt32) (details : String) : String :=
  let code := if code < 0x80000000 then code else 0 - code
  s!"{details.capitalize} (os error {code})"

/-- The reason why something could not be read. -/
def reasonOf : IO.Error → String
  | .noFileOrDirectory _ code details => systemReason code details
  | .inappropriateType _ code details => systemReason code details
  | .permissionDenied _ code details => systemReason code details
  | .invalidArgument _ code details => systemReason code details
  | .noSuchThing _ code details => systemReason code details
  | e => e.toString

/-- The text that bytes stand for, or the reason why they stand for none. -/
def textOf (bytes : ByteArray) : Except String String :=
  match String.fromUTF8? bytes with
  | some text => .ok text
  | none => .error "stream did not contain valid UTF-8"

/-- The text of a file, or the reason why it cannot be read. -/
def readText (path : String) : IO (Except String String) := do
  try
    return textOf (← IO.FS.readBinFile path)
  catch e => return .error (reasonOf e)

/-- The rest of a stream. -/
partial def readRest (h : IO.FS.Stream) (soFar : ByteArray) : IO ByteArray := do
  let bytes ← h.read 65536
  if bytes.isEmpty then return soFar else readRest h (soFar ++ bytes)

/-- The text of the standard input, or the reason why it cannot be read. -/
def readInput : IO (Except String String) := do
  try
    return textOf (← readRest (← IO.getStdin) .empty)
  catch e => return .error (reasonOf e)

/-- The directory of the user's settings, which only an absolute path can change. -/
def settingsDirectory : IO (Option String) := do
  let chosen ← IO.getEnv "XDG_CONFIG_HOME"
  match chosen.filter (·.startsWith "/") with
  | some d => return some d
  | none => return (← IO.getEnv "HOME").map (· ++ "/.config")

/-- The user's own preferences, if there are any. -/
def readUserPreferences : IO (Option (Except String String)) := do
  match ← settingsDirectory with
  | none => return none
  | some d =>
    try
      return some (textOf (← IO.FS.readBinFile s!"{d}/mscript/preferences.ini"))
    catch
      | .noFileOrDirectory .. => return none
      | e => return some (.error (reasonOf e))

/-- The ways to read that the operating system gives. -/
def host : CommandLine.Host IO where
  fileText := readText
  inputText := readInput
  userPreferences := readUserPreferences

/-- A number of steps that no run comes near. -/
def plenty : Nat := 1 <<< 62

end CommandScript

/-- Does what the command line asks for. -/
def main (argv : List String) : IO UInt32 := do
  match ← CommandScript.CommandLine.run CommandScript.host CommandScript.plenty argv with
  | none => return 1
  | some o =>
    o.out.forM IO.println
    o.err.forM IO.eprintln
    return if o.failed then 1 else 0
