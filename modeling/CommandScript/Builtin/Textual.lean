import CommandScript.Digest
import CommandScript.Pattern
import CommandScript.Run
import CommandScript.Text.Case
import CommandScript.Text.Rotate

/-!
# Functions on texts, digests, and contacts

## Main definitions

* `CommandScript.Builtin.textual` — functions on texts.
* `CommandScript.Builtin.digests` — rotation of letters and digests.
* `CommandScript.Builtin.contacts` — contacts with the actor and the server.

How an invalid pattern is explained is up to the host, so the explanations are a parameter.
-/

namespace CommandScript.Builtin

open Compute

/-- A function from the text of the first argument to a text. -/
def mapText (f : String → String) (loc : Location) (args : List Value) : Compute Value :=
  return .string (f (← textOf (argument args 0))) loc

/-- The match of a pattern in a subject: an array of the whole match and each group, where a group
without a match is null; the array is empty if nothing matches. An invalid pattern fails with what
`why` says. -/
def matchPattern (why : String → Option String) (loc : Location) (args : List Value) :
    Compute Value := do
  let pattern ← textOf (argument args 0)
  match Pattern.parse? pattern with
  | none => fail loc (.badPattern pattern (why pattern))
  | some p =>
    let subject ← textOf (argument args 1)
    match p.find? subject with
    | none => newArray loc []
    | some groups =>
      newArray loc (groups.map fun g =>
        match g with
        | some t => .string t loc
        | none => .null loc)

/-- A text with every occurrence of another replaced; the empty text occurs nowhere. -/
def replaced (loc : Location) (args : List Value) : Compute Value := do
  let subject ← textOf (argument args 0)
  let search ← textOf (argument args 1)
  let replacement ← textOf (argument args 2)
  return .string (if search.isEmpty then subject else subject.replace search replacement) loc

/-- The character of a text at an index. -/
def characterAt (loc : Location) (args : List Value) : Compute Value := do
  let text ← textOf (argument args 0)
  let index ← textOf (argument args 1)
  ofExcept loc (Value.character text index loc)

/-- A text in upper case. -/
def toUpper : Entry where
  name := "to_upper"
  arity := .fixed [1]
  docs :=
    "string \x7bstr\x7d Returns the string in upper case."
  behaviour := .compute { foldable := true, run := mapText Text.upper }

/-- A text in lower case. -/
def toLower : Entry where
  name := "to_lower"
  arity := .fixed [1]
  docs :=
    "string \x7bstr\x7d Returns the string in lower case."
  behaviour := .compute { foldable := true, run := mapText Text.lower }

/-- A text without blanks at its ends. -/
def trim : Entry where
  name := "trim"
  arity := .fixed [1]
  docs :=
    "string \x7bstr\x7d Returns the string without leading or trailing whitespace."
  behaviour := .compute { foldable := true, run := mapText Text.trim }

/-- The match of a pattern. -/
def regMatch (why : String → Option String) : Entry where
  name := "reg_match"
  arity := .fixed [2]
  docs :=
    "array \x7bpattern, subject\x7d Matches subject against the regular expression. Returns an " ++
      "array holding the whole match followed by each capture group, or an empty array when " ++
      "nothing matches."
  since := "3.2.0"
  thrown := [.format]
  behaviour := .compute { run := matchPattern why }

/-- A text with parts replaced. -/
def replace : Entry where
  name := "replace"
  arity := .fixed [3]
  docs :=
    "string \x7bsubject, search, replacement\x7d Replaces every occurrence of search in subject."
  behaviour := .compute { foldable := true, run := replaced }

/-- A character of a text. -/
def charAt : Entry where
  name := "char_at"
  arity := .fixed [2]
  docs :=
    "string \x7bstr, index\x7d Returns the character at index (0 based)."
  since := "3.3.0"
  thrown := [.format, .indexOverflow]
  behaviour := .compute { foldable := true, run := characterAt }

/-- Functions on texts. -/
def textual (why : String → Option String) : List Entry :=
  [toUpper, toLower, trim, regMatch why, replace, charAt]

/-- The digest of a text. -/
def digestText (a : Digest.Algorithm) (text : String) : String := a.hex text.toUTF8

/-- A text with its letters rotated. -/
def rot13 : Entry where
  name := "rot13"
  arity := .fixed [1]
  docs :=
    "string \x7bval\x7d Returns the rot13 version of val. rot13(rot13(val)) returns val."
  since := "3.3.0"
  behaviour := .compute { foldable := true, run := mapText Text.rot13 }

/-- A digest. -/
def md5 : Entry where
  name := "md5"
  arity := .fixed [1]
  docs :=
    "string \x7bval\x7d Returns the md5 hash of val as lowercase hex. md5 is not suitable for " ++
      "protecting sensitive data."
  since := "3.3.0"
  thrown := [.pluginInternal]
  behaviour := .compute { foldable := true, run := mapText (digestText .md5) }

/-- A digest. -/
def sha1 : Entry where
  name := "sha1"
  arity := .fixed [1]
  docs :=
    "string \x7bval\x7d Returns the sha1 hash of val as lowercase hex."
  since := "3.3.0"
  thrown := [.pluginInternal]
  behaviour := .compute { foldable := true, run := mapText (digestText .sha1) }

/-- A digest. -/
def sha256 : Entry where
  name := "sha256"
  arity := .fixed [1]
  docs :=
    "string \x7bval\x7d Returns the sha256 hash of val as lowercase hex."
  since := "3.3.0"
  thrown := [.pluginInternal]
  behaviour := .compute { foldable := true, run := mapText (digestText .sha256) }

/-- Rotation of letters and digests. -/
def digests : List Entry := [rot13, md5, sha1, sha256]

/-- A message to the actor. -/
def msg : Entry where
  name := "msg"
  arity := .fixed [1]
  docs :=
    "void \x7bmessage\x7d Sends message to the player that ran the script."
  thrown := [.nullPointer]
  behaviour := .contact .msg

/-- The name of the actor. -/
def player : Entry where
  name := "player"
  arity := .fixed [0]
  docs :=
    "string \x7b\x7d Returns the name of the player running the script, or null if there is " ++
      "none."
  behaviour := .contact .player

/-- A command for a player. -/
def runas : Entry where
  name := "runas"
  arity := .fixed [2]
  docs :=
    "void \x7bplayer, command\x7d Runs command as if player had typed it. The command must " ++
      "start with a slash and the player must be online. A command the server refuses is a " ++
      "FormatException."
  thrown := [.format, .nullPointer]
  restricted := true
  scheduling := .never
  behaviour := .contact .runas

/-- Contacts with the actor and the server. -/
def contacts : List Entry := [msg, player, runas]

end CommandScript.Builtin
