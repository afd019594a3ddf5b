import CommandScript.Builtin.Control
import CommandScript.Builtin.General
import CommandScript.Builtin.Numeric
import CommandScript.Builtin.Textual

/-!
# The functions of the language

A host may explain why a text is no pattern. What it says is a parameter of the library, and by
default it says nothing.

## Main definitions

* `CommandScript.builtins` — the functions that every script may call.
* `CommandScript.Library.builtin` — their library.
-/

namespace CommandScript

/-- The functions that every script may call, where `why` explains invalid patterns. -/
def builtins (why : String → Option String := fun _ => none) : List Entry :=
  Builtin.general ++ Builtin.numeric ++ Builtin.logical ++ Builtin.control ++
    Builtin.textual why ++ Builtin.digests ++ Builtin.contacts

/-- The library of the functions that every script may call. -/
def Library.builtin (why : String → Option String := fun _ => none) : Library :=
  (Library.empty.registerAll (builtins why)).toOption.getD .empty

end CommandScript
