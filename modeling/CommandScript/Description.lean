import CommandScript.Library

/-!
# Descriptions of functions

## Main definitions

* `CommandScript.Description` — what is told about a function.
* `CommandScript.Library.describe` — the descriptions of all functions, by name.
-/

namespace CommandScript

/-- What is told about a function. -/
structure Description where
  /-- The name that calls use. -/
  name : String
  /-- The argument counts that are accepted. -/
  arity : Arity
  /-- The kinds of failures that a call may raise. -/
  thrown : List Failure.Kind
  /-- Whether only privileged actors may call it. -/
  restricted : Bool
  /-- On which thread of the host it wants to run. -/
  scheduling : Scheduling
  /-- The documentation. -/
  docs : String
  /-- The version of the language that first had the function. -/
  since : String
deriving DecidableEq, Repr

/-- What is told about a function. -/
def Entry.description (e : Entry) : Description :=
  ⟨e.name, e.arity, e.thrown, e.restricted, e.scheduling, e.docs, e.since⟩

/-- The descriptions of all functions, by name. -/
def Library.describe (lib : Library) : List Description := lib.entries.map Entry.description

/-- The lines of a listing that describe a function. -/
def Description.listing (d : Description) : List String :=
  let restricted := if d.restricted then " (restricted)" else ""
  [s!"{d.name}: {d.arity.text} args{restricted}, since {d.since}", s!"    {d.docs}"]

end CommandScript
