import CommandScript.Coercion

/-!
# The library of functions

A function of the script language has a name, the argument counts that it accepts, a
documentation text, a declaration of the failures and the signal that it may raise, and a
behaviour. There are three sorts of behaviour: a computation on values, which sees nothing but
its arguments and the arrays; a contact with the actor and the server; and a special form, which
decides itself what parts of a call are evaluated. A library is a table of functions, sorted by
name.

The contacts and the special forms are those of the language. What a host adds of its own is a
computation: it is not given the environment of the script, its arguments are evaluated before the
call, and it has no rule of its own by which calls are folded. Functions of a host that work on the
environment, or that decide themselves what is evaluated or folded, are not covered.

## Main definitions

* `CommandScript.Compute` — computations that may change arrays and may halt.
* `CommandScript.Behaviour`, `CommandScript.Entry` — what a function does, and all about it.
* `CommandScript.Library` — a table of functions with distinct names.
* `CommandScript.Library.register` — a library with one more function.

## Main results

* `CommandScript.Library.find?_insert` — a new function is found under its name, and every other
  name finds what it found before.
-/

namespace CommandScript

/-- Computations that may change arrays and may halt. What they changed before they halt stays
changed. -/
abbrev Compute : Type → Type := ExceptT Halt (StateM Store)

namespace Compute

/-- Halts with a failure. -/
def fail {α : Type} (loc : Location) (cause : Cause) : Compute α := throw (.failure ⟨cause, loc⟩)

/-- Halts with a signal. -/
def raise {α : Type} (s : Signal) : Compute α := throw (.signal s)

/-- A result that may have failed, with failures reported at a place. -/
def ofExcept {α : Type} (loc : Location) : Except Cause α → Compute α
  | .ok a => pure a
  | .error c => fail loc c

/-- The text of a value. -/
def textOf (v : Value) : Compute String := return v.text (← get)

/-- A new array with the given cells. -/
def newArray (loc : Location) (cells : List Value) : Compute Value := do
  let (r, s) := (← get).alloc cells.toArray
  set s
  return .array r loc

end Compute

/-- A computation on values. -/
structure Computation where
  /-- Whether arguments that are slots are followed to their values. -/
  resolves : Bool := true
  /-- Whether a call on constants may be replaced by its value. -/
  foldable : Bool := false
  /-- The result for a call at a place on some arguments. -/
  run : Location → List Value → Compute Value

/-- The contacts with the actor and the server. -/
inductive Contact where
  /-- Sends a message to the actor. -/
  | msg
  /-- The name of the actor. -/
  | player
  /-- Runs a command for a player. -/
  | runas
  /-- Ends the script, with a message to the actor if there is one. -/
  | die
deriving DecidableEq, Repr

/-- The special forms, which decide themselves what parts of a call are evaluated. -/
inductive Form where
  /-- Stores a value in a script variable. -/
  | assign
  /-- A loop with a condition. -/
  | forLoop
  /-- A loop over the cells of an array. -/
  | foreach
  /-- Defines a procedure. -/
  | proc
  /-- Compiles a text and evaluates it. -/
  | eval
  /-- A choice between two expressions. -/
  | ifElse
  /-- Whether all conditions hold. -/
  | conjunction
  /-- Whether some condition holds. -/
  | disjunction
  /-- Adds to a script variable. -/
  | increment
  /-- Subtracts from a script variable. -/
  | decrement
deriving DecidableEq, Repr

/-- What a function does. -/
inductive Behaviour where
  /-- A computation on values. -/
  | compute (c : Computation)
  /-- A contact with the actor and the server. -/
  | contact (c : Contact)
  /-- A special form. -/
  | form (f : Form)

/-- On which thread of the host a function wants to run. -/
inductive Scheduling where
  | always
  | never
  | callerDecides
deriving DecidableEq, Repr

/-- The name of a wish for a thread. -/
def Scheduling.name : Scheduling → String
  | always => "Always"
  | never => "Never"
  | callerDecides => "CallerDecides"

/-- All about a function. -/
structure Entry where
  /-- The name that calls use. -/
  name : String
  /-- The argument counts that are accepted. -/
  arity : Arity
  /-- The documentation. -/
  docs : String
  /-- The version of the language that first had the function. -/
  since : String := "3.0.0"
  /-- The kinds of failures that a call may raise. -/
  thrown : List Failure.Kind := []
  /-- Whether only privileged actors may call it. -/
  restricted : Bool := false
  /-- On which thread of the host it wants to run. -/
  scheduling : Scheduling := .callerDecides
  /-- The signal that a call may raise. -/
  signal : Option Signal.Kind := none
  /-- What a call does. -/
  behaviour : Behaviour

namespace Entry

/-- Whether the arguments of a call are evaluated and followed to their values beforehand. -/
def resolves (e : Entry) : Bool :=
  match e.behaviour with
  | .compute c => c.resolves
  | .contact _ => true
  | .form _ => false

/-- Whether a call on constants may be replaced by its value. -/
def foldable (e : Entry) : Bool :=
  match e.behaviour with
  | .compute c => c.foldable
  | _ => false

end Entry

/-- Why a function cannot be registered. -/
inductive RegisterError where
  /-- A function of that name is there already. -/
  | duplicate (name : String)
  /-- The documentation is blank. -/
  | missingDocs (name : String)
  /-- No argument count is accepted. -/
  | emptyArity (name : String)
  /-- The library in use cannot be exchanged. -/
  | alreadyInstalled
deriving DecidableEq, Repr

/-- The message of an error in registering. -/
def RegisterError.message : RegisterError → String
  | duplicate n => s!"function {n}() is registered twice"
  | missingDocs n => s!"function {n}() has no documentation"
  | emptyArity n => s!"function {n}() accepts no argument counts"
  | alreadyInstalled => "a function registry is already installed"

/-- A table of functions with distinct names, sorted by name. -/
structure Library where
  /-- The functions. -/
  entries : List Entry
  /-- The names increase. -/
  sorted : entries.Pairwise fun a b => a.name < b.name

namespace Library

/-- The library without functions. -/
def empty : Library := ⟨[], .nil⟩

/-- The function with a name. -/
def find? (lib : Library) (name : String) : Option Entry := lib.entries.find? (·.name == name)

/-- The argument counts of the functions of a library. -/
def signature (lib : Library) (name : String) : Option Arity := (lib.find? name).map Entry.arity

/-- The number of functions. -/
def size (lib : Library) : Nat := lib.entries.length

/-- A list sorted by name with a function put in its place, in front of one of the same name. -/
def insertSorted (e : Entry) : List Entry → List Entry
  | [] => [e]
  | a :: as => if a.name < e.name then a :: insertSorted e as else e :: a :: as

theorem mem_insertSorted {e x : Entry} {as : List Entry} :
    x ∈ insertSorted e as ↔ x = e ∨ x ∈ as := by
  induction as with
  | nil => simp [insertSorted]
  | cons a as ih =>
    simp only [insertSorted]
    split
    · simp only [List.mem_cons, ih]
      constructor <;> rintro (h | h | h) <;> simp [h]
    · simp

/-- Putting a function with a new name in its place keeps the names increasing. -/
theorem pairwise_insertSorted {e : Entry} {as : List Entry} (h : as.Pairwise (·.name < ·.name))
    (hn : ∀ a ∈ as, a.name ≠ e.name) : (insertSorted e as).Pairwise (·.name < ·.name) := by
  induction as with
  | nil => simp [insertSorted]
  | cons a as ih =>
    rw [List.pairwise_cons] at h
    simp only [insertSorted]
    split
    · rename_i hlt
      refine List.pairwise_cons.2 ⟨fun x hx => ?_, ih h.2 fun x hx => hn x (by simp [hx])⟩
      rcases mem_insertSorted.1 hx with rfl | hx
      · exact hlt
      · exact h.1 x hx
    · rename_i hge
      have hea : e.name < a.name := by
        have := hn a (by simp)
        grind
      refine List.pairwise_cons.2 ⟨fun x hx => ?_, List.pairwise_cons.2 h⟩
      rcases List.mem_cons.1 hx with rfl | hx
      · exact hea
      · exact String.lt_trans hea (h.1 x hx)

/-- A name is found in a library exactly if some function has it. -/
theorem find?_eq_none {lib : Library} {name : String} :
    lib.find? name = none ↔ ∀ e ∈ lib.entries, e.name ≠ name := by
  simp [find?]

/-- The library with one more function, whose name is new. -/
def insert (lib : Library) (e : Entry) (h : lib.find? e.name = none) : Library :=
  ⟨insertSorted e lib.entries, pairwise_insertSorted lib.sorted (find?_eq_none.1 h)⟩

/-- The library with one more function. It needs a documentation, an argument count that it
accepts, and a new name; these are looked at in this order. -/
def register (lib : Library) (e : Entry) : Except RegisterError Library :=
  if (Text.trim e.docs).isEmpty then .error (.missingDocs e.name)
  else if e.arity.isEmpty then .error (.emptyArity e.name)
  else if h : lib.find? e.name = none then .ok (lib.insert e h)
  else .error (.duplicate e.name)

/-- The library that results from registering functions one after another. -/
def registerAll (lib : Library) (es : List Entry) : Except RegisterError Library :=
  es.foldlM register lib

/-- A new function is found under its name, and every other name finds what it found before. -/
theorem find?_insert (lib : Library) (e : Entry) (h : lib.find? e.name = none) (name : String) :
    (lib.insert e h).find? name = if e.name = name then some e else lib.find? name := by
  have key : ∀ as : List Entry, (∀ a ∈ as, a.name ≠ e.name) →
      (insertSorted e as).find? (·.name == name) =
        if e.name = name then some e else as.find? (·.name == name) := by
    intro as
    induction as with
    | nil => intro _; by_cases hn : e.name = name <;> simp [insertSorted, hn]
    | cons a as ih =>
      intro hne
      have ha := hne a (by simp)
      have ih := ih fun x hx => hne x (by simp [hx])
      simp only [insertSorted]
      split
      · by_cases hn : a.name = name
        · have : e.name ≠ name := fun he => ha (hn.trans he.symm)
          simp [hn, this]
        · simp [hn, ih]
      · by_cases hn : e.name = name <;> simp [hn]
  exact key lib.entries (find?_eq_none.1 h)

end Library

end CommandScript
