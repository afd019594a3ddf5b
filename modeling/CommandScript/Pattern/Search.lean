import CommandScript.Pattern.Program

/-!
# Searching a text

All threads advance together, one character at a time, in the order in which they are preferred.
At each place an instruction is visited once: a later thread that comes there could only do what an
earlier one has done already. The first thread that accepts wins over all later ones.

## Main definitions

* `CommandScript.Pattern.Thread` — an instruction, and the places remembered on the way to it.
* `CommandScript.Pattern.Program.follow` — the threads that wait for the next character.
* `CommandScript.Pattern.Program.search` — the places of the first match.
-/

namespace CommandScript.Pattern

/-- The places that were remembered. -/
abbrev Slots : Type := Array (Option Nat)

/-- A position in the program, and the places remembered on the way to it. -/
structure Thread where
  /-- The position in the program. -/
  pc : Nat
  /-- The places. -/
  slots : Slots

/-- The threads at one place of the text. -/
structure Frontier where
  /-- The instructions that were visited here. -/
  visited : Array Bool
  /-- The threads that wait for a character or accept, the least preferred first. -/
  waiting : List Thread := []

/-- A place in the text: its number, and the characters around it. -/
structure Place where
  /-- How many characters come before it. -/
  index : Nat
  /-- The character before it. -/
  before : Option Char
  /-- The character after it. -/
  after : Option Char

namespace Program

/-- No instruction visited yet. -/
def noThreads (p : Program) : Frontier := { visited := .replicate p.code.size false }

/-- Follows threads, the most preferred first, until they wait for a character or accept. -/
def follow (p : Program) (at' : Place) : (fuel : Nat) → List Thread → Frontier → Frontier
  | 0, _, f => f
  | _, [], f => f
  | fuel + 1, t :: ts, f =>
    if f.visited[t.pc]?.getD true then follow p at' fuel ts f
    else
      let f := { f with visited := f.visited.setIfInBounds t.pc true }
      match p.code[t.pc]? with
      | some (.split a b) => follow p at' fuel (⟨a, t.slots⟩ :: ⟨b, t.slots⟩ :: ts) f
      | some (.look l next) =>
        if l.holds at'.before at'.after then follow p at' fuel (⟨next, t.slots⟩ :: ts) f
        else follow p at' fuel ts f
      | some (.save slot next) =>
        follow p at' fuel (⟨next, t.slots.setIfInBounds slot (some at'.index)⟩ :: ts) f
      | _ => follow p at' fuel ts { f with waiting := t :: f.waiting }

/-- Adds a thread and all that it leads to. A thread visits no instruction twice, and leaves at
most two others behind at each, which bounds the fuel. -/
def add (p : Program) (at' : Place) (t : Thread) (f : Frontier) : Frontier :=
  p.follow at' (2 * p.code.size + 1) [t] f

/-- Lets threads, the most preferred first, take a character: the threads at the next place, and
the places of the first one that accepts instead. That one ends all later threads. -/
def step (p : Program) (c : Option Char) (next : Place) :
    List Thread → Frontier → Frontier × Option Slots
  | [], f => (f, none)
  | t :: ts, f =>
    match p.code[t.pc]? with
    | some .accept => (f, some t.slots)
    | some (.take s dest) =>
      let f := if c.any s.contains then p.add next ⟨dest, t.slots⟩ f else f
      step p c next ts f
    | _ => step p c next ts f

/-- The places of the first match from a place on. While no thread has accepted, a new one starts
at each place, after all others. -/
def searchFrom (p : Program) :
    Place → Frontier → (best : Option Slots) → (rest : List Char) → Option Slots
  | at', f, best, [] =>
    let f := if best.isNone then p.add at' ⟨p.start, .replicate p.slots none⟩ f else f
    ((p.step none at' f.waiting.reverse p.noThreads).2).or best
  | at', f, best, c :: rest =>
    let f := if best.isNone then p.add at' ⟨p.start, .replicate p.slots none⟩ f else f
    let next : Place := ⟨at'.index + 1, some c, rest.head?⟩
    let (f, found) := p.step (some c) next f.waiting.reverse p.noThreads
    let best := found.or best
    if f.waiting.isEmpty && best.isSome then best else searchFrom p next f best rest

/-- The places of the first match in a text. -/
def search (p : Program) (text : List Char) : Option Slots :=
  p.searchFrom ⟨0, none, text.head?⟩ p.noThreads none text

end Program

end CommandScript.Pattern
