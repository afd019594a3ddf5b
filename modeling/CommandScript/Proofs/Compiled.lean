import CommandScript.Proofs.Folding
import CommandScript.Proofs.Nesting

/-!
# Compiled code

The code that a script can come to run is compiled before: its own statements, the bodies of the
procedures that it defines, which are parts of statements, and the statements of texts that it has
compiled on the way. In all this code every call is one of a procedure, or of an existing function
with a number of arguments that it accepts.

## Main definitions

* `CommandScript.Node.Compiled` — statements that tokens compile to, and their parts.
* `CommandScript.Procedure.AllCompiled` — procedures with compiled bodies, under their own names.

## Main results

* `CommandScript.Node.Compiled.checked` — all calls in compiled code may be written.
-/

namespace CommandScript

open Library (builtin)

variable {why : String → Option String}

namespace Node

/-- Compiled code: a statement of what some tokens compile to, with folding or without, or a part of
compiled code. -/
inductive Compiled (lib : Library) : Node → Prop where
  | statement {folding : Bool} {ts : List Token} {s : Store} {nodes : List Node} {n : Node}
    (h : (lib.compileTokens folding ts s).1 = .ok nodes) (hn : n ∈ nodes) : Compiled lib n
  | part {n m : Node} (h : Compiled lib n) (hm : m ∈ n.parts) : Compiled lib m

/-- What is folded comes from one of the expressions. -/
lemma exists_of_forall₂ {lib : Library} {ns ns' : List Node}
    (h : List.Forall₂ (FoldsTo lib) ns ns') {n' : Node} (hn' : n' ∈ ns') :
    ∃ n ∈ ns, n.FoldsTo lib n' := by
  obtain ⟨i, hi⟩ := List.getElem?_of_mem hn'
  obtain ⟨-, hnone⟩ | ⟨n, m, hn, hm, hfold⟩ := forall₂_getElem? h i
  · rw [hi] at hnone
    cases hnone
  · rw [hi] at hm
    cases hm
    exact ⟨n, List.mem_of_getElem? hn, hfold⟩

/-- The calls that are left when an expression is folded may be written if its calls may.

**Proof sketch.** By induction on the expression. A folded call has as many arguments as before, or
is a constant. -/
lemma FoldsTo.checked {n n' : Node} (h : n.FoldsTo (builtin why) n')
    (hn : n.Checked (builtin why).signature) :
    n'.Checked (builtin why).signature := by
  induction hn generalizing n' with
  | literal v =>
    obtain rfl : n' = Node.literal v := h.unique fun _ => rfl
    exact .literal v
  | ivar name l =>
    obtain rfl : n' = Node.ivar name l := h.unique fun _ => rfl
    exact .ivar name l
  | var name l =>
    obtain rfl : n' = Node.var name l := h.unique fun _ => rfl
    exact .var name l
  | @call name args l allowed parts ih =>
    obtain ⟨args', hall, rfl | ⟨values, v, e, c, -, -, -, rfl⟩⟩ := h.call_cases
    · refine .call (hall.length_eq ▸ allowed) fun m hm => ?_
      obtain ⟨k, hk, hfold⟩ := exists_of_forall₂ hall hm
      exact ih k hk hfold
    · exact .literal v

/-- All calls in what tokens compile to may be written. -/
lemma checked_of_compileTokens {folding : Bool} {ts : List Token} {s : Store} {nodes : List Node}
    (h : ((builtin why).compileTokens folding ts s).1 = .ok nodes) :
    ∀ n ∈ nodes, n.Checked (builtin why).signature := by
  cases hparse : parse (builtin why).signature ts with
  | error e =>
    simp only [Library.compileTokens, hparse] at h
    cases h
  | ok read =>
    have hread := (Grammar.script_of_parse hparse).2
    cases folding with
    | false =>
      obtain rfl : read = nodes :=
        Except.ok.inj (hparse.symm.trans (Library.compileTokens_false_eq_ok.1 h))
      exact hread
    | true =>
      rw [Library.compileTokens_true hparse] at h
      cases foldAll_outcome read with
      | failure _ _ hrun =>
        rw [hrun] at h
        cases h
      | ok hfolds hrun =>
        rw [hrun] at h
        cases h
        intro n hn
        obtain ⟨k, hk, hfold⟩ := exists_of_forall₂ hfolds hn
        exact hfold.checked (hread k hk)

/-- All calls in compiled code may be written. -/
lemma Compiled.checked {n : Node} (h : n.Compiled (builtin why)) :
    n.Checked (builtin why).signature := by
  induction h with
  | statement h hn => exact checked_of_compileTokens h _ hn
  | @part n m _ hm ih =>
    cases n with
    | call name args l => exact (Grammar.checked_call ih).2 m hm
    | literal | ivar | var => cases hm

/-- What a text compiles to is compiled code. -/
lemma compiled_of_compile {lib : Library} {folding : Bool} {text : String}
    {source : Option String} {s : Store} {nodes : List Node}
    (h : (lib.compile folding text source s).1 = .ok nodes) : ∀ n ∈ nodes, n.Compiled lib := by
  unfold Library.compile at h
  cases hlex : Token.lex text source with
  | error e =>
    rw [hlex] at h
    cases h
  | ok ts =>
    rw [hlex] at h
    exact fun n hn => .statement h hn

end Node

/-- Every procedure is known by its own name, which starts with an underscore, and has compiled code
for its body. -/
def Procedure.AllCompiled (lib : Library) (ps : Bindings Procedure) : Prop :=
  ∀ name p, ps.get? name = some p →
    p.name = name ∧ isProcedureName name = true ∧ p.body.Compiled lib

/-- One more procedure under its own name. -/
lemma Procedure.AllCompiled.insert {lib : Library} {ps : Bindings Procedure} {p : Procedure}
    (h : AllCompiled lib ps) (hname : isProcedureName p.name = true)
    (hbody : p.body.Compiled lib) : AllCompiled lib (ps.insert p.name p) := by
  intro name q hq
  rw [Bindings.get?_insert] at hq
  split at hq
  · next heq =>
    cases hq
    exact ⟨heq.symm, heq ▸ hname, hbody⟩
  · exact h name q hq

end CommandScript
