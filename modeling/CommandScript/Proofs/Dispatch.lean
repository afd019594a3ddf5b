import CommandScript.Proofs.Compiled
import CommandScript.Proofs.Halts
import CommandScript.Proofs.Privilege

/-!
# Compiled code calls what there is

Before a script runs, the compiler has looked at all its calls. When it runs, calls are looked up
and counted again. In compiled code this never fails, and special forms find the arguments that they
ask for: the only unknown names are those of procedures that are not defined, and the only missing
arguments are those of a definition of a procedure without name or body.

## Main definitions

* `CommandScript.Moment.Raises` — an evaluation that fails at once, because it calls a procedure
  that is not defined or defines one without name or body.
* `CommandScript.Evaluator.Sound` — an evaluator that keeps the procedures compiled.
* `CommandScript.Moment.EndsSoundly` — an evaluation after which the procedures are compiled, and
  which raises a failure of its own only as `Raises` says.
* `CommandScript.Evaluator.cut` — an evaluator that stops at some moments.

## Main results

* `CommandScript.Node.step_sound` — one layer of evaluation of compiled code with a sound
  evaluator.
* `CommandScript.Layer.asks_some_or` — a layer asks for one of some moments, or does not depend on
  them.
* `CommandScript.Node.eval_raises` — where a failure of compiled code for an unknown name or for
  missing arguments comes from.
* `CommandScript.Library.dispatch_of_compiled` — compiled code calls what there is.
-/

namespace CommandScript

open Library (builtin)
open Procedure (AllCompiled)

variable {why : String → Option String}

/-! ## Special forms and their arguments -/

/-- The number of arguments that a special form takes for granted. -/
def Form.needs : Form → Nat
  | assign => 2
  | forLoop => 4
  | foreach => 3
  | eval => 1
  | ifElse => 2
  | increment | decrement => 1
  | proc | conjunction | disjunction => 0

/-- Whether every number of arguments that is accepted suffices for a special form. -/
def Form.sufficient (f : Form) : Arity → Bool
  | .fixed counts => counts.all (f.needs ≤ ·)
  | .unbounded => f.needs == 0

/-- An accepted number of arguments that suffices. -/
lemma Form.needs_le {f : Form} {a : Arity} (h : f.sufficient a = true) {count : Nat}
    (ha : a.accepts count = true) : f.needs ≤ count := by
  cases a with
  | fixed counts =>
    simp only [sufficient, List.all_eq_true, decide_eq_true_eq] at h
    exact h count (by simpa [Arity.accepts] using ha)
  | unbounded =>
    simp only [sufficient, beq_iff_eq] at h
    omega

namespace Library

/-- A special form is found under its name, and accepts no fewer arguments than it takes for
granted. -/
lemma builtin_form {name : String} {e : Entry} {f : Form} (h : (builtin why).find? name = some e)
    (he : e.behaviour = .form f) : name = f.name ∧ f.sufficient e.arity = true := by
  have hall : ∀ e ∈ builtins why, (match e.behaviour with
      | .form f => e.name == f.name && f.sufficient e.arity
      | _ => true) = true := forall_builtins (by decide +kernel) rfl
  obtain ⟨hmem, rfl⟩ := mem_of_find?_builtin h
  have hcheck := hall e hmem
  rw [he] at hcheck
  simpa only [Bool.and_eq_true, beq_iff_eq] using hcheck

end Library

/-- A halt that has nothing to do with unknown names and missing arguments. -/
def Halt.Ordinary : Halt → Prop
  | .failure f => f.kind ≠ .invalidProcedure ∧ f.kind ≠ .insufficientArguments
  | .signal _ => True

@[simp]
lemma Halt.ordinary_failure {c : Cause} {loc : Location} : (Halt.failure ⟨c, loc⟩).Ordinary ↔
    c.kind ≠ .invalidProcedure ∧ c.kind ≠ .insufficientArguments :=
  .rfl

/-- Computations and contacts of the language halt in ordinary ways. -/
lemma Library.builtin_ordinary {name : String} {e : Entry} (h : (builtin why).find? name = some e)
    (he : ∀ f, e.behaviour ≠ .form f) {halt : Halt} (hin : halt.In e.thrown e.signal) :
    halt.Ordinary := by
  have hall : ∀ e ∈ builtins why, (match e.behaviour with
      | .form _ => true
      | _ => !e.thrown.contains .invalidProcedure &&
          !e.thrown.contains .insufficientArguments) = true :=
    forall_builtins (by decide +kernel) rfl
  have hcheck := hall e (mem_of_find?_builtin h).1
  have hthrown : Failure.Kind.invalidProcedure ∉ e.thrown ∧
      Failure.Kind.insufficientArguments ∉ e.thrown := by
    cases hb : e.behaviour with
    | form f => exact absurd hb (he f)
    | compute c => simpa [hb] using hcheck
    | contact c => simpa [hb] using hcheck
  cases halt with
  | signal s => trivial
  | failure f => exact ⟨fun hk => hthrown.1 (hk ▸ hin), fun hk => hthrown.2 (hk ▸ hin)⟩

/-! ## Evaluators of compiled code -/

/-- An evaluator that, on compiled code, keeps the procedures compiled and halts only in the ways
`H`, among which are all ordinary ones. -/
structure Evaluator.Sound (lib : Library) (H : Halt → Prop) (ev : Evaluator) :
    Prop where
  ordinary : ∀ h : Halt, h.Ordinary → H h
  keeps : ∀ depth n, n.Compiled lib → (ev depth n).Keeps (AllCompiled lib) H

namespace Evaluator.Sound

variable {H : Halt → Prop} {ev : Evaluator} (hev : ev.Sound (builtin why) H) {depth : Nat}
  {α : Type}

include hev

lemma signal (s : Signal) : H (.signal s) := hev.ordinary _ trivial

lemma fail {loc : Location} {c : Cause} (h : (Halt.failure ⟨c, loc⟩).Ordinary) :
    (Run.fail loc c : Run α).Keeps (AllCompiled (builtin why)) H :=
  .fail (hev.ordinary _ h)

lemma ofExcept (loc : Location) {r : Except Cause α} {ks : List Failure.Kind} (h : FailsIn ks r)
    (hks : Failure.Kind.invalidProcedure ∉ ks ∧ Failure.Kind.insufficientArguments ∉ ks) :
    (Run.ofExcept loc r).Keeps (AllCompiled (builtin why)) H := by
  refine .ofExcept loc fun c hc => hev.ordinary _ ⟨fun hk => hks.1 ?_, fun hk => hks.2 ?_⟩
  · exact hk ▸ h c hc
  · exact hk ▸ h c hc

lemma checkDepth (depth : Nat) (what : Nesting) (loc : Location) :
    (checkDepth depth what loc).Keeps (AllCompiled (builtin why)) H := by
  unfold CommandScript.checkDepth
  split
  · exact hev.fail (by simp [Cause.kind])
  · exact .pure ()

/-! ## Lists of expressions -/

variable {ns : List Node} (hns : ∀ n ∈ ns, n.Compiled (builtin why))

include hns

lemma evalAll : (evalAll (ev depth) ns).Keeps (AllCompiled (builtin why)) H := by
  induction ns with
  | nil => exact .pure []
  | cons n ns ih =>
    obtain ⟨hn, hns⟩ := List.forall_mem_cons.1 hns
    exact .bind (hev.keeps depth n hn) fun v => .bind (ih hns) fun vs => .pure _

lemma evalResolved : (evalResolved (ev depth) ns).Keeps (AllCompiled (builtin why)) H :=
  .bind (hev.evalAll hns) fun _ => .pure _

lemma evalTexts : (evalTexts (ev depth) ns).Keeps (AllCompiled (builtin why)) H := by
  induction ns with
  | nil => exact .pure []
  | cons n ns ih =>
    obtain ⟨hn, hns⟩ := List.forall_mem_cons.1 hns
    refine .bind (hev.keeps depth n hn) fun v => ?_
    cases v.isVoid with
    | true => exact ih hns
    | false => exact .bind (.textOf v) fun t => .bind (ih hns) fun ts => .pure _

lemma allAre (wanted : Bool) :
    (Form.allAre wanted (ev depth) ns).Keeps (AllCompiled (builtin why)) H := by
  induction ns with
  | nil => exact .pure true
  | cons n ns ih =>
    obtain ⟨hn, hns⟩ := List.forall_mem_cons.1 hns
    refine .bind (hev.keeps depth n hn) fun v => .bind (.isTrue v) fun t => ?_
    split
    · exact ih hns
    · exact .pure false

omit hns

/-! ## Special forms -/

lemma variableName (f : Form) (position : Nat) (n : Node) :
    (f.variableName position n).Keeps (AllCompiled (builtin why)) H := by
  cases n with
  | ivar name l => exact .pure name
  | literal | var | call => exact hev.fail (by simp [Cause.kind])

variable {args : List Node} (hargs : ∀ n ∈ args, n.Compiled (builtin why)) (loc : Location)

include hargs

omit hev in
/-- A run that takes an argument of a form first, which is there. -/
lemma withPart {f : Form} {i : Nat} (hi : i < args.length) {k : Node → Run α}
    (hk : ∀ n, n.Compiled (builtin why) → (k n).Keeps (AllCompiled (builtin why)) H) :
    (f.part args i loc >>= k).Keeps (AllCompiled (builtin why)) H := by
  have hpart : f.part args i loc = pure args[i] := by
    rw [Form.part, List.getElem?_eq_getElem hi]
  rw [hpart]
  exact hk _ (hargs _ (List.getElem_mem hi))

lemma runAssign (hlen : 2 ≤ args.length) :
    (Form.runAssign (ev depth) loc args).Keeps (AllCompiled (builtin why)) H := by
  refine withPart hargs loc (by omega) fun n _ => .bind (hev.variableName _ _ n) fun name => ?_
  refine withPart hargs loc (by omega) fun m hm => .bind (hev.keeps depth m hm) fun v => ?_
  exact .bind (.setIvar name v.resolved) fun _ => .pure _

lemma runFor (hlen : 4 ≤ args.length) (fuel : Nat) :
    (Form.runFor (ev depth) fuel loc args).Keeps (AllCompiled (builtin why)) H := by
  refine withPart hargs loc (by omega) fun start hstart => ?_
  split
  · refine withPart hargs loc (by omega) fun condition hcondition => ?_
    refine withPart hargs loc (by omega) fun next hnext => ?_
    refine withPart hargs loc (by omega) fun body hbody => ?_
    refine .bind (hev.keeps depth _ hstart) fun _ => ?_
    have hloop := Run.Keeps.roundsWhile (fun _ _ _ => hev.signal _)
      (hev.keeps depth _ hcondition) (hev.keeps depth _ hnext) (hev.keeps depth _ hbody) fuel
    exact .bind hloop fun _ => .pure _
  · exact hev.fail (by simp [Cause.kind])

lemma runForeach (hlen : 3 ≤ args.length) :
    (Form.runForeach (ev depth) loc args).Keeps (AllCompiled (builtin why)) H := by
  refine withPart hargs loc (by omega) fun n _ => .bind (hev.variableName _ _ n) fun name => ?_
  refine withPart hargs loc (by omega) fun body hbody => ?_
  refine withPart hargs loc (by omega) fun source hsource => ?_
  refine .bind (hev.keeps depth _ hsource) fun v => ?_
  split
  · refine .bind .get fun w => .bind ?_ fun _ => .pure _
    exact .rounds (fun _ _ _ => hev.signal _) name (hev.keeps depth _ hbody) _
  · exact hev.fail (by simp [Cause.kind])

lemma runIf (hlen : 2 ≤ args.length) :
    (Form.runIf (ev depth) loc args).Keeps (AllCompiled (builtin why)) H := by
  refine withPart hargs loc (by omega) fun n hn => .bind (hev.keeps depth n hn) fun v => ?_
  refine .bind (.isTrue v) fun t => ?_
  cases t with
  | true => exact withPart hargs loc (by omega) fun m hm => hev.keeps depth m hm
  | false =>
    simp only [Bool.false_eq_true, if_false]
    cases hm : args[2]? with
    | none => exact .pure _
    | some m => exact hev.keeps depth m (hargs m (List.mem_of_getElem? hm))

omit hargs in
/-- The default of a parameter is a part of compiled code. -/
lemma parameter (position : Nat) {n : Node} (hn : n.Compiled (builtin why)) :
    (Form.parameter (ev depth) position n).Keeps (AllCompiled (builtin why)) H := by
  unfold Form.parameter
  split
  · exact .pure _
  · next target default l =>
    have hdefault : default.Compiled (builtin why) := .part hn (by simp [Node.parts])
    exact .bind (hev.variableName _ _ target) fun name =>
      .bind (hev.keeps depth default hdefault) fun v => .pure _
  · exact hev.fail (by simp [Cause.kind])

omit hargs in
lemma parameters {ns : List Node} (hns : ∀ n ∈ ns, n.Compiled (builtin why)) (position : Nat) :
    (Form.parameters (ev depth) position ns).Keeps (AllCompiled (builtin why)) H := by
  induction ns generalizing position with
  | nil => exact .pure []
  | cons n ns ih =>
    obtain ⟨hn, hns⟩ := List.forall_mem_cons.1 hns
    exact .bind (hev.parameter position hn) fun p => .bind (ih hns (position + 1)) fun ps => .pure _

/-- A new procedure is known by its own name and has an argument of the call for its body. -/
lemma runProc (hlen : 2 ≤ args.length) :
    (Form.runProc (ev depth) loc args).Keeps (AllCompiled (builtin why)) H := by
  match args, hargs, hlen with
  | first :: rest, hargs, hlen =>
    obtain ⟨hfirst, hrest⟩ := List.forall_mem_cons.1 hargs
    have hne : rest ≠ [] := by
      rintro rfl
      simp at hlen
    simp only [Form.runProc, List.getLast?_eq_some_getLast hne]
    refine .bind (hev.keeps depth first hfirst) fun v => .bind (.textOf v) fun name => ?_
    split
    · next hname =>
      have hparams : ∀ n ∈ rest.dropLast, n.Compiled (builtin why) := fun n hn =>
        hrest n (List.dropLast_subset rest hn)
      refine .bind (hev.parameters hparams 2) fun params => .bind ?_ fun _ => .pure _
      intro w hw
      refine ⟨hw.insert hname (hrest _ (List.getLast_mem hne)), ?_⟩
      rintro _ ⟨⟩
    · exact hev.fail (by simp [Cause.kind])

omit hargs in
/-- A text is compiled before what it compiles to is run. -/
lemma ofCompile {text : String} {k : List Node → Run α}
    (hk : ∀ nodes, (∀ n ∈ nodes, n.Compiled (builtin why)) →
      (k nodes).Keeps (AllCompiled (builtin why)) H) :
    (Run.ofCompile loc ((builtin why).compile true text) >>= k).Keeps
      (AllCompiled (builtin why)) H := by
  intro w hw
  rcases hc : (builtin why).compile true text none w.store with ⟨e | nodes, s⟩
  · rw [bind_of_error (Run.ofCompile_of_error loc hc)]
    refine ⟨hw, ?_⟩
    rintro _ ⟨⟩
    exact hev.ordinary _ (by simp [Cause.kind])
  · have hnodes : ∀ n ∈ nodes, n.Compiled (builtin why) := Node.compiled_of_compile (by rw [hc])
    rw [bind_of_ok (Run.ofCompile_of_ok loc hc)]
    exact hk nodes hnodes { w with store := s } hw

lemma runEval (hlen : 1 ≤ args.length) :
    (Form.runEval (builtin why) ev depth loc args).Keeps (AllCompiled (builtin why)) H := by
  refine withPart hargs loc (by omega) fun n hn => .bind (hev.keeps depth n hn) fun v => ?_
  refine .bind (.textOf v) fun text => hev.ofCompile loc fun nodes hnodes => ?_
  refine .bind (hev.checkDepth depth .eval loc) fun _ => .bind (hev.evalTexts hnodes) fun ts => ?_
  cases ts with
  | nil => exact .pure _
  | cons t ts => exact .pure _

lemma amountOf : (Form.amountOf (ev depth) loc args).Keeps (AllCompiled (builtin why)) H := by
  unfold Form.amountOf
  cases hn : args[1]? with
  | none => exact .pure _
  | some n =>
    refine .bind (hev.keeps depth n (hargs n (List.mem_of_getElem? hn))) fun v => ?_
    exact hev.ofExcept loc v.failsIn_number (by decide)

omit hargs in
lemma currentOf (name : String) :
    (Form.currentOf loc name).Keeps (AllCompiled (builtin why)) H := by
  refine .withEnv fun e _ => ?_
  split
  · next v _ => exact hev.ofExcept loc v.failsIn_number (by decide)
  · exact .pure _

lemma runStep (hlen : 1 ≤ args.length) (f : Form) :
    (f.runStep (ev depth) loc args).Keeps (AllCompiled (builtin why)) H := by
  have hsigned : ∀ amount, FailsIn [.range] (f.signed amount) := by
    intro amount
    unfold Form.signed
    split
    · exact amount.failsIn_negate f.name
    · exact .ok amount
  rw [Form.runStep_eq]
  refine withPart hargs loc (by omega) fun n _ => .bind (hev.variableName _ _ n) fun name => ?_
  refine .bind (hev.amountOf hargs loc) fun amount => ?_
  refine .bind (hev.ofExcept loc (hsigned amount) (by decide)) fun change => ?_
  refine .bind (hev.currentOf loc name) fun current => ?_
  have hadd : FailsIn [.range] (current.add f.name change) :=
    Number.failsIn_combine _ _ _ _ _
  refine .bind (hev.ofExcept loc hadd (by decide)) fun next => ?_
  exact .bind (.setIvar name _) fun _ => .pure _

/-- A special form with the arguments that it takes for granted. -/
lemma form {f : Form} (hlen : f.needs ≤ args.length) (hproc : f = .proc → 2 ≤ args.length)
    (fuel : Nat) :
    (f.run (builtin why) ev fuel depth loc args).Keeps (AllCompiled (builtin why)) H := by
  cases f with
  | assign => exact hev.runAssign hargs loc hlen
  | forLoop => exact hev.runFor hargs loc hlen fuel
  | foreach => exact hev.runForeach hargs loc hlen
  | proc => exact hev.runProc hargs loc (hproc rfl)
  | eval => exact hev.runEval hargs loc hlen
  | ifElse => exact hev.runIf hargs loc hlen
  | conjunction => exact .bind (hev.allAre hargs true) fun _ => .pure _
  | disjunction => exact .bind (hev.allAre hargs false) fun _ => .pure _
  | increment => exact hev.runStep hargs loc hlen .increment
  | decrement => exact hev.runStep hargs loc hlen .decrement

/-! ## Calls -/

/-- A procedure that was found. -/
lemma enter {p : Procedure} (hp : p.body.Compiled (builtin why)) :
    ((do
      let values ← CommandScript.evalResolved (ev depth) args
      CommandScript.checkDepth depth .procedures loc
      let arguments ← Run.ofCompute (Compute.newArray loc values)
      Run.settle loc (Run.inFrame (p.setUp values arguments) (ev (depth + 1) p.body))) :
        Run Value).Keeps (AllCompiled (builtin why)) H := by
  refine .bind (hev.evalResolved hargs) fun values => ?_
  refine .bind (hev.checkDepth depth .procedures loc) fun _ => ?_
  refine .bind (.ofCompute (.newArray loc values)) fun arguments => ?_
  have hstray : ∀ k, H (.failure ⟨.stray k, loc⟩) := fun k => hev.ordinary _ (by simp [Cause.kind])
  refine .settle hstray (.inFrame (fun e => ?_) (hev.keeps _ _ hp))
  obtain ⟨g, hg⟩ := p.onlyFrame_setUp values arguments
  rw [hg]

/-- What a function of the language does, on a number of arguments that it accepts. -/
lemma apply {name : String} {e : Entry} (he : (builtin why).find? name = some e)
    (haccepts : e.arity.accepts args.length = true)
    (hproc : e.behaviour = .form .proc → 2 ≤ args.length) (fuel : Nat) :
    (Node.apply (builtin why) ev fuel depth e.behaviour args loc).Keeps
      (AllCompiled (builtin why)) H := by
  have hmem := (Library.mem_of_find?_builtin he).1
  cases hb : e.behaviour with
  | compute c =>
    have hordinary : ∀ values, (c.run loc values).HaltsIn H := fun values =>
      (halts_of_compute e hmem c hb loc values).mono fun h hin =>
        hev.ordinary h (Library.builtin_ordinary he (by simp [hb]) hin)
    simp only [Node.apply]
    split
    · exact .bind (hev.evalResolved hargs) fun values => .ofCompute (hordinary values)
    · exact .bind (hev.evalAll hargs) fun values => .ofCompute (hordinary values)
  | contact c =>
    refine .bind (hev.evalResolved hargs) fun values => ?_
    exact (keeps_of_contact e hmem c hb loc values).mono fun h hin =>
      hev.ordinary h (Library.builtin_ordinary he (by simp [hb]) hin)
  | form f =>
    obtain ⟨-, hsufficient⟩ := Library.builtin_form he hb
    refine hev.form hargs loc (Form.needs_le hsufficient haccepts) (fun hf => ?_) fuel
    exact hproc (by rw [hb, hf])

end Evaluator.Sound

/-- An evaluation that fails at once: it calls a procedure that is not defined, or it defines one
with fewer than two arguments. -/
inductive Moment.Raises : Failure → Moment → Prop where
  | unknownProcedure {fuel depth : Nat} {name : String} {args : List Node} {loc : Location}
    {w : World} (mark : isProcedureName name = true)
    (undefined : w.env.procedures.get? name = none) :
    Raises ⟨.unknownProcedure name, loc⟩ ⟨fuel, depth, .call name args loc, w⟩
  | noProcedureBody {fuel depth : Nat} {args : List Node} {loc : Location} {w : World}
    (few : args.length < 2) :
    Raises ⟨.noProcedureBody, loc⟩ ⟨fuel, depth, .call "proc" args loc, w⟩

namespace Moment

variable {H : Halt → Prop} {q : Moment} {r : Except Stop Value × World}

/-- An evaluation from a moment ends soundly: the procedures are compiled then, and if it halts,
then in one of the ways `H` or with a failure that is raised at the moment itself. -/
structure EndsSoundly (lib : Library) (H : Halt → Prop) (q : Moment)
    (r : Except Stop Value × World) : Prop where
  keeps : AllCompiled lib r.2.env.procedures
  halts : ∀ h, r.1 = .error (.halt h) → H h ∨ ∃ f, h = .failure f ∧ q.Raises f

/-- An evaluation that does what a run does that halts in the ways `H` only. -/
lemma EndsSoundly.of_keeps (hw : AllCompiled (builtin why) q.world.env.procedures) {x : Run Value}
    (hx : x.Keeps (AllCompiled (builtin why)) H) (h : r = x q.world) :
    EndsSoundly (builtin why) H q r where
  keeps := h ▸ (hx q.world hw).1
  halts e he := .inl ((hx q.world hw).2 e (h ▸ he))

/-- An evaluation that fails at once. -/
lemma EndsSoundly.of_raises (hw : AllCompiled (builtin why) q.world.env.procedures) {f : Failure}
    (hf : q.Raises f) (h : r = (.error (.halt (.failure f)), q.world)) :
    EndsSoundly (builtin why) H q r := by
  subst h
  refine ⟨hw, ?_⟩
  rintro _ ⟨⟩
  exact .inr ⟨f, rfl, hf⟩

end Moment

/-- A procedure is not defined with fewer than two arguments. -/
lemma Form.runProc_of_few {ev : Node → Run Value} {loc : Location} {args : List Node}
    (h : args.length < 2) : runProc ev loc args = Run.fail loc .noProcedureBody := by
  match args, h with
  | [], _ => rfl
  | [_], _ => rfl

namespace Node

variable {H : Halt → Prop} {ev : Evaluator} {n : Node} {w : World}

/-- One layer of evaluation of compiled code with a sound evaluator ends soundly.

**Proof sketch.** By the sort of the expression. The compiler has seen to it that a call is one of a
procedure, which may be undefined, or of a function that exists and accepts the arguments. Of the
functions only the one that defines procedures may still miss arguments. -/
lemma step_sound (hev : ev.Sound (builtin why) H) (hn : n.Compiled (builtin why))
    (hw : AllCompiled (builtin why) w.env.procedures) (fuel depth : Nat) :
    Moment.EndsSoundly (builtin why) H ⟨fuel + 1, depth, n, w⟩
      (step (builtin why) ev fuel depth n w) := by
  cases n with
  | literal v => exact .of_keeps hw (.pure v) rfl
  | ivar name l => exact .of_keeps hw (.withEnv fun e _ => .pure _) rfl
  | var name l => exact .of_keeps hw (.withEnv fun e _ => .pure _) rfl
  | call name args l =>
    have hargs : ∀ m ∈ args, m.Compiled (builtin why) := fun m hm => .part hn hm
    by_cases hname : isProcedureName name = true
    · have hstep : step (builtin why) ev fuel depth (call name args l) w =
          callProcedure ev depth name args l w := by
        simp only [step, runCall, hname, if_true]
      rw [callProcedure, bind_of_ok (Run.env_apply w)] at hstep
      cases hget : w.env.procedures.get? name with
      | none =>
        simp only [hget] at hstep
        exact .of_raises hw (.unknownProcedure hname hget) hstep
      | some p =>
        simp only [hget] at hstep
        exact .of_keeps hw (hev.enter hargs l (hw name p hget).2.2) hstep
    · obtain hproc | ⟨arity, hsig, haccepts⟩ := (Grammar.checked_call hn.checked).1
      · exact absurd hproc hname
      · obtain ⟨e, he, rfl⟩ := Option.map_eq_some_iff.1 hsig
        have hstep := runCall_apply (by simpa using hname) he ev fuel depth args l w
        rw [if_pos haccepts] at hstep
        split at hstep
        · exact .of_keeps hw (hev.fail (by simp [Cause.kind])) hstep
        · by_cases hfew : e.behaviour = .form .proc ∧ args.length < 2
          · obtain ⟨rfl, -⟩ := Library.builtin_form he hfew.1
            refine .of_raises hw (.noProcedureBody hfew.2) (hstep.trans ?_)
            rw [hfew.1]
            exact congrFun (Form.runProc_of_few hfew.2) w
          · refine .of_keeps hw (hev.apply hargs l he haccepts (fun hb => ?_) fuel) hstep
            have := not_and.1 hfew hb
            omega

/-- Evaluation of compiled code keeps the procedures compiled, however it ends. -/
lemma eval_sound (fuel : Nat) :
    Evaluator.Sound (builtin why) (fun _ => True) (eval (builtin why) fuel) := by
  refine ⟨fun _ _ => trivial, ?_⟩
  induction fuel with
  | zero => exact fun depth n hn => .outOfFuel
  | succ fuel ih =>
    intro depth n hn w hw
    exact ⟨(step_sound ⟨fun _ _ => trivial, ih⟩ hn hw fuel depth).keeps, fun _ _ => trivial⟩

end Node

/-! ## Where failures come from -/

open Classical in
/-- An evaluator that stops at the moments with a property. -/
noncomputable def Evaluator.cut (ev : Evaluator) (P : Nat → Node → World → Prop) : Evaluator :=
  fun depth n w => if P depth n w then (.error .outOfFuel, w) else ev depth n w

section

variable {C : Prop} {H : Halt → Prop} {Q : Node → Node → Prop} {depth : Nat} {α β : Type}
  {R : α → β → Prop}
  {x : Evaluator → Run α} {y : Evaluator → Run β} {ev : Evaluator} {P : Nat → Node → World → Prop}

lemma Evaluator.cut_of_not {n : Node} {w : World} (h : ¬ P depth n w) :
    ev.cut P depth n w = ev depth n w := by
  simp [cut, h]

/-- A layer asks for one of the moments with a property, or it does the same however these come out.

**Proof sketch.** By the building blocks, as for a single moment. -/
lemma Layer.asks_some_or (h : Layer C H Q depth R x y) (ev : Evaluator)
    (P : Nat → Node → World → Prop) (fuel : Nat) (w : World) :
    (∃ q : Moment, q.fuel = fuel ∧ Asks x ev w q ∧ P q.depth q.node q.world) ∨
      x (ev.cut P) w = x ev w := by
  induction h generalizing w with
  | act => exact .inr rfl
  | spent => exact .inr rfl
  | command => exact .inr rfl
  | @ask n n' =>
    by_cases hP : P depth n w
    · exact .inl ⟨⟨fuel, depth, n, w⟩, rfl, ev.stopAt_self ⟨fuel, depth, n, w⟩, hP⟩
    · exact .inr (Evaluator.cut_of_not hP)
  | @enter n n' =>
    by_cases hP : P (depth + 1) n w
    · exact .inl ⟨⟨fuel, depth + 1, n, w⟩, rfl, ev.stopAt_self ⟨fuel, depth + 1, n, w⟩, hP⟩
    · exact .inr (Evaluator.cut_of_not hP)
  | @inFrame n n' setUp =>
    by_cases hP : P (depth + 1) n { w with env := setUp w.env.pushFrame }
    · refine .inl ⟨⟨fuel, depth + 1, n, _⟩, rfl, fun mark => ?_, hP⟩
      exact Run.inFrame_of_outOfFuel (ev.stopAt_self ⟨fuel, depth + 1, n, _⟩ mark)
    · refine .inr ?_
      simp only [Run.inFrame, Evaluator.cut_of_not hP]
  | @bind _ _ _ _ _ _ x y f g total hx hf ihx ihf =>
    rcases ihx w with ⟨q, hfuel, hask, hP⟩ | hsame
    · exact .inl ⟨q, hfuel, fun mark => bind_of_error (hask mark), hP⟩
    · rcases hxw : x ev w with ⟨e | a, v⟩
      · exact .inr ((bind_of_error (hsame.trans hxw)).trans (bind_of_error hxw).symm)
      · -- the first run gives `a` either way, so the second one decides
        obtain ⟨b, hb⟩ := total a
        rcases ihf a b hb v with ⟨q, hfuel, hask, hP⟩ | hrest
        · exact .inl ⟨q, hfuel, hx.asks_bind hxw hask, hP⟩
        · refine .inr ((bind_of_ok (hsame.trans hxw)).trans ?_)
          exact hrest.trans (bind_of_ok hxw).symm
  | @round x y h ih =>
    rcases ih w with ⟨q, hfuel, hask, hP⟩ | hsame
    · exact .inl ⟨q, hfuel, fun mark => Run.round_of_outOfFuel (hask mark), hP⟩
    · refine .inr ?_
      simp only [Run.round, hsame]
  | @settle x y loc h ih =>
    rcases ih w with ⟨q, hfuel, hask, hP⟩ | hsame
    · exact .inl ⟨q, hfuel, fun mark => Run.settle_of_outOfFuel loc (hask mark), hP⟩
    · refine .inr ?_
      simp only [Run.settle, hsame]

end

/-- An evaluator fails with a failure at compiled code, in a world with compiled procedures. -/
def Evaluator.Fails (lib : Library) (ev : Evaluator) (f : Failure) (depth : Nat)
    (n : Node) (w : World) : Prop :=
  n.Compiled lib ∧ AllCompiled lib w.env.procedures ∧
    (ev depth n w).1 = .error (.halt (.failure f))

/-- An evaluator that stops where it would fail with a failure does not fail with it. -/
lemma Evaluator.Sound.cut {ev : Evaluator} (hev : ev.Sound (builtin why) fun _ => True)
    {f : Failure} (hf : ¬ (Halt.failure f).Ordinary) :
    (ev.cut (ev.Fails (builtin why) f)).Sound (builtin why) (· ≠ .failure f) where
  ordinary h ho hh := hf (hh ▸ ho)
  keeps depth n hn w hw := by
    by_cases hfails : ev.Fails (builtin why) f depth n w
    · simp only [Evaluator.cut, if_pos hfails]
      exact ⟨hw, by rintro _ ⟨⟩⟩
    · rw [Evaluator.cut_of_not hfails]
      refine ⟨(hev.keeps depth n hn w hw).1, ?_⟩
      rintro h he rfl
      exact hfails ⟨hn, hw, he⟩

/-- Where a failure that is not ordinary comes from, in compiled code.

**Proof sketch.** By induction on the fuel. If the layer asks for an evaluation that fails in this
way, the failure comes from there. Otherwise it does the same with the evaluator that stops where it
would fail in this way, and so it raises the failure itself. -/
lemma Node.eval_raises {f : Failure} (hf : ¬ (Halt.failure f).Ordinary) {fuel depth : Nat}
    {n : Node} {w : World}
    (h : Evaluator.Fails (builtin why) (eval (builtin why) fuel) f depth n w) :
    ∃ q, Moment.Reaches (builtin why) ⟨fuel, depth, n, w⟩ q ∧ q.Raises f := by
  induction fuel generalizing depth n w with
  | zero => cases h.2.2
  | succ fuel ih =>
    obtain ⟨hn, hw, he⟩ := h
    have hlayer := step_layer_self (builtin why).haltsIn_any fuel depth n
    rcases hlayer.asks_some_or (eval (builtin why) fuel)
      (Evaluator.Fails (builtin why) (eval (builtin why) fuel) f) fuel w
      with ⟨q, rfl, hask, hq⟩ | hsame
    · obtain ⟨p, hreach, hraises⟩ := ih hq
      exact ⟨p, .head ⟨rfl, hask⟩ hreach, hraises⟩
    · have hcut := step_sound ((eval_sound fuel).cut hf) hn hw fuel depth
      obtain hne | ⟨g, hg, hraises⟩ := hcut.halts _ ((congrArg Prod.fst hsame).trans he)
      · exact absurd rfl hne
      · cases hg
        exact ⟨_, .refl, hraises⟩

/-- Where a failure of some compiled statements that is not ordinary comes from. -/
lemma evalAll_raises {f : Failure} (hf : ¬ (Halt.failure f).Ordinary) {fuel : Nat}
    {nodes : List Node} (hnodes : ∀ n ∈ nodes, n.Compiled (builtin why)) {w : World}
    (hw : AllCompiled (builtin why) w.env.procedures)
    (h : (evalAll (Node.eval (builtin why) fuel 0) nodes w).1 = .error (.halt (.failure f))) :
    ∃ q, Visits (builtin why) fuel nodes w q ∧ q.Raises f := by
  rcases (layer_evalAll nodes).asks_some_or (Node.eval (builtin why) fuel)
    (Evaluator.Fails (builtin why) (Node.eval (builtin why) fuel) f) fuel w
    with ⟨p, rfl, hask, hp⟩ | hsame
  · obtain ⟨q, hreach, hraises⟩ := Node.eval_raises hf hp
    exact ⟨q, ⟨p, rfl, hask, hreach⟩, hraises⟩
  · have hsound : (Node.eval (builtin why) fuel).Sound (builtin why) fun _ => True :=
      Node.eval_sound fuel
    have hcut := hsound.cut hf
    exact absurd rfl ((hcut.evalAll hnodes w hw).2 (.failure f) (hsame ▸ h))

namespace Library

/-- Compiled code calls what there is.

A script that compiles is run, in a world in which every procedure is stored under its own name,
with the mark of a procedure, and with compiled code as its body. However the run ends, the
procedures are of this sort again. If it ends with a failure for an unknown name or for missing
arguments, then the failure was raised at a moment of the run by a call of a procedure that was not
defined there, or by a definition of a procedure with fewer than two arguments. So no call of a
function fails because there is none of the name or because it does not accept the arguments, and no
special form misses an argument: not in the script, not in procedures and not in texts that are
compiled during the run. The same holds of the script as a whole, with its report. -/
theorem dispatch_of_compiled {folding : Bool} {ts : List Token} {s : Store} {nodes : List Node}
    (h : ((builtin why).compileTokens folding ts s).1 = .ok nodes) {w : World}
    (hw : AllCompiled (builtin why) w.env.procedures) (fuel : Nat) :
    AllCompiled (builtin why) (evalAll (Node.eval (builtin why) fuel 0) nodes w).2.env.procedures ∧
    (∀ f, (evalAll (Node.eval (builtin why) fuel 0) nodes w).1 = .error (.halt (.failure f)) →
      f.kind = .invalidProcedure ∨ f.kind = .insufficientArguments →
      ∃ q, Visits (builtin why) fuel nodes w q ∧ q.Raises f) ∧
    ∀ report v, execute (builtin why) fuel nodes w = some (report, v) →
      AllCompiled (builtin why) v.env.procedures ∧
      ∀ f, report.result = .error f →
        f.kind = .invalidProcedure ∨ f.kind = .insufficientArguments →
        ∃ q, Visits (builtin why) fuel nodes w q ∧ q.Raises f := by
  have hnodes : ∀ n ∈ nodes, n.Compiled (builtin why) := fun n hn => .statement h hn
  have hkeeps : AllCompiled (builtin why)
      (evalAll (Node.eval (builtin why) fuel 0) nodes w).2.env.procedures :=
    ((Node.eval_sound fuel).evalAll hnodes w hw).1
  have hraises : ∀ f, (evalAll (Node.eval (builtin why) fuel 0) nodes w).1 =
      .error (.halt (.failure f)) →
      f.kind = .invalidProcedure ∨ f.kind = .insufficientArguments →
      ∃ q, Visits (builtin why) fuel nodes w q ∧ q.Raises f := by
    intro f hf hkind
    exact evalAll_raises (fun ho => hkind.elim ho.1 ho.2) hnodes hw hf
  refine ⟨hkeeps, hraises, fun report v hrun => ?_⟩
  obtain ⟨hend, hfails⟩ := executeFrom_outcome hrun
  constructor
  · rcases hend with rfl | ⟨message, rfl⟩
    · exact hkeeps
    · rwa [Environment.send_procedures]
  intro f hf hkind
  rcases hfails f hf with hsame | ⟨loc, s, rfl⟩
  · exact hraises f hsame hkind
  · -- a stray signal is of neither kind
    rcases hkind with hkind | hkind <;> cases hkind

/-- The tokens of a call without arguments. -/
def callTokens (name : String) : List Token :=
  [⟨.functionName name, .unknown⟩, ⟨.openParen, .unknown⟩, ⟨.closeParen, .unknown⟩]

/-- A procedure that defines a procedure without name and body. -/
def definer : Procedure := ⟨"_p", [], .call "proc" [] .unknown⟩

/-- A world with this procedure. -/
def defining : World where
  env := { procedures := Bindings.empty.insert definer.name definer }

lemma find?_proc : (builtin why).find? "proc" = some Builtin.proc := by
  rw [find?_builtin]
  rfl

lemma compile_callTokens {name : String} (h : Node.Allowed (builtin why).signature name 0) :
    ((builtin why).compileTokens false (callTokens name) .empty).1 =
      .ok [.call name [] .unknown] := by
  have hslot : Grammar.Slot 1 (callTokens name) (.call name [] .unknown) :=
    .mk (by decide) (.cons (.mk (.call .none) .nil) .nil)
  exact compileTokens_false_eq_ok.2 (Grammar.parse_of_slot hslot (.call h (by simp))
    (fun t us h => by cases h) (Node.parse_nil.2 rfl))

/-- The definition fails. -/
lemma eval_proc_nil {lib : Library} (h : lib.find? "proc" = some Builtin.proc) (fuel depth : Nat)
    (w : World) :
    Node.eval lib (fuel + 1) depth (.call "proc" [] .unknown) w =
      (.error (.halt (.failure ⟨.noProcedureBody, .unknown⟩)), w) :=
  Node.runCall_apply (by decide) h (Node.eval lib fuel) fuel depth [] .unknown w

/-- A call of the procedure fails as its body does. -/
lemma evalAll_definer {lib : Library} {f : Failure}
    (h : ∀ w, Node.eval lib 1 1 definer.body w = (.error (.halt (.failure f)), w)) :
    (evalAll (Node.eval lib 2 0) [.call "_p" [] .unknown] defining).1 =
      .error (.halt (.failure f)) := by
  -- the array of the arguments is there before the body runs in its frame
  have hcall : Node.eval lib 2 0 (.call "_p" [] .unknown) defining =
      Run.settle .unknown (Run.inFrame (definer.setUp [] (.array 0 .unknown))
        (Node.eval lib 1 1 definer.body))
        { defining with store := (Compute.newArray .unknown [] .empty).2 } := rfl
  simp only [Run.settle, Run.inFrame, h] at hcall
  rw [evalAll, bind_of_error hcall]

/-- The failure of the definition in the body of the procedure ends a script that calls it, and is
traced back to the definition. -/
theorem dispatch_of_compiled_defining :
    AllCompiled builtin defining.env.procedures ∧
    (builtin.compileTokens false (callTokens "_p") .empty).1 = .ok [.call "_p" [] .unknown] ∧
    (evalAll (Node.eval builtin 2 0) [.call "_p" [] .unknown] defining).1 =
      .error (.halt (.failure ⟨.noProcedureBody, .unknown⟩)) ∧
    ∃ q, Visits builtin 2 [.call "_p" [] .unknown] defining q ∧
      q.Raises ⟨.noProcedureBody, .unknown⟩ := by
  have hfind : builtin.find? "proc" = some Builtin.proc := find?_proc
  have hproc : Node.Allowed builtin.signature "proc" 0 :=
    .inr ⟨_, by rw [signature, hfind]; rfl, rfl⟩
  have hbody : definer.body.Compiled builtin :=
    .statement (compile_callTokens hproc) (List.mem_singleton.2 rfl)
  have hmark : isProcedureName definer.name = true := by decide
  have hempty : AllCompiled builtin .empty := by
    rintro name p ⟨⟩
  have hall : AllCompiled builtin defining.env.procedures := hempty.insert hmark hbody
  have hcomp := compile_callTokens (.inl (by decide) : Node.Allowed builtin.signature "_p" 0)
  have hfail := evalAll_definer (eval_proc_nil hfind 0 1)
  exact ⟨hall, hcomp, hfail, (dispatch_of_compiled hcomp hall 2).2.1 _ hfail (.inr rfl)⟩

end Library

end CommandScript
