import CommandScript.Proofs.Privilege
import CommandScript.Proofs.Slotless

/-!
# Slots are not stored

Whatever a script stores is followed through slots first. So in a world without stored slots a
script can be run to any moment, and still no slot is stored; and no function that has its arguments
followed is ever given one. What such a function would do with a slot does not matter.

## Main definitions

* `CommandScript.Evaluator.Tidy` — evaluators that store no slot.
* `CommandScript.Moment.Hands` — an evaluation that hands values to a function.
* `CommandScript.Library.AgreesOffSlots` — libraries whose functions do the same, but perhaps on
  slots that were to be followed.

## Main results

* `CommandScript.Evaluator.Tidy.step` — one layer of evaluation with a tidy evaluator stores no
  slot.
* `CommandScript.Evaluator.Tidy.of_asks` — a tidy evaluator is asked in worlds without stored slots.
* `CommandScript.Library.AgreesOffSlots.eval_eq` — evaluation does not depend on what is done with
  slots that were to be followed.
* `CommandScript.Library.slots_are_not_stored` — no run of a script stores a slot, or hands one to a
  function that has its arguments followed.
-/

namespace CommandScript

open Library (builtin)

variable {why : String → Option String}

/-! ## Evaluation -/

/-- An evaluator that stores no slot. -/
def Evaluator.Tidy (ev : Evaluator) : Prop := ∀ depth n, (ev depth n).Ensures fun _ => True

lemma checkDepth_ensures (depth : Nat) (what : Nesting) (loc : Location) :
    (checkDepth depth what loc).Ensures fun _ => True := by
  unfold checkDepth
  split
  · exact .fail loc _
  · exact .pure trivial

namespace Evaluator.Tidy

variable {ev : Evaluator} (hev : ev.Tidy) (depth : Nat) (loc : Location) {α : Type} {P : α → Prop}

include hev

lemma evalAll (ns : List Node) : (evalAll (ev depth) ns).Ensures fun _ => True := by
  induction ns with
  | nil => exact .pure trivial
  | cons n ns ih => exact .next (hev depth n) fun _ => .next ih fun _ => .pure trivial

/-- Values that were followed through slots are none. -/
lemma evalResolved (ns : List Node) :
    (evalResolved (ev depth) ns).Ensures fun values => ∀ v ∈ values, v.isSlot = false := by
  refine .next (hev.evalAll depth ns) fun values => .pure fun v hv => ?_
  obtain ⟨u, -, rfl⟩ := List.mem_map.1 hv
  exact u.isSlot_resolved

lemma evalTexts (ns : List Node) : (evalTexts (ev depth) ns).Ensures fun _ => True := by
  induction ns with
  | nil => exact .pure trivial
  | cons n ns ih =>
    refine .next (hev depth n) fun v => ?_
    cases v.isVoid with
    | true => exact ih
    | false => exact .next (.textOf v) fun _ => .next ih fun _ => .pure trivial

lemma allAre (wanted : Bool) (ns : List Node) :
    (Form.allAre wanted (ev depth) ns).Ensures fun _ => True := by
  induction ns with
  | nil => exact .pure trivial
  | cons n ns ih =>
    refine .next (hev depth n) fun v => .next (.isTrue v) fun t => ?_
    split
    · exact ih
    · exact .pure trivial

/-! ### Special forms -/

omit hev in
lemma part (f : Form) (args : List Node) (i : Nat) : (f.part args i loc).Ensures fun _ => True := by
  unfold Form.part
  split
  · exact .pure trivial
  · exact .fail loc _

omit hev in
lemma variableName (f : Form) (position : Nat) (n : Node) :
    (f.variableName position n).Ensures fun _ => True := by
  unfold Form.variableName
  split
  · exact .pure trivial
  · exact .fail _ _

/-- A value is followed through slots before it is assigned. -/
lemma runAssign (args : List Node) :
    (Form.runAssign (ev depth) loc args).Ensures fun _ => True :=
  .next (part loc _ args 0) fun target => .next (variableName _ 1 target) fun name =>
    .next (part loc _ args 1) fun n => .next (hev depth n) fun v =>
      .next (.setIvar name v.isSlot_resolved) fun _ => .pure trivial

lemma runFor (fuel : Nat) (args : List Node) :
    (Form.runFor (ev depth) fuel loc args).Ensures fun _ => True := by
  refine .next (part loc _ args 0) fun start => ?_
  split
  · refine .next (part loc _ args 1) fun condition => .next (part loc _ args 2) fun next =>
      .next (part loc _ args 3) fun body => .next (hev depth _) fun _ => ?_
    exact .next (.roundsWhile (hev depth condition) (hev depth next) (hev depth body) fuel) fun _ =>
      .pure trivial
  · exact .fail _ _

/-- The cells of an array are no slots, and so they may be stored as they are. -/
lemma runForeach (args : List Node) :
    (Form.runForeach (ev depth) loc args).Ensures fun _ => True := by
  refine .next (part loc _ args 1) fun target => .next (variableName _ 2 target) fun name =>
    .next (part loc _ args 2) fun body => .next (part loc _ args 0) fun source =>
      .next (hev depth source) fun v => ?_
  split
  · next r _ _ =>
    refine .bind .get fun w hw => .next (.rounds name (hev depth body) fun c hc => ?_) fun _ =>
      .pure trivial
    exact hw.store r c (Array.mem_toList_iff.1 hc)
  · exact .fail loc _

/-- The default of a parameter is followed through slots. -/
lemma parameter (position : Nat) (n : Node) :
    (Form.parameter (ev depth) position n).Ensures fun p => p.2.isSlot = false := by
  unfold Form.parameter
  split
  · exact .pure rfl
  · next target default _ =>
    exact .next (variableName _ position target) fun name =>
      .next (hev depth default) fun v => .pure v.isSlot_resolved
  · exact .fail _ _

lemma parameters (position : Nat) (ns : List Node) :
    (Form.parameters (ev depth) position ns).Ensures fun ps => ∀ p ∈ ps, p.2.isSlot = false := by
  induction ns generalizing position with
  | nil => exact .pure (by simp)
  | cons n ns ih =>
    exact .bind (hev.parameter depth position n) fun p hp => .bind (ih (position + 1)) fun ps hps =>
      .pure (List.forall_mem_cons.2 ⟨hp, hps⟩)

lemma runProc (args : List Node) : (Form.runProc (ev depth) loc args).Ensures fun _ => True := by
  unfold Form.runProc
  split
  · next first rest =>
    split
    · refine .next (hev depth first) fun v => .next (.textOf v) fun name => ?_
      split
      · exact .bind (hev.parameters depth 2 _) fun params hparams =>
          .next (.modifyEnv fun e he => he.define hparams) fun _ => .pure trivial
      · exact .fail _ _
    · exact .fail loc _
  · exact .fail loc _

lemma runEval (args : List Node) :
    (Form.runEval (builtin why) ev depth loc args).Ensures fun _ => True := by
  refine .next (part loc _ args 0) fun n => .next (hev depth n) fun v => ?_
  refine .next (.textOf v) fun text => .next (.ofCompile loc text) fun nodes => ?_
  refine .next (checkDepth_ensures depth .eval loc) fun _ => ?_
  refine .next (hev.evalTexts (depth + 1) nodes) fun texts => ?_
  split
  · exact .pure trivial
  · exact .pure trivial

lemma runIf (args : List Node) : (Form.runIf (ev depth) loc args).Ensures fun _ => True := by
  refine .next (part loc _ args 0) fun n => .next (hev depth n) fun v => ?_
  refine .next (.isTrue v) fun t => ?_
  split
  · exact .next (part loc _ args 1) fun m => hev depth m
  · split
    · exact hev depth _
    · exact .pure trivial

/-- The value that a script variable is changed to is a number. -/
lemma runStep (f : Form) (args : List Node) :
    (f.runStep (ev depth) loc args).Ensures fun _ => True := by
  have hamount : (Form.amountOf (ev depth) loc args).Ensures fun _ => True := by
    unfold Form.amountOf
    split
    · exact .next (hev depth _) fun v => .ofExcept loc _
    · exact .pure trivial
  have hcurrent : ∀ name, (Form.currentOf loc name).Ensures fun _ => True := by
    intro name
    refine .bind .env fun e _ => ?_
    split
    · exact .ofExcept loc _
    · exact .pure trivial
  have hnumber : ∀ n : Number, (n.toValue loc).isSlot = false := by
    intro n
    cases n <;> rfl
  rw [Form.runStep_eq]
  exact .next (part loc _ args 0) fun target => .next (variableName _ 1 target) fun name =>
    .next hamount fun amount => .next (.ofExcept loc _) fun change =>
      .next (hcurrent name) fun current => .next (.ofExcept loc _) fun next =>
        .next (.setIvar name (hnumber next)) fun _ => .pure trivial

lemma form (f : Form) (fuel : Nat) (args : List Node) :
    (f.run (builtin why) ev fuel depth loc args).Ensures fun _ => True := by
  cases f with
  | assign => exact hev.runAssign depth loc args
  | forLoop => exact hev.runFor depth loc fuel args
  | foreach => exact hev.runForeach depth loc args
  | proc => exact hev.runProc depth loc args
  | eval => exact hev.runEval depth loc args
  | ifElse => exact hev.runIf depth loc args
  | conjunction => exact .next (hev.allAre depth true args) fun _ => .pure trivial
  | disjunction => exact .next (hev.allAre depth false args) fun _ => .pure trivial
  | increment => exact hev.runStep depth loc .increment args
  | decrement => exact hev.runStep depth loc .decrement args

/-! ### Calls -/

/-- The frame of a procedure starts with arguments that were followed through slots, and with
defaults. -/
lemma callProcedure (name : String) (args : List Node) :
    (Node.callProcedure ev depth name args loc).Ensures fun _ => True := by
  refine .bind .env fun e he => ?_
  split
  · exact .fail loc _
  · next p hp =>
    refine .bind (hev.evalResolved depth args) fun values hvalues =>
      .next (checkDepth_ensures depth .procedures loc) fun _ => ?_
    have harray : (Run.ofCompute (Compute.newArray loc values)).Ensures
        fun v => v.isSlot = false := by
      intro w hw
      refine ⟨(Run.Ensures.ofCompute (.newArray loc hvalues) w hw).1, ?_⟩
      rintro _ ⟨⟩
      rfl
    refine .bind harray fun arguments harguments => ?_
    refine .settle loc (.inFrame (fun d hd => ?_) (hev _ _))
    exact hd.setUp (he.defaults name p hp) hvalues harguments

/-- A function of the language is given arguments that were followed through slots. -/
lemma apply {name : String} {e : Entry} (he : (builtin why).find? name = some e) (fuel : Nat)
    (args : List Node) :
    (Node.apply (builtin why) ev fuel depth e.behaviour args loc).Ensures fun _ => True := by
  cases hb : e.behaviour with
  | compute c =>
    obtain ⟨hresolves, htidy⟩ := tidy_of_compute e (Library.mem_of_find?_builtin he).1 c hb
    simp only [Node.apply, hresolves, if_true]
    exact .bind (hev.evalResolved depth args) fun values hvalues =>
      .ofCompute (htidy loc values hvalues)
  | contact c => exact .bind (hev.evalResolved depth args) fun values _ => c.run_ensures loc values
  | form f => exact hev.form depth loc f fuel args

/-- One layer of evaluation. -/
lemma step (fuel : Nat) (n : Node) :
    (Node.step (builtin why) ev fuel depth n).Ensures fun _ => True := by
  cases n with
  | literal v => exact .pure trivial
  | ivar name loc => exact .bind .env fun _ _ => .pure trivial
  | var name loc => exact .bind .env fun _ _ => .pure trivial
  | call name args loc =>
    by_cases hname : isProcedureName name = true
    · simp only [Node.step, Node.runCall, hname, if_true]
      exact hev.callProcedure depth loc name args
    · cases he : (builtin why).find? name with
      | none =>
        simp only [Node.step, Node.runCall, hname, he]
        exact .fail loc _
      | some e =>
        intro w hw
        simp only [Node.step]
        rw [Node.runCall_apply (Bool.eq_false_iff.2 hname) he]
        -- a call that is turned down leaves the world alone
        split
        · split
          · exact ⟨hw, fun _ _ => trivial⟩
          · exact hev.apply depth loc he fuel args w hw
        · exact ⟨hw, fun _ _ => trivial⟩

omit hev in
/-- Evaluation stores no slot. -/
lemma eval (fuel : Nat) : Evaluator.Tidy (Node.eval (builtin why) fuel) := by
  induction fuel with
  | zero => exact fun _ _ => .stop _
  | succ fuel ih => exact fun depth n => ih.step depth fuel n

/-! ### Moments of a run -/

/-- A tidy evaluator is asked in worlds without stored slots only.

**Proof sketch.** Stopped in a world with a stored slot, at a moment whose world has one, the
evaluator is as tidy as before. But a run that asks for that moment would end there. -/
lemma of_asks {x : Evaluator → Run α} (hx : ∀ ev : Evaluator, ev.Tidy → (x ev).Ensures P)
    {w : World} (hw : w.Slotless) {q : Moment} (hask : Asks x ev w q) : q.world.Slotless := by
  by_contra hq
  have hstop : (ev.stopAt q q.world).Tidy := by
    intro d n v hv
    have hne : ¬(d = q.depth ∧ n = q.node ∧ v = q.world) := by
      rintro ⟨-, -, rfl⟩
      exact hq hv
    rw [ev.stopAt_of_ne q q.world hne]
    exact hev d n v hv
  have hend := (hx _ hstop w hw).1
  rw [hask q.world] at hend
  exact hq hend

end Evaluator.Tidy

/-- What is reached from a moment without stored slots is another one. -/
lemma Moment.Reaches.slotless {m q : Moment} (h : m.Reaches (builtin why) q)
    (hm : m.world.Slotless) :
    q.world.Slotless := by
  induction h with
  | refl => exact hm
  | tail _ hstart ih =>
    exact (Evaluator.Tidy.eval _).of_asks (fun ev hev => hev.step _ _ _) ih hstart.asks

/-- An evaluation hands values to a function: it is a call of the function, with as many arguments
as it accepts and by an actor who may call it, and the arguments have these values, in a world that
was reached while they were evaluated. -/
inductive Moment.Hands (lib : Library) (e : Entry) (values : List Value) (v : World) :
    Moment → Prop where
  | call {fuel depth : Nat} {name : String} {args : List Node} {loc : Location} {u : World}
    (noProcedure : isProcedureName name = false) (found : lib.find? name = some e)
    (noForm : ∀ f, e.behaviour ≠ .form f) (accepted : e.arity.accepts args.length = true)
    (permitted : e.restricted = true → u.env.privileged = true)
    (evaluated : (if e.resolves then evalResolved (Node.eval lib fuel depth) args
      else evalAll (Node.eval lib fuel depth) args) u = (.ok values, v)) :
    Hands lib e values v ⟨fuel + 1, depth, .call name args loc, u⟩

/-- Values that were followed through slots are none. -/
lemma isSlot_of_evalResolved {ev : Node → Run Value} {ns : List Node} {w v : World}
    {values : List Value} (h : evalResolved ev ns w = (.ok values, v)) :
    ∀ a ∈ values, a.isSlot = false := by
  intro a ha
  obtain ⟨found, u, -, hfound⟩ := bind_eq_ok.1 h
  cases hfound
  obtain ⟨b, -, rfl⟩ := List.mem_map.1 ha
  exact b.isSlot_resolved

namespace Moment.Hands

variable {lib : Library} {e : Entry} {values : List Value} {v : World} {q : Moment}

/-- A function that has its arguments followed is handed no slots. -/
lemma isSlot_eq_false (h : q.Hands lib e values v) (he : e.resolves = true) :
    ∀ a ∈ values, a.isSlot = false := by
  cases h with
  | call _ _ _ _ _ evaluated =>
    rw [if_pos he] at evaluated
    exact isSlot_of_evalResolved evaluated

/-- The evaluation goes on with the function called on the values. -/
lemma eval_eq (h : q.Hands lib e values v) :
    Node.eval lib q.fuel q.depth q.node q.world = e.exec lib q.fuel q.node.loc values v := by
  cases h with
  | @call fuel depth name args loc u noProcedure found noForm accepted permitted evaluated =>
    have hallowed : ¬(e.restricted && !u.env.privileged) = true := by
      simp only [Bool.and_eq_true, Bool.not_eq_true', not_and, Bool.not_eq_false]
      exact permitted
    rw [Node.eval_call, Node.runCall_apply noProcedure found, if_pos accepted, if_neg hallowed]
    unfold Entry.exec
    cases hb : e.behaviour with
    | compute c =>
      simp only [Entry.resolves, hb] at evaluated
      simp only [Node.apply]
      cases hr : c.resolves with
      | true =>
        rw [if_pos hr] at evaluated
        exact bind_of_ok evaluated
      | false =>
        rw [if_neg (by simp [hr])] at evaluated
        exact bind_of_ok evaluated
    | contact c =>
      simp only [Entry.resolves, hb, if_true] at evaluated
      exact bind_of_ok evaluated
    | form f => exact absurd hb (noForm f)

end Moment.Hands

/-! ## What is done with slots does not matter -/

/-- Computations that do the same, but perhaps on slots that were to be followed. -/
structure Computation.AgreesOffSlots (c d : Computation) : Prop where
  resolves : d.resolves = c.resolves
  foldable : d.foldable = c.foldable
  run : ∀ loc args, (c.resolves = true → ∀ v ∈ args, v.isSlot = false) →
    d.run loc args = c.run loc args

/-- Functions that do the same, but perhaps on slots that were to be followed. -/
structure Entry.AgreesOffSlots (e d : Entry) : Prop where
  arity : d.arity = e.arity
  restricted : d.restricted = e.restricted
  behaviour : d.behaviour = e.behaviour ∨ ∃ c c', e.behaviour = .compute c ∧
    d.behaviour = .compute c' ∧ c.AgreesOffSlots c'

namespace Library

/-- Libraries whose functions do the same, but perhaps on slots that were to be followed. -/
def AgreesOffSlots (lib lib' : Library) : Prop :=
  ∀ name, Option.Rel Entry.AgreesOffSlots (lib.find? name) (lib'.find? name)

namespace AgreesOffSlots

variable {lib lib' : Library} (h : lib.AgreesOffSlots lib')

include h

lemma signature_eq : lib'.signature = lib.signature := by
  funext name
  have hname := h name
  unfold signature
  generalize lib.find? name = e at hname ⊢
  generalize lib'.find? name = d at hname ⊢
  cases hname with
  | none => rfl
  | some hed => simp only [Option.map_some, hed.arity]

/-- Calls are folded on constants only, which are no slots. -/
lemma foldCall_eq (name : String) (args : List Node) (loc : Location) :
    Node.foldCall lib' name args loc = Node.foldCall lib name args loc := by
  have hname := h name
  by_cases hproc : isProcedureName name = true
  · simp only [Node.foldCall, Node.foldable?, hproc, if_true]
  · rcases hvalues : args.mapM Node.static? with _ | values
    · simp only [Node.foldCall, Node.foldable?, hproc, hvalues, Option.bind_eq_bind,
        Option.bind_none]
    · have hstatic := (Node.mapM_static?_eq_some hvalues).2
      simp only [Node.foldCall, Node.foldable?, hproc, hvalues, Option.bind_eq_bind,
        Option.bind_some]
      generalize lib.find? name = e at hname ⊢
      generalize lib'.find? name = d at hname ⊢
      cases hname with
      | none => rfl
      | @some e d hed =>
        rcases hed.behaviour with hb | ⟨c, c', hc, hc', hcc⟩
        · simp only [Option.bind_some, hb]
        · have hfold : c'.fold name loc values = c.fold name loc values := by
            unfold Computation.fold
            rw [hcc.run loc values fun _ v hv => Value.isSlot_of_static (hstatic v hv)]
          simp only [Option.bind_some, hc, hc', hcc.foldable]
          cases c.foldable with
          | false => rfl
          | true => simp only [Bool.false_eq_true, if_false, if_true, hfold]

omit h in
mutual

lemma fold_eq (h : lib.AgreesOffSlots lib') : ∀ n, Node.fold lib' n = Node.fold lib n
  | .call name args loc => by simp only [Node.fold, foldAll_eq h args, h.foldCall_eq]
  | .literal _ => by simp only [Node.fold]
  | .ivar _ _ => by simp only [Node.fold]
  | .var _ _ => by simp only [Node.fold]

lemma foldAll_eq (h : lib.AgreesOffSlots lib') : ∀ ns, Node.foldAll lib' ns = Node.foldAll lib ns
  | [] => by simp only [Node.foldAll]
  | n :: ns => by simp only [Node.foldAll, fold_eq h n, foldAll_eq h ns]

end

/-- Texts compile to the same. -/
lemma compile_eq (folding : Bool) (text : String) (source : Option String) :
    lib'.compile folding text source = lib.compile folding text source := by
  unfold compile compileTokens
  simp only [h.signature_eq, h.foldAll_eq]

/-- A function does the same, since its arguments were followed through slots. -/
lemma apply_eq {e d : Entry} (hed : e.AgreesOffSlots d) (ev : Evaluator) (fuel depth : Nat)
    (args : List Node) (loc : Location) :
    Node.apply lib' ev fuel depth d.behaviour args loc =
      Node.apply lib ev fuel depth e.behaviour args loc := by
  rcases hed.behaviour with hb | ⟨c, c', hc, hc', hcc⟩
  · rw [hb]
    cases e.behaviour with
    | compute c => rfl
    | contact c => rfl
    | form f =>
      cases f with
      | eval => simp only [Node.apply, Form.run, Form.runEval, h.compile_eq]
      | _ => rfl
  · rw [hc, hc']
    simp only [Node.apply, hcc.resolves]
    split
    · next hresolves =>
      funext w
      rcases hargs : evalResolved (ev depth) args w with ⟨stop | values, v⟩
      · rw [bind_of_error hargs, bind_of_error hargs]
      · rw [bind_of_ok hargs, bind_of_ok hargs,
          hcc.run loc values fun _ => isSlot_of_evalResolved hargs]
    · next hresolves =>
      have hrun : ∀ values, c'.run loc values = c.run loc values := fun values =>
        hcc.run loc values fun hr => absurd hr hresolves
      simp only [hrun]

lemma step_eq (ev : Evaluator) (fuel depth : Nat) (n : Node) :
    Node.step lib' ev fuel depth n = Node.step lib ev fuel depth n := by
  cases n with
  | literal v => rfl
  | ivar name loc => rfl
  | var name loc => rfl
  | call name args loc =>
    have hname := h name
    simp only [Node.step, Node.runCall]
    generalize lib.find? name = e at hname ⊢
    generalize lib'.find? name = d at hname ⊢
    cases hname with
    | none => rfl
    | some hed => simp only [hed.arity, hed.restricted, h.apply_eq hed]

/-- Evaluation is the same. -/
lemma eval_eq (fuel : Nat) : Node.eval lib' fuel = Node.eval lib fuel := by
  induction fuel with
  | zero => rfl
  | succ fuel ih =>
    funext depth n
    rw [Node.eval, Node.eval, ih]
    exact h.step_eq _ fuel depth n

end AgreesOffSlots

/-- Slots are not stored.

Statements are run in a world without stored slots. However far they come and however they end, no
slot is stored then; no slot is stored when a script ends. The same holds at each moment of the run,
before and after the evaluation that starts there; and when that evaluation hands values to a
function that has its arguments followed, none of them is a slot. So the run is the same in every
library whose functions do something else with slots that were to be followed; this takes in the
calls that are made while a text is compiled. -/
theorem slots_are_not_stored {w : World} (hw : w.Slotless) (fuel : Nat) (nodes : List Node) :
    (evalAll (Node.eval (builtin why) fuel 0) nodes w).2.Slotless ∧
    (∀ report v, execute (builtin why) fuel nodes w = some (report, v) → v.Slotless) ∧
    (∀ q, Visits (builtin why) fuel nodes w q →
      q.world.Slotless ∧ (Node.eval (builtin why) q.fuel q.depth q.node q.world).2.Slotless ∧
      ∀ e values v, q.Hands (builtin why) e values v →
        Node.eval (builtin why) q.fuel q.depth q.node q.world =
          e.exec (builtin why) q.fuel q.node.loc values v ∧
        (e.resolves = true → ∀ a ∈ values, a.isSlot = false)) ∧
    ∀ lib, (builtin why).AgreesOffSlots lib →
      Node.eval lib fuel = Node.eval (builtin why) fuel := by
  have hev : Evaluator.Tidy (Node.eval (builtin why) fuel) := .eval fuel
  have hend := (hev.evalAll 0 nodes w hw).1
  refine ⟨hend, fun report v h => ?_, fun q hvisit => ?_, fun lib hlib => hlib.eval_eq fuel⟩
  · rcases (executeFrom_outcome h).1 with rfl | ⟨message, rfl⟩
    · exact hend
    · exact ⟨hend.env.send message, hend.store⟩
  · obtain ⟨p, -, hask, hreach⟩ := hvisit
    have hp := hev.of_asks (fun ev hev => hev.evalAll 0 nodes) hw hask
    have hq := hreach.slotless hp
    exact ⟨hq, (Evaluator.Tidy.eval q.fuel q.depth q.node q.world hq).1, fun e values v hands =>
      ⟨hands.eval_eq, hands.isSlot_eq_false⟩⟩

/-- A script that assigns, collects and passes on what the host has bound to a slot of a slot. -/
theorem slots_are_not_stored_aliased :
    let inner : Value := .slot "b" "" false false (.int 1 .unknown) .unknown
    let w : World := { env := { aliases :=
      ⟨[("a", .slot "a" "" false false inner .unknown)]⟩ } }
    let nodes : List Node := [.call "assign" [.ivar "x" .unknown, .var "a" .unknown] .unknown,
      .call "array" [.ivar "x" .unknown, .var "a" .unknown] .unknown]
    w.Slotless ∧ (evalAll (Node.eval builtin 9 0) nodes w).2.Slotless := by
  intro inner w nodes
  have hw : w.Slotless := by
    refine ⟨⟨?_, ?_, ?_⟩, ?_⟩
    · rintro _ _ ⟨⟩
    · simp [w]
    · rintro _ _ ⟨⟩
    · intro r v hv
      simp [w, Store.cells, Store.empty] at hv
  exact ⟨hw, (slots_are_not_stored hw 9 nodes).1⟩

end Library

end CommandScript
