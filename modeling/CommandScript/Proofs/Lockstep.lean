import CommandScript.Proofs.Agreement

/-!
# Evaluations in step

Two evaluations are compared that differ in three ways at most: in the places of the expression and
of the world, in the number of calls around them, and in the fuel. One layer after another, both do
the same, until the first one stops in a way that is excused.

## Main definitions

* `CommandScript.Evaluator.Agree` — two evaluators that agree on the parts of an expression, and one
  level deeper.

## Main results

* `CommandScript.Node.step_agrees` — one layer of evaluation agrees if the evaluators do.
* `CommandScript.Node.eval_agrees` — evaluations agree.
* `CommandScript.Node.eval_of_le` — an evaluation that comes to an end does exactly the same with
  more fuel.
* `CommandScript.Node.eval_further_out` — an evaluation that gives a value does exactly the same
  inside fewer calls.
-/

namespace CommandScript

/-! ## Evaluators that agree -/

/-- Expressions that are the same up to places, with fewer nodes than a bound. -/
structure Node.Below (ρ : Location → Location) (bound : Nat) (n n' : Node) : Prop where
  same : n.Same ρ n'
  size_lt : n.size < bound

/-- The parts of expressions that are the same up to places are, and have fewer nodes. -/
lemma Node.Same.twins {ρ : Location → Location} {n n' : Node} (h : n.Same ρ n') :
    Twins ρ (Below ρ n.size) n n' := by
  cases twins_of_mapLoc h with
  | literal hv => exact .literal hv
  | ivar name hl => exact .ivar name hl
  | var name hl => exact .var name hl
  | @call name args args' hargs l l' hl =>
    refine .call name ?_ hl
    refine ((List.forall₂_and_left _ _).2 ⟨fun m hm => ?_, hargs⟩).imp fun m m' hm => ⟨hm.2, hm.1⟩
    have hle := size_le_sizeAll hm
    rw [size]
    omega

/-- Expressions below a bound have parts below it. -/
lemma Node.Below.twins {ρ : Location → Location} {bound : Nat} {n n' : Node}
    (h : Below ρ bound n n') : Twins ρ (Below ρ bound) n n' := by
  have hlt := h.size_lt
  cases h.same.twins with
  | literal hv => exact .literal hv
  | ivar name hl => exact .ivar name hl
  | var name hl => exact .var name hl
  | call name hargs hl =>
    exact .call name (hargs.imp fun m m' hm => ⟨hm.same, Nat.lt_trans hm.size_lt hlt⟩) hl

/-- Two evaluators inside `d` and `d'` calls. They agree on expressions with fewer nodes than a
bound, and, below the limit, on all expressions one level deeper. If the first one is further in, it
is excused that calls are nested too deeply there. -/
structure Evaluator.Agree (ρ : Location → Location) (E : Stop → Prop) (bound d d' : Nat)
    (ev ev' : Evaluator) : Prop where
  ask : ∀ {n n'}, Node.Below ρ bound n n' → Run.Agrees ρ E (Value.Same ρ) (ev d n) (ev' d' n')
  enter : d < maxCallDepth → ∀ {n n'}, Node.Same ρ n n' →
    Run.Agrees ρ E (Value.Same ρ) (ev (d + 1) n) (ev' (d' + 1) n')
  level : d' ≤ d
  excused : d' < d → ∀ what l, E (.halt (.failure ⟨.tooDeep what, l⟩))
  signals : ∀ s, ¬ E (.halt (.signal s))

namespace Evaluator.Agree

open Run (Agrees)

variable {ρ : Location → Location} {E : Stop → Prop} {bound d d' : Nat} {ev ev' : Evaluator}
  (hev : Evaluator.Agree ρ E bound d d' ev ev') {args args' : List Node}
  (h : List.Forall₂ (Node.Below ρ bound) args args') {l l' : Location} (hl : ρ l = ρ l')

include hev

/-- A check of the level, followed by what needs one level more. -/
lemma checkDepth {α β : Type} {R : α → β → Prop} (what : Nesting) (hl : ρ l = ρ l') {x : Run α}
    {y : Run β} (h : d < maxCallDepth → Agrees ρ E R x y) :
    Agrees ρ E R (do checkDepth d what l; x) (do CommandScript.checkDepth d' what l'; y) := by
  have hlevel := hev.level
  unfold CommandScript.checkDepth
  by_cases hd : maxCallDepth ≤ d
  · by_cases hd' : maxCallDepth ≤ d'
    · simp only [hd, hd', if_true]
      exact .fail hl _
    · -- only the first one is too deep
      simp only [hd, if_true]
      exact fun w v _ => .inl ⟨_, hev.excused (by omega) what l, rfl⟩
  · have hd' : ¬ maxCallDepth ≤ d' := by omega
    simp only [hd, hd', if_false]
    exact .next (.pure rfl) fun _ => h (by omega)

/-! ### Lists of expressions -/

include h in
lemma evalAll : Agrees ρ E (Value.SameEach ρ) (evalAll (ev d) args)
    (CommandScript.evalAll (ev' d') args') := by
  induction h with
  | nil => exact .pure .nil
  | cons hn _ ih =>
    exact .bind (hev.ask hn) fun v v' hv => .bind ih fun vs vs' hvs => .pure (.cons hv hvs)

include h in
lemma evalResolved : Agrees ρ E (Value.SameEach ρ) (evalResolved (ev d) args)
    (CommandScript.evalResolved (ev' d') args') := by
  refine .bind (hev.evalAll h) fun vs vs' hvs => .pure ?_
  rw [Value.SameEach, List.forall₂_map_left_iff, List.forall₂_map_right_iff]
  exact hvs.imp fun v v' hv => Value.resolved_congr hv

/-- The texts of the same expressions, one level deeper. -/
lemma evalTexts (room : d < maxCallDepth) (ns : List Node) :
    Agrees ρ E Eq (evalTexts (ev (d + 1)) ns) (CommandScript.evalTexts (ev' (d' + 1)) ns) := by
  induction ns with
  | nil => exact .pure rfl
  | cons n ns ih =>
    refine .bind (hev.enter room rfl) fun v v' hv => ?_
    rw [Value.isVoid_congr hv]
    cases v'.isVoid with
    | true => exact ih
    | false => exact .next (.textOf hv) fun t => .next ih fun ts => .pure rfl

include h in
lemma allAre (wanted : Bool) :
    Agrees ρ E Eq (Form.allAre wanted (ev d) args) (Form.allAre wanted (ev' d') args') := by
  induction h with
  | nil => exact .pure rfl
  | cons hn _ ih =>
    refine .bind (hev.ask hn) fun v v' hv => .next (.isTrue hv) fun b => ?_
    by_cases hb : b = wanted
    · simpa only [hb, if_true] using ih
    · simpa only [hb, if_false] using .pure rfl

/-! ### Special forms -/

omit hev in
include h hl in
/-- A run that takes an argument of a form first. -/
lemma withPart {γ δ : Type} {S : γ → δ → Prop} (f : Form) (i : Nat) {k : Node → Run γ}
    {k' : Node → Run δ} (hk : ∀ n n', Node.Below ρ bound n n' → Agrees ρ E S (k n) (k' n')) :
    Agrees ρ E S (f.part args i l >>= k) (f.part args' i l' >>= k') := by
  unfold Form.part
  obtain ⟨hn, hn'⟩ | ⟨n, n', hn, hn', hnn⟩ := forall₂_getElem? h i
  · rw [hn, hn']
    exact .fail hl _
  · rw [hn, hn']
    exact hk n n' hnn

omit hev in
/-- The name of the same variable. -/
lemma variableName (f : Form) (position : Nat) {n n' : Node} (h : Node.Below ρ bound n n') :
    Agrees ρ E Eq (f.variableName position n) (f.variableName position n') := by
  cases h.twins with
  | literal hv => exact .fail (Node.loc_congr h.same) _
  | ivar name hl => exact .pure rfl
  | var name hl => exact .fail hl _
  | call name _ hl => exact .fail hl _

include h hl

lemma runAssign : Agrees ρ E (Value.Same ρ) (Form.runAssign (ev d) l args)
    (Form.runAssign (ev' d') l' args') := by
  refine withPart h hl .assign 0 fun n n' hn => .next (variableName _ _ hn) fun name => ?_
  refine withPart h hl .assign 1 fun m m' hm => .bind (hev.ask hm) fun v v' hv => ?_
  have hvalue := Value.resolved_congr hv
  exact .next (.setIvar name hvalue) fun _ => .pure hvalue

/-- A loop with a condition, where it is excused that the first one has too little fuel. -/
lemma runFor (hout : E .outOfFuel) {fuel fuel' : Nat} (hf : fuel ≤ fuel') :
    Agrees ρ E (Value.Same ρ) (Form.runFor (ev d) fuel l args)
      (Form.runFor (ev' d') fuel' l' args') := by
  refine withPart h hl .forLoop 0 fun n n' hn => ?_
  cases hn.twins with
  | literal hv => exact .fail (Node.loc_congr hn.same) _
  | ivar name hl' => exact .fail hl' _
  | var name hl' => exact .fail hl' _
  | call name hargs hl' =>
    by_cases hname : name = "assign"
    · subst hname
      refine withPart h hl .forLoop 1 fun c c' hc => withPart h hl .forLoop 2 fun s s' hs =>
        withPart h hl .forLoop 3 fun b b' hb => .bind (hev.ask hn) fun _ _ _ => ?_
      refine .next ((hev.ask hb).roundsWhile hev.signals hout (hev.ask hc) (hev.ask hs) hf) ?_
      exact fun _ => .pure (congrArg Value.void hl)
    · split
      · next heq => exact absurd (Node.call.inj heq).1 hname
      · split
        · next heq => exact absurd (Node.call.inj heq).1 hname
        · exact .fail hl' _

lemma runForeach : Agrees ρ E (Value.Same ρ) (Form.runForeach (ev d) l args)
    (Form.runForeach (ev' d') l' args') := by
  refine withPart h hl .foreach 1 fun n n' hn => .next (variableName _ _ hn) fun name => ?_
  refine withPart h hl .foreach 2 fun b b' hb => withPart h hl .foreach 0 fun a a' ha =>
    .bind (hev.ask ha) fun v v' hv => ?_
  have hvalue := Value.resolved_congr hv
  generalize v.resolved = u at hvalue ⊢
  generalize v'.resolved = u' at hvalue ⊢
  obtain ⟨r, _, _, rfl, rfl⟩ | ⟨hu, hu'⟩ := Value.array_or hvalue
  · refine .bind .get fun w w' hw => ?_
    have hcells := congrArg (fun s => (Store.cells s r).toList) (World.store_congr hw)
    simp only [Store.cells_mapLoc, Array.toList_map, map_eq_map_iff_forall₂] at hcells
    refine .next ((hev.ask hb).rounds hev.signals name hcells) fun _ => ?_
    exact .pure (congrArg Value.void hl)
  · split
    · exact absurd rfl (hu _ _)
    · rw [Value.typeName_congr hvalue]
      exact .fail hl _

omit h hl in
/-- The same parameter of a procedure. -/
lemma parameter (position : Nat) {n n' : Node} (hn : Node.Below ρ bound n n') :
    Agrees ρ E (fun p p' => p.1 = p'.1 ∧ p.2.Same ρ p'.2) (Form.parameter (ev d) position n)
      (Form.parameter (ev' d') position n') := by
  cases hn.twins with
  | literal hv => exact .fail (Node.loc_congr hn.same) _
  | ivar name hl => exact .pure ⟨rfl, congrArg (Value.string "") hl⟩
  | var name hl => exact .fail hl _
  | call name hargs hl =>
    by_cases hname : name = "assign"
    · subst hname
      -- an assignment is a parameter only if it has two arguments
      match hargs with
      | .nil => exact .fail hl _
      | .cons _ .nil => exact .fail hl _
      | .cons ht (.cons hd .nil) =>
        refine .next (variableName _ _ ht) fun name => ?_
        refine .bind (hev.ask hd) fun v v' hv => ?_
        exact .pure ⟨rfl, Value.resolved_congr hv⟩
      | .cons _ (.cons _ (.cons _ _)) => exact .fail hl _
    · have hfail : ∀ (ev : Node → Run Value) (as : List Node) (l : Location),
          Form.parameter ev position (.call name as l) = Run.fail l (.notParameter position) := by
        intro ev as l
        unfold Form.parameter
        split
        · next heq => cases heq
        · next heq => exact absurd (Node.call.inj heq).1 hname
        · rfl
      rw [hfail, hfail]
      exact .fail hl _

omit h hl in
/-- The same parameters of a procedure. -/
lemma parameters (position : Nat) {ns ns' : List Node}
    (hns : List.Forall₂ (Node.Below ρ bound) ns ns') :
    Agrees ρ E (fun ps ps' => ps.map (fun q => (q.1, q.2.mapLoc ρ)) =
        ps'.map fun q => (q.1, q.2.mapLoc ρ))
      (Form.parameters (ev d) position ns) (Form.parameters (ev' d') position ns') := by
  induction hns generalizing position with
  | nil => exact .pure rfl
  | cons hn _ ih =>
    refine .bind (hev.parameter position hn) fun p p' hp => ?_
    refine .bind (ih (position + 1)) fun ps ps' hps => .pure ?_
    simp only [List.map_cons, hp.1, hp.2, hps]

lemma runProc : Agrees ρ E (Value.Same ρ) (Form.runProc (ev d) l args)
    (Form.runProc (ev' d') l' args') := by
  cases h with
  | nil => exact .fail hl _
  | @cons n n' rest rest' hn hr =>
    have hlast := forall₂_getElem? hr (rest.length - 1)
    have hinit := List.forall₂_take (rest.length - 1) hr
    rw [← List.getLast?_eq_getElem?, hr.length_eq, ← List.getLast?_eq_getElem?] at hlast
    rw [← List.dropLast_eq_take, hr.length_eq, ← List.dropLast_eq_take] at hinit
    simp only [Form.runProc]
    obtain ⟨hb, hb'⟩ | ⟨b, b', hb, hb', hbb⟩ := hlast
    · rw [hb, hb']
      exact .fail hl _
    · rw [hb, hb']
      refine .bind (hev.ask hn) fun v v' hv => .next (.textOf hv) fun name => ?_
      by_cases hp : isProcedureName name
      · simp only [hp, if_true]
        refine .bind (hev.parameters 2 hinit) fun ps ps' hps => .next (.define ?_) fun _ => ?_
        · simp only [Procedure.mapLoc, hps, hbb.same]
        · exact .pure (congrArg Value.void hl)
      · simp only [hp, Bool.false_eq_true, if_false]
        exact .fail (Node.loc_congr hn.same) _

lemma runIf : Agrees ρ E (Value.Same ρ) (Form.runIf (ev d) l args)
    (Form.runIf (ev' d') l' args') := by
  refine withPart h hl .ifElse 0 fun n n' hn => .bind (hev.ask hn) fun v v' hv =>
    .next (.isTrue hv) fun b => ?_
  cases b with
  | true => exact withPart h hl .ifElse 1 fun m m' hm => hev.ask hm
  | false =>
    simp only [Bool.false_eq_true, if_false]
    obtain ⟨hm, hm'⟩ | ⟨m, m', hm, hm', hmm⟩ := forall₂_getElem? h 2
    · rw [hm, hm']
      exact .pure (congrArg Value.void hl)
    · rw [hm, hm']
      exact hev.ask hmm

lemma runEval {lib : Library} (hlib : lib.Blind ρ) :
    Agrees ρ E (Value.Same ρ) (Form.runEval lib ev d l args)
      (Form.runEval lib ev' d' l' args') := by
  refine withPart h hl .eval 0 fun n n' hn => .bind (hev.ask hn) fun v v' hv =>
    .next (.textOf hv) fun text => ?_
  have hcompile : Agrees ρ E Eq (Run.ofCompile l (lib.compile true text))
      (Run.ofCompile l' (lib.compile true text)) := by
    intro w u hwu
    obtain ⟨hresult, hstore⟩ := hlib.compile text (World.store_congr hwu)
    rcases hw : lib.compile true text none w.store with ⟨r, s⟩
    rcases hu : lib.compile true text none u.store with ⟨r', s'⟩
    rw [hw, hu] at hresult hstore
    obtain rfl : r = r' := hresult
    cases r with
    | ok nodes =>
      rw [Run.ofCompile_of_ok l hw, Run.ofCompile_of_ok l' hu]
      exact .inr ⟨.ok rfl, World.mk_congr (World.env_congr hwu) hstore⟩
    | error e =>
      rw [Run.ofCompile_of_error l hw, Run.ofCompile_of_error l' hu]
      exact .inr ⟨.halt (Halt.failure_congr hl _), World.mk_congr (World.env_congr hwu) hstore⟩
  refine .next hcompile fun nodes => hev.checkDepth .eval hl fun room => ?_
  refine .next (hev.evalTexts room nodes) fun ts => ?_
  cases ts with
  | nil => exact .pure (congrArg Value.void hl)
  | cons t ts => exact .pure (congrArg (Value.string _) hl)

lemma amountOf : Agrees ρ E Eq (Form.amountOf (ev d) l args) (Form.amountOf (ev' d') l' args') := by
  unfold Form.amountOf
  obtain ⟨hn, hn'⟩ | ⟨n, n', hn, hn', hnn⟩ := forall₂_getElem? h 1
  · rw [hn, hn']
    exact .pure rfl
  · rw [hn, hn']
    refine .bind (hev.ask hnn) fun v v' hv => ?_
    rw [Value.number_congr hv]
    exact .ofExcept hl _

omit hev h in
lemma currentOf (name : String) :
    Agrees ρ E Eq (Form.currentOf l name) (Form.currentOf l' name) := by
  refine .bind .env fun e e' he => ?_
  have hframe := Bindings.get?_congr (congrArg Environment.frame he) name
  simp only [Environment.ivar?]
  obtain ⟨hv, hv'⟩ | ⟨v, v', hv, hv', hvv⟩ := option_map_eq_map hframe
  · rw [hv, hv']
    exact .pure rfl
  · rw [hv, hv']
    simp only [Value.number_congr hvv]
    exact .ofExcept hl _

lemma runStep (f : Form) : Agrees ρ E (Value.Same ρ) (f.runStep (ev d) l args)
    (f.runStep (ev' d') l' args') := by
  simp only [Form.runStep_eq]
  refine withPart h hl f 0 fun n n' hn => .next (variableName _ _ hn) fun name => ?_
  refine .next (hev.amountOf h hl) fun amount => ?_
  refine .next (.ofExcept hl _) fun change => ?_
  refine .next (currentOf hl name) fun current => ?_
  refine .next (.ofExcept hl _) fun changed => ?_
  have hvalue : (changed.toValue l).Same ρ (changed.toValue l') := by
    cases changed <;> simp only [Number.toValue, Value.Same, Value.mapLoc, hl]
  exact .next (.setIvar name hvalue) fun _ => .pure hvalue

/-- A special form. If it is a loop with a condition, then it is excused that the first one has too
little fuel. -/
lemma form {lib : Library} (hlib : lib.Blind ρ) (f : Form) {fuel fuel' : Nat}
    (hfor : f = .forLoop → E .outOfFuel ∧ fuel ≤ fuel') :
    Agrees ρ E (Value.Same ρ) (f.run lib ev fuel d l args) (f.run lib ev' fuel' d' l' args') := by
  cases f with
  | assign => exact hev.runAssign h hl
  | forLoop => exact hev.runFor h hl (hfor rfl).1 (hfor rfl).2
  | foreach => exact hev.runForeach h hl
  | proc => exact hev.runProc h hl
  | eval => exact hev.runEval h hl hlib
  | ifElse => exact hev.runIf h hl
  | conjunction => exact .next (hev.allAre h true) fun b => .pure (congrArg (Value.boolean b) hl)
  | disjunction => exact .next (hev.allAre h false) fun b => .pure (congrArg (Value.boolean _) hl)
  | increment => exact hev.runStep h hl .increment
  | decrement => exact hev.runStep h hl .decrement

/-! ### Calls -/

/-- A call of a procedure. Both look up procedures that are the same up to places. -/
lemma callProcedure (name : String) :
    Agrees ρ E (Value.Same ρ) (Node.callProcedure ev d name args l)
      (Node.callProcedure ev' d' name args' l') := by
  refine .bind .env fun e e' he => ?_
  have hlookup := Bindings.get?_congr (congrArg Environment.procedures he) name
  obtain ⟨hp, hp'⟩ | ⟨p, p', hp, hp', hpp⟩ := option_map_eq_map hlookup
  · rw [hp, hp']
    exact .fail hl _
  · rw [hp, hp']
    refine .bind (hev.evalResolved h) fun values values' hvalues => ?_
    refine hev.checkDepth .procedures hl fun room => ?_
    have hbody : p.body.Same ρ p'.body := congrArg Procedure.body hpp
    refine .bind (.newArray hl hvalues) fun arguments arguments' harguments => ?_
    refine ((hev.enter room hbody).inFrame fun e d hed => ?_).settle hev.signals hl
    rw [Procedure.mapLoc_setUp, Procedure.mapLoc_setUp, hpp, map_eq_map_iff_forall₂.2 hvalues,
      harguments, hed]

/-- What a function does. -/
lemma apply {lib : Library} (hlib : lib.Blind ρ) {b : Behaviour}
    (hb : ∀ c, b = .compute c → c.Blind ρ) {fuel fuel' : Nat}
    (hfor : b = .form .forLoop → E .outOfFuel ∧ fuel ≤ fuel') :
    Agrees ρ E (Value.Same ρ) (Node.apply lib ev fuel d b args l)
      (Node.apply lib ev' fuel' d' b args' l') := by
  cases b with
  | compute c =>
    have hrun : ∀ values values', Value.SameEach ρ values values' → Agrees ρ E (Value.Same ρ)
        (Run.ofCompute (c.run l values)) (Run.ofCompute (c.run l' values')) :=
      fun values values' hvalues => (hb c rfl hl hvalues).mono fun _ => False.elim
    simp only [Node.apply]
    split
    · exact .bind (hev.evalResolved h) hrun
    · exact .bind (hev.evalAll h) hrun
  | contact c => exact .bind (hev.evalResolved h) fun values values' hv => c.run_agrees hl hv
  | form f => exact hev.form h hl hlib f fun hf => hfor (congrArg Behaviour.form hf)

end Evaluator.Agree

/-! ## Evaluation -/

namespace Node

open Run (Agrees)

variable {ρ : Location → Location} {E : Stop → Prop} {d d' fuel fuel' : Nat} {lib : Library}

/-- One layer of evaluation of expressions that are the same up to places agrees, if the evaluators
do. Loops with a condition may be there only if it is excused that the first one has too little
fuel. -/
lemma step_agrees (hlib : lib.Blind ρ) {ev ev' : Evaluator} {n n' : Node} (h : n.Same ρ n')
    (hev : Evaluator.Agree ρ E n.size d d' ev ev')
    (hfor : ∀ {name e}, lib.find? name = some e → e.behaviour = .form .forLoop →
      E .outOfFuel ∧ fuel ≤ fuel') :
    Agrees ρ E (Value.Same ρ) (step lib ev fuel d n) (step lib ev' fuel' d' n') := by
  cases h.twins with
  | literal hv => exact .pure hv
  | ivar name hl =>
    refine .bind .env fun e e' he => .pure ?_
    have hframe := Bindings.get?_congr (congrArg Environment.frame he) name
    simp only [Environment.ivar?]
    obtain ⟨hv, hv'⟩ | ⟨v, v', hv, hv', hvv⟩ := option_map_eq_map hframe
    · rw [hv, hv']
      exact congrArg (Value.string "") hl
    · rw [hv, hv']
      exact hvv
  | var name hl =>
    refine .bind .env fun e e' he => .pure ?_
    have haliases := Bindings.get?_congr (congrArg Environment.aliases he) name
    simp only [Environment.aliasD]
    obtain ⟨hv, hv'⟩ | ⟨v, v', hv, hv', hvv⟩ := option_map_eq_map haliases
    · rw [hv, hv']
      exact congrArg (Value.string "") hl
    · rw [hv, hv']
      exact hvv
  | @call name args args' hargs l l' hl =>
    simp only [step, runCall, hargs.length_eq]
    by_cases hp : isProcedureName name = true
    · simp only [hp, if_true]
      exact hev.callProcedure hargs hl name
    · simp only [hp, Bool.false_eq_true, if_false]
      cases he : lib.find? name with
      | none => exact .fail hl _
      | some e =>
        dsimp only
        split
        · exact .fail hl _
        · refine .bind .env fun e₁ e₂ hed => ?_
          have hprivileged : e₂.privileged = e₁.privileged := by
            unfold Environment.privileged
            rw [show e₂.actor = e₁.actor from (congrArg Environment.actor hed).symm]
          rw [hprivileged]
          by_cases hr : (e.restricted && !e₁.privileged) = true
          · simp only [hr, if_true]
            exact .fail hl _
          · simp only [hr, Bool.false_eq_true, if_false]
            exact hev.apply hargs hl hlib (fun c hc => hlib.compute he hc) fun hb => hfor he hb

/-- Evaluations of expressions that are the same up to places agree, where the second one is no
further in and has at least as much fuel. It is excused that the first one has too little fuel, and,
if it is further in, that calls are nested too deeply there.

**Proof sketch.** By induction on the fuel. The parts of both expressions are evaluated with one
layer less, and at the same distance of their levels. -/
lemma eval_agrees (hlib : lib.Blind ρ) (hout : E .outOfFuel)
    (hsignals : ∀ s, ¬ E (.halt (.signal s))) (hlevel : d' ≤ d)
    (hexcused : d' < d → ∀ what l, E (.halt (.failure ⟨.tooDeep what, l⟩))) (hf : fuel ≤ fuel')
    {n n' : Node} (h : n.Same ρ n') :
    Agrees ρ E (Value.Same ρ) (eval lib fuel d n) (eval lib fuel' d' n') := by
  induction fuel generalizing fuel' d d' n n' with
  | zero => exact fun w v _ => .inl ⟨_, hout, rfl⟩
  | succ fuel ih =>
    obtain ⟨fuel', rfl⟩ : ∃ k, fuel' = k + 1 := ⟨fuel' - 1, by omega⟩
    have hle : fuel ≤ fuel' := by omega
    refine step_agrees hlib h ⟨?_, ?_, hlevel, hexcused, hsignals⟩ fun _ _ => ⟨hout, hle⟩
    · exact fun hn => ih hlevel hexcused hle hn.same
    · exact fun _ _ _ hn => ih (by omega) (fun _ => hexcused (by omega)) hle hn

/-- An evaluation that comes to an end does exactly the same with more fuel. -/
lemma eval_of_le (hf : fuel ≤ fuel') {n : Node} {w : World}
    (h : (eval lib fuel d n w).1 ≠ .error .outOfFuel) :
    eval lib fuel' d n w = eval lib fuel d n w := by
  have hagree : Agrees id (Stop.outOfFuel = ·) (Value.Same id) (eval lib fuel d n)
      (eval lib fuel' d n) :=
    eval_agrees lib.blind_id rfl (by simp) (Nat.le_refl d) (fun hlt => by omega) hf rfl
  rcases hagree.eq_or_excused w with ⟨e, rfl, hx⟩ | heq
  · exact absurd hx h
  · exact heq.symm

/-- An evaluation that gives a value does exactly the same inside fewer calls and with more fuel. -/
lemma eval_further_out (hlevel : d' ≤ d) (hf : fuel ≤ fuel') {n : Node} {w u : World} {v : Value}
    (h : eval lib fuel d n w = (.ok v, u)) : eval lib fuel' d' n w = (.ok v, u) := by
  -- no failure of the deeper evaluation counts, but signals are told apart on the way
  have hagree : Agrees id (fun e => ∀ s, e ≠ .halt (.signal s)) (Value.Same id)
      (eval lib fuel d n) (eval lib fuel' d' n) :=
    eval_agrees lib.blind_id (by simp) (by simp) hlevel (by simp) hf rfl
  rcases hagree.eq_or_excused w with ⟨e, -, hx⟩ | heq
  · rw [h] at hx
    cases hx
  · exact heq.symm.trans h

end Node

end CommandScript
