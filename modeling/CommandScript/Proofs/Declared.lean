import CommandScript.Proofs.Dispatch

/-!
# Calls end as they are declared

A function of the language may be called on any values, with or without a running script. For all of
them but the one that compiles a text, the call comes to an end: with a value, or with a failure or
a signal of a kind that the function declares. Special forms are no exception. They take
expressions, and a value is to them the constant that stands for it.

## Main definitions

* `CommandScript.Run.EndsIn` — runs that come to an end, and halt in some ways only.
* `CommandScript.Form.refusals` — the kinds of failures with which a special form turns down values.
* `CommandScript.Entry.EndsAsDeclared` — ends of a call that its function declares.

## Main results

* `CommandScript.Form.endsIn_of_values` — special forms called on values.
* `CommandScript.Entry.exec_ends_as_declared` — every call on values ends as it is declared.
-/

namespace CommandScript

variable {why : String → Option String}

/-- Halts of some kinds are halts of more kinds. -/
lemma Halt.In.mono {ks ks' : List Failure.Kind} {sig : Option Signal.Kind} {h : Halt}
    (hin : h.In ks none) (hks : ks ⊆ ks') : h.In ks' sig := by
  cases h with
  | failure f => exact hks hin
  | signal s => cases hin

/-! ## Runs that come to an end -/

namespace Run

variable {α β : Type} {H : Halt → Prop}

/-- A run that comes to an end, and that halts, if at all, in one of the ways `H`. -/
def EndsIn (H : Halt → Prop) (x : Run α) : Prop :=
  ∀ w e, (x w).1 = .error e → ∃ h, e = .halt h ∧ H h

namespace EndsIn

lemma mono {H' : Halt → Prop} {x : Run α} (h : x.EndsIn H) (hH : ∀ h, H h → H' h) :
    x.EndsIn H' := by
  intro w e he
  obtain ⟨halt, rfl, hhalt⟩ := h w e he
  exact ⟨halt, rfl, hH halt hhalt⟩

/-- A run that always gives a value. -/
lemma of_ok {x : Run α} (h : ∀ w, ∃ a, (x w).1 = .ok a) : x.EndsIn H := by
  intro w e he
  obtain ⟨a, ha⟩ := h w
  rw [ha] at he
  cases he

lemma pure (a : α) : (Pure.pure a : Run α).EndsIn H := of_ok fun _ => ⟨a, rfl⟩

lemma fail {loc : Location} {c : Cause} (h : H (.failure ⟨c, loc⟩)) :
    (Run.fail loc c : Run α).EndsIn H := by
  rintro w _ ⟨⟩
  exact ⟨_, rfl, h⟩

/-- What follows a failure does not matter. -/
lemma fail_bind {loc : Location} {c : Cause} {f : α → Run β} (h : H (.failure ⟨c, loc⟩)) :
    (Run.fail loc c >>= f).EndsIn H := by
  rintro w _ ⟨⟩
  exact ⟨_, rfl, h⟩

lemma bind {x : Run α} {f : α → Run β} (hx : x.EndsIn H) (hf : ∀ a, (f a).EndsIn H) :
    (x >>= f).EndsIn H := by
  intro w e he
  rcases hxw : x w with ⟨d | a, v⟩
  · rw [bind_of_error hxw] at he
    cases he
    exact hx w e (by rw [hxw])
  · rw [bind_of_ok hxw] at he
    exact hf a v e he

lemma textOf (v : Value) : (Run.textOf v).EndsIn H := of_ok fun w => ⟨v.text w.store, rfl⟩

lemma isTrue (v : Value) : (Run.isTrue v).EndsIn H := of_ok fun w => ⟨v.isTrue w.store, rfl⟩

/-- A computation comes to an end. -/
lemma ofCompute {c : Compute α} (h : c.HaltsIn H) : (Run.ofCompute c).EndsIn H := by
  intro w e he
  unfold Run.ofCompute at he
  rcases hc : c w.store with ⟨halt | a, s⟩
  · rw [hc] at he
    cases he
    exact ⟨halt, rfl, h w.store halt (by rw [hc])⟩
  · rw [hc] at he
    cases he

/-- A run whose halts are known, and which never runs out of fuel. -/
lemma of_keeps {x : Run α} (h : x.Keeps (fun _ => True) H)
    (hfuel : ∀ w, (x w).1 ≠ .error .outOfFuel) : x.EndsIn H := by
  intro w e he
  cases e with
  | halt halt => exact ⟨halt, rfl, (h w trivial).2 halt he⟩
  | outOfFuel => exact absurd he (hfuel w)

end EndsIn

end Run

/-! ## Contacts -/

/-- A contact needs no fuel. -/
lemma Contact.run_ne_outOfFuel (c : Contact) (loc : Location) (args : List Value) (w : World) :
    (c.run loc args w).1 ≠ .error .outOfFuel := by
  cases c with
  | msg =>
    rw [run, bind_of_ok (Run.env_apply w)]
    cases w.env.actor with
    | none => simp [bind_of_error (Run.fail_apply loc .nobody w)]
    | some a => exact fun h => by cases h
  | player =>
    rw [run, bind_of_ok (Run.env_apply w)]
    cases w.env.actor with
    | none => exact fun h => by cases h
    | some a => exact fun h => by cases h
  | runas =>
    rw [run_runas]
    rcases runCommand_apply loc ((argument args 0).text w.store) ((argument args 1).text w.store) w
      with ⟨c, hrun⟩ | ⟨_, _, r, _, _, _, hr, hrun⟩
    · rw [hrun]
      exact fun h => by cases h
    · rw [hrun]
      exact hr
  | die =>
    cases args with
    | nil => exact fun h => by cases h
    | cons v _ => exact fun h => by cases h

open Builtin in
/-- A contact of the language without a running script halts as it declares. -/
lemma detached_haltsIn : ∀ e ∈ builtins why, ∀ c, e.behaviour = .contact c → ∀ loc,
    (c.detached loc).HaltsIn (Halt.In e.thrown e.signal) := by
  have hall : ∀ e ∈ builtins why, (match e.behaviour with
      | .contact .msg | .contact .runas => e.thrown.contains .nullPointer
      | .contact .die => e.signal == some .cancel
      | _ => true) = true := forall_builtins (by decide +kernel) rfl
  intro e he c hc loc
  have hcheck := hall e he
  rw [hc] at hcheck
  cases c with
  | msg => exact .fail (by simpa [Cause.kind] using hcheck)
  | runas => exact .fail (by simpa [Cause.kind] using hcheck)
  | player => exact .pure _
  | die => exact .raise (by simpa [Halt.In, Signal.kind] using hcheck)

/-! ## Special forms called on values -/

namespace Form

/-- The kinds of failures with which a special form turns down values where it wants expressions of
other sorts. -/
def refusals : Form → List Failure.Kind
  | assign | forLoop | foreach | increment | decrement => [.cast]
  | proc => [.cast, .format, .insufficientArguments]
  | eval | ifElse | conjunction | disjunction => []

section

variable {ev : Node → Run Value} (hev : ∀ v, ev (.literal v) = pure v) {H : Halt → Prop}
  (loc : Location)

/-- An argument that is there is found. -/
lemma part_map (f : Form) {args : List Value} {i : Nat} (h : i < args.length) :
    f.part (args.map .literal) i loc = pure (.literal args[i]) := by
  simp only [part, List.getElem?_map, List.getElem?_eq_getElem h, Option.map_some]

/-- No value names a script variable, so that a form that wants one turns it down. -/
lemma variableName_endsIn (f : Form) {args : List Value} {i : Nat} (h : i < args.length)
    (position : Nat) (next : String → Run Value) :
    (f.part (args.map .literal) i loc >>= fun n => f.variableName position n >>= next).EndsIn
      (Halt.In [.cast] none) := by
  rw [part_map loc f h, pure_bind]
  exact .fail_bind (by simp [Halt.In, Failure.kind, Cause.kind])

/-- No value is a parameter of a procedure. -/
lemma parameters_endsIn (position : Nat) (args : List Value) :
    (parameters ev position (args.map .literal)).EndsIn (Halt.In [.cast] none) := by
  cases args with
  | nil => exact .pure []
  | cons v args => exact .fail_bind (by simp [Halt.In, Failure.kind, Cause.kind])

include hev

/-- Conditions that are constants have values. -/
lemma allAre_endsIn (wanted : Bool) (args : List Value) :
    (allAre wanted ev (args.map .literal)).EndsIn H := by
  induction args with
  | nil => exact .pure true
  | cons v args ih =>
    rw [List.map_cons, allAre, hev, pure_bind]
    refine .bind (.isTrue v) fun t => ?_
    split
    · exact ih
    · exact .pure false

/-- A choice between constants is one of them. -/
lemma runIf_endsIn {args : List Value} (h : 2 ≤ args.length) :
    (runIf ev loc (args.map .literal)).EndsIn H := by
  rw [runIf, part_map loc ifElse (by omega : 0 < args.length),
    part_map loc ifElse (by omega : 1 < args.length), pure_bind, hev, pure_bind]
  refine .bind (.isTrue _) fun t => ?_
  split
  · rw [pure_bind, hev]
    exact .pure _
  · rw [List.getElem?_map]
    cases args[2]? with
    | none => exact .pure _
    | some v =>
      simp only [Option.map_some, hev]
      exact .pure v

/-- A definition of a procedure needs a name and a body, and has no constants for parameters. -/
lemma runProc_endsIn (args : List Value) :
    (runProc ev loc (args.map .literal)).EndsIn (Halt.In proc.refusals none) := by
  have hfail : ∀ {c : Cause} {loc : Location}, c.kind ∈ proc.refusals →
      (Run.fail loc c : Run Value).EndsIn (Halt.In proc.refusals none) := fun h => .fail h
  cases args with
  | nil => exact hfail (by simp [refusals, Cause.kind])
  | cons v args =>
    rcases List.eq_nil_or_concat args with rfl | ⟨params, body, rfl⟩
    · exact hfail (by simp [refusals, Cause.kind])
    · simp only [runProc, List.concat_eq_append, List.map_cons, List.map_append, List.map_nil,
        List.getLast?_concat, List.dropLast_concat, hev, pure_bind]
      refine .bind (.textOf v) fun name => ?_
      split
      · refine .bind ((parameters_endsIn 2 params).mono fun h hh => ?_) fun _ =>
          .bind (.of_ok fun _ => ⟨(), rfl⟩) fun _ => .pure _
        exact hh.mono (by simp [refusals])
      · exact hfail (by simp [refusals, Cause.kind])

end

/-- A special form called on values comes to an end, unless it compiles a text: it has a value, or
it turns the values down. -/
lemma endsIn_of_values {f : Form} (hf : f ≠ eval) (lib : Library) (fuel : Nat) (loc : Location)
    {args : List Value} (h : f.needs ≤ args.length) :
    (f.run lib (Node.eval lib (fuel + 1)) (fuel + 1) 0 loc (args.map .literal)).EndsIn
      (Halt.In f.refusals none) := by
  have hev : ∀ v, Node.eval lib (fuel + 1) 0 (.literal v) = pure v := fun _ => rfl
  cases f with
  | assign => exact variableName_endsIn loc assign (Nat.lt_of_lt_of_le (by decide) h) 1 _
  | foreach => exact variableName_endsIn loc foreach (Nat.lt_of_lt_of_le (by decide) h) 2 _
  | increment => exact variableName_endsIn loc increment (Nat.lt_of_lt_of_le (by decide) h) 1 _
  | decrement => exact variableName_endsIn loc decrement (Nat.lt_of_lt_of_le (by decide) h) 1 _
  | forLoop =>
    rw [run, runFor, part_map loc forLoop (Nat.lt_of_lt_of_le (by decide) h), pure_bind]
    exact .fail (by simp [Halt.In, Failure.kind, Cause.kind, refusals])
  | proc => exact runProc_endsIn hev loc args
  | eval => exact absurd rfl hf
  | ifElse => exact runIf_endsIn hev loc h
  | conjunction => exact .bind (allAre_endsIn hev true args) fun _ => .pure _
  | disjunction => exact .bind (allAre_endsIn hev false args) fun _ => .pure _

end Form

/-! ## Functions called on values -/

/-- A special form of the language declares the failures with which it turns values down, accepts
no fewer arguments than it takes for granted, and has its own name. -/
lemma form_declares : ∀ e ∈ builtins why, ∀ f, e.behaviour = .form f →
    f.refusals ⊆ e.thrown ∧ f.sufficient e.arity = true ∧ e.name = f.name := by
  have hall : ∀ e ∈ builtins why, (match e.behaviour with
      | .form f => f.refusals.all (e.thrown.contains ·) && f.sufficient e.arity && e.name == f.name
      | _ => true) = true := forall_builtins (by decide +kernel) rfl
  intro e he f hf
  have hcheck := hall e he
  rw [hf] at hcheck
  simp only [Bool.and_eq_true, List.all_eq_true, List.contains_iff_mem, beq_iff_eq] at hcheck
  exact ⟨hcheck.1.1, hcheck.1.2, hcheck.2⟩

namespace Entry

/-- An end of a call that the function declares: a value, or a failure or a signal of a kind that it
may raise. -/
def EndsAsDeclared (e : Entry) : Except Stop Value → Prop
  | .ok _ => True
  | .error (.halt h) => h.In e.thrown e.signal
  | .error .outOfFuel => False

/-- Runs that end as a function declares. -/
lemma endsAsDeclared_of_endsIn {e : Entry} {x : Run Value}
    (h : x.EndsIn (Halt.In e.thrown e.signal)) (w : World) : e.EndsAsDeclared (x w).1 := by
  rcases hx : (x w).1 with stop | v
  · obtain ⟨halt, rfl, hhalt⟩ := h w stop hx
    exact hhalt
  · trivial

/-- A function of the language called on values, in a running script. -/
lemma exec_endsIn {e : Entry} (he : e ∈ builtins why) (hname : e.name ≠ "eval") (lib : Library)
    (fuel : Nat) (loc : Location) {args : List Value} (hargs : e.arity.accepts args.length = true) :
    (e.exec lib (fuel + 1) loc args).EndsIn (Halt.In e.thrown e.signal) := by
  unfold exec
  split
  · next c hc => exact .ofCompute (halts_of_compute e he c hc loc args)
  · next c hc => exact .of_keeps (keeps_of_contact e he c hc loc args) (c.run_ne_outOfFuel loc args)
  · next f hf =>
    obtain ⟨hthrown, hsufficient, hn⟩ := form_declares e he f hf
    have hne : f ≠ .eval := by
      rintro rfl
      exact hname hn
    exact (f.endsIn_of_values hne lib fuel loc (f.needs_le hsufficient hargs)).mono
      fun _ h => h.mono hthrown

/-- A function of the language called on values, without a running script. -/
lemma execDetached_endsIn {e : Entry} (he : e ∈ builtins why) (hname : e.name ≠ "eval")
    (lib : Library) (fuel : Nat) (loc : Location) {args : List Value}
    (hargs : e.arity.accepts args.length = true) :
    (e.execDetached lib (fuel + 1) loc args).EndsIn (Halt.In e.thrown e.signal) := by
  unfold execDetached
  split
  · next c hc => exact .ofCompute (halts_of_compute e he c hc loc args)
  · next c hc => exact .ofCompute (detached_haltsIn e he c hc loc)
  · intro w stop hstop
    exact exec_endsIn he hname lib fuel loc hargs { w with env := {} } stop hstop

/-- Every function of the language but the one that compiles a text, called at any place on any
values that it accepts the number of, with or without a running script: the call comes to an end,
with a value or as the function declares. -/
theorem exec_ends_as_declared {e : Entry} (he : e ∈ builtins why) (hname : e.name ≠ "eval")
    (lib : Library) (fuel : Nat) (loc : Location) {args : List Value}
    (hargs : e.arity.accepts args.length = true) (w : World) :
    e.EndsAsDeclared (e.exec lib (fuel + 1) loc args w).1 ∧
      e.EndsAsDeclared (e.execDetached lib (fuel + 1) loc args w).1 :=
  ⟨endsAsDeclared_of_endsIn (exec_endsIn he hname lib fuel loc hargs) w,
    endsAsDeclared_of_endsIn (execDetached_endsIn he hname lib fuel loc hargs) w⟩

/-- A definition of a procedure whose name is in a slot and whose parameter is a number. -/
theorem exec_ends_as_declared_proc :
    let args : List Value :=
      [.slot "name" "" false false (.string "_f" .unknown) .unknown, .int 1 .unknown,
        .null .unknown]
    Builtin.proc ∈ builtins ∧ Builtin.proc.name ≠ "eval" ∧
      Builtin.proc.arity.accepts args.length = true ∧
      Builtin.proc.EndsAsDeclared (Builtin.proc.exec .empty 1 .unknown args {}).1 ∧
      Builtin.proc.EndsAsDeclared (Builtin.proc.execDetached .empty 1 .unknown args {}).1 := by
  have hmem : Builtin.proc ∈ builtins := by simp [builtins, Builtin.control]
  have hname : Builtin.proc.name ≠ "eval" := by decide
  exact ⟨hmem, hname, rfl, exec_ends_as_declared hmem hname .empty 0 .unknown rfl {}⟩

end Entry

end CommandScript
