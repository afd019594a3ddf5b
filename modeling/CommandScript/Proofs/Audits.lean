import CommandScript.Audit
import CommandScript.Proofs.Changes
import CommandScript.Proofs.Halts
import Mathlib.Data.List.Infix

/-!
# The calls of an audit

An audit calls a function on combinations of sample values, one of which is an array. It is the same
array in all calls, so that a call finds in it what the calls before did to it. A function that
spares the sample array gets the samples in every call, and if what it raises does not depend on
other arrays either, then neither do the verdicts depend on the order of the calls. Contacts and
special forms are such functions, in every library. Of the functions of the language all are but
one: the one that adds cells to arrays is called on an array to which it has added cells.

## Main definitions

* `CommandScript.Audit.calls` — the calls of an audit, each with the arrays that it finds.
* `CommandScript.Audit.verdict` — what is said on a call.
* `CommandScript.Audit.Uniform` — runs that do the same whatever arrays there are beside the sample
  array.
* `CommandScript.Audit.Independent` — functions that spare the sample array and raise the same
  whatever other arrays there are.

## Main results

* `CommandScript.Audit.auditOn_eq` — an audit says what it says on each of its calls.
* `CommandScript.Audit.audit_of_independent` — the calls of an audit of an independent function do
  not depend on one another.
* `CommandScript.Audit.independent_iff` — which functions of the language are independent.
* `CommandScript.Audit.texts_calls_arrayPush` — a call that finds a changed sample array.
-/

namespace CommandScript

variable {why : String → Option String}

namespace Audit

/-! ## Calls and verdicts -/

/-- The sample array. -/
def pair : Ref := (Store.empty.alloc sampleCells).1

/-- The arrays before the first call. -/
def fresh : Store := (Store.empty.alloc sampleCells).2

/-- How a call ends that finds some arrays. -/
def outcome (lib : Library) (fuel : Nat) (e : Entry) (args : List Value) (s : Store) :
    Except Stop Value × World :=
  e.exec lib fuel .unknown args { env := surroundings, store := s }

/-- A call of an audit. -/
structure Call where
  /-- The arguments. -/
  args : List Value
  /-- The arrays that it finds. -/
  store : Store

/-- The texts of the arguments when the call starts. -/
def Call.texts (c : Call) : List String := c.args.map (·.text c.store)

variable (lib : Library) (fuel : Nat) (e : Entry)

/-- The calls of an audit on some argument lists. Each finds the arrays that the one before it
left. -/
def calls : List (List Value) → Store → List Call
  | [], _ => []
  | args :: rest, s => ⟨args, s⟩ :: calls rest (outcome lib fuel e args s).2.store

/-- What is said on a call. -/
def verdict (c : Call) : Option Violation :=
  let (r, w) := outcome lib fuel e c.args c.store
  (problem? e r).map fun p => ⟨e.name, c.args.map (·.text w.store), p⟩

/-- An audit says what it says on each of its calls. -/
theorem auditOn_eq (sets : List (List Value)) (s : Store) :
    auditOn lib fuel e sets s = (calls lib fuel e sets s).filterMap (verdict lib fuel e) := by
  induction sets generalizing s with
  | nil => rfl
  | cons args rest ih =>
    rw [calls, List.filterMap_cons, ← ih]
    rcases hrun : outcome lib fuel e args s with ⟨r, w⟩
    rw [outcome] at hrun
    simp only [auditOn, verdict, outcome, hrun]
    cases problem? e r with
    | none => rfl
    | some p => rfl

/-! ## The sample array -/

/-- Arrays of which the sample array is as it was. -/
def Unspoilt (s : Store) : Prop := s.cells pair = sampleCells

lemma unspoilt_fresh : Unspoilt fresh := rfl

lemma Unspoilt.pair_lt {s : Store} (h : Unspoilt s) : pair < s.size := by
  by_contra hlt
  have hempty : s.cells pair = #[] := by
    simp only [Store.size] at hlt
    simp [Store.cells, hlt]
  rw [Unspoilt, hempty] at h
  exact absurd (congrArg Array.size h) (by decide)

/-- A value whose text and truth do not depend on other arrays than the sample array. -/
structure Seen (v : Value) : Prop where
  text : ∀ {s}, Unspoilt s → v.text s = v.text fresh
  isTrue : ∀ {s}, Unspoilt s → v.isTrue s = v.isTrue fresh

lemma arrayText_pair {s : Store} (h : Unspoilt s) : s.arrayText [] pair = "\x7bhi, 1\x7d" := by
  rw [Store.arrayText, if_neg List.not_mem_nil, if_pos h.pair_lt, h]
  rfl

/-- Values without arrays are such. -/
lemma seen_of_plain {v : Value} (h : ∀ s, v.text s = v.text fresh ∧ v.isTrue s = v.isTrue fresh) :
    Seen v := ⟨fun _ => (h _).1, fun _ => (h _).2⟩

lemma seen_of_mem {v : Value} (h : v ∈ samples pair) : Seen v := by
  simp only [samples, List.mem_cons, List.not_mem_nil, or_false] at h
  rcases h with rfl | rfl | rfl | rfl | rfl | rfl | rfl | rfl | rfl
  case inr.inr.inr.inr.inr.inl =>
    refine ⟨fun hs => ?_, fun hs => ?_⟩
    · exact (arrayText_pair hs).trans (arrayText_pair unspoilt_fresh).symm
    · change (!(Store.cells _ pair).isEmpty) = !(fresh.cells pair).isEmpty
      rw [hs, unspoilt_fresh]
  all_goals exact seen_of_plain fun _ => ⟨rfl, rfl⟩

/-! ## Runs that do the same whatever other arrays there are -/

/-- A run that does the same whatever arrays there are beside the sample array: it ends in the same
way, in the same environment, and leaves the arrays as they are. A value that it gives is one of
`P`. -/
def Uniform {α : Type} (P : α → Prop) (x : Run α) : Prop :=
  ∀ env, ∃ r env', (∀ a, r = .ok a → P a) ∧
    ∀ s, Unspoilt s → x { env, store := s } = (r, { env := env', store := s })

namespace Uniform

variable {α β : Type} {P : α → Prop} {Q : β → Prop}

lemma pure {a : α} (h : P a) : Uniform P (Pure.pure a : Run α) :=
  fun env => ⟨.ok a, env, by rintro _ ⟨⟩; exact h, fun _ _ => rfl⟩

lemma stop (e : Stop) : Uniform P (throw e : Run α) :=
  fun env => ⟨.error e, env, by rintro _ ⟨⟩, fun _ _ => rfl⟩

lemma mono {P' : α → Prop} {x : Run α} (hx : Uniform P x) (h : ∀ a, P a → P' a) :
    Uniform P' x := by
  intro env
  obtain ⟨r, env', hP, hrun⟩ := hx env
  exact ⟨r, env', fun a ha => h a (hP a ha), hrun⟩

lemma bind {x : Run α} {f : α → Run β} (hx : Uniform P x) (hf : ∀ a, P a → Uniform Q (f a)) :
    Uniform Q (x >>= f) := by
  intro env
  obtain ⟨r, env', hP, hrun⟩ := hx env
  cases r with
  | error e => exact ⟨.error e, env', by rintro _ ⟨⟩, fun s hs => bind_of_error (hrun s hs)⟩
  | ok a =>
    obtain ⟨r, env'', hQ, hnext⟩ := hf a (hP a rfl) env'
    exact ⟨r, env'', hQ, fun s hs => (bind_of_ok (hrun s hs)).trans (hnext s hs)⟩

/-- What follows a run that gives no value does not matter. -/
lemma never_bind {x : Run α} {f : α → Run β} (hx : Uniform (fun _ => False) x) :
    Uniform Q (x >>= f) := hx.bind fun _ => False.elim

lemma env : Uniform (fun _ => True) Run.env :=
  fun e => ⟨.ok e, e, fun _ _ => trivial, fun _ _ => rfl⟩

lemma modifyEnv (f : Environment → Environment) : Uniform (fun _ => True) (Run.modifyEnv f) :=
  fun e => ⟨.ok (), f e, fun _ _ => trivial, fun _ _ => rfl⟩

lemma textOf {v : Value} (h : Seen v) : Uniform (· = v.text fresh) (Run.textOf v) :=
  fun e => ⟨.ok (v.text fresh), e, by rintro _ ⟨⟩; rfl, fun s hs => by
    rw [Run.textOf_apply, h.text hs]⟩

lemma isTrue {v : Value} (h : Seen v) : Uniform (fun _ => True) (Run.isTrue v) :=
  fun e => ⟨.ok (v.isTrue fresh), e, fun _ _ => trivial, fun s hs => by
    rw [← h.isTrue hs]
    rfl⟩

end Uniform

/-! ## Special forms -/

/-- An expression that stands for a sample value. -/
def Given (n : Node) : Prop := ∃ v ∈ samples pair, n = .literal v

/-- The text of a sample value compiles to a constant, or not at all. -/
lemma compile_sample (lib : Library) {v : Value} (h : v ∈ samples pair) :
    ∃ r, (∀ nodes, r = .ok nodes → ∃ u, Seen u ∧ nodes = [.literal u]) ∧
      ∀ s, lib.compile true (v.text fresh) none s = (r, s) := by
  have hconstant {text : String} (u : Location → Value)
      (hcompile : ∀ s, lib.compile true text none s = (.ok [.literal (u ⟨none, 1, 1⟩)], s))
      (hu : ∀ l s, (u l).text s = (u l).text fresh ∧ (u l).isTrue s = (u l).isTrue fresh) :
      ∃ r, (∀ nodes, r = .ok nodes → ∃ u, Seen u ∧ nodes = [.literal u]) ∧
        ∀ s, lib.compile true text none s = (r, s) :=
    ⟨_, by rintro _ ⟨⟩; exact ⟨_, seen_of_plain (hu _), rfl⟩, hcompile⟩
  simp only [samples, List.mem_cons, List.not_mem_nil, or_false] at h
  rcases h with rfl | rfl | rfl | rfl | rfl | rfl | rfl | rfl | rfl
  · exact hconstant (.string "hi") (fun _ => by with_unfolding_all rfl) fun _ _ => ⟨rfl, rfl⟩
  · exact hconstant (.int 1) (fun _ => by with_unfolding_all rfl) fun _ _ => ⟨rfl, rfl⟩
  · exact hconstant (.int (-1)) (fun _ => by with_unfolding_all rfl) fun _ _ => ⟨rfl, rfl⟩
  · exact hconstant (.int 0) (fun _ => by with_unfolding_all rfl) fun _ _ => ⟨rfl, rfl⟩
  · exact hconstant (.int 100) (fun _ => by with_unfolding_all rfl) fun _ _ => ⟨rfl, rfl⟩
  · -- the braces of an array are no signs of the language, but its comma is
    refine ⟨.error (.unexpected .comma ⟨none, 1, 4⟩), by rintro _ ⟨⟩, fun s => ?_⟩
    have htext : (Value.array pair .unknown).text fresh = "\x7bhi, 1\x7d" :=
      arrayText_pair unspoilt_fresh
    have hlex : Token.lex "\x7bhi, 1\x7d" none = .ok [⟨.word "\x7bhi", ⟨none, 1, 1⟩⟩,
        ⟨.comma, ⟨none, 1, 4⟩⟩, ⟨.word "1\x7d", ⟨none, 1, 6⟩⟩] := by with_unfolding_all rfl
    have hparse : Node.parse lib.signature [⟨.word "\x7bhi", ⟨none, 1, 1⟩⟩,
        ⟨.comma, ⟨none, 1, 4⟩⟩, ⟨.word "1\x7d", ⟨none, 1, 6⟩⟩] =
        .error (.unexpected .comma ⟨none, 1, 4⟩) := by with_unfolding_all rfl
    rw [htext]
    simp only [Library.compile, hlex, Library.compileTokens, hparse]
    rfl
  · exact hconstant .null (fun _ => by with_unfolding_all rfl) fun _ _ => ⟨rfl, rfl⟩
  · exact hconstant (.boolean true) (fun _ => by with_unfolding_all rfl) fun _ _ => ⟨rfl, rfl⟩
  · exact hconstant (.boolean false) (fun _ => by with_unfolding_all rfl) fun _ _ => ⟨rfl, rfl⟩

namespace Uniform

variable {α : Type} (loc : Location) {args : List Node} (hargs : ∀ n ∈ args, Given n)

lemma eval_literal {P : Value → Prop} {v : Value} (h : P v) (depth : Nat) :
    Uniform P (Node.eval lib fuel depth (.literal v)) := by
  cases fuel with
  | zero => exact stop _
  | succ fuel => exact pure h

lemma eval {n : Node} (h : Given n) : Uniform (· ∈ samples pair) (Node.eval lib fuel 0 n) := by
  obtain ⟨v, hv, rfl⟩ := h
  exact eval_literal lib fuel hv 0

/-- A value does not name a script variable. -/
lemma variableName {P : String → Prop} (f : Form) (position : Nat) {n : Node} (h : Given n) :
    Uniform P (f.variableName position n) := by
  obtain ⟨v, -, rfl⟩ := h
  exact stop _

include hargs

lemma part (f : Form) (i : Nat) : Uniform Given (f.part args i loc) := by
  unfold Form.part
  split
  · next n hn => exact pure (hargs n (List.mem_of_getElem? hn))
  · exact stop _

/-- A form that looks for the name of a script variable first turns values down. -/
lemma named (f : Form) (i position : Nat) (next : String → Run α) :
    Uniform (fun _ => True)
      (f.part args i loc >>= fun n => f.variableName position n >>= next) :=
  (part loc hargs f i).bind fun _ hn => (variableName f position hn).never_bind

lemma runFor (ev : Node → Run Value) :
    Uniform (fun _ => True) (Form.runFor ev fuel loc args) := by
  refine (part loc hargs .forLoop 0).bind fun n hn => ?_
  obtain ⟨v, -, rfl⟩ := hn
  exact stop _

/-- No value is a parameter of a procedure. -/
lemma parameters (ev : Node → Run Value) (position : Nat) :
    Uniform (fun _ => True) (Form.parameters ev position args) := by
  cases args with
  | nil => exact pure trivial
  | cons n ns =>
    obtain ⟨v, -, rfl⟩ := hargs n List.mem_cons_self
    exact never_bind (stop _)

lemma runProc : Uniform (fun _ => True) (Form.runProc (Node.eval lib fuel 0) loc args) := by
  unfold Form.runProc
  split
  · next first rest =>
    rw [List.forall_mem_cons] at hargs
    split
    · refine (eval lib fuel hargs.1).bind fun v hv => ?_
      refine (textOf (seen_of_mem hv)).bind fun name _ => ?_
      split
      · have hparams : ∀ n ∈ rest.dropLast, Given n := fun n hn =>
          hargs.2 n (List.mem_of_mem_dropLast hn)
        exact (parameters hparams _ 2).bind fun _ _ => (modifyEnv _).bind fun _ _ => pure trivial
      · exact stop _
    · exact stop _
  · exact stop _

lemma runIf : Uniform (fun _ => True) (Form.runIf (Node.eval lib fuel 0) loc args) := by
  have heval {n : Node} (hn : Given n) : Uniform (fun _ => True) (Node.eval lib fuel 0 n) :=
    (eval lib fuel hn).mono fun _ _ => trivial
  refine (part loc hargs .ifElse 0).bind fun n hn => (eval lib fuel hn).bind fun v hv =>
    (isTrue (seen_of_mem hv)).bind fun t _ => ?_
  split
  · exact (part loc hargs .ifElse 1).bind fun n hn => heval hn
  · split
    · next n hn => exact heval (hargs n (List.mem_of_getElem? hn))
    · exact pure trivial

lemma allAre (wanted : Bool) :
    Uniform (fun _ => True) (Form.allAre wanted (Node.eval lib fuel 0) args) := by
  induction args with
  | nil => exact pure trivial
  | cons n ns ih =>
    rw [List.forall_mem_cons] at hargs
    refine (eval lib fuel hargs.1).bind fun v hv => (isTrue (seen_of_mem hv)).bind fun t _ => ?_
    split
    · exact ih hargs.2
    · exact pure trivial

/-- The text of a sample value is compiled without a change of arrays, and is a constant. -/
lemma runEval :
    Uniform (fun _ => True) (Form.runEval lib (Node.eval lib fuel) 0 loc args) := by
  have hcompile {v : Value} (hv : v ∈ samples pair) :
      Uniform (fun nodes => ∃ u, Seen u ∧ nodes = [.literal u])
        (Run.ofCompile loc (lib.compile true (v.text fresh))) := by
    intro env
    obtain ⟨r, hr, hrun⟩ := compile_sample lib hv
    cases r with
    | error e =>
      exact ⟨.error _, env, by rintro _ ⟨⟩, fun s _ => Run.ofCompile_of_error loc (hrun s)⟩
    | ok nodes =>
      refine ⟨.ok nodes, env, ?_, fun s _ => Run.ofCompile_of_ok loc (hrun s)⟩
      rintro _ ⟨⟩
      exact hr nodes rfl
  have htexts {u : Value} (hu : Seen u) :
      Uniform (fun _ => True) (evalTexts (Node.eval lib fuel 1) [.literal u]) := by
    refine (eval_literal lib fuel hu 1).bind fun u hu => ?_
    split
    · exact pure trivial
    · exact (textOf hu).bind fun _ _ => pure trivial
  refine (part loc hargs .eval 0).bind fun n hn => (eval lib fuel hn).bind fun v hv =>
    (textOf (seen_of_mem hv)).bind ?_
  rintro _ rfl
  refine (hcompile hv).bind ?_
  rintro _ ⟨u, hu, rfl⟩
  refine bind (P := fun _ => True) (pure trivial) fun _ _ => (htexts hu).bind fun texts _ => ?_
  split <;> exact pure trivial

/-- Special forms called on sample values. -/
lemma form (f : Form) :
    Uniform (fun _ => True) (f.run lib (Node.eval lib fuel) fuel 0 loc args) := by
  cases f with
  | assign => exact named loc hargs .assign 0 1 _
  | forLoop => exact runFor fuel loc hargs _
  | foreach => exact named loc hargs .foreach 1 2 _
  | proc => exact runProc lib fuel loc hargs
  | eval => exact runEval lib fuel loc hargs
  | ifElse => exact runIf lib fuel loc hargs
  | conjunction => exact (allAre lib fuel hargs true).bind fun _ _ => pure trivial
  | disjunction => exact (allAre lib fuel hargs false).bind fun _ _ => pure trivial
  | increment => exact named loc hargs .increment 0 1 _
  | decrement => exact named loc hargs .decrement 0 1 _

omit hargs in
/-- Contacts with values that do not depend on other arrays. -/
lemma contact (c : Contact) {values : List Value} (h : ∀ i, Seen (argument values i)) :
    Uniform (fun _ => True) (c.run loc values) := by
  cases c with
  | msg =>
    refine env.bind fun e _ => ?_
    cases e.actor with
    | none => exact never_bind (stop _)
    | some a => exact (textOf (h 0)).bind fun _ _ => (modifyEnv _).bind fun _ _ => pure trivial
  | player =>
    refine env.bind fun e _ => ?_
    cases e.actor with
    | none => exact pure trivial
    | some a => exact pure trivial
  | runas =>
    refine (textOf (h 0)).bind fun player _ => (textOf (h 1)).bind fun command _ =>
      env.bind fun e _ => ?_
    split
    · exact stop _
    · split
      · refine env.bind fun e _ => ?_
        split
        · refine env.bind fun e _ => (modifyEnv _).bind fun _ _ => ?_
          split
          · exact pure trivial
          · exact stop _
        · exact stop _
      · exact stop _
  | die =>
    cases values with
    | nil => exact stop _
    | cons v _ => exact (textOf (h 0)).bind fun _ _ => (modifyEnv _).bind fun _ _ => stop _

end Uniform

/-! ## Functions that spare the sample array -/

/-- A function that, called on sample values, spares the sample array, and raises undeclared things
or not whatever other arrays there are. -/
structure Independent : Prop where
  spares : ∀ {args s}, (∀ v ∈ args, v ∈ samples pair) → Unspoilt s →
    Unspoilt (outcome lib fuel e args s).2.store
  steady : ∀ {args s}, (∀ v ∈ args, v ∈ samples pair) → Unspoilt s →
    problem? e (outcome lib fuel e args s).1 = problem? e (outcome lib fuel e args fresh).1

variable {lib fuel e}

lemma map_text_eq {args : List Value} (hargs : ∀ v ∈ args, v ∈ samples pair) {s : Store}
    (hs : Unspoilt s) : args.map (·.text s) = args.map (·.text fresh) :=
  List.map_congr_left fun v hv => (seen_of_mem (hargs v hv)).text hs

lemma Independent.verdict_eq (h : Independent lib fuel e) {args : List Value}
    (hargs : ∀ v ∈ args, v ∈ samples pair) {s : Store} (hs : Unspoilt s) :
    verdict lib fuel e ⟨args, s⟩ = verdict lib fuel e ⟨args, fresh⟩ := by
  simp only [verdict, h.steady hargs hs, map_text_eq hargs (h.spares hargs hs),
    map_text_eq hargs (h.spares hargs unspoilt_fresh)]

/-- The calls of an audit of an independent function do not depend on one another. In whatever order
some argument lists of sample values are tried, each call gets the samples as they were, and what is
said on it is what would be said were it the only one. -/
theorem audit_of_independent (h : Independent lib fuel e) {sets : List (List Value)}
    (hsets : ∀ args ∈ sets, ∀ v ∈ args, v ∈ samples pair) {s : Store} (hs : Unspoilt s) :
    (calls lib fuel e sets s).map Call.texts = sets.map (·.map (·.text fresh)) ∧
      auditOn lib fuel e sets s = sets.filterMap fun args => verdict lib fuel e ⟨args, fresh⟩ := by
  rw [auditOn_eq]
  induction sets generalizing s with
  | nil => exact ⟨rfl, rfl⟩
  | cons args rest ih =>
    rw [List.forall_mem_cons] at hsets
    obtain ⟨htexts, hverdicts⟩ := ih hsets.2 (h.spares hsets.1 hs)
    rw [calls, List.map_cons, List.map_cons, htexts, List.filterMap_cons, List.filterMap_cons,
      hverdicts, h.verdict_eq hsets.1 hs]
    exact ⟨congrArg (· :: _) (map_text_eq hsets.1 hs), rfl⟩

lemma independent_of_uniform (h : ∀ args, (∀ v ∈ args, v ∈ samples pair) →
    Uniform (fun _ => True) (e.exec lib fuel .unknown args)) : Independent lib fuel e := by
  refine ⟨fun {args s} hargs hs => ?_, fun {args s} hargs hs => ?_⟩
  · obtain ⟨r, env, -, hrun⟩ := h args hargs surroundings
    rwa [outcome, hrun s hs]
  · obtain ⟨r, env, -, hrun⟩ := h args hargs surroundings
    rw [outcome, outcome, hrun s hs, hrun fresh unspoilt_fresh]

/-- In every library, a contact is independent. -/
lemma independent_of_contact {c : Contact} (he : e.behaviour = .contact c) :
    Independent lib fuel e := by
  refine independent_of_uniform fun args hargs => ?_
  simp only [Entry.exec, he]
  refine .contact _ c fun i => ?_
  unfold argument
  cases hv : args[i]? with
  | none => exact seen_of_plain fun _ => ⟨rfl, rfl⟩
  | some v => exact seen_of_mem (hargs v (List.mem_of_getElem? hv))

/-- In every library, a special form is independent. -/
lemma independent_of_form {f : Form} (he : e.behaviour = .form f) : Independent lib fuel e := by
  refine independent_of_uniform fun args hargs => ?_
  simp only [Entry.exec, he]
  refine .form lib fuel _ (fun n hn => ?_) f
  obtain ⟨v, hv, rfl⟩ := List.mem_map.1 hn
  exact ⟨v, hargs v hv, rfl⟩

/-- A function that at most makes a new array spares the sample array. -/
lemma Unspoilt.change {name : String} {args : List Value} {s t : Store} (hs : Unspoilt s)
    (h : Change name args s t) (hname : name ≠ "array_push") : Unspoilt t := by
  cases h with
  | none => exact hs
  | alloc _ => rw [Unspoilt, Store.cells_alloc, if_neg hs.pair_lt.ne, hs]
  | push h => exact absurd h hname

lemma ofCompute_store {α : Type} (c : Compute α) (w : World) :
    (Run.ofCompute c w).2.store = (c w.store).2 := by
  unfold Run.ofCompute
  split <;> simp_all

/-- Of a computation that halts as it declares, nothing is said. -/
lemma problem?_ofCompute {c : Compute Value} (h : c.HaltsIn (Halt.In e.thrown e.signal))
    (w : World) : problem? e (Run.ofCompute c w).1 = none := by
  unfold Run.ofCompute
  rcases hc : c w.store with ⟨halt | a, s⟩
  · have hin := h w.store halt (by rw [hc])
    cases halt with
    | failure f => exact if_pos (List.contains_iff_mem.2 hin)
    | signal s => exact if_pos hin
  · rfl

/-- Of the functions of the language all are independent but the one that adds cells to arrays. -/
theorem independent_iff (he : e ∈ builtins why) :
    Independent lib fuel e ↔ e.name ≠ "array_push" := by
  constructor
  · rintro h hname
    obtain rfl : e = Builtin.arrayPush :=
      List.inj_on_of_nodup_map nodup_names he (by simp [builtins, Builtin.general]) hname
    have hspoilt : Unspoilt (outcome lib fuel Builtin.arrayPush
        [.array pair .unknown, .string "hi" .unknown] fresh).2.store :=
      h.spares (by simp [samples]) unspoilt_fresh
    have hsize : (Store.cells (outcome lib fuel Builtin.arrayPush
        [.array pair .unknown, .string "hi" .unknown] fresh).2.store pair).size = 3 := rfl
    rw [hspoilt] at hsize
    cases hsize
  · intro hname
    cases hb : e.behaviour with
    | contact c => exact independent_of_contact hb
    | form f => exact independent_of_form hb
    | compute c =>
      have hrun (args : List Value) (s : Store) : outcome lib fuel e args s =
          Run.ofCompute (c.run .unknown args) { env := surroundings, store := s } := by
        simp only [outcome, Entry.exec, hb]
      refine ⟨fun {args s} hargs hs => ?_, fun {args s} hargs hs => ?_⟩
      · rw [hrun, ofCompute_store]
        exact hs.change (change_of_compute e he c hb .unknown args s) hname
      · have hhalts := halts_of_compute e he c hb .unknown args
        rw [hrun, hrun, problem?_ofCompute hhalts, problem?_ofCompute hhalts]

/-- The function that adds cells is called on something else than the samples: when an array and the
number one are tried, the array has got a text already. -/
theorem texts_calls_arrayPush :
    let sets := argumentSets (samples pair) Builtin.arrayPush.arity
    (sets[14]?.map fun args => args.map (·.text fresh)) = some ["\x7bhi, 1\x7d", "1"] ∧
      ((calls lib fuel Builtin.arrayPush sets fresh)[14]?.map Call.texts) =
        some ["\x7bhi, 1, hi\x7d", "1"] := by
  constructor
  · with_unfolding_all rfl
  · with_unfolding_all rfl

end Audit

end CommandScript
