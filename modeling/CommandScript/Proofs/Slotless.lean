import CommandScript.Proofs.Changes
import CommandScript.Proofs.Folding

/-!
# Worlds without stored slots

A slot stands for another value. The host may bind its variables to slots, but a script stores none:
no script variable in any frame, no cell of an array and no default of a procedure is one. The
places where something is stored are far apart. Here are the rules by which a run keeps a world
without stored slots; what the functions of the language store in arrays is no slot.

## Main definitions

* `CommandScript.World.Slotless` — a world in which no slot is stored.
* `CommandScript.Compute.Tidy` — computations that store no slot.
* `CommandScript.Run.Ensures` — runs that store no slot, and whose value has a property.

## Main results

* `CommandScript.tidy_of_compute` — the computations of the language store no slots.
* `CommandScript.Contact.run_ensures` — contacts with the actor and the server store nothing.
-/

namespace CommandScript

open Library (builtin)

variable {why : String → Option String}

/-! ## Worlds without stored slots -/

/-- A table of values none of which is a slot. -/
def Bindings.Slotless (b : Bindings Value) : Prop :=
  ∀ name v, b.get? name = some v → v.isSlot = false

/-- Arrays without a cell that is a slot. -/
def Store.Slotless (s : Store) : Prop := ∀ r, ∀ v ∈ s.cells r, v.isSlot = false

/-- An environment in which no script variable in any frame and no default of a procedure is a slot.
Variables of the host may be slots. -/
structure Environment.Slotless (e : Environment) : Prop where
  frame : e.frame.Slotless
  outer : ∀ f ∈ e.outer, f.Slotless
  defaults : ∀ name p, e.procedures.get? name = some p → ∀ q ∈ p.params, q.2.isSlot = false

/-- A world in which no slot is stored. -/
structure World.Slotless (w : World) : Prop where
  env : w.env.Slotless
  store : w.store.Slotless

/-- A binding of a value that is no slot. -/
lemma Bindings.Slotless.insert {b : Bindings Value} (h : b.Slotless) (name : String) {v : Value}
    (hv : v.isSlot = false) : (b.insert name v).Slotless := by
  intro other u hu
  rw [get?_insert] at hu
  split at hu
  · cases hu
    exact hv
  · exact h other u hu

namespace Store.Slotless

variable {s : Store}

/-- A new array of values that are no slots. -/
lemma alloc (h : s.Slotless) {cells : List Value} (hcells : ∀ v ∈ cells, v.isSlot = false) :
    (s.alloc cells.toArray).2.Slotless := by
  intro r v hv
  rw [cells_alloc] at hv
  split at hv
  · exact hcells v (List.mem_toArray.1 hv)
  · exact h r v hv

/-- A new cell that is no slot; an array that is not there gets none. -/
lemma push (h : s.Slotless) (r : Ref) {v : Value} (hv : v.isSlot = false) :
    (s.push r v).Slotless := by
  intro q u hu
  have hold := h q
  simp only [Store.push, cells, Array.getElem?_modify] at hu hold
  split at hu
  · rcases hq : s.arrays[q]? with _ | cells
    · simp [hq] at hu
    · simp only [hq, Option.map_some, Option.getD_some] at hu hold
      rcases Array.mem_push.1 hu with hu | rfl
      · exact hold u hu
      · exact hv
  · exact hold u hu

end Store.Slotless

namespace Environment.Slotless

variable {e : Environment}

lemma setIvar (h : e.Slotless) (name : String) {v : Value} (hv : v.isSlot = false) :
    (e.setIvar name v).Slotless :=
  { h with frame := h.frame.insert name hv }

/-- A message stores nothing. -/
lemma send (h : e.Slotless) (message : String) : (e.send message).Slotless := by
  unfold Environment.send
  split
  · exact { h with }
  · exact h

/-- A procedure with defaults that are no slots. -/
lemma define (h : e.Slotless) {p : Procedure} (hp : ∀ q ∈ p.params, q.2.isSlot = false) :
    (e.define p).Slotless := by
  refine { h with defaults := fun name q hq => ?_ }
  simp only [Environment.define, Bindings.get?_insert] at hq
  split at hq
  · cases hq
    exact hp
  · exact h.defaults name q hq

lemma pushFrame (h : e.Slotless) : e.pushFrame.Slotless where
  frame _ _ hv := by cases hv
  outer := List.forall_mem_cons.2 ⟨h.frame, h.outer⟩
  defaults := h.defaults

lemma popFrame (h : e.Slotless) : e.popFrame.Slotless := by
  unfold Environment.popFrame
  split
  · exact h
  · next f fs hfs =>
    have houter := h.outer
    rw [hfs, List.forall_mem_cons] at houter
    exact ⟨houter.1, houter.2, h.defaults⟩

/-- The frame of a procedure, where the arguments and the defaults are no slots. -/
lemma setUp (h : e.Slotless) {p : Procedure} (hp : ∀ q ∈ p.params, q.2.isSlot = false)
    {values : List Value} (hvalues : ∀ v ∈ values, v.isSlot = false) {arguments : Value}
    (harguments : arguments.isSlot = false) : (p.setUp values arguments e).Slotless := by
  have hbindings : ∀ q ∈ p.bindings values, q.2.isSlot = false := by
    intro q hq
    obtain ⟨⟨param, i⟩, hmem, rfl⟩ := List.mem_map.1 hq
    rcases hv : values[i]? with _ | v
    · simp only [Option.getD_none]
      exact hp param (List.fst_mem_of_mem_zipIdx hmem)
    · simp only [Option.getD_some]
      exact hvalues v (List.mem_of_getElem? hv)
  have hfold : ∀ (qs : List (String × Value)) (e : Environment), e.Slotless →
      (∀ q ∈ qs, q.2.isSlot = false) →
      (qs.foldl (fun e q => e.setIvar q.1 q.2) e).Slotless := by
    intro qs
    induction qs with
    | nil => exact fun e he _ => he
    | cons q qs ih =>
      intro e he hqs
      obtain ⟨hq, hqs⟩ := List.forall_mem_cons.1 hqs
      exact ih _ (he.setIvar q.1 hq) hqs
  exact (hfold _ e h hbindings).setIvar "arguments" harguments

end Environment.Slotless

/-! ## Computations -/

namespace Compute

variable {α : Type}

/-- A computation that stores no slot in an array. -/
def Tidy (x : Compute α) : Prop := ∀ s : Store, s.Slotless → (x s).2.Slotless

/-- A new array of values that are no slots. -/
lemma Tidy.newArray (loc : Location) {cells : List Value} (h : ∀ v ∈ cells, v.isSlot = false) :
    (Compute.newArray loc cells).Tidy := fun _ hs => hs.alloc h

end Compute

/-- An argument that is missing is no slot either. -/
lemma isSlot_argument {args : List Value} (h : ∀ v ∈ args, v.isSlot = false) (i : Nat) :
    (argument args i).isSlot = false := by
  unfold argument
  rcases hv : args[i]? with _ | v
  · rfl
  · exact h v (List.mem_of_getElem? hv)

/-- What a function of the language does to the arrays stores no slot, if no argument is one. -/
lemma Change.slotless {name : String} {args : List Value} {s t : Store} (h : Change name args s t)
    (hargs : ∀ v ∈ args, v.isSlot = false) (hs : s.Slotless) : t.Slotless := by
  cases h with
  | none => exact hs
  | alloc hcells => exact hs.alloc fun v hv => (hcells v hv).elim (hargs v) id
  | push _ => exact hs.push _ (isSlot_argument hargs 1)

/-- The computations of the language have their arguments followed through slots, and then store no
slot. -/
lemma tidy_of_compute (e : Entry) (he : e ∈ builtins why) (c : Computation)
    (hc : e.behaviour = .compute c) :
    c.resolves = true ∧ ∀ loc args, (∀ v ∈ args, v.isSlot = false) → (c.run loc args).Tidy := by
  have hresolves : ∀ e ∈ builtins why, ∀ c, e.behaviour = .compute c → c.resolves = true := by
    rw [forall_computations]
    and_intros <;> rfl
  exact ⟨hresolves e he c hc, fun loc args hargs s hs =>
    (change_of_compute e he c hc loc args s).slotless hargs hs⟩

/-! ## Runs -/

namespace Run

variable {α β : Type} {P : α → Prop} {R : β → Prop}

/-- A run that, however it ends, stores no slot, and whose value, if it gives one, has the
property `P`. -/
def Ensures (P : α → Prop) (x : Run α) : Prop :=
  ∀ w : World, w.Slotless → (x w).2.Slotless ∧ ∀ a, (x w).1 = .ok a → P a

namespace Ensures

lemma pure {a : α} (h : P a) : (Pure.pure a : Run α).Ensures P := by
  intro w hw
  refine ⟨hw, ?_⟩
  rintro _ ⟨⟩
  exact h

/-- A run that stops at once. -/
lemma stop (e : Stop) : (throw e : Run α).Ensures P :=
  fun _ hw => ⟨hw, fun _ ha => by cases ha⟩

lemma fail (loc : Location) (c : Cause) : (Run.fail loc c : Run α).Ensures P := stop _

lemma ofExcept (loc : Location) (r : Except Cause α) :
    (Run.ofExcept loc r).Ensures fun _ => True := by
  cases r with
  | error c => exact fail loc c
  | ok a => exact pure trivial

lemma bind {x : Run α} {f : α → Run β} (hx : x.Ensures P) (hf : ∀ a, P a → (f a).Ensures R) :
    (x >>= f).Ensures R := by
  intro w hw
  obtain ⟨hv, hP⟩ := hx w hw
  rcases hxw : x w with ⟨e | a, v⟩
  · rw [bind_of_error hxw]
    rw [hxw] at hv
    exact ⟨hv, fun _ ha => by cases ha⟩
  · rw [bind_of_ok hxw]
    rw [hxw] at hv hP
    exact hf a (hP a rfl) v hv

/-- One run after another, whatever the value of the first. -/
lemma next {x : Run α} {f : α → Run β} (hx : x.Ensures fun _ => True)
    (hf : ∀ a, (f a).Ensures R) : (x >>= f).Ensures R := bind hx fun a _ => hf a

lemma env : Run.env.Ensures Environment.Slotless := by
  intro w hw
  refine ⟨hw, ?_⟩
  rintro _ ⟨⟩
  exact hw.env

lemma get : (MonadState.get : Run World).Ensures World.Slotless := by
  intro w hw
  refine ⟨hw, ?_⟩
  rintro _ ⟨⟩
  exact hw

lemma textOf (v : Value) : (Run.textOf v).Ensures fun _ => True :=
  fun _ hw => ⟨hw, fun _ _ => trivial⟩

lemma isTrue (v : Value) : (Run.isTrue v).Ensures fun _ => True :=
  fun _ hw => ⟨hw, fun _ _ => trivial⟩

/-- A change of the environment that stores no slot. -/
lemma modifyEnv {f : Environment → Environment}
    (h : ∀ e : Environment, e.Slotless → (f e).Slotless) :
    (Run.modifyEnv f).Ensures fun _ => True :=
  fun w hw => ⟨⟨h w.env hw.env, hw.store⟩, fun _ _ => trivial⟩

lemma setIvar (name : String) {v : Value} (hv : v.isSlot = false) :
    (Run.modifyEnv (·.setIvar name v)).Ensures fun _ => True :=
  modifyEnv fun _ he => he.setIvar name hv

lemma send (message : String) : (Run.modifyEnv (·.send message)).Ensures fun _ => True :=
  modifyEnv fun _ he => he.send message

lemma ofCompute {c : Compute α} (h : c.Tidy) : (Run.ofCompute c).Ensures fun _ => True := by
  intro w hw
  have hs := h w.store hw.store
  unfold Run.ofCompute
  split
  · next hc => exact ⟨⟨hw.env, by rwa [hc] at hs⟩, fun _ _ => trivial⟩
  · next hc => exact ⟨⟨hw.env, by rwa [hc] at hs⟩, fun _ _ => trivial⟩

/-- Compiling leaves the arrays alone. -/
lemma ofCompile (loc : Location) (text : String) :
    (Run.ofCompile loc ((builtin why).compile true text)).Ensures fun _ => True := by
  intro w hw
  obtain ⟨r, hr⟩ := Library.compile_outcome text none
  cases r with
  | error e =>
    rw [ofCompile_of_error loc (hr w.store)]
    exact ⟨hw, fun _ _ => trivial⟩
  | ok nodes =>
    rw [ofCompile_of_ok loc (hr w.store)]
    exact ⟨hw, fun _ _ => trivial⟩

/-! ### Loops and procedure calls -/

variable {x : Run Value}

lemma round (h : x.Ensures fun _ => True) : (Run.round x).Ensures fun _ => True := by
  intro w hw
  rw [round_snd]
  exact ⟨(h w hw).1, fun _ _ => trivial⟩

lemma settle (loc : Location) (h : x.Ensures fun _ => True) :
    (Run.settle loc x).Ensures fun _ => True := by
  intro w hw
  rw [settle_snd]
  exact ⟨(h w hw).1, fun _ _ => trivial⟩

/-- A frame of its own, set up without slots. -/
lemma inFrame {setUp : Environment → Environment}
    (hsetUp : ∀ e : Environment, e.Slotless → (setUp e).Slotless) (h : x.Ensures fun _ => True) :
    (Run.inFrame setUp x).Ensures fun _ => True := by
  intro w hw
  have hin : World.Slotless { w with env := setUp w.env.pushFrame } :=
    ⟨hsetUp _ hw.env.pushFrame, hw.store⟩
  obtain ⟨hv, -⟩ := h _ hin
  rcases hx : x { w with env := setUp w.env.pushFrame } with ⟨r, v⟩
  rw [hx] at hv
  refine ⟨?_, fun _ _ => trivial⟩
  by_cases hr : r = .error .outOfFuel
  · subst hr
    rwa [inFrame_of_outOfFuel hx]
  · rw [inFrame_of_ne hx hr]
    exact ⟨hv.env.popFrame, hv.store⟩

/-- The rounds of a loop over values that are no slots. -/
lemma rounds (name : String) (h : x.Ensures fun _ => True) {vs : List Value}
    (hvs : ∀ v ∈ vs, v.isSlot = false) :
    (Run.rounds (fun v => Run.modifyEnv (·.setIvar name v)) x vs).Ensures fun _ => True := by
  induction vs with
  | nil => exact pure trivial
  | cons v vs ih =>
    obtain ⟨hv, hvs⟩ := List.forall_mem_cons.1 hvs
    refine next (setIvar name hv) fun _ => next (round h) fun goes => ?_
    cases goes with
    | true => exact ih hvs
    | false => exact pure trivial

lemma roundsWhile {c s b : Run Value} (hc : c.Ensures fun _ => True)
    (hs : s.Ensures fun _ => True) (hb : b.Ensures fun _ => True) (fuel : Nat) :
    (Run.roundsWhile c s b fuel).Ensures fun _ => True := by
  induction fuel with
  | zero => exact stop _
  | succ fuel ih =>
    refine next hc fun v => next (isTrue v) fun t => ?_
    cases t with
    | false => exact pure trivial
    | true =>
      refine next (round hb) fun goes => ?_
      cases goes with
      | false => exact pure trivial
      | true => exact next hs fun _ => ih

end Ensures

end Run

/-! ## Contacts -/

/-- A contact with the actor and the server stores nothing. -/
lemma Contact.run_ensures (c : Contact) (loc : Location) (args : List Value) :
    (c.run loc args).Ensures fun _ => True := by
  cases c with
  | msg =>
    have hsend : ((do
        let message ← Run.textOf (argument args 0)
        Run.modifyEnv (·.send message)
        return .void loc) : Run Value).Ensures fun _ => True :=
      .next (.textOf _) fun message => .next (.send message) fun _ => .pure trivial
    refine .bind .env fun e _ => ?_
    split
    · exact .next (.fail loc _) fun _ => hsend
    · exact hsend
  | player =>
    refine .bind .env fun e _ => ?_
    split
    · exact .pure trivial
    · exact .pure trivial
  | runas =>
    intro w hw
    rw [run_runas]
    refine ⟨?_, fun _ _ => trivial⟩
    obtain ⟨_, h⟩ | ⟨_, _, _, _, _, _, _, h⟩ := runCommand_apply loc
      ((argument args 0).text w.store) ((argument args 1).text w.store) w
    · rwa [h]
    · rw [h]
      exact ⟨{ hw.env with }, hw.store⟩
  | die =>
    cases args with
    | nil => exact .stop _
    | cons v _ =>
      exact .next (.textOf v) fun message => .next (.send message) fun _ => .stop _

end CommandScript
