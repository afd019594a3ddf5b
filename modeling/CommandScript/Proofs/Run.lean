import CommandScript.Eval
import Mathlib.Data.List.Forall2
import Mathlib.Tactic.Lemma

/-!
# Laws of runs

How runs follow one another, what the small runs leave alone, how runs halt, and what it means that
two runs do the same. Worlds are compared without the frames further out, which no expression sees,
and with procedures whose bodies need only be related.

## Main definitions

* `CommandScript.World.SameSetting` — the parts of the world that no evaluation may change: the
  actor, the server, the variables of the host, and the frames further out.
* `CommandScript.Run.Quiet` — a run that keeps the setting, asks the server for nothing, and at most
  sends messages.
* `CommandScript.Compute.HaltsIn` — computations that halt, if at all, in some ways only.
* `CommandScript.Run.Keeps` — runs that keep a property of the procedures and halt in some ways
  only.
* `CommandScript.World.Alike` — worlds that differ at most in the frames further out, and in the
  bodies of procedures.
* `CommandScript.Halt.ending` — the end of a script with a halt.
* `CommandScript.Run.Simulates` — a run that, from alike worlds, ends as another does, as far as
  that other one comes to an end.

## Main results

* `CommandScript.Contact.runCommand_apply` — what the server is asked to run, and when.
* `CommandScript.Run.Simulates.bind` — runs that do the same, one after another, do the same.
-/

namespace CommandScript

/-! ## Computations one after another -/

section Bind

variable {ε σ α β : Type} {x : ExceptT ε (StateM σ) α} {f : α → ExceptT ε (StateM σ) β} {s t : σ}

/-- A computation goes on from where the first part of it ends. -/
lemma bind_eq_bindCont : (x >>= f) s = ExceptT.bindCont f (x s).1 (x s).2 := rfl

/-- A computation that gives a value goes on with it. -/
lemma bind_of_ok {a : α} (h : x s = (.ok a, t)) : (x >>= f) s = f a t := by
  rw [bind_eq_bindCont, h]
  rfl

/-- A computation that stops does not go on. -/
lemma bind_of_error {e : ε} (h : x s = (.error e, t)) : (x >>= f) s = (.error e, t) := by
  rw [bind_eq_bindCont, h]
  rfl

/-- A computation that gives a value has gone on with one. -/
lemma bind_eq_ok {b : β} :
    (x >>= f) s = (.ok b, t) ↔ ∃ a u, x s = (.ok a, u) ∧ f a u = (.ok b, t) := by
  constructor
  · intro h
    rcases hx : x s with ⟨_ | a, u⟩
    · rw [bind_of_error hx] at h
      cases h
    · rw [bind_of_ok hx] at h
      exact ⟨a, u, rfl, h⟩
  · rintro ⟨a, u, hx, hf⟩
    rw [bind_of_ok hx, hf]

end Bind

/-! ## Small runs -/

namespace Run

variable {α β : Type}

/-- A run that only gives a value leaves the world alone. -/
lemma pure_apply (a : α) (w : World) : (pure a : Run α) w = (.ok a, w) := rfl

/-- A run that fails leaves the world alone. -/
lemma fail_apply (loc : Location) (c : Cause) (w : World) :
    (fail loc c : Run α) w = (.error (.halt (.failure ⟨c, loc⟩)), w) := rfl

lemma env_apply (w : World) : env w = (.ok w.env, w) := rfl

lemma modifyEnv_apply (f : Environment → Environment) (w : World) :
    modifyEnv f w = (.ok (), { w with env := f w.env }) := rfl

lemma textOf_apply (v : Value) (w : World) : textOf v w = (.ok (v.text w.store), w) := rfl

/-- Compiling that succeeds changes the arrays. -/
lemma ofCompile_of_ok {c : Compile α} {w : World} {a : α} {s : Store} (loc : Location)
    (h : c w.store = (.ok a, s)) : ofCompile loc c w = (.ok a, { w with store := s }) := by
  rw [ofCompile, h]

/-- Compiling that fails changes the arrays and is reported. -/
lemma ofCompile_of_error {c : Compile α} {w : World} {e : CompileError} {s : Store}
    (loc : Location) (h : c w.store = (.error e, s)) :
    ofCompile loc c w =
      (.error (.halt (.failure ⟨.badScript e.message, loc⟩)), { w with store := s }) := by
  rw [ofCompile, h]

/-! ## What loops and procedure calls take up -/

/-- A round of a loop ends in the world in which its body does. -/
lemma round_snd (x : Run Value) (w : World) : (round x w).2 = (x w).2 := by
  unfold round
  split
  · simp_all
  · simp_all
  · split <;> simp_all
  · simp_all

/-- A round whose body is out of fuel is out of fuel. -/
lemma round_of_outOfFuel {x : Run Value} {w v : World} (h : x w = (.error .outOfFuel, v)) :
    round x w = (.error .outOfFuel, v) := by
  unfold round
  rw [h]

/-- A procedure call ends in the world in which its body does. -/
lemma settle_snd (loc : Location) (x : Run Value) (w : World) :
    (settle loc x w).2 = (x w).2 := by
  unfold settle
  split <;> simp_all

/-- A procedure call whose body is out of fuel is out of fuel. -/
lemma settle_of_outOfFuel {x : Run Value} {w v : World} (loc : Location)
    (h : x w = (.error .outOfFuel, v)) : settle loc x w = (.error .outOfFuel, v) := by
  unfold settle
  rw [h]

/-- A run in a frame of its own that is out of fuel keeps the frame. -/
lemma inFrame_of_outOfFuel {setUp : Environment → Environment} {x : Run Value} {w v : World}
    (h : x { w with env := setUp w.env.pushFrame } = (.error .outOfFuel, v)) :
    inFrame setUp x w = (.error .outOfFuel, v) := by
  unfold inFrame
  rw [h]

/-- A run in a frame of its own that comes to an end loses the frame. -/
lemma inFrame_of_ne {setUp : Environment → Environment} {x : Run Value} {w v : World}
    {r : Except Stop Value} (h : x { w with env := setUp w.env.pushFrame } = (r, v))
    (hr : r ≠ .error .outOfFuel) :
    inFrame setUp x w = (r, { v with env := v.env.popFrame }) := by
  unfold inFrame
  rw [h]
  split
  · simp_all
  · simp_all

end Run

/-! ## What a run leaves alone -/

/-- The parts of the world that no evaluation may change are the same: the actor, the server, the
variables of the host, and the frames further out. -/
structure World.SameSetting (w v : World) : Prop where
  actor : v.env.actor = w.env.actor
  server : v.env.server = w.env.server
  aliases : v.env.aliases = w.env.aliases
  outer : v.env.outer = w.env.outer

namespace World.SameSetting

variable {u v w : World}

lemma refl (w : World) : w.SameSetting w := ⟨rfl, rfl, rfl, rfl⟩

lemma trans (h : u.SameSetting v) (h' : v.SameSetting w) : u.SameSetting w :=
  ⟨h'.actor.trans h.actor, h'.server.trans h.server, h'.aliases.trans h.aliases,
    h'.outer.trans h.outer⟩

/-- In the same setting there are as many frames. -/
lemma depth (h : w.SameSetting v) : v.env.depth = w.env.depth := by
  simp only [Environment.depth, h.outer]

end World.SameSetting

namespace Run

variable {α β : Type}

/-- A run that keeps the setting, however it ends, asks the server for nothing, and takes back
nothing of what the actor was sent. -/
structure Quiet (x : Run α) : Prop where
  sameSetting : ∀ w : World, w.SameSetting (x w).2
  ran : ∀ w : World, (x w).2.env.ran = w.env.ran
  heard : ∀ w : World, w.env.heard.toList <+: (x w).2.env.heard.toList

namespace Quiet

/-- A run that leaves the environment alone but for its script variables and procedures is quiet. -/
lemma of_eq {x : Run α} {f : World → Bindings Value} {g : World → Bindings Procedure}
    (h : ∀ w, (x w).2.env = { w.env with frame := f w, procedures := g w }) : x.Quiet := by
  refine ⟨fun w => ?_, fun w => by rw [h w], fun w => ?_⟩
  · exact ⟨by rw [h w], by rw [h w], by rw [h w], by rw [h w]⟩
  · have hheard : (x w).2.env.heard = w.env.heard := by rw [h w]
    exact hheard ▸ List.prefix_rfl

/-- A run that changes nothing is quiet. -/
lemma of_same {x : Run α} (h : ∀ w, (x w).2 = w) : x.Quiet := of_eq fun w => by rw [h w]

lemma pure (a : α) : (pure a : Run α).Quiet := of_same fun _ => rfl

lemma fail (loc : Location) (c : Cause) : (fail loc c : Run α).Quiet := of_same fun _ => rfl

/-- A computation changes nothing but the arrays. -/
lemma ofCompute (c : Compute α) : (ofCompute c).Quiet := of_eq fun w => by
  simp only [Run.ofCompute]
  split <;> rfl

/-- Compiling changes nothing but the arrays. -/
lemma ofCompile (loc : Location) (c : Compile α) : (ofCompile loc c).Quiet := of_eq fun w => by
  simp only [Run.ofCompile]
  split <;> rfl

lemma setIvar (name : String) (v : Value) : (modifyEnv (·.setIvar name v)).Quiet :=
  of_eq fun _ => rfl

lemma define (p : Procedure) : (modifyEnv (·.define p)).Quiet := of_eq fun _ => rfl

/-- A message is added to what the actor was sent. -/
lemma send (message : String) : (modifyEnv (·.send message)).Quiet := by
  constructor <;> intro w <;> simp only [modifyEnv_apply, Environment.send] <;> split
  · exact ⟨rfl, rfl, rfl, rfl⟩
  · exact .refl w
  · rfl
  · rfl
  · rw [Array.toList_push]
    exact List.prefix_append _ _
  · exact List.prefix_rfl

end Quiet

end Run

/-! ## How computations and runs halt -/

namespace Compute

variable {α β : Type} {H : Halt → Prop}

/-- A computation that halts, if at all, in one of the ways `H`. -/
def HaltsIn (H : Halt → Prop) (x : Compute α) : Prop := ∀ s h, (x s).1 = .error h → H h

namespace HaltsIn

lemma mono {H' : Halt → Prop} {x : Compute α} (h : x.HaltsIn H) (hH : ∀ h, H h → H' h) :
    x.HaltsIn H' := fun s e he => hH e (h s e he)

/-- A computation that always gives a value. -/
lemma of_ok {x : Compute α} (h : ∀ s, ∃ a, (x s).1 = .ok a) : x.HaltsIn H := by
  intro s e he
  obtain ⟨a, ha⟩ := h s
  rw [ha] at he
  cases he

lemma pure (a : α) : (Pure.pure a : Compute α).HaltsIn H := of_ok fun _ => ⟨a, rfl⟩

lemma raise {s : Signal} (h : H (.signal s)) : (Compute.raise s : Compute α).HaltsIn H := by
  rintro _ _ ⟨⟩
  exact h

lemma bind {x : Compute α} {f : α → Compute β} (hx : x.HaltsIn H) (hf : ∀ a, (f a).HaltsIn H) :
    (x >>= f).HaltsIn H := by
  intro s h he
  rcases hxs : x s with ⟨e | a, t⟩
  · rw [bind_of_error hxs] at he
    cases he
    exact hx s h (by rw [hxs])
  · rw [bind_of_ok hxs] at he
    exact hf a t h he

lemma get : (MonadState.get : Compute Store).HaltsIn H := of_ok fun s => ⟨s, rfl⟩

lemma textOf (v : Value) : (Compute.textOf v).HaltsIn H := of_ok fun s => ⟨v.text s, rfl⟩

lemma newArray (loc : Location) (cells : List Value) : (Compute.newArray loc cells).HaltsIn H :=
  of_ok fun _ => ⟨_, rfl⟩

end HaltsIn

end Compute

/-- A message leaves the procedures. -/
@[simp]
lemma Environment.send_procedures (e : Environment) (message : String) :
    (e.send message).procedures = e.procedures := by
  unfold send
  split <;> rfl

namespace Run

variable {α β : Type} {I : Bindings Procedure → Prop} {H : Halt → Prop}

/-- A run that, however it ends, keeps the property `I` of the procedures, and that halts, if at
all, in one of the ways `H`. -/
def Keeps (I : Bindings Procedure → Prop) (H : Halt → Prop) (x : Run α) : Prop :=
  ∀ w, I w.env.procedures →
    I (x w).2.env.procedures ∧ ∀ h, (x w).1 = .error (.halt h) → H h

namespace Keeps

lemma mono {H' : Halt → Prop} {x : Run α} (h : x.Keeps I H) (hH : ∀ h, H h → H' h) :
    x.Keeps I H' := fun w hw => ⟨(h w hw).1, fun e he => hH e ((h w hw).2 e he)⟩

/-- A run that defines no procedure and does not halt. -/
lemma of_ok {x : Run α} (h : ∀ w, (x w).2.env.procedures = w.env.procedures)
    (hok : ∀ w, ∃ a, (x w).1 = .ok a) : x.Keeps I H := by
  intro w hw
  refine ⟨by rwa [h w], fun e he => ?_⟩
  obtain ⟨a, ha⟩ := hok w
  rw [ha] at he
  cases he

lemma pure (a : α) : (Pure.pure a : Run α).Keeps I H := of_ok (fun _ => rfl) fun _ => ⟨a, rfl⟩

lemma fail {loc : Location} {c : Cause} (h : H (.failure ⟨c, loc⟩)) :
    (Run.fail loc c : Run α).Keeps I H := by
  intro w hw
  refine ⟨hw, ?_⟩
  rintro _ ⟨⟩
  exact h

lemma raise {s : Signal} (h : H (.signal s)) : (Run.raise s : Run α).Keeps I H := by
  intro w hw
  refine ⟨hw, ?_⟩
  rintro _ ⟨⟩
  exact h

lemma outOfFuel : (Run.outOfFuel : Run α).Keeps I H := by
  intro w hw
  exact ⟨hw, fun h he => by cases he⟩

lemma ofExcept (loc : Location) {r : Except Cause α}
    (h : ∀ c, r = .error c → H (.failure ⟨c, loc⟩)) : (Run.ofExcept loc r).Keeps I H := by
  cases r with
  | error c => exact fail (h c rfl)
  | ok a => exact pure a

lemma bind {x : Run α} {f : α → Run β} (hx : x.Keeps I H) (hf : ∀ a, (f a).Keeps I H) :
    (x >>= f).Keeps I H := by
  intro w hw
  obtain ⟨hI, hH⟩ := hx w hw
  rcases hxw : x w with ⟨e | a, v⟩
  · rw [bind_of_error hxw]
    rw [hxw] at hI hH
    refine ⟨hI, fun h he => ?_⟩
    cases he
    exact hH h rfl
  · rw [bind_of_ok hxw]
    rw [hxw] at hI
    exact hf a v hI

/-- A run that looks at the environment first. -/
lemma withEnv {f : Environment → Run β} (hf : ∀ e : Environment, I e.procedures → (f e).Keeps I H) :
    (Run.env >>= f).Keeps I H := fun w hw => hf w.env hw w hw

lemma env : Run.env.Keeps I H := of_ok (fun _ => rfl) fun w => ⟨w.env, rfl⟩

lemma get : (MonadState.get : Run World).Keeps I H := of_ok (fun _ => rfl) fun w => ⟨w, rfl⟩

lemma textOf (v : Value) : (Run.textOf v).Keeps I H :=
  of_ok (fun _ => rfl) fun w => ⟨v.text w.store, rfl⟩

lemma isTrue (v : Value) : (Run.isTrue v).Keeps I H :=
  of_ok (fun _ => rfl) fun w => ⟨v.isTrue w.store, rfl⟩

lemma setIvar (name : String) (v : Value) : (modifyEnv (·.setIvar name v)).Keeps I H :=
  of_ok (fun _ => rfl) fun _ => ⟨(), rfl⟩

lemma send (message : String) : (modifyEnv (·.send message)).Keeps I H := by
  refine of_ok (fun w => ?_) fun _ => ⟨(), rfl⟩
  simp only [modifyEnv_apply, Environment.send_procedures]

/-- A computation defines no procedures. -/
lemma ofCompute {c : Compute α} (h : c.HaltsIn H) : (Run.ofCompute c).Keeps I H := by
  intro w hw
  have hc := h w.store
  unfold Run.ofCompute
  rcases hcw : c w.store with ⟨e | a, s⟩
  · refine ⟨hw, ?_⟩
    rintro _ ⟨⟩
    exact hc e (by rw [hcw])
  · exact ⟨hw, fun h he => by cases he⟩

lemma define (p : Procedure) : (modifyEnv (·.define p)).Keeps (fun _ => True) H :=
  fun _ _ => ⟨trivial, by rintro _ ⟨⟩⟩

/-- Compiling defines no procedures. -/
lemma ofCompile (loc : Location) {c : Compile α} (h : ∀ f, H (.failure f)) :
    (Run.ofCompile loc c).Keeps I H := by
  intro w hw
  rcases hc : c w.store with ⟨e | a, s⟩
  · rw [ofCompile_of_error loc hc]
    exact ⟨hw, by rintro _ ⟨⟩; exact h _⟩
  · rw [ofCompile_of_ok loc hc]
    exact ⟨hw, by rintro _ ⟨⟩⟩

/-- A round of a loop turns a signal for more loops into one for fewer. -/
lemma round (hH : ∀ n, 1 < n → H (.signal (.breakLoop n)) → H (.signal (.breakLoop (n - 1))))
    {x : Run Value} (hx : x.Keeps I H) : (Run.round x).Keeps I H := by
  intro w hw
  obtain ⟨hI, hhalt⟩ := hx w hw
  rw [round_snd]
  refine ⟨hI, fun h he => ?_⟩
  unfold Run.round at he
  split at he
  · cases he
  · cases he
  · next n v heq =>
    split at he
    · cases he
    · next hn =>
      cases he
      exact hH n (by omega) (hhalt _ (by rw [heq]))
  · next e v _ _ heq =>
    cases he
    exact hhalt h (by rw [heq])

/-- A procedure call turns a stray signal into a failure. -/
lemma settle {loc : Location} (hH : ∀ k, H (.failure ⟨.stray k, loc⟩)) {x : Run Value}
    (hx : x.Keeps I H) : (Run.settle loc x).Keeps I H := by
  intro w hw
  obtain ⟨hI, hhalt⟩ := hx w hw
  rw [settle_snd]
  refine ⟨hI, fun h he => ?_⟩
  unfold Run.settle at he
  split at he
  · cases he
  · cases he
  · cases he
    exact hH _
  · cases he
    exact hH _
  · next e v _ _ _ heq =>
    cases he
    exact hhalt h (by rw [heq])

/-- A frame has nothing to do with procedures. -/
lemma inFrame {setUp : Environment → Environment}
    (hsetUp : ∀ e, (setUp e).procedures = e.procedures) {x : Run Value} (hx : x.Keeps I H) :
    (Run.inFrame setUp x).Keeps I H := by
  intro w hw
  have hin : I (setUp w.env.pushFrame).procedures := by rwa [hsetUp]
  have hpop : ∀ e : Environment, e.popFrame.procedures = e.procedures := by
    intro e
    unfold Environment.popFrame
    split <;> rfl
  obtain ⟨hI, hhalt⟩ := hx { w with env := setUp w.env.pushFrame } hin
  rcases hxw : x { w with env := setUp w.env.pushFrame } with ⟨r, v⟩
  rw [hxw] at hI hhalt
  by_cases hr : r = .error .outOfFuel
  · subst hr
    rw [inFrame_of_outOfFuel hxw]
    exact ⟨hI, fun h he => by cases he⟩
  · rw [inFrame_of_ne hxw hr, hpop]
    exact ⟨hI, hhalt⟩

/-- The rounds of a loop over values. -/
lemma rounds (hH : ∀ n, 1 < n → H (.signal (.breakLoop n)) → H (.signal (.breakLoop (n - 1))))
    (name : String) {x : Run Value} (hx : x.Keeps I H) (vs : List Value) :
    (Run.rounds (fun v => modifyEnv (·.setIvar name v)) x vs).Keeps I H := by
  induction vs with
  | nil => exact pure ()
  | cons v vs ih =>
    refine bind (setIvar name v) fun _ => bind (round hH hx) fun goes => ?_
    cases goes with
    | true => exact ih
    | false => exact pure ()

/-- The rounds of a loop with a condition. -/
lemma roundsWhile
    (hH : ∀ n, 1 < n → H (.signal (.breakLoop n)) → H (.signal (.breakLoop (n - 1))))
    {c s b : Run Value} (hc : c.Keeps I H) (hs : s.Keeps I H) (hb : b.Keeps I H) (fuel : Nat) :
    (Run.roundsWhile c s b fuel).Keeps I H := by
  induction fuel with
  | zero => exact outOfFuel
  | succ fuel ih =>
    refine bind hc fun v => bind (isTrue v) fun t => ?_
    cases t with
    | false => exact pure ()
    | true =>
      refine bind (round hH hb) fun goes => ?_
      cases goes with
      | false => exact pure ()
      | true => exact bind hs fun _ => ih

end Keeps

end Run

/-! ## Commands for players -/

namespace Contact

/-- The server is asked to run a command, and the run goes on or fails. -/
lemma dispatch_apply (loc : Location) (server : Server) (c : Command) (w : World) :
    ∃ r, r ≠ .error .outOfFuel ∧ dispatch loc server c w =
      (r, { w with env := { w.env with ran := w.env.ran.push c } }) := by
  simp only [dispatch, bind_of_ok (Run.env_apply w), bind_of_ok (Run.modifyEnv_apply _ w)]
  split
  · exact ⟨_, by simp, Run.pure_apply _ _⟩
  · exact ⟨_, by simp, Run.fail_apply _ _ _⟩

/-- A command is run for a player who is online, from a text that starts with a slash, and without
that slash; else nothing happens. -/
lemma runCommand_apply (loc : Location) (player command : String) (w : World) :
    (∃ c, runCommand loc player command w = (.error (.halt (.failure ⟨c, loc⟩)), w)) ∨
      ∃ server text r, w.env.server = some server ∧ command.toList = '/' :: text ∧
        server.online w.env.ran player = true ∧ r ≠ .error .outOfFuel ∧
        runCommand loc player command w = (r, { w with env := { w.env with
          ran := w.env.ran.push ⟨player, String.ofList text⟩ } }) := by
  rw [runCommand, bind_of_ok (Run.env_apply w)]
  rcases hs : w.env.server with _ | server
  · exact .inl ⟨_, rfl⟩
  · rcases hc : command.toList with _ | ⟨slash, text⟩
    · exact .inl ⟨_, rfl⟩
    · by_cases hslash : slash = '/'
      · subst hslash
        simp only [bind_of_ok (Run.env_apply w)]
        by_cases ho : server.online w.env.ran player = true
        · obtain ⟨r, hr, hd⟩ := dispatch_apply loc server ⟨player, String.ofList text⟩ w
          simp only [ho, if_true, hd, hs]
          exact .inr ⟨server, text, r, rfl, rfl, ho, hr, rfl⟩
        · rw [if_neg ho]
          exact .inl ⟨_, rfl⟩
      · refine .inl ⟨.noSlash, ?_⟩
        simp [hslash, Run.fail_apply]

/-- The function for commands takes the player and the command from its arguments. -/
lemma run_runas (loc : Location) (values : List Value) (w : World) :
    run .runas loc values w = runCommand loc ((argument values 0).text w.store)
      ((argument values 1).text w.store) w := by
  simp only [run, bind_of_ok (Run.textOf_apply _ w)]

end Contact

/-! ## Worlds and runs that are alike -/

/-- Procedures that agree but for their bodies, which are related. -/
structure Procedure.Alike (Q : Node → Node → Prop) (p q : Procedure) : Prop where
  name : q.name = p.name
  params : q.params = p.params
  body : Q p.body q.body

/-- Environments that agree in all that an expression can see, but for the bodies of procedures,
which are related. The frames further out may differ. -/
structure Environment.Alike (Q : Node → Node → Prop) (e d : Environment) : Prop where
  actor : d.actor = e.actor
  server : d.server = e.server
  frame : d.frame = e.frame
  aliases : d.aliases = e.aliases
  heard : d.heard = e.heard
  ran : d.ran = e.ran
  procedures : ∀ name,
    Option.Rel (Procedure.Alike Q) (e.procedures.get? name) (d.procedures.get? name)

/-- Worlds with the same arrays and alike environments. -/
structure World.Alike (Q : Node → Node → Prop) (w v : World) : Prop where
  env : w.env.Alike Q v.env
  store : v.store = w.store

section

variable {Q : Node → Node → Prop}

/-- An environment is like itself. -/
lemma Environment.Alike.refl (hQ : ∀ n, Q n n) (e : Environment) : e.Alike Q e := by
  refine ⟨rfl, rfl, rfl, rfl, rfl, rfl, fun name => ?_⟩
  cases e.procedures.get? name with
  | none => exact .none
  | some p => exact .some ⟨rfl, rfl, hQ _⟩

/-- A world is like itself. -/
lemma World.Alike.refl (hQ : ∀ n, Q n n) (w : World) : w.Alike Q w := ⟨.refl hQ w.env, rfl⟩

/-- Alike worlds are alike for every weaker relation between the bodies of procedures. -/
lemma World.Alike.mono {R : Node → Node → Prop} (hQR : ∀ n n', Q n n' → R n n') {w v : World}
    (h : w.Alike Q v) : w.Alike R v := by
  refine ⟨{ h.env with procedures := fun name => ?_ }, h.store⟩
  have hp := h.env.procedures name
  generalize w.env.procedures.get? name = p at hp ⊢
  generalize v.env.procedures.get? name = q at hp ⊢
  cases hp with
  | none => exact .none
  | some hp => exact .some { hp with body := hQR _ _ hp.body }

/-- Alike environments stay alike when the same script variable is bound. -/
lemma Environment.Alike.setIvar {e d : Environment} (h : e.Alike Q d) (name : String) (v : Value) :
    (e.setIvar name v).Alike Q (d.setIvar name v) :=
  { h with frame := by simp only [Environment.setIvar, h.frame] }

/-- Alike environments stay alike when the actor is sent the same message. -/
lemma Environment.Alike.send {e d : Environment} (h : e.Alike Q d) (message : String) :
    (e.send message).Alike Q (d.send message) := by
  have hd : d.actor.isSome = e.actor.isSome := by rw [h.actor]
  simp only [Environment.send, hd]
  split
  · exact { h with heard := by rw [h.heard] }
  · exact h

/-- Alike environments stay alike when alike procedures are defined. -/
lemma Environment.Alike.define {e d : Environment} (h : e.Alike Q d) {p q : Procedure}
    (hp : p.Alike Q q) : (e.define p).Alike Q (d.define q) := by
  refine { h with procedures := fun name => ?_ }
  simp only [Environment.define, Bindings.get?_insert, hp.name]
  split
  · exact .some hp
  · exact h.procedures name

end

namespace Run

variable {α β γ δ : Type} {Q : Node → Node → Prop}

/-- Two ends of runs are alike: both give values, which are related, or both stop in the same
way. -/
inductive EndsAlike (R : α → β → Prop) : Except Stop α → Except Stop β → Prop where
  | ok {a : α} {b : β} (h : R a b) : EndsAlike R (.ok a) (.ok b)
  | error (e : Stop) : EndsAlike R (.error e) (.error e)

/-- From alike worlds, `y` ends as `x` does, in alike worlds, unless `x` runs out of fuel. -/
def Simulates (Q : Node → Node → Prop) (R : α → β → Prop) (x : Run α) (y : Run β) : Prop :=
  ∀ w v, w.Alike Q v → (x w).1 = .error .outOfFuel ∨
    EndsAlike R (x w).1 (y v).1 ∧ (x w).2.Alike Q (y v).2

namespace Simulates

variable {R : α → β → Prop} {S : γ → δ → Prop}

/-- Two runs that change nothing do the same if they end alike. -/
lemma of_same {x : Run α} {y : Run β} (hx : ∀ w, (x w).2 = w) (hy : ∀ w, (y w).2 = w)
    (h : ∀ w v, w.Alike Q v → EndsAlike R (x w).1 (y v).1) : Simulates Q R x y := by
  intro w v hwv
  rw [hx w, hy v]
  exact .inr ⟨h w v hwv, hwv⟩

lemma pure {a : α} {b : β} (h : R a b) : Simulates Q R (pure a) (pure b) :=
  of_same (fun _ => rfl) (fun _ => rfl) fun _ _ _ => .ok h

lemma fail (loc : Location) (c : Cause) : Simulates Q R (fail loc c) (fail loc c) :=
  of_same (fun _ => rfl) (fun _ => rfl) fun _ _ _ => .error _

lemma raise (s : Signal) : Simulates Q R (raise s) (raise s) :=
  of_same (fun _ => rfl) (fun _ => rfl) fun _ _ _ => .error _

/-- Runs that do the same, followed by runs that do the same, do the same. -/
lemma bind {x : Run α} {y : Run β} {f : α → Run γ} {g : β → Run δ} (hx : Simulates Q R x y)
    (hf : ∀ a b, R a b → Simulates Q S (f a) (g b)) : Simulates Q S (x >>= f) (y >>= g) := by
  intro w v hwv
  have hends := hx w v hwv
  rcases hxw : x w with ⟨e | a, w'⟩
  · rw [bind_of_error hxw]
    rcases hyv : y v with ⟨d | b, v'⟩
    · rw [bind_of_error hyv]
      rw [hxw, hyv] at hends
      rcases hends with he | ⟨he, hw⟩
      · exact .inl (by cases he; rfl)
      · cases he
        exact .inr ⟨.error _, hw⟩
    · rw [hxw, hyv] at hends
      rcases hends with he | ⟨he, _⟩
      · exact .inl (by cases he; rfl)
      · cases he
  · rw [bind_of_ok hxw]
    rcases hyv : y v with ⟨d | b, v'⟩
    · rw [hxw, hyv] at hends
      rcases hends with he | ⟨he, _⟩ <;> cases he
    · rw [bind_of_ok hyv]
      rw [hxw, hyv] at hends
      rcases hends with he | ⟨he, hw⟩
      · cases he
      · cases he with
        | ok h => exact hf a b h w' v' hw

/-- A computation sees nothing but the arrays. -/
lemma ofCompute (c : Compute α) : Simulates Q Eq (ofCompute c) (ofCompute c) := by
  intro w v hwv
  simp only [Run.ofCompute, hwv.store]
  rcases c w.store with ⟨e | a, s⟩
  · exact .inr ⟨.error _, hwv.env, rfl⟩
  · exact .inr ⟨.ok rfl, hwv.env, rfl⟩

/-- Compiling sees nothing but the arrays. -/
lemma ofCompile (loc : Location) (c : Compile α) :
    Simulates Q Eq (ofCompile loc c) (ofCompile loc c) := by
  intro w v hwv
  simp only [Run.ofCompile, hwv.store]
  rcases c w.store with ⟨e | a, s⟩
  · exact .inr ⟨.error _, hwv.env, rfl⟩
  · exact .inr ⟨.ok rfl, hwv.env, rfl⟩

lemma env : Simulates Q (Environment.Alike Q) env env :=
  of_same (fun _ => rfl) (fun _ => rfl) fun _ _ h => .ok h.env

lemma get : Simulates Q (World.Alike Q) get get :=
  of_same (fun _ => rfl) (fun _ => rfl) fun _ _ h => .ok h

lemma textOf (v : Value) : Simulates Q Eq (textOf v) (textOf v) :=
  of_same (fun _ => rfl) (fun _ => rfl) fun w w' h => .ok (by rw [h.store])

lemma isTrue (v : Value) : Simulates Q Eq (isTrue v) (isTrue v) :=
  of_same (fun _ => rfl) (fun _ => rfl) fun w w' h => .ok (by rw [h.store])

/-- A change of the environment that keeps environments alike. -/
lemma modifyEnv {f g : Environment → Environment}
    (h : ∀ e d, e.Alike Q d → (f e).Alike Q (g d)) :
    Simulates Q Eq (modifyEnv f) (modifyEnv g) :=
  fun _ _ hwv => .inr ⟨.ok rfl, h _ _ hwv.env, hwv.store⟩

end Simulates

end Run

/-! ## Scripts -/

/-- The end of a script whose statement at a place halts: a cancel ends it normally, and everything
else is a failure. -/
def Halt.ending (h : Halt) (loc : Location) (last : Value) (texts : List String) (w : World) :
    Report × World :=
  match h with
  | .signal .cancel => finished last texts w
  | .signal s => failed (s.toFailure loc) w
  | .failure f => failed f w

/-- At most a message is sent where a script ends with a halt. -/
lemma Halt.ending_snd (h : Halt) (loc : Location) (last : Value) (texts : List String) (w : World) :
    (h.ending loc last texts w).2 = w ∨
      ∃ message, (h.ending loc last texts w).2 = { w with env := w.env.send message } := by
  cases h with
  | failure f => exact .inr ⟨f.text, rfl⟩
  | signal s =>
    cases s with
    | cancel => exact .inl rfl
    | breakLoop n => exact .inr ⟨_, rfl⟩
    | continueLoop => exact .inr ⟨_, rfl⟩
    | returnValue v => exact .inr ⟨_, rfl⟩

/-- A script that ends with a halt fails with the failure that halts it, or because of a signal. -/
lemma Halt.ending_error (h : Halt) (loc : Location) (last : Value) (texts : List String)
    (w : World) {f : Failure} (hf : (h.ending loc last texts w).1.result = .error f) :
    h = .failure f ∨ ∃ s : Signal, f = s.toFailure loc := by
  cases h with
  | failure g =>
    cases hf
    exact .inl rfl
  | signal s =>
    cases s with
    | cancel => cases hf
    | breakLoop n =>
      cases hf
      exact .inr ⟨_, rfl⟩
    | continueLoop =>
      cases hf
      exact .inr ⟨_, rfl⟩
    | returnValue v =>
      cases hf
      exact .inr ⟨_, rfl⟩

/-- The end of a script with a halt keeps the setting. -/
lemma Halt.ending_sameSetting (h : Halt) (loc : Location) (last : Value) (texts : List String)
    (w : World) : w.SameSetting (h.ending loc last texts w).2 := by
  rcases h.ending_snd loc last texts w with hw | ⟨message, hw⟩
  · rw [hw]
    exact .refl w
  · rw [hw]
    exact (Run.Quiet.send message).sameSetting w

/-- In alike worlds a script ends with a halt in the same way. -/
lemma Halt.ending_alike {Q : Node → Node → Prop} (h : Halt) (loc : Location) (last : Value)
    (texts : List String) {w v : World} (hwv : w.Alike Q v) :
    (h.ending loc last texts v).1 = (h.ending loc last texts w).1 ∧
      (h.ending loc last texts w).2.Alike Q (h.ending loc last texts v).2 := by
  have hfail : ∀ f : Failure, (failed f v).1 = (failed f w).1 ∧
      (failed f w).2.Alike Q (failed f v).2 := fun f => ⟨rfl, hwv.env.send f.text, hwv.store⟩
  cases h with
  | failure f => exact hfail f
  | signal s =>
    cases s with
    | cancel => exact ⟨rfl, hwv⟩
    | breakLoop n => exact hfail _
    | continueLoop => exact hfail _
    | returnValue a => exact hfail _

section

variable {ev : Node → Run Value} {n : Node} {w u : World} (ns : List Node) (last : Value)
  (texts : List String)

/-- A statement that gives a value is followed by the next one. -/
lemma executeFrom_of_ok {v : Value} (h : ev n w = (.ok v, u)) :
    executeFrom ev (n :: ns) last texts w =
      executeFrom ev ns v (if v.isVoid then texts else v.text u.store :: texts) u := by
  rw [executeFrom, h]

/-- The first statement that halts ends the script. -/
lemma executeFrom_of_halt {e : Halt} (h : ev n w = (.error (.halt e), u)) :
    executeFrom ev (n :: ns) last texts w = some (e.ending n.loc last texts u) := by
  rw [executeFrom, h]
  cases e with
  | failure f => rfl
  | signal s => cases s <;> rfl

/-- A script is out of fuel where a statement is. -/
lemma executeFrom_of_outOfFuel (h : ev n w = (.error .outOfFuel, u)) :
    executeFrom ev (n :: ns) last texts w = none := by
  rw [executeFrom, h]

end

/-- A script ends where its statements end, but for a message at most; and it fails as they do, or
because of a signal that nothing took up. -/
lemma executeFrom_outcome {ev : Node → Run Value} {nodes : List Node} {last : Value}
    {texts : List String} {w v : World} {report : Report}
    (h : executeFrom ev nodes last texts w = some (report, v)) :
    (v = (evalAll ev nodes w).2 ∨ ∃ message,
      v = { (evalAll ev nodes w).2 with env := (evalAll ev nodes w).2.env.send message }) ∧
    ∀ f, report.result = .error f →
      (evalAll ev nodes w).1 = .error (.halt (.failure f)) ∨
        ∃ loc, ∃ s : Signal, f = s.toFailure loc := by
  induction nodes generalizing last texts w with
  | nil =>
    obtain ⟨rfl, rfl⟩ := Prod.ext_iff.1 (Option.some.inj h)
    exact ⟨.inl rfl, by rintro f ⟨⟩⟩
  | cons n ns ih =>
    rcases hn : ev n w with ⟨(e | _) | a, u⟩
    · rw [executeFrom_of_halt ns last texts hn] at h
      obtain ⟨rfl, rfl⟩ := Prod.ext_iff.1 (Option.some.inj h)
      rw [evalAll, bind_of_error hn]
      refine ⟨e.ending_snd n.loc last texts u, fun f hf => ?_⟩
      rcases e.ending_error n.loc last texts u hf with rfl | hs
      · exact .inl rfl
      · exact .inr ⟨n.loc, hs⟩
    · rw [executeFrom_of_outOfFuel ns last texts hn] at h
      cases h
    · rw [executeFrom_of_ok ns last texts hn] at h
      have hrest := ih h
      rw [evalAll, bind_of_ok hn]
      rcases hns : evalAll ev ns u with ⟨e | as, t⟩
      · rw [bind_of_error hns]
        rwa [hns] at hrest
      · rw [bind_of_ok hns]
        rw [hns] at hrest
        refine ⟨hrest.1, fun f hf => (hrest.2 f hf).imp_left ?_⟩
        rintro ⟨⟩

end CommandScript
