import CommandScript.Proofs.Builtin
import CommandScript.Proofs.Scope

/-!
# Commands need a privileged actor

Every command that a script makes the server run comes from a call of `runas` by a privileged actor,
for a player who is online at that time, and is what stands after the slash in the second argument.
So nothing is run for an actor without privilege.

## Main definitions

* `CommandScript.Run.AddsTo`, `CommandScript.Run.Grows` — a run that only adds to a record, such as
  what the server was asked to run.
* `CommandScript.Moment.Issues` — an evaluation that asks the server to run a command.
* `CommandScript.Library.evaluate` — the run of a text.
* `CommandScript.Visits` — the run of some statements comes to a moment.

## Main results

* `CommandScript.Layer.issued` — what is run during a layer without commands is run during one of
  the evaluations that it asks for.
* `CommandScript.Node.eval_issued` — where the commands of an evaluation come from.
* `CommandScript.Library.commands_of_evaluate` — where the commands of a script come from, and that
  there are none without privilege.
-/

namespace CommandScript

variable {why : String → Option String}

/-! ## What the server was asked to run only grows -/

/-- A run that only adds to a record of the environment. -/
def Run.AddsTo {α β : Type} (log : Environment → List β) (x : Run α) : Prop :=
  ∀ w : World, log w.env <+: log (x w).2.env

/-- A record that is no part of the frames, and that quiet runs and commands only add to. -/
structure Environment.IsLog {β : Type} (log : Environment → List β) : Prop where
  quiet : ∀ {α : Type} {x : Run α}, x.Quiet → x.AddsTo log
  command : ∀ loc values, (Contact.run .runas loc values).AddsTo log
  frames : ∀ e frame outer, log { e with frame := frame, outer := outer } = log e

/-- A run that only adds to what the server was asked to run. -/
def Run.Grows {α : Type} (x : Run α) : Prop :=
  x.AddsTo fun e => e.ran.toList

namespace Run.AddsTo

variable {α β γ : Type} {log : Environment → List γ}

/-- A run that leaves the record alone. -/
lemma of_same {x : Run α} (h : ∀ w : World, log (x w).2.env = log w.env) : x.AddsTo log := by
  intro w
  exact ⟨[], by rw [h w, List.append_nil]⟩

lemma bind {x : Run α} {f : α → Run β} (hx : x.AddsTo log) (hf : ∀ a, (f a).AddsTo log) :
    (x >>= f).AddsTo log := by
  intro w
  have hxw := hx w
  rcases h : x w with ⟨e | a, v⟩
  · rw [bind_of_error h]
    simpa only [h] using hxw
  · rw [bind_of_ok h]
    simp only [h] at hxw
    exact hxw.trans (hf a v)

/-- The frame of a procedure call has nothing to do with a record. -/
lemma log_inFrame (hlog : Environment.IsLog log) {setUp : Environment → Environment}
    (only : Environment.OnlyFrame setUp) (x : Run Value) (w : World) :
    log (setUp w.env.pushFrame) = log w.env ∧
      log (inFrame setUp x w).2.env = log (x { w with env := setUp w.env.pushFrame }).2.env := by
  obtain ⟨g, hg⟩ := only
  refine ⟨by rw [hg]; exact hlog.frames w.env _ _, ?_⟩
  rcases h : x { w with env := setUp w.env.pushFrame } with ⟨r, v⟩
  by_cases hr : r = .error .outOfFuel
  · subst hr
    rw [inFrame_of_outOfFuel h]
  · rw [inFrame_of_ne h hr]
    unfold Environment.popFrame
    split
    · rfl
    · exact hlog.frames v.env _ _

end Run.AddsTo

namespace Environment

/-- A command is added at the end of what the server was asked to run. -/
lemma isLog_ran : IsLog fun e => e.ran.toList where
  quiet h := .of_same fun w => by rw [h.ran w]
  command loc values w := by
    dsimp only
    rw [Contact.run_runas]
    obtain ⟨_, h⟩ | ⟨_, _, _, _, _, _, _, h⟩ := Contact.runCommand_apply loc
      ((argument values 0).text w.store) ((argument values 1).text w.store) w
    · exact ⟨[], by rw [h, List.append_nil]⟩
    · rw [h, Array.toList_push]
      exact List.prefix_append _ _
  frames _ _ _ := rfl

/-- Commands have nothing to do with what the actor was sent. -/
lemma isLog_heard : IsLog fun e => e.heard.toList where
  quiet h := h.heard
  command loc values := .of_same fun w => by
    rw [Contact.run_runas]
    obtain ⟨_, h⟩ | ⟨_, _, _, _, _, _, _, h⟩ := Contact.runCommand_apply loc
      ((argument values 0).text w.store) ((argument values 1).text w.store) w
    · rw [h]
    · rw [h]
  frames _ _ _ := rfl

end Environment

section

variable {C : Prop} {H : Halt → Prop} {Q : Node → Node → Prop} {depth : Nat} {α β γ : Type}
  {R : α → β → Prop}
  {x : Evaluator → Run α} {y : Evaluator → Run β} {ev : Evaluator} {log : Environment → List γ}

/-- A layer only adds to a record if the evaluator that it asks does. -/
lemma Layer.addsTo (h : Layer C H Q depth R x y) (hlog : Environment.IsLog log)
    (hev : ∀ d n, (ev d n).AddsTo log) : (x ev).AddsTo log := by
  induction h with
  | act quiet => exact hlog.quiet quiet
  | spent => exact .of_same fun w => rfl
  | command _ loc values => exact hlog.command loc values
  | ask => exact hev _ _
  | enter => exact hev _ _
  | inFrame _ only =>
    intro w
    obtain ⟨hin, hout⟩ := Run.AddsTo.log_inFrame hlog only (ev (depth + 1) _) w
    rw [hout, ← hin]
    exact hev (depth + 1) _ { w with env := _ }
  | bind total _ _ ihx ihf =>
    refine ihx.bind fun a => ?_
    obtain ⟨b, hb⟩ := total a
    exact ihf a b hb
  | round _ ih => exact fun w => by simpa only [Run.round_snd] using ih w
  | settle loc _ ih => exact fun w => by simpa only [Run.settle_snd] using ih w

/-- A layer only adds commands if the evaluator that it asks does. -/
lemma Layer.grows (h : Layer C H Q depth R x y) (hev : ∀ d n, (ev d n).Grows) : (x ev).Grows :=
  h.addsTo Environment.isLog_ran hev

/-- Evaluation only adds to a record. -/
lemma Node.eval_addsTo (hlog : Environment.IsLog log) (lib : Library) (fuel : Nat) :
    ∀ depth n, (eval lib fuel depth n).AddsTo log := by
  induction fuel with
  | zero => exact fun _ _ => .of_same fun _ => rfl
  | succ fuel ih =>
    exact fun depth n => (step_layer_self lib.haltsIn_any fuel depth n).addsTo hlog ih

/-- Evaluation only adds commands. -/
lemma Node.eval_grows (lib : Library) (fuel : Nat) : ∀ depth n, (eval lib fuel depth n).Grows :=
  eval_addsTo Environment.isLog_ran lib fuel

/-! ## Where commands come from -/

/-- A command is not among those before it. -/
lemma World.not_concat_prefix {w : World} {before : List Command}
    (hw : w.env.ran.size ≤ before.length) (c : Command) :
    ¬ before ++ [c] <+: w.env.ran.toList := by
  intro hpre
  have hlen : before.length + 1 ≤ w.env.ran.size := by simpa using hpre.length_le
  omega

/-- Two runs one after another ask for what the second one asks for. -/
lemma Layer.asks_bind (h : Layer C H Q depth R x y) {γ : Type} {f : Evaluator → α → Run γ}
    {w v : World} {a : α} (hx : x ev w = (.ok a, v)) {q : Moment}
    (hask : Asks (fun ev => f ev a) ev v q) :
    Asks (fun ev => x ev >>= f ev) ev w q := by
  intro mark
  rcases h.asks_or ev w q with hfirst | hsame
  · exact bind_of_error (hfirst mark)
  · exact (bind_of_ok ((hsame mark).trans hx)).trans (hask mark)

/-- A command that was added during a layer without commands was added during one of the evaluations
that the layer asks for.

**Proof sketch.** By the building blocks, none of which but a question adds commands. Of two runs
one after another the first has added the command if it is among those that the first has left, and
else the second has. -/
lemma Layer.issued (h : Layer False H Q depth R x y) (hev : ∀ d n, (ev d n).Grows) (fuel : Nat)
    {w : World} {before : List Command} {c : Command} (hw : w.env.ran.size ≤ before.length)
    (hc : before ++ [c] <+: (x ev w).2.env.ran.toList) :
    ∃ q : Moment, q.fuel = fuel ∧ Asks x ev w q ∧ q.world.env.ran.size ≤ before.length ∧
      before ++ [c] <+: (ev q.depth q.node q.world).2.env.ran.toList := by
  induction h generalizing w with
  | act quiet =>
    rw [quiet.ran w] at hc
    exact absurd hc (World.not_concat_prefix hw c)
  | spent => exact absurd hc (World.not_concat_prefix hw c)
  | command allowed => exact allowed.elim
  | @ask n n' =>
    exact ⟨⟨fuel, depth, n, w⟩, rfl, fun mark => ev.stopAt_self ⟨fuel, depth, n, w⟩ mark, hw, hc⟩
  | @enter n n' =>
    exact ⟨⟨fuel, depth + 1, n, w⟩, rfl, fun mark => ev.stopAt_self ⟨fuel, depth + 1, n, w⟩ mark,
      hw, hc⟩
  | @inFrame n n' setUp _ only =>
    obtain ⟨hin, hout⟩ := Run.AddsTo.log_inFrame Environment.isLog_ran only (ev (depth + 1) n) w
    rw [hout] at hc
    refine ⟨⟨fuel, depth + 1, n, { w with env := setUp w.env.pushFrame }⟩, rfl, fun mark => ?_, ?_,
      hc⟩
    · exact Run.inFrame_of_outOfFuel (ev.stopAt_self ⟨fuel, depth + 1, n, _⟩ mark)
    · rw [Array.toList_inj.1 hin]
      exact hw
  | @bind _ _ _ _ _ _ x y f g total hx hf ihx ihf =>
    rcases hxw : x ev w with ⟨e | a, v⟩
    · have hstop : (x ev >>= f ev) w = (.error e, v) := bind_of_error hxw
      simp only [hstop] at hc
      obtain ⟨q, hfuel, hask, hq⟩ := ihx hw (by simpa only [hxw] using hc)
      exact ⟨q, hfuel, fun mark => bind_of_error (hask mark), hq⟩
    · have hgo : (x ev >>= f ev) w = f ev a v := bind_of_ok hxw
      simp only [hgo] at hc
      obtain ⟨b, hb⟩ := total a
      by_cases hv : v.env.ran.size ≤ before.length
      · obtain ⟨q, hfuel, hask, hq⟩ := ihf a b hb hv hc
        exact ⟨q, hfuel, hx.asks_bind hxw hask, hq⟩
      · -- the command is among those that the first run has left
        have hgrow : v.env.ran.toList <+: (f ev a v).2.env.ran.toList := (hf a b hb).grows hev v
        have hcv : before ++ [c] <+: v.env.ran.toList := by
          refine List.prefix_of_prefix_length_le hc hgrow ?_
          have hlen : before.length + 1 ≤ v.env.ran.size := by omega
          simpa using hlen
        obtain ⟨q, hfuel, hask, hq⟩ := ihx hw (by simpa only [hxw] using hcv)
        exact ⟨q, hfuel, fun mark => bind_of_error (hask mark), hq⟩
  | round _ ih =>
    rw [Run.round_snd] at hc
    obtain ⟨q, hfuel, hask, hq⟩ := ih hw hc
    exact ⟨q, hfuel, fun mark => Run.round_of_outOfFuel (hask mark), hq⟩
  | settle loc _ ih =>
    rw [Run.settle_snd] at hc
    obtain ⟨q, hfuel, hask, hq⟩ := ih hw hc
    exact ⟨q, hfuel, fun mark => Run.settle_of_outOfFuel loc (hask mark), hq⟩

end

/-- An evaluation that asks the server to run the command `c`, after the commands `before`: a call
of `runas` by a privileged actor. After its arguments were evaluated, the first of them spells a
player who is online, and the second one a slash followed by the command. -/
inductive Moment.Issues (lib : Library) (before : List Command) (c : Command) : Moment → Prop where
  | runas {fuel depth : Nat} {args : List Node} {loc : Location} {u v : World}
    {values : List Value} {server : Server} (privileged : u.env.privileged = true)
    (evaluated : evalResolved (Node.eval lib fuel depth) args u = (.ok values, v))
    (ran : v.env.ran.toList = before) (server_eq : v.env.server = some server)
    (player : (argument values 0).text v.store = c.player)
    (online : server.online v.env.ran c.player = true)
    (slash : (argument values 1).text v.store = "/" ++ c.text) :
    Issues lib before c ⟨fuel + 1, depth, .call "runas" args loc, u⟩

namespace Node

variable {lib : Library} {before : List Command} {c : Command}

/-- A command that was added while `runas` did its work was added while its arguments were
evaluated, or it is the one that they tell. -/
lemma runas_issued (fuel depth : Nat) (args : List Node) (loc : Location) {u : World}
    (hu : u.env.ran.size ≤ before.length) (hpriv : u.env.privileged = true)
    (hc : before ++ [c] <+: ((evalResolved (eval lib fuel depth) args >>=
      Contact.run .runas loc) u).2.env.ran.toList) :
    (∃ q : Moment, q.fuel = fuel ∧
      Asks (fun ev => evalResolved (ev depth) args) (eval lib fuel) u q ∧
      q.world.env.ran.size ≤ before.length ∧
      before ++ [c] <+: (eval lib fuel q.depth q.node q.world).2.env.ran.toList) ∨
    Moment.Issues lib before c ⟨fuel + 1, depth, call "runas" args loc, u⟩ := by
  have hlayer : Layer False Halt.Any Eq depth Eq (fun ev => evalResolved (ev depth) args)
      (fun ev => evalResolved (ev depth) args) :=
    .evalResolved (List.forall₂_same.2 fun _ _ => rfl)
  rcases hargs : evalResolved (eval lib fuel depth) args u with ⟨e | values, v⟩
  · rw [bind_of_error hargs] at hc
    exact .inl (hlayer.issued (eval_grows lib fuel) fuel hu (by simpa only [hargs] using hc))
  · rw [bind_of_ok hargs, Contact.run_runas] at hc
    by_cases hcv : before ++ [c] <+: v.env.ran.toList
    · exact .inl (hlayer.issued (eval_grows lib fuel) fuel hu (by simpa only [hargs] using hcv))
    · obtain ⟨_, hrun⟩ | ⟨server, text, r, hserver, htext, honline, _, hrun⟩ :=
        Contact.runCommand_apply loc ((argument values 0).text v.store)
          ((argument values 1).text v.store) v
      · rw [hrun] at hc
        exact absurd hc hcv
      · rw [hrun, Array.toList_push] at hc
        rcases List.prefix_concat_iff.1 hc with heq | hpre
        · obtain ⟨rfl, hlast⟩ := List.append_inj' heq rfl
          obtain rfl := List.singleton_inj.1 hlast
          refine .inr (.runas hpriv hargs rfl hserver rfl honline ?_)
          rw [← String.toList_inj, htext, String.toList_append]
          show '/' :: text = '/' :: (String.ofList text).toList
          rw [String.toList_ofList]
        · exact absurd hpre hcv

/-- Every command that was added during an evaluation comes from a call of `runas` that the
evaluation reaches, if commands are run by that function only, and it is restricted.

**Proof sketch.** By induction on the fuel. A layer that is no command adds a command only while it
evaluates another expression, and reaches what that one reaches. A call of `runas` looks at the
privilege of the actor first; then it evaluates its arguments, and then runs the command. -/
lemma eval_issued (hlib : ∀ name e, lib.find? name = some e → e.behaviour = .contact .runas →
      name = "runas" ∧ e.restricted = true) {fuel depth : Nat} {n : Node} {w : World}
    (hw : w.env.ran.size ≤ before.length)
    (hc : before ++ [c] <+: (eval lib fuel depth n w).2.env.ran.toList) :
    ∃ q, Moment.Reaches lib ⟨fuel, depth, n, w⟩ q ∧ q.Issues lib before c := by
  induction fuel generalizing depth n w with
  | zero => exact absurd hc (World.not_concat_prefix hw c)
  | succ fuel ih =>
    have hnone := World.not_concat_prefix hw c
    -- what a part reaches, the whole reaches
    have hpart : ∀ q : Moment, q.fuel = fuel →
        Asks (fun ev => step lib ev fuel depth n) (eval lib fuel) w q →
        q.world.env.ran.size ≤ before.length →
        before ++ [c] <+: (eval lib fuel q.depth q.node q.world).2.env.ran.toList →
        ∃ p, Moment.Reaches lib ⟨fuel + 1, depth, n, w⟩ p ∧ p.Issues lib before c := by
      rintro q rfl hask hq hcq
      obtain ⟨p, hreach, hissue⟩ := ih hq hcq
      exact ⟨p, .head ⟨rfl, hask⟩ hreach, hissue⟩
    by_cases hn : n.IsCommand lib
    · cases n with
      | call name args loc =>
        obtain ⟨hp, e, he, hb⟩ := hn
        obtain ⟨rfl, hr⟩ := hlib name e he hb
        have hstep : ∀ ev, step lib ev fuel depth (call "runas" args loc) w =
            if e.arity.accepts args.length then
              if w.env.privileged then
                (evalResolved (ev depth) args >>= Contact.run .runas loc) w
              else (.error (.halt (.failure ⟨.notPermitted "runas", loc⟩)), w)
            else (.error (.halt (.failure ⟨.wrongCount "runas" e.arity args.length, loc⟩)), w) := by
          intro ev
          refine (runCall_apply hp he ev fuel depth args loc w).trans ?_
          rw [hr, hb]
          cases w.env.privileged <;> rfl
        rw [show eval lib (fuel + 1) depth (call "runas" args loc) w = _ from hstep _] at hc
        by_cases ha : e.arity.accepts args.length = true
        · by_cases hpriv : w.env.privileged = true
          · simp only [ha, hpriv, if_true] at hc hstep
            obtain ⟨q, hfuel, hask, hq, hcq⟩ | hissue :=
              runas_issued fuel depth args loc hw hpriv hc
            · refine hpart q hfuel (fun mark => ?_) hq hcq
              exact (hstep _).trans (bind_of_error (hask mark))
            · exact ⟨_, .refl, hissue⟩
          · simp only [ha, hpriv, if_true] at hc
            exact absurd hc hnone
        · simp only [ha] at hc
          exact absurd hc hnone
      | literal _ => exact hn.elim
      | ivar _ _ => exact hn.elim
      | var _ _ => exact hn.elim
    · have hlayer : Layer False Halt.Any Eq depth Eq (fun ev => step lib ev fuel depth n)
          (fun ev => step lib ev fuel depth n) :=
        step_layer congruence_eq lib.haltsIn_any (Nat.le_refl fuel)
          (similar_refl (fun _ => rfl) n) hn
      obtain ⟨q, hfuel, hask, hq, hcq⟩ := hlayer.issued (eval_grows lib fuel) fuel hw hc
      exact hpart q hfuel hask hq hcq

end Node

/-! ## Whole scripts -/

/-- The run of a text as a script: it is compiled, and its statements are evaluated one after
another until one of them stops. -/
def Library.evaluate (lib : Library) (fuel : Nat) (folding : Bool) (text : String)
    (source : Option String) : Run (List Value) := do
  let nodes ← Run.ofCompile .unknown (lib.compile folding text source)
  evalAll (Node.eval lib fuel 0) nodes

/-- The run of some statements comes to a moment. -/
def Visits (lib : Library) (fuel : Nat) (nodes : List Node) (w : World) (q : Moment) : Prop :=
  ∃ p : Moment, p.fuel = fuel ∧
    Asks (fun ev => evalAll (ev 0) nodes) (Node.eval lib fuel) w p ∧ Moment.Reaches lib p q

/-- The run of some statements is a layer without commands. -/
lemma layer_evalAll (nodes : List Node) :
    Layer False Halt.Any Eq 0 Eq (fun ev => evalAll (ev 0) nodes)
      (fun ev => evalAll (ev 0) nodes) :=
  .evalAll (List.forall₂_same.2 fun _ _ => rfl)

/-- The actor is the same all the time. -/
lemma Visits.actor {lib : Library} {fuel : Nat} {nodes : List Node} {w : World} {q : Moment}
    (h : Visits lib fuel nodes w q) : q.world.env.actor = w.env.actor := by
  obtain ⟨p, -, hask, hreach⟩ := h
  have hp := (layer_evalAll nodes).within_of_asks hask (.refl p.world)
  exact hreach.within.actor.trans hp.actor

/-- A script that comes to an end has asked the server for what its statements asked for. -/
lemma executeFrom_ran {ev : Node → Run Value} {nodes : List Node} {last : Value}
    {texts : List String} {w v : World} {report : Report}
    (h : executeFrom ev nodes last texts w = some (report, v)) :
    v.env.ran = (evalAll ev nodes w).2.env.ran := by
  rcases (executeFrom_outcome h).1 with rfl | ⟨message, rfl⟩
  · rfl
  · exact (Run.Quiet.send message).ran (evalAll ev nodes w).2

/-- Where the commands of some statements come from. -/
lemma evalAll_issued {lib : Library} (hlib : ∀ name e, lib.find? name = some e →
      e.behaviour = .contact .runas → name = "runas" ∧ e.restricted = true) {fuel : Nat}
    {nodes : List Node} {w : World} {before : List Command} {c : Command}
    (hw : w.env.ran.size ≤ before.length)
    (hc : before ++ [c] <+: (evalAll (Node.eval lib fuel 0) nodes w).2.env.ran.toList) :
    ∃ q, Visits lib fuel nodes w q ∧ q.Issues lib before c := by
  obtain ⟨p, rfl, hask, hp, hcp⟩ :=
    (layer_evalAll nodes).issued (Node.eval_grows lib fuel) fuel hw hc
  obtain ⟨q, hreach, hissue⟩ := Node.eval_issued hlib hp hcp
  exact ⟨q, ⟨p, rfl, hask, hreach⟩, hissue⟩

/-- Without privilege some statements add no command: the first one that they add would come from a
privileged actor, and the actor is the same all the time. -/
lemma evalAll_unprivileged {lib : Library} (hlib : ∀ name e, lib.find? name = some e →
      e.behaviour = .contact .runas → name = "runas" ∧ e.restricted = true) {fuel : Nat}
    {nodes : List Node} {w : World} (hpriv : w.env.privileged = false) :
    (evalAll (Node.eval lib fuel 0) nodes w).2.env.ran = w.env.ran := by
  obtain ⟨added, hadded⟩ := (layer_evalAll nodes).grows (Node.eval_grows lib fuel) w
  cases added with
  | nil =>
    rw [List.append_nil] at hadded
    exact (Array.toList_inj.1 hadded).symm
  | cons c rest =>
    have hc : w.env.ran.toList ++ [c] <+:
        (evalAll (Node.eval lib fuel 0) nodes w).2.env.ran.toList := by
      refine ⟨rest, ?_⟩
      rw [List.append_assoc]
      exact hadded
    obtain ⟨q, hvisit, hissue⟩ := evalAll_issued hlib (by simp) hc
    cases hissue with
    | runas hq =>
      have hactor := hvisit.actor
      simp only [Environment.privileged] at hq hpriv hactor
      rw [hactor, hpriv] at hq
      exact absurd hq (by decide)

namespace Library

/-- A text that does not compile is not run. -/
lemma evaluate_of_error {lib : Library} {fuel : Nat} {folding : Bool} {text : String}
    {source : Option String} {w : World} {e : CompileError} {s : Store}
    (h : lib.compile folding text source w.store = (.error e, s)) :
    (lib.evaluate fuel folding text source w).2 = { w with store := s } := by
  rw [evaluate, bind_of_error (Run.ofCompile_of_error .unknown h)]

/-- A text that compiles is run statement by statement. -/
lemma evaluate_of_ok {lib : Library} {fuel : Nat} {folding : Bool} {text : String}
    {source : Option String} {w : World} {nodes : List Node} {s : Store}
    (h : lib.compile folding text source w.store = (.ok nodes, s)) :
    lib.evaluate fuel folding text source w =
      evalAll (Node.eval lib fuel 0) nodes { w with store := s } := by
  rw [evaluate, bind_of_ok (Run.ofCompile_of_ok .unknown h)]

/-- Commands need a privileged actor.

The run of a text adds commands at the end of those that the server was asked to run before. For an
actor without privilege, or without an actor, it adds none. In any case each command that it adds
comes from a call of `runas` by a privileged actor at a moment of the run, for a player who was
online, from an argument that was a slash followed by the command. The fuel is arbitrary, so that
all this holds wherever a run is cut off; and a script that comes to an end has asked the server for
nothing else. -/
theorem commands_of_evaluate (fuel : Nat) (folding : Bool) (text : String)
    (source : Option String) (w : World) :
    w.env.ran.toList <+: ((builtin why).evaluate fuel folding text source w).2.env.ran.toList ∧
    (w.env.privileged = false →
      ((builtin why).evaluate fuel folding text source w).2.env.ran = w.env.ran) ∧
    (∀ before c, w.env.ran.size ≤ before.length →
      before ++ [c] <+: ((builtin why).evaluate fuel folding text source w).2.env.ran.toList →
      ∃ nodes s q, (builtin why).compile folding text source w.store = (.ok nodes, s) ∧
        Visits (builtin why) fuel nodes { w with store := s } q ∧ q.Issues (builtin why) before c) ∧
    ∀ nodes s report v, (builtin why).compile folding text source w.store = (.ok nodes, s) →
      execute (builtin why) fuel nodes { w with store := s } = some (report, v) →
      v.env.ran = ((builtin why).evaluate fuel folding text source w).2.env.ran := by
  have hlib : ∀ name e, (builtin why).find? name = some e → e.behaviour = .contact .runas →
      name = "runas" ∧ e.restricted = true := fun _ _ he hb => builtin_runas he hb
  rcases hcomp : (builtin why).compile folding text source w.store with ⟨e | nodes, s⟩
  · rw [evaluate_of_error hcomp]
    refine ⟨List.prefix_refl _, fun _ => rfl, fun before c hw hc => ?_,
      fun nodes s report v h => ?_⟩
    · exact absurd hc (World.not_concat_prefix hw c)
    · cases h
  · rw [evaluate_of_ok hcomp]
    refine ⟨?_, fun hpriv => ?_, fun before c hw hc => ?_, ?_⟩
    · exact (layer_evalAll nodes).grows (Node.eval_grows (builtin why) fuel) { w with store := s }
    · exact evalAll_unprivileged hlib hpriv
    · obtain ⟨q, hvisit, hissue⟩ := evalAll_issued hlib (w := { w with store := s }) hw hc
      exact ⟨nodes, s, q, rfl, hvisit, hissue⟩
    · rintro _ _ report v ⟨⟩ hv
      exact executeFrom_ran hv

end Library

end CommandScript
