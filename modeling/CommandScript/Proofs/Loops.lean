import CommandScript.Proofs.Levels
import CommandScript.Proofs.Moment
import CommandScript.Proofs.Termination
import Mathlib.Data.Nat.Find
import Mathlib.Logic.Function.Iterate

/-!
# Nested loops and breaks

A loop goes through stages. At each stage one of its parts is evaluated, and what comes out decides
what the next stage is, or how the loop ends. The evaluation of a loop is the run of its stages, and
the evaluations that it starts are those of its stages. In a nest of loops, where the body of each
is the next one, a break in the innermost body ends as many loops as it says, each at the stage
where it is; the loop around these goes on as after a round that came to its end. What stops another
part of a loop stops the loop as it is.

## Main definitions

* `CommandScript.Loop`, `CommandScript.Loop.around`, `CommandScript.Loop.nest` — loops without a
  body, around a body, and one in the other.
* `CommandScript.Loop.Stage`, `CommandScript.Loop.next` — the stages of a loop, and how one follows
  another.
* `CommandScript.Loop.Inside` — where the loops of a nest are while the innermost body is evaluated.

## Main results

* `CommandScript.Loop.ends_begin` — the evaluation of a loop is the run of its stages.
* `CommandScript.Loop.starts_iff` — the evaluations that a loop starts are those of its stages.
* `CommandScript.Loop.eval_nestOf` — how the loops of a nest end with a break.
* `CommandScript.Loop.break_leaves_loops` — what a break does to each loop of a nest.
-/

namespace CommandScript

open Library (builtin)

variable {why : String → Option String}

/-! ## Stages -/

/-- A loop without its body. -/
inductive Loop where
  /-- A loop with a condition. -/
  | forLoop (start condition step : Node) (loc : Location)
  /-- A loop over the cells of an array. -/
  | foreach (source target : Node) (loc : Location)

namespace Loop

/-- The place of a loop. -/
def loc : Loop → Location
  | forLoop _ _ _ loc => loc
  | foreach _ _ loc => loc

/-- A loop around a body. -/
def around (body : Node) : Loop → Node
  | forLoop start condition step loc => .call "for" [start, condition, step, body] loc
  | foreach source target loc => .call "foreach" [source, target, body] loc

/-- Loops one in the other, from the outermost on, around a body. -/
def nest (body : Node) : List Loop → Node
  | [] => body
  | l :: ls => l.around (nest body ls)

/-- The part of a loop that is evaluated next. Of a loop with a condition, it comes with the number
of rounds for which there is fuel, and of the other, with the values that are left. -/
inductive Stage where
  /-- The assignment, or the array. -/
  | first
  | condition (rounds : Nat)
  | step (rounds : Nat)
  | body (rounds : Nat)
  | element (rest : List Value)

/-- Whether the body of the loop is evaluated next. -/
def Stage.isBody : Stage → Bool
  | body _ | element _ => true
  | _ => false

/-- A loop that goes on with a stage, or one that has come to its end. -/
inductive State where
  | going (s : Stage) (w : World)
  | ended (r : Except Stop Value) (w : World)

/-- The expression that is evaluated at a stage of a loop. -/
def part (l : Loop) (body : Node) (s : Stage) : Node :=
  match l, s with
  | forLoop start _ _ _, .first => start
  | forLoop _ condition _ _, .condition _ => condition
  | forLoop _ _ step _, .step _ => step
  | foreach source _ _, .first => source
  | _, _ => body

/-- How a loop starts. One with a condition needs an assignment, and the other a variable. -/
def begin (l : Loop) (w : World) : State :=
  match l with
  | forLoop start _ _ _ =>
    match start with
    | .call "assign" _ _ => .going .first w
    | n => .ended (.error (.halt (.failure ⟨.notAssignment, n.loc⟩))) w
  | foreach _ target _ =>
    match target with
    | .ivar _ _ => .going .first w
    | n => .ended (.error (.halt (.failure ⟨.notIvar 2 Form.foreach.name, n.loc⟩))) w

/-- The next round of a loop with a condition, if there is fuel for it. -/
def nextRound (rounds : Nat) (w : World) : State :=
  match rounds with
  | 0 => .ended (.error .outOfFuel) w
  | rounds + 1 => .going (.condition rounds) w

/-- The next round of a loop over values, if there is one left. -/
def nextElement (l : Loop) (values : List Value) (w : World) : State :=
  match l, values with
  | foreach _ (.ivar name _) _, v :: rest =>
    .going (.element rest) { w with env := w.env.setIvar name v }
  | _, _ => .ended (.ok (.void l.loc)) w

/-- What follows a round. If the body comes to its end or continues, the loop goes on. A break for
one loop ends the loop normally, and one for more loops is passed on for one loop less. -/
def afterBody (l : Loop) (goOn : World → State) : Except Stop Value × World → State
  | (.ok _, w) => goOn w
  | (.error (.halt (.signal .continueLoop)), w) => goOn w
  | (.error (.halt (.signal (.breakLoop n))), w) =>
    if n ≤ 1 then .ended (.ok (.void l.loc)) w
    else .ended (.error (.halt (.signal (.breakLoop (n - 1))))) w
  | (.error e, w) => .ended (.error e) w

/-- What follows a stage of a loop with some fuel, given what came out of its part. -/
def follow (l : Loop) (fuel : Nat) (s : Stage) (out : Except Stop Value × World) : State :=
  match s, out with
  | .body rounds, out => l.afterBody (.going (.step rounds)) out
  | .element rest, out => l.afterBody (l.nextElement rest) out
  | _, (.error e, w) => .ended (.error e) w
  | .first, (.ok v, w) =>
    match l with
    | forLoop .. => nextRound fuel w
    | foreach _ _ loc =>
      match v.resolved with
      | .array r _ => l.nextElement (w.store.cells r).toList w
      | v => .ended (.error (.halt (.failure ⟨.notArray Form.foreach.name v.typeName, loc⟩))) w
  | .condition rounds, (.ok v, w) =>
    if v.isTrue w.store then .going (.body rounds) w else .ended (.ok (.void l.loc)) w
  | .step rounds, (.ok _, w) => nextRound rounds w

/-- One stage of a loop around a body, with some fuel, given the evaluation of its parts. -/
def next (ev : Node → Run Value) (fuel : Nat) (l : Loop) (body : Node) : State → State
  | .going s w => l.follow fuel s (ev (l.part body s) w)
  | .ended r w => .ended r w

/-- A loop comes to an end from a state: after some stages, as given. -/
def Ends (ev : Node → Run Value) (fuel : Nat) (l : Loop) (body : Node) (st : State)
    (out : Except Stop Value × World) : Prop :=
  ∃ k, (l.next ev fuel body)^[k] st = .ended out.1 out.2

variable {ev ev' : Node → Run Value} {fuel : Nat} {l : Loop} {body : Node} {s : Stage} {st : State}
  {w u : World} {out out' : Except Stop Value × World}

/-- A loop that has come to its end stays there. -/
lemma iterate_next_ended (k : Nat) (r : Except Stop Value) (w : World) :
    (l.next ev fuel body)^[k] (.ended r w) = .ended r w := by
  induction k with
  | zero => rfl
  | succ k ih => rw [Function.iterate_succ_apply, next, ih]

/-- The stages of a loop depend on the evaluations at the stages before only. -/
lemma iterate_next_congr {k : Nat}
    (h : ∀ j < k, ∀ s w, (l.next ev fuel body)^[j] st = .going s w →
      ev' (l.part body s) w = ev (l.part body s) w) :
    (l.next ev' fuel body)^[k] st = (l.next ev fuel body)^[k] st := by
  induction k with
  | zero => rfl
  | succ k ih =>
    rw [Function.iterate_succ_apply', Function.iterate_succ_apply', ih fun j hj => h j (by omega)]
    cases hst : (l.next ev fuel body)^[k] st with
    | ended r w => rfl
    | going s w => rw [next, next, h k (by omega) s w hst]

namespace Ends

/-- A loop comes to one end only. -/
lemma unique (h : Ends ev fuel l body st out) (h' : Ends ev fuel l body st out') : out = out' := by
  obtain ⟨k, hk⟩ := h
  obtain ⟨j, hj⟩ := h'
  have hkj : (l.next ev fuel body)^[j + k] st = .ended out.1 out.2 := by
    rw [Function.iterate_add_apply, hk, iterate_next_ended]
  have hjk : (l.next ev fuel body)^[k + j] st = .ended out'.1 out'.2 := by
    rw [Function.iterate_add_apply, hj, iterate_next_ended]
  rw [Nat.add_comm, hkj, State.ended.injEq] at hjk
  exact Prod.ext hjk.1 hjk.2

lemma ended (r : Except Stop Value) (w : World) : Ends ev fuel l body (.ended r w) (r, w) :=
  ⟨0, rfl⟩

/-- A loop ends as it does after one more stage. -/
lemma going (h : Ends ev fuel l body (l.follow fuel s (ev (l.part body s) w)) out) :
    Ends ev fuel l body (.going s w) out := by
  obtain ⟨k, hk⟩ := h
  exact ⟨k + 1, by rw [Function.iterate_succ_apply]; exact hk⟩

/-- A loop ends as it does after any number of stages. -/
lemma of_iterate (k : Nat) (h : Ends ev fuel l body ((l.next ev fuel body)^[k] st) out) :
    Ends ev fuel l body st out := by
  obtain ⟨j, hj⟩ := h
  exact ⟨j + k, by rw [Function.iterate_add_apply]; exact hj⟩

end Ends

/-! ## The evaluation of a loop is the run of its stages -/

/-- What follows a round is what the loop does with it. -/
lemma afterBody_eq (goOn : World → State) (x : Run Value) (w : World) :
    l.afterBody goOn (x w) =
      match Run.round x w with
      | (.ok true, u) => goOn u
      | (.ok false, u) => .ended (.ok (.void l.loc)) u
      | (.error e, u) => .ended (.error e) u := by
  unfold Run.round
  rcases x w with ⟨e | v, u⟩
  · rcases e with (_ | s) | _
    · rfl
    · cases s with
      | breakLoop n =>
        simp only [afterBody]
        by_cases hn : n ≤ 1 <;> simp only [hn, if_true, if_false]
      | _ => rfl
    · rfl
  · rfl

/-- The rounds of a loop with a condition are the run of its stages.

**Proof sketch.** By the number of rounds for which there is fuel. A round goes through the
condition, the body and the step, and each of them may be the last. -/
lemma ends_nextRound (start condition step : Node) (loc : Location) (rounds : Nat) (w : World) :
    Ends ev fuel (forLoop start condition step loc) body (nextRound rounds w)
      ((do
        Run.roundsWhile (ev condition) (ev step)
          (ev body) rounds
        return .void loc : Run Value) w) := by
  induction rounds generalizing w with
  | zero => exact .ended _ w
  | succ rounds ih =>
    refine .going ?_
    change Ends ev fuel _ body
      (follow _ fuel (.condition rounds) (ev condition w)) _
    rw [Run.roundsWhile, bind_assoc]
    rcases hcondition : ev condition w with ⟨e | v, u⟩
    · rw [bind_of_error hcondition]
      exact .ended _ u
    rw [bind_of_ok hcondition, bind_assoc]
    have htrue : Run.isTrue v u = (.ok (v.isTrue u.store), u) := rfl
    rw [bind_of_ok htrue]
    cases hv : v.isTrue u.store with
    | false =>
      simp only [follow, hv, Bool.false_eq_true, if_false]
      exact .ended _ u
    | true =>
      simp only [follow, hv, if_true, bind_assoc]
      refine .going ?_
      change Ends ev fuel _ body (afterBody _ _ (ev body u)) _
      rw [afterBody_eq]
      rcases hround : Run.round (ev body) u with ⟨e | goes, u'⟩
      · rw [bind_of_error hround]
        exact .ended _ u'
      rw [bind_of_ok hround]
      cases goes with
      | false => exact .ended _ u'
      | true =>
        refine .going ?_
        change Ends ev fuel _ body
          (follow _ fuel (.step rounds) (ev step u')) _
        simp only [if_true, bind_assoc]
        rcases hstep : ev step u' with ⟨e | v', u''⟩
        · rw [bind_of_error hstep]
          exact .ended _ u''
        · rw [bind_of_ok hstep]
          exact ih u''

/-- The rounds of a loop over values are the run of its stages. -/
lemma ends_nextElement (source : Node) (name : String) (l loc : Location) (values : List Value)
    (w : World) :
    Ends ev fuel (foreach source (.ivar name l) loc) body
      (nextElement (foreach source (.ivar name l) loc) values w)
      ((do
        Run.rounds (fun v => Run.modifyEnv (·.setIvar name v)) (ev body) values
        return .void loc : Run Value) w) := by
  induction values generalizing w with
  | nil => exact .ended _ w
  | cons v values ih =>
    refine .going ?_
    have hstore : Run.modifyEnv (·.setIvar name v) w =
        (.ok (), { w with env := w.env.setIvar name v }) := rfl
    rw [Run.rounds, bind_assoc, bind_of_ok hstore, bind_assoc]
    change Ends ev fuel _ body (afterBody _ _ (ev body _)) _
    rw [afterBody_eq]
    rcases hround : Run.round (ev body)
      { w with env := w.env.setIvar name v } with ⟨e | goes, u⟩
    · rw [bind_of_error hround]
      exact .ended _ u
    rw [bind_of_ok hround]
    cases goes with
    | false => exact .ended _ u
    | true => exact ih u

/-- A library whose loops are those of the language. -/
structure HasLoops (lib : Library) : Prop where
  forLoop : lib.find? "for" = some Builtin.forLoop
  foreach : lib.find? "foreach" = some Builtin.foreach

lemma hasLoops_builtin : HasLoops (builtin why) where
  forLoop := Library.find?_forLoop
  foreach := by
    rw [Library.find?_builtin]
    rfl

/-- A loop with a condition is the run of its stages. -/
lemma ends_runFor (start condition step : Node) (loc : Location) (w : World) :
    Ends ev fuel (forLoop start condition step loc) body
      (begin (forLoop start condition step loc) w)
      (Form.runFor ev fuel loc [start, condition, step, body] w) := by
  by_cases hstart : ∃ args at', start = .call "assign" args at'
  · obtain ⟨args, at', rfl⟩ := hstart
    refine .going ?_
    change Ends ev fuel _ body (follow _ fuel .first (ev (.call "assign" args at') w))
      ((ev (.call "assign" args at') >>= _) w)
    rcases hfirst : ev (.call "assign" args at') w with ⟨e | v, u⟩
    · rw [bind_of_error hfirst]
      exact .ended _ u
    · rw [bind_of_ok hfirst]
      exact ends_nextRound _ condition step loc fuel u
  · -- neither the loop nor its stages get further than the check
    have hbegin : begin (forLoop start condition step loc) w =
        .ended (.error (.halt (.failure ⟨.notAssignment, start.loc⟩))) w := by
      simp only [begin]
      split
      · exact absurd ⟨_, _, rfl⟩ hstart
      · rfl
    have hfail : Form.runFor ev fuel loc [start, condition, step, body] =
        Run.fail start.loc .notAssignment := by
      unfold Form.runFor
      change (match start with
        | .call "assign" _ _ => _
        | _ => Run.fail start.loc .notAssignment) = _
      split
      · exact absurd ⟨_, _, rfl⟩ hstart
      · rfl
    rw [hbegin, hfail]
    exact .ended _ w

/-- A loop over values is the run of its stages. -/
lemma ends_runForeach (source target : Node) (loc : Location) (w : World) :
    Ends ev fuel (foreach source target loc) body (begin (foreach source target loc) w)
      (Form.runForeach ev loc [source, target, body] w) := by
  cases target with
  | literal | var | call => exact .ended _ w
  | ivar name l =>
    refine .going ?_
    change Ends ev fuel _ body (follow _ fuel .first (ev source w)) ((ev source >>= _) w)
    rcases hfirst : ev source w with ⟨e | v, u⟩
    · rw [bind_of_error hfirst]
      exact .ended _ u
    · rw [bind_of_ok hfirst]
      simp only [follow]
      cases v.resolved with
      | array r l' => exact ends_nextElement source name l loc _ u
      | _ => exact .ended _ u

variable {lib : Library} {depth : Nat}

/-- The evaluation of a loop is the run of its stages. -/
lemma ends_begin (hlib : HasLoops lib) (ev : Evaluator) (fuel depth : Nat) (l : Loop) (body : Node)
    (w : World) :
    Ends (ev depth) fuel l body (l.begin w) (Node.step lib ev fuel depth (l.around body) w) := by
  cases l with
  | forLoop start condition step loc =>
    have hstep : Node.step lib ev fuel depth ((forLoop start condition step loc).around body) w =
        Form.runFor (ev depth) fuel loc [start, condition, step, body] w := by
      rw [around, Node.step, Node.runCall_apply rfl hlib.forLoop]
      rfl
    rw [hstep]
    exact ends_runFor start condition step loc w
  | foreach source target loc =>
    have hstep : Node.step lib ev fuel depth ((foreach source target loc).around body) w =
        Form.runForeach (ev depth) loc [source, target, body] w := by
      rw [around, Node.step, Node.runCall_apply rfl hlib.foreach]
      rfl
    rw [hstep]
    exact ends_runForeach source target loc w

/-- A loop that is over after a stage that it has reached ends so. -/
lemma eval_of_next (hlib : HasLoops lib) {k : Nat} {w' : World} {r : Except Stop Value}
    (hreach : (l.next (Node.eval lib fuel depth) fuel body)^[k] (l.begin w) = .going s w')
    (hnext : l.next (Node.eval lib fuel depth) fuel body (.going s w') = .ended r u) :
    Node.eval lib (fuel + 1) depth (l.around body) w = (r, u) := by
  refine (ends_begin hlib (Node.eval lib fuel) fuel depth l body w).unique (.of_iterate k ?_)
  rw [hreach]
  refine .going ?_
  change Ends _ fuel l body (l.next (Node.eval lib fuel depth) fuel body (.going s w')) (r, u)
  rw [hnext]
  exact .ended r u

/-- A stage whose part is out of fuel is the last. -/
lemma follow_outOfFuel : l.follow fuel s (.error .outOfFuel, u) = .ended (.error .outOfFuel) u := by
  cases s <;> rfl

/-- The evaluations that a loop starts are those of its stages.

**Proof sketch.** The evaluator that stops at a moment gives the same stages up to the one at that
moment, if there is one, and there the loop ends. Otherwise it gives the same stages throughout, and
the loop does not depend on where the evaluator would stop. -/
lemma starts_iff (hlib : HasLoops lib) {q : Moment} :
    Moment.Starts lib ⟨fuel + 1, depth, l.around body, w⟩ q ↔
      ∃ k s w', (l.next (Node.eval lib fuel depth) fuel body)^[k] (l.begin w) = .going s w' ∧
        q = ⟨fuel, depth, l.part body s, w'⟩ := by
  let ev := Node.eval lib fuel
  let AtMoment (j : Nat) : Prop := ∃ s w', (l.next (ev depth) fuel body)^[j] (l.begin w) =
    .going s w' ∧ depth = q.depth ∧ l.part body s = q.node ∧ w' = q.world
  have hsame : ∀ mark k, (∀ j < k, ¬ AtMoment j) →
      (l.next (ev.stopAt q mark depth) fuel body)^[k] (l.begin w) =
        (l.next (ev depth) fuel body)^[k] (l.begin w) := fun mark k hnone =>
    iterate_next_congr fun j hj s w' hs =>
      ev.stopAt_of_ne q mark fun hq => hnone j hj ⟨s, w', hs, hq⟩
  constructor
  · intro hstarts
    have hfuel : fuel = q.fuel := Nat.succ.inj hstarts.fuel
    by_contra hnone
    have hnever : ∀ j, ¬ AtMoment j := by
      rintro j ⟨s, w', hs, hdepth, hnode, hworld⟩
      exact hnone ⟨j, s, w', hs, by rw [hfuel, hdepth, hnode, hworld]⟩
    obtain ⟨k, hk⟩ := ends_begin hlib ev fuel depth l body w
    have hasks := hstarts.asks
    rw [← hfuel] at hasks
    obtain ⟨mark, hmark⟩ := hasks.exists_ne (Node.step lib ev fuel depth (l.around body) w)
    exact hmark ((ends_begin hlib (ev.stopAt q mark) fuel depth l body w).unique
      ⟨k, (hsame mark k fun j _ => hnever j).trans hk⟩)
  · intro hstage
    classical
    have hsome : ∃ j, AtMoment j := by
      obtain ⟨k, s, w', hs, rfl⟩ := hstage
      exact ⟨k, s, w', hs, rfl, rfl, rfl⟩
    have hfuel : q.fuel = fuel := by
      obtain ⟨k, s, w', hs, rfl⟩ := hstage
      rfl
    obtain ⟨s, w', hs, hdepth, hnode, hworld⟩ := Nat.find_spec hsome
    refine ⟨congrArg (· + 1) hfuel.symm, fun mark => ?_⟩
    have hstop : ev.stopAt q mark depth (l.part body s) w' = (.error .outOfFuel, mark) := by
      rw [hdepth, hnode, hworld]
      exact ev.stopAt_self q mark
    rw [hfuel]
    refine (ends_begin hlib (ev.stopAt q mark) fuel depth l body w).unique
      (.of_iterate (Nat.find hsome) ?_)
    rw [hsame mark _ fun j hj => Nat.find_min hsome hj, hs]
    refine .going ?_
    rw [hstop, follow_outOfFuel]
    exact .ended _ mark

/-! ## Nests of loops -/

/-- What stops a part of a loop other than its body stops the loop, as it is. -/
lemma follow_error (hs : s.isBody = false) (e : Stop) :
    l.follow fuel s (.error e, u) = .ended (.error e) u := by
  cases s with
  | body | element => cases hs
  | first | condition | step => rfl

/-- At the stage of its body, a loop evaluates its body. -/
lemma part_of_isBody (hs : s.isBody = true) : l.part body s = body := by
  cases s with
  | body | element => cases l <;> rfl
  | first | condition | step => cases hs

/-- A break that comes out of the body ends the loop, and is passed on if it is for more loops. -/
lemma follow_break (hs : s.isBody = true) (n : Nat) :
    l.follow fuel s (.error (.halt (.signal (.breakLoop n))), u) =
      if n ≤ 1 then .ended (.ok (.void l.loc)) u
      else .ended (.error (.halt (.signal (.breakLoop (n - 1))))) u := by
  cases s with
  | body | element => rfl
  | first | condition | step => cases hs

/-- After a round that came to its end, a loop goes on whatever the value of its body is. -/
lemma follow_ok (hs : s.isBody = true) (v v' : Value) :
    l.follow fuel s (.ok v, u) = l.follow fuel s (.ok v', u) := by
  cases s with
  | body | element => rfl
  | first | condition | step => cases hs

/-- A loop of a nest, the stage that it is at, and the world in which it evaluates its body. -/
structure Frame where
  loop : Loop
  stage : Stage
  world : World

/-- The nest of the loops of some frames, from the outermost on, around a body. -/
def nestOf (body : Node) (fs : List Frame) : Node := nest body (fs.map Frame.loop)

/-- What follows the stage of a loop of a nest around a body, where `inner` are the loops in it. The
body is evaluated with the given fuel. -/
def Frame.after (lib : Library) (fuel depth : Nat) (body : Node) (f : Frame) (inner : List Frame) :
    State :=
  f.loop.next (Node.eval lib (fuel + inner.length) depth) (fuel + inner.length) (nestOf body inner)
    (.going f.stage f.world)

/-- Where the loops of a nest are when the body is evaluated in the world `u`, after the nest was
started in the world `w`: each loop has reached the stage where it evaluates its body, which is the
nest of the loops in it. -/
def Inside (lib : Library) (fuel depth : Nat) (body : Node) : List Frame → (w u : World) → Prop
  | [], w, u => u = w
  | f :: inner, w, u => f.stage.isBody = true ∧
    (∃ k, (f.loop.next (Node.eval lib (fuel + inner.length) depth) (fuel + inner.length)
      (nestOf body inner))^[k] (f.loop.begin w) = .going f.stage f.world) ∧
    Inside lib fuel depth body inner f.world u

variable {fs inner : List Frame} {f : Frame} {n : Nat} {u₀ : World}

/-- The loops in one of a nest are a nest. -/
lemma Inside.of_append {outer : List Frame} (h : Inside lib fuel depth body (outer ++ fs) w u) :
    ∃ w', Inside lib fuel depth body fs w' u := by
  induction outer generalizing w with
  | nil => exact ⟨w, h⟩
  | cons f outer ih => exact ih h.2.2

/-- A loop around a nest follows up what comes out of the nest. -/
lemma after_eq (hs : f.stage.isBody = true) :
    f.after lib fuel depth body inner = f.loop.follow (fuel + inner.length) f.stage
      (Node.eval lib (fuel + inner.length) depth (nestOf body inner) f.world) := by
  rw [Frame.after, next, part_of_isBody hs]

/-- The loops of a nest end with a break, one after another from the innermost on.

**Proof sketch.** By the loops. The nest in a loop passes the break on to it, as long as the break
is for more loops than there are in the nest; the loop is at the stage of its body, and so it ends.
-/
lemma eval_nestOf (hlib : HasLoops lib) (hin : Inside lib fuel depth body fs w u₀)
    (hbreak : Node.eval lib fuel depth body u₀ =
      (.error (.halt (.signal (.breakLoop n))), u)) :
    (fs.length < n → Node.eval lib (fuel + fs.length) depth (nestOf body fs) w =
      (.error (.halt (.signal (.breakLoop (n - fs.length)))), u)) ∧
    ∀ f inner, fs = f :: inner → fs.length = n →
      Node.eval lib (fuel + fs.length) depth (nestOf body fs) w = (.ok (.void f.loop.loc), u) := by
  induction fs generalizing w with
  | nil =>
    obtain rfl := hin
    exact ⟨fun _ => hbreak, by simp⟩
  | cons f inner ih =>
    obtain ⟨hstage, ⟨k, hreach⟩, hrest⟩ := hin
    have hafter : inner.length < n → f.after lib fuel depth body inner =
        if n - inner.length ≤ 1 then .ended (.ok (.void f.loop.loc)) u
        else .ended (.error (.halt (.signal (.breakLoop (n - inner.length - 1))))) u := by
      intro hlt
      rw [after_eq hstage, (ih hrest).1 hlt, follow_break hstage]
    constructor
    · intro hlt
      rw [List.length_cons] at hlt ⊢
      have hmore : ¬ n - inner.length ≤ 1 := by omega
      have hover := hafter (by omega)
      rw [if_neg hmore, Nat.sub_sub] at hover
      exact eval_of_next hlib hreach hover
    · rintro _ _ ⟨rfl, rfl⟩ hlen
      rw [List.length_cons] at hlen ⊢
      have hover := hafter (by omega)
      rw [if_pos (by omega)] at hover
      exact eval_of_next hlib hreach hover

/-- A break for `n` loops ends the `n` innermost loops of a nest around it, each at the stage where
it is: the outermost of them normally, and the others with a break for as many loops as are left.
The loop around these goes on as after any round that came to its end. -/
lemma after_of_break (hlib : HasLoops lib) (hin : Inside lib fuel depth body fs w u₀)
    (hbreak : Node.eval lib fuel depth body u₀ = (.error (.halt (.signal (.breakLoop n))), u))
    {outer : List Frame} (hfs : fs = outer ++ f :: inner) :
    (inner.length + 1 < n → f.after lib fuel depth body inner =
      .ended (.error (.halt (.signal (.breakLoop (n - (inner.length + 1)))))) u) ∧
    (inner.length + 1 = n → f.after lib fuel depth body inner = .ended (.ok (.void f.loop.loc)) u) ∧
    (inner.length = n → 1 ≤ n → ∀ v, f.after lib fuel depth body inner =
      f.loop.follow (fuel + inner.length) f.stage (.ok v, u)) := by
  obtain ⟨w', hstage, -, hrest⟩ := (hfs ▸ hin).of_append
  obtain ⟨hfewer, hlast⟩ := eval_nestOf hlib hrest hbreak
  refine ⟨fun hlt => ?_, fun hlen => ?_, fun hlen hn v => ?_⟩
  · rw [after_eq hstage, hfewer (by omega), follow_break hstage, if_neg (by omega), Nat.sub_sub]
  · rw [after_eq hstage, hfewer (by omega), follow_break hstage, if_pos (by omega)]
  · cases inner with
    | nil => exact absurd hlen (by simp; omega)
    | cons g inner =>
      rw [after_eq hstage, hlast g inner rfl hlen]
      exact follow_ok hstage _ v

/-! ## The whole -/

/-- In a library with the loops of the language, where no computation breaks out of fewer than one
loop, the evaluation of a loop is the run of its stages, and it starts the evaluations of its stages
and no others. When the innermost body of a nest of loops halts with a break, the loops that it is
for end at once, and the one around them goes on as after a round that came to its end. A break for
all loops of the nest ends it normally, and one for more is left for the others. What stops another
part of a loop, be it a break or not, stops the loop as it is. Every break that an evaluation halts
with is for at least one loop. The library of the language is one of these, by `hasLoops_builtin`
and `Library.levelled_builtin`. -/
theorem break_leaves_loops (hlib : HasLoops lib) (hlevels : lib.HaltsIn Halt.Levelled)
    (fuel depth : Nat) :
    (∀ (l : Loop) (body : Node) (w : World),
      Ends (Node.eval lib fuel depth) fuel l body (l.begin w)
        (Node.eval lib (fuel + 1) depth (l.around body) w) ∧
      ∀ q, Moment.Starts lib ⟨fuel + 1, depth, l.around body, w⟩ q ↔
        ∃ k s w', (l.next (Node.eval lib fuel depth) fuel body)^[k] (l.begin w) = .going s w' ∧
          q = ⟨fuel, depth, l.part body s, w'⟩) ∧
    (∀ (body : Node) (fs : List Frame) (w u₀ u : World) (n : Nat),
      Inside lib fuel depth body fs w u₀ →
      Node.eval lib fuel depth body u₀ = (.error (.halt (.signal (.breakLoop n))), u) →
      (∀ outer f inner, fs = outer ++ f :: inner →
        (inner.length + 1 < n → f.after lib fuel depth body inner =
          .ended (.error (.halt (.signal (.breakLoop (n - (inner.length + 1)))))) u) ∧
        (inner.length + 1 = n →
          f.after lib fuel depth body inner = .ended (.ok (.void f.loop.loc)) u) ∧
        (inner.length = n → ∀ v, f.after lib fuel depth body inner =
          f.loop.follow (fuel + inner.length) f.stage (.ok v, u))) ∧
      (fs.length = n → ∃ l,
        Node.eval lib (fuel + fs.length) depth (nestOf body fs) w = (.ok (.void l), u)) ∧
      (fs.length < n → Node.eval lib (fuel + fs.length) depth (nestOf body fs) w =
        (.error (.halt (.signal (.breakLoop (n - fs.length)))), u))) ∧
    (∀ (l : Loop) (body : Node) (w w' u : World) (k : Nat) (s : Stage) (e : Stop),
      (l.next (Node.eval lib fuel depth) fuel body)^[k] (l.begin w) = .going s w' →
      s.isBody = false → Node.eval lib fuel depth (l.part body s) w' = (.error e, u) →
      Node.eval lib (fuel + 1) depth (l.around body) w = (.error e, u)) ∧
    (∀ (m : Node) (w : World) (n : Nat),
      (Node.eval lib fuel depth m w).1 = .error (.halt (.signal (.breakLoop n))) → 1 ≤ n) := by
  have hlevel : ∀ (m : Node) (w : World) (n : Nat),
      (Node.eval lib fuel depth m w).1 = .error (.halt (.signal (.breakLoop n))) → 1 ≤ n :=
    fun m w n h => (Node.eval_keeps hlevels fuel depth m w trivial).2 _ h
  refine ⟨fun l body w => ⟨ends_begin hlib _ fuel depth l body w, fun q => starts_iff hlib⟩, ?_, ?_,
    hlevel⟩
  · intro body fs w u₀ u n hin hbreak
    have hn : 1 ≤ n := hlevel body u₀ n (by rw [hbreak])
    obtain ⟨hfewer, hlast⟩ := eval_nestOf hlib hin hbreak
    refine ⟨fun outer f inner hfs => ?_, fun hlen => ?_, hfewer⟩
    · obtain ⟨hpassed, hends, hgoes⟩ := after_of_break hlib hin hbreak hfs
      exact ⟨hpassed, hends, fun hlen => hgoes hlen hn⟩
    · cases fs with
      | nil => exact absurd hlen (by simp; omega)
      | cons f inner => exact ⟨f.loop.loc, hlast f inner rfl hlen⟩
  · intro l body w w' u k s e hreach hs hpart
    refine eval_of_next hlib hreach ?_
    rw [next, hpart, follow_error hs]

/-- A loop over the cells of the first array. -/
def overFirst (name : String) : Loop :=
  foreach (.literal (.array 0 .unknown)) (.ivar name .unknown) .unknown

/-- A break for two loops. -/
def breakTwo : Node := .call "break" [.literal (.int 2 .unknown)] .unknown

/-- A world with an array of two cells. -/
def twoCells : World where
  store := ⟨#[#[.int 1 .unknown, .int 2 .unknown]]⟩

/-- A world in which some variables have the value of the first cell. -/
def atFirst (names : List String) : World :=
  { twoCells with
    env := names.foldl (fun e name => e.setIvar name (.int 1 .unknown)) twoCells.env }

/-- A loop over the cells of the first array in its first round, where some variables have the value
of the first cell. -/
def firstRound (name : String) (names : List String) : Frame :=
  ⟨overFirst name, .element [.int 2 .unknown], atFirst names⟩

lemma inside_firstRounds (lib : Library) (body : Node) :
    Inside lib 2 0 body
      [firstRound "a" ["a"], firstRound "b" ["a", "b"], firstRound "c" ["a", "b", "c"]] twoCells
      (atFirst ["a", "b", "c"]) :=
  ⟨rfl, ⟨1, rfl⟩, rfl, ⟨1, rfl⟩, rfl, ⟨1, rfl⟩, rfl⟩

lemma eval_breakTwo {lib : Library} (hbreak : lib.find? "break" = some Builtin.breakLoop)
    (w : World) :
    Node.eval lib 2 0 breakTwo w = (.error (.halt (.signal (.breakLoop 2))), w) := by
  rw [breakTwo, Node.eval_call, Node.runCall_apply rfl hbreak]
  rfl

/-- Of three loops in their first rounds, a break for two ends the inner ones, and the outermost one
goes on with its second round. -/
theorem break_leaves_loops_two_of_three :
    HasLoops builtin ∧ builtin.HaltsIn Halt.Levelled ∧
    (firstRound "c" ["a", "b", "c"]).after builtin 2 0 breakTwo [] =
      .ended (.error (.halt (.signal (.breakLoop 1)))) (atFirst ["a", "b", "c"]) ∧
    (firstRound "b" ["a", "b"]).after builtin 2 0 breakTwo [firstRound "c" ["a", "b", "c"]] =
      .ended (.ok (.void .unknown)) (atFirst ["a", "b", "c"]) ∧
    (firstRound "a" ["a"]).after builtin 2 0 breakTwo
        [firstRound "b" ["a", "b"], firstRound "c" ["a", "b", "c"]] =
      .going (.element []) { atFirst ["a", "b", "c"] with
        env := (atFirst ["a", "b", "c"]).env.setIvar "a" (.int 2 .unknown) } := by
  have hfind : builtin.find? "break" = some Builtin.breakLoop := by
    rw [Library.find?_builtin]
    rfl
  have hlevels : builtin.HaltsIn Halt.Levelled := Library.levelled_builtin
  obtain ⟨hafter, -⟩ := (break_leaves_loops hasLoops_builtin hlevels 2 0).2.1 breakTwo _ twoCells
    _ _ 2 (inside_firstRounds builtin breakTwo) (eval_breakTwo hfind _)
  have hinnermost :=
    (hafter [firstRound "a" ["a"], firstRound "b" ["a", "b"]] _ [] rfl).1 (by decide)
  have hmiddle := (hafter [firstRound "a" ["a"]] _ _ rfl).2.1 rfl
  have houtermost := (hafter [] _ _ rfl).2.2 rfl (.void .unknown)
  exact ⟨hasLoops_builtin, hlevels, hinnermost, hmiddle, houtermost⟩

end Loop

end CommandScript
