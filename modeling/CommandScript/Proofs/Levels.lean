import CommandScript.Proofs.Halts
import CommandScript.Proofs.Layer

/-!
# The levels of breaks

Special forms, contacts and procedure calls halt with failures, with the end of the script, and with
what they pass on. So evaluation halts as the computations of its library do. A break says how many
loops it leaves. The number that a script gives has to be positive, and a loop that passes a break
on takes one off only if more than one is left. So whatever an evaluation does, a break that comes
out of it is for at least one loop.

## Main definitions

* `CommandScript.Halt.Levelled` — a halt that, if it is a break, is for at least one loop.

## Main results

* `CommandScript.Layer.keeps` — a layer halts as its own runs and the evaluator do.
* `CommandScript.Node.eval_keeps` — evaluation halts as the computations of the library do.
* `CommandScript.Library.levelled_builtin` — the breaks of the functions of the language are for at
  least one loop.
-/

namespace CommandScript

open Library (builtin)

variable {why : String → Option String}

/-! ## Evaluation halts as computations do -/

/-- A layer halts in some ways only, if its own runs and the evaluator do.

**Proof sketch.** By the building blocks. A command fails at most, a loop passes a break on for one
loop less, and a procedure call turns a signal for loops into a failure. -/
lemma Layer.keeps {C : Prop} {H : Halt → Prop} [Halt.Closed H] {Q : Node → Node → Prop}
    {depth : Nat} {α β : Type} {R : α → β → Prop} {x : Evaluator → Run α} {y : Evaluator → Run β}
    (h : Layer C H Q depth R x y) {ev : Evaluator}
    (hev : ∀ d n, (ev d n).Keeps (fun _ => True) H) : (x ev).Keeps (fun _ => True) H := by
  induction h with
  | act _ _ keeps => exact keeps
  | spent => exact .outOfFuel
  | command _ loc values =>
    have hruns : (Contact.run .runas loc values).Keeps (fun _ => True)
        (Halt.In [.format, .nullPointer] none) := Contact.keeps_runas loc values
    refine hruns.mono fun halt hin => ?_
    cases halt with
    | failure f => exact Halt.Closed.failure f
    | signal s => cases hin
  | ask => exact hev _ _
  | enter => exact hev _ _
  | inFrame _ only =>
    obtain ⟨g, hg⟩ := only
    exact .inFrame (fun e => by rw [hg]) (hev _ _)
  | bind total _ _ ihx ihf =>
    refine .bind ihx fun a => ?_
    obtain ⟨b, hb⟩ := total a
    exact ihf a b hb
  | round _ ih => exact .round Halt.Closed.fewer ih
  | settle loc _ ih => exact .settle (fun _ => Halt.Closed.failure _) ih

/-- Evaluation halts in the ways in which the computations of the library do. -/
lemma Node.eval_keeps {H : Halt → Prop} [Halt.Closed H] {lib : Library} (hlib : lib.HaltsIn H)
    (fuel depth : Nat) (n : Node) : (eval lib fuel depth n).Keeps (fun _ => True) H := by
  induction fuel generalizing depth n with
  | zero => exact .outOfFuel
  | succ fuel ih => exact (step_layer_self hlib fuel depth n).keeps ih

/-! ## Breaks -/

/-- A halt that, if it is a break, leaves at least one loop. -/
def Halt.Levelled : Halt → Prop
  | .signal (.breakLoop n) => 1 ≤ n
  | _ => True

/-- A halt of some kinds, of which none is a break. -/
lemma Halt.In.levelled {ks : List Failure.Kind} {sig : Option Signal.Kind} {h : Halt}
    (hin : h.In ks sig) (hsig : sig ≠ some .breakLoop) : h.Levelled := by
  cases h with
  | failure f => trivial
  | signal s =>
    cases s with
    | breakLoop n => exact absurd hin hsig
    | _ => trivial

/-- One loop less is at least one, where there was more than one. -/
instance : Halt.Closed Halt.Levelled :=
  ⟨fun _ => trivial, trivial, fun _ hn _ => Nat.le_sub_of_add_le hn⟩

open Compute in
/-- A number of loops to leave has to be positive. -/
lemma Builtin.levelled_breakOut (loc : Location) (args : List Value) :
    (breakOut loc args).HaltsIn Halt.Levelled := by
  have hleave : ∀ levels : Int64, HaltsIn Halt.Levelled
      (if levels < 1 then do
        let _ ← (fail loc (.badLevels levels) : Compute PUnit)
        raise (.breakLoop (min levels.toNatClampNeg maxLevels))
      else raise (.breakLoop (min levels.toNatClampNeg maxLevels)) : Compute Value) := by
    intro levels
    split
    · -- the failure comes first, and nothing after it
      intro s h he
      cases he
      trivial
    · next hlt =>
      have hone : (1 : Int) ≤ levels.toInt := Int64.le_iff_toInt_le.1 (Int64.not_lt.1 hlt)
      have hlevels : 1 ≤ levels.toNatClampNeg := by
        rw [Int64.toNatClampNeg]
        omega
      exact .raise (Nat.le_min.2 ⟨hlevels, by decide⟩)
  cases args with
  | nil => exact .bind (.pure 1) hleave
  | cons v _ =>
    refine .bind (fun s h he => ?_) hleave
    cases htoInt : v.toInt with
    | ok n =>
      rw [htoInt] at he
      cases he
    | error c =>
      rw [htoInt] at he
      cases he
      trivial

open Builtin in
/-- The computations of the language leave at least one loop, if they leave any. -/
lemma Library.levelled_builtin : (builtin why).HaltsIn Halt.Levelled := by
  have hbreak : ∀ e ∈ builtins why, ∀ c, e.behaviour = .compute c →
      e.signal ≠ some .breakLoop ∨ c.run = breakOut := by
    rw [forall_computations]
    and_intros <;> first | exact .inr rfl | exact .inl nofun
  intro name e hfind c hc loc args
  have he : e ∈ builtins why := (mem_of_find?_builtin hfind).1
  rcases hbreak e he c hc with hsignal | hrun
  · exact (halts_of_compute e he c hc loc args).mono fun h hin => hin.levelled hsignal
  · rw [hrun]
    exact levelled_breakOut loc args

end CommandScript
