import CommandScript.Proofs.Blind
import CommandScript.Proofs.Lockstep

/-!
# Places are only for reports

Scripts that differ in the places where things are written do the same. A place shows in two things
only: in the failure that ends a script, and at the end of the line that reports it.

## Main definitions

* `CommandScript.Location.forget` — forgets a place.
* `CommandScript.SameEnd` — ends of scripts that are the same up to places.

## Main results

* `CommandScript.Node.eval_same` — evaluations of expressions that are the same up to places end
  alike, or not at all.
* `CommandScript.executeFrom_sameEnd` — scripts end alike if their statements do.
* `CommandScript.Library.places_are_diagnostics` — scripts that are the same up to places end alike.
-/

namespace CommandScript

variable {why : String → Option String}

/-- Forgets a place. -/
def Location.forget (_ : Location) : Location := .unknown

/-- The line that reports a failure with a cause, up to its place in brackets. -/
def Cause.line (c : Cause) : String := s!"{c.kind.name}: {c.message} "

/-- The line that reports a failure ends with its place in brackets. -/
lemma Failure.text_eq (f : Failure) : f.text = f.cause.line ++ "(" ++ f.loc.text ++ ")" := by
  simp only [text, Cause.line, kind, message, toString, String.append_assoc]
  rfl

/-- Ends of scripts that are the same up to places. Both are out of fuel; or both give a value and
the same output, and leave worlds that are the same; or both fail, for the same cause and in worlds
that are the same, in which the lines that are sent to the actor differ in the brackets at the end
only. -/
inductive SameEnd (ρ : Location → Location) :
    Option (Report × World) → Option (Report × World) → Prop where
  | outOfFuel : SameEnd ρ none none
  | ok {v v' : Value} {w w' : World} (output : String) (hv : v.mapLoc ρ = v'.mapLoc ρ)
    (hw : w.mapLoc ρ = w'.mapLoc ρ) :
    SameEnd ρ (some (⟨.ok v, some output⟩, w)) (some (⟨.ok v', some output⟩, w'))
  | failed {l l' : Location} {w w' : World} (c : Cause) (hl : ρ l = ρ l')
    (hw : w.mapLoc ρ = w'.mapLoc ρ) :
    SameEnd ρ
      (some (⟨.error ⟨c, l⟩, none⟩,
        { w with env := w.env.send (c.line ++ "(" ++ l.text ++ ")") }))
      (some (⟨.error ⟨c, l'⟩, none⟩,
        { w' with env := w'.env.send (c.line ++ "(" ++ l'.text ++ ")") }))

section

variable {ρ : Location → Location} {w w' : World} {last last' : Value}

lemma SameEnd.of_failed {l l' : Location} (c : Cause) (hl : ρ l = ρ l')
    (hw : w.mapLoc ρ = w'.mapLoc ρ) :
    SameEnd ρ (some (CommandScript.failed ⟨c, l⟩ w)) (some (CommandScript.failed ⟨c, l'⟩ w')) := by
  unfold CommandScript.failed
  rw [Failure.text_eq, Failure.text_eq]
  exact .failed c hl hw

/-- Scripts that halt in the same way, up to places, end alike. -/
lemma SameEnd.of_halt {e e' : Halt} (he : e.mapLoc ρ = e'.mapLoc ρ) {l l' : Location}
    (hl : ρ l = ρ l') (hlast : last.Same ρ last') (texts : List String)
    (hw : w.mapLoc ρ = w'.mapLoc ρ) :
    SameEnd ρ (some (e.ending l last texts w)) (some (e'.ending l' last' texts w')) := by
  cases Halt.twins_of_mapLoc he with
  | failure c hl => exact .of_failed c hl hw
  | breakLoop n => exact .of_failed _ hl hw
  | continueLoop => exact .of_failed _ hl hw
  | returnValue hv => exact .of_failed _ hl hw
  | cancel => exact .ok _ hlast hw

/-- Evaluations of expressions that are the same up to places, in worlds that are, end alike, or
both are out of fuel. -/
lemma Node.eval_same {lib : Library} (hlib : lib.Blind ρ) (fuel depth : Nat) {n n' : Node}
    (hn : n.Same ρ n') (hw : w.mapLoc ρ = w'.mapLoc ρ) :
    (eval lib fuel depth n w).1 = .error .outOfFuel ∧
      (eval lib fuel depth n' w').1 = .error .outOfFuel ∨
    Run.EndsLike ρ (Value.Same ρ) (eval lib fuel depth n w).1 (eval lib fuel depth n' w').1 ∧
      (eval lib fuel depth n w).2.mapLoc ρ = (eval lib fuel depth n' w').2.mapLoc ρ := by
  have hagree : ∀ {n n' : Node}, n.Same ρ n' → Run.Agrees ρ (Stop.outOfFuel = ·) (Value.Same ρ)
      (eval lib fuel depth n) (eval lib fuel depth n') := fun h =>
    eval_agrees hlib rfl (by simp) (Nat.le_refl depth) (fun hlt => by omega) (Nat.le_refl fuel) h
  rcases hagree hn w w' hw with ⟨_, rfl, hout⟩ | hends
  · rcases hagree hn.symm w' w hw.symm with ⟨_, rfl, hout'⟩ | ⟨hends, -⟩
    · exact .inl ⟨hout, hout'⟩
    · -- the second one comes to an end, so the first one does
      rw [hout] at hends
      generalize (eval lib fuel depth n' w').1 = r at hends
      cases hends
  · exact .inr hends

/-- Scripts of statements that end alike, or not at all, end alike, or not at all. -/
lemma executeFrom_sameEnd {lib : Library} (hlib : lib.Blind ρ) (fuel : Nat) {ns ns' : List Node}
    (hns : List.Forall₂ (Node.Same ρ) ns ns') (hw : w.mapLoc ρ = w'.mapLoc ρ)
    (hlast : last.Same ρ last') (texts : List String) :
    SameEnd ρ (executeFrom (Node.eval lib fuel 0) ns last texts w)
      (executeFrom (Node.eval lib fuel 0) ns' last' texts w') := by
  induction hns generalizing w w' last last' texts with
  | nil => exact .ok _ hlast hw
  | @cons n n' ns ns' hn _ ih =>
    have hends := Node.eval_same hlib fuel 0 hn hw
    rcases hx : Node.eval lib fuel 0 n w with ⟨r, u⟩
    rcases hy : Node.eval lib fuel 0 n' w' with ⟨r', u'⟩
    rw [hx, hy] at hends
    rcases hends with ⟨hout, hout'⟩ | ⟨hends, hu⟩
    · obtain rfl : r = _ := hout
      obtain rfl : r' = _ := hout'
      rw [executeFrom_of_outOfFuel ns last texts hx, executeFrom_of_outOfFuel ns' last' texts hy]
      exact .outOfFuel
    · cases hends with
      | ok hv =>
        rw [executeFrom_of_ok ns last texts hx, executeFrom_of_ok ns' last' texts hy,
          Value.isVoid_congr hv, Value.text_congr hv (World.store_congr hu)]
        exact ih hu hv _
      | halt he =>
        rw [executeFrom_of_halt ns last texts hx, executeFrom_of_halt ns' last' texts hy]
        exact .of_halt he (Node.loc_congr hn) hlast texts hu

end

namespace Library

/-- Places are only for reports.

Take two scripts that are the same once all places are forgotten, in worlds that are: those of
expressions and constants, of the values of variables and of what arrays hold, and of the defaults
and bodies of procedures. With any fuel, the first script comes to an end if the second one does.
Then both give the same value up to places and the same output, and leave the same world up to
places; or both fail for the same cause, and the lines that are sent to the actor differ in the
place at the end only. -/
theorem places_are_diagnostics {nodes nodes' : List Node} {w w' : World}
    (hnodes : nodes.map (Node.mapLoc Location.forget) = nodes'.map (Node.mapLoc Location.forget))
    (hw : w.mapLoc Location.forget = w'.mapLoc Location.forget) (fuel : Nat) :
    SameEnd Location.forget (execute (builtin why) fuel nodes w)
      (execute (builtin why) fuel nodes' w') :=
  executeFrom_sameEnd (blind_builtin Location.forget) fuel (map_eq_map_iff_forall₂.1 hnodes) hw rfl
    []

/-- A call of a procedure on a variable, written at a place. -/
def callAt (l : Location) : Node := .call "_p" [.ivar "x" l] l

/-- A world with somebody who hears reports, and with a variable whose value comes from a place. -/
def hearing (l : Location) : World where
  env :=
    { actor := some ⟨"somebody", false⟩
      frame := Bindings.empty.insert "x" (.string "known" l) }

lemma execute_callAt (lib : Library) (l : Location) :
    execute lib 2 [callAt l] (hearing l) =
      some (failed ⟨.unknownProcedure "_p", l⟩ (hearing l)) := rfl

/-- A call of a procedure that is not defined, written at two places. -/
theorem places_are_diagnostics_callAt :
    [callAt ⟨none, 1, 1⟩].map (Node.mapLoc Location.forget) =
      [callAt ⟨some "s", 3, 4⟩].map (Node.mapLoc Location.forget) ∧
    (hearing ⟨none, 1, 1⟩).mapLoc Location.forget =
      (hearing ⟨some "s", 3, 4⟩).mapLoc Location.forget ∧
    SameEnd Location.forget
      (some (failed ⟨.unknownProcedure "_p", ⟨none, 1, 1⟩⟩ (hearing ⟨none, 1, 1⟩)))
      (some (failed ⟨.unknownProcedure "_p", ⟨some "s", 3, 4⟩⟩ (hearing ⟨some "s", 3, 4⟩))) := by
  have hnodes : [callAt ⟨none, 1, 1⟩].map (Node.mapLoc Location.forget) =
      [callAt ⟨some "s", 3, 4⟩].map (Node.mapLoc Location.forget) := rfl
  have hw : (hearing ⟨none, 1, 1⟩).mapLoc Location.forget =
      (hearing ⟨some "s", 3, 4⟩).mapLoc Location.forget := rfl
  refine ⟨hnodes, hw, ?_⟩
  rw [← execute_callAt builtin, ← execute_callAt builtin]
  exact places_are_diagnostics hnodes hw 2

end Library

end CommandScript
