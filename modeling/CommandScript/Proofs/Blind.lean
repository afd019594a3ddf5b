import CommandScript.Proofs.Agreement
import CommandScript.Proofs.Folding

/-!
# The functions of the language do not look at places

Every computation of the language gives the same, up to places, on arguments and arrays that are the
same up to places; and what a text compiles to does not depend on the arrays at all.

## Main definitions

* `CommandScript.Compute.Agrees` — computations that give the same, up to places.
* `CommandScript.Builtin.Blind` — a function that does not look at places.

## Main results

* `CommandScript.blind_of_compute` — the computations of the language do not look at places.
* `CommandScript.Library.blind_builtin` — the library of the language is blind.
-/

namespace CommandScript

variable {why : String → Option String}

/-! ## Elements -/

namespace Value

variable {ρ : Location → Location}

/-- Values that are the same up to places are the same integer. -/
lemma toInt_congr {v v' : Value} (hv : v.Same ρ v') : v.toInt = v'.toInt := by
  rw [toInt, number_congr hv, toInt]

/-- Values that are the same up to places are the same double. -/
lemma toDouble_congr {v v' : Value} (hv : v.Same ρ v') : v.toDouble = v'.toDouble := by
  rw [toDouble, number_congr hv, toDouble]

/-- A character is at the place where it is asked for. -/
lemma map_character (text index : String) (l : Location) :
    (character text index l).map (mapLoc ρ) = character text index (ρ l) := by
  unfold character
  cases indexOf index with
  | error c => rfl
  | ok i =>
    dsimp only [Bind.bind, Except.bind]
    split
    · rfl
    · split <;> rfl

/-- An element with its place changed is the element of the value and the arrays with their places
changed. -/
lemma map_element (s : Store) (v : Value) (index : String) (l : Location) :
    (v.element s index l).map (mapLoc ρ) =
      (v.mapLoc ρ).element (s.mapLoc ρ) index (ρ l) := by
  unfold element
  rw [resolved_mapLoc]
  cases v.resolved with
  | string t l' => exact map_character t index l
  | array r l' =>
    simp only [mapLoc, Store.cells_mapLoc, Array.size_map, Array.getElem?_map]
    cases indexOf index with
    | error c => rfl
    | ok i =>
      dsimp only [Bind.bind, Except.bind]
      cases position? i (s.cells r).size with
      | none => rfl
      | some p =>
        simp only [Option.bind_some]
        cases (s.cells r)[p]? <;> rfl
  | _ => rfl

end Value

/-! ## Computations -/

namespace Compute

variable {α β γ δ : Type} {ρ : Location → Location} {R : α → β → Prop} {S : γ → δ → Prop}
  {l l' : Location}

/-- On arrays that are the same up to places, computations give the same, up to places. -/
def Agrees (ρ : Location → Location) (R : α → β → Prop) (x : Compute α) (y : Compute β) : Prop :=
  Run.Agrees ρ (fun _ => False) R (Run.ofCompute x) (Run.ofCompute y)

namespace Agrees

lemma pure {a : α} {b : β} (h : R a b) : Agrees ρ R (pure a) (pure b) := Run.Agrees.pure h

lemma fail (hl : ρ l = ρ l') (c : Cause) :
    Agrees ρ R (Compute.fail l c) (Compute.fail l' c) := Run.Agrees.fail hl c

lemma raise {s s' : Signal} (h : s.mapLoc ρ = s'.mapLoc ρ) :
    Agrees ρ R (Compute.raise s) (Compute.raise s') := Run.Agrees.raise h

lemma textOf {v v' : Value} (hv : v.Same ρ v') :
    Agrees ρ Eq (Compute.textOf v) (Compute.textOf v') := Run.Agrees.textOf hv

lemma newArray (hl : ρ l = ρ l') {vs vs' : List Value} (hvs : Value.SameEach ρ vs vs') :
    Agrees ρ (Value.Same ρ) (Compute.newArray l vs) (Compute.newArray l' vs') :=
  Run.Agrees.newArray hl hvs

/-- Computations that agree, followed by computations that agree, agree. -/
lemma bind {x : Compute α} {y : Compute β} {f : α → Compute γ} {g : β → Compute δ}
    (hx : Agrees ρ R x y) (hf : ∀ a b, R a b → Agrees ρ S (f a) (g b)) :
    Agrees ρ S (x >>= f) (y >>= g) := by
  unfold Agrees
  rw [Run.ofCompute_bind, Run.ofCompute_bind]
  exact Run.Agrees.bind hx hf

/-- Computations that agree on a value, followed by computations that agree. -/
lemma next {x y : Compute α} {f : α → Compute γ} {g : α → Compute δ} (hx : Agrees ρ Eq x y)
    (hf : ∀ a, Agrees ρ S (f a) (g a)) : Agrees ρ S (x >>= f) (y >>= g) := by
  refine bind hx ?_
  rintro a _ rfl
  exact hf a

lemma get : Agrees ρ (fun s t => s.mapLoc ρ = t.mapLoc ρ) get get :=
  Run.Agrees.of_same (fun _ => rfl) (fun _ => rfl) fun _ _ h => .ok (World.store_congr h)

/-- A change of the arrays that does not look at places. -/
lemma modify {f g : Store → Store}
    (h : ∀ s t : Store, s.mapLoc ρ = t.mapLoc ρ → (f s).mapLoc ρ = (g t).mapLoc ρ) :
    Agrees ρ Eq (modify f) (modify g) := fun _ _ hwv =>
  .inr ⟨.ok rfl, World.mk_congr (World.env_congr hwv) (h _ _ (World.store_congr hwv))⟩

lemma ofExcept (hl : ρ l = ρ l') {r r' : Except Cause α} (h : r = r') :
    Agrees ρ Eq (Compute.ofExcept l r) (Compute.ofExcept l' r') := by
  subst h
  cases r with
  | ok a => exact pure rfl
  | error c => exact fail hl c

/-- Results that are the same up to places. -/
lemma ofExcept_map (hl : ρ l = ρ l') {r r' : Except Cause Value}
    (h : r.map (Value.mapLoc ρ) = r'.map (Value.mapLoc ρ)) :
    Agrees ρ (Value.Same ρ) (Compute.ofExcept l r) (Compute.ofExcept l' r') := by
  cases r with
  | ok v =>
    cases r' with
    | ok v' => exact pure (Except.ok.inj h)
    | error c => cases h
  | error c =>
    cases r' with
    | ok v' => cases h
    | error c' =>
      cases h
      exact fail hl c

end Agrees

end Compute

/-! ## The functions -/

namespace Builtin

open Compute (Agrees)

variable {ρ : Location → Location}

/-- A function that gives the same, up to places, on arguments and at places that are the same. -/
def Blind (ρ : Location → Location) (run : Location → List Value → Compute Value) : Prop :=
  ∀ {l l' args args'}, ρ l = ρ l' → Value.SameEach ρ args args' →
    Agrees ρ (Value.Same ρ) (run l args) (run l' args')

/-- The texts of values that are the same up to places are the same. -/
lemma agrees_joined (separator : String) {args args' : List Value}
    (h : Value.SameEach ρ args args') :
    Agrees ρ Eq (joined separator args) (joined separator args') := by
  refine .bind .get fun s t hst => .pure ?_
  have htexts : args.map (·.text s) = args'.map (·.text t) := by
    induction h with
    | nil => rfl
    | cons hv _ ih => rw [List.map_cons, List.map_cons, Value.text_congr hv hst, ih]
  rw [htexts]

lemma blind_joined (separator : String) : Blind ρ (textResult (joined separator)) :=
  fun hl h => .next (agrees_joined separator h) fun text => .pure (congrArg (Value.string text) hl)

lemma blind_newArray : Blind ρ Compute.newArray := fun hl h => .newArray hl h

lemma blind_elementAt : Blind ρ elementAt := by
  intro l l' args args' hl h
  refine .next (.textOf (argument_congr h 1)) fun index => .bind .get fun s t hst => ?_
  refine .ofExcept_map hl ?_
  rw [Value.map_element, Value.map_element, argument_congr h 0, hst, hl]

/-- The same array is found behind values that are the same up to places. -/
lemma agrees_arrayOf (function : String) {l l' : Location} (hl : ρ l = ρ l') {v v' : Value}
    (hv : v.Same ρ v') : Agrees ρ Eq (arrayOf function l v) (arrayOf function l' v') := by
  have hr := Value.resolved_congr hv
  unfold arrayOf
  generalize v.resolved = u at hr ⊢
  generalize v'.resolved = u' at hr ⊢
  obtain ⟨r, _, _, rfl, rfl⟩ | ⟨hu, hu'⟩ := Value.array_or hr
  · exact .pure rfl
  · split
    · exact absurd rfl (hu _ _)
    · rw [Value.typeName_congr hr]
      exact .fail hl _

/-- Arrays have as many cells up to places. -/
lemma size_cells_congr {s t : Store} (h : s.mapLoc ρ = t.mapLoc ρ) (r : Ref) :
    (s.cells r).size = (t.cells r).size := by
  have hcells := congrArg (fun u => (Store.cells u r).size) h
  simpa only [Store.cells_mapLoc, Array.size_map] using hcells

lemma blind_sizeOfArray : Blind ρ sizeOfArray := by
  intro l l' args args' hl h
  refine .next (agrees_arrayOf _ hl (argument_congr h 0)) fun r => .bind .get fun s t hst => ?_
  rw [size_cells_congr hst]
  exact .pure (congrArg (Value.int _) hl)

lemma blind_pushToArray : Blind ρ pushToArray := by
  intro l l' args args' hl h
  refine .next (agrees_arrayOf _ hl (argument_congr h 0)) fun r => ?_
  refine .next (.modify fun s t hst => ?_) fun _ => .pure (congrArg Value.void hl)
  rw [Store.mapLoc_push, Store.mapLoc_push, hst, argument_congr h 1]

lemma blind_lengthOf : Blind ρ lengthOf := by
  intro l l' args args' hl h
  refine .bind .get fun s t hst => ?_
  have hr := Value.resolved_congr (argument_congr h 0)
  generalize (argument args 0).resolved = u at hr ⊢
  generalize (argument args' 0).resolved = u' at hr ⊢
  obtain ⟨r, _, _, rfl, rfl⟩ | ⟨hu, hu'⟩ := Value.array_or hr
  · dsimp only
    rw [size_cells_congr hst]
    exact .pure (congrArg (Value.int _) hl)
  · dsimp only
    split
    · exact absurd rfl (hu _ _)
    · rw [Value.text_congr hr hst]
      exact .pure (congrArg (Value.int _) hl)

lemma blind_nullTest : Blind ρ nullTest := by
  intro l l' args args' hl h
  have hnull := congrArg Value.isNull (argument_congr h 0)
  rw [Value.isNull_mapLoc, Value.isNull_mapLoc] at hnull
  refine .pure ?_
  rw [hnull]
  exact congrArg (Value.boolean _) hl

lemma blind_typeOf : Blind ρ typeOf := by
  intro l l' args args' hl h
  refine .pure ?_
  rw [Value.typeName_congr (Value.resolved_congr (argument_congr h 0))]
  exact congrArg (Value.string _) hl

/-- Values that are the same up to places combine to the same number. -/
lemma combineAll_congr (op : Number → Number → Except Cause Number) {args args' : List Value}
    (h : Value.SameEach ρ args args') (acc : Number) :
    combineAll op acc args = combineAll op acc args' := by
  induction h generalizing acc with
  | nil => rfl
  | cons hv _ ih =>
    simp only [combineAll, Value.number_congr hv, ih]

/-- A number is at the place where it is computed. -/
lemma toValue_congr (n : Number) {l l' : Location} (hl : ρ l = ρ l') :
    (n.toValue l).Same ρ (n.toValue l') := by
  cases n with
  | int n => exact congrArg (Value.int n) hl
  | double x => exact congrArg (Value.double x) hl

lemma blind_accumulate (start : Number) (op : Number → Number → Except Cause Number) :
    Blind ρ (accumulate start op) :=
  fun hl h => .next (.ofExcept hl (combineAll_congr op h start)) fun n =>
    .pure (toValue_congr n hl)

lemma blind_binary (op : Number → Number → Except Cause Number) : Blind ρ (binary op) := by
  intro l l' args args' hl h
  refine .next (.ofExcept hl (Value.number_congr (argument_congr h 0))) fun a => ?_
  refine .next (.ofExcept hl (Value.number_congr (argument_congr h 1))) fun b => ?_
  exact .next (.ofExcept hl rfl) fun n => .pure (toValue_congr n hl)

lemma blind_remainderOf : Blind ρ remainderOf := by
  intro l l' args args' hl h
  refine .next (.ofExcept hl (Value.toInt_congr (argument_congr h 0))) fun x => ?_
  refine .next (.ofExcept hl (Value.toInt_congr (argument_congr h 1))) fun n => ?_
  exact .next (.ofExcept hl rfl) fun m => .pure (congrArg (Value.int m) hl)

lemma blind_equality : Blind ρ equality := by
  intro l l' args args' hl h
  refine .bind .get fun s t hst => .pure ?_
  have hequal : areEqual s (argument args 0) (argument args 1) =
      areEqual t (argument args' 0) (argument args' 1) := by
    unfold areEqual
    rw [Value.number_congr (argument_congr h 0), Value.number_congr (argument_congr h 1),
      Value.text_congr (argument_congr h 0) hst, Value.text_congr (argument_congr h 1) hst]
  rw [hequal]
  exact congrArg (Value.boolean _) hl

lemma blind_comparison (test : Float → Float → Bool) : Blind ρ (comparison test) := by
  intro l l' args args' hl h
  refine .next (.ofExcept hl (Value.toDouble_congr (argument_congr h 0))) fun a => ?_
  refine .next (.ofExcept hl (Value.toDouble_congr (argument_congr h 1))) fun b => ?_
  exact .pure (congrArg (Value.boolean _) hl)

lemma blind_opposite : Blind ρ opposite := by
  intro l l' args args' hl h
  refine .bind .get fun s t hst => .pure ?_
  rw [Value.isTrue_congr (argument_congr h 0) hst]
  exact congrArg (Value.boolean _) hl

lemma blind_breakOut : Blind ρ breakOut := by
  intro l l' args args' hl h
  have hleave : ∀ levels : Int64, Agrees ρ (Value.Same ρ)
      (do
        if levels < 1 then Compute.fail l (.badLevels levels)
        Compute.raise (.breakLoop (min levels.toNatClampNeg maxLevels)))
      (do
        if levels < 1 then Compute.fail l' (.badLevels levels)
        Compute.raise (.breakLoop (min levels.toNatClampNeg maxLevels))) := by
    intro levels
    split
    · exact .next (.fail hl _) fun _ => .raise rfl
    · exact .raise rfl
  cases h with
  | nil => exact .next (.pure rfl) hleave
  | cons hv _ => exact .next (.ofExcept hl (Value.toInt_congr hv)) hleave

lemma blind_returnFrom : Blind ρ returnFrom := by
  intro l l' args args' hl h
  refine .raise (congrArg Signal.returnValue ?_)
  cases h with
  | nil => exact congrArg Value.void hl
  | cons hv _ => exact hv

lemma blind_continue : Blind ρ fun _ _ => Compute.raise .continueLoop := fun _ _ => .raise rfl

lemma blind_mapText (f : String → String) : Blind ρ (mapText f) := fun hl h =>
  .next (.textOf (argument_congr h 0)) fun _ => .pure (congrArg (Value.string _) hl)

lemma blind_matchPattern : Blind ρ (matchPattern why) := by
  intro l l' args args' hl h
  refine .next (.textOf (argument_congr h 0)) fun pattern => ?_
  cases Pattern.parse? pattern with
  | none => exact .fail hl _
  | some p =>
    refine .next (.textOf (argument_congr h 1)) fun subject => ?_
    cases p.find? subject with
    | none => exact .newArray hl .nil
    | some groups =>
      refine .newArray hl ?_
      rw [Value.SameEach, List.forall₂_map_left_iff, List.forall₂_map_right_iff]
      refine List.forall₂_same.2 fun g _ => ?_
      cases g with
      | some text => exact congrArg (Value.string text) hl
      | none => exact congrArg Value.null hl

lemma blind_replaced : Blind ρ replaced := by
  intro l l' args args' hl h
  refine .next (.textOf (argument_congr h 0)) fun subject => ?_
  refine .next (.textOf (argument_congr h 1)) fun search => ?_
  refine .next (.textOf (argument_congr h 2)) fun replacement => ?_
  exact .pure (congrArg (Value.string _) hl)

lemma blind_characterAt : Blind ρ characterAt := by
  intro l l' args args' hl h
  refine .next (.textOf (argument_congr h 0)) fun text => ?_
  refine .next (.textOf (argument_congr h 1)) fun index => .ofExcept_map hl ?_
  rw [Value.map_character, Value.map_character, hl]

end Builtin

open Builtin in
/-- The computations of the language do not look at places. -/
lemma blind_of_compute (ρ : Location → Location) :
    ∀ e ∈ builtins why, ∀ c, e.behaviour = .compute c → Blind ρ c.run := by
  rw [forall_computations]
  simp only [blind_joined, blind_newArray, blind_elementAt, blind_sizeOfArray, blind_pushToArray,
    blind_lengthOf, blind_nullTest, blind_typeOf, blind_accumulate, blind_binary,
    blind_remainderOf, blind_equality, blind_comparison, blind_opposite, blind_breakOut,
    blind_returnFrom, blind_continue, blind_mapText, blind_matchPattern, blind_replaced,
    blind_characterAt, and_self]

/-- The library of the language is blind. -/
lemma Library.blind_builtin (ρ : Location → Location) : (builtin why).Blind ρ where
  compute he hc _ _ _ _ hl hargs :=
    blind_of_compute ρ _ (mem_of_find?_builtin he).1 _ hc hl hargs
  compile text s s' hs := by
    obtain ⟨r, hr⟩ := compile_outcome text none
    rw [hr s, hr s']
    exact ⟨rfl, hs⟩

end CommandScript
