import CommandScript.Eval
import Mathlib.Data.List.Forall2
import Mathlib.Tactic.Lemma

/-!
# Places changed throughout

Values, expressions, procedures, halts and whole worlds with all their places changed by one
function. Two things with the same result are the same up to these places: if the function forgets
places they may differ in nothing else, and if it keeps them they are equal. What scripts do with
values and worlds does not look at places, so it commutes with such a change.

## Main definitions

* `CommandScript.Value.mapLoc`, `CommandScript.Node.mapLoc`, `CommandScript.World.mapLoc`,
  `CommandScript.Halt.mapLoc` — a thing with all its places changed.
* `CommandScript.Node.Twins` — expressions of the same sort, with related parts.

## Main results

* `CommandScript.Value.text_congr`, `CommandScript.Value.isTrue_congr` — the text of a value, and
  whether it holds as a condition, are the same up to places.
* `CommandScript.Node.twins_of_mapLoc` — expressions that are the same up to places are of the same
  sort.
* `CommandScript.World.mapLoc_id` — a world whose places are kept stays what it is.
-/

namespace CommandScript

/-- Lists are the same up to `f` if their elements are, one after another. -/
lemma map_eq_map_iff_forall₂ {α β : Type} {f : α → β} {as bs : List α} :
    as.map f = bs.map f ↔ List.Forall₂ (fun a b => f a = f b) as bs := by
  rw [← List.forall₂_eq_eq_eq, List.forall₂_map_left_iff, List.forall₂_map_right_iff]

variable (ρ : Location → Location)

/-! ## Values and arrays -/

namespace Value

/-- A value with all its places changed, that of what a slot is bound to as well. -/
def mapLoc : Value → Value
  | string s l => string s (ρ l)
  | int n l => int n (ρ l)
  | double x l => double x (ρ l)
  | boolean b l => boolean b (ρ l)
  | array r l => array r (ρ l)
  | slot n d o f b l => slot n d o f (mapLoc b) (ρ l)
  | null l => null (ρ l)
  | void l => void (ρ l)
  | external t s d l => external t s d (ρ l)

@[simp] lemma loc_mapLoc (v : Value) : (v.mapLoc ρ).loc = ρ v.loc := by
  cases v <;> rfl

@[simp] lemma typeName_mapLoc (v : Value) : (v.mapLoc ρ).typeName = v.typeName := by
  cases v <;> rfl

@[simp] lemma isVoid_mapLoc (v : Value) : (v.mapLoc ρ).isVoid = v.isVoid := by
  cases v <;> rfl

@[simp] lemma resolved_mapLoc (v : Value) : (v.mapLoc ρ).resolved = v.resolved.mapLoc ρ := by
  induction v with
  | slot n d o f b l ih => exact ih
  | _ => rfl

@[simp] lemma isNull_mapLoc (v : Value) : (v.mapLoc ρ).isNull = v.isNull := by
  induction v with
  | slot n d o f b l ih => exact ih
  | _ => rfl

@[simp] lemma number_mapLoc (v : Value) : (v.mapLoc ρ).number = v.number := by
  unfold number
  rw [resolved_mapLoc]
  cases v.resolved <;> rfl

/-- A value whose places are kept stays what it is. -/
@[simp] lemma mapLoc_id (v : Value) : v.mapLoc id = v := by
  induction v with
  | slot n d o f b l ih => simp only [mapLoc, ih, id]
  | _ => rfl

end Value

namespace Store

/-- The arrays with the places of all cells changed. -/
def mapLoc (s : Store) : Store := ⟨s.arrays.map fun cs => cs.map (Value.mapLoc ρ)⟩

@[simp] lemma size_mapLoc (s : Store) : (s.mapLoc ρ).size = s.size := by
  simp [mapLoc, size]

@[simp] lemma cells_mapLoc (s : Store) (r : Ref) :
    (s.mapLoc ρ).cells r = (s.cells r).map (Value.mapLoc ρ) := by
  simp only [mapLoc, cells, Array.getElem?_map]
  cases s.arrays[r]? <;> simp

@[simp] lemma mapLoc_alloc (s : Store) (cs : Array Value) :
    (s.alloc cs).2.mapLoc ρ = ((s.mapLoc ρ).alloc (cs.map (Value.mapLoc ρ))).2 := by
  simp [mapLoc, alloc]

@[simp] lemma mapLoc_push (s : Store) (r : Ref) (v : Value) :
    (s.push r v).mapLoc ρ = (s.mapLoc ρ).push r (v.mapLoc ρ) := by
  simp only [mapLoc, push, mk.injEq]
  refine Array.ext_getElem? fun i => ?_
  simp only [Array.getElem?_map, Array.getElem?_modify]
  split
  · cases s.arrays[i]? <;> simp
  · rfl

/-- The text of an array shows no places. -/
@[simp] lemma arrayText_mapLoc (s : Store) (opened : List Ref) (r : Ref) :
    (s.mapLoc ρ).arrayText opened r = s.arrayText opened r := by
  -- by the number of arrays that are not opened, as the texts themselves are found
  induction h : s.unopened opened using Nat.strongRecOn generalizing opened r with
  | ind k ih =>
    rw [arrayText, arrayText, size_mapLoc, cells_mapLoc]
    split
    · rfl
    · split
      · next ho hr =>
        have hlt := h ▸ unopened_cons_lt hr ho
        rw [Array.toList_map, List.map_map]
        congr 4
        funext cell
        rw [Function.comp_apply, Value.resolved_mapLoc]
        cases cell.resolved with
        | array q l => exact ih _ hlt (r :: opened) q rfl
        | _ => rfl
      · rfl

@[simp] lemma mapLoc_id (s : Store) : s.mapLoc id = s := by
  have hid : Value.mapLoc id = id := funext Value.mapLoc_id
  simp [mapLoc, hid]

end Store

namespace Value

variable {ρ} {v v' : Value} {s s' : Store}

/-- The text of a value shows no places. -/
lemma text_mapLoc (v : Value) (s : Store) : (v.mapLoc ρ).text (s.mapLoc ρ) = v.text s := by
  unfold text
  rw [resolved_mapLoc]
  cases v.resolved with
  | array r l => exact s.arrayText_mapLoc ρ [] r
  | _ => rfl

/-- Whether a value holds as a condition does not depend on places. -/
lemma isTrue_mapLoc (v : Value) (s : Store) : (v.mapLoc ρ).isTrue (s.mapLoc ρ) = v.isTrue s := by
  unfold isTrue
  rw [resolved_mapLoc]
  cases v.resolved with
  | array r l => simp [mapLoc, Array.isEmpty]
  | _ => rfl

/-- Values that are the same up to places have the same text. -/
lemma text_congr (hv : v.mapLoc ρ = v'.mapLoc ρ) (hs : s.mapLoc ρ = s'.mapLoc ρ) :
    v.text s = v'.text s' := by
  rw [← text_mapLoc (ρ := ρ) v s, hv, hs, text_mapLoc]

/-- Values that are the same up to places are the same condition. -/
lemma isTrue_congr (hv : v.mapLoc ρ = v'.mapLoc ρ) (hs : s.mapLoc ρ = s'.mapLoc ρ) :
    v.isTrue s = v'.isTrue s' := by
  rw [← isTrue_mapLoc (ρ := ρ) v s, hv, hs, isTrue_mapLoc]

/-- Values that are the same up to places are the same number. -/
lemma number_congr (hv : v.mapLoc ρ = v'.mapLoc ρ) : v.number = v'.number := by
  rw [← number_mapLoc ρ v, hv, number_mapLoc]

/-- Values that are the same up to places are void together. -/
lemma isVoid_congr (hv : v.mapLoc ρ = v'.mapLoc ρ) : v.isVoid = v'.isVoid := by
  rw [← isVoid_mapLoc ρ v, hv, isVoid_mapLoc]

/-- Values that are the same up to places have the same type. -/
lemma typeName_congr (hv : v.mapLoc ρ = v'.mapLoc ρ) : v.typeName = v'.typeName := by
  rw [← typeName_mapLoc ρ v, hv, typeName_mapLoc]

/-- Values that are the same up to places are the same array, or none of them is one. -/
lemma array_or (hv : v.mapLoc ρ = v'.mapLoc ρ) :
    (∃ r l l', v = array r l ∧ v' = array r l') ∨
      (∀ r l, v ≠ array r l) ∧ ∀ r l, v' ≠ array r l := by
  cases v with
  | array r l =>
    cases v' with
    | array r' l' =>
      obtain ⟨rfl, -⟩ := array.inj hv
      exact .inl ⟨r, l, l', rfl, rfl⟩
    | _ => cases hv
  | _ =>
    refine .inr ⟨by simp, ?_⟩
    rintro r l rfl
    cases hv

/-- What is behind the slots of values that are the same up to places is the same. -/
lemma resolved_congr (hv : v.mapLoc ρ = v'.mapLoc ρ) :
    v.resolved.mapLoc ρ = v'.resolved.mapLoc ρ := by
  rw [← resolved_mapLoc, hv, resolved_mapLoc]

end Value

/-! ## Expressions -/

namespace Node

mutual

/-- An expression with all its places changed. -/
def mapLoc : Node → Node
  | literal v => literal (v.mapLoc ρ)
  | ivar name l => ivar name (ρ l)
  | var name l => var name (ρ l)
  | call name args l => call name (mapLocEach args) (ρ l)

/-- Expressions with all their places changed. -/
def mapLocEach : List Node → List Node
  | [] => []
  | n :: ns => n.mapLoc :: mapLocEach ns

end

variable {ρ}

lemma mapLocEach_eq (ns : List Node) : mapLocEach ρ ns = ns.map (mapLoc ρ) := by
  induction ns with
  | nil => rfl
  | cons n ns ih => rw [mapLocEach, ih, List.map_cons]

mutual

/-- An expression whose places are kept stays what it is. -/
theorem mapLoc_id : (n : Node) → n.mapLoc id = n
  | literal v => by rw [mapLoc, Value.mapLoc_id]
  | ivar _ _ => rfl
  | var _ _ => rfl
  | call _ args _ => by rw [mapLoc, mapLocEach_id args, id]

theorem mapLocEach_id : (ns : List Node) → mapLocEach id ns = ns
  | [] => rfl
  | n :: ns => by rw [mapLocEach, mapLoc_id n, mapLocEach_id ns]

end

/-- Expressions of the same sort whose places agree, with parts related by `Q`. -/
inductive Twins (ρ : Location → Location) (Q : Node → Node → Prop) : Node → Node → Prop where
  | literal {v v' : Value} (h : v.mapLoc ρ = v'.mapLoc ρ) : Twins ρ Q (literal v) (literal v')
  | ivar (name : String) {l l' : Location} (h : ρ l = ρ l') : Twins ρ Q (ivar name l) (ivar name l')
  | var (name : String) {l l' : Location} (h : ρ l = ρ l') : Twins ρ Q (var name l) (var name l')
  | call (name : String) {args args' : List Node} (hargs : List.Forall₂ Q args args')
    {l l' : Location} (h : ρ l = ρ l') : Twins ρ Q (call name args l) (call name args' l')

/-- Expressions that are the same up to places are of the same sort. -/
lemma twins_of_mapLoc {n n' : Node} (h : n.mapLoc ρ = n'.mapLoc ρ) :
    Twins ρ (fun m m' => m.mapLoc ρ = m'.mapLoc ρ) n n' := by
  cases n with
  | literal v =>
    cases n' <;> simp only [mapLoc, literal.injEq, reduceCtorEq] at h
    exact .literal h
  | ivar name l =>
    cases n' <;> simp only [mapLoc, ivar.injEq, reduceCtorEq] at h
    obtain ⟨rfl, h⟩ := h
    exact .ivar name h
  | var name l =>
    cases n' <;> simp only [mapLoc, var.injEq, reduceCtorEq] at h
    obtain ⟨rfl, h⟩ := h
    exact .var name h
  | call name args l =>
    cases n' <;> simp only [mapLoc, call.injEq, reduceCtorEq] at h
    obtain ⟨rfl, hargs, h⟩ := h
    rw [mapLocEach_eq, mapLocEach_eq] at hargs
    exact .call name (map_eq_map_iff_forall₂.1 hargs) h

/-- The places of expressions that are the same up to places agree. -/
lemma loc_congr {n n' : Node} (h : n.mapLoc ρ = n'.mapLoc ρ) : ρ n.loc = ρ n'.loc := by
  cases twins_of_mapLoc h with
  | @literal v v' hv =>
    calc ρ v.loc = (v.mapLoc ρ).loc := (v.loc_mapLoc ρ).symm
      _ = (v'.mapLoc ρ).loc := congrArg Value.loc hv
      _ = ρ v'.loc := v'.loc_mapLoc ρ
  | ivar _ hl => exact hl
  | var _ hl => exact hl
  | call _ _ hl => exact hl

end Node

/-! ## Worlds -/

namespace Bindings

variable {α β : Type}

/-- The same names, bound to what a function makes of what they stand for. -/
def map (f : α → β) (b : Bindings α) : Bindings β := ⟨b.pairs.map fun p => (p.1, f p.2)⟩

@[simp] lemma get?_map (f : α → β) (b : Bindings α) (name : String) :
    (b.map f).get? name = (b.get? name).map f := by
  simp only [map, get?, List.find?_map, Option.map_map]
  rfl

@[simp] lemma map_insert (f : α → β) (b : Bindings α) (name : String) (a : α) :
    (b.insert name a).map f = (b.map f).insert name (f a) := by
  have key : ∀ ps : List (String × α), (insertPair name a ps).map (fun p => (p.1, f p.2)) =
      insertPair name (f a) (ps.map fun p => (p.1, f p.2)) := by
    intro ps
    induction ps with
    | nil => rfl
    | cons p ps ih =>
      simp only [insertPair, List.map_cons]
      split
      · rfl
      · rw [List.map_cons, ih]
  simp only [map, insert, key]

@[simp] lemma map_id (b : Bindings α) : b.map id = b := by
  simp [map]

/-- What a name stands for in bindings that are the same up to `f` is the same up to `f`. -/
lemma get?_congr {f : α → β} {b b' : Bindings α} (h : b.map f = b'.map f) (name : String) :
    (b.get? name).map f = (b'.get? name).map f := by
  rw [← get?_map, h, get?_map]

end Bindings

/-- Two results that are the same up to `f` are both missing, or both there. -/
lemma option_map_eq_map {α β : Type} {f : α → β} {o o' : Option α} (h : o.map f = o'.map f) :
    o = none ∧ o' = none ∨ ∃ a a', o = some a ∧ o' = some a' ∧ f a = f a' := by
  cases o with
  | none =>
    cases o' with
    | none => exact .inl ⟨rfl, rfl⟩
    | some a' => cases h
  | some a =>
    cases o' with
    | none => cases h
    | some a' => exact .inr ⟨a, a', rfl, rfl, Option.some.inj h⟩

namespace Procedure

/-- A procedure with the places of its defaults and its body changed. -/
def mapLoc (p : Procedure) : Procedure where
  name := p.name
  params := p.params.map fun q => (q.1, q.2.mapLoc ρ)
  body := p.body.mapLoc ρ

@[simp] lemma mapLoc_id (p : Procedure) : p.mapLoc id = p := by
  simp [mapLoc, Node.mapLoc_id]

end Procedure

namespace Environment

/-- An environment with the places of all variables and procedures changed. -/
def mapLoc (e : Environment) : Environment :=
  { e with
    frame := e.frame.map (Value.mapLoc ρ)
    outer := e.outer.map fun f => f.map (Value.mapLoc ρ)
    aliases := e.aliases.map (Value.mapLoc ρ)
    procedures := e.procedures.map (Procedure.mapLoc ρ) }

lemma mapLoc_setIvar (e : Environment) (name : String) (v : Value) :
    (e.setIvar name v).mapLoc ρ = (e.mapLoc ρ).setIvar name (v.mapLoc ρ) := by
  simp only [mapLoc, setIvar, Bindings.map_insert]

lemma mapLoc_define (e : Environment) (p : Procedure) :
    (e.define p).mapLoc ρ = (e.mapLoc ρ).define (p.mapLoc ρ) := by
  simp only [mapLoc, define, Bindings.map_insert]
  rfl

lemma mapLoc_send (e : Environment) (message : String) :
    (e.send message).mapLoc ρ = (e.mapLoc ρ).send message := by
  have hactor : (e.mapLoc ρ).actor = e.actor := rfl
  unfold send
  rw [hactor]
  split <;> rfl

lemma mapLoc_pushFrame (e : Environment) : e.pushFrame.mapLoc ρ = (e.mapLoc ρ).pushFrame := rfl

lemma mapLoc_popFrame (e : Environment) : e.popFrame.mapLoc ρ = (e.mapLoc ρ).popFrame := by
  have houter : (e.mapLoc ρ).outer = e.outer.map fun f => f.map (Value.mapLoc ρ) := rfl
  unfold popFrame
  rw [houter]
  cases e.outer <;> rfl

@[simp] lemma mapLoc_id (e : Environment) : e.mapLoc id = e := by
  have hvalue : Value.mapLoc id = id := funext Value.mapLoc_id
  have hprocedure : Procedure.mapLoc id = id := funext Procedure.mapLoc_id
  simp [mapLoc, hvalue, hprocedure]

end Environment

/-- The frame of a procedure call with all places changed. -/
lemma Procedure.mapLoc_setUp (p : Procedure) (values : List Value) (arguments : Value)
    (e : Environment) : (p.setUp values arguments e).mapLoc ρ =
      (p.mapLoc ρ).setUp (values.map (Value.mapLoc ρ)) (arguments.mapLoc ρ) (e.mapLoc ρ) := by
  have hfold : ∀ (qs : List (String × Value)) (e : Environment),
      (qs.foldl (fun e q => e.setIvar q.1 q.2) e).mapLoc ρ =
        (qs.map fun q => (q.1, q.2.mapLoc ρ)).foldl (fun e q => e.setIvar q.1 q.2)
          (e.mapLoc ρ) := by
    intro qs
    induction qs with
    | nil => exact fun e => rfl
    | cons q qs ih =>
      intro e
      rw [List.foldl_cons, ih, Environment.mapLoc_setIvar, List.map_cons, List.foldl_cons]
  have hbindings : (p.mapLoc ρ).bindings (values.map (Value.mapLoc ρ)) =
      (p.bindings values).map fun q => (q.1, q.2.mapLoc ρ) := by
    simp only [bindings, mapLoc, List.zipIdx_map, List.map_map]
    refine List.map_congr_left ?_
    rintro ⟨⟨name, default⟩, i⟩ -
    simp only [Function.comp_apply, Prod.map_apply, List.getElem?_map, id]
    cases values[i]? <;> rfl
  rw [setUp, setUp, Environment.mapLoc_setIvar, hfold, hbindings]

namespace World

/-- A world with all its places changed. -/
def mapLoc (w : World) : World := ⟨w.env.mapLoc ρ, w.store.mapLoc ρ⟩

/-- A world whose places are kept stays what it is. -/
@[simp] lemma mapLoc_id (w : World) : w.mapLoc id = w := by
  simp [mapLoc]

variable {ρ} {w v : World}

/-- The environments of worlds that are the same up to places are the same up to places. -/
lemma env_congr (h : w.mapLoc ρ = v.mapLoc ρ) : w.env.mapLoc ρ = v.env.mapLoc ρ :=
  congrArg World.env h

/-- The arrays of worlds that are the same up to places are the same up to places. -/
lemma store_congr (h : w.mapLoc ρ = v.mapLoc ρ) : w.store.mapLoc ρ = v.store.mapLoc ρ :=
  congrArg World.store h

/-- Worlds with environments and arrays that are the same up to places. -/
lemma mk_congr {e d : Environment} {s t : Store} (henv : e.mapLoc ρ = d.mapLoc ρ)
    (hstore : s.mapLoc ρ = t.mapLoc ρ) : (mk e s).mapLoc ρ = (mk d t).mapLoc ρ := by
  rw [mapLoc, mapLoc, henv, hstore]

end World

/-! ## Halts -/

/-- A signal with the places of the value that it carries changed. -/
def Signal.mapLoc : Signal → Signal
  | breakLoop n => breakLoop n
  | continueLoop => continueLoop
  | returnValue v => returnValue (v.mapLoc ρ)
  | cancel => cancel

/-- A failure with its place changed. -/
def Failure.mapLoc (f : Failure) : Failure := ⟨f.cause, ρ f.loc⟩

/-- A halt with its places changed. -/
def Halt.mapLoc : Halt → Halt
  | failure f => failure (f.mapLoc ρ)
  | signal s => signal (s.mapLoc ρ)

lemma Halt.mapLoc_id (h : Halt) : h.mapLoc id = h := by
  cases h with
  | failure f => rfl
  | signal s => cases s <;> simp [mapLoc, Signal.mapLoc]

/-- Failures at places that agree are the same up to places if they have the same cause. -/
lemma Halt.failure_congr {ρ : Location → Location} {l l' : Location} (h : ρ l = ρ l') (c : Cause) :
    (failure ⟨c, l⟩).mapLoc ρ = (failure ⟨c, l'⟩).mapLoc ρ := by
  simp only [mapLoc, Failure.mapLoc, h]

/-- Halts that are the same up to places: failures with the same cause, or signals of the same
kind. -/
inductive Halt.Twins (ρ : Location → Location) : Halt → Halt → Prop where
  | failure (c : Cause) {l l' : Location} (h : ρ l = ρ l') :
    Twins ρ (.failure ⟨c, l⟩) (.failure ⟨c, l'⟩)
  | breakLoop (n : Nat) : Twins ρ (.signal (.breakLoop n)) (.signal (.breakLoop n))
  | continueLoop : Twins ρ (.signal .continueLoop) (.signal .continueLoop)
  | returnValue {v v' : Value} (h : v.mapLoc ρ = v'.mapLoc ρ) :
    Twins ρ (.signal (.returnValue v)) (.signal (.returnValue v'))
  | cancel : Twins ρ (.signal .cancel) (.signal .cancel)

lemma Halt.twins_of_mapLoc {ρ : Location → Location} {h h' : Halt}
    (heq : h.mapLoc ρ = h'.mapLoc ρ) : Twins ρ h h' := by
  rcases h with ⟨c, l⟩ | s <;> rcases h' with ⟨c', l'⟩ | s' <;>
    simp only [mapLoc, Failure.mapLoc, failure.injEq, Failure.mk.injEq, signal.injEq,
      reduceCtorEq] at heq
  · obtain ⟨rfl, hl⟩ := heq
    exact .failure c hl
  · cases s <;> cases s' <;> simp only [Signal.mapLoc, Signal.breakLoop.injEq,
      Signal.returnValue.injEq, reduceCtorEq] at heq
    · subst heq
      exact .breakLoop _
    · exact .continueLoop
    · exact .returnValue heq
    · exact .cancel

end CommandScript
