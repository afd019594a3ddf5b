import CommandScript.Proofs.Builtin
import CommandScript.Proofs.Run

/-!
# Foldable functions

A value that is not dynamic, a constant, shows the same text, is the same condition and has the
same elements whatever the arrays hold. On constants the foldable functions of the language are
therefore steady: they give the same value, or fail in the same way, in every store, and leave the
store as it is.

## Main definitions

* `CommandScript.Compute.Steady` — computations that neither depend on the arrays nor change them.
* `CommandScript.Builtin.Constant` — functions that are steady on constants and give a value at the
  place of the call.

## Main results

* `CommandScript.Library.builtin_foldable` — every foldable function of the language is constant,
  unrestricted and follows slots.
-/

namespace CommandScript

variable {why : String → Option String}

/-! ## Constants and the arrays -/

namespace Value

variable {v : Value}

/-- A constant is no slot. -/
lemma isSlot_of_static (h : v.isDynamic = false) : v.isSlot = false := by
  cases v with
  | slot => exact Bool.noConfusion h
  | _ => rfl

/-- Following the slots of constants leads nowhere else. -/
lemma resolved_of_static (h : v.isDynamic = false) : v.resolved = v :=
  resolved_of_not_isSlot (isSlot_of_static h)

/-- The text of a constant is its own. -/
lemma text_of_static (h : v.isDynamic = false) (s : Store) : v.text s = v.plainText := by
  cases v with
  | array | slot => exact Bool.noConfusion h
  | _ => rfl

/-- Whether a constant holds as a condition does not depend on the arrays. -/
lemma isTrue_of_static (h : v.isDynamic = false) (s t : Store) : v.isTrue s = v.isTrue t := by
  cases v with
  | array | slot => exact Bool.noConfusion h
  | _ => rfl

/-- The elements of a constant do not depend on the arrays. -/
lemma element_of_static (h : v.isDynamic = false) (s t : Store) (index : String) (loc : Location) :
    v.element s index loc = v.element t index loc := by
  cases v with
  | array | slot => exact Bool.noConfusion h
  | _ => rfl

/-- A character of a text stands at the place that asks for it. -/
lemma loc_character {text index : String} {loc : Location} {u : Value}
    (h : character text index loc = .ok u) : u.loc = loc := by
  unfold character at h
  cases hi : indexOf index with
  | error c =>
    rw [hi] at h
    cases h
  | ok i =>
    simp only [hi, Bind.bind, Except.bind, pure, Except.pure, throw, throwThe,
      MonadExceptOf.throw] at h
    split at h
    · cases h
    · split at h <;> cases h
      rfl

/-- An element of a constant stands at the place that asks for it. -/
lemma loc_element {s : Store} {index : String} {loc : Location} {u : Value}
    (hv : v.isDynamic = false) (h : v.element s index loc = .ok u) : u.loc = loc := by
  cases v with
  | string t l => exact loc_character h
  | array | slot => exact Bool.noConfusion hv
  | _ => cases h

/-- A value at its own place stays what it is. -/
lemma relocate_loc (v : Value) : v.relocate v.loc = v := by
  cases v <;> rfl

end Value

/-- A number as a value stands at the place given. -/
lemma Number.loc_toValue (loc : Location) (n : Number) : (n.toValue loc).loc = loc := by
  cases n <;> rfl

/-! ## Steady computations -/

namespace Compute

variable {α β : Type} {P : α → Prop} {R : β → Prop}

/-- A computation that neither depends on the arrays nor changes them: it gives one value, which
has the property `P`, or fails in one way. -/
inductive Steady (P : α → Prop) (x : Compute α) : Prop
  | gives (a : α) (ha : P a) (h : ∀ s, x s = (.ok a, s))
  | fails (f : Failure) (h : ∀ s, x s = (.error (.failure f), s))

namespace Steady

/-- A value is there from the start. -/
lemma pure {a : α} (ha : P a) : Steady P (Pure.pure a : Compute α) := .gives a ha fun _ => rfl

/-- A result is there from the start, and so is its failure. -/
lemma ofExcept (loc : Location) {r : Except Cause α} (h : ∀ a, r = .ok a → P a) :
    Steady P (Compute.ofExcept loc r) := by
  cases r with
  | error c => exact .fails ⟨c, loc⟩ fun _ => rfl
  | ok a => exact .gives a (h a rfl) fun _ => rfl

/-- A steady computation may go on with its value. -/
lemma bind {x : Compute α} {f : α → Compute β} (hx : Steady P x) (hf : ∀ a, P a → Steady R (f a)) :
    Steady R (x >>= f) := by
  cases hx with
  | fails e h => exact .fails e fun s => bind_of_error (h s)
  | gives a ha h =>
    have hs : ∀ s, (x >>= f) s = f a s := fun s => bind_of_ok (h s)
    cases hf a ha with
    | fails e he => exact .fails e fun s => (hs s).trans (he s)
    | gives b hb he => exact .gives b hb fun s => (hs s).trans (he s)

/-- A computation may look at the arrays if what it sees does not matter. -/
lemma get {f : Store → Compute β} (y : Compute β) (h : ∀ s, f s = y) (hy : Steady R y) :
    Steady R (MonadState.get >>= f) := by
  have hs : ∀ s, (MonadState.get >>= f : Compute β) s = y s := fun s => congrFun (h s) s
  cases hy with
  | fails e he => exact .fails e fun s => (hs s).trans (he s)
  | gives b hb he => exact .gives b hb fun s => (hs s).trans (he s)

/-- The text of a constant is there from the start. -/
lemma textOf_bind {v : Value} (hv : v.isDynamic = false) {f : String → Compute β}
    (hf : ∀ t, Steady R (f t)) : Steady R (textOf v >>= f) := by
  have htext : Steady (· = v.plainText) (textOf v) :=
    .gives v.plainText rfl fun s => congrArg (fun t => (Except.ok t, s)) (v.text_of_static hv s)
  exact htext.bind fun t _ => hf t

/-- A computation goes on with a result, unless that has failed. -/
lemma ofExcept_bind (loc : Location) {r : Except Cause α} {f : α → Compute β}
    (hf : ∀ a, Steady R (f a)) : Steady R (Compute.ofExcept loc r >>= f) :=
  bind (ofExcept (P := fun _ => True) loc fun _ _ => trivial) fun a _ => hf a

end Steady

end Compute

/-! ## The foldable functions -/

namespace Builtin

open Compute

variable {args : List Value}

/-- Arguments that are not given count as void, so that among constants every one is constant. -/
lemma static_argument (h : ∀ v ∈ args, v.isDynamic = false) (i : Nat) :
    (argument args i).isDynamic = false := by
  unfold argument
  cases hi : args[i]? with
  | none => rfl
  | some v => exact h v (List.mem_of_getElem? hi)

/-- A function that is steady on constants, and gives a value at the place of the call. -/
def Constant (run : Location → List Value → Compute Value) : Prop :=
  ∀ loc args, (∀ v ∈ args, v.isDynamic = false) → Steady (·.loc = loc) (run loc args)

/-- The texts of constants, joined. -/
lemma constant_joined (separator : String) : Constant (textResult (joined separator)) := by
  intro loc args h
  refine .gives (.string (separator.intercalate (args.map Value.plainText)) loc) rfl fun s => ?_
  have htexts : args.map (Value.text s) = args.map Value.plainText :=
    List.map_congr_left fun v hv => v.text_of_static (h v hv) s
  rw [← htexts]
  rfl

/-- An element of a constant, which is a character of a text. -/
lemma constant_elementAt : Constant elementAt := by
  intro loc args h
  have h₀ := static_argument h 0
  refine .textOf_bind (static_argument h 1) fun index => ?_
  have hstore := fun s => Value.element_of_static h₀ s .empty index loc
  refine .get _ (fun s => congrArg (ofExcept loc) (hstore s)) ?_
  exact .ofExcept loc fun u hu => Value.loc_element h₀ hu

/-- The length of the text of a constant. -/
lemma constant_lengthOf : Constant lengthOf := by
  intro loc args h
  have h₀ := static_argument h 0
  refine .gives (.int (Int64.ofNat (argument args 0).plainText.length) loc) rfl fun s => ?_
  unfold lengthOf
  generalize argument args 0 = v at h₀ ⊢
  cases v with
  | array | slot => exact Bool.noConfusion h₀
  | _ => rfl

lemma constant_nullTest : Constant nullTest := fun _ _ _ => .pure rfl

lemma constant_typeOf : Constant typeOf := fun _ _ _ => .pure rfl

/-- The opposite of a condition. -/
lemma constant_opposite : Constant opposite := by
  intro loc args h
  refine .gives (.boolean (!(argument args 0).isTrue .empty) loc) rfl fun s => ?_
  rw [← Value.isTrue_of_static (static_argument h 0) s]
  rfl

/-- Numbers combined one after another. -/
lemma constant_accumulate (start : Number) (op : Number → Number → Except Cause Number) :
    Constant (accumulate start op) := fun loc _ _ =>
  .ofExcept_bind loc fun n => .pure (n.loc_toValue loc)

/-- Two numbers combined. -/
lemma constant_binary (op : Number → Number → Except Cause Number) : Constant (binary op) :=
  fun loc _ _ =>
    .ofExcept_bind loc fun _ =>
      .ofExcept_bind loc fun _ =>
        .ofExcept_bind loc fun n => .pure (n.loc_toValue loc)

/-- A remainder. -/
lemma constant_remainderOf : Constant remainderOf := fun loc _ _ =>
  .ofExcept_bind loc fun _ =>
    .ofExcept_bind loc fun _ =>
      .ofExcept_bind loc fun _ => .pure rfl

/-- Two numbers compared. -/
lemma constant_comparison (test : Float → Float → Bool) : Constant (comparison test) :=
  fun loc _ _ =>
    .ofExcept_bind loc fun _ =>
      .ofExcept_bind loc fun _ => .pure rfl

/-- Constants compared as numbers or as texts. -/
lemma constant_equality : Constant equality := by
  intro loc args h
  refine .gives (.boolean (areEqual .empty (argument args 0) (argument args 1)) loc) rfl fun s => ?_
  have hstore : areEqual s (argument args 0) (argument args 1) =
      areEqual .empty (argument args 0) (argument args 1) := by
    simp only [areEqual, Value.text_of_static (static_argument h _)]
  rw [← hstore]
  rfl

/-- A text made from the text of a constant. -/
lemma constant_mapText (f : String → String) : Constant (mapText f) := fun _ _ h =>
  .textOf_bind (static_argument h 0) fun _ => .pure rfl

/-- A text with occurrences of another replaced. -/
lemma constant_replaced : Constant replaced := fun _ _ h =>
  .textOf_bind (static_argument h 0) fun _ =>
    .textOf_bind (static_argument h 1) fun _ =>
      .textOf_bind (static_argument h 2) fun _ => .pure rfl

/-- A character of the text of a constant. -/
lemma constant_characterAt : Constant characterAt := fun loc _ h =>
  .textOf_bind (static_argument h 0) fun _ =>
    .textOf_bind (static_argument h 1) fun _ =>
      .ofExcept loc fun _ hu => Value.loc_character hu

end Builtin

open Builtin in
/-- The foldable functions of the language are steady on constants. -/
lemma constant_of_foldable : ∀ e ∈ builtins why, ∀ c, e.behaviour = .compute c → c.foldable = true →
    Constant c.run := by
  rw [forall_computations]
  simp only [Bool.false_eq_true, false_implies, true_implies, true_and]
  simp only [constant_joined, constant_elementAt, constant_lengthOf, constant_nullTest,
    constant_typeOf, constant_accumulate, constant_binary, constant_remainderOf, constant_equality,
    constant_comparison, constant_opposite, constant_mapText, constant_replaced,
    constant_characterAt, and_self]

/-- A foldable function of the language is steady on constants, unrestricted, and has its arguments
followed to their values. -/
lemma Library.builtin_foldable {name : String} {e : Entry} {c : Computation}
    (h : (builtin why).find? name = some e) (he : e.behaviour = .compute c)
    (hc : c.foldable = true) :
    Builtin.Constant c.run ∧ e.restricted = false ∧ c.resolves = true := by
  have hall : ∀ e ∈ builtins why, e.foldable = true → e.restricted = false ∧ e.resolves = true :=
    forall_builtins (by decide +kernel) (by rintro ⟨⟩)
  have hmem := (mem_of_find?_builtin h).1
  have hfoldable : e.foldable = true := by simp only [Entry.foldable, he, hc]
  have hcheck := hall e hmem hfoldable
  rw [Entry.resolves, he] at hcheck
  exact ⟨constant_of_foldable e hmem c he hc, hcheck⟩

end CommandScript
