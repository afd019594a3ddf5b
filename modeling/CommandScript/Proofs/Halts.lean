import CommandScript.Proofs.Builtin
import CommandScript.Proofs.Run

/-!
# What functions halt with

A function of the language declares the kinds of the failures and the kind of the signal that it may
halt with. Its computation, or its contact with the actor and the server, keeps to that on all
arguments, in every store and every world.

## Main definitions

* `CommandScript.Halt.In` — halts of some kinds.
* `CommandScript.FailsIn` — results that have failed, if at all, with causes of some kinds only.

## Main results

* `CommandScript.halts_of_compute` — the computations of the language halt as they declare.
* `CommandScript.keeps_of_contact` — the contacts halt as they declare and define no procedures.
-/

namespace CommandScript

variable {why : String → Option String}

/-- A halt with a failure of one of some kinds, or with a signal of one kind if there is one. -/
def Halt.In (thrown : List Failure.Kind) (signal : Option Signal.Kind) : Halt → Prop
  | .failure f => f.kind ∈ thrown
  | .signal s => signal = some s.kind

/-! ## Results that may have failed -/

/-- A result has not failed, or with a cause of one of some kinds. -/
def FailsIn {α : Type} (ks : List Failure.Kind) (r : Except Cause α) : Prop :=
  ∀ c, r = .error c → c.kind ∈ ks

namespace FailsIn

variable {α β : Type} {ks ks' : List Failure.Kind} {r : Except Cause α}

lemma ok (a : α) : FailsIn ks (.ok a) := fun _ h => by cases h

lemma error {c : Cause} (h : c.kind ∈ ks) : FailsIn ks (.error c : Except Cause α) := by
  rintro _ ⟨⟩
  exact h

lemma mono (h : FailsIn ks r) (hks : ks ⊆ ks') : FailsIn ks' r := fun c hc => hks (h c hc)

lemma bind {f : α → Except Cause β} (h : FailsIn ks r) (hf : ∀ a, FailsIn ks (f a)) :
    FailsIn ks (r >>= f) := by
  cases r with
  | error c => exact error (h c rfl)
  | ok a => exact hf a

lemma map {f : α → β} (h : FailsIn ks r) : FailsIn ks (r.map f) := by
  cases r with
  | error c => exact error (h c rfl)
  | ok a => exact ok _

end FailsIn

namespace Value

/-- A value that is no number has the wrong type. -/
lemma failsIn_number (v : Value) : FailsIn [.cast] v.number := by
  unfold number
  split
  · exact .ok _
  · exact .ok _
  · exact .ok _
  · dsimp only
    split
    · exact .ok _
    · split
      · exact .ok _
      · exact .error (by simp [Cause.kind])
  · exact .error (by simp [Cause.kind])

/-- A text that is no index is badly written. -/
lemma failsIn_indexOf (index : String) : FailsIn [.format] (indexOf index) := by
  unfold indexOf
  split
  · exact .ok _
  · exact .error (by simp [Cause.kind])

lemma failsIn_character (text index : String) (loc : Location) :
    FailsIn [.format, .indexOverflow] (character text index loc) := by
  refine ((failsIn_indexOf index).mono (by simp)).bind fun i => ?_
  dsimp only
  split
  · exact .error (by simp [Cause.kind])
  · split
    · exact .ok _
    · exact .error (by simp [Cause.kind])

lemma failsIn_element (s : Store) (v : Value) (index : String) (loc : Location) :
    FailsIn [.cast, .format, .indexOverflow] (v.element s index loc) := by
  unfold element
  split
  · exact (failsIn_character _ index loc).mono (by simp)
  · refine ((failsIn_indexOf index).mono (by simp)).bind fun i => ?_
    dsimp only
    split
    · exact .ok _
    · exact .error (by simp [Cause.kind])
  · exact .error (by simp [Cause.kind])

end Value

namespace Number

/-- An integer result may be out of range. -/
lemma failsIn_exact (f : String) (n : Int) : FailsIn [.range] (exact f n) := by
  unfold exact
  split
  · exact .ok _
  · exact .error (by simp [Cause.kind])

lemma failsIn_combine (f : String) (onInts : Int → Int → Int) (onDoubles : Float → Float → Float)
    (a b : Number) : FailsIn [.range] (combine f onInts onDoubles a b) := by
  unfold combine
  split
  · exact failsIn_exact f _
  · exact .ok _

lemma failsIn_negate (f : String) (a : Number) : FailsIn [.range] (a.negate f) := by
  cases a with
  | int n => exact failsIn_exact f _
  | double x => exact .ok _

lemma failsIn_div (f : String) (a b : Number) : FailsIn [.range] (div f a b) := by
  unfold div
  split
  · exact .error (by simp [Cause.kind])
  · split
    · split
      · exact failsIn_exact f _
      · exact .ok _
    · exact .ok _

lemma failsIn_remainder (f : String) (x n : Int64) : FailsIn [.range] (remainder f x n) := by
  unfold remainder
  split
  · exact .error (by simp [Cause.kind])
  · split
    · exact .ok _
    · exact .error (by simp [Cause.kind])

end Number

/-! ## Computations -/

namespace Compute.HaltsIn

variable {α : Type} {ks : List Failure.Kind} {sig : Option Signal.Kind}

lemma fail {loc : Location} {c : Cause} (h : c.kind ∈ ks) :
    (Compute.fail loc c : Compute α).HaltsIn (Halt.In ks sig) := by
  rintro s _ ⟨⟩
  exact h

lemma ofExcept (loc : Location) {r : Except Cause α} (h : FailsIn ks r) :
    (Compute.ofExcept loc r).HaltsIn (Halt.In ks sig) := by
  cases r with
  | error c => exact fail (h c rfl)
  | ok a => exact pure a

end Compute.HaltsIn

namespace Builtin

open Compute

variable {ks : List Failure.Kind} {sig : Option Signal.Kind}

/-- A function whose computation halts with failures and signals of some kinds only. -/
def Halts (ks : List Failure.Kind) (sig : Option Signal.Kind)
    (run : Location → List Value → Compute Value) : Prop :=
  ∀ loc args, (run loc args).HaltsIn (Halt.In ks sig)

lemma halts_joined (separator : String) : Halts ks sig (textResult (joined separator)) :=
  fun _ _ => .bind (.bind .get fun _ => .pure _) fun _ => .pure _

lemma halts_newArray : Halts ks sig newArray := fun loc args => .newArray loc args

lemma halts_elementAt : Halts [.cast, .format, .indexOverflow] sig elementAt := fun loc args =>
  .bind (.textOf _) fun index => .bind .get fun s =>
    .ofExcept loc (Value.failsIn_element s (argument args 0) index loc)

/-- What is no array has the wrong type. -/
lemma haltsIn_arrayOf (function : String) (loc : Location) (v : Value) :
    (arrayOf function loc v).HaltsIn (Halt.In [.cast] sig) := by
  unfold arrayOf
  split
  · exact .pure _
  · exact .fail (by simp [Cause.kind])

lemma halts_sizeOfArray : Halts [.cast] sig sizeOfArray := fun loc _ =>
  .bind (haltsIn_arrayOf _ loc _) fun _ => .bind .get fun _ => .pure _

lemma halts_pushToArray : Halts [.cast] sig pushToArray := fun loc _ =>
  .bind (haltsIn_arrayOf _ loc _) fun _ => .bind (.of_ok fun _ => ⟨_, rfl⟩) fun _ => .pure _

lemma halts_lengthOf : Halts ks sig lengthOf := fun _ _ => .bind .get fun _ => .pure _

lemma halts_nullTest : Halts ks sig nullTest := fun _ _ => .pure _

lemma halts_typeOf : Halts ks sig typeOf := fun _ _ => .pure _

/-- Values combined one after another have to be numbers, with results in range. -/
lemma failsIn_combineAll {op : Number → Number → Except Cause Number}
    (hop : ∀ a b, FailsIn [.range] (op a b)) (acc : Number) (vs : List Value) :
    FailsIn [.cast, .range] (combineAll op acc vs) := by
  induction vs generalizing acc with
  | nil => exact .ok acc
  | cons v vs ih =>
    refine (v.failsIn_number.mono (by simp)).bind fun n => ?_
    exact ((hop acc n).mono (by simp)).bind fun a => ih a

lemma halts_accumulate (start : Number) {op : Number → Number → Except Cause Number}
    (hop : ∀ a b, FailsIn [.range] (op a b)) : Halts [.cast, .range] sig (accumulate start op) :=
  fun loc args => .bind (.ofExcept loc (failsIn_combineAll hop start args)) fun _ => .pure _

lemma halts_binary {op : Number → Number → Except Cause Number}
    (hop : ∀ a b, FailsIn [.range] (op a b)) : Halts [.cast, .range] sig (binary op) :=
  fun loc args =>
    .bind (.ofExcept loc ((argument args 0).failsIn_number.mono (by simp))) fun a =>
    .bind (.ofExcept loc ((argument args 1).failsIn_number.mono (by simp))) fun b =>
    .bind (.ofExcept loc ((hop a b).mono (by simp))) fun _ => .pure _

lemma halts_remainderOf : Halts [.cast, .range] sig remainderOf := fun loc args =>
  .bind (.ofExcept loc ((argument args 0).failsIn_number.map.mono (by simp))) fun x =>
  .bind (.ofExcept loc ((argument args 1).failsIn_number.map.mono (by simp))) fun n =>
  .bind (.ofExcept loc ((Number.failsIn_remainder _ x n).mono (by simp))) fun _ => .pure _

lemma halts_equality : Halts ks sig equality := fun _ _ => .bind .get fun _ => .pure _

lemma halts_comparison (test : Float → Float → Bool) : Halts [.cast] sig (comparison test) :=
  fun loc args =>
    .bind (.ofExcept loc (argument args 0).failsIn_number.map) fun _ =>
    .bind (.ofExcept loc (argument args 1).failsIn_number.map) fun _ => .pure _

lemma halts_opposite : Halts ks sig opposite := fun _ _ => .bind .get fun _ => .pure _

/-- A number of loops to leave has to be positive. -/
lemma halts_breakOut : Halts [.cast, .range] (some .breakLoop) breakOut := by
  intro loc args
  have hleave : ∀ levels : Int64, HaltsIn (Halt.In [.cast, .range] (some .breakLoop))
      (if levels < 1 then do
        let _ ← (fail loc (.badLevels levels) : Compute PUnit)
        raise (.breakLoop (min levels.toNatClampNeg maxLevels))
      else raise (.breakLoop (min levels.toNatClampNeg maxLevels)) : Compute Value) := by
    intro levels
    split
    · exact .bind (.fail (by simp [Cause.kind])) fun _ => .raise rfl
    · exact .raise rfl
  cases args with
  | nil => exact .bind (.pure 1) hleave
  | cons v _ => exact .bind (.ofExcept loc (v.failsIn_number.map.mono (by simp))) hleave

lemma halts_returnFrom : Halts ks (some .returnValue) returnFrom := fun _ _ => .raise rfl

lemma halts_continue : Halts ks (some .continueLoop) fun _ _ => raise .continueLoop :=
  fun _ _ => .raise rfl

lemma halts_mapText (f : String → String) : Halts ks sig (mapText f) := fun _ _ =>
  .bind (.textOf _) fun _ => .pure _

lemma halts_matchPattern : Halts [.format] sig (matchPattern why) := by
  intro loc args
  refine .bind (.textOf _) fun pattern => ?_
  split
  · exact .fail (by simp [Cause.kind])
  · refine .bind (.textOf _) fun subject => ?_
    split
    · exact .newArray loc _
    · exact .newArray loc _

lemma halts_replaced : Halts ks sig replaced := fun _ _ =>
  .bind (.textOf _) fun _ => .bind (.textOf _) fun _ => .bind (.textOf _) fun _ => .pure _

lemma halts_characterAt : Halts [.format, .indexOverflow] sig characterAt := fun loc _ =>
  .bind (.textOf _) fun text => .bind (.textOf _) fun index =>
    .ofExcept loc (Value.failsIn_character text index loc)

end Builtin

open Builtin in
/-- The computations of the language halt with failures and signals of the kinds that they
declare. -/
lemma halts_of_compute : ∀ e ∈ builtins why, ∀ c, e.behaviour = .compute c →
    Halts e.thrown e.signal c.run := by
  rw [forall_computations]
  exact ⟨halts_joined _, halts_joined _, halts_newArray, halts_elementAt, halts_sizeOfArray,
    halts_pushToArray, halts_lengthOf, halts_nullTest, halts_typeOf,
    halts_accumulate _ (Number.failsIn_combine _ _ _), halts_binary (Number.failsIn_combine _ _ _),
    halts_accumulate _ (Number.failsIn_combine _ _ _), halts_binary (Number.failsIn_div _),
    halts_remainderOf, halts_equality, halts_comparison _, halts_comparison _, halts_comparison _,
    halts_comparison _, halts_opposite, halts_breakOut, halts_continue, halts_returnFrom,
    halts_mapText _, halts_mapText _, halts_mapText _, halts_matchPattern, halts_replaced,
    halts_characterAt, halts_mapText _, halts_mapText _, halts_mapText _, halts_mapText _⟩

/-! ## Contacts -/

namespace Contact

variable {I : Bindings Procedure → Prop} {sig : Option Signal.Kind}

/-- A command needs a server, a slash, a player who is online, and a server that runs it. -/
lemma keeps_runCommand (loc : Location) (player command : String) :
    (runCommand loc player command).Keeps I (Halt.In [.format, .nullPointer] sig) := by
  have hfail : ∀ {α : Type} {c : Cause}, c.kind ∈ [Failure.Kind.format, .nullPointer] →
      (Run.fail loc c : Run α).Keeps I (Halt.In [.format, .nullPointer] sig) := fun h => .fail h
  refine .withEnv fun e _ => ?_
  split
  · exact hfail (by simp [Cause.kind])
  · split
    · refine .withEnv fun e _ => ?_
      split
      · refine .withEnv fun e _ => .bind (.of_ok (fun _ => rfl) fun _ => ⟨(), rfl⟩) fun _ => ?_
        split
        · exact .pure _
        · exact hfail (by simp [Cause.kind])
      · exact hfail (by simp [Cause.kind])
    · exact hfail (by simp [Cause.kind])

lemma keeps_msg (loc : Location) (args : List Value) :
    (run .msg loc args).Keeps I (Halt.In [.nullPointer] sig) := by
  have hsend : ((do
      let message ← Run.textOf (argument args 0)
      Run.modifyEnv (·.send message)
      return .void loc) : Run Value).Keeps I (Halt.In [.nullPointer] sig) :=
    .bind (.textOf _) fun message => .bind (.send message) fun _ => .pure _
  refine .withEnv fun e _ => ?_
  split
  · exact .bind (.fail (by simp [Halt.In, Failure.kind, Cause.kind])) fun _ => hsend
  · exact hsend

lemma keeps_player (loc : Location) (args : List Value) {H : Halt → Prop} :
    (run .player loc args).Keeps I H := by
  refine .withEnv fun e _ => ?_
  split
  · exact .pure _
  · exact .pure _

lemma keeps_runas (loc : Location) (args : List Value) :
    (run .runas loc args).Keeps I (Halt.In [.format, .nullPointer] sig) :=
  .bind (.textOf _) fun player => .bind (.textOf _) fun command =>
    keeps_runCommand loc player command

lemma keeps_die (loc : Location) (args : List Value) {ks : List Failure.Kind} :
    (run .die loc args).Keeps I (Halt.In ks (some .cancel)) := by
  have hraise : (Run.raise .cancel : Run Value).Keeps I (Halt.In ks (some .cancel)) := .raise rfl
  cases args with
  | nil => exact hraise
  | cons v _ => exact .bind (.textOf v) fun message => .bind (.send message) fun _ => hraise

end Contact

open Builtin in
/-- The contacts of the language halt with failures and signals of the kinds that they declare, and
they define no procedures. -/
lemma keeps_of_contact {I : Bindings Procedure → Prop} : ∀ e ∈ builtins why, ∀ c,
    e.behaviour = .contact c → ∀ loc args,
    (c.run loc args).Keeps I (Halt.In e.thrown e.signal) := by
  simp only [builtins, general, numeric, logical, Builtin.control, textual, digests, contacts,
    List.forall_mem_append, List.forall_mem_cons, List.not_mem_nil, false_implies, implies_true,
    and_true, sconcat, concat, array, arrayGet, arraySize, arrayPush, length, isNull, typeof, add,
    subtract, multiply, divide, modulo, inc, dec, equals, lt, gt, lte, gte, ifElse, conjunction,
    disjunction, negation, assign, forLoop, foreach, breakLoop, continueLoop, returnValue, die,
    proc, eval, toUpper, toLower, trim, regMatch, replace, charAt, rot13, md5, sha1, sha256, msg,
    player, runas, Behaviour.contact.injEq, forall_eq', reduceCtorEq]
  simp only [Contact.keeps_msg, Contact.keeps_player, Contact.keeps_runas, Contact.keeps_die,
    implies_true, and_self]

end CommandScript
