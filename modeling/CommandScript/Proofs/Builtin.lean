import CommandScript.Builtin
import CommandScript.Script
import Mathlib.Data.List.Basic
import Mathlib.Data.List.Nodup
import Mathlib.Tactic.Lemma

/-!
# The library of the language

What is found in the library of the functions of the language: registering them one after another
refuses none, so that every name finds the function that has it.

## Main definitions

* `CommandScript.Text.NonBlank` — a text that holds more than blanks.

## Main results

* `CommandScript.Library.find?_registerAll` — what is found after functions with new and distinct
  names were registered.
* `CommandScript.forall_computations` — what holds of the computations of the language, function by
  function.
* `CommandScript.Library.find?_builtin` — every name finds the function of the language that has it.
-/

namespace CommandScript

variable {why : String → Option String}

/-! ## Texts that are not blank -/

namespace Text

/-- A text with a character that is not blank. -/
def NonBlank (s : String) : Prop := ∃ c ∈ s.toList, isBlank c = false

/-- Joined texts hold what one of them holds. -/
lemma nonBlank_append {s t : String} : NonBlank (s ++ t) ↔ NonBlank s ∨ NonBlank t := by
  simp only [NonBlank, String.toList_append, List.mem_append, or_and_right, exists_or]

/-- A text that starts with a character that is not blank. -/
lemma NonBlank.ofList {c : Char} {cs : List Char} (hc : isBlank c = false) :
    NonBlank (String.ofList (c :: cs)) :=
  ⟨c, by rw [String.toList_ofList]; exact .head cs, hc⟩

/-- Something is left of a text without the blanks at its ends if it is not blank. -/
lemma NonBlank.isEmpty_trim {s : String} (h : NonBlank s) : (trim s).isEmpty = false := by
  obtain ⟨c, hmem, hc⟩ := h
  -- a character that is not blank survives the loss of the blanks at either end
  have hkeep : ∀ l : List Char, c ∈ l → c ∈ l.dropWhile isBlank := by
    intro l hl
    induction l with
    | nil => exact hl
    | cons a l ih =>
      rw [List.dropWhile_cons]
      split
      · next ha =>
        refine ih (List.mem_of_ne_of_mem ?_ hl)
        rintro rfl
        exact absurd (ha.symm.trans hc) (by decide)
      · exact hl
  have hstrip : c ∈ strip s.toList := by
    unfold strip stripEnd stripStart
    exact List.mem_reverse.2 (hkeep _ (List.mem_reverse.2 (hkeep _ hmem)))
  rw [Bool.eq_false_iff]
  intro hempty
  have hnil : strip s.toList = [] := by
    have htrim := congrArg String.toList (String.isEmpty_iff.1 hempty)
    rwa [trim, String.toList_ofList] at htrim
  rw [hnil] at hstrip
  exact absurd hstrip (List.not_mem_nil)

end Text

/-! ## Registering functions -/

namespace Library

/-- A function that can be registered, if its name is new. -/
structure Registrable (e : Entry) : Prop where
  docs : Text.NonBlank e.docs
  arity : e.arity.isEmpty = false

/-- A function with a new name is registered. -/
lemma register_eq {lib : Library} {e : Entry} (he : Registrable e) (h : lib.find? e.name = none) :
    lib.register e = .ok (lib.insert e h) := by
  simp only [register, he.docs.isEmpty_trim, he.arity, h, Bool.false_eq_true, if_false, dif_pos]

/-- Functions with new and distinct names are registered, and then every name finds the function
that has it, or what it found before. -/
lemma find?_registerAll {es : List Entry} (hreg : ∀ e ∈ es, Registrable e)
    (hnodup : (es.map Entry.name).Nodup) (lib : Library)
    (hnew : ∀ e ∈ es, lib.find? e.name = none) :
    ∃ lib', lib.registerAll es = .ok lib' ∧
      ∀ name, lib'.find? name = (es.find? (·.name == name)).or (lib.find? name) := by
  induction es generalizing lib with
  | nil => exact ⟨lib, rfl, fun name => rfl⟩
  | cons e es ih =>
    have he := hnew e (.head es)
    rw [List.map_cons, List.nodup_cons] at hnodup
    obtain ⟨hfresh, hnodup⟩ := hnodup
    have hnew' : ∀ d ∈ es, (lib.insert e he).find? d.name = none := by
      intro d hd
      have hne : e.name ≠ d.name := fun h => hfresh (h ▸ List.mem_map_of_mem hd)
      rw [find?_insert, if_neg hne]
      exact hnew d (.tail e hd)
    obtain ⟨lib', hlib, hfind⟩ := ih (fun d hd => hreg d (.tail e hd)) hnodup _ hnew'
    refine ⟨lib', ?_, fun name => ?_⟩
    · unfold registerAll at hlib ⊢
      rw [List.foldlM_cons, register_eq (hreg e (.head es)) he]
      exact hlib
    · rw [hfind, find?_insert, List.find?_cons]
      by_cases hname : e.name = name
      · -- no later function has this name
        have hnone : es.find? (·.name == name) = none := by
          rw [List.find?_eq_none]
          intro d hd hdn
          exact hfresh (List.mem_map.2 ⟨d, hd, (eq_of_beq hdn).trans hname.symm⟩)
        simp only [hname, hnone, beq_self_eq_true, if_true, Option.none_or, Option.some_or]
      · simp only [hname, if_false, beq_eq_false_iff_ne.2 hname]

end Library

/-! ## The functions of the language -/

/-- The explanations of invalid patterns matter to the match of patterns only. -/
lemma forall_builtins {P : Entry → Prop} (h : ∀ e ∈ builtins, P e) (hm : P (Builtin.regMatch why)) :
    ∀ e ∈ builtins why, P e := by
  intro e he
  by_cases hmatch : e = Builtin.regMatch why
  · exact hmatch ▸ hm
  · refine h e ?_
    simp only [builtins, Builtin.textual, List.mem_append, List.mem_cons, hmatch, false_or] at he ⊢
    tauto

open Builtin in
/-- Every function of the language has a documentation. -/
lemma nonBlank_docs : ∀ e ∈ builtins why, Text.NonBlank e.docs := by
  simp only [builtins, general, numeric, logical, Builtin.control, textual, digests, contacts,
    List.forall_mem_append, List.forall_mem_cons, List.not_mem_nil, false_implies, implies_true,
    and_true, sconcat, concat, array, arrayGet, arraySize, arrayPush, length, isNull, typeof, add,
    subtract, multiply, divide, modulo, inc, dec, equals, lt, gt, lte, gte, ifElse, conjunction,
    disjunction, negation, assign, forLoop, foreach, breakLoop, continueLoop, returnValue, die,
    proc, eval, toUpper, toLower, trim, regMatch, replace, charAt, rot13, md5, sha1, sha256, msg,
    player, runas, Text.nonBlank_append]
  and_intros
  all_goals repeat' apply Or.inl
  all_goals exact .ofList rfl

open Builtin in
/-- What holds of the computations of the language, function by function. -/
lemma forall_computations {P : Entry → Computation → Prop} :
    (∀ e ∈ builtins why, ∀ c, e.behaviour = .compute c → P e c) ↔
      P sconcat { foldable := true, run := textResult (joined " ") } ∧
      P concat { foldable := true, run := textResult (joined "") } ∧
      P array { run := Compute.newArray } ∧
      P arrayGet { foldable := true, run := elementAt } ∧
      P arraySize { run := sizeOfArray } ∧
      P arrayPush { run := pushToArray } ∧
      P length { foldable := true, run := lengthOf } ∧
      P isNull { foldable := true, run := nullTest } ∧
      P typeof { foldable := true, run := typeOf } ∧
      P add { foldable := true, run := accumulate (.int 0) (Number.add "add") } ∧
      P subtract { foldable := true, run := binary (Number.sub "subtract") } ∧
      P multiply { foldable := true, run := accumulate (.int 1) (Number.mul "multiply") } ∧
      P divide { foldable := true, run := binary (Number.div "divide") } ∧
      P modulo { foldable := true, run := remainderOf } ∧
      P equals { foldable := true, run := equality } ∧
      P lt { foldable := true, run := comparison fun a b => a < b } ∧
      P gt { foldable := true, run := comparison fun a b => b < a } ∧
      P lte { foldable := true, run := comparison fun a b => a ≤ b } ∧
      P gte { foldable := true, run := comparison fun a b => b ≤ a } ∧
      P negation { foldable := true, run := opposite } ∧
      P breakLoop { run := breakOut } ∧
      P continueLoop { run := fun _ _ => Compute.raise .continueLoop } ∧
      P returnValue { run := returnFrom } ∧
      P toUpper { foldable := true, run := mapText Text.upper } ∧
      P toLower { foldable := true, run := mapText Text.lower } ∧
      P trim { foldable := true, run := mapText Text.trim } ∧
      P (regMatch why) { run := matchPattern why } ∧
      P replace { foldable := true, run := replaced } ∧
      P charAt { foldable := true, run := characterAt } ∧
      P rot13 { foldable := true, run := mapText Text.rot13 } ∧
      P md5 { foldable := true, run := mapText (digestText .md5) } ∧
      P sha1 { foldable := true, run := mapText (digestText .sha1) } ∧
      P sha256 { foldable := true, run := mapText (digestText .sha256) } := by
  simp only [builtins, general, numeric, logical, Builtin.control, textual, digests, contacts,
    List.forall_mem_append, List.forall_mem_cons, List.not_mem_nil, false_implies, implies_true,
    and_true, true_and, and_assoc, sconcat, concat, array, arrayGet, arraySize, arrayPush, length,
    isNull, typeof, add, subtract, multiply, divide, modulo, inc, dec, equals, lt, gt, lte, gte,
    ifElse, conjunction, disjunction, negation, assign, forLoop, foreach, breakLoop, continueLoop,
    returnValue, die, proc, eval, toUpper, toLower, trim, regMatch, replace, charAt, rot13, md5,
    sha1, sha256, msg, player, runas, Behaviour.compute.injEq, forall_eq', reduceCtorEq]

/-- The functions of the language have different names. -/
lemma nodup_names : ((builtins why).map Entry.name).Nodup := by
  have hnames : (builtins why).map Entry.name = builtins.map Entry.name := rfl
  rw [hnames]
  decide +kernel

namespace Library

/-- In the library of the language, every name finds the function that has it. -/
lemma find?_builtin (name : String) :
    (builtin why).find? name = (builtins why).find? (·.name == name) := by
  have harity : ∀ e ∈ builtins why, e.arity.isEmpty = false :=
    forall_builtins (by decide +kernel) rfl
  obtain ⟨lib, hlib, hfind⟩ := find?_registerAll
    (fun e he => ⟨nonBlank_docs e he, harity e he⟩) nodup_names .empty fun _ _ => rfl
  have hbuiltin : builtin why = lib := by
    unfold builtin
    rw [hlib]
    rfl
  rw [hbuiltin, hfind]
  exact Option.or_none

/-- What is found in the library of the language is a function of the language. -/
lemma mem_of_find?_builtin {name : String} {e : Entry} (h : (builtin why).find? name = some e) :
    e ∈ builtins why ∧ e.name = name := by
  rw [find?_builtin] at h
  have hname := List.find?_some h
  exact ⟨List.mem_of_find?_eq_some h, eq_of_beq hname⟩

/-- Commands for players are run by `runas` only, which is restricted. -/
lemma builtin_runas {name : String} {e : Entry} (h : (builtin why).find? name = some e)
    (he : e.behaviour = .contact .runas) : name = "runas" ∧ e.restricted = true := by
  have hall : ∀ e ∈ builtins why, (match e.behaviour with
      | .contact .runas => e.name == "runas" && e.restricted
      | _ => true) = true := forall_builtins (by decide +kernel) rfl
  obtain ⟨hmem, rfl⟩ := mem_of_find?_builtin h
  have hcheck := hall e hmem
  rw [he] at hcheck
  simpa only [Bool.and_eq_true, beq_iff_eq] using hcheck

end Library

end CommandScript
