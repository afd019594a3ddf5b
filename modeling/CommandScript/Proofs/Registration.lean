import CommandScript.Description
import CommandScript.Proofs.Builtin
import Mathlib.Data.List.Induction
import Mathlib.Data.List.TakeWhile

/-!
# Registering functions

Functions are registered one after another. A function can be registered after others if it is
documented, accepts some number of arguments and has a name that none of them has; the first one
that cannot is reported, with the first of these conditions that it breaks. What results does not
depend on the order: the library finds each function under its name and lists all by name.

## Main definitions

* `CommandScript.Library.Admissible` — a function that can be registered after others.
* `CommandScript.Library.Offence` — why a function cannot be registered after others.
* `CommandScript.Library.Orderly` — functions that can be registered one after another.

## Main results

* `CommandScript.Library.exists_registerAll`, `CommandScript.Library.registerAll_eq_error_iff` —
  registering ends with a library of exactly the functions, or at the first that cannot be
  registered.
* `CommandScript.Library.registration_is_orderless` — which functions can be registered, and that
  their order does not matter.
-/

namespace CommandScript

/-- Nothing is left of a text without the blanks at its ends exactly if it is blank. -/
lemma Text.isEmpty_trim_iff {s : String} : (trim s).isEmpty = true ↔ ¬ NonBlank s := by
  refine ⟨fun h hs => ?_, fun h => ?_⟩
  · rw [hs.isEmpty_trim] at h
    contradiction
  · have hall : ∀ c ∈ s.toList, isBlank c = true := by simpa [NonBlank] using h
    simp [trim, strip, stripStart, stripEnd, List.dropWhile_eq_nil_iff.2 hall]

namespace Library

/-! ## One function after others -/

/-- A function that can be registered after others: it is documented, accepts some number of
arguments, and has a name that they do not have. -/
structure Admissible (earlier : List Entry) (e : Entry) : Prop where
  docs : Text.NonBlank e.docs
  arity : ∃ n, e.arity.accepts n = true
  name : ∀ d ∈ earlier, d.name ≠ e.name

/-- Why a function cannot be registered after others. The documentation is looked at first, then the
argument counts, then the name. -/
inductive Offence (earlier : List Entry) (e : Entry) : RegisterError → Prop
  | missingDocs : ¬ Text.NonBlank e.docs → Offence earlier e (.missingDocs e.name)
  | emptyArity : Text.NonBlank e.docs → e.arity = .fixed [] →
      Offence earlier e (.emptyArity e.name)
  | duplicate : Text.NonBlank e.docs → (∃ n, e.arity.accepts n = true) →
      (∃ d ∈ earlier, d.name = e.name) → Offence earlier e (.duplicate e.name)

/-- Functions that can be registered one after another. -/
def Orderly (es : List Entry) : Prop :=
  ∀ earlier e later, es = earlier ++ e :: later → Admissible earlier e

variable {lib : Library} {e : Entry} {es fs : List Entry} {err : RegisterError}

lemma isEmpty_arity_iff : e.arity.isEmpty = true ↔ e.arity = .fixed [] := by
  cases e.arity <;> simp [Arity.isEmpty]

lemma exists_accepts_iff : (∃ n, e.arity.accepts n = true) ↔ e.arity.isEmpty = false := by
  rw [← Bool.not_eq_true, Arity.isEmpty_iff]
  simp

/-- A function that can be registered is put in its place. -/
lemma register_of_admissible (h : Admissible lib.entries e) :
    ∃ hnew, lib.register e = .ok (lib.insert e hnew) :=
  ⟨find?_eq_none.2 h.name, register_eq ⟨h.docs, exists_accepts_iff.1 h.arity⟩ _⟩

/-- A function that cannot be registered is refused, for the first reason. -/
lemma register_of_offence (h : Offence lib.entries e err) : lib.register e = .error err := by
  cases h with
  | missingDocs hd => simp [register, Text.isEmpty_trim_iff.2 hd]
  | emptyArity hd ha => simp [register, hd.isEmpty_trim, isEmpty_arity_iff.2 ha]
  | duplicate hd ha hn =>
    obtain ⟨d, hd', hname⟩ := hn
    have hold : lib.find? e.name ≠ none := fun hnone => find?_eq_none.1 hnone d hd' hname
    simp [register, hd.isEmpty_trim, exists_accepts_iff.1 ha, hold]

lemma admissible_or_offence (earlier : List Entry) (e : Entry) :
    Admissible earlier e ∨ ∃ err, Offence earlier e err := by
  by_cases hd : Text.NonBlank e.docs
  · by_cases ha : ∃ n, e.arity.accepts n = true
    · by_cases hn : ∃ d ∈ earlier, d.name = e.name
      · exact .inr ⟨_, .duplicate hd ha hn⟩
      · exact .inl ⟨hd, ha, fun d hm he => hn ⟨d, hm, he⟩⟩
    · rw [exists_accepts_iff, Bool.not_eq_false, isEmpty_arity_iff] at ha
      exact .inr ⟨_, .emptyArity hd ha⟩
  · exact .inr ⟨_, .missingDocs hd⟩

/-- Only the names of the others matter, not their order. -/
lemma Admissible.congr (hperm : es.Perm fs) (h : Admissible es e) : Admissible fs e :=
  ⟨h.docs, h.arity, fun d hd => h.name d (hperm.mem_iff.2 hd)⟩

lemma Offence.congr (hperm : es.Perm fs) (h : Offence es e err) : Offence fs e err := by
  cases h with
  | missingDocs hd => exact .missingDocs hd
  | emptyArity hd ha => exact .emptyArity hd ha
  | duplicate hd ha hn =>
    obtain ⟨d, hm, hname⟩ := hn
    exact .duplicate hd ha ⟨d, hperm.mem_iff.1 hm, hname⟩

/-! ## Functions one after another -/

lemma perm_insertSorted (e : Entry) (as : List Entry) : (insertSorted e as).Perm (e :: as) := by
  induction as with
  | nil => exact .refl _
  | cons a as ih =>
    rw [insertSorted]
    split
    · exact (ih.cons a).trans (.swap e a as)
    · exact .refl _

/-- Functions are registered after others on top of these. -/
lemma registerAll_append (h : empty.registerAll es = .ok lib) (fs : List Entry) :
    empty.registerAll (es ++ fs) = lib.registerAll fs := by
  have hok (f : Library → Except RegisterError Library) : (Except.ok lib >>= f) = f lib := rfl
  rw [registerAll, List.foldlM_append, ← registerAll, h, hok]
  rfl

lemma Orderly.concat (h : Orderly es) (he : Admissible es e) : Orderly (es ++ [e]) := by
  intro earlier d later hsplit
  rcases List.eq_nil_or_concat later with rfl | ⟨later, x, rfl⟩
  · obtain ⟨rfl, hde⟩ := List.append_inj' hsplit rfl
    cases hde
    exact he
  · refine h earlier d later ?_
    rw [List.concat_eq_append, ← List.cons_append, ← List.append_assoc] at hsplit
    exact (List.append_inj' hsplit rfl).1

lemma Orderly.of_concat (h : Orderly (es ++ [e])) : Orderly es ∧ Admissible es e :=
  ⟨fun earlier d later hs => h earlier d (later ++ [e]) (by simp [hs]), h es e [] rfl⟩

/-- Functions that can be registered one after another give a library of exactly these. -/
lemma exists_registerAll (h : Orderly es) :
    ∃ lib, empty.registerAll es = .ok lib ∧ lib.entries.Perm es := by
  induction es using List.reverseRecOn with
  | nil => exact ⟨empty, rfl, .refl _⟩
  | append_singleton es e ih =>
    obtain ⟨hes, he⟩ := h.of_concat
    obtain ⟨lib, hlib, hperm⟩ := ih hes
    obtain ⟨hnew, hreg⟩ := register_of_admissible (he.congr hperm.symm)
    refine ⟨lib.insert e hnew, ?_, ?_⟩
    · rw [registerAll_append hlib, registerAll, List.foldlM_cons, hreg]
      rfl
    · have hconcat : (es ++ [e]).Perm (e :: es) := List.perm_append_singleton e es
      exact ((perm_insertSorted e _).trans (hperm.cons e)).trans hconcat.symm

/-- Functions cannot be registered any further than to the first that cannot be registered. -/
lemma registerAll_of_offence {later : List Entry} (h : Orderly es) (he : Offence es e err) :
    empty.registerAll (es ++ e :: later) = .error err := by
  obtain ⟨lib, hlib, hperm⟩ := exists_registerAll h
  have hreg := register_of_offence (he.congr hperm.symm)
  rw [registerAll_append hlib, registerAll, List.foldlM_cons, hreg]
  rfl

/-- Functions can be registered one after another, or there is a first that cannot be. -/
lemma orderly_or_offence (es : List Entry) :
    Orderly es ∨ ∃ earlier e later err,
      es = earlier ++ e :: later ∧ Orderly earlier ∧ Offence earlier e err := by
  induction es using List.reverseRecOn with
  | nil => exact .inl fun earlier e later h => by simp at h
  | append_singleton es e ih =>
    obtain hes | ⟨earlier, d, later, err, rfl, hearlier, hd⟩ := ih
    · obtain he | ⟨err, he⟩ := admissible_or_offence es e
      · exact .inl (hes.concat he)
      · exact .inr ⟨es, e, [], err, rfl, hes, he⟩
    · exact .inr ⟨earlier, d, later ++ [e], err, by simp, hearlier, hd⟩

/-- Functions that were registered could be, and the library has exactly these. -/
lemma orderly_of_registerAll (h : empty.registerAll es = .ok lib) :
    Orderly es ∧ lib.entries.Perm es := by
  obtain hes | ⟨earlier, e, later, err, rfl, hearlier, he⟩ := orderly_or_offence es
  · obtain ⟨lib', hlib, hperm⟩ := exists_registerAll hes
    rw [hlib] at h
    cases h
    exact ⟨hes, hperm⟩
  · rw [registerAll_of_offence hearlier he] at h
    contradiction

/-- What is reported is the offence of the first function that cannot be registered. -/
lemma registerAll_eq_error_iff : empty.registerAll es = .error err ↔ ∃ earlier e later,
    es = earlier ++ e :: later ∧ Orderly earlier ∧ Offence earlier e err := by
  constructor
  · intro h
    obtain hes | ⟨earlier, e, later, err', rfl, hearlier, he⟩ := orderly_or_offence es
    · obtain ⟨lib, hlib, -⟩ := exists_registerAll hes
      rw [hlib] at h
      contradiction
    · rw [registerAll_of_offence hearlier he] at h
      cases h
      exact ⟨earlier, e, later, rfl, hearlier, he⟩
  · rintro ⟨earlier, e, later, rfl, hearlier, he⟩
    exact registerAll_of_offence hearlier he

/-! ## The order does not matter -/

/-- A library is determined by its functions. -/
lemma eq_of_perm {lib lib' : Library} (h : lib.entries.Perm lib'.entries) : lib = lib' := by
  obtain ⟨as, ha⟩ := lib
  obtain ⟨bs, hb⟩ := lib'
  have hsame : as = bs :=
    h.eq_of_pairwise (fun _ _ _ _ h₁ h₂ => absurd h₁ (String.lt_asymm h₂)) ha hb
  subst hsame
  rfl

/-- No two functions of a library have one name. -/
lemma eq_of_name_eq {d : Entry} (hd : d ∈ lib.entries) (he : e ∈ lib.entries)
    (hname : d.name = e.name) : d = e := by
  have hnodup : (lib.entries.map Entry.name).Nodup := by
    refine List.pairwise_map.2 (lib.sorted.imp ?_)
    intro a b hlt heq
    exact String.lt_irrefl b.name (heq ▸ hlt)
  exact List.inj_on_of_nodup_map hnodup hd he hname

lemma find?_eq_some_iff {name : String} :
    lib.find? name = some e ↔ e ∈ lib.entries ∧ e.name = name := by
  refine ⟨fun h => ⟨List.mem_of_find?_eq_some h, ?_⟩, ?_⟩
  · have hname := List.find?_some h
    exact beq_iff_eq.1 hname
  · rintro ⟨he, rfl⟩
    cases h : lib.find? e.name with
    | none => exact absurd rfl (find?_eq_none.1 h e he)
    | some d =>
      have hname := List.find?_some h
      rw [eq_of_name_eq (List.mem_of_find?_eq_some h) he (beq_iff_eq.1 hname)]

/-- Functions can be registered one after another exactly if all are documented and accept some
number of arguments, and their names are distinct. -/
lemma orderly_iff : Orderly es ↔
    (∀ e ∈ es, Text.NonBlank e.docs ∧ ∃ n, e.arity.accepts n = true) ∧
      es.Pairwise (·.name ≠ ·.name) := by
  induction es using List.reverseRecOn with
  | nil => simp [Orderly]
  | append_singleton es e ih =>
    have hconcat : Orderly (es ++ [e]) ↔ Orderly es ∧ Admissible es e :=
      ⟨Orderly.of_concat, fun h => h.1.concat h.2⟩
    have hadmissible : Admissible es e ↔ (Text.NonBlank e.docs ∧ ∃ n, e.arity.accepts n = true) ∧
        ∀ d ∈ es, d.name ≠ e.name :=
      ⟨fun h => ⟨⟨h.docs, h.arity⟩, h.name⟩, fun h => ⟨h.1.1, h.1.2, h.2⟩⟩
    rw [hconcat, ih, hadmissible, List.forall_mem_append, List.pairwise_append]
    simp only [List.forall_mem_singleton, List.pairwise_singleton, true_and]
    exact and_and_and_comm

lemma Orderly.perm (h : Orderly es) (hperm : es.Perm fs) : Orderly fs := by
  rw [orderly_iff] at h ⊢
  exact ⟨fun e he => h.1 e (hperm.mem_iff.2 he), hperm.pairwise h.2 Ne.symm⟩

/-- Functions are registered one after another if each of them is documented, accepts some number of
arguments and has a new name; else the first that does not is refused, for the first of these
reasons. Then each is found under its name, all are listed by name, and any other order gives the
same. -/
theorem registration_is_orderless (es : List Entry) :
    ((∃ lib, empty.registerAll es = .ok lib) ↔ Orderly es) ∧
    (∀ err, empty.registerAll es = .error err ↔ ∃ earlier e later,
      es = earlier ++ e :: later ∧ Orderly earlier ∧ Offence earlier e err) ∧
    ∀ lib, empty.registerAll es = .ok lib →
      (∀ name e, lib.find? name = some e ↔ e ∈ es ∧ e.name = name) ∧
      (lib.entries.Perm es ∧ lib.entries.Pairwise (·.name < ·.name)) ∧
      (lib.describe.Perm (es.map Entry.description) ∧ lib.describe.Pairwise (·.name < ·.name)) ∧
      ∀ fs : List Entry, fs.Perm es → ∃ lib', empty.registerAll fs = .ok lib' ∧
        (∀ name, lib'.find? name = lib.find? name) ∧ lib'.describe = lib.describe := by
  refine ⟨⟨fun ⟨lib, hlib⟩ => (orderly_of_registerAll hlib).1, fun h => ?_⟩,
    fun err => registerAll_eq_error_iff, fun lib hlib => ?_⟩
  · obtain ⟨lib, hlib, -⟩ := exists_registerAll h
    exact ⟨lib, hlib⟩
  · obtain ⟨horderly, hperm⟩ := orderly_of_registerAll hlib
    refine ⟨fun name e => ?_, ⟨hperm, lib.sorted⟩, ⟨hperm.map _, List.pairwise_map.2 lib.sorted⟩,
      fun fs hfs => ?_⟩
    · rw [find?_eq_some_iff, hperm.mem_iff]
    · obtain ⟨lib', hlib', hperm'⟩ := exists_registerAll (horderly.perm hfs.symm)
      have hsame : lib' = lib := eq_of_perm ((hperm'.trans hfs).trans hperm.symm)
      exact ⟨lib', hlib', fun name => by rw [hsame], by rw [hsame]⟩

/-- Two functions of the language, registered in one order and in the other. -/
theorem registration_is_orderless_isNull :
    ∃ lib, empty.registerAll [Builtin.msg, Builtin.isNull] = .ok lib ∧
      lib.find? "msg" = some Builtin.msg ∧ lib.describe.Pairwise (·.name < ·.name) ∧
      ∃ lib', empty.registerAll [Builtin.isNull, Builtin.msg] = .ok lib' ∧
        lib'.describe = lib.describe := by
  have horderly : Orderly [Builtin.msg, Builtin.isNull] := by
    refine orderly_iff.2 ⟨?_, by simp [Builtin.msg, Builtin.isNull]⟩
    simp only [List.forall_mem_cons, List.not_mem_nil, false_implies, implies_true, and_true]
    exact ⟨⟨.ofList rfl, 1, rfl⟩, .ofList rfl, 1, rfl⟩
  obtain ⟨lib, hlib⟩ := (registration_is_orderless [Builtin.msg, Builtin.isNull]).1.2 horderly
  obtain ⟨hfind, -, ⟨-, hsorted⟩, hperm⟩ := (registration_is_orderless _).2.2 lib hlib
  obtain ⟨lib', hlib', -, hsame⟩ := hperm [Builtin.isNull, Builtin.msg] (.swap _ _ _)
  exact ⟨lib, hlib, (hfind _ _).2 ⟨by simp, rfl⟩, hsorted, lib', hlib', hsame⟩

end Library

end CommandScript
