import CommandScript.Proofs.Diagnostics
import CommandScript.Proofs.Lines

/-!
# Scripts at other places

Tokens at other places are read as the same statements at other places. Statements at other places
fold to the same statements at other places, if the foldable functions give the same there. After a
line break, statements are read and folded as they are alone.

## Main definitions

* `CommandScript.Computation.Portable`, `CommandScript.Library.Portable` — functions that give the
  same on constants with any arrays, and elsewhere.

## Main results

* `CommandScript.Node.parse_mapLoc`, `CommandScript.Node.parse_between` — statements are read
  elsewhere, and after others, as they are alone.
* `CommandScript.Node.foldAll_moved`, `CommandScript.Node.foldAll_append` — and so they are folded.
* `CommandScript.Library.portable_builtin` — the foldable functions of the language are portable.
-/

namespace CommandScript

variable {why : String → Option String} {ρ : Location → Location}

/-! ## Reading -/

lemma Value.isDynamic_mapLoc (v : Value) : (v.mapLoc ρ).isDynamic = v.isDynamic := by
  cases v <;> rfl

/-- Places that are forgotten may change before. -/
lemma Value.forget_mapLoc (v : Value) :
    (v.mapLoc ρ).mapLoc Location.forget = v.mapLoc Location.forget := by
  induction v with
  | slot n d o f b l ih => simp only [mapLoc, ih, Location.forget]
  | _ => rfl

namespace Node

@[simp] lemma loc_mapLoc (n : Node) : (n.mapLoc ρ).loc = ρ n.loc := by
  cases n with
  | literal v => exact v.loc_mapLoc ρ
  | _ => rfl

@[simp] lemma mapLoc_call (name : String) (args : List Node) (l : Location) :
    (call name args l).mapLoc ρ = call name (args.map (mapLoc ρ)) (ρ l) := by
  rw [mapLoc, mapLocEach_eq]

lemma mapLoc_joined (first : Node) (others : List Node) :
    (first.joined others).mapLoc ρ = (first.mapLoc ρ).joined (others.map (mapLoc ρ)) := by
  cases others with
  | nil => rfl
  | cons n ns => simp [joined]

end Node

namespace Grammar

/-- A token at another place stands for the same expression there. -/
lemma Atom.mapLoc {t : Token} {n : Node} (h : Atom t n) : Atom (t.mapLoc ρ) (n.mapLoc ρ) := by
  cases h <;> constructor

mutual

theorem Slot.mapLoc {m : Nat} {ts : List Token} {n : Node} :
    Slot m ts n → Slot m (ts.map (Token.mapLoc ρ)) (n.mapLoc ρ)
  | .mk level parts => by
    rw [Node.mapLoc_joined]
    exact .mk level parts.mapLoc

theorem Exprs.mapLoc {m : Nat} {ts : List Token} {ns : List Node} :
    Exprs m ts ns → Exprs m (ts.map (Token.mapLoc ρ)) (ns.map (Node.mapLoc ρ))
  | .nil => .nil
  | .cons head tail => by
    rw [List.map_append]
    exact .cons head.mapLoc tail.mapLoc

theorem Expr.mapLoc {m : Nat} {ts : List Token} {n : Node} :
    Expr m ts n → Expr m (ts.map (Token.mapLoc ρ)) (n.mapLoc ρ)
  | .mk head tail => by
    rw [List.map_append]
    exact .mk head.mapLoc tail.mapLoc

theorem Indices.mapLoc {m : Nat} {n n' : Node} {ts : List Token} :
    Indices m n ts n' → Indices m (n.mapLoc ρ) (ts.map (Token.mapLoc ρ)) (n'.mapLoc ρ)
  | .nil => .nil
  | .cons head tail => by
    have htail := tail.mapLoc
    rw [Node.mapLoc_call, ← Node.loc_mapLoc (ρ := ρ)] at htail
    rw [List.map_cons, List.map_append, List.map_cons]
    exact .cons head.mapLoc htail

theorem Primary.mapLoc {m : Nat} {ts : List Token} {n : Node} :
    Primary m ts n → Primary m (ts.map (Token.mapLoc ρ)) (n.mapLoc ρ)
  | .atom h => .atom h.mapLoc
  | .call arguments => by
    rw [List.map_cons, List.map_cons, List.map_append, Node.mapLoc_call]
    exact .call arguments.mapLoc

theorem Arguments.mapLoc {m : Nat} {ts : List Token} {ns : List Node} :
    Grammar.Arguments m ts ns →
      Grammar.Arguments m (ts.map (Token.mapLoc ρ)) (ns.map (Node.mapLoc ρ))
  | .none => .none
  | .last h => .last h.mapLoc
  | .more head tail => by
    rw [List.map_append]
    exact .more head.mapLoc tail.mapLoc

end

/-- The tokens of a script at other places are one. -/
lemma Script.mapLoc {ts : List Token} {ns : List Node} (h : Script ts ns) :
    Script (ts.map (Token.mapLoc ρ)) (ns.map (Node.mapLoc ρ)) := by
  induction h with
  | nil => exact .nil
  | newline _ ih => exact .newline ih
  | last h => exact .last h.mapLoc
  | statement head _ ih =>
    rw [List.map_append]
    exact .statement head.mapLoc ih

end Grammar

/-- What may be written may be written elsewhere. -/
lemma Node.Checked.mapLoc {sig : Signature} {n : Node} (h : n.Checked sig) :
    (n.mapLoc ρ).Checked sig := by
  induction h with
  | literal v => exact .literal _
  | ivar name l => exact .ivar name _
  | var name l => exact .var name _
  | call allowed parts ih =>
    rw [mapLoc_call]
    refine .call (by rwa [List.length_map]) fun n hn => ?_
    obtain ⟨m, hm, rfl⟩ := List.mem_map.1 hn
    exact ih m hm

namespace Node

open Grammar

variable {sig : Signature} {ts us : List Token} {ns ms : List Node}

/-- The statements of a script are read before a line break as they are at the end. -/
lemma parse_of_script (h : Script ts ns) (hall : ∀ n ∈ ns, n.Checked sig)
    (hend : Ends Token.Kind.isNewline us) (hus : parse sig us = .ok ms) :
    parse sig (ts ++ us) = .ok (ns ++ ms) := by
  induction h with
  | nil => exact hus
  | newline _ ih =>
    rw [List.cons_append, parse_newline rfl]
    exact ih hall
  | last h => exact parse_of_slot h (hall _ (.head _)) hend hus
  | @statement ts vs n ns l head _ ih =>
    obtain ⟨hn, hns⟩ := List.forall_mem_cons.1 hall
    have hbreak : Ends Token.Kind.isNewline (⟨.newline, l⟩ :: (vs ++ us)) := by
      rintro t ws ⟨⟩
      rfl
    rw [List.append_assoc, List.cons_append]
    refine parse_of_slot head hn hbreak ?_
    rw [parse_newline rfl]
    exact ih hns

/-- Statements at other places are read as such. -/
lemma parse_mapLoc (h : parse sig ts = .ok ns) :
    parse sig (ts.map (Token.mapLoc ρ)) = .ok (ns.map (mapLoc ρ)) := by
  obtain ⟨hscript, hall⟩ := script_of_parse h
  have hmoved : ∀ n ∈ ns.map (mapLoc ρ), n.Checked sig := by
    intro n hn
    obtain ⟨m, hm, rfl⟩ := List.mem_map.1 hn
    exact (hall m hm).mapLoc
  have hread := parse_of_script hscript.mapLoc hmoved (fun _ _ h => by cases h) (parse_nil.2 rfl)
  rwa [List.append_nil, List.append_nil] at hread

/-- Two scripts one below the other are read as the statements of both. -/
lemma parse_between {sep : List Token} (hsep : Token.Between ts us sep)
    (hts : parse sig ts = .ok ns) (hus : parse sig us = .ok ms) :
    parse sig (ts ++ (sep ++ us)) = .ok (ns ++ ms) := by
  obtain ⟨hscript, hall⟩ := script_of_parse hts
  unfold Token.Between at hsep
  split at hsep
  · next hnone =>
    subst hsep
    rw [List.nil_append]
    rcases hnone with rfl | rfl
    · obtain rfl := parse_nil.1 hts
      exact hus
    · exact parse_of_script hscript hall (fun _ _ h => by cases h) hus
  · obtain ⟨l, rfl⟩ := hsep
    refine parse_of_script hscript hall ?_ ?_
    · rintro t ws ⟨⟩
      rfl
    · rw [List.singleton_append, parse_newline rfl]
      exact hus

end Node

/-! ## Folding -/

/-- What a function gives on constants it gives with any arrays, and elsewhere: put at the place of
the call it moves along, and the arrays stay as they are. A function that makes an array is not of
this sort, for which array it makes depends on how many there are. -/
def Computation.Portable (ρ : Location → Location) (c : Computation) : Prop :=
  ∀ {loc : Location} {args : List Value} {s s' : Store} {v : Value},
    (∀ a ∈ args, a.isDynamic = false) → c.run loc args s = (.ok v, s') → ∀ t, ∃ v',
      c.run (ρ loc) (args.map (Value.mapLoc ρ)) t = (.ok v', t) ∧
        v'.relocate (ρ loc) = (v.relocate loc).mapLoc ρ

/-- A foldable call folds to what it gives. -/
lemma Computation.fold_eq_ok {c : Computation} {name : String} {loc : Location}
    {args : List Value} {s t : Store} {v : Value} :
    c.fold name loc args s = (.ok v, t) ↔ c.run loc args s = (.ok v, t) := by
  unfold fold
  rcases c.run loc args s with ⟨(_ | _) | u, s⟩ <;> constructor <;> intro h <;> cases h <;> rfl

/-- A library whose foldable functions give the same with any arrays, and elsewhere. -/
def Library.Portable (ρ : Location → Location) (lib : Library) : Prop :=
  ∀ {name e c}, lib.find? name = some e → e.behaviour = .compute c → c.foldable = true →
    c.Portable ρ

namespace Node

variable {lib : Library}

lemma static?_mapLoc (n : Node) : (n.mapLoc ρ).static? = n.static?.map (Value.mapLoc ρ) := by
  cases n with
  | literal v =>
    simp only [mapLoc, static?, Value.isDynamic_mapLoc]
    split <;> rfl
  | _ => rfl

lemma mapM_static?_mapLoc (ns : List Node) :
    (ns.map (mapLoc ρ)).mapM static? = (ns.mapM static?).map (List.map (Value.mapLoc ρ)) := by
  induction ns with
  | nil => rfl
  | cons n ns ih =>
    simp only [List.map_cons, List.mapM_cons, static?_mapLoc, ih]
    cases n.static? <;> cases ns.mapM static? <;> rfl

/-- Which calls may be replaced does not depend on their places. -/
lemma foldable?_mapLoc (name : String) (args : List Node) :
    foldable? lib name (args.map (mapLoc ρ)) =
      (foldable? lib name args).map fun p => (p.1, p.2.map (Value.mapLoc ρ)) := by
  unfold foldable?
  split
  · rfl
  · rw [mapM_static?_mapLoc]
    cases args.mapM static? with
    | none => rfl
    | some values =>
      cases lib.find? name with
      | none => rfl
      | some e =>
        simp only [Option.map_some, Option.bind_eq_bind, Option.bind_some]
        cases e.behaviour with
        | compute c => by_cases hc : c.foldable = true <;> simp [hc]
        | contact _ | form _ => rfl

/-- A call that folds stays, or it is one of a foldable function on constants and becomes what that
gives, at the place of the call. -/
lemma foldCall_eq_ok {name : String} {args : List Node} {loc : Location} {m : Node} {s s' : Store} :
    foldCall lib name args loc s = (.ok m, s') ↔
      foldable? lib name args = none ∧ m = call name args loc ∧ s' = s ∨
      ∃ c values v, foldable? lib name args = some (c, values) ∧
        c.run loc values s = (.ok v, s') ∧ m = literal (v.relocate loc) := by
  unfold foldCall
  cases hfold : foldable? lib name args with
  | none =>
    constructor
    · intro h
      cases h
      exact .inl ⟨rfl, rfl, rfl⟩
    · rintro (⟨-, rfl, rfl⟩ | ⟨_, _, _, h, -⟩)
      · rfl
      · cases h
  | some p =>
    obtain ⟨c, values⟩ := p
    dsimp only
    constructor
    · intro h
      obtain ⟨v, u, hfolds, hm⟩ := bind_eq_ok.1 h
      cases hm
      exact .inr ⟨_, _, v, rfl, Computation.fold_eq_ok.1 hfolds, rfl⟩
    · rintro (⟨h, -⟩ | ⟨c, values, v, h, hrun, rfl⟩)
      · cases h
      · cases h
        exact bind_of_ok (Computation.fold_eq_ok.2 hrun)

/-- A call that folds does so with any arrays, and elsewhere. -/
lemma foldCall_moved (h : lib.Portable ρ) {name : String} {args : List Node} {loc : Location}
    {m : Node} {s s' : Store} (hm : foldCall lib name args loc s = (.ok m, s')) (t : Store) :
    foldCall lib name (args.map (mapLoc ρ)) (ρ loc) t = (.ok (m.mapLoc ρ), t) := by
  rw [foldCall_eq_ok, foldable?_mapLoc]
  rcases foldCall_eq_ok.1 hm with ⟨hfold, rfl, -⟩ | ⟨c, values, v, hfold, hrun, rfl⟩
  · rw [hfold, mapLoc_call]
    exact .inl ⟨rfl, rfl, rfl⟩
  · obtain ⟨-, hvalues, e, he, hb, hc⟩ := foldable?_eq_some hfold
    obtain ⟨v', hrun', hplace⟩ := h he hb hc (mapM_static?_eq_some hvalues).2 hrun t
    rw [hfold]
    refine .inr ⟨c, _, v', rfl, hrun', ?_⟩
    rw [hplace, mapLoc]

/-- A call folds if its arguments do, from the first to the last, and then the call on these. -/
lemma fold_call_eq_ok {name : String} {args : List Node} {loc : Location} {m : Node}
    {s s' : Store} : fold lib (call name args loc) s = (.ok m, s') ↔
      ∃ args' t, foldAll lib args s = (.ok args', t) ∧
        foldCall lib name args' loc t = (.ok m, s') := by
  rw [fold, bind_eq_ok]

lemma foldAll_cons_eq_ok {n : Node} {ns ms : List Node} {s s' : Store} :
    foldAll lib (n :: ns) s = (.ok ms, s') ↔
      ∃ n' t ns', fold lib n s = (.ok n', t) ∧ foldAll lib ns t = (.ok ns', s') ∧
        ms = n' :: ns' := by
  rw [foldAll, bind_eq_ok]
  constructor
  · rintro ⟨n', t, hn, h⟩
    obtain ⟨ns', u, hns, hms⟩ := bind_eq_ok.1 h
    cases hms
    exact ⟨n', t, ns', hn, hns, rfl⟩
  · rintro ⟨n', t, ns', hn, hns, rfl⟩
    exact ⟨n', t, hn, bind_of_ok hns⟩

mutual

/-- An expression that folds does so with any arrays, and elsewhere. -/
theorem fold_moved (h : lib.Portable ρ) : (n : Node) → {m : Node} → {s s' : Store} →
    fold lib n s = (.ok m, s') → ∀ t, fold lib (n.mapLoc ρ) t = (.ok (m.mapLoc ρ), t)
  | literal v, _, _, _, hm, _ => by cases hm; rfl
  | ivar _ _, _, _, _, hm, _ => by cases hm; rfl
  | var _ _, _, _, _, hm, _ => by cases hm; rfl
  | call name args loc, m, s, s', hm, t => by
    obtain ⟨args', u, hargs, hcall⟩ := fold_call_eq_ok.1 hm
    rw [mapLoc_call]
    exact fold_call_eq_ok.2 ⟨_, t, foldAll_moved h args hargs t, foldCall_moved h hcall t⟩

/-- Expressions that fold do so with any arrays, and elsewhere. -/
theorem foldAll_moved (h : lib.Portable ρ) : (ns : List Node) → {ms : List Node} →
    {s s' : Store} → foldAll lib ns s = (.ok ms, s') →
    ∀ t, foldAll lib (ns.map (mapLoc ρ)) t = (.ok (ms.map (mapLoc ρ)), t)
  | [], _, _, _, hms, _ => by cases hms; rfl
  | n :: ns, ms, s, s', hms, t => by
    obtain ⟨n', u, ns', hn, hns, rfl⟩ := foldAll_cons_eq_ok.1 hms
    exact foldAll_cons_eq_ok.2 ⟨_, t, _, fold_moved h n hn t, foldAll_moved h ns hns t, rfl⟩

end

/-- Statements fold after others as they do alone. -/
lemma foldAll_append {ns ms ns' ms' : List Node} {s t u : Store}
    (hns : foldAll lib ns s = (.ok ns', t)) (hms : foldAll lib ms t = (.ok ms', u)) :
    foldAll lib (ns ++ ms) s = (.ok (ns' ++ ms'), u) := by
  induction ns generalizing ns' s with
  | nil =>
    cases hns
    exact hms
  | cons n ns ih =>
    obtain ⟨n', v, rest, hn, hrest, rfl⟩ := foldAll_cons_eq_ok.1 hns
    exact foldAll_cons_eq_ok.2 ⟨n', v, _, hn, ih hrest, rfl⟩

end Node

/-! ## The foldable functions of the language -/

namespace Compute

variable {α β : Type} {P : α → Prop}

/-- A computation gives a value where one that agrees with it does. -/
lemma Agrees.of_ok {R : α → β → Prop} {x : Compute α} {y : Compute β} (h : Agrees ρ R x y)
    {s t : Store} {a : α} (hx : x s = (.ok a, t)) : ∃ b u, y s = (.ok b, u) ∧ R a b := by
  have hends := h ⟨{}, s⟩ ⟨{}, s⟩ rfl
  simp only [Run.ofCompute, hx] at hends
  rcases hends with ⟨_, hfalse, -⟩ | ⟨hends, -⟩
  · exact hfalse.elim
  · rcases hy : y s with ⟨e | b, u⟩
    · rw [hy] at hends
      cases hends
    · rw [hy] at hends
      cases hends with
      | ok hab => exact ⟨b, u, rfl, hab⟩

/-- A computation all of whose values have a property. -/
def Gives (P : α → Prop) (x : Compute α) : Prop := ∀ s a t, x s = (.ok a, t) → P a

lemma Gives.pure {a : α} (ha : P a) : Gives P (Pure.pure a) := by
  rintro s _ t ⟨⟩
  exact ha

lemma Gives.ofExcept (loc : Location) {r : Except Cause α} (h : ∀ a, r = .ok a → P a) :
    Gives P (Compute.ofExcept loc r) := by
  intro s a t ha
  cases r with
  | error c => cases ha
  | ok b =>
    cases ha
    exact h a rfl

/-- The values of a computation are those of its last part. -/
lemma Gives.bind {x : Compute β} {f : β → Compute α} (h : ∀ b, Gives P (f b)) :
    Gives P (x >>= f) := by
  intro s a t ha
  obtain ⟨b, u, -, hb⟩ := bind_eq_ok.1 ha
  exact h b u a t hb

end Compute

namespace Value

/-- A character of a text is no slot. -/
lemma isSlot_of_character {text index : String} {loc : Location} {v : Value}
    (h : character text index loc = .ok v) : v.isSlot = false := by
  unfold character at h
  cases hi : indexOf index with
  | error c =>
    rw [hi] at h
    cases h
  | ok i =>
    simp only [hi, Bind.bind, Except.bind, pure, Except.pure, throw, throwThe,
      MonadExceptOf.throw] at h
    split at h
    · cases h
    · split at h <;> cases h
      rfl

/-- An element of a constant is no slot. -/
lemma isSlot_of_element {s : Store} {index : String} {loc : Location} {u v : Value}
    (hu : u.isDynamic = false) (h : u.element s index loc = .ok v) : v.isSlot = false := by
  cases u with
  | string t l => exact isSlot_of_character h
  | array | slot => exact Bool.noConfusion hu
  | _ => cases h

/-- Values that are no slots have one place, so those that are the same up to it and stand where
the other one moved to are moved. -/
lemma eq_mapLoc_of_forget {v v' : Value} (hv : v.isSlot = false)
    (hsame : v.Same Location.forget v') (hloc : v'.loc = ρ v.loc) : v' = v.mapLoc ρ := by
  cases v <;> cases v' <;>
    simp_all [Same, mapLoc, loc, Location.forget, isSlot]

end Value

open Builtin Compute in
/-- On constants, the foldable functions of the language give no slots. -/
lemma isSlot_of_foldable : ∀ e ∈ builtins why, ∀ c, e.behaviour = .compute c → c.foldable = true →
    ∀ loc args, (∀ v ∈ args, v.isDynamic = false) → Gives (·.isSlot = false) (c.run loc args) := by
  have hnumber : ∀ (n : Number) (loc : Location), (n.toValue loc).isSlot = false := by
    rintro (_ | _) _ <;> rfl
  have hjoined : ∀ separator loc args,
      Gives (·.isSlot = false) (textResult (joined separator) loc args) :=
    fun _ _ _ => .bind fun _ => .pure rfl
  have hmapText : ∀ f loc args, Gives (·.isSlot = false) (mapText f loc args) :=
    fun _ _ _ => .bind fun _ => .pure rfl
  have hcomparison : ∀ test loc args, Gives (·.isSlot = false) (comparison test loc args) :=
    fun _ _ _ => .bind fun _ => .bind fun _ => .pure rfl
  have haccumulate : ∀ start op loc args,
      Gives (·.isSlot = false) (accumulate start op loc args) :=
    fun _ _ loc _ => .bind fun n => .pure (hnumber n loc)
  have hbinary : ∀ op loc args, Gives (·.isSlot = false) (binary op loc args) :=
    fun _ loc _ => .bind fun _ => .bind fun _ => .bind fun n => .pure (hnumber n loc)
  rw [forall_computations]
  simp only [Bool.false_eq_true, false_implies, true_implies, true_and, hjoined, hmapText,
    hcomparison, haccumulate, hbinary, implies_true, and_true]
  refine ⟨fun loc args h => ?_, fun _ _ _ => .bind fun _ => .pure rfl, fun _ _ _ => .pure rfl,
    fun _ _ _ => .pure rfl, fun _ _ _ => .bind fun _ => .bind fun _ => .bind fun _ => .pure rfl,
    fun _ _ _ => .bind fun _ => .pure rfl, fun _ _ _ => .bind fun _ => .pure rfl,
    fun _ _ _ => .bind fun _ => .bind fun _ => .bind fun _ => .pure rfl,
    fun loc _ _ => .bind fun _ => .bind fun _ => .ofExcept loc fun _ => Value.isSlot_of_character⟩
  exact .bind fun _ => .bind fun _ => .ofExcept loc fun _ =>
    Value.isSlot_of_element (static_argument h 0)

/-- What the foldable functions of the language give on constants they give with any arrays, and
elsewhere. -/
lemma Library.portable_builtin (ρ : Location → Location) : (builtin why).Portable ρ := by
  intro name e c he hb hc loc args s s' v hstatic hrun t
  obtain ⟨hmem, -⟩ := mem_of_find?_builtin he
  have hconst := (builtin_foldable he hb hc).1
  have hstatic' : ∀ a ∈ args.map (Value.mapLoc ρ), a.isDynamic = false := by
    intro a ha
    obtain ⟨u, hu, rfl⟩ := List.mem_map.1 ha
    exact u.isDynamic_mapLoc.trans (hstatic u hu)
  have hsame : Value.SameEach Location.forget args (args.map (Value.mapLoc ρ)) := by
    refine map_eq_map_iff_forall₂.1 ?_
    rw [List.map_map]
    exact List.map_congr_left fun u _ => u.forget_mapLoc.symm
  have hblind : Compute.Agrees Location.forget (Value.Same Location.forget) (c.run loc args)
      (c.run (ρ loc) (args.map (Value.mapLoc ρ))) :=
    blind_of_compute Location.forget e hmem c hb rfl hsame
  have hsteady := hconst loc args hstatic
  cases hsteady with
  | fails f h => cases (h s).symm.trans hrun
  | gives u hu h =>
    cases (h s).symm.trans hrun
    obtain ⟨v', t', hrun', hv'⟩ := hblind.of_ok (h t)
    cases hconst (ρ loc) _ hstatic' with
    | fails f h' => cases (h' t).symm.trans hrun'
    | gives u' hu' h' =>
      cases (h' t).symm.trans hrun'
      have hslot := isSlot_of_foldable e hmem c hb hc loc args hstatic s v s hrun
      refine ⟨v', h' t, ?_⟩
      rw [← hu', v'.relocate_loc, ← hu, v.relocate_loc]
      exact Value.eq_mapLoc_of_forget hslot hv' (hu'.trans (congrArg ρ hu.symm))

end CommandScript
