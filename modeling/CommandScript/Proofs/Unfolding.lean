import CommandScript.Store
import Mathlib.Logic.Relation
import Mathlib.Tactic.Lemma

/-!
# The text of a value is that of its unfolding

Arrays may share arrays and contain themselves. A value is unfolded along the paths through the
arrays: every way to come to an array gives a copy of it, but for an array that is already open on
the way, which is only marked. So the unfolding of a value is finite in every store, and the text of
the value is the text of its unfolding.

## Main definitions

* `CommandScript.Unfolding`, `CommandScript.Unfolding.text` — unfoldings, and their texts.
* `CommandScript.Unfolds` — the unfolding of a value in a store.
* `CommandScript.Store.PointsTo`, `CommandScript.Store.Reaches` — the arrays in the cells of an
  array, and those that a value leads to.

## Main results

* `CommandScript.Store.induction_on_path` — arrays can be followed along a path as long as none is
  met twice.
* `CommandScript.Unfolds.unique`, `CommandScript.Value.exists_unfolds` — every value has one
  unfolding, which has the text of the value.
* `CommandScript.Store.arrayText_congr` — the text of an array depends on the arrays that it leads
  to only.
* `CommandScript.Value.text_is_unfolded` — all of this, for values.
-/

namespace CommandScript

open Relation (ReflTransGen TransGen)

/-! ## Unfoldings -/

/-- A value with all that it leads to, as a tree. -/
inductive Unfolding where
  /-- A value that is no array, by its text. -/
  | plain (text : String)
  /-- An array and its cells. -/
  | array (cells : List Unfolding)
  /-- An array that is open further out. -/
  | recursion

namespace Unfolding

mutual

/-- The text of an unfolding: the cells of an array stand between braces, with commas between them,
and an array that is open further out is a mark. -/
def text : Unfolding → String
  | plain t => t
  | array cells => "\x7b" ++ ", ".intercalate (textEach cells) ++ "\x7d"
  | recursion => "*recursion*"

/-- The texts of some unfoldings. -/
def textEach : List Unfolding → List String
  | [] => []
  | t :: ts => t.text :: textEach ts

end

end Unfolding

mutual

/-- The unfolding of a value in a store, where the arrays of a path are open. A slot is unfolded to
what its value is. -/
inductive Unfolds (s : Store) : (path : List Ref) → Value → Unfolding → Prop where
  | plain {path : List Ref} {v : Value} (hslot : v.isSlot = false)
    (harray : ∀ r l, v ≠ .array r l) :
    Unfolds s path v (.plain v.plainText)
  | slot {path : List Ref} {v : Value} {t : Unfolding} (h : Unfolds s path v t)
    (name default : String) (isOptional isFinal : Bool) (l : Location) :
    Unfolds s path (.slot name default isOptional isFinal v l) t
  | recursion {path : List Ref} {r : Ref} (h : r ∈ path) (l : Location) :
    Unfolds s path (.array r l) .recursion
  | array {path : List Ref} {r : Ref} {ts : List Unfolding} (h : r ∉ path)
    (hcells : UnfoldsEach s (r :: path) (s.cells r).toList ts) (l : Location) :
    Unfolds s path (.array r l) (.array ts)

/-- The unfoldings of some values. -/
inductive UnfoldsEach (s : Store) : (path : List Ref) → List Value → List Unfolding → Prop where
  | nil {path : List Ref} : UnfoldsEach s path [] []
  | cons {path : List Ref} {v : Value} {vs : List Value} {t : Unfolding} {ts : List Unfolding}
    (h : Unfolds s path v t) (hs : UnfoldsEach s path vs ts) :
    UnfoldsEach s path (v :: vs) (t :: ts)

end

variable {s s' : Store} {path path' : List Ref} {v : Value} {r q : Ref}

mutual

/-- A value has one unfolding at most. -/
theorem Unfolds.unique {path : List Ref} {v : Value} {t t' : Unfolding} :
    Unfolds s path v t → Unfolds s path v t' → t' = t
  | .plain _ _, .plain _ _ => rfl
  | .plain hslot _, .slot _ _ _ _ _ _ => absurd hslot (by simp [Value.isSlot])
  | .plain _ harray, .recursion _ _ => absurd rfl (harray _ _)
  | .plain _ harray, .array _ _ _ => absurd rfl (harray _ _)
  | .slot _ _ _ _ _ _, .plain hslot _ => absurd hslot (by simp [Value.isSlot])
  | .slot h _ _ _ _ _, .slot h' _ _ _ _ _ => h.unique h'
  | .recursion _ _, .plain _ harray => absurd rfl (harray _ _)
  | .recursion _ _, .recursion _ _ => rfl
  | .recursion h _, .array h' _ _ => absurd h h'
  | .array _ _ _, .plain _ harray => absurd rfl (harray _ _)
  | .array h _ _, .recursion h' _ => absurd h' h
  | .array _ hcells _, .array _ hcells' _ => congrArg Unfolding.array (hcells.unique hcells')

/-- Values have one unfolding each at most. -/
theorem UnfoldsEach.unique {path : List Ref} {vs : List Value} {ts ts' : List Unfolding} :
    UnfoldsEach s path vs ts → UnfoldsEach s path vs ts' → ts' = ts
  | .nil, .nil => rfl
  | .cons h hs, .cons h' hs' => congrArg₂ List.cons (h.unique h') (hs.unique hs')

end

/-- A slot is unfolded as the value behind it. -/
lemma Unfolds.of_resolved {t : Unfolding} (h : Unfolds s path v.resolved t) :
    Unfolds s path v t := by
  fun_induction Value.resolved v with
  | case1 _ _ _ _ b _ ih => exact .slot (ih h) _ _ _ _ _
  | case2 => exact h

/-! ## Arrays that lead to other arrays -/

namespace Store

/-- An array has another one among its cells, as such or behind slots. -/
def PointsTo (s : Store) (r q : Ref) : Prop :=
  ∃ cell ∈ (s.cells r).toList, ∃ l, cell.resolved = .array q l

/-- A value leads to an array: it is that array, as such or behind slots, or an array that leads to
it. -/
def Reaches (s : Store) (v : Value) (r : Ref) : Prop :=
  ∃ q l, v.resolved = .array q l ∧ ReflTransGen s.PointsTo q r

/-- Only arrays of the store have cells. -/
lemma PointsTo.lt_size (h : s.PointsTo r q) : r < s.size := by
  obtain ⟨cell, hcell, -⟩ := h
  refine Nat.lt_of_not_le fun hr => ?_
  have hnone : s.arrays[r]? = none := Array.getElem?_eq_none hr
  simp [cells, hnone] at hcell

/-- What holds of an array that is open on the path, and of any other one if it holds of the arrays
in its cells with that array open, holds of all arrays.

**Proof sketch.** There are only so many arrays that can be opened. -/
lemma induction_on_path (s : Store) {P : List Ref → Ref → Prop}
    (step : ∀ path r, (r ∉ path → ∀ q, s.PointsTo r q → P (r :: path) q) → P path r)
    (path : List Ref) (r : Ref) : P path r := by
  induction h : s.unopened path using Nat.strongRecOn generalizing path r with
  | ind k ih =>
    refine step path r fun hr q hq => ?_
    have hlt : s.unopened (r :: path) < k := h ▸ unopened_cons_lt hq.lt_size hr
    exact ih _ hlt (r :: path) q rfl

end Store

/-! ## The text inside open arrays -/

/-- The text of a value inside some open arrays. -/
def Value.textIn (s : Store) (path : List Ref) (v : Value) : String :=
  match v.resolved with
  | array r _ => s.arrayText path r
  | w => w.plainText

namespace Store

/-- The text of an array, whose cells are inside of it. -/
lemma arrayText_eq (s : Store) (path : List Ref) (r : Ref) :
    s.arrayText path r = if r ∈ path then "*recursion*" else
      "\x7b" ++ ", ".intercalate ((s.cells r).toList.map (Value.textIn s (r :: path))) ++
        "\x7d" := by
  rw [arrayText]
  split
  · rfl
  · split
    · rfl
    · next hr =>
      have hnone : s.arrays[r]? = none := Array.getElem?_eq_none (Nat.le_of_not_lt hr)
      simp [cells, hnone]

/-- The text of an array depends on the cells of the arrays that it leads to, and on which of these
are open. -/
lemma arrayText_congr (hcells : ∀ p, ReflTransGen s.PointsTo r p → s'.cells p = s.cells p)
    (hpath : ∀ p, ReflTransGen s.PointsTo r p → (p ∈ path' ↔ p ∈ path)) :
    s'.arrayText path' r = s.arrayText path r := by
  induction path, r using induction_on_path s generalizing path' with
  | step path r ih =>
    rw [arrayText_eq, arrayText_eq, hcells r .refl]
    by_cases hr : r ∈ path
    · rw [if_pos hr, if_pos ((hpath r .refl).2 hr)]
    · rw [if_neg hr, if_neg (mt (hpath r .refl).1 hr)]
      congr 3
      refine List.map_congr_left fun cell hcell => ?_
      unfold Value.textIn
      cases hv : cell.resolved with
      | array q l =>
        have hq : s.PointsTo r q := ⟨cell, hcell, l, hv⟩
        refine ih hr q hq (fun p hp => hcells p (.head hq hp)) fun p hp => ?_
        rw [List.mem_cons, List.mem_cons, hpath p (.head hq hp)]
      | _ => rfl

end Store

namespace Value

/-- The text of a value depends on the cells of the arrays that it leads to, and on which of these
are open. -/
lemma textIn_congr (hcells : ∀ p, s.Reaches v p → s'.cells p = s.cells p)
    (hpath : ∀ p, s.Reaches v p → (p ∈ path' ↔ p ∈ path)) :
    v.textIn s' path' = v.textIn s path := by
  unfold textIn
  cases hv : v.resolved with
  | array q l =>
    exact Store.arrayText_congr (fun p hp => hcells p ⟨q, l, hv, hp⟩)
      fun p hp => hpath p ⟨q, l, hv, hp⟩
  | _ => rfl

/-- A value is unfolded to its text if the array is that it may lead to. -/
lemma exists_unfolds_of_array (h : ∀ r l, v.resolved = .array r l →
      ∃ t, Unfolds s path (.array r l) t ∧ t.text = s.arrayText path r) :
    ∃ t, Unfolds s path v t ∧ t.text = v.textIn s path := by
  by_cases hv : ∃ r l, v.resolved = .array r l
  · obtain ⟨r, l, hv⟩ := hv
    obtain ⟨t, ht, htext⟩ := h r l hv
    refine ⟨t, .of_resolved (hv ▸ ht), ?_⟩
    rw [htext, textIn, hv]
  · have hne : ∀ r l, v.resolved ≠ .array r l := fun r l h => hv ⟨r, l, h⟩
    refine ⟨.plain v.resolved.plainText, .of_resolved (.plain v.isSlot_resolved hne), ?_⟩
    rw [Unfolding.text, textIn]
    split
    · next h => exact absurd h (hne _ _)
    · rfl

/-- Values are unfolded to their texts if each of them is. -/
lemma exists_unfoldsEach (path : List Ref) (vs : List Value)
    (h : ∀ v ∈ vs, ∃ t, Unfolds s path v t ∧ t.text = v.textIn s path) :
    ∃ ts, UnfoldsEach s path vs ts ∧ Unfolding.textEach ts = vs.map (textIn s path) := by
  induction vs with
  | nil => exact ⟨[], .nil, rfl⟩
  | cons v vs ih =>
    obtain ⟨t, ht, htext⟩ := h v (.head vs)
    obtain ⟨ts, hts, htexts⟩ := ih fun u hu => h u (.tail v hu)
    exact ⟨t :: ts, .cons ht hts, by rw [Unfolding.textEach, htext, htexts, List.map_cons]⟩

/-- Every value has an unfolding, which has the text of the value.

**Proof sketch.** A value that is no array is unfolded at once. An array is unfolded with its cells,
one array further on the path. -/
lemma exists_unfolds (s : Store) (path : List Ref) (v : Value) :
    ∃ t, Unfolds s path v t ∧ t.text = v.textIn s path := by
  have harray : ∀ r l, ∃ t, Unfolds s path (.array r l) t ∧ t.text = s.arrayText path r := by
    intro r l
    induction path, r using Store.induction_on_path s generalizing l with
    | step path r ih =>
      by_cases hr : r ∈ path
      · exact ⟨.recursion, .recursion hr l, by rw [Store.arrayText_eq, if_pos hr, Unfolding.text]⟩
      · obtain ⟨ts, hts, htexts⟩ := exists_unfoldsEach (r :: path) (s.cells r).toList
          fun cell hcell => exists_unfolds_of_array fun q l' hq => ih hr q ⟨cell, hcell, l', hq⟩ l'
        refine ⟨.array ts, .array hr hts l, ?_⟩
        rw [Store.arrayText_eq, if_neg hr, Unfolding.text, htexts]
  exact exists_unfolds_of_array fun r l _ => harray r l

/-- An array that does not lead back to itself has the texts of its cells between braces. -/
lemma text_array (hacyclic : ¬ TransGen s.PointsTo r r) (l : Location) :
    (array r l).text s =
      "\x7b" ++ ", ".intercalate ((s.cells r).toList.map (text s)) ++ "\x7d" := by
  show s.arrayText [] r = _
  rw [Store.arrayText_eq, if_neg List.not_mem_nil]
  congr 3
  refine List.map_congr_left fun cell hcell => ?_
  -- the cell does not lead to the array, so that it does not matter that the array is open
  refine textIn_congr (fun _ _ => rfl) fun p hp => ?_
  obtain ⟨q, l', hq, hqp⟩ := hp
  have hrp : TransGen s.PointsTo r p := .head' ⟨cell, hcell, l', hq⟩ hqp
  have hne : p ≠ r := by
    rintro rfl
    exact hacyclic hrp
  simp [hne]

/-- A cell added to an array is seen by the values only that lead to the array. -/
lemma text_push (h : ¬ s.Reaches v r) (cell : Value) : v.text (s.push r cell) = v.text s := by
  show v.textIn (s.push r cell) [] = v.textIn s []
  refine textIn_congr (fun p hp => ?_) fun _ _ => .rfl
  have hne : r ≠ p := by
    rintro rfl
    exact h hp
  simp only [Store.push, Store.cells, Array.getElem?_modify, if_neg hne]

/-- The text of a value is that of its unfolding.

Whatever the arrays share, and however they contain themselves, a value has exactly one unfolding,
and its text is the text of that. If no array that the value leads to leads back to itself, then
each of these has the texts of its cells between braces, wherever it stands. A cell added to an
array that the value does not lead to leaves the text as it is. -/
theorem text_is_unfolded (s : Store) (v : Value) :
    (∃ t, Unfolds s [] v t ∧ (∀ t', Unfolds s [] v t' → t' = t) ∧ v.text s = t.text) ∧
    ((∀ r, s.Reaches v r → ¬ TransGen s.PointsTo r r) → ∀ r l, s.Reaches v r →
      (array r l).text s =
        "\x7b" ++ ", ".intercalate ((s.cells r).toList.map (text s)) ++ "\x7d") ∧
    ∀ r, ¬ s.Reaches v r → ∀ cell, v.text (s.push r cell) = v.text s := by
  refine ⟨?_, fun h r l hr => text_array (h r hr) l, fun r hr cell => text_push hr cell⟩
  obtain ⟨t, ht, htext⟩ := exists_unfolds s [] v
  exact ⟨t, ht, fun t' ht' => ht.unique ht', htext.symm⟩

/-- Two arrays. The first one holds a number, itself behind a slot, and the second one twice. -/
def entwined : Store where
  arrays := #[
    #[.int 1 .unknown, .slot "a" "" false false (.array 0 .unknown) .unknown, .array 1 .unknown,
      .array 1 .unknown],
    #[.string "x" .unknown]]

/-- The first array shows itself as a mark and the second one in full, twice. The second array leads
to itself only, in no step, so that its text is that of its cell between braces, also after a cell
was added to the first. -/
theorem text_is_unfolded_entwined :
    (∃ t, Unfolds entwined [] (array 0 .unknown) t ∧
      t.text = "\x7b1, *recursion*, \x7bx\x7d, \x7bx\x7d\x7d") ∧
    (∀ r, entwined.Reaches (array 1 .unknown) r → ¬ TransGen entwined.PointsTo r r) ∧
    (array 1 .unknown).text entwined = "\x7bx\x7d" ∧
    ¬ entwined.Reaches (array 1 .unknown) 0 ∧
    ∀ cell, (array 1 .unknown).text (entwined.push 0 cell) = "\x7bx\x7d" := by
  have htext : (array 0 .unknown).text entwined =
      "\x7b1, *recursion*, \x7bx\x7d, \x7bx\x7d\x7d" := by cbv
  have hleaf : ∀ q, ¬ entwined.PointsTo 1 q := by
    rintro q ⟨cell, hcell, l, hl⟩
    obtain rfl := List.mem_singleton.1 hcell
    cases hl
  have hreach : ∀ r, entwined.Reaches (array 1 .unknown) r → r = 1 := by
    rintro r ⟨q, l, hq, hqr⟩
    cases hq
    rcases hqr.cases_head with rfl | ⟨q, hq, -⟩
    · rfl
    · exact absurd hq (hleaf q)
  have hacyclic : ∀ r, entwined.Reaches (array 1 .unknown) r →
      ¬ TransGen entwined.PointsTo r r := by
    intro r hr hrr
    rw [hreach r hr] at hrr
    obtain ⟨q, hq, -⟩ := TransGen.head'_iff.1 hrr
    exact hleaf q hq
  have hself : entwined.Reaches (array 1 .unknown) 1 := ⟨1, .unknown, rfl, .refl⟩
  have hzero : ¬ entwined.Reaches (array 1 .unknown) 0 := fun h => by cases hreach 0 h
  obtain ⟨⟨t, ht, -, htree⟩, -, -⟩ := text_is_unfolded entwined (array 0 .unknown)
  obtain ⟨-, hplain, hpush⟩ := text_is_unfolded entwined (array 1 .unknown)
  have hx : (array 1 .unknown).text entwined = "\x7bx\x7d" :=
    (hplain hacyclic 1 .unknown hself).trans (by cbv)
  exact ⟨⟨t, ht, htree.symm.trans htext⟩, hacyclic, hx, hzero,
    fun cell => (hpush 0 hzero cell).trans hx⟩

end Value

end CommandScript
