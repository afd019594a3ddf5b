import CommandScript.Proofs.Loops

/-!
# Loops over the cells of an array

A loop over an array makes one round for each cell that the array held when the loop started. What
its body does to the array, to other arrays or to the variable of the loop has no influence on that:
before each round the variable is bound to the cell whose turn it is. If a round ends the loop, no
later cell is visited; if none does, there are as many rounds as there were cells.

## Main definitions

* `CommandScript.Run.GoesOn` — the outcomes of a body after which a loop goes on.
* `CommandScript.Rounds` — the rounds of a loop over values: the worlds in which its body is
  evaluated, and how they end.
* `CommandScript.VisitsInOrder` — what it means that a loop visits values in order.

## Main results

* `CommandScript.exists_rounds` — the rounds of a loop over values are those that it runs.
* `CommandScript.Rounds.iterate_next_iff` — a loop over values goes through one stage for each
  round.
* `CommandScript.Rounds.visitsInOrder` — the rounds visit the values in order.
* `CommandScript.Loop.foreach_visits_snapshot` — a loop over an array visits the cells that the
  array held when the loop started.
-/

namespace CommandScript

open Library (builtin)

/-- The world with a script variable bound to a value. -/
def World.bindIvar (w : World) (name : String) (v : Value) : World :=
  { w with env := w.env.setIvar name v }

/-! ## Rounds -/

namespace Run

/-- The outcomes of a body after which a loop goes on: it came to its end, or it said to continue.
-/
inductive GoesOn : Except Stop Value → Prop where
  | ok (v : Value) : GoesOn (.ok v)
  | continueLoop : GoesOn (.error (.halt (.signal .continueLoop)))

/-- What a loop passes on of a stop that is not for it alone: a break is for one loop less. -/
def passedOn : Stop → Stop
  | .halt (.signal (.breakLoop n)) => .halt (.signal (.breakLoop (n - 1)))
  | e => e

/-- A stop that ends a loop and more than that. -/
structure Escapes (e : Stop) : Prop where
  not_goesOn : ¬ GoesOn (.error e)
  not_break : ∀ n ≤ 1, e ≠ .halt (.signal (.breakLoop n))

variable {body : Run Value} {w u : World}

/-- A loop goes on after a round whose body came to its end or said to continue. -/
lemma round_of_goesOn {r : Except Stop Value} (h : body w = (r, u)) (hr : GoesOn r) :
    round body w = (.ok true, u) := by
  unfold round
  rw [h]
  cases hr <;> rfl

/-- A break for one loop ends a loop normally. -/
lemma round_of_break {n : Nat} (h : body w = (.error (.halt (.signal (.breakLoop n))), u))
    (hn : n ≤ 1) : round body w = (.ok false, u) := by
  unfold round
  rw [h]
  exact if_pos hn

/-- Another stop ends a loop and is passed on. -/
lemma round_of_escapes {e : Stop} (h : body w = (.error e, u)) (he : Escapes e) :
    round body w = (.error (passedOn e), u) := by
  unfold round
  rw [h]
  rcases e with (f | s) | _
  · rfl
  · cases s with
    | continueLoop => exact absurd .continueLoop he.not_goesOn
    | breakLoop n => exact if_neg fun hn => he.not_break n hn rfl
    | _ => rfl
  · rfl

/-- A body comes out so that the loop goes on, with a break for one loop, or with a stop that is
passed on. -/
lemma goesOn_or (r : Except Stop Value) :
    GoesOn r ∨ (∃ n ≤ 1, r = .error (.halt (.signal (.breakLoop n)))) ∨
      ∃ e, Escapes e ∧ r = .error e := by
  rcases r with e | v
  · by_cases hgoes : GoesOn (.error e)
    · exact .inl hgoes
    · by_cases hbreak : ∃ n ≤ 1, e = .halt (.signal (.breakLoop n))
      · obtain ⟨n, hn, rfl⟩ := hbreak
        exact .inr (.inl ⟨n, hn, rfl⟩)
      · exact .inr (.inr ⟨e, ⟨hgoes, fun n hn he => hbreak ⟨n, hn, he⟩⟩, rfl⟩)
  · exact .inl (.ok v)

end Run

open Run (GoesOn Escapes passedOn)

/-- The rounds of a loop over values, from a world on: the worlds in which its body is evaluated,
one for each round, and how the rounds end. Before each round the value is stored in the variable.
-/
inductive Rounds (body : Run Value) (name : String) : List Value → World → List World →
    Except Stop Unit × World → Prop where
  | done (w : World) : Rounds body name [] w [] (.ok (), w)
  | goesOn {v : Value} {vs : List Value} {w u : World} {r : Except Stop Value}
    {starts : List World} {out : Except Stop Unit × World}
    (h : body (w.bindIvar name v) = (r, u)) (hr : GoesOn r)
    (hrest : Rounds body name vs u starts out) :
    Rounds body name (v :: vs) w (w.bindIvar name v :: starts) out
  | leaves {v : Value} {vs : List Value} {w u : World} {n : Nat}
    (h : body (w.bindIvar name v) = (.error (.halt (.signal (.breakLoop n))), u)) (hn : n ≤ 1) :
    Rounds body name (v :: vs) w [w.bindIvar name v] (.ok (), u)
  | escapes {v : Value} {vs : List Value} {w u : World} {e : Stop}
    (h : body (w.bindIvar name v) = (.error e, u)) (he : Escapes e) :
    Rounds body name (v :: vs) w [w.bindIvar name v] (.error (passedOn e), u)

/-- The rounds of a loop over values are those that it runs. -/
lemma exists_rounds (body : Run Value) (name : String) (vs : List Value) (w : World) :
    ∃ starts, Rounds body name vs w starts
      (Run.rounds (fun v => Run.modifyEnv (·.setIvar name v)) body vs w) := by
  induction vs generalizing w with
  | nil => exact ⟨[], .done w⟩
  | cons v vs ih =>
    have hstore : Run.modifyEnv (·.setIvar name v) w = (.ok (), w.bindIvar name v) := rfl
    rw [Run.rounds, bind_of_ok hstore]
    rcases hbody : body (w.bindIvar name v) with ⟨r, u⟩
    rcases Run.goesOn_or r with hr | ⟨n, hn, rfl⟩ | ⟨e, he, rfl⟩
    · obtain ⟨starts, hrest⟩ := ih u
      rw [bind_of_ok (Run.round_of_goesOn hbody hr)]
      exact ⟨_, .goesOn hbody hr hrest⟩
    · rw [bind_of_ok (Run.round_of_break hbody hn)]
      exact ⟨_, .leaves hbody hn⟩
    · rw [bind_of_error (Run.round_of_escapes hbody he)]
      exact ⟨_, .escapes hbody he⟩

/-! ## The evaluations of the body -/

open Loop in
/-- After its array, a loop over values goes through one stage for each of its rounds, and through
no others.

**Proof sketch.** By the rounds. A round is the stage at which the loop is, and what follows it is
the next round, or the end. -/
lemma Rounds.iterate_next_iff {ev : Node → Run Value} {fuel : Nat} {source body : Node}
    {name : String} {l loc : Location} {vs : List Value} {w : World} {starts : List World}
    {out : Except Stop Unit × World} (h : Rounds (ev body) name vs w starts out) (k : Nat)
    (s : Stage) (u : World) :
    ((foreach source (.ivar name l) loc).next ev fuel body)^[k]
        ((foreach source (.ivar name l) loc).nextElement vs w) = .going s u ↔
      starts[k]? = some u ∧ s = .element (vs.drop (k + 1)) := by
  -- the stage of a round, and the one that follows it
  have hround : ∀ v vs w, (foreach source (.ivar name l) loc).next ev fuel body
      ((foreach source (.ivar name l) loc).nextElement (v :: vs) w) =
      (foreach source (.ivar name l) loc).afterBody
        ((foreach source (.ivar name l) loc).nextElement vs) (ev body (w.bindIvar name v)) :=
    fun _ _ _ => rfl
  have hfirst : ∀ v vs w, (foreach source (.ivar name l) loc).nextElement (v :: vs) w =
      .going (.element vs) (w.bindIvar name v) := fun _ _ _ => rfl
  induction h generalizing k with
  | done w => simp [nextElement, iterate_next_ended]
  | goesOn h hr hrest ih =>
    cases k with
    | zero => simp [hfirst, and_comm, eq_comm]
    | succ k =>
      rw [Function.iterate_succ_apply, hround, afterBody_eq, Run.round_of_goesOn h hr]
      exact ih k
  | leaves h hn =>
    cases k with
    | zero => simp [hfirst, and_comm, eq_comm]
    | succ k =>
      rw [Function.iterate_succ_apply, hround, afterBody_eq, Run.round_of_break h hn]
      simp [iterate_next_ended]
  | escapes h he =>
    cases k with
    | zero => simp [hfirst, and_comm, eq_comm]
    | succ k =>
      rw [Function.iterate_succ_apply, hround, afterBody_eq, Run.round_of_escapes h he]
      simp [iterate_next_ended]

/-! ## Values visited in order -/

/-- A loop over values visits them in order, from a world on, where its body is evaluated in the
worlds `starts` one after another, and it comes out as given. -/
structure VisitsInOrder (body : Run Value) (name : String) (vs : List Value) (w : World)
    (starts : List World) (loc : Location) (result : Except Stop Value × World) : Prop where
  /-- In the first round, the variable is bound to the first value. -/
  first : ∀ u, starts[0]? = some u → ∃ v, vs[0]? = some v ∧ u = w.bindIvar name v
  /-- A round is followed by another one only if the loop goes on after it. Then the world is that
  in which the body ended, with the variable bound to the next value. -/
  next : ∀ i u u', starts[i]? = some u → starts[i + 1]? = some u' →
    GoesOn (body u).1 ∧ ∃ v, vs[i + 1]? = some v ∧ u' = (body u).2.bindIvar name v
  /-- If the loop goes on after all rounds, then all values were visited, and the result is void. -/
  complete : (∀ u ∈ starts, GoesOn (body u).1) → starts.length = vs.length ∧
    result = (.ok (.void loc), (starts.getLast?.map fun u => (body u).2).getD w)
  /-- A round that ends with a break for one loop is the last, and the result is void. -/
  leaves : ∀ i u u' n, starts[i]? = some u →
    body u = (.error (.halt (.signal (.breakLoop n))), u') → n ≤ 1 →
    starts.length = i + 1 ∧ result = (.ok (.void loc), u')
  /-- A round that ends with another stop is the last, and the stop is passed on. -/
  escapes : ∀ i u u' e, starts[i]? = some u → body u = (.error e, u') → Escapes e →
    starts.length = i + 1 ∧ result = (.error (passedOn e), u')

namespace VisitsInOrder

variable {body : Run Value} {name : String} {v : Value} {vs : List Value} {w u : World}
  {starts : List World} {loc : Location} {r : Except Stop Value}
  {result : Except Stop Value × World}

/-- A round after which the loop goes on comes before those that visit the other values. -/
lemma cons (h : body (w.bindIvar name v) = (r, u)) (hr : GoesOn r)
    (hrest : VisitsInOrder body name vs u starts loc result) :
    VisitsInOrder body name (v :: vs) w (w.bindIvar name v :: starts) loc result where
  first u' hu' := ⟨v, rfl, (Option.some.inj hu').symm⟩
  next i u₁ u₂ h₁ h₂ := by
    cases i with
    | zero =>
      obtain rfl : w.bindIvar name v = u₁ := Option.some.inj h₁
      rw [h]
      exact ⟨hr, hrest.first u₂ h₂⟩
    | succ i => exact hrest.next i u₁ u₂ h₁ h₂
  complete hall := by
    rw [List.forall_mem_cons] at hall
    obtain ⟨hlength, hresult⟩ := hrest.complete hall.2
    refine ⟨congrArg (· + 1) hlength, hresult.trans ?_⟩
    rw [List.getLast?_cons]
    cases starts.getLast? with
    | none => simp [h]
    | some u' => rfl
  leaves i u₁ u₂ n h₁ h₂ hn := by
    cases i with
    | zero =>
      obtain rfl : w.bindIvar name v = u₁ := Option.some.inj h₁
      cases h.symm.trans h₂
      cases hr
    | succ i =>
      obtain ⟨hlength, hresult⟩ := hrest.leaves i u₁ u₂ n h₁ h₂ hn
      exact ⟨congrArg (· + 1) hlength, hresult⟩
  escapes i u₁ u₂ e h₁ h₂ he := by
    cases i with
    | zero =>
      obtain rfl : w.bindIvar name v = u₁ := Option.some.inj h₁
      cases h.symm.trans h₂
      exact absurd hr he.not_goesOn
    | succ i =>
      obtain ⟨hlength, hresult⟩ := hrest.escapes i u₁ u₂ e h₁ h₂ he
      exact ⟨congrArg (· + 1) hlength, hresult⟩

/-- A round after which the loop does not go on is the last. -/
lemma last (h : body (w.bindIvar name v) = (r, u)) (hr : ¬ GoesOn r)
    (hleaves : ∀ n ≤ 1, r = .error (.halt (.signal (.breakLoop n))) → result = (.ok (.void loc), u))
    (hescapes : ∀ e, Escapes e → r = .error e → result = (.error (passedOn e), u)) :
    VisitsInOrder body name (v :: vs) w [w.bindIvar name v] loc result where
  first u' hu' := ⟨v, rfl, (Option.some.inj hu').symm⟩
  next i u₁ u₂ _ h₂ := by simp at h₂
  complete hall := by
    rw [List.forall_mem_singleton, h] at hall
    exact absurd hall hr
  leaves i u₁ u₂ n h₁ h₂ hn := by
    obtain ⟨rfl, rfl⟩ : i = 0 ∧ w.bindIvar name v = u₁ := by
      simpa [List.getElem?_singleton] using h₁
    cases h.symm.trans h₂
    exact ⟨rfl, hleaves n hn rfl⟩
  escapes i u₁ u₂ e h₁ h₂ he := by
    obtain ⟨rfl, rfl⟩ : i = 0 ∧ w.bindIvar name v = u₁ := by
      simpa [List.getElem?_singleton] using h₁
    cases h.symm.trans h₂
    exact ⟨rfl, hescapes e he rfl⟩

end VisitsInOrder

/-- The rounds of a loop visit its values in order. -/
lemma Rounds.visitsInOrder {body : Run Value} {name : String} {vs : List Value} {w : World}
    {starts : List World} {out : Except Stop Unit × World} (h : Rounds body name vs w starts out)
    (loc : Location) :
    VisitsInOrder body name vs w starts loc (out.1.map fun _ => .void loc, out.2) := by
  induction h with
  | done w => exact ⟨by simp, by simp, fun _ => ⟨rfl, rfl⟩, by simp, by simp⟩
  | goesOn h hr hrest ih => exact .cons h hr ih
  | leaves h hn =>
    refine .last h (by rintro ⟨⟩) (fun _ _ _ => rfl) ?_
    rintro e he ⟨⟩
    exact absurd rfl (he.not_break _ hn)
  | escapes h he =>
    refine .last h he.not_goesOn ?_ ?_
    · rintro n hn ⟨⟩
      exact absurd rfl (he.not_break n hn)
    · rintro e' - ⟨⟩
      rfl

/-! ## The whole -/

namespace Loop

variable {lib : Library} {fuel depth : Nat} {source body : Node} {name : String}
  {l loc l' : Location} {w u : World} {v : Value} {r : Ref}

/-- After its array was evaluated, a loop over it runs its rounds over the cells that the array
holds then. -/
lemma eval_foreach (hlib : HasLoops lib) (hsource : Node.eval lib fuel depth source w = (.ok v, u))
    (harray : v.resolved = .array r l') :
    Node.eval lib (fuel + 1) depth (.call "foreach" [source, .ivar name l, body] loc) w =
      (do
        Run.rounds (fun v => Run.modifyEnv (·.setIvar name v)) (Node.eval lib fuel depth body)
          (u.store.cells r).toList
        return .void loc : Run Value) u := by
  have hstep : Node.eval lib (fuel + 1) depth (.call "foreach" [source, .ivar name l, body] loc) w =
      Form.runForeach (Node.eval lib fuel depth) loc [source, .ivar name l, body] w := by
    rw [Node.eval_call, Node.runCall_apply rfl hlib.foreach]
    rfl
  rw [hstep]
  change (Node.eval lib fuel depth source >>= _) w = _
  rw [bind_of_ok hsource, harray]
  rfl

/-- The stages of a loop over an array: first the array, and then one for each round. -/
lemma iterate_next_foreach {starts : List World} {out : Except Stop Unit × World}
    (hsource : Node.eval lib fuel depth source w = (.ok v, u)) (harray : v.resolved = .array r l')
    (hrounds : Rounds (Node.eval lib fuel depth body) name (u.store.cells r).toList u starts out)
    (l loc : Location) (k : Nat) (s : Stage) (u' : World) :
    ((foreach source (.ivar name l) loc).next (Node.eval lib fuel depth) fuel body)^[k]
        ((foreach source (.ivar name l) loc).begin w) = .going s u' ↔
      k = 0 ∧ s = .first ∧ u' = w ∨ ∃ i, k = i + 1 ∧ starts[i]? = some u' ∧
        s = .element ((u.store.cells r).toList.drop (i + 1)) := by
  cases k with
  | zero => simp [begin, eq_comm]
  | succ k =>
    have hfollow : (foreach source (.ivar name l) loc).next (Node.eval lib fuel depth) fuel body
        ((foreach source (.ivar name l) loc).begin w) =
        nextElement (foreach source (.ivar name l) loc) (u.store.cells r).toList u := by
      change (foreach source (.ivar name l) loc).follow fuel .first
        (Node.eval lib fuel depth source w) = _
      rw [hsource]
      simp only [follow, harray]
    rw [Function.iterate_succ_apply, hfollow, hrounds.iterate_next_iff]
    simp

/-- A loop over an array visits the cells that the array held just after it was evaluated, in order
and each once, whatever the body does to the array, to others or to the variable.

Besides the array, the loop evaluates nothing but its body, in the worlds `starts`, one after
another: the evaluation of the loop is the run of its stages, and its stages are these. There are as
many rounds as there were cells if the loop goes on after each of them, and no round follows one
that ends with a break; in both cases the result is void. -/
theorem foreach_visits_snapshot (hlib : HasLoops lib)
    (hsource : Node.eval lib fuel depth source w = (.ok v, u)) (harray : v.resolved = .array r l')
    (name : String) (body : Node) (l loc : Location) :
    ∃ starts : List World,
      VisitsInOrder (Node.eval lib fuel depth body) name (u.store.cells r).toList u starts loc
        (Node.eval lib (fuel + 1) depth (.call "foreach" [source, .ivar name l, body] loc) w) ∧
      (∀ q, Moment.Starts lib
          ⟨fuel + 1, depth, .call "foreach" [source, .ivar name l, body] loc, w⟩ q ↔
        q = ⟨fuel, depth, source, w⟩ ∨ ∃ u' ∈ starts, q = ⟨fuel, depth, body, u'⟩) ∧
      Ends (Node.eval lib fuel depth) fuel (foreach source (.ivar name l) loc) body
        ((foreach source (.ivar name l) loc).begin w)
        (Node.eval lib (fuel + 1) depth (.call "foreach" [source, .ivar name l, body] loc) w) ∧
      ∀ k s u', ((foreach source (.ivar name l) loc).next (Node.eval lib fuel depth) fuel body)^[k]
          ((foreach source (.ivar name l) loc).begin w) = .going s u' ↔
        k = 0 ∧ s = .first ∧ u' = w ∨ ∃ i, k = i + 1 ∧ starts[i]? = some u' ∧
          s = .element ((u.store.cells r).toList.drop (i + 1)) := by
  obtain ⟨starts, hrounds⟩ := exists_rounds (Node.eval lib fuel depth body) name
    (u.store.cells r).toList u
  have hstages := iterate_next_foreach hsource harray hrounds l loc
  refine ⟨starts, ?_, fun q => ?_, ends_begin hlib _ fuel depth _ body w, hstages⟩
  · have hvisits := hrounds.visitsInOrder loc
    rw [eval_foreach hlib hsource harray]
    rcases hrun : Run.rounds (fun v => Run.modifyEnv (·.setIvar name v))
      (Node.eval lib fuel depth body) (u.store.cells r).toList u with ⟨e | a, u'⟩
    · rw [bind_of_error hrun]
      rwa [hrun] at hvisits
    · rw [bind_of_ok hrun]
      rwa [hrun] at hvisits
  · change Moment.Starts lib
      ⟨fuel + 1, depth, (foreach source (.ivar name l) loc).around body, w⟩ q ↔ _
    simp only [starts_iff hlib, hstages]
    constructor
    · rintro ⟨k, s, u', ⟨rfl, rfl, rfl⟩ | ⟨i, rfl, hi, rfl⟩, rfl⟩
      · exact .inl rfl
      · exact .inr ⟨u', List.mem_of_getElem? hi, rfl⟩
    · rintro (rfl | ⟨u', hmem, rfl⟩)
      · exact ⟨0, .first, w, .inl ⟨rfl, rfl, rfl⟩, rfl⟩
      · obtain ⟨i, hi⟩ := List.mem_iff_getElem?.1 hmem
        exact ⟨i + 1, _, u', .inr ⟨i, rfl, hi, rfl⟩, rfl⟩

/-- Adds the value of a variable to the first array. -/
def pushToFirst (name : String) : Node :=
  .call "array_push" [.literal (.array 0 .unknown), .ivar name .unknown] .unknown

lemma eval_pushToFirst (hpush : lib.find? "array_push" = some Builtin.arrayPush) (name : String)
    (w : World) : Run.GoesOn (Node.eval lib 2 0 (pushToFirst name) w).1 := by
  rw [pushToFirst, Node.eval_call, Node.runCall_apply rfl hpush]
  exact .ok (.void .unknown)

/-- A loop over an array of two cells that adds a cell to this array in each round makes two rounds.
-/
theorem foreach_visits_snapshot_growing :
    ∃ starts : List World, starts.length = 2 ∧
      VisitsInOrder (Node.eval builtin 2 0 (pushToFirst "x")) "x"
        [.int 1 .unknown, .int 2 .unknown] twoCells starts .unknown
        (Node.eval builtin 3 0 (.call "foreach"
          [.literal (.array 0 .unknown), .ivar "x" .unknown, pushToFirst "x"] .unknown)
        twoCells) := by
  have hpush : builtin.find? "array_push" = some Builtin.arrayPush := by
    rw [Library.find?_builtin]
    rfl
  have hsource : Node.eval builtin 2 0 (.literal (.array 0 .unknown)) twoCells =
      (.ok (.array 0 .unknown), twoCells) := rfl
  obtain ⟨starts, hvisits, -⟩ := foreach_visits_snapshot hasLoops_builtin hsource rfl "x"
    (pushToFirst "x") .unknown .unknown
  exact ⟨starts, (hvisits.complete fun u _ => eval_pushToFirst hpush "x" u).1, hvisits⟩

end Loop

end CommandScript
