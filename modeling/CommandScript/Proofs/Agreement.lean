import CommandScript.Proofs.Layer
import CommandScript.Proofs.Place

/-!
# Runs that agree up to places

Two runs are compared that start in worlds which are the same up to places. The second one ends as
the first does, up to places, unless the first one stops in a way that is excused. What is excused
is a parameter. If it is nothing, then the comparison of a run with itself says that it comes to an
end; if it is that calls are nested too deeply, then the second run may be further out.

## Main definitions

* `CommandScript.Run.Agrees` — a run that ends as another does, up to places, unless that one is
  excused.
* `CommandScript.Computation.Blind`, `CommandScript.Library.Blind` — functions that do not look at
  places.

## Main results

* `CommandScript.Run.Agrees.bind` — runs that agree, one after another, agree.
* `CommandScript.Run.Agrees.eq_or_excused` — where places are kept, runs that agree do exactly the
  same.
* `CommandScript.Contact.run_agrees` — contacts with the actor and the server do not look at places.
-/

namespace CommandScript

/-- Values that are the same up to places. -/
abbrev Value.Same (ρ : Location → Location) (v v' : Value) : Prop := v.mapLoc ρ = v'.mapLoc ρ

/-- Lists of values that are the same up to places. -/
abbrev Value.SameEach (ρ : Location → Location) : List Value → List Value → Prop :=
  List.Forall₂ (Value.Same ρ)

/-- Expressions that are the same up to places. -/
abbrev Node.Same (ρ : Location → Location) (n n' : Node) : Prop := n.mapLoc ρ = n'.mapLoc ρ

/-- Where places are kept, expressions that are the same are equal. -/
lemma Node.eq_of_same_id {n n' : Node} (h : n.Same id n') : n = n' := by
  rwa [Node.Same, mapLoc_id, mapLoc_id] at h

/-! ## Runs that agree -/

namespace Run

variable {α β γ δ : Type} {ρ : Location → Location} {E : Stop → Prop}

/-- Two ends of runs are the same up to places: both give values, which are related, or both halt in
the same way. -/
inductive EndsLike (ρ : Location → Location) (R : α → β → Prop) :
    Except Stop α → Except Stop β → Prop where
  | ok {a : α} {b : β} (h : R a b) : EndsLike ρ R (.ok a) (.ok b)
  | halt {e e' : Halt} (h : e.mapLoc ρ = e'.mapLoc ρ) :
    EndsLike ρ R (.error (.halt e)) (.error (.halt e'))

/-- A run that stops in one of some ways. -/
def Excused (E : Stop → Prop) (r : Except Stop α) : Prop := ∃ e, E e ∧ r = .error e

/-- From worlds that are the same up to places, `y` ends as `x` does, up to places, unless `x` stops
in one of the ways `E`. -/
def Agrees (ρ : Location → Location) (E : Stop → Prop) (R : α → β → Prop) (x : Run α)
    (y : Run β) : Prop :=
  ∀ w v : World, w.mapLoc ρ = v.mapLoc ρ → Excused E (x w).1 ∨
    EndsLike ρ R (x w).1 (y v).1 ∧ (x w).2.mapLoc ρ = (y v).2.mapLoc ρ

namespace Agrees

variable {R : α → β → Prop} {S : γ → δ → Prop}

/-- More may be excused. -/
lemma mono {E' : Stop → Prop} (hE : ∀ e, E e → E' e) {x : Run α} {y : Run β}
    (h : Agrees ρ E R x y) : Agrees ρ E' R x y := by
  intro w v hwv
  refine (h w v hwv).imp_left ?_
  rintro ⟨e, he, hx⟩
  exact ⟨e, hE e he, hx⟩

/-- Two runs that change nothing agree if they end alike. -/
lemma of_same {x : Run α} {y : Run β} (hx : ∀ w, (x w).2 = w) (hy : ∀ w, (y w).2 = w)
    (h : ∀ w v : World, w.mapLoc ρ = v.mapLoc ρ → EndsLike ρ R (x w).1 (y v).1) :
    Agrees ρ E R x y := by
  intro w v hwv
  rw [hx w, hy v]
  exact .inr ⟨h w v hwv, hwv⟩

lemma pure {a : α} {b : β} (h : R a b) : Agrees ρ E R (pure a) (pure b) :=
  of_same (fun _ => rfl) (fun _ => rfl) fun _ _ _ => .ok h

lemma fail {l l' : Location} (h : ρ l = ρ l') (c : Cause) :
    Agrees ρ E R (Run.fail l c) (Run.fail l' c) :=
  of_same (fun _ => rfl) (fun _ => rfl) fun _ _ _ => .halt (Halt.failure_congr h c)

lemma raise {s s' : Signal} (h : s.mapLoc ρ = s'.mapLoc ρ) :
    Agrees ρ E R (Run.raise s) (Run.raise s') :=
  of_same (fun _ => rfl) (fun _ => rfl) fun _ _ _ => .halt (congrArg Halt.signal h)

lemma ofExcept {l l' : Location} (h : ρ l = ρ l') (r : Except Cause α) :
    Agrees ρ E Eq (Run.ofExcept l r) (Run.ofExcept l' r) := by
  cases r with
  | ok a => exact pure rfl
  | error c => exact fail h c

/-- Runs that agree, followed by runs that agree, agree. -/
lemma bind {x : Run α} {y : Run β} {f : α → Run γ} {g : β → Run δ} (hx : Agrees ρ E R x y)
    (hf : ∀ a b, R a b → Agrees ρ E S (f a) (g b)) : Agrees ρ E S (x >>= f) (y >>= g) := by
  intro w v hwv
  rcases hx w v hwv with ⟨e, he, hxw⟩ | ⟨hends, hw⟩
  · refine .inl ⟨e, he, ?_⟩
    rw [bind_of_error (Prod.ext hxw rfl)]
  · rcases hxw : x w with ⟨r, w'⟩
    rcases hyv : y v with ⟨r', v'⟩
    rw [hxw, hyv] at hends hw
    cases hends with
    | ok h =>
      rw [bind_of_ok hxw, bind_of_ok hyv]
      exact hf _ _ h w' v' hw
    | halt h =>
      rw [bind_of_error hxw, bind_of_error hyv]
      exact .inr ⟨.halt h, hw⟩

/-- Runs that agree on a value, followed by runs that agree. -/
lemma next {x y : Run α} {f : α → Run γ} {g : α → Run δ} (hx : Agrees ρ E Eq x y)
    (hf : ∀ a, Agrees ρ E S (f a) (g a)) : Agrees ρ E S (x >>= f) (y >>= g) := by
  refine bind hx ?_
  rintro a _ rfl
  exact hf a

lemma env : Agrees ρ E (fun e d => e.mapLoc ρ = d.mapLoc ρ) env env :=
  of_same (fun _ => rfl) (fun _ => rfl) fun _ _ h => .ok (World.env_congr h)

lemma get : Agrees ρ E (fun w v => w.mapLoc ρ = v.mapLoc ρ) get get :=
  of_same (fun _ => rfl) (fun _ => rfl) fun _ _ h => .ok h

lemma textOf {v v' : Value} (hv : v.Same ρ v') : Agrees ρ E Eq (textOf v) (textOf v') :=
  of_same (fun _ => rfl) (fun _ => rfl) fun _ _ h => .ok (Value.text_congr hv (World.store_congr h))

lemma isTrue {v v' : Value} (hv : v.Same ρ v') : Agrees ρ E Eq (isTrue v) (isTrue v') :=
  of_same (fun _ => rfl) (fun _ => rfl) fun _ _ h =>
    .ok (Value.isTrue_congr hv (World.store_congr h))

/-- Where places are kept, runs that agree do exactly the same, unless the first is excused. -/
lemma eq_or_excused {x y : Run Value} (h : Agrees id E (Value.Same id) x y) (w : World) :
    Excused E (x w).1 ∨ x w = y w := by
  refine (h w w rfl).imp_right ?_
  rintro ⟨hends, hw⟩
  rw [World.mapLoc_id, World.mapLoc_id] at hw
  refine Prod.ext ?_ hw
  generalize (x w).1 = r at hends ⊢
  generalize (y w).1 = r' at hends ⊢
  cases hends with
  | ok hv =>
    rw [Value.Same, Value.mapLoc_id, Value.mapLoc_id] at hv
    rw [hv]
  | halt he =>
    rw [Halt.mapLoc_id, Halt.mapLoc_id] at he
    rw [he]

/-- A change of the environment that does not look at places. -/
lemma modifyEnv {f g : Environment → Environment}
    (h : ∀ e d : Environment, e.mapLoc ρ = d.mapLoc ρ → (f e).mapLoc ρ = (g d).mapLoc ρ) :
    Agrees ρ E Eq (modifyEnv f) (modifyEnv g) := fun _ _ hwv =>
  .inr ⟨.ok rfl, World.mk_congr (h _ _ (World.env_congr hwv)) (World.store_congr hwv)⟩

lemma setIvar (name : String) {v v' : Value} (hv : v.Same ρ v') :
    Agrees ρ E Eq (Run.modifyEnv (·.setIvar name v)) (Run.modifyEnv (·.setIvar name v')) := by
  refine modifyEnv fun e d h => ?_
  rw [Environment.mapLoc_setIvar, Environment.mapLoc_setIvar, h, hv]

lemma send (message : String) :
    Agrees ρ E Eq (Run.modifyEnv (·.send message)) (Run.modifyEnv (·.send message)) := by
  refine modifyEnv fun e d h => ?_
  rw [Environment.mapLoc_send, Environment.mapLoc_send, h]

lemma define {p q : Procedure} (hp : p.mapLoc ρ = q.mapLoc ρ) :
    Agrees ρ E Eq (Run.modifyEnv (·.define p)) (Run.modifyEnv (·.define q)) := by
  refine modifyEnv fun e d h => ?_
  rw [Environment.mapLoc_define, Environment.mapLoc_define, h, hp]

/-- A new array has the same reference. -/
lemma newArray {l l' : Location} (hl : ρ l = ρ l') {vs vs' : List Value}
    (hvs : Value.SameEach ρ vs vs') : Agrees ρ E (Value.Same ρ)
      (Run.ofCompute (Compute.newArray l vs)) (Run.ofCompute (Compute.newArray l' vs')) := by
  intro w v hwv
  have hstore := World.store_congr hwv
  have hsize : w.store.size = v.store.size := by
    rw [← Store.size_mapLoc ρ, hstore, Store.size_mapLoc]
  have halloc : (w.store.alloc vs.toArray).2.mapLoc ρ = (v.store.alloc vs'.toArray).2.mapLoc ρ := by
    rw [Store.mapLoc_alloc, Store.mapLoc_alloc, hstore, List.map_toArray, List.map_toArray,
      map_eq_map_iff_forall₂.2 hvs]
  exact .inr ⟨.ok (congrArg₂ Value.array hsize hl), World.mk_congr (World.env_congr hwv) halloc⟩

end Agrees

/-! ## What loops and procedure calls take up -/

/-- A round passes on every stop that is no signal. -/
lemma round_of_error {x : Run Value} {w v : World} {e : Stop} (he : ∀ s, e ≠ .halt (.signal s))
    (h : x w = (.error e, v)) : round x w = (.error e, v) := by
  unfold round
  rw [h]
  rcases e with (f | s) | _
  · rfl
  · exact absurd rfl (he s)
  · rfl

/-- A procedure call passes on every stop that is no signal. -/
lemma settle_of_error {x : Run Value} {w v : World} {e : Stop} (he : ∀ s, e ≠ .halt (.signal s))
    (loc : Location) (h : x w = (.error e, v)) : settle loc x w = (.error e, v) := by
  unfold settle
  rw [h]
  rcases e with (f | s) | _
  · rfl
  · exact absurd rfl (he s)
  · rfl

/-- A run in a frame of its own ends as it does without. -/
lemma inFrame_fst (setUp : Environment → Environment) (x : Run Value) (w : World) :
    (inFrame setUp x w).1 = (x { w with env := setUp w.env.pushFrame }).1 := by
  unfold inFrame
  split <;> simp_all

/-- Rounds whose bodies end alike end alike. -/
lemma EndsLike.round {x y : Run Value} {w v : World}
    (h : EndsLike ρ (Value.Same ρ) (x w).1 (y v).1) :
    EndsLike ρ Eq (Run.round x w).1 (Run.round y v).1 := by
  unfold Run.round
  rcases hx : x w with ⟨r, w'⟩
  rcases hy : y v with ⟨r', v'⟩
  rw [hx, hy] at h
  cases h with
  | ok h => exact .ok rfl
  | halt h =>
    cases Halt.twins_of_mapLoc h with
    | failure c hl => exact .halt h
    | breakLoop n =>
      dsimp only
      split
      · exact .ok rfl
      · exact .halt rfl
    | continueLoop => exact .ok rfl
    | returnValue hv => exact .halt h
    | cancel => exact .halt h

/-- Procedure calls whose bodies end alike end alike. -/
lemma EndsLike.settle {x y : Run Value} {w v : World} {l l' : Location} (hl : ρ l = ρ l')
    (h : EndsLike ρ (Value.Same ρ) (x w).1 (y v).1) :
    EndsLike ρ (Value.Same ρ) (Run.settle l x w).1 (Run.settle l' y v).1 := by
  unfold Run.settle
  rcases hx : x w with ⟨r, w'⟩
  rcases hy : y v with ⟨r', v'⟩
  rw [hx, hy] at h
  cases h with
  | ok h => exact .ok (congrArg Value.void hl)
  | halt h =>
    cases Halt.twins_of_mapLoc h with
    | failure c hl => exact .halt h
    | breakLoop n => exact .halt (Halt.failure_congr hl _)
    | continueLoop => exact .halt (Halt.failure_congr hl _)
    | returnValue hv => exact .ok hv
    | cancel => exact .halt h

namespace Agrees

section

variable (hE : ∀ s, ¬ E (.halt (.signal s))) {x y : Run Value} (h : Agrees ρ E (Value.Same ρ) x y)

include hE h

lemma round : Agrees ρ E Eq (round x) (round y) := by
  intro w v hwv
  rcases h w v hwv with ⟨e, he, hx⟩ | ⟨hends, hw⟩
  · have hne : ∀ s, e ≠ .halt (.signal s) := fun s hs => hE s (hs ▸ he)
    exact .inl ⟨e, he, by rw [round_of_error hne (Prod.ext hx rfl)]⟩
  · rw [round_snd, round_snd]
    exact .inr ⟨hends.round, hw⟩

lemma settle {l l' : Location} (hl : ρ l = ρ l') :
    Agrees ρ E (Value.Same ρ) (settle l x) (settle l' y) := by
  intro w v hwv
  rcases h w v hwv with ⟨e, he, hx⟩ | ⟨hends, hw⟩
  · have hne : ∀ s, e ≠ .halt (.signal s) := fun s hs => hE s (hs ▸ he)
    exact .inl ⟨e, he, by rw [settle_of_error hne l (Prod.ext hx rfl)]⟩
  · rw [settle_snd, settle_snd]
    exact .inr ⟨hends.settle hl, hw⟩

omit hE in
lemma inFrame {setUp setUp' : Environment → Environment}
    (hset : ∀ e d : Environment, e.mapLoc ρ = d.mapLoc ρ →
      (setUp e).mapLoc ρ = (setUp' d).mapLoc ρ) :
    Agrees ρ E (Value.Same ρ) (inFrame setUp x) (inFrame setUp' y) := by
  intro w v hwv
  have hframes : w.env.pushFrame.mapLoc ρ = v.env.pushFrame.mapLoc ρ := by
    rw [Environment.mapLoc_pushFrame, Environment.mapLoc_pushFrame, World.env_congr hwv]
  rcases h { w with env := setUp w.env.pushFrame } { v with env := setUp' v.env.pushFrame }
    (World.mk_congr (hset _ _ hframes) (World.store_congr hwv)) with
    ⟨e, he, hx⟩ | ⟨hends, hw⟩
  · exact .inl ⟨e, he, (inFrame_fst setUp x w).trans hx⟩
  · rw [inFrame_fst, inFrame_fst]
    refine .inr ⟨hends, ?_⟩
    rcases hx : x { w with env := setUp w.env.pushFrame } with ⟨r, w'⟩
    rcases hy : y { v with env := setUp' v.env.pushFrame } with ⟨r', v'⟩
    rw [hx, hy] at hends hw
    -- neither run is out of fuel, so both frames are taken away
    have hr : r ≠ .error .outOfFuel := by cases hends <;> simp
    have hr' : r' ≠ .error .outOfFuel := by cases hends <;> simp
    rw [inFrame_of_ne hx hr, inFrame_of_ne hy hr']
    refine World.mk_congr ?_ (World.store_congr hw)
    rw [Environment.mapLoc_popFrame, Environment.mapLoc_popFrame, World.env_congr hw]

/-- The rounds of loops over values that are the same. -/
lemma rounds (name : String) {vs vs' : List Value} (hvs : Value.SameEach ρ vs vs') :
    Agrees ρ E Eq (Run.rounds (fun v => Run.modifyEnv (·.setIvar name v)) x vs)
      (Run.rounds (fun v => Run.modifyEnv (·.setIvar name v)) y vs') := by
  induction hvs with
  | nil => exact pure rfl
  | cons hv _ ih =>
    refine next (setIvar name hv) fun _ => next (h.round hE) fun go => ?_
    cases go with
    | true => exact ih
    | false => exact pure rfl

/-- The rounds of loops with a condition, where the second loop has at least as much fuel, and it is
excused that the first one has too little. -/
lemma roundsWhile (hout : E .outOfFuel) {c c' s s' : Run Value}
    (hc : Agrees ρ E (Value.Same ρ) c c') (hs : Agrees ρ E (Value.Same ρ) s s') {fuel fuel' : Nat}
    (hf : fuel ≤ fuel') :
    Agrees ρ E Eq (Run.roundsWhile c s x fuel) (Run.roundsWhile c' s' y fuel') := by
  induction fuel generalizing fuel' with
  | zero => exact fun w v _ => .inl ⟨_, hout, rfl⟩
  | succ fuel ih =>
    obtain ⟨fuel', rfl⟩ : ∃ k, fuel' = k + 1 := ⟨fuel' - 1, by omega⟩
    refine bind hc fun v v' hv => next (isTrue hv) fun t => ?_
    cases t with
    | false => exact pure rfl
    | true =>
      refine next (h.round hE) fun go => ?_
      cases go with
      | false => exact pure rfl
      | true => exact bind hs fun _ _ _ => ih (by omega)

end

end Agrees

/-- Computations one after another are runs one after another. -/
lemma ofCompute_bind (x : Compute α) (f : α → Compute β) :
    ofCompute (x >>= f) = ofCompute x >>= fun a => ofCompute (f a) := by
  funext w
  rcases hx : x w.store with ⟨h | a, s⟩
  · have hrun : ofCompute x w = (.error (.halt h), { w with store := s }) := by rw [ofCompute, hx]
    rw [bind_of_error hrun, ofCompute, bind_of_error hx]
  · have hrun : ofCompute x w = (.ok a, { w with store := s }) := by rw [ofCompute, hx]
    rw [bind_of_ok hrun, ofCompute, bind_of_ok hx]
    rfl

end Run

/-! ## Functions that do not look at places -/

/-- The argument at an index, of arguments that are the same up to places. -/
lemma argument_congr {ρ : Location → Location} {args args' : List Value}
    (h : Value.SameEach ρ args args') (i : Nat) :
    (argument args i).Same ρ (argument args' i) := by
  unfold argument
  obtain ⟨hv, hv'⟩ | ⟨v, v', hv, hv', hvv⟩ := forall₂_getElem? h i
  · rw [hv, hv']
  · rw [hv, hv']
    exact hvv

/-- A computation that gives the same, up to places, on arguments and at places that are the
same. -/
def Computation.Blind (ρ : Location → Location) (c : Computation) : Prop :=
  ∀ {l l' : Location} {args args' : List Value}, ρ l = ρ l' → Value.SameEach ρ args args' →
    Run.Agrees ρ (fun _ => False) (Value.Same ρ) (Run.ofCompute (c.run l args))
      (Run.ofCompute (c.run l' args'))

/-- A library whose functions do not look at places, and in which the outcome of compiling does not
depend on the places of what arrays hold. -/
structure Library.Blind (ρ : Location → Location) (lib : Library) : Prop where
  compute : ∀ {name e c}, lib.find? name = some e → e.behaviour = .compute c → c.Blind ρ
  compile : ∀ (text : String) {s s' : Store}, s.mapLoc ρ = s'.mapLoc ρ →
    (lib.compile true text none s).1 = (lib.compile true text none s').1 ∧
      (lib.compile true text none s).2.mapLoc ρ = (lib.compile true text none s').2.mapLoc ρ

/-- If places are kept, then every library is blind. -/
lemma Library.blind_id (lib : Library) : lib.Blind id where
  compute := by
    intro name e c _ _ l l' args args' hl hargs
    have hvalues : args = args' := by
      rw [← List.forall₂_eq_eq_eq]
      exact hargs.imp fun v v' hv => by rwa [Value.Same, Value.mapLoc_id, Value.mapLoc_id] at hv
    obtain rfl : l = l' := hl
    subst hvalues
    intro w v hwv
    rw [World.mapLoc_id, World.mapLoc_id] at hwv
    subst hwv
    refine .inr ⟨?_, rfl⟩
    unfold Run.ofCompute
    rcases c.run l args w.store with ⟨e | a, s⟩
    · exact .halt rfl
    · exact .ok rfl
  compile := by
    intro text s s' hs
    rw [Store.mapLoc_id, Store.mapLoc_id] at hs
    subst hs
    exact ⟨rfl, rfl⟩

namespace Contact

variable {ρ : Location → Location} {E : Stop → Prop} {l l' : Location}

/-- A command for a player. -/
lemma runCommand_agrees (hl : ρ l = ρ l') (player command : String) :
    Run.Agrees ρ E (Value.Same ρ) (runCommand l player command) (runCommand l' player command) := by
  refine .bind .env fun e d hed => ?_
  have hserver : d.server = e.server := (congrArg Environment.server hed).symm
  rw [hserver]
  cases e.server with
  | none => exact .fail hl _
  | some server =>
    dsimp only
    split
    · next text htext =>
      refine .bind .env fun e d hed => ?_
      have hran : d.ran = e.ran := (congrArg Environment.ran hed).symm
      rw [hran]
      split
      · refine .bind .env fun e d hed => ?_
        have hran : d.ran = e.ran := (congrArg Environment.ran hed).symm
        refine .bind (.modifyEnv fun e d hed => ?_) fun _ _ _ => ?_
        · exact congrArg (fun e : Environment =>
            { e with ran := e.ran.push ⟨player, .ofList text⟩ }) hed
        · rw [hran]
          split
          · exact .pure (congrArg Value.void hl)
          · exact .fail hl _
      · exact .fail hl _
    · exact .fail hl _

/-- A contact with the actor and the server. -/
lemma run_agrees (c : Contact) (hl : ρ l = ρ l') {args args' : List Value}
    (hargs : Value.SameEach ρ args args') :
    Run.Agrees ρ E (Value.Same ρ) (c.run l args) (c.run l' args') := by
  cases c with
  | msg =>
    refine .bind .env fun e d hed => ?_
    have hactor : d.actor = e.actor := (congrArg Environment.actor hed).symm
    rw [hactor]
    split
    · exact .fail hl _
    · refine .next (.textOf (argument_congr hargs 0)) fun message => ?_
      exact .next (.send message) fun _ => .pure (congrArg Value.void hl)
  | player =>
    refine .bind .env fun e d hed => ?_
    have hactor : d.actor = e.actor := (congrArg Environment.actor hed).symm
    rw [hactor]
    cases e.actor with
    | none => exact .pure (congrArg Value.null hl)
    | some a => exact .pure (congrArg (Value.string a.name) hl)
  | runas =>
    refine .next (.textOf (argument_congr hargs 0)) fun player => ?_
    refine .next (.textOf (argument_congr hargs 1)) fun command => ?_
    exact runCommand_agrees hl player command
  | die =>
    cases hargs with
    | nil => exact .raise rfl
    | cons hv _ =>
      refine .next (.textOf hv) fun message => ?_
      exact .next (.send message) fun _ => .raise rfl

end Contact

end CommandScript
