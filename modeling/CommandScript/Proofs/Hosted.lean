import CommandScript.Proofs.Moved

/-!
# Functions of a host

A host adds functions of its own to the library of the language. The folding of calls rests on what
these promise: not to look at places, and to be foldable only if what they give on constants depends
on these alone. Then a script that fails without folding fails with folding as well, and for the
same cause, if no foldable function is restricted. For folding does not ask for permission: a call
of a restricted function that is foldable goes through. What a host adds of its own is a computation
on arguments and arrays.

## Main definitions

* `CommandScript.Computation.Reliable`, `CommandScript.Library.Reliable` — functions that keep what
  they promise.
* `CommandScript.Node.Folded` — expressions before and after folding.

## Main results

* `CommandScript.Library.find?_of_registerAll` — what is found after functions were registered.
* `CommandScript.Node.eval_folded_literal` — an expression that was folded to a constant gives it.
* `CommandScript.Library.folding_keeps_failures` — what fails without folding fails with folding.
* `CommandScript.Library.folding_grants_secret` — but a restricted function that is foldable can be
  called by everybody.
-/

namespace CommandScript

open Library (builtin)

variable {why : String → Option String}

/-! ## What functions promise -/

/-- What is promised of a function. It does not look at places. If it is foldable, then what it
gives on constants depends on these alone: it is the same whatever the arrays hold, the arrays stay
as they are, and where places are forgotten it gives the same with its places forgotten. -/
structure Computation.Reliable (c : Computation) : Prop where
  blind : c.Blind Location.forget
  steady : c.foldable = true → ∀ loc {args : List Value}, (∀ v ∈ args, v.isDynamic = false) →
    ∃ r, ∀ s, c.run loc args s = (r, s)
  forgets : c.foldable = true → ∀ {loc : Location} {args : List Value} {v : Value},
    (∀ v ∈ args, v.isDynamic = false) → (∀ s, c.run loc args s = (.ok v, s)) →
    ∀ s, c.run .unknown (args.map (Value.mapLoc Location.forget)) s =
      (.ok (v.mapLoc Location.forget), s)

/-- A library of reliable functions. -/
def Library.Reliable (lib : Library) : Prop :=
  ∀ {name e c}, lib.find? name = some e → e.behaviour = .compute c → c.Reliable

lemma Value.mapLoc_relocate (ρ : Location → Location) (v : Value) (l : Location) :
    (v.relocate l).mapLoc ρ = (v.mapLoc ρ).relocate (ρ l) := by
  cases v <;> rfl

/-- The functions of the language are reliable. -/
lemma Library.reliable_builtin : (builtin why).Reliable := by
  intro name e c he hb
  refine ⟨(blind_builtin Location.forget).compute he hb, fun hc loc args hstatic => ?_,
    fun hc loc args v hstatic hrun s => ?_⟩
  · cases (builtin_foldable he hb hc).1 loc args hstatic with
    | gives v _ h => exact ⟨.ok v, h⟩
    | fails f h => exact ⟨.error (.failure f), h⟩
  · obtain ⟨v', hrun', hplace⟩ := portable_builtin Location.forget he hb hc hstatic (hrun s) s
    have hloc : ∀ {l : Location} {us : List Value} {u : Value}, (∀ v ∈ us, v.isDynamic = false) →
        c.run l us s = (.ok u, s) → u.relocate l = u := by
      intro l us u hus hu
      cases (builtin_foldable he hb hc).1 l us hus with
      | gives w hw h =>
        cases (h s).symm.trans hu
        rw [← hw, u.relocate_loc]
      | fails f h => cases (h s).symm.trans hu
    have hstatic' : ∀ a ∈ args.map (Value.mapLoc Location.forget), a.isDynamic = false := by
      intro a ha
      obtain ⟨u, hu, rfl⟩ := List.mem_map.1 ha
      exact u.isDynamic_mapLoc.trans (hstatic u hu)
    rw [hloc hstatic (hrun s)] at hplace
    rw [show Location.forget loc = Location.unknown from rfl] at hrun' hplace
    rw [hloc hstatic' hrun'] at hplace
    rw [hrun', hplace]

/-- A library of reliable functions in which no foldable function is restricted, with the assignment
of the language. -/
structure Library.Guarded (lib : Library) : Prop where
  reliable : lib.Reliable
  unrestricted : ∀ {name e c}, lib.find? name = some e → e.behaviour = .compute c →
    c.foldable = true → e.restricted = false
  assign : lib.find? "assign" = some Builtin.assign

/-! ## Registering -/

namespace Library

/-- A function that was registered is new. -/
lemma register_eq_ok {lib lib' : Library} {e : Entry} (h : lib.register e = .ok lib') :
    ∃ hnew, lib' = lib.insert e hnew := by
  unfold register at h
  split at h
  · cases h
  · split at h
    · cases h
    · split at h
      · next hnew =>
        cases h
        exact ⟨hnew, rfl⟩
      · cases h

/-- After functions were registered, every name that was found before is found still, and what is
found is one of these functions or was found before. -/
lemma find?_of_registerAll {es : List Entry} {lib lib' : Library}
    (h : lib.registerAll es = .ok lib') (name : String) (e : Entry) :
    (lib.find? name = some e → lib'.find? name = some e) ∧
      (lib'.find? name = some e → e ∈ es ∨ lib.find? name = some e) := by
  induction es generalizing lib with
  | nil =>
    cases h
    exact ⟨id, .inr⟩
  | cons d es ih =>
    unfold registerAll at h
    rw [List.foldlM_cons] at h
    cases hd : lib.register d with
    | error err =>
      rw [hd] at h
      cases h
    | ok lib₁ =>
      rw [hd] at h
      obtain ⟨hnew, rfl⟩ := register_eq_ok hd
      obtain ⟨hkept, hfound⟩ := ih h
      rw [find?_insert] at hkept hfound
      refine ⟨fun he => hkept ?_, fun he => ?_⟩
      · have hne : d.name ≠ name := by
          rintro rfl
          rw [hnew] at he
          cases he
        rw [if_neg hne]
        exact he
      · rcases hfound he with hmem | hold
        · exact .inl (.tail d hmem)
        · split at hold
          · cases hold
            exact .inl (.head es)
          · exact .inr hold

end Library

/-! ## Folding in a reliable library -/

namespace Library.Reliable

variable {lib : Library} (h : lib.Reliable)

include h

/-- Foldable functions give the same where places are forgotten. -/
lemma portable : lib.Portable Location.forget := by
  intro name e c he hb hc loc args s s' v hstatic hrun t
  obtain ⟨r, hr⟩ := (h he hb).steady hc loc hstatic
  cases (hr s).symm.trans hrun
  refine ⟨_, (h he hb).forgets hc hstatic hr t, ?_⟩
  rw [Value.mapLoc_relocate]

/-- A call folds to the same, or fails to fold in the same way, whatever the arrays hold. -/
lemma foldCall_steady (name : String) (args : List Node) (loc : Location) :
    ∃ r, ∀ s, Node.foldCall lib name args loc s = (r, s) := by
  unfold Node.foldCall
  cases hfold : Node.foldable? lib name args with
  | none => exact ⟨_, fun s => rfl⟩
  | some p =>
    obtain ⟨c, values⟩ := p
    obtain ⟨-, hvalues, e, he, hb, hc⟩ := Node.foldable?_eq_some hfold
    obtain ⟨r, hr⟩ := (h he hb).steady hc loc (Node.mapM_static?_eq_some hvalues).2
    have hsteady : ∃ r, ∀ s, c.fold name loc values s = (r, s) := by
      rcases r with (f | g) | v
      · exact ⟨_, fun s => by rw [Computation.fold, hr]⟩
      · exact ⟨_, fun s => by rw [Computation.fold, hr]⟩
      · exact ⟨_, fun s => by rw [Computation.fold, hr]⟩
    obtain ⟨r | v, hsteady⟩ := hsteady
    · exact ⟨_, fun s => bind_of_error (hsteady s)⟩
    · exact ⟨_, fun s => bind_of_ok (hsteady s)⟩

end Library.Reliable

namespace Node

variable {lib : Library}

mutual

/-- An expression folds to the same, or fails to fold in the same way, whatever the arrays hold. -/
theorem fold_steady (h : lib.Reliable) : (n : Node) → ∃ r, ∀ s, fold lib n s = (r, s)
  | literal v => ⟨.ok (literal v), fun _ => rfl⟩
  | ivar name loc => ⟨.ok (ivar name loc), fun _ => rfl⟩
  | var name loc => ⟨.ok (var name loc), fun _ => rfl⟩
  | call name args loc => by
    obtain ⟨e | args', hargs⟩ := foldAll_steady h args
    · exact ⟨.error e, fun s => bind_of_error (hargs s)⟩
    · obtain ⟨r, hr⟩ := h.foldCall_steady name args' loc
      exact ⟨r, fun s => (bind_of_ok (hargs s)).trans (hr s)⟩

theorem foldAll_steady (h : lib.Reliable) : (ns : List Node) → ∃ r, ∀ s, foldAll lib ns s = (r, s)
  | [] => ⟨.ok [], fun _ => rfl⟩
  | n :: ns => by
    obtain ⟨e | n', hn⟩ := fold_steady h n
    · exact ⟨.error e, fun s => bind_of_error (hn s)⟩
    · obtain ⟨e | ns', hns⟩ := foldAll_steady h ns
      · exact ⟨.error e, fun s => (bind_of_ok (hn s)).trans (bind_of_error (hns s))⟩
      · exact ⟨.ok (n' :: ns'), fun s => (bind_of_ok (hn s)).trans (bind_of_ok (hns s))⟩

end

end Node

/-- A library of reliable functions does not look at places. -/
lemma Library.Reliable.blind {lib : Library} (h : lib.Reliable) : lib.Blind Location.forget where
  compute he hb := (h he hb).blind
  compile text s s' hs := by
    have hsteady : ∃ r, ∀ s, lib.compile true text none s = (r, s) := by
      unfold Library.compile
      cases Token.lex text none with
      | error e => exact ⟨.error e, fun _ => rfl⟩
      | ok ts =>
        cases hparse : Node.parse lib.signature ts with
        | error e => exact ⟨.error e, fun s => by simp only [Library.compileTokens, hparse]; rfl⟩
        | ok nodes =>
          simp only [Library.compileTokens_true hparse]
          exact Node.foldAll_steady h nodes
    obtain ⟨r, hr⟩ := hsteady
    rw [hr s, hr s']
    exact ⟨rfl, hs⟩

/-! ## Expressions before and after folding -/

namespace Node

/-- A call, with so many arguments, of a function that everybody may call and that gives one value
on some constants, whatever the arrays hold. -/
structure Settled (lib : Library) (name : String) (count : Nat) (loc : Location)
    (values : List Value) (v : Value) (e : Entry) (c : Computation) : Prop where
  function : isProcedureName name = false
  ne_assign : name ≠ "assign"
  found : lib.find? name = some e
  accepts : e.arity.accepts count = true
  unrestricted : e.restricted = false
  behaviour : e.behaviour = .compute c
  static : ∀ u ∈ values, u.isDynamic = false
  run : ∀ s, c.run loc values s = (.ok v, s)
  place : v.loc = loc

/-- Expressions before and after folding. -/
inductive Folded (lib : Library) : Node → Node → Prop where
  | refl (n : Node) : Folded lib n n
  | call {name : String} {args args' : List Node} {loc : Location}
    (hargs : List.Forall₂ (Folded lib) args args') :
    Folded lib (call name args loc) (call name args' loc)
  | value {name : String} {args : List Node} {loc : Location} {values : List Value} {v : Value}
    {e : Entry} {c : Computation} (hargs : List.Forall₂ (Folded lib) args (values.map literal))
    (h : Settled lib name args.length loc values v e c) :
    Folded lib (call name args loc) (literal v)

variable {lib : Library}

/-- A settled call gives its value if its arguments give the constants, and is out of fuel if they
are. -/
lemma Settled.step {name : String} {args : List Node} {loc : Location} {values : List Value}
    {v : Value} {e : Entry} {c : Computation} (h : Settled lib name args.length loc values v e c)
    (ev : Evaluator) (fuel depth : Nat) {w u : World} :
    (evalAll (ev depth) args w = (.ok values, w) →
      step lib ev fuel depth (.call name args loc) w = (.ok v, w)) ∧
    (evalAll (ev depth) args w = (.error .outOfFuel, u) →
      step lib ev fuel depth (.call name args loc) w = (.error .outOfFuel, u)) := by
  have hvalues : values.map Value.resolved = values :=
    (List.map_congr_left fun u hu => Value.resolved_of_static (h.static u hu)).trans (List.map_id _)
  have happly : Node.step lib ev fuel depth (.call name args loc) w =
      (if c.resolves then evalResolved (ev depth) args >>= fun vs => Run.ofCompute (c.run loc vs)
        else evalAll (ev depth) args >>= fun vs => Run.ofCompute (c.run loc vs)) w := by
    rw [Node.step, runCall_apply h.function h.found, if_pos h.accepts, h.unrestricted, h.behaviour]
    simp only [Bool.false_and, Bool.false_eq_true, if_false, apply]
  have hrun : Run.ofCompute (c.run loc values) w = (.ok v, w) := by rw [Run.ofCompute, h.run]
  rw [happly]
  refine ⟨fun hargs => ?_, fun hargs => ?_⟩
  · split
    · have hresolved : evalResolved (ev depth) args w = (.ok values, w) := by
        rw [evalResolved, bind_of_ok hargs, hvalues]
        rfl
      rw [bind_of_ok hresolved, hrun]
    · rw [bind_of_ok hargs, hrun]
  · split
    · exact bind_of_error (bind_of_error hargs)
    · exact bind_of_error hargs

/-- An expression that was folded to a constant gives it and leaves the world as it is. The fuel
suffices if it is as much as the expression has nodes.

**Proof sketch.** By induction on the fuel. The arguments of a call that was replaced were folded to
constants too. -/
lemma eval_folded_literal (fuel depth : Nat) {n : Node} {v : Value} (w : World)
    (h : Folded lib n (literal v)) : eval lib fuel depth n w = (.ok v, w) ∨
      fuel < n.size ∧ ∃ u, eval lib fuel depth n w = (.error .outOfFuel, u) := by
  induction fuel generalizing n v with
  | zero => exact .inr ⟨n.size_pos, w, rfl⟩
  | succ fuel ih =>
    generalize hlit : literal v = m at h
    cases h with
    | refl =>
      subst hlit
      exact .inl rfl
    | call => cases hlit
    | @value name args loc values _ e c hargs hcall =>
      cases hlit
      have hvalues := evalAll_of_forall₂
        ((List.forall₂_map_right_iff.1 hargs).imp fun n u hn => ih hn)
      simp only [eval]
      rcases hvalues with hvalues | ⟨hf, u, hvalues⟩
      · exact .inl ((hcall.step (eval lib fuel) fuel depth (u := w)).1 hvalues)
      · refine .inr ⟨?_, u, (hcall.step (eval lib fuel) fuel depth).2 hvalues⟩
        rw [size]
        omega

/-- An expression becomes one of the same sort with folded parts, or it is a call that is replaced
by its value. -/
lemma Folded.cases {n n' : Node} (h : Folded lib n n') :
    Similar (Folded lib) n n' ∨ ∃ v, n' = literal v ∧ v.loc = n.loc ∧ n.Plain := by
  cases h with
  | refl => exact .inl (similar_refl .refl n)
  | call hargs => exact .inl (.call _ hargs _)
  | value hargs hcall =>
    exact .inr ⟨_, rfl, hcall.place, by simp, by simp [hcall.ne_assign]⟩

/-- Special forms do not tell an expression from what it is folded to. -/
lemma congruence_folded (lib : Library) : Congruence (Folded lib) where
  refl := .refl
  kin := by
    intro n n' h
    rcases h.cases with hsim | ⟨v, rfl, hloc, hplain⟩
    · exact hsim.kin
    · exact .plain hloc hplain ⟨by simp, by simp⟩

/-- What an expression is folded to does what the expression does. -/
lemma eval_of_folded {fuel fuel' : Nat} (hf : fuel ≤ fuel') (depth : Nat) {n n' : Node}
    (h : Folded lib n n') :
    Run.Simulates (Folded lib) Eq (eval lib fuel depth n) (eval lib fuel' depth n') := by
  refine eval_simulates (congruence_folded lib) lib (fun {n n'} h => ?_)
    (show fuel + 0 ≤ fuel' from hf) depth h
  rcases h.cases with hsim | ⟨v, rfl, -, -⟩
  · exact .inl hsim
  · refine .inr fun {fuel fuel'} depth hf w w' hww' => ?_
    rcases eval_folded_literal fuel depth w h with hn | ⟨-, u, hn⟩
    · cases fuel with
      | zero => cases hn
      | succ fuel =>
        obtain ⟨k, rfl⟩ : ∃ k, fuel' = k + 1 := ⟨fuel' - 1, by omega⟩
        rw [hn]
        exact .inr ⟨.ok rfl, hww'⟩
    · rw [hn]
      exact .inl rfl

/-- A call whose folded arguments have forgotten their places is folded to a related expression. -/
lemma folded_of_foldCall (h : lib.Guarded) {name : String} {args args' : List Node}
    (hargs : List.Forall₂ (Folded lib) args args')
    (hallowed : Allowed lib.signature name args.length)
    (hforget : args'.map (mapLoc Location.forget) = args') {n' : Node} {s s' : Store}
    (hn' : foldCall lib name args' .unknown s = (.ok n', s')) :
    Folded lib (.call name args .unknown) n' := by
  rcases foldCall_eq_ok.1 hn' with ⟨-, rfl, -⟩ | ⟨c, values, v, hfold, hrun, rfl⟩
  · exact .call hargs
  · obtain ⟨hname, hvalues, e, he, hb, hc⟩ := foldable?_eq_some hfold
    obtain ⟨rfl, hstatic⟩ := mapM_static?_eq_some hvalues
    have hreliable := h.reliable he hb
    obtain ⟨r, hr⟩ := hreliable.steady hc .unknown hstatic
    cases (hr s).symm.trans hrun
    -- the value has forgotten its place, as the arguments have
    have hsame : values.map (Value.mapLoc Location.forget) = values := by
      refine List.map_injective_iff.2 (fun u u' huu' => Node.literal.inj huu') ?_
      rw [List.map_map] at hforget ⊢
      exact hforget
    have hforgets := hreliable.forgets hc hstatic hr s
    rw [hsame, hr] at hforgets
    have hv : v.loc = .unknown := by
      rw [Except.ok.inj (Prod.ext_iff.1 hforgets).1, Value.loc_mapLoc]
      rfl
    have hplace : v.relocate .unknown = v := hv ▸ v.relocate_loc
    rw [hplace]
    refine .value hargs ⟨hname, ?_, he, ?_, h.unrestricted he hb hc, hb, hstatic, hr, hv⟩
    · rintro rfl
      rw [h.assign] at he
      cases he
      cases hb
    · rcases hallowed with hprocedure | ⟨arity, hsig, hcount⟩
      · rw [hname] at hprocedure
        cases hprocedure
      · rw [Library.signature, he] at hsig
        cases hsig
        exact hcount

mutual

/-- An expression without places is folded to a related one. -/
theorem folded_of_fold (h : lib.Guarded) : (n : Node) → n.Checked lib.signature →
    n.mapLoc Location.forget = n → {n' : Node} → {s s' : Store} →
    fold lib n s = (.ok n', s') → Folded lib n n'
  | literal _, _, _, _, _, _, hn' => by cases hn'; exact .refl _
  | ivar _ _, _, _, _, _, _, hn' => by cases hn'; exact .refl _
  | var _ _, _, _, _, _, _, hn' => by cases hn'; exact .refl _
  | call name args loc, hn, hforget, n', s, s', hn' => by
    obtain ⟨hallowed, hparts⟩ := Grammar.checked_call hn
    rw [mapLoc_call] at hforget
    obtain ⟨-, hforgotten, hloc⟩ := Node.call.inj hforget
    obtain rfl : .unknown = loc := hloc
    obtain ⟨args', u, hargs, hcall⟩ := fold_call_eq_ok.1 hn'
    have hmoved := foldAll_moved (Library.Reliable.portable h.reliable) args hargs s
    rw [hforgotten, hargs] at hmoved
    have hforgets := Except.ok.inj (Prod.ext_iff.1 hmoved).1
    exact folded_of_foldCall h (folded_of_foldAll h args hparts hforgotten hargs) hallowed
      hforgets.symm hcall

/-- Expressions without places are folded to related ones. -/
theorem folded_of_foldAll (h : lib.Guarded) : (ns : List Node) →
    (∀ n ∈ ns, n.Checked lib.signature) → ns.map (mapLoc Location.forget) = ns →
    {ns' : List Node} → {s s' : Store} → foldAll lib ns s = (.ok ns', s') →
    List.Forall₂ (Folded lib) ns ns'
  | [], _, _, _, _, _, hns' => by cases hns'; exact .nil
  | n :: ns, hall, hforget, ns', s, s', hns' => by
    obtain ⟨hn, hns⟩ := List.forall_mem_cons.1 hall
    obtain ⟨hforgotten, hforgottens⟩ := List.cons.inj hforget
    obtain ⟨n', u, ms, hfirst, hrest, rfl⟩ := foldAll_cons_eq_ok.1 hns'
    exact .cons (folded_of_fold h n hn hforgotten hfirst)
      (folded_of_foldAll h ns hns hforgottens hrest)

end

end Node

mutual

/-- Places that are forgotten may change before. -/
theorem Node.forget_mapLoc {ρ : Location → Location} : (n : Node) →
    (n.mapLoc ρ).mapLoc Location.forget = n.mapLoc Location.forget
  | .literal v => congrArg Node.literal v.forget_mapLoc
  | .ivar _ _ => rfl
  | .var _ _ => rfl
  | .call name args l => by
    rw [mapLoc_call, mapLoc_call, mapLoc_call, forgetEach_mapLoc args]
    rfl

theorem Node.forgetEach_mapLoc {ρ : Location → Location} : (ns : List Node) →
    (ns.map (Node.mapLoc ρ)).map (Node.mapLoc Location.forget) =
      ns.map (Node.mapLoc Location.forget)
  | [] => rfl
  | n :: ns => by
    rw [List.map_cons, List.map_cons, List.map_cons, forget_mapLoc n, forgetEach_mapLoc ns]

end

/-- Where one of two scripts that end alike fails, the other fails for the same cause. -/
lemma SameEnd.exists_failed {ρ : Location → Location} {x y : Option (Report × World)}
    (h : SameEnd ρ x y) {report : Report} {v : World} {f : Failure} (hx : x = some (report, v))
    (hf : report.result = .error f) :
    ∃ report' v' f', y = some (report', v') ∧ report'.result = .error f' ∧ f'.cause = f.cause := by
  cases h with
  | outOfFuel => cases hx
  | ok output hv hw =>
    cases hx
    cases hf
  | failed c hl hw =>
    cases hx
    cases hf
    exact ⟨_, _, _, rfl, rfl, rfl⟩

namespace Library

/-- The functions of the language and reliable functions of a host, of which no foldable one is
restricted. -/
lemma guarded_of_registerAll {es : List Entry} {lib : Library}
    (hreg : (builtin why).registerAll es = .ok lib)
    (hreliable : ∀ e ∈ es, ∀ c, e.behaviour = .compute c → c.Reliable)
    (hopen : ∀ e ∈ es, e.foldable = true → e.restricted = false) : lib.Guarded where
  reliable {name e c} he hb := by
    rcases (find?_of_registerAll hreg name e).2 he with hmem | hold
    · exact hreliable e hmem c hb
    · exact reliable_builtin hold hb
  unrestricted {name e c} he hb hc := by
    rcases (find?_of_registerAll hreg name e).2 he with hmem | hold
    · exact hopen e hmem (by simp only [Entry.foldable, hb, hc])
    · exact (builtin_foldable hold hb hc).2.1
  assign := by
    refine (find?_of_registerAll hreg "assign" _).1 ?_
    rw [find?_builtin]
    rfl

/-- What fails without folding fails with folding.

Take the functions of the language and functions of a host: reliable ones, of which those that are
foldable are not restricted. If a script that was compiled without folding fails in some world, for
want of permission or for any other cause, then the script compiled with folding, if it does
compile, comes to an end in that world and fails for the same cause, whatever its fuel. -/
theorem folding_keeps_failures {es : List Entry} {lib : Library}
    (hreg : (builtin why).registerAll es = .ok lib)
    (hreliable : ∀ e ∈ es, ∀ c, e.behaviour = .compute c → c.Reliable)
    (hopen : ∀ e ∈ es, e.foldable = true → e.restricted = false) {ts : List Token}
    {nodes : List Node} {s : Store} (hnodes : (lib.compileTokens false ts s).1 = .ok nodes)
    {fuel : Nat} {w v : World} {report : Report} {f : Failure}
    (hrun : execute lib fuel nodes w = some (report, v)) (hf : report.result = .error f)
    {nodes' : List Node} {t : Store} (hnodes' : (lib.compileTokens true ts t).1 = .ok nodes') :
    (∃ r, execute lib fuel nodes' w = some r) ∧
      ∀ fuel' report' v', execute lib fuel' nodes' w = some (report', v') →
        ∃ f', report'.result = .error f' ∧ f'.cause = f.cause := by
  have hguarded := guarded_of_registerAll hreg hreliable hopen
  have hblind := Reliable.blind hguarded.reliable
  have hparse := compileTokens_false_eq_ok.1 hnodes
  rw [compileTokens_true hparse] at hnodes'
  -- without their places, the statements are related to what they fold to without its places
  have hfolds : Node.foldAll lib (nodes.map (Node.mapLoc Location.forget)) t =
      (.ok (nodes'.map (Node.mapLoc Location.forget)), t) :=
    Node.foldAll_moved (Reliable.portable hguarded.reliable) nodes (Prod.ext hnodes' rfl) t
  have hchecked : ∀ n ∈ nodes.map (Node.mapLoc Location.forget), n.Checked lib.signature := by
    intro n hn
    obtain ⟨m, hm, rfl⟩ := List.mem_map.1 hn
    exact ((Grammar.script_of_parse hparse).2 m hm).mapLoc
  have hrelated :=
    Node.folded_of_foldAll hguarded _ hchecked (Node.forgetEach_mapLoc nodes) hfolds
  -- places are only for reports
  have hsame : ∀ {ns ns' : List Node},
      ns.map (Node.mapLoc Location.forget) = ns'.map (Node.mapLoc Location.forget) →
      SameEnd Location.forget (execute lib fuel ns w) (execute lib fuel ns' w) := fun h =>
    executeFrom_sameEnd hblind fuel (map_eq_map_iff_forall₂.1 h) rfl rfl []
  obtain ⟨report₁, v₁, f₁, hrun₁, hf₁, hcause₁⟩ :=
    (hsame (Node.forgetEach_mapLoc nodes).symm).exists_failed hrun hf
  obtain ⟨v₂, hrun₂, -⟩ := executeFrom_simulates
    (fun h => ((Node.congruence_folded lib).kin h).loc_eq)
    (fun h => Node.eval_of_folded (Nat.le_refl fuel) 0 h) hrelated
    (.refl (Node.congruence_folded lib).refl w) hrun₁
  obtain ⟨report₃, v₃, f₃, hrun₃, hf₃, hcause₃⟩ :=
    (hsame (Node.forgetEach_mapLoc nodes')).exists_failed hrun₂ hf₁
  refine ⟨⟨_, hrun₃⟩, fun fuel' report' v' hrun' => ⟨f₃, ?_, hcause₃.trans hcause₁⟩⟩
  obtain ⟨_, hlong, -⟩ := execute_mono (Nat.le_max_left fuel fuel') hrun₃
  obtain ⟨_, hlong', -⟩ := execute_mono (Nat.le_max_right fuel fuel') hrun'
  obtain ⟨rfl, -⟩ := Prod.ext_iff.1 (Option.some.inj (hlong.symm.trans hlong'))
  exact hf₃

/-- A foldable function of a host that gives its argument. -/
def giving (name : String) (restricted : Bool) : Entry where
  name := name
  arity := .fixed [1]
  docs := "mixed \x7bvalue\x7d Returns the value."
  restricted := restricted
  behaviour := .compute
    { foldable := true
      run := fun loc args => return args.head?.getD (.void loc) }

/-- Such a function is reliable. -/
lemma reliable_giving (name : String) (restricted : Bool) :
    ∀ c, (giving name restricted).behaviour = .compute c → c.Reliable := by
  rintro _ ⟨⟩
  refine ⟨fun hl hargs => ?_, fun _ loc args _ => ⟨_, fun _ => rfl⟩,
    fun _ loc args v _ hrun s => ?_⟩
  · cases hargs with
    | nil => exact Compute.Agrees.pure (congrArg Value.void hl)
    | cons hv _ => exact Compute.Agrees.pure hv
  · cases hrun s
    cases args <;> rfl

/-- Such a function, under a new name, can be added to the language. -/
lemma exists_registered {name : String} (restricted : Bool)
    (hnew : (builtin why).find? name = none) :
    ∃ lib, (builtin why).registerAll [giving name restricted] = .ok lib ∧
      lib.find? name = some (giving name restricted) ∧
      ∀ other, other ≠ name → lib.find? other = (builtin why).find? other := by
  have hdocs : Text.NonBlank (giving name restricted).docs := .ofList rfl
  obtain ⟨lib, hlib, hfind⟩ := find?_registerAll
    (List.forall_mem_singleton.2 ⟨hdocs, rfl⟩) (List.nodup_singleton _) (builtin why)
    (List.forall_mem_singleton.2 hnew)
  refine ⟨lib, hlib, ?_, fun other hother => ?_⟩
  · rw [hfind, List.find?_cons_of_pos (by simp [giving]), Option.some_or]
  · rw [hfind, List.find?_cons_of_neg (by simpa [giving] using hother.symm), List.find?_nil,
      Option.none_or]

/-- The tokens of a call of `runas` on a call of `echo` and another number. -/
def runasEcho : List Token :=
  [⟨.functionName "runas", .unknown⟩, ⟨.openParen, .unknown⟩, ⟨.functionName "echo", .unknown⟩,
    ⟨.openParen, .unknown⟩, ⟨.int 1, .unknown⟩, ⟨.closeParen, .unknown⟩, ⟨.comma, .unknown⟩,
    ⟨.int 2, .unknown⟩, ⟨.closeParen, .unknown⟩]

/-- A call of `runas` on an expression and a number. -/
def runasOn (n : Node) : Node := .call "runas" [n, .literal (.int 2 .unknown)] .unknown

/-- The number one, given by a function. -/
def oneBy (name : String) : Node := .call name [.literal (.int 1 .unknown)] .unknown

lemma checked_oneBy {lib : Library} {name : String} {restricted : Bool}
    (h : lib.find? name = some (giving name restricted)) : (oneBy name).Checked lib.signature := by
  refine .call (.inr ⟨.fixed [1], by rw [signature, h]; rfl, rfl⟩) ?_
  exact List.forall_mem_singleton.2 (.literal _)

lemma fold_oneBy {lib : Library} {name : String} {restricted : Bool}
    (h : lib.find? name = some (giving name restricted)) (hname : isProcedureName name = false)
    (s : Store) : Node.fold lib (oneBy name) s = (.ok (.literal (.int 1 .unknown)), s) := by
  simp only [oneBy, Node.fold, Node.foldAll, Node.foldCall, Node.foldable?, h, hname]
  rfl

lemma parse_runasEcho {lib : Library} (hecho : lib.find? "echo" = some (giving "echo" false))
    (hrunas : lib.find? "runas" = some Builtin.runas) :
    Node.parse lib.signature runasEcho = .ok [runasOn (oneBy "echo")] := by
  have hone : Grammar.Slot 3 [⟨.int 1, .unknown⟩] (.literal (.int 1 .unknown)) :=
    .mk (by decide) (.cons (.mk (.atom (.int 1 .unknown)) .nil) .nil)
  have htwo : Grammar.Slot 2 [⟨.int 2, .unknown⟩] (.literal (.int 2 .unknown)) :=
    .mk (by decide) (.cons (.mk (.atom (.int 2 .unknown)) .nil) .nil)
  have hecho' : Grammar.Slot 2 [⟨.functionName "echo", .unknown⟩, ⟨.openParen, .unknown⟩,
      ⟨.int 1, .unknown⟩, ⟨.closeParen, .unknown⟩] (oneBy "echo") :=
    .mk (by decide) (.cons (.mk (.call (.last hone)) .nil) .nil)
  have hslot : Grammar.Slot 1 runasEcho (runasOn (oneBy "echo")) :=
    .mk (by decide) (.cons (.mk (.call (.more hecho' (.last htwo))) .nil) .nil)
  refine Grammar.parse_of_statement hslot (.call (.inr ⟨.fixed [2], ?_, rfl⟩) ?_)
  · rw [signature, hrunas]
    rfl
  · simp only [List.forall_mem_cons]
    exact ⟨checked_oneBy hecho, .literal _, by simp⟩

lemma foldAll_runasOn {lib : Library} (hrunas : lib.find? "runas" = some Builtin.runas) {n : Node}
    {v : Value} {s : Store} (hn : Node.fold lib n s = (.ok (.literal v), s)) :
    Node.foldAll lib [runasOn n] s = (.ok [runasOn (.literal v)], s) := by
  have hargs : Node.foldAll lib [n, .literal (.int 2 .unknown)] s =
      (.ok [.literal v, .literal (.int 2 .unknown)], s) :=
    Node.foldAll_cons_eq_ok.2 ⟨_, s, _, hn, rfl, rfl⟩
  have hcall : Node.foldCall lib "runas" [.literal v, .literal (.int 2 .unknown)] .unknown s =
      (.ok (runasOn (.literal v)), s) := by
    refine Node.foldCall_eq_ok.2 (.inl ⟨?_, rfl, rfl⟩)
    cases hfold : Node.foldable? lib "runas" [.literal v, .literal (.int 2 .unknown)] with
    | none => rfl
    | some p =>
      obtain ⟨-, -, e, he, hb, -⟩ := Node.foldable?_eq_some hfold
      rw [hrunas] at he
      cases he
      cases hb
  exact Node.foldAll_cons_eq_ok.2
    ⟨_, s, _, Node.fold_call_eq_ok.2 ⟨_, s, hargs, hcall⟩, rfl, rfl⟩

/-- Nobody may call `runas`. -/
lemma execute_runasOn {lib : Library} (hrunas : lib.find? "runas" = some Builtin.runas) (n : Node) :
    execute lib 1 [runasOn n] {} = some (failed ⟨.notPermitted "runas", .unknown⟩ {}) := by
  have heval : Node.eval lib 1 0 (runasOn n) {} =
      (.error (.halt (.failure ⟨.notPermitted "runas", .unknown⟩)), {}) :=
    Node.runCall_apply (by decide) hrunas (Node.eval lib 0) 0 0 _ .unknown {}
  rw [execute, executeFrom_of_halt _ _ _ heval]
  rfl

/-- A restricted function called on what a function of the host gives, by nobody. -/
theorem folding_keeps_failures_runas :
    ∃ lib, builtin.registerAll [giving "echo" false] = .ok lib ∧
      (∀ e ∈ [giving "echo" false], ∀ c, e.behaviour = .compute c → c.Reliable) ∧
      (∀ e ∈ [giving "echo" false], e.foldable = true → e.restricted = false) ∧
      (lib.compileTokens false runasEcho .empty).1 = .ok [runasOn (oneBy "echo")] ∧
      execute lib 1 [runasOn (oneBy "echo")] {} =
        some (failed ⟨.notPermitted "runas", .unknown⟩ {}) ∧
      (lib.compileTokens true runasEcho .empty).1 =
        .ok [runasOn (.literal (.int 1 .unknown))] ∧
      ∀ fuel report v, execute lib fuel [runasOn (.literal (.int 1 .unknown))] {} =
        some (report, v) → ∃ f, report.result = .error f ∧ f.cause = .notPermitted "runas" := by
  have hnew : builtin.find? "echo" = none := by
    rw [find?_builtin]
    rfl
  obtain ⟨lib, hreg, hecho, hother⟩ := exists_registered false hnew
  have hrunas : lib.find? "runas" = some Builtin.runas := by
    rw [hother "runas" (by decide), find?_builtin]
    rfl
  have hreliable : ∀ e ∈ [giving "echo" false], ∀ c, e.behaviour = .compute c → c.Reliable :=
    List.forall_mem_singleton.2 (reliable_giving "echo" false)
  have hopen : ∀ e ∈ [giving "echo" false], e.foldable = true → e.restricted = false :=
    List.forall_mem_singleton.2 fun _ => rfl
  have hparse := parse_runasEcho hecho hrunas
  have hplain := (compileTokens_false_eq_ok (s := .empty)).2 hparse
  have hrun := execute_runasOn hrunas (oneBy "echo")
  have hfolded : (lib.compileTokens true runasEcho .empty).1 =
      .ok [runasOn (.literal (.int 1 .unknown))] := by
    rw [compileTokens_true hparse, foldAll_runasOn hrunas (fold_oneBy hecho (by decide) .empty)]
  exact ⟨lib, hreg, hreliable, hopen, hplain, hrun, hfolded,
    (folding_keeps_failures hreg hreliable hopen hplain hrun rfl hfolded).2⟩

/-- The tokens of a call of `secret` on a number. -/
def secretCall : List Token :=
  [⟨.functionName "secret", .unknown⟩, ⟨.openParen, .unknown⟩, ⟨.int 1, .unknown⟩,
    ⟨.closeParen, .unknown⟩]

/-- Folding does not ask for permission. Run for nobody, a script that calls a restricted function
fails if it was compiled without folding. Compiled with folding it gives what the function gives, if
that is foldable. -/
theorem folding_grants_secret :
    ∃ lib, builtin.registerAll [giving "secret" true] = .ok lib ∧
      (∀ c, (giving "secret" true).behaviour = .compute c → c.Reliable) ∧
      (lib.compileTokens false secretCall .empty).1 = .ok [oneBy "secret"] ∧
      execute lib 2 [oneBy "secret"] {} =
        some (failed ⟨.notPermitted "secret", .unknown⟩ {}) ∧
      (lib.compileTokens true secretCall .empty).1 = .ok [.literal (.int 1 .unknown)] ∧
      execute lib 2 [.literal (.int 1 .unknown)] {} =
        some (⟨.ok (.int 1 .unknown), some "1"⟩, {}) := by
  have hnew : builtin.find? "secret" = none := by
    rw [find?_builtin]
    rfl
  obtain ⟨lib, hreg, hsecret, -⟩ := exists_registered true hnew
  have hslot : Grammar.Slot 1 secretCall (oneBy "secret") :=
    .mk (by decide) (.cons (.mk (.call (.last
      (.mk (by decide) (.cons (.mk (.atom (.int 1 .unknown)) .nil) .nil)))) .nil) .nil)
  have hparse := Grammar.parse_of_statement hslot (checked_oneBy hsecret)
  have heval : Node.eval lib 2 0 (oneBy "secret") {} =
      (.error (.halt (.failure ⟨.notPermitted "secret", .unknown⟩)), {}) :=
    Node.runCall_apply (by decide) hsecret (Node.eval lib 1) 1 0 _ .unknown {}
  refine ⟨lib, hreg, reliable_giving "secret" true, compileTokens_false_eq_ok.2 hparse, ?_, ?_, ?_⟩
  · rw [execute, executeFrom_of_halt _ _ _ heval]
    rfl
  · rw [compileTokens_true hparse, Node.foldAll,
      bind_of_ok (fold_oneBy hsecret (by decide) .empty)]
    rfl
  · have htext : (Value.int 1 .unknown).text .empty = "1" := by with_unfolding_all rfl
    have hvalue : Node.eval lib 2 0 (.literal (.int 1 .unknown)) {} = (.ok (.int 1 .unknown), {}) :=
      rfl
    rw [execute, executeFrom_of_ok _ _ _ hvalue, htext]
    rfl

end Library

end CommandScript
