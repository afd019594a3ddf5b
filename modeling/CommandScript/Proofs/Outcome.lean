import CommandScript.Proofs.Privilege

/-!
# A script succeeds or fails as a whole

The statements of a script are evaluated one after another until one of them halts. If none does, or
if the first one that does cancels the script, then the script succeeds: it gives the last value and
hands over the texts of all values. Otherwise it fails: it gives the failure and nothing else, and
the actor is told. There is nothing between the two, and what stands behind the first statement that
halts has no part in it.

## Main definitions

* `CommandScript.Produces` — statements that give values, one after another.
* `CommandScript.HaltsAfter` — a statement that halts after others gave values.
* `CommandScript.Report.success` — the report of a script that succeeds.
* `CommandScript.Halt.Tells` — the failure that a halt is reported as.

## Main results

* `CommandScript.executeFrom_of_produces` — a script goes on behind statements that give values.
* `CommandScript.exists_produces` — how far the statements of a script come.
* `CommandScript.Library.script_is_all_or_nothing` — a script succeeds or fails as a whole.
-/

namespace CommandScript

/-- Statements that are evaluated one after another, from one world to another, and give values.
Each value comes with the text that it has when it is given. -/
inductive Produces (ev : Node → Run Value) :
    List Node → World → List (Value × String) → World → Prop where
  | nil (w : World) : Produces ev [] w [] w
  | cons {n : Node} {ns : List Node} {w u t : World} {v : Value} {given : List (Value × String)}
    (first : ev n w = (.ok v, u)) (rest : Produces ev ns u given t) :
    Produces ev (n :: ns) w ((v, v.text u.store) :: given) t

/-- The statements `before` give values, and then the statement `n` halts. -/
def HaltsAfter (ev : Node → Run Value) (before : List Node) (n : Node) (w : World)
    (given : List (Value × String)) (h : Halt) (u : World) : Prop :=
  ∃ t, Produces ev before w given t ∧ ev n t = (.error (.halt h), u)

/-- The statements of a script all give values, or the first one that does not cancels the script.
-/
def Succeeds (ev : Node → Run Value) (nodes : List Node) (w : World) (given : List (Value × String))
    (u : World) : Prop :=
  Produces ev nodes w given u ∨ ∃ before n after, nodes = before ++ n :: after ∧
    HaltsAfter ev before n w given (.signal .cancel) u

namespace Report

/-- The last of some values, or else a fallback. -/
def lastOf (last : Value) (given : List (Value × String)) : Value :=
  (given.getLast?.map Prod.fst).getD last

/-- The texts of the values that are not void. -/
def textsOf (given : List (Value × String)) : List String :=
  (given.filter fun p => !p.1.isVoid).map Prod.snd

/-- The report of a script that succeeds: the last value, which is void if there is none, and the
texts of all values that are not void, with spaces between them. -/
def success (given : List (Value × String)) : Report where
  result := .ok (lastOf (.void .unknown) given)
  output := some (" ".intercalate (textsOf given))

end Report

/-- A halt of a statement at a place is reported as a failure: a failure as it is, and a signal that
nothing took up, but for the one that cancels the script, as a misuse at that place. -/
inductive Halt.Tells (loc : Location) : Halt → Failure → Prop where
  | failure (f : Failure) : Tells loc (.failure f) f
  | stray {s : Signal} {f : Failure} (ne_cancel : s ≠ .cancel) (cause : f.cause = .stray s.kind)
    (kind : f.kind = .misuse) (place : f.loc = loc) : Tells loc (.signal s) f

/-- The first statement of a script that gives no value halts in a way that is reported as a
failure. -/
def Fails (ev : Node → Run Value) (nodes : List Node) (w : World) (f : Failure) (u : World) :
    Prop :=
  ∃ before n after given h, nodes = before ++ n :: after ∧ HaltsAfter ev before n w given h u ∧
    h.Tells n.loc f

/-! ## How far a script comes -/

section

variable {ev : Node → Run Value} {ns : List Node} {w t u : World} {given : List (Value × String)}

/-- What was given first comes before what is given later. -/
lemma Report.lastOf_cons (last v : Value) (text : String) :
    lastOf last ((v, text) :: given) = lastOf v given := by
  unfold lastOf
  rw [List.getLast?_cons]
  cases given.getLast? <;> rfl

/-- A script goes on behind statements that give values, with the last of these and with their
texts. -/
lemma executeFrom_of_produces (h : Produces ev ns w given t) (ms : List Node) (last : Value)
    (texts : List String) : executeFrom ev (ns ++ ms) last texts w =
      executeFrom ev ms (Report.lastOf last given) ((Report.textsOf given).reverse ++ texts) t := by
  induction h generalizing last texts with
  | nil => rfl
  | @cons n ns w u t v given first rest ih =>
    rw [List.cons_append, executeFrom_of_ok _ _ _ first, ih, Report.lastOf_cons]
    congr 1
    cases hv : v.isVoid <;> simp [Report.textsOf, hv]

/-- The statements of a script all give values, or one of them is the first that does not: it halts
or it is out of fuel. -/
lemma exists_produces (ev : Node → Run Value) (ns : List Node) (w : World) :
    (∃ given t, Produces ev ns w given t) ∨
      ∃ before n after given t stop u, ns = before ++ n :: after ∧ Produces ev before w given t ∧
        ev n t = (.error stop, u) := by
  induction ns generalizing w with
  | nil => exact .inl ⟨[], w, .nil w⟩
  | cons n ns ih =>
    rcases hn : ev n w with ⟨stop | v, u⟩
    · exact .inr ⟨[], n, ns, [], w, stop, u, rfl, .nil w, hn⟩
    · rcases ih u with ⟨given, t, h⟩ | ⟨before, m, after, given, t, stop, u', rfl, h, hm⟩
      · exact .inl ⟨_, t, .cons hn h⟩
      · exact .inr ⟨n :: before, m, after, _, t, stop, u', rfl, .cons hn h, hm⟩

/-- A script ends where a statement halts, whatever stands behind it. -/
lemma executeFrom_of_haltsAfter {before : List Node} {n : Node} {h : Halt}
    (hn : HaltsAfter ev before n w given h u) (after : List Node) :
    executeFrom ev (before ++ n :: after) (.void .unknown) [] w =
      some (h.ending n.loc (Report.lastOf (.void .unknown) given)
        (Report.textsOf given).reverse u) := by
  obtain ⟨t, hbefore, hhalt⟩ := hn
  rw [executeFrom_of_produces hbefore, List.append_nil, executeFrom_of_halt _ _ _ hhalt]

/-- A script that succeeds gives the last value and the texts of all. -/
lemma executeFrom_of_succeeds (h : Succeeds ev ns w given u) :
    executeFrom ev ns (.void .unknown) [] w = some (Report.success given, u) := by
  have hfinished :
      finished (Report.lastOf (.void .unknown) given) (Report.textsOf given).reverse u =
      (Report.success given, u) := by
    rw [finished, List.reverse_reverse]
    rfl
  rcases h with h | ⟨before, n, after, rfl, hn⟩
  · have hrun := executeFrom_of_produces h [] (.void .unknown) []
    rw [List.append_nil, List.append_nil] at hrun
    rw [hrun, executeFrom, hfinished]
  · rw [executeFrom_of_haltsAfter hn, Halt.ending, hfinished]

/-- Any other halt is a failure of the script. -/
lemma Halt.Tells.ending_eq {loc : Location} {h : Halt} {f : Failure} (hf : h.Tells loc f)
    (last : Value) (texts : List String) (u : World) :
    h.ending loc last texts u = (⟨.error f, none⟩, { u with env := u.env.send f.text }) := by
  cases hf with
  | failure f => rfl
  | @stray s f hs cause _ place =>
    have hfailure : f = s.toFailure loc := by
      cases f
      rw [Signal.toFailure]
      exact congrArg₂ Failure.mk cause place
    subst hfailure
    cases s with
    | cancel => exact absurd rfl hs
    | breakLoop levels => rfl
    | continueLoop => rfl
    | returnValue v => rfl

/-- A halt cancels the script, or it is a failure of it. -/
lemma Halt.cancels_or_tells (h : Halt) (loc : Location) :
    h = .signal .cancel ∨ ∃ f, h.Tells loc f := by
  cases h with
  | failure f => exact .inr ⟨f, .failure f⟩
  | signal s =>
    by_cases hs : s = .cancel
    · exact .inl (by rw [hs])
    · exact .inr ⟨s.toFailure loc, .stray hs rfl rfl rfl⟩

/-- A script that fails gives the failure, and sends its text. -/
lemma executeFrom_of_fails {f : Failure} (h : Fails ev ns w f u) :
    executeFrom ev ns (.void .unknown) [] w =
      some (⟨.error f, none⟩, { u with env := u.env.send f.text }) := by
  obtain ⟨before, n, after, given, h, rfl, hn, hf⟩ := h
  rw [executeFrom_of_haltsAfter hn, hf.ending_eq]

/-- A script that comes to an end succeeds or fails. -/
lemma succeeds_or_fails {result : Report × World}
    (h : executeFrom ev ns (.void .unknown) [] w = some result) :
    (∃ given u, Succeeds ev ns w given u) ∨ ∃ f u, Fails ev ns w f u := by
  rcases exists_produces ev ns w with
    ⟨given, t, hall⟩ | ⟨before, n, after, given, t, stop, u, rfl, hbefore, hn⟩
  · exact .inl ⟨given, t, .inl hall⟩
  · cases stop with
    | outOfFuel =>
      rw [executeFrom_of_produces hbefore, executeFrom_of_outOfFuel _ _ _ hn] at h
      cases h
    | halt e =>
      have hhalts : HaltsAfter ev before n w given e u := ⟨t, hbefore, hn⟩
      rcases e.cancels_or_tells n.loc with rfl | ⟨f, hf⟩
      · exact .inl ⟨given, u, .inr ⟨before, n, after, rfl, hhalts⟩⟩
      · exact .inr ⟨f, u, before, n, after, given, e, rfl, hhalts, hf⟩

end

/-! ## What the actor hears -/

section

variable {lib : Library} {fuel : Nat} {ns : List Node} {w t u : World}
  {given : List (Value × String)}

/-- Statements that give values keep the setting, and only add to what the actor was sent. -/
lemma Produces.keeps (h : Produces (Node.eval lib fuel 0) ns w given t) :
    w.SameSetting t ∧ w.env.heard.toList <+: t.env.heard.toList := by
  induction h with
  | nil w => exact ⟨.refl w, List.prefix_rfl⟩
  | @cons n ns w u t v given first rest ih =>
    have hsame := (Node.eval_scoped lib fuel 0 n).restores w (by simp [first])
    have hheard := Node.eval_addsTo Environment.isLog_heard lib fuel 0 n w
    rw [first] at hsame hheard
    exact ⟨hsame.trans ih.1, hheard.trans ih.2⟩

/-- So does a statement that halts after them. -/
lemma HaltsAfter.keeps {before : List Node} {n : Node} {h : Halt}
    (hn : HaltsAfter (Node.eval lib fuel 0) before n w given h u) :
    w.SameSetting u ∧ w.env.heard.toList <+: u.env.heard.toList := by
  obtain ⟨t, hbefore, hhalt⟩ := hn
  have hsame := (Node.eval_scoped lib fuel 0 n).restores t (by simp [hhalt])
  have hheard := Node.eval_addsTo Environment.isLog_heard lib fuel 0 n t
  rw [hhalt] at hsame hheard
  exact ⟨hbefore.keeps.1.trans hsame, hbefore.keeps.2.trans hheard⟩

/-- A script that succeeds has taken nothing back. -/
lemma Succeeds.heard (h : Succeeds (Node.eval lib fuel 0) ns w given u) :
    w.env.heard.toList <+: u.env.heard.toList := by
  rcases h with h | ⟨_, _, _, _, hn⟩
  · exact h.keeps.2
  · exact hn.keeps.2

/-- The statements of a script that fails keep the setting and take nothing back. -/
lemma Fails.keeps {f : Failure} (h : Fails (Node.eval lib fuel 0) ns w f u) :
    w.SameSetting u ∧ w.env.heard.toList <+: u.env.heard.toList := by
  obtain ⟨_, _, _, _, _, _, hn, _⟩ := h
  exact hn.keeps

/-- In the same setting there is somebody to hear a message if there was at first. -/
lemma World.SameSetting.send_eq (h : w.SameSetting u) (message : String) :
    u.env.send message = { u.env with
      heard := if w.env.actor.isSome then u.env.heard.push message else u.env.heard } := by
  rw [← h.actor, Environment.send]
  split <;> rfl

end

/-! ## Whole scripts -/

namespace Library

/-- A script succeeds or fails as a whole.

A script that comes to an end succeeds or fails. It succeeds if its statements all give values, or
if the first one that does not cancels the script: then it gives the last value and hands over the
texts of all values so far, and sends nothing on its own. It fails if the first statement that gives
no value halts in any other way: then it gives the failure and hands over nothing, and if there is
an actor, it sends one message behind those of the statements, which is the text of the failure. The
statements behind one that halts have no part in it. -/
theorem script_is_all_or_nothing (lib : Library) (fuel : Nat) (nodes : List Node) (w : World) :
    (∀ report v, execute lib fuel nodes w = some (report, v) ↔
      (∃ given, Succeeds (Node.eval lib fuel 0) nodes w given v ∧
        w.env.heard.toList <+: v.env.heard.toList ∧ report = .success given) ∨
      ∃ f u, Fails (Node.eval lib fuel 0) nodes w f u ∧
        w.env.heard.toList <+: u.env.heard.toList ∧ report = ⟨.error f, none⟩ ∧
        v = { u with env := { u.env with
          heard := if w.env.actor.isSome then u.env.heard.push f.text else u.env.heard } }) ∧
    ∀ before n given h u, HaltsAfter (Node.eval lib fuel 0) before n w given h u →
      ∀ after after', execute lib fuel (before ++ n :: after) w =
        execute lib fuel (before ++ n :: after') w := by
  refine ⟨fun report v => ⟨fun hrun => ?_, ?_⟩, fun before n given h u hn after after' => ?_⟩
  · rcases succeeds_or_fails hrun with ⟨given, u, hs⟩ | ⟨f, u, hf⟩
    · rw [execute, executeFrom_of_succeeds hs] at hrun
      obtain ⟨rfl, rfl⟩ := Prod.ext_iff.1 (Option.some.inj hrun)
      exact .inl ⟨given, hs, hs.heard, rfl⟩
    · rw [execute, executeFrom_of_fails hf] at hrun
      obtain ⟨rfl, rfl⟩ := Prod.ext_iff.1 (Option.some.inj hrun)
      exact .inr ⟨f, u, hf, hf.keeps.2, rfl, by rw [hf.keeps.1.send_eq]⟩
  · rintro (⟨given, hs, -, rfl⟩ | ⟨f, u, hf, -, rfl, rfl⟩)
    · exact executeFrom_of_succeeds hs
    · rw [execute, executeFrom_of_fails hf, hf.keeps.1.send_eq]
  · rw [execute, execute, executeFrom_of_haltsAfter hn, executeFrom_of_haltsAfter hn]

/-- A library with two functions: one leaves loops, and one cancels the script. -/
def leaving : Library := ⟨[Builtin.breakLoop, Builtin.die], by
  refine List.pairwise_cons.2 ⟨fun e he => ?_, List.pairwise_singleton _ _⟩
  rw [List.mem_singleton.1 he]
  decide⟩

/-- A world with an actor who has heard a message. -/
def greeted : World where
  env := { actor := some ⟨"steve", false⟩, heard := #["hello"] }

/-- A script that is cancelled behind a value, and one that leaves a loop where there is none. What
stands behind, a call of a procedure that is not defined, makes no difference. -/
theorem script_is_all_or_nothing_leaving :
    execute leaving 2 [.literal (.string "a" .unknown), .call "die" [] ⟨none, 2, 1⟩,
        .call "_p" [] ⟨none, 3, 1⟩] greeted =
      some (⟨.ok (.string "a" .unknown), some "a"⟩, greeted) ∧
    execute leaving 2 [.literal (.string "a" .unknown), .call "break" [] ⟨none, 2, 1⟩,
        .call "_p" [] ⟨none, 3, 1⟩] greeted =
      some (⟨.error ⟨.stray .breakLoop, ⟨none, 2, 1⟩⟩, none⟩,
        { greeted with env := { greeted.env with heard := #["hello",
          "MisuseException: break() used outside of a loop (line 2, column 1)"] } }) := by
  have hvalue : Produces (Node.eval leaving 2 0) [.literal (.string "a" .unknown)] greeted
      [(.string "a" .unknown, "a")] greeted := .cons rfl (.nil _)
  constructor
  · refine ((script_is_all_or_nothing leaving 2 _ greeted).1 _ _).2
      (.inl ⟨[(.string "a" .unknown, "a")], .inr ⟨[.literal (.string "a" .unknown)], _, _, rfl,
        greeted, hvalue, rfl⟩, List.prefix_rfl, ?_⟩)
    rfl
  · refine ((script_is_all_or_nothing leaving 2 _ greeted).1 _ _).2 (.inr ⟨_, greeted,
      ⟨[.literal (.string "a" .unknown)], _, _, _, _, rfl, ⟨greeted, hvalue, rfl⟩,
        .stray (by simp) rfl rfl rfl⟩, List.prefix_rfl, rfl, ?_⟩)
    rfl

end Library

end CommandScript
