import CommandScript.Proofs.Folding
import CommandScript.Proofs.Lockstep

/-!
# Scripts inside scripts

A text that `eval` compiles and evaluates does the same as a script of its own. The two ways to run
it are different loops over its statements, and `eval` is one level deeper.

## Main results

* `CommandScript.executeFrom_of_evalTexts` — statements that give texts run as a script that gives
  these texts.
* `CommandScript.Form.runEval_eq_ok` — what it takes that `eval` gives a value.
* `CommandScript.Library.execute_of_eval` — what `eval` does to a text is what the text does as a
  script.
-/

namespace CommandScript

variable {why : String → Option String}

/-- Statements that all give a value run as a script that gives their texts, with every evaluation
that gives the values which theirs gives. -/
lemma executeFrom_of_evalTexts {ev : Node → Run Value} {ns : List Node} {new : List String}
    {w u : World} (h : evalTexts ev ns w = (.ok new, u)) (last : Value) (texts : List String) :
    ∃ last', ∀ ev' : Node → Run Value,
      (∀ n w v u, ev n w = (.ok v, u) → ev' n w = (.ok v, u)) →
        executeFrom ev' ns last texts w = some (finished last' (new.reverse ++ texts) u) := by
  induction ns generalizing new w last texts with
  | nil =>
    cases h
    exact ⟨last, fun _ _ => rfl⟩
  | cons n ns ih =>
    rcases hn : ev n w with ⟨e | v, t⟩
    · rw [evalTexts, bind_of_error hn] at h
      cases h
    · rw [evalTexts, bind_of_ok hn] at h
      cases hvoid : v.isVoid with
      | true =>
        rw [hvoid, if_pos rfl] at h
        obtain ⟨last', hlast⟩ := ih h v texts
        refine ⟨last', fun ev' hev => ?_⟩
        rw [executeFrom_of_ok ns last texts (hev n w v t hn), hvoid, if_pos rfl]
        exact hlast ev' hev
      | false =>
        rw [hvoid, if_neg Bool.false_ne_true, bind_of_ok (Run.textOf_apply v t)] at h
        rcases hns : evalTexts ev ns t with ⟨e | rest, s⟩
        · rw [bind_of_error hns] at h
          cases h
        · rw [bind_of_ok hns] at h
          cases h
          obtain ⟨last', hlast⟩ := ih hns v (v.text t.store :: texts)
          refine ⟨last', fun ev' hev => ?_⟩
          rw [executeFrom_of_ok ns last texts (hev n w v t hn), hvoid, if_neg Bool.false_ne_true,
            List.reverse_cons, List.append_assoc]
          exact hlast ev' hev

namespace Form

variable {lib : Library} {ev : Evaluator} {depth : Nat} {loc : Location} {w u : World} {v : Value}

/-- If `eval` gives a value, then its argument has a text that compiles, the statements of this text
give texts one level deeper, and the value has these texts as one text. -/
lemma runEval_eq_ok {n : Node} (h : runEval lib ev depth loc [n] w = (.ok v, u)) :
    ∃ given t nodes s texts, ev depth n w = (.ok given, t) ∧
      lib.compile true (given.text t.store) none t.store = (.ok nodes, s) ∧
      evalTexts (ev (depth + 1)) nodes { t with store := s } = (.ok texts, u) ∧
      v.text u.store = " ".intercalate texts := by
  have hpart : part eval [n] 0 loc w = (.ok n, w) := rfl
  rw [runEval, bind_of_ok hpart] at h
  rcases hgiven : ev depth n w with ⟨e | given, t⟩
  · rw [bind_of_error hgiven] at h
    cases h
  rw [bind_of_ok hgiven, bind_of_ok (Run.textOf_apply given t)] at h
  rcases hcompile : lib.compile true (given.text t.store) none t.store with ⟨e | nodes, s⟩
  · rw [bind_of_error (Run.ofCompile_of_error loc hcompile)] at h
    cases h
  rw [bind_of_ok (Run.ofCompile_of_ok loc hcompile)] at h
  unfold checkDepth at h
  split at h
  · rw [bind_of_error (Run.fail_apply loc _ _)] at h
    cases h
  rw [bind_of_ok (Run.pure_apply () _)] at h
  rcases htexts : evalTexts (ev (depth + 1)) nodes { t with store := s } with ⟨e | texts, t'⟩
  · rw [bind_of_error htexts] at h
    cases h
  rw [bind_of_ok htexts] at h
  -- nothing at all is void, which has the empty text
  cases texts with
  | nil =>
    cases h
    exact ⟨given, t, nodes, s, [], rfl, hcompile, htexts, rfl⟩
  | cons text texts =>
    cases h
    exact ⟨given, t, nodes, s, text :: texts, rfl, hcompile, htexts, rfl⟩

/-- If the text of its argument compiles, and the statements give some texts one level deeper, then
`eval` gives these texts as one text. -/
lemma runEval_of_texts (hdepth : depth < maxCallDepth) {n : Node} {given : Value} {t : World}
    {script : String} {nodes : List Node} {s : Store} {text : String} {texts : List String}
    (hgiven : ev depth n w = (.ok given, t)) (hscript : given.text t.store = script)
    (hcompile : lib.compile true script none t.store = (.ok nodes, s))
    (htexts : evalTexts (ev (depth + 1)) nodes { t with store := s } = (.ok (text :: texts), u)) :
    runEval lib ev depth loc [n] w =
      (.ok (.string (" ".intercalate (text :: texts)) loc), u) := by
  have hpart : part eval [n] 0 loc w = (.ok n, w) := rfl
  have hcheck : checkDepth depth .eval loc { t with store := s } =
      (.ok (), { t with store := s }) := by
    rw [checkDepth, if_neg (by omega)]
    rfl
  rw [runEval, bind_of_ok hpart, bind_of_ok hgiven, bind_of_ok (Run.textOf_apply given t), hscript,
    bind_of_ok (Run.ofCompile_of_ok loc hcompile), bind_of_ok hcheck, bind_of_ok htexts]
  rfl

end Form

namespace Library

lemma find?_eval : (builtin why).find? "eval" = some Builtin.eval := by
  rw [find?_builtin]
  rfl

/-- A call of `eval` on one expression. -/
lemma eval_call_eval {lib : Library} (h : lib.find? "eval" = some Builtin.eval) (fuel depth : Nat)
    (n : Node) (loc : Location) (w : World) :
    Node.eval lib (fuel + 1) depth (.call "eval" [n] loc) w =
      Form.runEval lib (Node.eval lib fuel) depth loc [n] w := by
  rw [Node.eval_call, Node.runCall_apply (by decide) h]
  rfl

/-- What `eval` does to a text is what the text does as a script.

If a call of `eval` on a text gives a value, then the text compiles without a change of the arrays,
and as a script from the same world it comes to an end, given the same fuel or more. It succeeds,
its output is the text of that value, and it leaves the very world that the call leaves.

**Proof sketch.** The statements give their texts one level deeper. What gives a value there does
the same further out, where calls can only be nested less deeply. -/
theorem execute_of_eval {fuel : Nat} {text : String} {l loc : Location} {w u : World} {v : Value}
    (h : Node.eval (builtin why) fuel 0 (.call "eval" [.literal (.string text l)] loc) w =
      (.ok v, u)) :
    ∃ nodes last, (builtin why).compile true text none w.store = (.ok nodes, w.store) ∧
      ∀ fuel', fuel ≤ fuel' →
        execute (builtin why) fuel' nodes w = some (⟨.ok last, some (v.text u.store)⟩, u) := by
  cases fuel with
  | zero => cases h
  | succ fuel =>
    rw [eval_call_eval find?_eval] at h
    obtain ⟨given, t, nodes, s, texts, hgiven, hcompile, htexts, hv⟩ := Form.runEval_eq_ok h
    obtain ⟨rfl, rfl⟩ : given = .string text l ∧ t = w := by
      cases fuel with
      | zero => cases hgiven
      | succ fuel =>
        cases hgiven
        exact ⟨rfl, rfl⟩
    obtain ⟨r, hr⟩ := compile_outcome text none
    obtain rfl : s = t.store := (Prod.ext_iff.1 (hcompile.symm.trans (hr t.store))).2
    obtain ⟨last, hlast⟩ := executeFrom_of_evalTexts htexts (.void .unknown) []
    refine ⟨nodes, last, hcompile, fun fuel' hf => ?_⟩
    have hrun := hlast (Node.eval (builtin why) fuel' 0) fun n w v u hn =>
      Node.eval_further_out (Nat.zero_le 1) (by omega) hn
    rw [execute, hrun, finished, hv, List.append_nil, List.reverse_reverse]

/-- A world with a procedure that does nothing. -/
def idle : World where
  env := { procedures := Bindings.empty.insert "_p" ⟨"_p", [], .var "x" .unknown⟩ }

/-- The statements of a script that calls the procedure and then gives a text. -/
def idleThenDone : List Node :=
  [.call "_p" [] ⟨none, 1, 1⟩, .literal (.string "done" ⟨none, 2, 1⟩)]

lemma compile_idleThenDone (s : Store) :
    (builtin why).compile true "_p()\n'done'" none s = (.ok idleThenDone, s) := by
  have hlex : Token.lex "_p()\n'done'" none = .ok [⟨.functionName "_p", ⟨none, 1, 1⟩⟩,
      ⟨.openParen, ⟨none, 1, 3⟩⟩, ⟨.closeParen, ⟨none, 1, 4⟩⟩, ⟨.newline, ⟨none, 1, 5⟩⟩,
      ⟨.quoted "done", ⟨none, 2, 1⟩⟩] := by with_unfolding_all rfl
  have hparse : ∀ sig, Node.parse sig [⟨.functionName "_p", ⟨none, 1, 1⟩⟩,
      ⟨.openParen, ⟨none, 1, 3⟩⟩, ⟨.closeParen, ⟨none, 1, 4⟩⟩, ⟨.newline, ⟨none, 1, 5⟩⟩,
      ⟨.quoted "done", ⟨none, 2, 1⟩⟩] = .ok idleThenDone := by
    intro sig
    with_unfolding_all rfl
  have hfold : ∀ lib : Library, Node.foldAll lib idleThenDone s = (.ok idleThenDone, s) :=
    fun lib => rfl
  simp only [compile, hlex, compileTokens_true (hparse _), hfold]

/-- The world after this script: the call has made an array of its arguments. -/
def idled : World := { idle with store := (Compute.newArray ⟨none, 1, 1⟩ [] .empty).2 }

lemma eval_idleThenDone {lib : Library} (hfind : lib.find? "eval" = some Builtin.eval)
    (hcompile : lib.compile true "_p()\n'done'" none .empty = (.ok idleThenDone, .empty)) :
    Node.eval lib 3 0 (.call "eval" [.literal (.string "_p()\n'done'" .unknown)] .unknown) idle =
      (.ok (.string "done" .unknown), idled) := by
  have htexts : evalTexts (Node.eval lib 2 (0 + 1)) idleThenDone { idle with store := .empty } =
      (.ok ["done"], idled) := rfl
  have hgiven : Node.eval lib 2 0 (.literal (.string "_p()\n'done'" .unknown)) idle =
      (.ok (.string "_p()\n'done'" .unknown), idle) := rfl
  rw [eval_call_eval hfind, Form.runEval_of_texts (by decide) hgiven rfl hcompile htexts]
  rfl

/-- A text that calls a procedure and then gives a text, evaluated and run. -/
theorem execute_of_eval_idle :
    Node.eval builtin 3 0 (.call "eval" [.literal (.string "_p()\n'done'" .unknown)] .unknown)
      idle = (.ok (.string "done" .unknown), idled) ∧
    ∃ nodes last, builtin.compile true "_p()\n'done'" none .empty = (.ok nodes, .empty) ∧
      execute builtin 3 nodes idle = some (⟨.ok last, some "done"⟩, idled) := by
  have hfind : builtin.find? "eval" = some Builtin.eval := find?_eval
  have heval := eval_idleThenDone hfind (compile_idleThenDone .empty)
  obtain ⟨nodes, last, hcompile, hrun⟩ := execute_of_eval heval
  exact ⟨heval, nodes, last, hcompile, hrun 3 (Nat.le_refl 3)⟩

end Library

end CommandScript
