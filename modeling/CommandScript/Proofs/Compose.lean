import CommandScript.Proofs.Moved

/-!
# Scripts one below the other

Two scripts in one text, with a line break between them, are the two scripts one after the other.
The text has the tokens of both, compiles to the statements of both, and does what the first does
and then what the second does in the world that the first leaves. All places of the second are
further down by the lines of the first.

## Main definitions

* `CommandScript.Report.failure?` — why a script failed, if it did.

## Main results

* `CommandScript.Library.compileTokens_between` — the statements of two scripts in one text.
* `CommandScript.executeFrom_append` — statements one after the other.
* `CommandScript.Library.scripts_compose` — two scripts in one text are the two scripts one after
  the other.
-/

namespace CommandScript

variable {why : String → Option String}

/-! ## Compiling -/

namespace Library

variable {lib : Library} {folding : Bool} {ts us sep : List Token} {ns ms : List Node}
  {ρ : Location → Location}

/-- Tokens compile to the statements that the parser reads, folded if asked. -/
lemma compileTokens_eq_ok {s s' : Store} :
    lib.compileTokens folding ts s = (.ok ms, s') ↔
      ∃ ns, Node.parse lib.signature ts = .ok ns ∧
        (if folding then Node.foldAll lib ns else pure ns) s = (.ok ms, s') := by
  unfold compileTokens
  cases Node.parse lib.signature ts with
  | error e =>
    constructor
    · intro h
      cases h
    · rintro ⟨_, h, -⟩
      cases h
  | ok ns => simp

/-- A text compiles to what its tokens compile to. -/
lemma compile_of_lex {text : String} {source : Option String}
    (h : Token.lex text source = .ok ts) :
    lib.compile folding text source = lib.compileTokens folding ts := by
  simp only [compile, h]

/-- Two scripts, of which the second is moved, compile to the statements of both. -/
lemma compileTokens_between (hport : folding = true → lib.Portable id ∧ lib.Portable ρ)
    (hsep : Token.Between ts us sep) {s s' s₁ s₂ : Store}
    (hts : lib.compileTokens folding ts s = (.ok ns, s₁))
    (hus : lib.compileTokens folding us s' = (.ok ms, s₂)) (t : Store) :
    lib.compileTokens folding (ts ++ (sep ++ us.map (Token.mapLoc ρ))) t =
      (.ok (ns ++ ms.map (Node.mapLoc ρ)), t) := by
  obtain ⟨ns₀, hns₀, hns⟩ := compileTokens_eq_ok.1 hts
  obtain ⟨ms₀, hms₀, hms⟩ := compileTokens_eq_ok.1 hus
  have hparse : Node.parse lib.signature (ts ++ (sep ++ us.map (Token.mapLoc ρ))) =
      .ok (ns₀ ++ ms₀.map (Node.mapLoc ρ)) :=
    Node.parse_between hsep.map_mapLoc hns₀ (Node.parse_mapLoc hms₀)
  refine compileTokens_eq_ok.2 ⟨_, hparse, ?_⟩
  cases folding with
  | false =>
    cases hns
    cases hms
    rfl
  | true =>
    obtain ⟨hid, hρ⟩ := hport rfl
    have hfirst := Node.foldAll_moved hid ns₀ hns t
    have hsame : Node.mapLoc id = id := funext Node.mapLoc_id
    rw [hsame, List.map_id, List.map_id] at hfirst
    exact Node.foldAll_append hfirst (Node.foldAll_moved hρ ms₀ hms t)

end Library

/-! ## Running -/

/-- Why a script failed, if it did. -/
def Report.failure? (r : Report) : Option Failure :=
  match r.result with
  | .error f => some f
  | .ok _ => none

section

variable {ev : Node → Run Value} {ns : List Node} {w u : World} {values : List Value}

/-- Statements that all give values are followed by the others. -/
lemma executeFrom_append (h : evalAll ev ns w = (.ok values, u)) (ms : List Node) (last : Value)
    (texts : List String) : ∃ last' texts',
      executeFrom ev (ns ++ ms) last texts w = executeFrom ev ms last' texts' u := by
  induction ns generalizing w values last texts with
  | nil =>
    cases h
    exact ⟨last, texts, rfl⟩
  | cons n ns ih =>
    obtain ⟨v, w', hn, hrest⟩ := bind_eq_ok.1 h
    obtain ⟨vs, w'', hns, hvalues⟩ := bind_eq_ok.1 hrest
    cases hvalues
    rw [List.cons_append, executeFrom_of_ok _ _ _ hn]
    exact ih hns v _

/-- What came before matters neither for how a script fails nor for the world that it leaves. -/
lemma executeFrom_failure? (ev : Node → Run Value) (ns : List Node) (last last' : Value)
    (texts texts' : List String) (w : World) :
    (executeFrom ev ns last texts w).map (fun p => (p.1.failure?, p.2)) =
      (executeFrom ev ns last' texts' w).map (fun p => (p.1.failure?, p.2)) := by
  induction ns generalizing last last' texts texts' w with
  | nil => rfl
  | cons n ns ih =>
    rcases hn : ev n w with ⟨(e | _) | v, u⟩
    · rw [executeFrom_of_halt _ _ _ hn, executeFrom_of_halt _ _ _ hn]
      cases e with
      | failure f => rfl
      | signal s => cases s <;> rfl
    · rw [executeFrom_of_outOfFuel _ _ _ hn, executeFrom_of_outOfFuel _ _ _ hn]
    · rw [executeFrom_of_ok _ _ _ hn, executeFrom_of_ok _ _ _ hn]
      exact ih ..

end

namespace Library

/-- Two scripts in one text, with a line break between them, are the two scripts one after the
other.

The text has the tokens of the first script, those of the second further down by the lines of the
first, and a line break between them if there is something on either side. If both scripts compile,
with folding or without, it compiles to the statements of both, those of the second as far down. And
if all statements of the first give values, then it fails as the second does in the world that the
first leaves, if that fails, and leaves the same world.

Where calls are folded, foldable functions have to give the same with any arrays and at every line,
and to leave the arrays as they are. The functions of the language do so. A function of a host that
is foldable and makes an array is shut out: the array that a call folds to is named by its number,
and in the text of both scripts the second one finds more arrays than alone. -/
theorem scripts_compose (lib : Library) (source : Option String) {a b : String}
    {ts us : List Token} (ha : Token.lex a source = .ok ts) (hb : Token.lex b source = .ok us) :
    ∃ sep, Token.Between ts us sep ∧ (∀ t ∈ us, t.loc.line ≠ 0) ∧
      Token.lex (a ++ "\n" ++ b) source =
        .ok (ts ++ (sep ++ us.map (Token.mapLoc (Location.below a)))) ∧
      ∀ folding, (folding = true → ∀ k, lib.Portable (Location.down k)) →
        ∀ ns ms s s' s₁ s₂, lib.compile folding a source s = (.ok ns, s₁) →
          lib.compile folding b source s' = (.ok ms, s₂) →
          (∀ t, lib.compile folding (a ++ "\n" ++ b) source t =
            (.ok (ns ++ ms.map (Node.mapLoc (Location.below a))), t)) ∧
          ∀ fuel w values u, evalAll (Node.eval lib fuel 0) ns w = (.ok values, u) →
            (execute lib fuel ns w).map (fun p => (p.1.failure?, p.2)) = some (none, u) ∧
            (execute lib fuel (ns ++ ms.map (Node.mapLoc (Location.below a))) w).map
                (fun p => (p.1.failure?, p.2)) =
              (execute lib fuel (ms.map (Node.mapLoc (Location.below a))) u).map
                (fun p => (p.1.failure?, p.2)) := by
  obtain ⟨sep, hsep, hlex⟩ := Token.exists_lex_append ha hb
  refine ⟨sep, hsep, Token.line_of_lex hb, hlex, ?_⟩
  intro folding hport ns ms s s' s₁ s₂ hns hms
  rw [compile_of_lex ha] at hns
  rw [compile_of_lex hb] at hms
  have hmoves : folding = true → lib.Portable id ∧ lib.Portable (Location.below a) :=
    fun h => ⟨Location.down_zero ▸ hport h 0, hport h _⟩
  refine ⟨fun t => ?_, fun fuel w values u hvalues => ⟨?_, ?_⟩⟩
  · rw [compile_of_lex hlex]
    exact compileTokens_between hmoves hsep hns hms t
  · obtain ⟨last, texts, hrun⟩ := executeFrom_append hvalues [] (.void .unknown) []
    rw [List.append_nil] at hrun
    rw [execute, hrun]
    rfl
  · obtain ⟨last, texts, hrun⟩ := executeFrom_append hvalues
      (ms.map (Node.mapLoc (Location.below a))) (.void .unknown) []
    rw [execute, hrun]
    exact executeFrom_failure? ..

lemma lex_hello : Token.lex "'hello'\n# greets" = .ok [⟨.quoted "hello", ⟨none, 1, 1⟩⟩] := by
  with_unfolding_all rfl

lemma lex_goodDay : Token.lex "'good' 'day'" =
    .ok [⟨.quoted "good", ⟨none, 1, 1⟩⟩, ⟨.quoted "day", ⟨none, 1, 8⟩⟩] := by
  with_unfolding_all rfl

lemma compile_hello (s : Store) : (builtin why).compile true "'hello'\n# greets" none s =
    (.ok [.literal (.string "hello" ⟨none, 1, 1⟩)], s) := by
  have hparse : ∀ sig, Node.parse sig [⟨.quoted "hello", ⟨none, 1, 1⟩⟩] =
      .ok [.literal (.string "hello" ⟨none, 1, 1⟩)] := by
    intro sig
    with_unfolding_all rfl
  rw [compile_of_lex lex_hello, compileTokens_true (hparse _)]
  rfl

lemma compile_goodDay (s : Store) : (builtin why).compile true "'good' 'day'" none s =
    (.ok [.literal (.string "good day" ⟨none, 1, 1⟩)], s) := by
  have hslot := Grammar.Slot.mk (m := 1) (by decide)
    (.cons (.mk (.atom (.quoted "good" ⟨none, 1, 1⟩)) .nil)
      (.cons (.mk (.atom (.quoted "day" ⟨none, 1, 8⟩)) .nil) .nil))
  have hchecked : Node.Checked (builtin why).signature (.call "sconcat"
      [.literal (.string "good" ⟨none, 1, 1⟩), .literal (.string "day" ⟨none, 1, 8⟩)]
      ⟨none, 1, 1⟩) := by
    refine .call (.inr ⟨.unbounded, by rw [signature, find?_sconcat]; rfl, rfl⟩) ?_
    simp only [List.forall_mem_cons]
    exact ⟨.literal _, .literal _, by simp⟩
  have hparse : Node.parse (builtin why).signature
      [⟨.quoted "good", ⟨none, 1, 1⟩⟩, ⟨.quoted "day", ⟨none, 1, 8⟩⟩] = .ok [.call "sconcat"
        [.literal (.string "good" ⟨none, 1, 1⟩), .literal (.string "day" ⟨none, 1, 8⟩)]
        ⟨none, 1, 1⟩] :=
    Grammar.parse_of_statement hslot hchecked
  rw [compile_of_lex lex_goodDay, compileTokens_true hparse]
  simp only [Node.foldAll, Node.fold, Node.foldCall, Node.foldable?, find?_sconcat]
  rfl

/-- A greeting, a comment in the next line, and below it two words that fold to one text. -/
theorem scripts_compose_greeting :
    Token.lex "'hello'\n# greets" = .ok [⟨.quoted "hello", ⟨none, 1, 1⟩⟩] ∧
    Token.lex "'good' 'day'" =
      .ok [⟨.quoted "good", ⟨none, 1, 1⟩⟩, ⟨.quoted "day", ⟨none, 1, 8⟩⟩] ∧
    (∀ k, builtin.Portable (Location.down k)) ∧
    (∀ s, builtin.compile true ("'hello'\n# greets" ++ "\n" ++ "'good' 'day'") none s =
      (.ok [.literal (.string "hello" ⟨none, 1, 1⟩), .literal (.string "good day" ⟨none, 3, 1⟩)],
        s)) ∧
    (execute builtin 1 [.literal (.string "hello" ⟨none, 1, 1⟩),
      .literal (.string "good day" ⟨none, 3, 1⟩)] {}).map (fun p => (p.1.failure?, p.2)) =
        some (none, {}) := by
  have hport : ∀ k, builtin.Portable (Location.down k) := fun k => portable_builtin _
  have hvalues : evalAll (Node.eval builtin 1 0) [.literal (.string "hello" ⟨none, 1, 1⟩)] {} =
      (.ok [.string "hello" ⟨none, 1, 1⟩], {}) := rfl
  obtain ⟨sep, -, -, -, h⟩ := scripts_compose builtin none lex_hello lex_goodDay
  obtain ⟨hboth, hrun⟩ :=
    h true (fun _ => hport) _ _ _ _ _ _ (compile_hello .empty) (compile_goodDay .empty)
  exact ⟨lex_hello, lex_goodDay, hport, hboth, (hrun 1 {} _ {} hvalues).2⟩

end Library

end CommandScript
