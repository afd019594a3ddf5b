import CommandScript.Proofs.Grammar

/-!
# Brackets, line breaks and the end of a script

The lexer keeps the brackets that are open, and so does the parser, by the readers that have not
ended yet. A closing bracket that does not match is passed over by the lexer and stops the parser.
Up to where the parser stops, both have the same brackets open. The tokens of a text therefore never
end, and never break off a line, inside a bracket that the parser is in.

## Main definitions

* `CommandScript.Token.Disciplined` — tokens after which no bracket is open, with line breaks
  outside of brackets only, and an opening parenthesis after each function name.
* `CommandScript.CompileError.CutOff` — the errors of a script that ends, or breaks off a line, too
  early.
* `CommandScript.Parser.Leaves` — how a reader may fail, and what it leaves otherwise.

## Main results

* `CommandScript.Token.disciplined_of_lex` — the tokens of a text are disciplined.
* `CommandScript.Parser.leaves_slot_indices` — on disciplined tokens, the parser fails at other
  places only, and leaves disciplined tokens.
* `CommandScript.Token.bracket_discipline` — the two together.
-/

namespace CommandScript

namespace Token

/-! ## Disciplined tokens -/

/-- The brackets that are open after some tokens. -/
def openAfter (opened : List Opener) (ts : List Token) : List Opener :=
  ts.foldl (fun o t => brackets t.kind t.loc o) opened

/-- Tokens inside some open brackets, after which none is open. Line breaks stand outside of all
brackets, and function names before an opening parenthesis. -/
def Disciplined (opened : List Opener) : List Token → Prop
  | [] => opened = []
  | t :: ts => (t.kind = .newline → opened = []) ∧
    (∀ name, t.kind = .functionName name → ∃ l us, ts = ⟨.openParen, l⟩ :: us) ∧
    Disciplined (brackets t.kind t.loc opened) ts

variable {opened : List Opener} {t : Token} {ts us vs : List Token}

/-- What is left of disciplined tokens is disciplined inside the brackets that are open there. -/
lemma Disciplined.of_append (h : Disciplined opened (us ++ vs)) :
    Disciplined (openAfter opened us) vs := by
  induction us generalizing opened with
  | nil => exact h
  | cons t us ih => exact ih h.2.2

/-- A line break opens and closes nothing. -/
lemma brackets_of_isNewline (h : t.kind.isNewline = true) :
    t.kind = .newline ∧ brackets t.kind t.loc opened = opened := by
  obtain ⟨kind, l⟩ := t
  cases kind <;> simp [Kind.isNewline] at h
  exact ⟨rfl, rfl⟩

/-! ## The tokens of a text -/

/-- A piece of a text and the rest: no token is a line break, and the name of a function stands
directly before an opening parenthesis. -/
structure Orderly (p : Piece × List Char) : Prop where
  ne_newline : p.1.kind ≠ .token .newline
  names_call : ∀ name, p.1.kind = .token (.functionName name) → ∃ rest, p.2 = '(' :: rest

namespace Orderly

variable {p q : Piece × List Char} {c : Char} {cs : List Char}

/-- A piece that is neither a line break nor the name of a function. -/
lemma of_ne (h : p.1.kind ≠ .token .newline)
    (h' : ∀ name, p.1.kind ≠ .token (.functionName name)) : Orderly p :=
  ⟨h, fun name hname => absurd hname (h' name)⟩

lemma ite {a : Prop} [Decidable a] (hp : Orderly p) (hq : Orderly q) :
    Orderly (if a then p else q) := by
  split
  · exact hp
  · exact hq

lemma single {kind : Kind} (h : kind ≠ .newline) (h' : ∀ name, kind ≠ .functionName name) :
    Orderly (Piece.single kind c cs) :=
  of_ne (by simpa [Piece.single] using h) fun name => by simpa [Piece.single] using h' name

lemma blockComment : Orderly (Piece.blockComment c cs) := by
  unfold Piece.blockComment
  split <;> exact of_ne (by simp) (by simp)

lemma quote : Orderly (Piece.quote c cs) := by
  unfold Piece.quote
  split <;> exact of_ne (by simp) (by simp)

/-- What a word spells is neither a line break nor the name of a function, which it is only directly
before an opening parenthesis. -/
lemma word : Orderly (Piece.word c cs) := by
  have hspells : ∀ ds, Piece.wordKind ds ≠ .newline ∧
      ∀ name, Piece.wordKind ds ≠ .functionName name := by
    intro ds
    unfold Piece.wordKind
    split <;> simp
  simp only [Piece.word]
  split
  · next hparen =>
    refine ⟨by simp, fun name _ => ?_⟩
    simp only [Bool.and_eq_true, beq_iff_eq, List.head?_eq_some_iff] at hparen
    exact hparen.2
  · exact of_ne (by simp [(hspells _).1]) fun name => by simp [(hspells _).2]

lemma first : Orderly (Piece.first c cs) :=
  .ite (.of_ne (by simp) (by simp)) <| .ite (.of_ne (by simp) (by simp)) <|
  .ite (.of_ne (by simp [Piece.lineComment]) (by simp [Piece.lineComment])) <|
  .ite .blockComment <| .ite .quote <|
  .ite (.single (by simp) (by simp)) <| .ite (.single (by simp) (by simp)) <|
  .ite (.single (by simp) (by simp)) <| .ite (.single (by simp) (by simp)) <|
  .ite (.single (by simp) (by simp)) <|
  .ite (.of_ne (by simp [Piece.named]) (by simp [Piece.named])) <|
  .ite (.of_ne (by simp [Piece.named]) (by simp [Piece.named])) <|
  .ite (.single (by simp) (by simp)) .word

end Orderly

/-- A token in front of what else was placed. -/
lemma map_cons_eq_ok {x : Except CompileError (List Token)} :
    x.map (t :: ·) = .ok ts ↔ ∃ us, x = .ok us ∧ ts = t :: us := by
  cases x with
  | error e => simp [Except.map]
  | ok us => simp [Except.map, eq_comm]

/-- An opening parenthesis is placed as such. -/
lemma place_openParen {loc : Location} {cs : List Char}
    (h : place loc opened (Piece.split ('(' :: cs)) = .ok ts) :
    ∃ l us, ts = ⟨.openParen, l⟩ :: us := by
  rw [Piece.split] at h
  obtain ⟨us, -, rfl⟩ := map_cons_eq_ok.1 h
  exact ⟨loc, us, rfl⟩

/-- The placed tokens of a text are disciplined.

**Proof sketch.** By the pieces of the text. The brackets that the lexer keeps are those that are
open after the tokens so far, and a text is placed only if in the end there is none. -/
lemma disciplined_of_place {loc : Location} {cs : List Char}
    (h : place loc opened (Piece.split cs) = .ok ts) : Disciplined opened ts := by
  fun_induction Piece.split cs generalizing loc opened ts with
  | case1 =>
    cases opened with
    | nil =>
      cases h
      exact rfl
    | cons o outer => cases h
  | case2 c cs ih =>
    have horderly : Orderly (Piece.first c cs) := .first
    rw [place] at h
    cases hkind : (Piece.first c cs).1.kind with
    | lineBreak =>
      simp only [hkind] at h
      split at h
      · next hempty =>
        obtain ⟨us, hus, rfl⟩ := map_cons_eq_ok.1 h
        exact ⟨fun _ => List.isEmpty_iff.1 hempty, by simp, ih hus⟩
      · exact ih h
    | blank | comment =>
      simp only [hkind] at h
      exact ih h
    | token kind =>
      simp only [hkind] at h
      obtain ⟨us, hus, rfl⟩ := map_cons_eq_ok.1 h
      refine ⟨fun hnl => absurd (hnl ▸ hkind) horderly.ne_newline, fun name hname => ?_, ih hus⟩
      obtain ⟨rest, hrest⟩ := horderly.names_call name (hname ▸ hkind)
      rw [hrest] at hus
      exact place_openParen hus
    | openQuote | openComment => simp [hkind] at h

/-! ## Without line breaks that separate nothing -/

/-- What is left of disciplined tokens without some line breaks is disciplined. -/
lemma Disciplined.tidyFrom (atStart : Bool) (h : Disciplined opened ts) :
    Disciplined opened (tidyFrom atStart ts) := by
  induction ts generalizing opened atStart with
  | nil => exact h
  | cons t ts ih =>
    obtain ⟨hnl, hname, hrest⟩ := h
    rw [Token.tidyFrom]
    split
    · next ht =>
      have ⟨hkind, hsame⟩ : t.kind = .newline ∧ brackets t.kind t.loc opened = opened :=
        brackets_of_isNewline ht
      rw [hsame] at hrest
      split
      · exact ih true hrest
      · exact ⟨hnl, fun name hk => absurd (hkind.symm.trans hk) (by simp),
          hsame.symm ▸ ih true hrest⟩
    · refine ⟨hnl, fun name hk => ?_, ih false hrest⟩
      obtain ⟨l, us, rfl⟩ := hname name hk
      exact ⟨l, Token.tidyFrom false us, by simp [Token.tidyFrom, Kind.isNewline]⟩

/-- The tokens of a text are those of its pieces, tidied. -/
lemma exists_place_of_lex {text : String} {source : Option String}
    (h : lex text source = .ok ts) :
    ∃ us, place (.start source) [] (Piece.split text.toList) = .ok us ∧ ts = tidy us := by
  unfold lex at h
  cases hplace : place (.start source) [] (Piece.split text.toList) with
  | error e =>
    rw [hplace] at h
    cases h
  | ok us =>
    rw [hplace] at h
    cases h
    exact ⟨us, rfl, rfl⟩

/-- The tokens of a text are disciplined. -/
lemma disciplined_of_lex {text : String} {source : Option String}
    (h : lex text source = .ok ts) : Disciplined [] ts := by
  obtain ⟨us, hplace, rfl⟩ := exists_place_of_lex h
  exact (disciplined_of_place hplace).tidyFrom true

/-- After some line breaks were dropped something is left, unless there were line breaks only. -/
lemma tidyFrom_ne_nil {atStart : Bool} (h : ¬ ts.all (·.kind.isNewline) = true) :
    tidyFrom atStart ts ≠ [] := by
  induction ts generalizing atStart with
  | nil => simp at h
  | cons t ts ih =>
    rw [tidyFrom]
    split
    · next ht =>
      have hrest : ¬ ts.all (·.kind.isNewline) = true := by simpa [ht] using h
      split
      · exact ih hrest
      · simp
    · simp

/-- A line break at the start is dropped. -/
lemma tidyFrom_true_ne (l : Location) (us : List Token) :
    tidyFrom true ts ≠ ⟨.newline, l⟩ :: us := by
  induction ts with
  | nil => simp [tidyFrom]
  | cons t ts ih =>
    rw [tidyFrom]
    split
    · simpa using ih
    · next ht =>
      rintro ⟨⟩
      exact ht rfl

/-- A line break that is left stands between two tokens, of which the second is no line break. -/
lemma tidyFrom_newline {atStart : Bool} {l : Location}
    (h : tidyFrom atStart ts = us ++ ⟨.newline, l⟩ :: vs) :
    (atStart = true → us ≠ []) ∧ vs ≠ [] ∧ ∀ l' ws, vs ≠ ⟨.newline, l'⟩ :: ws := by
  induction ts generalizing atStart us with
  | nil => simp [tidyFrom] at h
  | cons t ts ih =>
    rw [tidyFrom] at h
    split at h
    · split at h
      · obtain ⟨hus, hvs⟩ := ih h
        exact ⟨fun _ => hus rfl, hvs⟩
      · next hdrop =>
        rw [Bool.or_eq_true, not_or] at hdrop
        cases us with
        | nil =>
          obtain ⟨rfl, rfl⟩ := List.cons.inj h
          exact ⟨fun hstart => absurd hstart hdrop.1, tidyFrom_ne_nil hdrop.2,
            tidyFrom_true_ne⟩
        | cons u us =>
          obtain ⟨rfl, hrest⟩ := List.cons.inj h
          exact ⟨fun _ => List.cons_ne_nil _ _, (ih hrest).2⟩
    · next ht =>
      cases us with
      | nil =>
        obtain ⟨rfl, -⟩ := List.cons.inj h
        exact absurd rfl ht
      | cons u us =>
        obtain ⟨rfl, hrest⟩ := List.cons.inj h
        exact ⟨fun _ => List.cons_ne_nil _ _, (ih hrest).2⟩

end Token

/-! ## What the parser leaves -/

/-- The script ends, or breaks off a line, too early. -/
def CompileError.CutOff : CompileError → Prop
  | .unexpectedEnd _ | .unexpected .newline _ => True
  | _ => False

namespace Parser

open Token (Disciplined)

variable {α β : Type} {p q : List Token → Prop} {R S : List Token → Prop}

/-- A reader is not cut off, and the tokens that it leaves have the property `R`. -/
def Leaves (R : List Token → Prop) : Except CompileError (α × { r // p r }) → Prop
  | .error e => ¬ e.CutOff
  | .ok (_, r) => R r.1

/-- One reader goes on where another one has ended. -/
lemma Leaves.bind {x : Except CompileError (α × { r // p r })}
    {f : α × { r // p r } → Except CompileError (β × { r // q r })} (hx : Leaves R x)
    (hf : ∀ a r (h : p r), R r → Leaves S (f (a, ⟨r, h⟩))) : Leaves S (x >>= f) := by
  cases x with
  | error e => exact hx
  | ok ar => exact hf ar.1 ar.2.1 ar.2.2 hx

/-- A reader goes on after a check. -/
lemma Leaves.check {x : Except CompileError α} {f : α → Except CompileError (β × { r // q r })}
    (hx : ∀ e, x = .error e → ¬ e.CutOff) (hf : ∀ a, Leaves S (f a)) : Leaves S (x >>= f) := by
  cases x with
  | error e => exact hx e rfl
  | ok a => exact hf a

/-- A call that may not be written is not cut off. -/
lemma not_cutOff_checkedCall {sig : Signature} {name : String} {args : List Node} {l : Location}
    {e : CompileError} (h : Node.checkedCall sig name args l = .error e) : ¬ e.CutOff := by
  unfold Node.checkedCall at h
  split at h
  · cases h
  · split at h
    · cases h
      exact id
    · split at h
      · cases h
      · cases h
        exact id

/-- The token at which a reader stops belongs to the innermost open bracket. -/
inductive StopsIn : (stop : Token.Kind → Bool) → List Opener → Prop where
  | statement : StopsIn Token.Kind.isNewline []
  | argument (l : Location) (outer : List Opener) :
    StopsIn Token.Kind.endsArgument (⟨'(', l⟩ :: outer)
  | index (l : Location) (outer : List Opener) :
    StopsIn Token.Kind.endsIndex (⟨'[', l⟩ :: outer)

variable {sig : Signature} {stop : Token.Kind → Bool} {opened : List Opener} {t : Token}
  {ts : List Token}

/-- Where a reader does not stop there is no line break. -/
lemma StopsIn.ne_newline (h : StopsIn stop opened) (hts : Disciplined opened (t :: ts))
    (ht : stop t.kind = false) : t.kind ≠ .newline := by
  intro hnl
  have hopened := hts.1 hnl
  cases h with
  | statement =>
    rw [hnl] at ht
    cases ht
  | argument => cases hopened
  | index => cases hopened

/-- Arguments are not cut off inside their parenthesis, if each of them is not. -/
lemma leaves_arguments {reader : Parser Node} {l : Location}
    (hreader : ∀ {ts}, Disciplined (⟨'(', l⟩ :: opened) ts →
      Leaves (fun r => Disciplined (⟨'(', l⟩ :: opened) r ∧
        Grammar.Ends Token.Kind.endsArgument r) (reader ts))
    (name : String) (hts : Disciplined (⟨'(', l⟩ :: opened) ts) :
    Leaves (Disciplined opened) (arguments name reader ts) := by
  obtain ⟨k, hk⟩ : ∃ k, ts.length = k := ⟨_, rfl⟩
  induction k using Nat.strongRecOn generalizing ts with
  | _ k ih =>
    subst hk
    rw [arguments]
    refine (hreader hts).bind fun a r hr hend => ?_
    obtain ⟨hleft, hends⟩ := hend
    -- the argument ends at a comma or at the closing parenthesis, for the parenthesis is open
    rcases r with _ | ⟨⟨kind, l'⟩, us⟩
    · cases hleft
    · have hstop := hends _ _ rfl
      cases kind <;> cases hstop
      · exact hleft.2.2
      · have hshort : us.length < ts.length := Nat.lt_of_succ_lt hr
        exact (ih _ hshort hleft.2.2 rfl).bind fun as r' hr' hleft' => hleft'

/-- A primary is not cut off at a token that is no line break, if its arguments are not. -/
lemma leaves_primary {reader : Parser Node}
    (hreader : ∀ {l ts}, Disciplined (⟨'(', l⟩ :: opened) ts →
      Leaves (fun r => Disciplined (⟨'(', l⟩ :: opened) r ∧
        Grammar.Ends Token.Kind.endsArgument r) (reader ts))
    (hts : Disciplined opened (t :: ts)) (ht : t.kind ≠ .newline) :
    Leaves (Disciplined opened) (Node.primary sig reader (t :: ts)) := by
  obtain ⟨kind, l⟩ := t
  obtain ⟨-, hname, hrest⟩ := hts
  cases kind with
  | functionName name =>
    obtain ⟨l', us, rfl⟩ := hname name rfl
    have hus : Disciplined (⟨'(', l'⟩ :: opened) us := hrest.2.2
    have hargs := leaves_arguments hreader name hus
    have hcall : ∀ {args : List Node} {e : CompileError},
        Node.checkedCall sig name args l = .error e → ¬ e.CutOff := not_cutOff_checkedCall
    rcases us with _ | ⟨⟨kind, l''⟩, vs⟩
    · cases hus
    · cases kind
      case closeParen => exact Leaves.check (fun e => hcall) fun node => hus.2.2
      all_goals
        exact hargs.bind fun args r hr hleft => Leaves.check (fun e => hcall) fun node => hleft
  | newline => exact absurd rfl ht
  | word | quoted | int | double | boolean | null | ivar | var => exact hrest
  | openParen | closeParen | openBracket | closeBracket | comma | stray => exact id

/-- Expressions side by side are not cut off, if each of them is not. -/
lemma leaves_many {reader : Parser Node} (hstop : StopsIn stop opened)
    (hreader : ∀ {t ts}, Disciplined opened (t :: ts) → t.kind ≠ .newline →
      Leaves (Disciplined opened) (reader (t :: ts)))
    (hts : Disciplined opened ts) :
    Leaves (fun r => Disciplined opened r ∧ Grammar.Ends stop r) (many stop reader ts) := by
  obtain ⟨k, hk⟩ : ∃ k, ts.length = k := ⟨_, rfl⟩
  induction k using Nat.strongRecOn generalizing ts with
  | _ k ih =>
    subst hk
    cases ts with
    | nil =>
      rw [many]
      exact ⟨hts, fun t us h => by cases h⟩
    | cons t ts =>
      rw [many]
      split
      · next ht =>
        refine ⟨hts, ?_⟩
        rintro t' us ⟨⟩
        exact ht
      · next ht =>
        have hnl := hstop.ne_newline hts (by simpa using ht)
        refine (hreader hts hnl).bind fun a r hr hleft => ?_
        exact (ih _ hr hleft rfl).bind fun as r' hr' hleft' => hleft'

/-- Outside of all brackets, a reader is at a token where it does not stop. -/
def CanStart (stop : Token.Kind → Bool) (opened : List Opener) (ts : List Token) : Prop :=
  opened = [] → ∃ t us, ts = t :: us ∧ stop t.kind = false

/-- Expressions side by side, of which there is one at least, are not cut off, if each of them is
not. -/
lemma leaves_juxtaposed {reader : Parser Node} (hstop : StopsIn stop opened)
    (hreader : ∀ {t ts}, Disciplined opened (t :: ts) → t.kind ≠ .newline →
      Leaves (Disciplined opened) (reader (t :: ts)))
    (hstart : CanStart stop opened ts) (hts : Disciplined opened ts) :
    Leaves (fun r => Disciplined opened r ∧ Grammar.Ends stop r)
      (Node.juxtaposed sig stop reader ts) := by
  cases ts with
  | nil =>
    obtain ⟨t, us, heq, -⟩ := hstart hts
    cases heq
  | cons t ts =>
    rw [Node.juxtaposed]
    split
    · next ht =>
      cases hstop with
      | statement =>
        obtain ⟨_, _, ⟨⟩, ht'⟩ := hstart rfl
        rw [ht'] at ht
        cases ht
      | argument | index =>
        obtain ⟨kind, l⟩ := t
        cases kind <;> cases ht <;> exact id
    · next ht =>
      have hnl := hstop.ne_newline hts (by simpa using ht)
      refine (hreader hts hnl).bind fun first r hr hleft => ?_
      refine (leaves_many hstop hreader hleft).bind fun others r' hr' hleft' => ?_
      refine Leaves.check (fun e he => ?_) fun node => hleft'
      cases others with
      | nil => cases he
      | cons n ns => exact not_cutOff_checkedCall he

/-- On disciplined tokens, slots and indices are not cut off, and what they leave is disciplined.

**Proof sketch.** By induction on the levels of nesting left, as the parser does it. An opening
bracket opens one for the reader of what follows; this stops at a token that belongs to the bracket,
and when it is closed, the brackets from before are open. -/
lemma leaves_slot_indices (room : Nat) :
    (∀ {stop opened ts}, StopsIn stop opened → CanStart stop opened ts → Disciplined opened ts →
      Leaves (fun r => Disciplined opened r ∧ Grammar.Ends stop r)
        (Node.slot sig room stop ts)) ∧
    ∀ {opened node ts}, Disciplined opened ts →
      Leaves (Disciplined opened) (Node.indices sig room node ts) := by
  induction room with
  | zero =>
    refine ⟨fun _ _ _ => ?_, fun {opened node ts} hts => ?_⟩
    · rw [Node.slot]
      exact id
    · rcases ts with _ | ⟨⟨kind, l⟩, us⟩
      · exact hts
      · cases kind
        case openBracket => exact id
        all_goals exact hts
  | succ room ih =>
    obtain ⟨ihslot, ihindices⟩ := ih
    refine ⟨fun {stop opened ts} hstop hstart hts => ?_, fun {opened node ts} hts => ?_⟩
    · rw [Node.slot]
      refine leaves_juxtaposed hstop (fun {t ts} hts ht => ?_) hstart hts
      refine (leaves_primary (fun hts => ihslot (.argument ..) (fun h => by cases h) hts) hts
        ht).bind fun node r hr hleft => ?_
      exact (ihindices hleft).bind fun node' r' hr' hleft' => hleft'
    · rcases ts with _ | ⟨⟨kind, l⟩, us⟩
      · exact hts
      · cases kind
        case openBracket =>
          rw [Node.indices]
          have hus : Disciplined (⟨'[', l⟩ :: opened) us := hts.2.2
          refine (ihslot (.index l opened) (fun h => by cases h) hus).bind
            fun index r hr hend => ?_
          obtain ⟨hleft, hends⟩ := hend
          rcases r with _ | ⟨⟨kind, l'⟩, vs⟩
          · cases hleft
          · have hclose := hends _ _ rfl
            cases kind <;> cases hclose
            refine Leaves.check (fun e => not_cutOff_checkedCall) fun node' => ?_
            exact (ihindices hleft.2.2).bind fun node'' r' hr' hleft' => hleft'
        all_goals exact hts

/-- A script of disciplined tokens is not cut off. -/
lemma not_cutOff_parse (hts : Disciplined [] ts) {e : CompileError}
    (h : Node.parse sig ts = .error e) : ¬ e.CutOff := by
  induction hlen : ts.length using Nat.strongRecOn generalizing ts with
  | _ k ih =>
    subst hlen
    cases ts with
    | nil =>
      rw [Node.parse, Node.statements] at h
      cases h
    | cons t ts =>
      cases ht : t.kind.isNewline with
      | true =>
        rw [Node.parse_newline ht] at h
        have hrest := hts.2.2
        rw [(Token.brackets_of_isNewline ht).2] at hrest
        exact ih _ (Nat.lt_succ_self _) hrest h rfl
      | false =>
        have hslot : Leaves (fun r => Disciplined [] r ∧ Grammar.Ends Token.Kind.isNewline r)
            (Node.slot sig maxNesting Token.Kind.isNewline (t :: ts)) :=
          (leaves_slot_indices maxNesting).1 .statement (fun _ => ⟨t, ts, rfl, ht⟩) hts
        unfold Node.parse at h ih
        rw [Node.statements, if_neg (by simp [ht])] at h
        cases hs : Node.slot sig maxNesting Token.Kind.isNewline (t :: ts) with
        | error e' =>
          rw [hs] at h hslot
          cases h
          exact hslot
        | ok nr =>
          obtain ⟨n, r, hr⟩ := nr
          rw [hs] at h hslot
          refine ih _ hr hslot.1 ?_ rfl
          cases hrest : Node.statements (Node.slot sig maxNesting Token.Kind.isNewline) r with
          | error e' =>
            simp only [bind, Except.bind, hrest] at h
            exact h
          | ok ns =>
            simp only [bind, Except.bind, hrest] at h
            cases h

end Parser

namespace Token

variable {text : String} {source : Option String} {l : Location}

/-- Between the tokens of a text, a line break follows a token that is none. -/
lemma exists_before_newline (h : lex text source = .ok (us ++ ⟨.newline, l⟩ :: vs)) :
    ∃ u us', us = us' ++ [u] ∧ u.kind ≠ .newline := by
  obtain ⟨ps, -, hps⟩ := exists_place_of_lex h
  obtain ⟨hus, -, -⟩ := tidyFrom_newline hps.symm
  rcases List.eq_nil_or_concat us with rfl | ⟨us', ⟨kind, l'⟩, rfl⟩
  · exact absurd rfl (hus rfl)
  · refine ⟨⟨kind, l'⟩, us', List.concat_eq_append, fun hkind => ?_⟩
    -- a line break before this one would be followed by a line break
    obtain rfl : kind = .newline := hkind
    rw [List.concat_eq_append, List.append_assoc] at hps
    exact (tidyFrom_newline hps.symm).2.2 l vs rfl

/-- Between the tokens of a text, a line break is followed by a token that is none. -/
lemma exists_after_newline (h : lex text source = .ok (us ++ ⟨.newline, l⟩ :: vs)) :
    ∃ v vs', vs = v :: vs' ∧ v.kind ≠ .newline := by
  obtain ⟨ps, -, hps⟩ := exists_place_of_lex h
  obtain ⟨-, hvs, hnext⟩ := tidyFrom_newline hps.symm
  rcases vs with _ | ⟨⟨kind, l'⟩, vs'⟩
  · exact absurd rfl hvs
  · refine ⟨⟨kind, l'⟩, vs', rfl, fun hkind => ?_⟩
    obtain rfl : kind = .newline := hkind
    exact hnext l' vs' rfl

/-- The tokens of a text have their brackets in order, and so the parser never comes to the end of
them, or to a line break, where it expects something else. Each function name stands directly before
an opening parenthesis. Each line break stands between two tokens that are no line breaks, where no
bracket is open. Whatever the functions are, the parser fails neither because the tokens end nor at
a line break. -/
theorem bracket_discipline (h : lex text source = .ok ts) :
    (∀ us name l vs, ts = us ++ ⟨.functionName name, l⟩ :: vs →
      ∃ l' ws, vs = ⟨.openParen, l'⟩ :: ws) ∧
    (∀ us l vs, ts = us ++ ⟨.newline, l⟩ :: vs →
      (∃ u us', us = us' ++ [u] ∧ u.kind ≠ .newline) ∧
      (∃ v vs', vs = v :: vs' ∧ v.kind ≠ .newline) ∧ openAfter [] us = []) ∧
    ∀ sig e, Node.parse sig ts = .error e →
      (∀ expected, e ≠ .unexpectedEnd expected) ∧ ∀ l, e ≠ .unexpected .newline l := by
  have hdis := disciplined_of_lex h
  refine ⟨?_, ?_, fun sig e he => ?_⟩
  · rintro us name l vs rfl
    exact hdis.of_append.2.1 name rfl
  · rintro us l vs rfl
    exact ⟨exists_before_newline h, exists_after_newline h, hdis.of_append.1 rfl⟩
  · have hcut := Parser.not_cutOff_parse hdis he
    exact ⟨fun expected heq => hcut (heq ▸ trivial), fun l heq => hcut (heq ▸ trivial)⟩

/-- Two statements with a bracket in each that closes nothing, and line breaks inside of brackets
and around. -/
def mismatched : List Token :=
  [⟨.functionName "_p", ⟨none, 2, 1⟩⟩, ⟨.openParen, ⟨none, 2, 3⟩⟩, ⟨.int 1, ⟨none, 2, 4⟩⟩,
    ⟨.closeBracket, ⟨none, 2, 5⟩⟩, ⟨.closeParen, ⟨none, 3, 1⟩⟩, ⟨.newline, ⟨none, 3, 2⟩⟩,
    ⟨.ivar "a", ⟨none, 5, 1⟩⟩, ⟨.openBracket, ⟨none, 5, 3⟩⟩, ⟨.closeParen, ⟨none, 5, 4⟩⟩,
    ⟨.closeBracket, ⟨none, 5, 5⟩⟩]

/-- The line break between the two statements stands outside of brackets, and the parser fails at
the first bracket that closes nothing. -/
theorem bracket_discipline_mismatched :
    lex "\n_p(1]\n)\n\n@a[)]\n" none = .ok mismatched ∧
    openAfter [] (mismatched.take 5) = [] ∧
    ∀ sig, ∃ e, Node.parse sig mismatched = .error e ∧
      (∀ expected, e ≠ .unexpectedEnd expected) ∧ ∀ l, e ≠ .unexpected .newline l := by
  have hlex : lex "\n_p(1]\n)\n\n@a[)]\n" none = .ok mismatched := by with_unfolding_all rfl
  obtain ⟨-, hlines, hparse⟩ := bracket_discipline hlex
  refine ⟨hlex, (hlines _ _ _ rfl).2.2, fun sig => ?_⟩
  have hfail : Node.parse sig mismatched = .error (.unexpected .closeBracket ⟨none, 2, 5⟩) := by
    with_unfolding_all rfl
  exact ⟨_, hfail, hparse sig _ hfail⟩

end Token

end CommandScript
