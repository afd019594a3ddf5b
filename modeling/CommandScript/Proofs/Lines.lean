import CommandScript.Proofs.Brackets
import Mathlib.Tactic.Set

/-!
# Two texts with a line break between them

A line break ends every piece of a text but a quote or a block comment that is not closed yet. Where
two texts can be taken apart into tokens, so can the two with a line break between them: the tokens
of the first come first, those of the second follow, further down, and a line break stands between
them if there is something on either side.

## Main definitions

* `CommandScript.Location.down`, `CommandScript.Location.below` — a place some lines further down,
  and one in a text that is put below another.
* `CommandScript.Token.mapLoc` — a token at another place.
* `CommandScript.Token.Between` — what stands between the tokens of two texts.

## Main results

* `CommandScript.Piece.split_append` — the pieces of two texts with a line break between them.
* `CommandScript.Token.place_append`, `CommandScript.Token.place_down` — pieces placed one after
  another, and pieces placed further down.
* `CommandScript.Token.exists_lex_append` — the tokens of two texts with a line break between them.
-/

namespace CommandScript

/-! ## Places further down -/

namespace Location

/-- The place `k` lines further down; a place that is not known stays so. -/
def down (k : Nat) (l : Location) : Location :=
  if l.line = 0 then l else { l with line := l.line + k }

lemma down_zero : down 0 = id := by
  funext l
  unfold down
  split <;> rfl

/-- A place in a text that is put below another, with a line break between them. -/
def below (text : String) : Location → Location := down (text.toList.count '\n' + 1)

lemma line_next_ne_zero {l : Location} (h : l.line ≠ 0) (c : Char) : (l.next c).line ≠ 0 := by
  unfold next
  split
  · simp
  · exact h

/-- A character is as wide further down. -/
lemma down_next (k : Nat) {l : Location} (h : l.line ≠ 0) (c : Char) :
    (l.next c).down k = (l.down k).next c := by
  have hnext := line_next_ne_zero h c
  simp only [down, h, hnext, if_false]
  unfold next
  split
  · simp only [mk.injEq, true_and, and_true]
    omega
  · rfl

lemma line_advance_ne_zero {l : Location} (h : l.line ≠ 0) (cs : List Char) :
    (l.advance cs).line ≠ 0 := by
  induction cs generalizing l with
  | nil => exact h
  | cons c cs ih => exact ih (line_next_ne_zero h c)

lemma down_advance (k : Nat) {l : Location} (h : l.line ≠ 0) (cs : List Char) :
    (l.advance cs).down k = (l.down k).advance cs := by
  induction cs generalizing l with
  | nil => rfl
  | cons c cs ih => rw [advance_cons, ih (line_next_ne_zero h c), down_next k h, advance_cons]

/-- The line after some characters is as many lines further down as there are line breaks. -/
lemma advance_line (l : Location) (cs : List Char) :
    (l.advance cs).source = l.source ∧ (l.advance cs).line = l.line + cs.count '\n' := by
  induction cs generalizing l with
  | nil => exact ⟨rfl, rfl⟩
  | cons c cs ih =>
    obtain ⟨hsource, hline⟩ := ih (l.next c)
    rw [advance_cons, hsource, hline, List.count_cons]
    by_cases hc : c = '\n'
    · simp only [next, hc, if_true, beq_self_eq_true, true_and]
      omega
    · simp only [next, hc, if_false, beq_iff_eq, Nat.add_zero, and_self]

/-- The line below a text starts as the text does, further down. -/
lemma start_down (source : Option String) (cs : List Char) :
    ((start source).advance cs).next '\n' = (start source).down (cs.count '\n' + 1) := by
  obtain ⟨hsource, hline⟩ := (start source).advance_line cs
  rw [next, if_pos rfl, hsource, hline]
  simp [down, start]
  omega

end Location

/-! ## Pieces up to a line break -/

namespace Escape

/-- A closed quote is closed whatever follows it. -/
lemma body?_append_right {q : Char} {cs body rest : List Char} (h : body? q cs = some (body, rest))
    (ds : List Char) : body? q (cs ++ ds) = some (body, rest ++ ds) := by
  fun_induction body? q cs generalizing body with
  | case1 => cases h
  | case2 e cs ih =>
    obtain ⟨p, hp, he⟩ := Option.map_eq_some_iff.1 h
    obtain ⟨rfl, rfl⟩ := Prod.mk.injEq .. ▸ he
    rw [List.cons_append, List.cons_append, body?, ih hp, Option.map_some]
  | case3 => cases h
  | case4 cs _ hq =>
    simp only [Option.some.injEq, Prod.mk.injEq] at h
    obtain ⟨rfl, rfl⟩ := h
    rw [List.cons_append, body?, if_neg hq, if_pos rfl]
    exact fun e _ h _ => hq h
  | case5 c cs _ hc hq ih =>
    obtain ⟨p, hp, he⟩ := Option.map_eq_some_iff.1 h
    obtain ⟨rfl, rfl⟩ := Prod.mk.injEq .. ▸ he
    rw [List.cons_append, body?, if_neg hc, if_neg hq, ih hp, Option.map_some]
    exact fun e _ h _ => hc h

end Escape

namespace Piece

/-- A quote or a block comment that is never closed. -/
def Kind.isOpen : Kind → Bool
  | .openQuote | .openComment => true
  | _ => false

/-- The second piece and rest are what the first become if a line break and the characters `ds`
follow: the same piece, unless it is not closed, and a longer rest. -/
def Extends (ds : List Char) (p q : Piece × List Char) : Prop :=
  p.1.kind.isOpen = false → q = (p.1, p.2 ++ '\n' :: ds)

variable {ds : List Char}

lemma Extends.ite {a b : Prop} [Decidable a] [Decidable b] {p p' q q' : Piece × List Char}
    (hab : a ↔ b) (hp : Extends ds p q) (hp' : Extends ds p' q') :
    Extends ds (if a then p else p') (if b then q else q') := by
  by_cases ha : a
  · rw [if_pos ha, if_pos (hab.1 ha)]
    exact hp
  · rw [if_neg ha, if_neg (mt hab.2 ha)]
    exact hp'

/-- A run of characters that holds no line break ends where the line does. -/
lemma span_break {f : Char → Bool} (hf : f '\n' = false) (cs ds : List Char) :
    (cs ++ '\n' :: ds).takeWhile f = cs.takeWhile f ∧
      (cs ++ '\n' :: ds).dropWhile f = cs.dropWhile f ++ '\n' :: ds := by
  induction cs with
  | nil => simp [hf]
  | cons c cs ih => by_cases hc : f c <;> simp [hc, ih]

/-- A closed block comment is closed whatever follows it. -/
lemma commentBody?_append_right {cs body rest : List Char}
    (h : commentBody? cs = some (body, rest)) (ds : List Char) :
    commentBody? (cs ++ ds) = some (body, rest ++ ds) := by
  fun_induction commentBody? cs generalizing body with
  | case1 => cases h
  | case2 cs =>
    simp only [Option.some.injEq, Prod.mk.injEq] at h
    obtain ⟨rfl, rfl⟩ := h
    rfl
  | case3 c cs hc ih =>
    obtain ⟨p, hp, he⟩ := Option.map_eq_some_iff.1 h
    obtain ⟨rfl, rfl⟩ := Prod.mk.injEq .. ▸ he
    have hcs : cs ≠ [] := by
      rintro rfl
      cases hp
    rw [List.cons_append, commentBody?, ih hp, Option.map_some]
    intro rest' hstar hslash
    obtain ⟨d, cs, rfl⟩ := List.exists_cons_of_ne_nil hcs
    obtain ⟨rfl, -⟩ := List.cons.inj hslash
    exact hc cs hstar rfl

lemma single_extends (kind : Token.Kind) (c : Char) (cs : List Char) :
    Extends ds (single kind c cs) (single kind c (cs ++ '\n' :: ds)) := fun _ => rfl

lemma named_extends (kind : String → Token.Kind) (c : Char) (cs : List Char) :
    Extends ds (named kind c cs) (named kind c (cs ++ '\n' :: ds)) := by
  intro _
  obtain ⟨htake, hdrop⟩ := span_break (f := isNameChar) rfl cs ds
  simp only [named, htake, hdrop]

lemma lineComment_extends (c : Char) (cs : List Char) :
    Extends ds (lineComment c cs) (lineComment c (cs ++ '\n' :: ds)) := by
  intro _
  obtain ⟨htake, hdrop⟩ := span_break (f := (· ≠ '\n')) rfl cs ds
  simp only [lineComment, htake, hdrop]

lemma blockComment_extends (c : Char) (cs : List Char) :
    Extends ds (blockComment c cs) (blockComment c (cs ++ '\n' :: ds)) := by
  intro hclosed
  cases hbody : commentBody? cs.tail with
  | none => simp [blockComment, hbody, Kind.isOpen] at hclosed
  | some p =>
    have hcs : cs ≠ [] := by
      rintro rfl
      cases hbody
    obtain ⟨d, cs, rfl⟩ := List.exists_cons_of_ne_nil hcs
    have hlonger := commentBody?_append_right hbody ('\n' :: ds)
    simp only [List.tail_cons] at hbody hlonger
    simp only [blockComment, List.cons_append, List.tail_cons, hbody, hlonger, List.take_succ_cons,
      List.take_zero]

lemma quote_extends (c : Char) (cs : List Char) :
    Extends ds (quote c cs) (quote c (cs ++ '\n' :: ds)) := by
  intro hclosed
  cases hbody : Escape.body? c cs with
  | none => simp [quote, hbody, Kind.isOpen] at hclosed
  | some p => simp only [quote, hbody, Escape.body?_append_right hbody ('\n' :: ds)]

lemma word_extends (c : Char) (cs : List Char) :
    Extends ds (word c cs) (word c (cs ++ '\n' :: ds)) := by
  intro _
  obtain ⟨htake, hdrop⟩ := span_break (f := (!endsWord ·)) rfl cs ds
  have hparen : ((cs.dropWhile (!endsWord ·) ++ '\n' :: ds).head? == some '(') =
      ((cs.dropWhile (!endsWord ·)).head? == some '(') := by
    cases cs.dropWhile (!endsWord ·) <;> rfl
  simp only [word, htake, hdrop, hparen]

/-- A line break ends the first piece, unless it is a quote or a comment that is not closed. -/
lemma first_extends (c : Char) (cs : List Char) :
    Extends ds (first c cs) (first c (cs ++ '\n' :: ds)) := by
  have hslash : (c = '/' ∧ cs.head? = some '*') ↔
      (c = '/' ∧ (cs ++ '\n' :: ds).head? = some '*') := by
    cases cs with
    | nil => simp
    | cons d cs => rfl
  have hname : startsName (cs ++ '\n' :: ds) = startsName cs := by cases cs <;> rfl
  have hmark : ∀ m : Char, (c = m ∧ startsName cs) ↔
      (c = m ∧ startsName (cs ++ '\n' :: ds)) := fun m => by rw [hname]
  exact .ite .rfl (fun _ => rfl) <| .ite .rfl (fun _ => rfl) <|
    .ite .rfl (lineComment_extends c cs) <| .ite hslash (blockComment_extends c cs) <|
    .ite .rfl (quote_extends c cs) <|
    .ite .rfl (single_extends _ c cs) <| .ite .rfl (single_extends _ c cs) <|
    .ite .rfl (single_extends _ c cs) <| .ite .rfl (single_extends _ c cs) <|
    .ite .rfl (single_extends _ c cs) <|
    .ite (hmark '@') (named_extends _ c cs) <| .ite (hmark '$') (named_extends _ c cs) <|
    .ite .rfl (single_extends _ c cs) (word_extends c cs)

/-- Two texts with a line break between them have the pieces of the first, the line break and the
pieces of the second, if the first leaves no quote and no comment open. -/
lemma split_append {cs : List Char} (h : ∀ p ∈ split cs, p.kind.isOpen = false) (ds : List Char) :
    split (cs ++ '\n' :: ds) = split cs ++ ⟨.lineBreak, ['\n']⟩ :: split ds := by
  fun_induction split cs with
  | case1 => rw [List.nil_append, split]; rfl
  | case2 c cs ih =>
    rw [List.forall_mem_cons] at h
    rw [List.cons_append, split, first_extends c cs h.1, ih h.2, List.cons_append]

/-- The tokens that a piece at a place inside some open brackets leaves. -/
def tokens (loc : Location) (opened : List Opener) (p : Piece) : List Token :=
  match p.kind with
  | .token kind => [⟨kind, loc⟩]
  | .lineBreak => if opened.isEmpty then [⟨.newline, loc⟩] else []
  | _ => []

/-- The brackets that are open after a piece at a place inside some open brackets. -/
def opens (loc : Location) (opened : List Opener) (p : Piece) : List Opener :=
  match p.kind with
  | .token kind => Token.brackets kind loc opened
  | _ => opened

end Piece

/-! ## Tokens one after another -/

namespace Token

/-- A token with its place changed. -/
def mapLoc (ρ : Location → Location) (t : Token) : Token := ⟨t.kind, ρ t.loc⟩

variable {loc : Location} {opened : List Opener} {p : Piece} {ps : List Piece} {ts us : List Token}

/-- Tokens in front of what else was placed. -/
lemma map_append_eq_ok {x : Except CompileError (List Token)} :
    x.map (ts ++ ·) = .ok us ↔ ∃ vs, x = .ok vs ∧ us = ts ++ vs := by
  cases x with
  | error e => simp [Except.map]
  | ok vs => simp [Except.map, eq_comm]

/-- What one piece adds to the tokens of the pieces that follow it. -/
lemma place_cons (hp : p.kind.isOpen = false) (loc : Location) (opened : List Opener)
    (ps : List Piece) :
    place loc opened (p :: ps) =
      (place (loc.advance p.chars) (p.opens loc opened) ps).map (p.tokens loc opened ++ ·) := by
  have hid : ∀ x : Except CompileError (List Token), x.map (fun us => [] ++ us) = x := by
    rintro (_ | _) <;> rfl
  obtain ⟨kind, chars⟩ := p
  cases kind with
  | lineBreak =>
    simp only [place, Piece.tokens, Piece.opens]
    split
    · rfl
    · exact (hid _).symm
  | blank | comment => exact (hid _).symm
  | token kind => rfl
  | openQuote | openComment => cases hp

/-- Pieces with a quote or a comment that is never closed are not placed. -/
lemma isOpen_of_place (h : place loc opened ps = .ok us) : ∀ p ∈ ps, p.kind.isOpen = false := by
  induction ps generalizing loc opened us with
  | nil => simp
  | cons p ps ih =>
    cases hp : p.kind.isOpen with
    | false =>
      rw [place_cons hp] at h
      obtain ⟨vs, hvs, -⟩ := map_append_eq_ok.1 h
      exact List.forall_mem_cons.2 ⟨hp, ih hvs⟩
    | true =>
      obtain ⟨kind, chars⟩ := p
      cases kind <;> cases hp <;> cases h

/-- Pieces are placed after others as they are alone, further on and with no bracket open. -/
lemma place_append (h : place loc opened ps = .ok us) (qs : List Piece) :
    place loc opened (ps ++ qs) =
      (place (loc.advance (ps.flatMap Piece.chars)) [] qs).map (us ++ ·) := by
  induction ps generalizing loc opened us with
  | nil =>
    cases opened with
    | cons o outer => cases h
    | nil =>
      cases h
      change place loc [] qs = (place loc [] qs).map ([] ++ ·)
      cases place loc [] qs <;> rfl
  | cons p ps ih =>
    have hp := isOpen_of_place h p (.head ps)
    rw [place_cons hp] at h
    obtain ⟨vs, hvs, rfl⟩ := map_append_eq_ok.1 h
    rw [List.cons_append, place_cons hp, ih hvs, List.flatMap_cons, Location.advance_append]
    cases place ((loc.advance p.chars).advance (ps.flatMap Piece.chars)) [] qs with
    | error e => rfl
    | ok ws => exact congrArg Except.ok (List.append_assoc ..).symm

/-- Brackets further down. -/
def lower (k : Nat) (opened : List Opener) : List Opener :=
  opened.map fun o => ⟨o.char, o.loc.down k⟩

/-- Which brackets are open does not depend on where they stand. -/
lemma brackets_lower (k : Nat) (kind : Kind) (loc : Location) (opened : List Opener) :
    brackets kind (loc.down k) (lower k opened) = lower k (brackets kind loc opened) := by
  cases opened with
  | nil => cases kind <;> rfl
  | cons o outer =>
    cases kind <;> simp only [brackets, lower, List.map_cons] <;> split <;> rfl

/-- Pieces that start further down leave the same tokens further down. -/
lemma place_down (k : Nat) (hloc : loc.line ≠ 0) (h : place loc opened ps = .ok us) :
    place (loc.down k) (lower k opened) ps = .ok (us.map (mapLoc (Location.down k))) := by
  induction ps generalizing loc opened us with
  | nil =>
    cases opened with
    | cons o outer => cases h
    | nil =>
      cases h
      rfl
  | cons p ps ih =>
    have hp := isOpen_of_place h p (.head ps)
    rw [place_cons hp] at h
    obtain ⟨vs, hvs, rfl⟩ := map_append_eq_ok.1 h
    have hopens : p.opens (loc.down k) (lower k opened) = lower k (p.opens loc opened) := by
      unfold Piece.opens
      split
      · exact brackets_lower ..
      · rfl
    have htokens : p.tokens (loc.down k) (lower k opened) =
        (p.tokens loc opened).map (mapLoc (Location.down k)) := by
      unfold Piece.tokens
      split
      · rfl
      · cases opened <;> rfl
      · rfl
    rw [place_cons hp, hopens, htokens, ← Location.down_advance k hloc,
      ih (Location.line_advance_ne_zero hloc p.chars) hvs, List.map_append]
    rfl

/-! ## What stands between -/

/-- What stands between the tokens of two texts: a line break, if there is something on either
side. -/
def Between (ts us sep : List Token) : Prop :=
  if ts = [] ∨ us = [] then sep = [] else ∃ l, sep = [⟨.newline, l⟩]

/-- What stands between does not depend on places. -/
lemma Between.map_mapLoc {ρ : Location → Location} {sep : List Token} (h : Between ts us sep) :
    Between ts (us.map (mapLoc ρ)) sep := by
  unfold Between at h ⊢
  simpa only [List.map_eq_nil_iff] using h

/-- Nothing is left if there are line breaks only. -/
lemma tidyFrom_eq_nil_iff (atStart : Bool) :
    tidyFrom atStart ts = [] ↔ ts.all (·.kind.isNewline) = true := by
  refine ⟨fun h => by_contra fun hall => tidyFrom_ne_nil hall h, fun hall => ?_⟩
  induction ts generalizing atStart with
  | nil => rfl
  | cons t ts ih =>
    rw [List.all_cons, Bool.and_eq_true] at hall
    rw [tidyFrom, if_pos hall.1, hall.2, Bool.or_true, if_pos rfl, ih true hall.2]

/-- Line breaks are dropped wherever the tokens stand. -/
lemma tidyFrom_mapLoc (ρ : Location → Location) (atStart : Bool) (ts : List Token) :
    tidyFrom atStart (ts.map (mapLoc ρ)) = (tidyFrom atStart ts).map (mapLoc ρ) := by
  induction ts generalizing atStart with
  | nil => rfl
  | cons t ts ih =>
    have hall : (ts.map (mapLoc ρ)).all (·.kind.isNewline) = ts.all (·.kind.isNewline) := by
      rw [List.all_map]
      rfl
    rw [List.map_cons, tidyFrom, tidyFrom, hall, ih, ih]
    change (if t.kind.isNewline then _ else _) = _
    split
    · split <;> rfl
    · rfl

/-- A line break is kept if it is not at the start and something follows it. -/
lemma tidyFrom_cons_newline {t : Token} (ht : t.kind.isNewline = true) (atStart : Bool)
    (ts : List Token) :
    tidyFrom atStart (t :: ts) =
      if atStart = true ∨ tidyFrom true ts = [] then tidyFrom true ts
      else t :: tidyFrom true ts := by
  rw [tidyFrom, if_pos ht]
  simp only [Bool.or_eq_true, tidyFrom_eq_nil_iff]

/-- Of the line breaks at the end of some tokens, the one that follows and those at the start of
others, one is left if there is something on either side.

**Proof sketch.** By the tokens in front. Once a token other than a line break was met, the first
line break after it is kept if such a token is still to come, on whichever side. -/
lemma tidyFrom_break (atStart : Bool) (ts us : List Token) (l : Location) :
    ∃ sep, tidyFrom atStart (ts ++ ⟨.newline, l⟩ :: us) =
        tidyFrom atStart ts ++ (sep ++ tidyFrom true us) ∧
      if (atStart = true ∧ tidyFrom atStart ts = []) ∨ tidyFrom true us = [] then sep = []
      else ∃ l, sep = [⟨.newline, l⟩] := by
  induction ts generalizing atStart with
  | nil =>
    rw [List.nil_append, tidyFrom_cons_newline rfl]
    by_cases hdrop : atStart = true ∨ tidyFrom true us = []
    · exact ⟨[], by simp [hdrop, tidyFrom], by simp [hdrop, tidyFrom]⟩
    · exact ⟨[⟨.newline, l⟩], by simp [hdrop, tidyFrom], by simp [hdrop, tidyFrom]⟩
  | cons t ts ih =>
    cases ht : t.kind.isNewline with
    | false =>
      obtain ⟨sep, hsep, hbetween⟩ := ih false
      refine ⟨sep, ?_, ?_⟩
      · simp only [List.cons_append, tidyFrom, ht, Bool.false_eq_true, if_false, hsep]
      · simpa [tidyFrom, ht] using hbetween
    | true =>
      obtain ⟨sep, hsep, hbetween⟩ := ih true
      rw [List.cons_append, tidyFrom_cons_newline ht, tidyFrom_cons_newline ht, hsep]
      cases atStart with
      | true => exact ⟨sep, by simp, by simpa using hbetween⟩
      | false =>
        by_cases hfront : tidyFrom true ts = []
        · -- all in front are line breaks, of which `t` is the one to stay
          have hnone : sep = [] := by simpa [hfront] using hbetween
          have hkind : t = ⟨.newline, t.loc⟩ := by
            rw [← (brackets_of_isNewline ht : _ ∧ brackets t.kind t.loc [] = []).1]
          by_cases hback : tidyFrom true us = []
          · exact ⟨[], by simp [hfront, hnone, hback], by simp [hback]⟩
          · refine ⟨[t], by simp [hfront, hnone, hback], ?_⟩
            rw [if_neg (by simp [hback])]
            exact ⟨t.loc, congrArg (fun t => [t]) hkind⟩
        · exact ⟨sep, by simp [hfront], by simpa [hfront] using hbetween⟩

/-- Placed tokens stand on some line. -/
lemma line_of_place (hloc : loc.line ≠ 0) (h : place loc opened ps = .ok us) :
    ∀ t ∈ us, t.loc.line ≠ 0 := by
  induction ps generalizing loc opened us with
  | nil =>
    cases opened with
    | cons o outer => cases h
    | nil =>
      cases h
      simp
  | cons p ps ih =>
    rw [place_cons (isOpen_of_place h p (.head ps))] at h
    obtain ⟨vs, hvs, rfl⟩ := map_append_eq_ok.1 h
    have htokens : ∀ t ∈ p.tokens loc opened, t.loc = loc := by
      unfold Piece.tokens
      split
      · simp
      · split <;> simp
      · simp
    refine List.forall_mem_append.2 ⟨fun t ht => htokens t ht ▸ hloc, ?_⟩
    exact ih (Location.line_advance_ne_zero hloc p.chars) hvs

/-- What is left without some line breaks was there before. -/
lemma tidyFrom_subset (atStart : Bool) (ts : List Token) : tidyFrom atStart ts ⊆ ts := by
  induction ts generalizing atStart with
  | nil => exact List.Subset.refl []
  | cons t ts ih =>
    rw [tidyFrom]
    split
    · split
      · exact List.Subset.trans (ih true) (List.subset_cons_self t ts)
      · exact List.cons_subset_cons t (ih true)
    · exact List.cons_subset_cons t (ih false)

/-- The tokens of a text stand on some line. -/
lemma line_of_lex {source : Option String} {text : String} (h : lex text source = .ok ts) :
    ∀ t ∈ ts, t.loc.line ≠ 0 := by
  obtain ⟨us, hus, rfl⟩ := exists_place_of_lex h
  intro t ht
  exact line_of_place Nat.one_ne_zero hus t (tidyFrom_subset true us ht)

/-- The tokens of two texts with a line break between them are those of the first, those of the
second further down, and a line break between them if there is something on either side. -/
lemma exists_lex_append {source : Option String} {a b : String} {as bs : List Token}
    (ha : lex a source = .ok as) (hb : lex b source = .ok bs) :
    ∃ sep, Between as bs sep ∧ lex (a ++ "\n" ++ b) source =
      .ok (as ++ (sep ++ bs.map (mapLoc (Location.below a)))) := by
  obtain ⟨us, hus, rfl⟩ := exists_place_of_lex ha
  obtain ⟨vs, hvs, rfl⟩ := exists_place_of_lex hb
  unfold Location.below
  set k := a.toList.count '\n' + 1
  have hline : (Location.start source).line ≠ 0 := Nat.one_ne_zero
  have hsplit : Piece.split (a ++ "\n" ++ b).toList =
      Piece.split a.toList ++ ⟨.lineBreak, ['\n']⟩ :: Piece.split b.toList := by
    rw [String.toList_append, String.toList_append, List.append_assoc]
    exact Piece.split_append (isOpen_of_place hus) b.toList
  have hplaced : place (.start source) [] (Piece.split (a ++ "\n" ++ b).toList) =
      .ok (us ++ ⟨.newline, (Location.start source).advance a.toList⟩ ::
        vs.map (mapLoc (Location.down k))) := by
    rw [hsplit, place_append hus, Piece.flatMap_split, place_cons rfl]
    have hdown := place_down k hline hvs
    rw [← Location.start_down source a.toList] at hdown
    exact congrArg (Except.map (us ++ ·) <| Except.map (_ ++ ·) ·) hdown
  obtain ⟨sep, hsep, hbetween⟩ := tidyFrom_break true us (vs.map (mapLoc (Location.down k)))
    ((Location.start source).advance a.toList)
  rw [tidyFrom_mapLoc] at hsep hbetween
  refine ⟨sep, ?_, ?_⟩
  · by_cases hnone : tidyFrom true us = [] ∨ tidyFrom true vs = [] <;>
      simpa [Between, tidy, hnone] using hbetween
  · rw [lex, hplaced]
    exact congrArg Except.ok hsep

end Token

end CommandScript
