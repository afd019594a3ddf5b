import CommandScript.Proofs.Lexeme
import Mathlib.Data.List.Induction

/-!
# How a text is taken apart

A text is cut into pieces without a gap. Each piece that is a token leaves that token, at the place
where the piece starts, and a line break leaves one exactly if it separates two tokens outside of
all brackets. Where a text cannot be taken apart, the error is at the quote or the comment that is
never closed, or at an opening bracket that no later one closes.

Which brackets belong together is said here without a stack: a pair encloses tokens that are
enclosed in turn. The stack that the lexer keeps then holds the brackets that do not belong to a
pair so far.

## Main definitions

* `CommandScript.Location.after` — the place after some characters, by counting them.
* `CommandScript.Token.Enclosed` — tokens after which a bracket is still open, or none is.
* `CommandScript.Piece.Separates` — a line break between two pieces of a text that separates tokens.
* `CommandScript.Piece.Reads`, `CommandScript.Piece.FailsWith` — the tokens of pieces, and the
  errors in them.

## Main results

* `CommandScript.Location.advance_start` — places are found by counting.
* `CommandScript.Token.openAfter_cases` — the open brackets are those that do not belong to a pair.
* `CommandScript.Token.lex_partitions` — how a text is taken apart.
-/

namespace CommandScript

/-! ## Places by counting -/

namespace Location

/-- The place after the characters of a script that come before it. The line is one more than the
line breaks in them, and the column one more than the characters since the last line break. -/
def after (source : Option String) (before : List Char) : Location where
  source := source
  line := 1 + before.count '\n'
  column := 1 + (before.reverse.takeWhile (· ≠ '\n')).length

/-- Going over characters one by one counts them. -/
lemma advance_start (source : Option String) (cs : List Char) :
    (start source).advance cs = after source cs := by
  induction cs using List.reverseRecOn with
  | nil => rfl
  | append_singleton cs c ih =>
    rw [advance_append, ih, advance_cons, advance_nil, next]
    by_cases hc : c = '\n'
    · simp [after, hc, Nat.add_assoc]
    · simp [after, hc, Nat.add_comm]

/-- A place is no further on than there are characters before it. -/
lemma after_le (source : Option String) (before : List Char) :
    (after source before).line ≤ 1 + before.length ∧
      (after source before).column ≤ 1 + before.length := by
  have hcolumn := (List.takeWhile_sublist (l := before.reverse) (· ≠ '\n')).length_le
  rw [List.length_reverse] at hcolumn
  exact ⟨Nat.add_le_add_left List.count_le_length 1, Nat.add_le_add_left hcolumn 1⟩

end Location

namespace Token

/-! ## Brackets in pairs -/

/-- The bracket that a token opens. -/
def Kind.opens? : Kind → Option Char
  | .openParen => some '('
  | .openBracket => some '['
  | _ => none

/-- The opening bracket that a token may close. -/
def Kind.closes? : Kind → Option Char
  | .closeParen => some '('
  | .closeBracket => some '['
  | _ => none

/-- Tokens after which all brackets of their own are closed, while the bracket `b` around them is
still open. A closing bracket that belongs to neither is passed over. -/
inductive Enclosed : (b : Option Char) → List Kind → Prop where
  | nil (b : Option Char) : Enclosed b []
  | passed {b : Option Char} {k : Kind} {ks : List Kind} (hopens : k.opens? = none)
    (hcloses : ∀ c, k.closes? = some c → b ≠ some c) (h : Enclosed b ks) : Enclosed b (k :: ks)
  | pair {b : Option Char} {c : Char} {k k' : Kind} {us vs : List Kind}
    (hopens : k.opens? = some c) (hin : Enclosed (some c) us) (hcloses : k'.closes? = some c)
    (h : Enclosed b vs) : Enclosed b (k :: (us ++ k' :: vs))

/-- No token closes the bracket `c` that is open before them. -/
def Unmatched (c : Char) (ks : List Kind) : Prop :=
  ∀ us k vs, ks = us ++ k :: vs → Enclosed (some c) us → k.closes? ≠ some c

/-- Tokens that close some brackets one after another, of which `b` is the next. -/
def Closing : List Char → (b : Option Char) → List Kind → Prop
  | [], b, ks => Enclosed b ks
  | c :: cs, b, ks => ∃ us k vs, ks = us ++ k :: vs ∧ Enclosed (some c) us ∧
    k.closes? = some c ∧ Closing cs b vs

/-- The innermost open bracket. -/
def innermost (opened : List Opener) : Option Char := opened.head?.map Opener.char

variable {kind : Kind} {loc : Location} {opened : List Opener} {c : Char} {b : Option Char}
  {cs : List Char} {ks : List Kind}

lemma brackets_of_opens (h : kind.opens? = some c) :
    brackets kind loc opened = ⟨c, loc⟩ :: opened := by
  cases kind <;> cases h <;> rfl

lemma brackets_of_closes {o : Opener} (h : kind.closes? = some o.char) :
    brackets kind loc (o :: opened) = opened := by
  obtain ⟨char, l⟩ := o
  cases kind <;> cases h <;> rfl

lemma brackets_of_passed (hopens : kind.opens? = none)
    (hcloses : ∀ c, kind.closes? = some c → innermost opened ≠ some c) :
    brackets kind loc opened = opened := by
  cases opened with
  | nil => cases kind <;> first | rfl | cases hopens
  | cons o outer =>
    have hother : ∀ c, kind.closes? = some c → o.char ≠ c := fun c hc ho =>
      hcloses c hc (congrArg some ho)
    cases kind with
    | openParen | openBracket => cases hopens
    | closeParen => exact if_neg (hother '(' rfl)
    | closeBracket => exact if_neg (hother '[' rfl)
    | _ => rfl

/-- Enclosed tokens leave the open brackets as they are. -/
lemma Enclosed.openAfter_eq (h : Enclosed b ks) :
    ∀ {opened : List Opener} {ts : List Token}, innermost opened = b → ts.map Token.kind = ks →
      openAfter opened ts = opened := by
  induction h with
  | nil b =>
    intro opened ts _ hts
    rw [List.map_eq_nil_iff.1 hts]
    rfl
  | passed hopens hcloses _ ih =>
    intro opened ts hb hts
    obtain ⟨t, ts, rfl, rfl, htail⟩ := List.map_eq_cons_iff.1 hts
    change openAfter (brackets t.kind t.loc opened) ts = opened
    rw [brackets_of_passed hopens fun c hc => hb ▸ hcloses c hc]
    exact ih hb htail
  | @pair b c k k' us vs hopens _ hcloses _ ihin ih =>
    intro opened ts hb hts
    obtain ⟨t, ts, rfl, rfl, htail⟩ := List.map_eq_cons_iff.1 hts
    obtain ⟨xs, ys, rfl, hxs, hys⟩ := List.map_eq_append_iff.1 htail
    obtain ⟨t', ys, rfl, rfl, htail'⟩ := List.map_eq_cons_iff.1 hys
    change openAfter (brackets t.kind t.loc opened) (xs ++ t' :: ys) = opened
    rw [brackets_of_opens hopens, openAfter, List.foldl_append]
    change openAfter (brackets t'.kind t'.loc (openAfter (⟨c, t.loc⟩ :: opened) xs)) ys = opened
    rw [ihin rfl hxs, brackets_of_closes hcloses]
    exact ih hb htail'

/-- An open bracket was open before, or one of the tokens opens it. -/
lemma loc_of_mem_openAfter {o : Opener} {ts : List Token} (h : o ∈ openAfter opened ts) :
    o ∈ opened ∨ ∃ t ∈ ts, o.loc = t.loc := by
  induction ts generalizing opened with
  | nil => exact .inl h
  | cons t ts ih =>
    rcases ih h with hmem | ⟨t', ht', hloc⟩
    · have hbrackets : o ∈ brackets t.kind t.loc opened → o ∈ opened ∨ o.loc = t.loc := by
        unfold brackets
        split <;> grind
      exact (hbrackets hmem).imp_right fun hloc => ⟨t, .head ts, hloc⟩
    · exact .inr ⟨t', .tail t ht', hloc⟩

/-- The bracket around enclosed tokens is not closed by one of them.

**Proof sketch.** Were it closed, then it would be missing from the open brackets after the tokens,
and only brackets that the tokens open themselves could be there. The place of the bracket tells it
from these. -/
lemma Enclosed.unmatched (h : Enclosed (some c) ks) : Unmatched c ks := by
  rintro us k vs rfl hus hk
  let at? : Kind → Token := fun k => ⟨k, .unknown⟩
  have hkinds : ∀ ks : List Kind, (ks.map at?).map Token.kind = ks := fun ks => by
    rw [List.map_map]
    exact List.map_id ks
  let o : Opener := ⟨c, .start none⟩
  have hopen : openAfter [o] ((us ++ k :: vs).map at?) = [o] := h.openAfter_eq rfl (hkinds _)
  have hclosed : openAfter [o] ((us ++ k :: vs).map at?) = openAfter [] (vs.map at?) := by
    rw [List.map_append, openAfter, List.foldl_append]
    change openAfter (brackets k .unknown (openAfter [o] (us.map at?))) (vs.map at?) = _
    rw [hus.openAfter_eq rfl (hkinds us), brackets_of_closes hk]
  have hmem : o ∈ openAfter [] (vs.map at?) := by
    rw [← hclosed, hopen]
    exact .head []
  rcases loc_of_mem_openAfter hmem with hnone | ⟨t, ht, hloc⟩
  · cases hnone
  · obtain ⟨k, -, rfl⟩ := List.mem_map.1 ht
    cases hloc

/-- A token that belongs to no pair in front of others. -/
lemma Closing.passed (hopens : kind.opens? = none)
    (hcloses : ∀ c', kind.closes? = some c' → (cs.head?.or b) ≠ some c') (h : Closing cs b ks) :
    Closing cs b (kind :: ks) := by
  cases cs with
  | nil => exact .passed hopens (by simpa using hcloses) h
  | cons c cs =>
    obtain ⟨us, k, vs, rfl, hus, hk, hvs⟩ := h
    exact ⟨kind :: us, k, vs, rfl, .passed hopens (by simpa using hcloses) hus, hk, hvs⟩

/-- A token that opens the first of the brackets that are closed. -/
lemma Closing.pair (hopens : kind.opens? = some c) (h : Closing (c :: cs) b ks) :
    Closing cs b (kind :: ks) := by
  obtain ⟨us, k, vs, rfl, hus, hk, hvs⟩ := h
  cases cs with
  | nil => exact .pair hopens hus hk hvs
  | cons c' cs =>
    obtain ⟨us', k', vs', rfl, hus', hk', hvs'⟩ := hvs
    exact ⟨kind :: (us ++ k :: us'), k', vs', by simp, .pair hopens hus hk hus', hk', hvs'⟩

/-- Either the tokens only close brackets that were open before them, or the innermost open bracket
is one that they open and do not close.

**Proof sketch.** By the tokens. The first one opens a bracket, which the others close or leave
open, or it closes the innermost one, or it is passed over. -/
lemma openAfter_cases (opened : List Opener) (ts : List Token) :
    (∃ closed, opened = closed ++ openAfter opened ts ∧
      Closing (closed.map Opener.char) (innermost (openAfter opened ts)) (ts.map Token.kind)) ∨
    ∃ o outer us t vs, openAfter opened ts = o :: outer ∧ ts = us ++ t :: vs ∧
      t.kind.opens? = some o.char ∧ t.loc = o.loc ∧
      Enclosed (some o.char) (vs.map Token.kind) := by
  induction ts generalizing opened with
  | nil => exact .inl ⟨[], rfl, .nil _⟩
  | cons t ts ih =>
    have hnext : openAfter opened (t :: ts) = openAfter (brackets t.kind t.loc opened) ts := rfl
    rw [hnext]
    rcases ih (brackets t.kind t.loc opened) with ⟨closed, heq, hclosing⟩ |
      ⟨o, outer, us, t', vs, hlast, rfl, ht', hloc, hvs⟩
    · cases hopens : t.kind.opens? with
      | some c =>
        have hopened : ⟨c, t.loc⟩ :: opened =
            closed ++ openAfter (brackets t.kind t.loc opened) ts :=
          (brackets_of_opens hopens).symm.trans heq
        cases closed with
        | nil =>
          rw [List.nil_append] at hopened
          rw [← hopened] at hclosing ⊢
          exact .inr ⟨⟨c, t.loc⟩, opened, [], t, ts, rfl, rfl, hopens, rfl, hclosing⟩
        | cons o closed =>
          obtain ⟨rfl, htail⟩ := List.cons.inj hopened
          exact .inl ⟨closed, htail, .pair hopens hclosing⟩
      | none =>
        by_cases hcloses : ∃ c, t.kind.closes? = some c ∧ innermost opened = some c
        · obtain ⟨c, hc, ho⟩ := hcloses
          obtain ⟨o, hhead, rfl⟩ := Option.map_eq_some_iff.1 ho
          obtain ⟨outer, rfl⟩ := List.head?_eq_some_iff.1 hhead
          rw [brackets_of_closes hc] at heq hclosing ⊢
          exact .inl ⟨o :: closed, congrArg (o :: ·) heq, [], t.kind, _, rfl, .nil _, hc, hclosing⟩
        · have hpassed : ∀ c, t.kind.closes? = some c → innermost opened ≠ some c :=
            fun c hc ho => hcloses ⟨c, hc, ho⟩
          rw [brackets_of_passed hopens hpassed] at heq hclosing ⊢
          refine .inl ⟨closed, heq, .passed hopens (fun c hc hhead => hpassed c hc ?_) hclosing⟩
          rw [heq, ← hhead]
          cases closed <;> rfl
    · exact .inr ⟨o, outer, t :: us, t', vs, hlast, rfl, ht', hloc, hvs⟩

/-- No bracket is open after tokens exactly if all of their brackets belong to pairs. -/
lemma openAfter_nil_iff (ts : List Token) :
    openAfter [] ts = [] ↔ Enclosed none (ts.map Token.kind) := by
  refine ⟨fun h => ?_, fun h => h.openAfter_eq rfl rfl⟩
  rcases openAfter_cases [] ts with ⟨closed, heq, hclosing⟩ | ⟨o, outer, us, t, vs, hlast, -⟩
  · obtain ⟨rfl, -⟩ := List.append_eq_nil_iff.1 heq.symm
    rw [h] at hclosing
    exact hclosing
  · rw [h] at hlast
    cases hlast

end Token

/-! ## The tokens of pieces -/

namespace Piece

open Token (Enclosed Unmatched openAfter brackets)

/-- The token that a piece is. -/
def Kind.token? : Kind → Option Token.Kind
  | .token k => some k
  | _ => none

/-- The tokens among some pieces. -/
def kinds (ps : List Piece) : List Token.Kind := ps.filterMap (·.kind.token?)

/-- The last of some pieces is a token, apart from blanks and comments. -/
def EndsWithToken (ps : List Piece) : Prop :=
  ∃ us kind cs vs, ps = us ++ ⟨.token kind, cs⟩ :: vs ∧
    ∀ p ∈ vs, p.kind = .blank ∨ p.kind = .comment

/-- A line break between two parts of a text separates tokens: it is outside of all brackets, it is
the first one after a token, and another token follows. -/
structure Separates (before after : List Piece) : Prop where
  outside : Enclosed none (kinds before)
  follows : EndsWithToken before
  precedes : kinds after ≠ []

/-- What a piece between two parts of a text leaves: a token at the place where it starts, or
nothing. -/
inductive Gives (source : Option String) (before : List Piece) :
    Piece → (after : List Piece) → List Token → Prop where
  | token (kind : Token.Kind) (cs : List Char) (after : List Piece) :
    Gives source before ⟨.token kind, cs⟩ after
      [⟨kind, Location.after source (before.flatMap Piece.chars)⟩]
  | separator (cs : List Char) {after : List Piece} (h : Separates before after) :
    Gives source before ⟨.lineBreak, cs⟩ after
      [⟨.newline, Location.after source (before.flatMap Piece.chars)⟩]
  | lineBreak (cs : List Char) {after : List Piece} (h : ¬ Separates before after) :
    Gives source before ⟨.lineBreak, cs⟩ after []
  | blank (cs : List Char) (after : List Piece) : Gives source before ⟨.blank, cs⟩ after []
  | comment (cs : List Char) (after : List Piece) : Gives source before ⟨.comment, cs⟩ after []

/-- The tokens of the pieces that follow those in `before`. -/
inductive Reads (source : Option String) : (before ps : List Piece) → List Token → Prop where
  | nil (before : List Piece) : Reads source before [] []
  | cons {before : List Piece} {p : Piece} {ps : List Piece} {ts us : List Token}
    (h : Gives source before p ps ts) (hrest : Reads source (before ++ [p]) ps us) :
    Reads source before (p :: ps) (ts ++ us)

/-- The errors in pieces: a quote or a block comment at the end that is never closed, or an opening
bracket that no later token closes. -/
inductive FailsWith (source : Option String) : List Piece → CompileError → Prop where
  | quote (us : List Piece) {q : Char} (hq : q = '"' ∨ q = '\'') (cs : List Char) :
    FailsWith source (us ++ [⟨.openQuote, q :: cs⟩])
      (.unterminatedString (Location.after source (us.flatMap Piece.chars)))
  | comment (us : List Piece) (cs : List Char) :
    FailsWith source (us ++ [⟨.openComment, '/' :: '*' :: cs⟩])
      (.unterminatedComment (Location.after source (us.flatMap Piece.chars)))
  | bracket (us : List Piece) {kind : Token.Kind} {c : Char} (hopens : kind.opens? = some c)
    {vs : List Piece} (h : Unmatched c (kinds vs)) :
    FailsWith source (us ++ ⟨.token kind, [c]⟩ :: vs)
      (.unclosed c (Location.after source (us.flatMap Piece.chars)))

variable {source : Option String} {loc : Location} {opened : List Opener} {p : Piece}
  {ps before : List Piece} {ts : List Token}

/-- The tokens that pieces are, each at its place. -/
def placed (loc : Location) : List Piece → List Token
  | [] => []
  | p :: ps => p.kind.token?.toList.map (⟨·, loc⟩) ++ placed (loc.advance p.chars) ps

lemma placed_append (loc : Location) (ps qs : List Piece) :
    placed loc (ps ++ qs) = placed loc ps ++ placed (loc.advance (ps.flatMap Piece.chars)) qs := by
  induction ps generalizing loc with
  | nil => rfl
  | cons p ps ih =>
    simp only [List.cons_append, placed, ih, List.append_assoc, List.flatMap_cons,
      Location.advance_append]

lemma map_kind_placed (loc : Location) (ps : List Piece) :
    (placed loc ps).map Token.kind = kinds ps := by
  induction ps generalizing loc with
  | nil => rfl
  | cons p ps ih =>
    rw [placed, List.map_append, ih, kinds, kinds, List.filterMap_cons]
    cases p.kind.token? <;> rfl

/-- The brackets that are open after a piece are those after the token that it is. -/
lemma opens_eq (loc : Location) (opened : List Opener) (p : Piece) :
    p.opens loc opened = openAfter opened (p.kind.token?.toList.map (⟨·, loc⟩)) := by
  obtain ⟨kind, chars⟩ := p
  cases kind <;> rfl

/-- A token among placed ones is a piece that stands where it should. -/
lemma exists_piece_of_placed {t : Token} {us vs : List Token} (h : placed loc ps = us ++ t :: vs) :
    ∃ qs p rs, ps = qs ++ p :: rs ∧ p.kind = .token t.kind ∧
      t.loc = loc.advance (qs.flatMap Piece.chars) ∧ kinds rs = vs.map Token.kind := by
  induction ps generalizing loc us with
  | nil => cases us <;> cases h
  | cons p ps ih =>
    rw [placed] at h
    have hlater : ∀ us', placed (loc.advance p.chars) ps = us' ++ t :: vs →
        ∃ qs q rs, p :: ps = qs ++ q :: rs ∧ q.kind = .token t.kind ∧
          t.loc = loc.advance (qs.flatMap Piece.chars) ∧ kinds rs = vs.map Token.kind := by
      intro us' hus'
      obtain ⟨qs, q, rs, rfl, hq, hloc, hrs⟩ := ih hus'
      refine ⟨p :: qs, q, rs, rfl, hq, ?_, hrs⟩
      rw [hloc, List.flatMap_cons, Location.advance_append]
    cases hkind : p.kind with
    | token k =>
      simp only [hkind, Kind.token?, Option.toList_some, List.map_cons, List.map_nil,
        List.singleton_append] at h
      cases us with
      | nil =>
        obtain ⟨rfl, rfl⟩ := List.cons.inj h
        exact ⟨[], p, ps, rfl, hkind, rfl, (map_kind_placed _ ps).symm⟩
      | cons u us => exact hlater us (List.cons.inj h).2
    | _ =>
      simp only [hkind, Kind.token?, Option.toList_none, List.map_nil, List.nil_append] at h
      exact hlater us h

/-! ## Where placing fails -/

/-- Without a quote or a comment that is never closed, placing fails exactly if a bracket is open in
the end. -/
lemma place_of_closed (hclosed : ∀ p ∈ ps, p.kind.isOpen = false) (loc : Location)
    (opened : List Opener) :
    (openAfter opened (placed loc ps) = [] → ∃ us, Token.place loc opened ps = .ok us) ∧
      ∀ o outer, openAfter opened (placed loc ps) = o :: outer →
        Token.place loc opened ps = .error (.unclosed o.char o.loc) := by
  induction ps generalizing loc opened with
  | nil =>
    refine ⟨fun h => ?_, fun o outer h => ?_⟩
    · rw [show opened = [] from h]
      exact ⟨[], rfl⟩
    · rw [show opened = o :: outer from h]
      rfl
  | cons p ps ih =>
    obtain ⟨hp, hps⟩ := List.forall_mem_cons.1 hclosed
    obtain ⟨hok, herror⟩ := ih hps (loc.advance p.chars) (p.opens loc opened)
    rw [placed, openAfter, List.foldl_append, Token.place_cons hp]
    rw [opens_eq] at hok herror ⊢
    refine ⟨fun h => ?_, fun o outer h => ?_⟩
    · obtain ⟨us, hus⟩ := hok h
      exact ⟨_, by rw [hus]; rfl⟩
    · rw [herror o outer h]
      rfl

/-- Placing fails at the first quote or comment that is never closed. -/
lemma place_of_isOpen (hps : ∀ p ∈ ps, p.kind.isOpen = false) (hp : p.kind.isOpen = true)
    (loc : Location) (opened : List Opener) (qs : List Piece) :
    Token.place loc opened (ps ++ p :: qs) =
      Token.place (loc.advance (ps.flatMap Piece.chars)) [] [p] := by
  induction ps generalizing loc opened with
  | nil =>
    obtain ⟨kind, chars⟩ := p
    cases kind <;> cases hp <;> rfl
  | cons q ps ih =>
    obtain ⟨hq, hps⟩ := List.forall_mem_cons.1 hps
    rw [List.cons_append, Token.place_cons hq, ih hps, List.flatMap_cons, Location.advance_append]
    obtain ⟨kind, chars⟩ := p
    cases kind <;> cases hp <;> rfl

lemma WrittenEach.of_append (h : WrittenEach (ps ++ before)) : WrittenEach before := by
  induction ps with
  | nil => exact h
  | cons p ps ih => exact ih h.2

/-- Written pieces of no characters are none. -/
lemma WrittenEach.eq_nil (h : WrittenEach ps) (hchars : ps.flatMap Piece.chars = []) : ps = [] := by
  cases ps with
  | nil => rfl
  | cons p ps => exact absurd (List.append_eq_nil_iff.1 hchars).1 h.1.chars_ne_nil

/-- A quote or a comment that is never closed is the last piece. -/
lemma failsWith_of_isOpen (hwritten : WrittenEach ps) (hopen : ∃ p ∈ ps, p.kind.isOpen = true) :
    ∃ e, Token.place (.start source) [] ps = .error e ∧ FailsWith source ps e := by
  obtain ⟨p, us, vs, hp, rfl, hus⟩ :
      ∃ p us vs, p.kind.isOpen = true ∧ ps = us ++ p :: vs ∧ ∀ q ∈ us, q.kind.isOpen = false := by
    obtain ⟨p, hfind⟩ := Option.isSome_iff_exists.1
      (List.find?_isSome (p := fun p : Piece => p.kind.isOpen).2 hopen)
    obtain ⟨hp, us, vs, rfl, hus⟩ := List.find?_eq_some_iff_append.1 hfind
    exact ⟨p, us, vs, hp, rfl, by simpa using hus⟩
  obtain ⟨hwp, hvs⟩ := hwritten.of_append
  rw [place_of_isOpen hus hp, Location.advance_start]
  generalize hrest : vs.flatMap Piece.chars = rest at hwp
  cases hwp with
  | openQuote hq _ =>
    rw [hvs.eq_nil hrest]
    exact ⟨_, rfl, .quote us hq _⟩
  | openComment _ =>
    rw [hvs.eq_nil hrest]
    exact ⟨_, rfl, .comment us _⟩
  | _ => cases hp

/-- The written form of an opening bracket. -/
lemma chars_of_opens {rest : List Char} {k : Token.Kind} {c : Char} (h : p.Written rest)
    (hp : p.kind = .token k) (hk : k.opens? = some c) : p = ⟨.token k, [c]⟩ := by
  cases h with
  | token h =>
    cases hp
    cases h with
    | sign hsign =>
      simp only [Token.signs, List.mem_cons, Prod.mk.injEq, List.not_mem_nil, or_false] at hsign
      rcases hsign with ⟨rfl, rfl⟩ | ⟨rfl, rfl⟩ | ⟨rfl, rfl⟩ | ⟨rfl, rfl⟩ | ⟨rfl, rfl⟩ <;>
        cases hk <;> rfl
    | word =>
      unfold wordKind at hk
      split at hk <;> cases hk
    | _ => cases hk
  | _ => cases hp

/-- A bracket that is open in the end is one that no later token closes. -/
lemma failsWith_of_openAfter (hwritten : WrittenEach ps) (hclosed : ∀ p ∈ ps, p.kind.isOpen = false)
    (hopen : openAfter [] (placed (.start source) ps) ≠ []) :
    ∃ e, Token.place (.start source) [] ps = .error e ∧ FailsWith source ps e := by
  rcases Token.openAfter_cases [] (placed (.start source) ps) with
    ⟨closed, heq, -⟩ | ⟨o, outer, us, t, vs, hlast, hplaced, ht, hloc, hvs⟩
  · exact absurd (List.append_eq_nil_iff.1 heq.symm).2 hopen
  · refine ⟨_, (place_of_closed hclosed _ _).2 o outer hlast, ?_⟩
    obtain ⟨qs, p, rs, rfl, hp, hat, hrs⟩ := exists_piece_of_placed hplaced
    rw [← hrs] at hvs
    rw [chars_of_opens hwritten.of_append.1 hp ht, ← hloc, hat, Location.advance_start]
    exact .bracket qs ht hvs.unmatched

/-! ## Where placing succeeds -/

/-- Nothing but line breaks is placed if no piece is a token. -/
lemma all_isNewline_iff (hwritten : WrittenEach ps) (h : Token.place loc opened ps = .ok ts) :
    ts.all (·.kind.isNewline) = true ↔ kinds ps = [] := by
  induction ps generalizing loc opened ts with
  | nil =>
    cases opened with
    | nil =>
      cases h
      simp [kinds]
    | cons o outer => cases h
  | cons p ps ih =>
    have hp := Token.isOpen_of_place h p (.head ps)
    rw [Token.place_cons hp] at h
    obtain ⟨us, hus, rfl⟩ := Token.map_append_eq_ok.1 h
    have ih := ih hwritten.2 hus
    obtain ⟨kind, chars⟩ := p
    cases kind with
    | lineBreak =>
      simp only [tokens]
      split <;> simpa [kinds, Kind.token?, Token.Kind.isNewline] using ih
    | blank | comment => simpa [kinds, Kind.token?, tokens] using ih
    | token k =>
      have hk : k ≠ .newline := by
        cases hwritten.1 with
        | token hlexeme => exact hlexeme.ne_newline
      have hnl : k.isNewline = false := by cases k <;> first | rfl | exact absurd rfl hk
      simp [kinds, Kind.token?, tokens, hnl]
    | openQuote | openComment => cases hp

/-- Whether pieces end with a token is seen at the last one that is no blank and no comment. -/
lemma endsWithToken_concat (ps : List Piece) (p : Piece) :
    EndsWithToken (ps ++ [p]) ↔ (∃ k, p.kind = .token k) ∨
      (p.kind = .blank ∨ p.kind = .comment) ∧ EndsWithToken ps := by
  constructor
  · rintro ⟨us, kind, cs, vs, heq, hvs⟩
    rcases List.eq_nil_or_concat vs with rfl | ⟨vs, q, rfl⟩
    · obtain ⟨-, hp⟩ := List.append_inj' heq rfl
      obtain ⟨rfl, -⟩ := List.cons.inj hp
      exact .inl ⟨kind, rfl⟩
    · rw [List.concat_eq_append, ← List.cons_append, ← List.append_assoc] at heq
      obtain ⟨rfl, hp⟩ := List.append_inj' heq rfl
      obtain ⟨rfl, -⟩ := List.cons.inj hp
      rw [List.concat_eq_append] at hvs
      exact .inr ⟨hvs p (by simp), us, kind, cs, vs, rfl, fun q hq => hvs q (by simp [hq])⟩
  · rintro (⟨k, hk⟩ | ⟨hp, us, kind, cs, vs, rfl, hvs⟩)
    · obtain ⟨kind, chars⟩ := p
      cases hk
      exact ⟨ps, k, chars, [], rfl, by simp⟩
    · refine ⟨us, kind, cs, vs ++ [p], by simp, fun q hq => ?_⟩
      rcases List.mem_append.1 hq with hq | hq
      · exact hvs q hq
      · rw [List.mem_singleton.1 hq]
        exact hp

/-- What the lexer knows after the pieces `before`: its place, the brackets that are open, and, if
none is, whether it is at the start of a line. -/
structure Tracks (source : Option String) (before : List Piece) (loc : Location)
    (opened : List Opener) (atStart : Bool) : Prop where
  loc_eq : loc = (Location.start source).advance (before.flatMap Piece.chars)
  opened_eq : opened = openAfter [] (placed (.start source) before)
  atStart_iff : opened = [] → (atStart = false ↔ EndsWithToken before)

namespace Tracks

variable {atStart : Bool}

lemma start (source : Option String) : Tracks source [] (.start source) [] true :=
  ⟨rfl, rfl, fun _ => by simp [EndsWithToken]⟩

lemma loc_eq_after (h : Tracks source before loc opened atStart) :
    loc = Location.after source (before.flatMap Piece.chars) := by
  rw [h.loc_eq, Location.advance_start]

lemma opened_eq_nil_iff (h : Tracks source before loc opened atStart) :
    opened = [] ↔ Enclosed none (kinds before) := by
  rw [h.opened_eq, Token.openAfter_nil_iff, map_kind_placed]

/-- What is known after one more piece. -/
lemma step (h : Tracks source before loc opened atStart) (p : Piece) {atStart' : Bool}
    (hstart : p.opens loc opened = [] → (atStart' = false ↔ EndsWithToken (before ++ [p]))) :
    Tracks source (before ++ [p]) (loc.advance p.chars) (p.opens loc opened) atStart' := by
  refine ⟨?_, ?_, hstart⟩
  · rw [h.loc_eq, List.flatMap_append, Location.advance_append]
    simp
  · rw [placed_append, openAfter, List.foldl_append]
    change _ = openAfter (openAfter [] (placed (.start source) before)) _
    rw [← h.opened_eq, ← h.loc_eq, placed, placed, List.append_nil, opens_eq]

/-- A line break separates tokens exactly if it is kept. -/
lemma separates_iff (h : Tracks source before loc opened atStart) (ps : List Piece) :
    Separates before ps ↔ opened = [] ∧ atStart = false ∧ kinds ps ≠ [] := by
  constructor
  · rintro ⟨houtside, hfollows, hprecedes⟩
    have hopened := h.opened_eq_nil_iff.2 houtside
    exact ⟨hopened, (h.atStart_iff hopened).2 hfollows, hprecedes⟩
  · rintro ⟨hopened, hstart, hprecedes⟩
    exact ⟨h.opened_eq_nil_iff.1 hopened, (h.atStart_iff hopened).1 hstart, hprecedes⟩

/-- A line break outside all brackets gives a token exactly if it separates others. -/
lemma reads_lineBreak (h : Tracks source before loc opened atStart) (hopened : opened = [])
    (chars : List Char) (hall : ts.all (·.kind.isNewline) = true ↔ kinds ps = [])
    (hreads : Reads source (before ++ [⟨.lineBreak, chars⟩]) ps (Token.tidyFrom true ts)) :
    Reads source before (⟨.lineBreak, chars⟩ :: ps)
      (Token.tidyFrom atStart (⟨.newline, loc⟩ :: ts)) := by
  rw [Token.tidyFrom_cons_newline rfl]
  simp only [Token.tidyFrom_eq_nil_iff, hall]
  by_cases hdrop : atStart = true ∨ kinds ps = []
  · rw [if_pos hdrop]
    refine .cons (.lineBreak chars fun hsep => ?_) hreads
    obtain ⟨-, hstart, hprecedes⟩ := (h.separates_iff ps).1 hsep
    rcases hdrop with hdrop | hdrop
    · rw [hdrop] at hstart
      cases hstart
    · exact hprecedes hdrop
  · rw [if_neg hdrop]
    rw [not_or, Bool.not_eq_true] at hdrop
    have hgives : Gives source before ⟨.lineBreak, chars⟩ ps [⟨.newline, loc⟩] := by
      rw [h.loc_eq_after]
      exact .separator chars ((h.separates_iff ps).2 ⟨hopened, hdrop⟩)
    exact .cons hgives hreads

end Tracks

/-- Placed pieces, tidied, are the tokens that they should be.

**Proof sketch.** By the pieces, with what the lexer knows after each of them. Whether a line break
is kept depends on what follows only through the question whether a token does. -/
lemma reads_of_place {atStart : Bool} (hwritten : WrittenEach ps)
    (h : Tracks source before loc opened atStart) (hplace : Token.place loc opened ps = .ok ts) :
    Reads source before ps (Token.tidyFrom atStart ts) := by
  induction ps generalizing before loc opened atStart ts with
  | nil =>
    cases opened with
    | nil =>
      cases hplace
      exact .nil before
    | cons o outer => cases hplace
  | cons p ps ih =>
    have hp := Token.isOpen_of_place hplace p (.head ps)
    rw [Token.place_cons hp] at hplace
    obtain ⟨us, hus, rfl⟩ := Token.map_append_eq_ok.1 hplace
    have hall := all_isNewline_iff hwritten.2 hus
    obtain ⟨kind, chars⟩ := p
    cases kind with
    | token k =>
      have hnl : k.isNewline = false := by
        cases hwritten.1 with
        | token hlexeme =>
          cases k <;> first | rfl | exact absurd rfl hlexeme.ne_newline
      have hreads : Reads source (before ++ [⟨.token k, chars⟩]) ps (Token.tidyFrom false us) :=
        ih hwritten.2 (h.step _ fun _ => by simp [endsWithToken_concat]) hus
      have hgives : Gives source before ⟨.token k, chars⟩ ps [⟨k, loc⟩] := by
        rw [h.loc_eq_after]
        exact .token k chars ps
      simpa [tokens, Token.tidyFrom, hnl] using Reads.cons hgives hreads
    | blank =>
      exact .cons (.blank chars ps) (ih hwritten.2
        (h.step _ fun hopened => by simp [endsWithToken_concat, h.atStart_iff hopened]) hus)
    | comment =>
      exact .cons (.comment chars ps) (ih hwritten.2
        (h.step _ fun hopened => by simp [endsWithToken_concat, h.atStart_iff hopened]) hus)
    | lineBreak =>
      by_cases hopened : opened = []
      · have hreads : Reads source (before ++ [⟨.lineBreak, chars⟩]) ps (Token.tidyFrom true us) :=
          ih hwritten.2 (h.step _ fun _ => by simp [endsWithToken_concat]) hus
        have htokens : tokens loc opened ⟨.lineBreak, chars⟩ = [⟨.newline, loc⟩] := by
          rw [hopened]
          rfl
        rw [htokens]
        exact h.reads_lineBreak hopened chars hall hreads
      · have htokens : tokens loc opened ⟨.lineBreak, chars⟩ = [] := by
          cases opened with
          | nil => exact absurd rfl hopened
          | cons o outer => rfl
        rw [htokens, List.nil_append]
        exact .cons (.lineBreak chars fun hsep => hopened ((h.separates_iff ps).1 hsep).1)
          (ih hwritten.2 (h.step _ fun hnone => absurd hnone hopened) hus)
    | openQuote | openComment => cases hp

end Piece

namespace Token

/-- Every text is cut into pieces without a gap, in one way. Either the tokens are those of the
pieces in their order, each where it starts, and all brackets belong to pairs; or the error is at
the quote, the comment or the bracket that is never closed. In a text of fewer than `2 ^ 32 - 1`
characters, lines and columns are below `2 ^ 32`. -/
theorem lex_partitions (text : String) (source : Option String) :
    (∃ ps : List Piece, ps.flatMap Piece.chars = text.toList ∧ Piece.WrittenEach ps ∧
      (∀ qs : List Piece, qs.flatMap Piece.chars = text.toList → Piece.WrittenEach qs → qs = ps) ∧
      ((∃ ts, lex text source = .ok ts ∧ Piece.Reads source [] ps ts ∧
          Enclosed none (Piece.kinds ps)) ∨
        ∃ e, lex text source = .error e ∧ Piece.FailsWith source ps e)) ∧
    (text.length < UInt32.size - 1 → ∀ before rest, text.toList = before ++ rest →
      (Location.after source before).line < UInt32.size ∧
        (Location.after source before).column < UInt32.size) := by
  refine ⟨⟨Piece.split text.toList, Piece.flatMap_split _, Piece.writtenEach_split _,
    fun qs hqs hwritten => hqs ▸ hwritten.eq_split, ?_⟩, ?_⟩
  · have hwritten := Piece.writtenEach_split text.toList
    have hlex : lex text source = (place (.start source) [] (Piece.split text.toList)).map tidy :=
      rfl
    generalize Piece.split text.toList = ps at hwritten hlex
    have hfails : (∃ e, place (.start source) [] ps = .error e ∧ Piece.FailsWith source ps e) →
        ∃ e, lex text source = .error e ∧ Piece.FailsWith source ps e := by
      rintro ⟨e, he, hfails⟩
      exact ⟨e, by rw [hlex, he]; rfl, hfails⟩
    by_cases hopen : ∃ p ∈ ps, p.kind.isOpen = true
    · exact .inr (hfails (Piece.failsWith_of_isOpen hwritten hopen))
    · have hclosed : ∀ p ∈ ps, p.kind.isOpen = false := by simpa using hopen
      by_cases hnone : openAfter [] (Piece.placed (.start source) ps) = []
      · obtain ⟨us, hus⟩ := (Piece.place_of_closed hclosed _ _).1 hnone
        refine .inl ⟨tidy us, by rw [hlex, hus]; rfl,
          Piece.reads_of_place hwritten (.start source) hus, ?_⟩
        rwa [openAfter_nil_iff, Piece.map_kind_placed] at hnone
      · exact .inr (hfails (Piece.failsWith_of_openAfter hwritten hclosed hnone))
  · intro hlength before rest hsplit
    obtain ⟨hline, hcolumn⟩ := Location.after_le source before
    have hbefore : before.length ≤ text.length := by
      rw [← String.length_toList, hsplit, List.length_append]
      omega
    omega

/-- The last line of a script of two, where something is left open. -/
theorem lex_partitions_second_line :
    "msg(hi)\nmsg(".length < UInt32.size - 1 ∧
      (Location.after (some "s") "msg(hi)\nmsg".toList).line < UInt32.size ∧
      (Location.after (some "s") "msg(hi)\nmsg".toList).column < UInt32.size :=
  have hlength : "msg(hi)\nmsg(".length < UInt32.size - 1 := by decide
  ⟨hlength, (lex_partitions "msg(hi)\nmsg(" (some "s")).2 hlength "msg(hi)\nmsg".toList ['('] rfl⟩

end Token

end CommandScript
