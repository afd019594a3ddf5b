import CommandScript.Proofs.Partition

/-!
# Layout

Between two pieces of a text, a blank or a comment may be inserted without a change to the tokens.
A blank ends every piece that it follows directly, apart from a comment that runs to the end of its
line; and it leaves such a piece as it is, but for a name, which is that of a function only directly
before its parenthesis.

## Main definitions

* `CommandScript.Filler` — what may be inserted.
* `CommandScript.Piece.Gap` — a point of a text where something may be inserted.
* `CommandScript.Piece.Replaces` — characters that may follow a piece in place of others.
* `CommandScript.Piece.Padded` — pieces with blanks and comments inserted.

## Main results

* `CommandScript.Piece.Written.of_head` — how a piece depends on what follows it.
* `CommandScript.Piece.gap_iff` — something may be inserted where one piece ends and another starts.
* `CommandScript.Piece.split_insert` — the pieces of a text with something inserted.
* `CommandScript.Token.place_padded` — blanks and comments leave the kinds of the tokens alone.
* `CommandScript.Token.layout_keeps_kinds` — so does what is inserted into a text.
-/

namespace CommandScript

/-- What may be inserted into a text: a space, or a block comment between two spaces, which ends
with the first mark that closes it. -/
inductive Filler : String → Prop where
  | space : Filler " "
  | comment {body : String} (h : ¬ ['*', '/'] <:+: body.toList ++ ['*']) :
    Filler (" /*" ++ body ++ "*/ ")

namespace Piece

open Token (Lexeme StartsWord)

/-- A comment that runs to the end of its line. -/
def IsLineComment (x : Piece) : Prop := x.kind = .comment ∧ x.chars.head? = some '#'

/-- The name of a function. -/
def IsFunctionName (x : Piece) : Prop := ∃ name, x.kind = .token (.functionName name)

/-- The pieces that a text is cut into. -/
def Cuts (ps : List Piece) (text : List Char) : Prop :=
  ps.flatMap Piece.chars = text ∧ WrittenEach ps

/-- A point of a text, between the characters `p` and `q`, where something may be inserted. It is
not inside the written form of a token or inside a comment, not at the end of a comment that runs to
the end of its line, and not between the name of a function and its parenthesis. -/
structure Gap (p q : List Char) : Prop where
  outside : ∀ us x vs, Cuts (us ++ x :: vs) (p ++ q) →
    (∃ kind, x.kind = .token kind) ∨ x.kind = .comment →
    ¬ ((us.flatMap Piece.chars).length < p.length ∧
      p.length < ((us ++ [x]).flatMap Piece.chars).length)
  not_lineComment : ∀ us x vs, Cuts (us ++ x :: vs) (p ++ q) →
    (us ++ [x]).flatMap Piece.chars = p → ¬ x.IsLineComment
  not_functionName : ∀ us x vs, Cuts (us ++ x :: vs) (p ++ q) →
    (us ++ [x]).flatMap Piece.chars = p → ¬ x.IsFunctionName

/-! ## What follows a piece -/

/-- Some characters start as others do, or with a blank. -/
def Replaces (rest' rest : List Char) : Prop :=
  rest'.head? = rest.head? ∨ rest'.head? = some ' '

namespace Replaces

variable {c : Char} {cs rest rest' : List Char}

lemma head?_eq_some (h : Replaces rest' rest) (hc : c ≠ ' ') (hrest' : rest'.head? = some c) :
    rest.head? = some c := by
  rcases h with h | h
  · rw [← h, hrest']
  · exact absurd (Option.some.inj (hrest'.symm.trans h)) hc

/-- What holds of the first character and of a blank holds of the first character still. -/
lemma forall_cons {P : Char → Prop} (h : Replaces rest' rest) (hblank : P ' ')
    (hrest : ∀ d ds, rest = d :: ds → P d) : ∀ d ds, rest' = d :: ds → P d := by
  rintro d ds rfl
  by_cases hd : d = ' '
  · rw [hd]
    exact hblank
  · obtain ⟨es, hes⟩ := List.head?_eq_some_iff.1 (h.head?_eq_some hd rfl)
    exact hrest d es hes

lemma startsName_eq_false (h : Replaces rest' rest) (hrest : startsName rest = false) :
    startsName rest' = false := by
  rcases h with h | h
  · rw [startsName, h]
    exact hrest
  · rw [startsName, h]
    rfl

/-- A word may start before them if it may before the others. -/
lemma startsWord (h : Replaces rest' rest) (hstart : StartsWord c (cs ++ rest)) :
    StartsWord c (cs ++ rest') := by
  cases cs with
  | cons d cs =>
    exact ⟨hstart.ne_hash, hstart.not_comment, hstart.not_variable, hstart.not_control⟩
  | nil =>
    refine ⟨hstart.ne_hash, ?_, ?_, hstart.not_control⟩
    · rintro ⟨hslash, hstar⟩
      exact hstart.not_comment ⟨hslash, h.head?_eq_some (by decide) hstar⟩
    · rintro ⟨hmark, hname⟩
      refine hstart.not_variable ⟨hmark, by_contra fun hrest => ?_⟩
      have hnone := h.startsName_eq_false (eq_false_of_ne_true hrest)
      exact Bool.false_ne_true (hnone.symm.trans hname)

/-- A token is written so before them if it is before the others, unless it is the name of a
function and they start with something else. -/
lemma lexeme {kind : Token.Kind} (h : Replaces rest' rest) (hlexeme : Lexeme kind cs rest)
    (hsame : (∃ name, kind = .functionName name) → rest'.head? = rest.head?) :
    Lexeme kind cs rest' := by
  cases hlexeme with
  | sign hsign => exact .sign hsign rest'
  | quoted hquote hbody => exact .quoted hquote hbody rest'
  | stray hcontrol hblank => exact .stray hcontrol hblank rest'
  | ivar hne hname hrest => exact .ivar hne hname (h.startsName_eq_false hrest)
  | var hne hname hrest => exact .var hne hname (h.startsName_eq_false hrest)
  | functionName hname =>
    obtain ⟨ds, rfl⟩ := List.head?_eq_some_iff.1 (hsame ⟨_, rfl⟩)
    exact .functionName hname ds
  | word hstart hword hrest hnotName =>
    refine .word (h.startsWord hstart) hword (h.forall_cons rfl hrest) ?_
    rintro ⟨hname, hparen⟩
    exact hnotName ⟨hname, h.head?_eq_some (by decide) hparen⟩

end Replaces

/-- How a piece is written depends on the character that follows it, at most. If that is a blank,
then it makes a difference only to a comment that runs to the end of its line, and to the name of a
function. -/
lemma Written.of_head {x : Piece} {rest rest' : List Char} (h : x.Written rest)
    (hclosed : x.kind.isOpen = false) (hrest : Replaces rest' rest)
    (hsame : x.IsLineComment ∨ x.IsFunctionName → rest'.head? = rest.head?) : x.Written rest' := by
  cases h with
  | lineBreak => exact .lineBreak rest'
  | blank hblank hne => exact .blank hblank hne rest'
  | blockComment hbody => exact .blockComment hbody rest'
  | lineComment hline hends =>
    refine .lineComment hline fun d ds hd => ?_
    have hhead := hsame (.inl ⟨rfl, rfl⟩)
    rw [hd, List.head?_cons, eq_comm, List.head?_eq_some_iff] at hhead
    obtain ⟨es, hes⟩ := hhead
    exact hends d es hes
  | token hlexeme =>
    refine .token (hrest.lexeme hlexeme ?_)
    rintro ⟨name, rfl⟩
    exact hsame (.inr ⟨name, rfl⟩)
  | openQuote | openComment => cases hclosed

/-- Pieces are written so before other pieces, if the last of them is. -/
lemma WrittenEach.append_of_last {us vs ws : List Piece} (h : WrittenEach (us ++ vs))
    (hws : WrittenEach ws) (hclosed : ∀ x ∈ us, x.kind.isOpen = false)
    (hlast : ∀ us' x, us = us' ++ [x] → x.Written (vs.flatMap Piece.chars) →
      x.Written (ws.flatMap Piece.chars)) : WrittenEach (us ++ ws) := by
  induction us with
  | nil => exact hws
  | cons x us ih =>
    obtain ⟨hx, hus⟩ := h
    rw [List.forall_mem_cons] at hclosed
    refine ⟨?_, ih hus hclosed.2 fun us' y hy => hlast (x :: us') y (by rw [hy]; rfl)⟩
    cases us with
    | nil => exact hlast [] x rfl hx
    | cons y us =>
      have hhead : ((y :: us ++ ws).flatMap Piece.chars).head? =
          ((y :: us ++ vs).flatMap Piece.chars).head? := by
        obtain ⟨c, cs, hy⟩ := List.exists_cons_of_ne_nil hus.1.chars_ne_nil
        simp [hy]
      exact hx.of_head hclosed.1 (.inl hhead) fun _ => hhead

/-! ## Points between pieces -/

/-- A point of a text is where one piece ends and another one starts, or it is inside a piece. -/
lemma exists_cut {ps : List Piece} {p q : List Char} (h : ps.flatMap Piece.chars = p ++ q) :
    (∃ us vs, ps = us ++ vs ∧ us.flatMap Piece.chars = p ∧ vs.flatMap Piece.chars = q) ∨
      ∃ us x vs, ps = us ++ x :: vs ∧ (us.flatMap Piece.chars).length < p.length ∧
        p.length < ((us ++ [x]).flatMap Piece.chars).length := by
  induction ps generalizing p with
  | nil =>
    obtain ⟨rfl, rfl⟩ := List.append_eq_nil_iff.1 h.symm
    exact .inl ⟨[], [], rfl, rfl, rfl⟩
  | cons x ps ih =>
    rw [List.flatMap_cons, List.append_eq_append_iff] at h
    rcases h with ⟨p', rfl, h⟩ | ⟨cs, hx, rfl⟩
    · rcases ih h with ⟨us, vs, rfl, rfl, rfl⟩ | ⟨us, y, vs, rfl, hbefore, hafter⟩
      · exact .inl ⟨x :: us, vs, rfl, rfl, rfl⟩
      · refine .inr ⟨x :: us, y, vs, rfl, ?_, ?_⟩
        · simpa using hbefore
        · simpa using hafter
    · cases p with
      | nil => exact .inl ⟨[], x :: ps, rfl, rfl, by simpa using hx⟩
      | cons c p =>
        cases cs with
        | nil => exact .inl ⟨[x], ps, rfl, by simpa using hx, rfl⟩
        | cons d cs => exact .inr ⟨[], x, ps, rfl, by simp, by simp [hx]⟩

/-- The pieces of a text are those that the lexer cuts it into. -/
lemma cuts_iff {ps : List Piece} {text : List Char} : Cuts ps text ↔ split text = ps := by
  constructor
  · rintro ⟨rfl, hwritten⟩
    exact hwritten.eq_split.symm
  · rintro rfl
    exact ⟨flatMap_split text, writtenEach_split text⟩

/-- Written pieces without characters in front of others are none. -/
lemma eq_nil_of_flatMap_eq {us vs : List Piece} (h : WrittenEach (us ++ vs))
    (hchars : us.flatMap Piece.chars = []) : us = [] := by
  cases us with
  | nil => rfl
  | cons u us => exact absurd (List.append_eq_nil_iff.1 hchars).1 h.1.chars_ne_nil

/-- Pieces of the same characters at the front of a text are the same. -/
lemma eq_of_flatMap_eq {us vs us' vs' : List Piece} (hwritten : WrittenEach (us ++ vs))
    (h : us ++ vs = us' ++ vs') (hchars : us.flatMap Piece.chars = us'.flatMap Piece.chars) :
    us = us' := by
  -- what one of them has more has no characters
  rcases List.append_eq_append_iff.1 h with ⟨ws, rfl, rfl⟩ | ⟨ws, rfl, rfl⟩
  · rw [eq_nil_of_flatMap_eq hwritten.of_append (by simpa using hchars), List.append_nil]
  · rw [List.append_assoc] at hwritten
    rw [eq_nil_of_flatMap_eq hwritten.of_append (by simpa using hchars), List.append_nil]

/-- A point where one piece ends is not inside another one. -/
lemma not_inside {us vs us' vs' : List Piece} {x : Piece} (h : us ++ vs = us' ++ x :: vs') :
    ¬ ((us'.flatMap Piece.chars).length < (us.flatMap Piece.chars).length ∧
      (us.flatMap Piece.chars).length < ((us' ++ [x]).flatMap Piece.chars).length) := by
  rintro ⟨hbefore, hafter⟩
  rcases List.append_eq_append_iff.1 h with ⟨ws, rfl, -⟩ | ⟨ws, rfl, hws⟩
  · rw [List.flatMap_append, List.length_append] at hbefore
    omega
  · cases ws with
    | nil => simp at hbefore
    | cons w ws =>
      obtain ⟨rfl, -⟩ := List.cons.inj hws
      simp only [List.flatMap_append, List.flatMap_cons, List.flatMap_nil, List.append_nil,
        List.length_append] at hafter
      omega

/-- Something may be inserted into a text exactly where one piece ends and another one starts, if
the first is no comment that runs to the end of its line, and no name of a function. -/
lemma gap_iff {p q : List Char} (hclosed : ∀ x ∈ split (p ++ q), x.kind.isOpen = false) :
    Gap p q ↔ ∃ us vs, split (p ++ q) = us ++ vs ∧ us.flatMap Piece.chars = p ∧
      vs.flatMap Piece.chars = q ∧
      ∀ us' x, us = us' ++ [x] → ¬ x.IsLineComment ∧ ¬ x.IsFunctionName := by
  have hwritten := writtenEach_split (p ++ q)
  constructor
  · intro h
    rcases exists_cut (flatMap_split (p ++ q)) with
      ⟨us, vs, hsplit, hp, hq⟩ | ⟨us, x, vs, hsplit, hinside⟩
    · refine ⟨us, vs, hsplit, hp, hq, ?_⟩
      rintro us' x rfl
      have hcuts : Cuts (us' ++ x :: vs) (p ++ q) := cuts_iff.2 (by simpa using hsplit)
      exact ⟨h.not_lineComment us' x vs hcuts hp, h.not_functionName us' x vs hcuts hp⟩
    · have hcuts := cuts_iff.2 hsplit
      rw [hsplit] at hwritten hclosed
      have hopen := hclosed x (by simp)
      have hlength : x.chars.length ≠ 1 := by
        rw [List.flatMap_append, List.flatMap_singleton, List.length_append] at hinside
        omega
      have hx := hwritten.of_append.1
      generalize vs.flatMap Piece.chars = rest at hx
      -- a line break or a blank has no inside
      cases hx with
      | lineBreak | blank => exact absurd rfl hlength
      | lineComment | blockComment => exact absurd hinside (h.outside us _ vs hcuts (.inr rfl))
      | token => exact absurd hinside (h.outside us _ vs hcuts (.inl ⟨_, rfl⟩))
      | openQuote | openComment => cases hopen
  · rintro ⟨us, vs, hsplit, hp, hq, hlast⟩
    rw [hsplit] at hwritten
    have hend : ∀ us' x vs', Cuts (us' ++ x :: vs') (p ++ q) →
        (us' ++ [x]).flatMap Piece.chars = p → us = us' ++ [x] := by
      intro us' x vs' hcuts hp'
      have hsame : us ++ vs = us' ++ [x] ++ vs' := by
        rw [← hsplit, cuts_iff.1 hcuts, List.append_assoc, List.singleton_append]
      exact eq_of_flatMap_eq hwritten hsame (hp.trans hp'.symm)
    refine ⟨fun us' x vs' hcuts _ => ?_, fun us' x vs' hcuts hp' => ?_,
      fun us' x vs' hcuts hp' => ?_⟩
    · rw [← hp]
      exact not_inside (hsplit.symm.trans (cuts_iff.1 hcuts))
    · exact (hlast us' x (hend us' x vs' hcuts hp')).1
    · exact (hlast us' x (hend us' x vs' hcuts hp')).2

/-! ## Pieces with something inserted -/

/-- Blanks and comments inserted between pieces. -/
inductive Padded : List Piece → List Piece → Prop where
  | nil : Padded [] []
  | cons (x : Piece) {ps qs : List Piece} (h : Padded ps qs) : Padded (x :: ps) (x :: qs)
  | filler {x : Piece} {ps qs : List Piece} (hx : x.kind = .blank ∨ x.kind = .comment)
    (h : Padded ps qs) : Padded ps (x :: qs)

lemma Padded.refl : ∀ ps : List Piece, Padded ps ps
  | [] => .nil
  | x :: ps => .cons x (refl ps)

lemma Padded.insert {gs : List Piece} (hgs : ∀ g ∈ gs, g.kind = .blank ∨ g.kind = .comment)
    (us vs : List Piece) : Padded (us ++ vs) (us ++ (gs ++ vs)) := by
  induction us with
  | cons x us ih => exact .cons x ih
  | nil =>
    induction gs with
    | nil => exact .refl vs
    | cons g gs ih =>
      rw [List.forall_mem_cons] at hgs
      exact .filler hgs.1 (ih hgs.2)

/-- What may be inserted starts with a blank, and it is made of blanks and comments wherever it
stands. -/
lemma exists_pieces_of_filler {filler : String} (h : Filler filler) :
    ∃ gs : List Piece, gs.flatMap Piece.chars = filler.toList ∧
      filler.toList.head? = some ' ' ∧ (∀ g ∈ gs, g.kind = .blank ∨ g.kind = .comment) ∧
      ∀ vs, WrittenEach vs → WrittenEach (gs ++ vs) := by
  have hblank : ∀ rest, Written ⟨.blank, [' ']⟩ rest := .blank rfl (by decide)
  cases h with
  | space =>
    exact ⟨[⟨.blank, [' ']⟩], rfl, rfl, by simp, fun vs hvs => ⟨hblank _, hvs⟩⟩
  | @comment body h =>
    refine ⟨[⟨.blank, [' ']⟩, ⟨.comment, '/' :: '*' :: (body.toList ++ ['*', '/'])⟩,
      ⟨.blank, [' ']⟩], by simp, by simp, by simp, fun vs hvs => ?_⟩
    exact ⟨hblank _, .blockComment h _, hblank _, hvs⟩

/-- What is inserted into a text is inserted between its pieces. -/
lemma split_insert {p q : List Char} {filler : String}
    (hclosed : ∀ x ∈ split (p ++ q), x.kind.isOpen = false) (hgap : Gap p q)
    (hfiller : Filler filler) :
    Padded (split (p ++ q)) (split (p ++ (filler.toList ++ q))) := by
  obtain ⟨us, vs, hsplit, hp, hq, hlast⟩ := (gap_iff hclosed).1 hgap
  obtain ⟨gs, hchars, hhead, hkinds, hgs⟩ := exists_pieces_of_filler hfiller
  have hwritten := writtenEach_split (p ++ q)
  rw [hsplit] at hwritten hclosed ⊢
  have hcuts : Cuts (us ++ (gs ++ vs)) (p ++ (filler.toList ++ q)) := by
    refine ⟨by simp only [List.flatMap_append, hp, hq, hchars], ?_⟩
    refine hwritten.append_of_last (hgs vs hwritten.of_append)
      (fun x hx => hclosed x (List.mem_append_left vs hx)) fun us' x hus hx => ?_
    have hblank : ((gs ++ vs).flatMap Piece.chars).head? = some ' ' := by
      rw [List.flatMap_append, hchars, List.head?_append, hhead]
      rfl
    obtain ⟨hcomment, hfunction⟩ := hlast us' x hus
    exact hx.of_head (hclosed x (by simp [hus])) (.inr hblank) fun h =>
      absurd h (not_or.2 ⟨hcomment, hfunction⟩)
  rw [cuts_iff.1 hcuts]
  exact .insert hkinds us vs

end Piece

/-! ## The tokens of a text with something inserted -/

namespace Token

variable {loc : Location} {opened opened' : List Opener} {ts us : List Token}

/-- Which brackets are open depends on those that were open, but not on their places. -/
lemma map_char_brackets (kind : Kind) (loc loc' : Location)
    (h : opened'.map Opener.char = opened.map Opener.char) :
    (brackets kind loc' opened').map Opener.char = (brackets kind loc opened).map Opener.char := by
  cases opened with
  | nil =>
    obtain rfl := List.map_eq_nil_iff.1 h
    cases kind <;> rfl
  | cons o outer =>
    obtain ⟨o', outer', rfl, hchar, houter⟩ := List.map_eq_cons_iff.1 h
    cases kind <;> simp only [brackets, hchar] <;> (try split) <;> simp [hchar, houter]

/-- Blanks and comments between pieces leave the kinds of the tokens alone, wherever the pieces
start and wherever the brackets around them do. -/
lemma place_padded {ps qs : List Piece} (h : Piece.Padded ps qs)
    (hopened : opened'.map Opener.char = opened.map Opener.char)
    (hplace : place loc opened ps = .ok ts) (loc' : Location) :
    ∃ us, place loc' opened' qs = .ok us ∧ us.map Token.kind = ts.map Token.kind := by
  induction h generalizing loc loc' opened opened' ts with
  | nil =>
    cases opened with
    | cons o outer => cases hplace
    | nil =>
      cases hplace
      obtain rfl := List.map_eq_nil_iff.1 hopened
      exact ⟨[], rfl, rfl⟩
  | cons x _ ih =>
    have hx := isOpen_of_place hplace x (.head _)
    rw [place_cons hx] at hplace
    obtain ⟨vs, hvs, rfl⟩ := map_append_eq_ok.1 hplace
    have hopens :
        (x.opens loc' opened').map Opener.char = (x.opens loc opened).map Opener.char := by
      unfold Piece.opens
      split
      · exact map_char_brackets _ loc loc' hopened
      · exact hopened
    have htokens :
        (x.tokens loc' opened').map Token.kind = (x.tokens loc opened).map Token.kind := by
      have hempty : opened'.isEmpty = opened.isEmpty := by
        rw [← List.isEmpty_map (f := Opener.char), hopened, List.isEmpty_map]
      unfold Piece.tokens
      split
      · rfl
      · rw [hempty]
        split <;> rfl
      · rfl
    obtain ⟨us, hus, hkinds⟩ := ih hopens hvs (loc'.advance x.chars)
    refine ⟨x.tokens loc' opened' ++ us, ?_, ?_⟩
    · rw [place_cons hx, hus]
      rfl
    · rw [List.map_append, htokens, hkinds, List.map_append]
  | @filler x _ _ hkind _ ih =>
    obtain ⟨us, hus, hkinds⟩ := ih hopened hplace (loc'.advance x.chars)
    refine ⟨us, ?_, hkinds⟩
    obtain ⟨kind, chars⟩ := x
    rcases hkind with rfl | rfl <;> exact hus

/-- Which line breaks are dropped depends on the kinds of the tokens only. -/
lemma map_kind_tidy (h : us.map Token.kind = ts.map Token.kind) :
    (tidy us).map Token.kind = (tidy ts).map Token.kind := by
  have hforget : ∀ ts : List Token, (tidy ts).map Token.kind =
      (tidy ((ts.map Token.kind).map (Token.mk · .unknown))).map Token.kind := by
    intro ts
    have hmap : (ts.map Token.kind).map (Token.mk · .unknown) =
        ts.map (mapLoc fun _ => .unknown) := by
      rw [List.map_map]
      rfl
    rw [hmap, tidy, tidy, tidyFrom_mapLoc, List.map_map]
    rfl
  rw [hforget us, hforget ts, h]

/-- A text that can be taken apart can still be when a blank, or a comment between two blanks, is
inserted where the layout may change, and the kinds of the tokens are the same. -/
theorem layout_keeps_kinds {p q filler : String} {source : Option String} {ts : List Token}
    (hlex : lex (p ++ q) source = .ok ts) (hgap : Piece.Gap p.toList q.toList)
    (hfiller : Filler filler) :
    ∃ us, lex (p ++ filler ++ q) source = .ok us ∧ us.map Token.kind = ts.map Token.kind := by
  obtain ⟨vs, hvs, rfl⟩ := exists_place_of_lex hlex
  rw [String.toList_append] at hvs
  obtain ⟨us, hus, hkinds⟩ :=
    place_padded (Piece.split_insert (isOpen_of_place hvs) hgap hfiller) rfl hvs (.start source)
  refine ⟨tidy us, ?_, map_kind_tidy hkinds⟩
  rw [lex, String.toList_append, String.toList_append, List.append_assoc, hus]
  rfl

/-- Something may be inserted behind the variable of a call on the first of two lines. -/
lemma gap_behind_ivar : Piece.Gap "msg(@x".toList ")\nmsg('a')".toList := by
  have hsplit : Piece.split ("msg(@x".toList ++ ")\nmsg('a')".toList) =
      [⟨.token (.functionName "msg"), ['m', 's', 'g']⟩, ⟨.token .openParen, ['(']⟩,
        ⟨.token (.ivar "x"), ['@', 'x']⟩] ++
      [⟨.token .closeParen, [')']⟩, ⟨.lineBreak, ['\n']⟩,
        ⟨.token (.functionName "msg"), ['m', 's', 'g']⟩, ⟨.token .openParen, ['(']⟩,
        ⟨.token (.quoted "a"), ['\'', 'a', '\'']⟩, ⟨.token .closeParen, [')']⟩] := by
    with_unfolding_all rfl
  refine (Piece.gap_iff (by rw [hsplit]; simp [Piece.Kind.isOpen])).2
    ⟨_, _, hsplit, rfl, rfl, fun us x hus => ?_⟩
  have hlast : some (⟨.token (.ivar "x"), ['@', 'x']⟩ : Piece) = some x := by
    simpa using congrArg List.getLast? hus
  obtain rfl := Option.some.inj hlast
  simp [Piece.IsLineComment, Piece.IsFunctionName]

/-- A comment over two lines is inserted into the first of two calls. -/
theorem layout_keeps_kinds_comment :
    ∃ ts, lex ("msg(@x" ++ ")\nmsg('a')") none = .ok ts ∧
      Piece.Gap "msg(@x".toList ")\nmsg('a')".toList ∧ Filler (" /*" ++ "* /\n*" ++ "*/ ") ∧
      ∃ us, lex ("msg(@x" ++ (" /*" ++ "* /\n*" ++ "*/ ") ++ ")\nmsg('a')") none = .ok us ∧
        us.map Token.kind = ts.map Token.kind := by
  have hlex : lex ("msg(@x" ++ ")\nmsg('a')") none =
      .ok [⟨.functionName "msg", ⟨none, 1, 1⟩⟩, ⟨.openParen, ⟨none, 1, 4⟩⟩,
        ⟨.ivar "x", ⟨none, 1, 5⟩⟩, ⟨.closeParen, ⟨none, 1, 7⟩⟩, ⟨.newline, ⟨none, 1, 8⟩⟩,
        ⟨.functionName "msg", ⟨none, 2, 1⟩⟩, ⟨.openParen, ⟨none, 2, 4⟩⟩,
        ⟨.quoted "a", ⟨none, 2, 5⟩⟩, ⟨.closeParen, ⟨none, 2, 8⟩⟩] := by with_unfolding_all rfl
  have hfiller : Filler (" /*" ++ "* /\n*" ++ "*/ ") := .comment (by decide)
  exact ⟨_, hlex, gap_behind_ivar, hfiller, layout_keeps_kinds hlex gap_behind_ivar hfiller⟩

end Token

end CommandScript
