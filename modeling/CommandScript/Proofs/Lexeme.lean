import CommandScript.Proofs.Lines
import CommandScript.Proofs.Printer
import Mathlib.Data.List.TakeWhile

/-!
# The written forms of pieces

What a piece of a script text looks like, said without the lexer. A blank is a single character. A
comment runs to the end of its line, or to the first mark that closes it. A quoted text runs to the
first quote that is not behind a backslash, and a word to the first character that ends words. A
quote or a block comment that nothing closes runs to the end of the text. The lexer cuts every text
into such pieces, and there is no other way to do so.

## Main definitions

* `CommandScript.Escape.Body` — the characters between two quotes.
* `CommandScript.Token.Lexeme` — the written form of a token.
* `CommandScript.Piece.Written`, `CommandScript.Piece.WrittenEach` — a piece directly before some
  characters, and pieces one after another.

## Main results

* `CommandScript.Piece.written_first` — the first piece of a text is written so.
* `CommandScript.Piece.writtenEach_split` — all pieces of a text are written so.
* `CommandScript.Piece.WrittenEach.eq_split` — a text is cut into such pieces in one way only.
-/

namespace CommandScript

/-! ## Quotes and comments -/

namespace Escape

/-- The characters between two quotes `q`. A backslash takes the character behind it along, and else
there is no quote and no backslash. -/
inductive Body (q : Char) : List Char → Prop where
  | nil : Body q []
  | plain {c : Char} {cs : List Char} (hquote : c ≠ q) (hescape : c ≠ '\\') (h : Body q cs) :
    Body q (c :: cs)
  | escape (e : Char) {cs : List Char} (h : Body q cs) : Body q ('\\' :: e :: cs)

variable {q : Char} {cs body rest : List Char}

/-- What is found between two quotes is written so. -/
lemma body_of_body? (h : body? q cs = some (body, rest)) : Body q body := by
  fun_induction body? q cs generalizing body with
  | case1 => cases h
  | case2 e cs ih =>
    obtain ⟨p, hp, he⟩ := Option.map_eq_some_iff.1 h
    obtain ⟨rfl, rfl⟩ := Prod.mk.injEq .. ▸ he
    exact .escape e (ih hp)
  | case3 => cases h
  | case4 cs _ _ =>
    simp only [Option.some.injEq, Prod.mk.injEq] at h
    obtain ⟨rfl, rfl⟩ := h
    exact .nil
  | case5 c cs _ hescape hquote ih =>
    obtain ⟨p, hp, he⟩ := Option.map_eq_some_iff.1 h
    obtain ⟨rfl, rfl⟩ := Prod.mk.injEq .. ▸ he
    exact .plain hquote hescape (ih hp)

/-- What is written between two quotes is found there. -/
lemma Body.body?_append (hq : q ≠ '\\') (h : Body q body) (rest : List Char) :
    body? q (body ++ q :: rest) = some (body, rest) := by
  induction h with
  | nil =>
    rw [List.nil_append, body?, if_neg hq, if_pos rfl]
    exact fun e _ h _ => hq h
  | plain hquote hescape _ ih =>
    rw [List.cons_append, body?, if_neg hescape, if_neg hquote, ih, Option.map_some]
    exact fun e _ h _ => hescape h
  | escape e _ ih => rw [List.cons_append, List.cons_append, body?, ih, Option.map_some]

end Escape

namespace Piece

variable {c : Char} {cs body rest : List Char}

/-- The text of a block comment ends with the first mark that closes one. -/
lemma commentBody?_eq_some (h : commentBody? cs = some (body, rest)) :
    ∃ inner, body = inner ++ ['*', '/'] ∧ ¬ ['*', '/'] <:+: inner ++ ['*'] := by
  fun_induction commentBody? cs generalizing body with
  | case1 => cases h
  | case2 cs =>
    simp only [Option.some.injEq, Prod.mk.injEq] at h
    obtain ⟨rfl, rfl⟩ := h
    exact ⟨[], rfl, fun hin => absurd hin.length_le (by simp)⟩
  | case3 c cs hc ih =>
    obtain ⟨p, hp, he⟩ := Option.map_eq_some_iff.1 h
    obtain ⟨rfl, rfl⟩ := Prod.mk.injEq .. ▸ he
    obtain ⟨inner, hinner, hnone⟩ := ih hp
    refine ⟨c :: inner, by rw [hinner, List.cons_append], fun hin => ?_⟩
    rw [List.cons_append, List.infix_cons_iff] at hin
    rcases hin with hfirst | hlater
    · -- a mark at the front would have closed the comment
      obtain ⟨rfl, hslash⟩ := List.cons_prefix_cons.1 hfirst
      rcases inner with _ | ⟨d, inner⟩
      · simp at hslash
      · obtain ⟨rfl, -⟩ := List.cons_prefix_cons.1 hslash
        rw [commentBody?_append hp, hinner] at hc
        exact hc _ rfl rfl
    · exact hnone hlater

/-- A block comment that is not closed holds no mark that closes one. -/
lemma commentBody?_eq_none (h : commentBody? cs = none) : ¬ ['*', '/'] <:+: cs := by
  fun_induction commentBody? cs with
  | case1 => exact fun hin => absurd hin.length_le (by simp)
  | case2 cs => cases h
  | case3 c cs hc ih =>
    rw [Option.map_eq_none_iff] at h
    rw [List.infix_cons_iff, not_or]
    refine ⟨fun hfirst => ?_, ih h⟩
    obtain ⟨rfl, hslash⟩ := List.cons_prefix_cons.1 hfirst
    obtain ⟨ds, rfl⟩ := hslash
    exact hc ds rfl rfl

end Piece

/-! ## Written forms -/

namespace Token

open Piece (isNameChar isName endsWord startsName wordKind)

/-- The tokens that are written as a single sign. -/
def signs : List (Char × Kind) :=
  [('(', .openParen), (')', .closeParen), ('[', .openBracket), (']', .closeBracket), (',', .comma)]

/-- A word may start with these characters: they are no comment, no variable and no control
character. -/
structure StartsWord (c : Char) (cs : List Char) : Prop where
  ne_hash : c ≠ '#'
  not_comment : ¬ (c = '/' ∧ cs.head? = some '*')
  not_variable : ¬ ((c = '@' ∨ c = '$') ∧ startsName cs = true)
  not_control : Text.isControl c = false

/-- The written form of a token, directly before the characters `rest`. -/
inductive Lexeme : Kind → List Char → (rest : List Char) → Prop where
  /-- A bracket or a comma. -/
  | sign {c : Char} {kind : Kind} (h : (c, kind) ∈ signs) (rest : List Char) : Lexeme kind [c] rest
  /-- A text between two quotes of the same sort. -/
  | quoted {q : Char} {body : List Char} (hquote : q = '"' ∨ q = '\'') (h : Escape.Body q body)
    (rest : List Char) :
    Lexeme (.quoted (String.ofList (Escape.undo body))) (q :: (body ++ [q])) rest
  /-- A script variable: all characters of a name that follow the mark. -/
  | ivar {name rest : List Char} (hne : name ≠ []) (h : ∀ c ∈ name, isNameChar c = true)
    (hrest : startsName rest = false) : Lexeme (.ivar (String.ofList name)) ('@' :: name) rest
  /-- A variable of the host: all characters of a name that follow the mark. -/
  | var {name rest : List Char} (hne : name ≠ []) (h : ∀ c ∈ name, isNameChar c = true)
    (hrest : startsName rest = false) : Lexeme (.var (String.ofList name)) ('$' :: name) rest
  /-- A control character that is no blank. -/
  | stray {c : Char} (hcontrol : Text.isControl c = true) (hblank : Text.isBlank c = false)
    (rest : List Char) : Lexeme (.stray c) [c] rest
  /-- A name directly before an opening parenthesis. -/
  | functionName {cs : List Char} (h : isName cs = true) (rest : List Char) :
    Lexeme (.functionName (String.ofList cs)) cs ('(' :: rest)
  /-- All characters up to one that ends a word, if they are no such name. -/
  | word {c : Char} {cs rest : List Char} (hstart : StartsWord c (cs ++ rest))
    (h : ∀ d ∈ c :: cs, endsWord d = false) (hrest : ∀ d ds, rest = d :: ds → endsWord d = true)
    (hname : ¬ (isName (c :: cs) = true ∧ rest.head? = some '(')) :
    Lexeme (wordKind (c :: cs)) (c :: cs) rest

/-- No token is written as a line break. -/
lemma Lexeme.ne_newline {kind : Kind} {cs rest : List Char} (h : Lexeme kind cs rest) :
    kind ≠ .newline := by
  cases h with
  | sign h => rintro rfl; simp [signs] at h
  | word =>
    unfold wordKind
    split <;> simp
  | _ => simp

/-- The written form of a token has a character. -/
lemma Lexeme.ne_nil {kind : Kind} {cs rest : List Char} (h : Lexeme kind cs rest) : cs ≠ [] := by
  cases h with
  | functionName h => rintro rfl; cases h
  | _ => simp

end Token

namespace Piece

open Token (Lexeme StartsWord)

/-- A piece of a script text, directly before the characters `rest`. -/
inductive Written : Piece → (rest : List Char) → Prop where
  | lineBreak (rest : List Char) : Written ⟨.lineBreak, ['\n']⟩ rest
  | blank {c : Char} (h : Text.isBlank c = true) (hne : c ≠ '\n') (rest : List Char) :
    Written ⟨.blank, [c]⟩ rest
  /-- A comment up to the end of its line. -/
  | lineComment {cs rest : List Char} (h : '\n' ∉ cs) (hrest : ∀ d ds, rest = d :: ds → d = '\n') :
    Written ⟨.comment, '#' :: cs⟩ rest
  /-- A comment up to the first mark that closes it. -/
  | blockComment {cs : List Char} (h : ¬ ['*', '/'] <:+: cs ++ ['*']) (rest : List Char) :
    Written ⟨.comment, '/' :: '*' :: (cs ++ ['*', '/'])⟩ rest
  | token {kind : Token.Kind} {cs rest : List Char} (h : Lexeme kind cs rest) :
    Written ⟨.token kind, cs⟩ rest
  /-- A quote that no later one closes. -/
  | openQuote {q : Char} {cs : List Char} (hquote : q = '"' ∨ q = '\'')
    (h : ∀ body rest, cs = body ++ q :: rest → ¬ Escape.Body q body) :
    Written ⟨.openQuote, q :: cs⟩ []
  /-- A block comment that no later mark closes. -/
  | openComment {cs : List Char} (h : ¬ ['*', '/'] <:+: cs) :
    Written ⟨.openComment, '/' :: '*' :: cs⟩ []

/-- Pieces one after another, each of which is written so before those that follow it. -/
def WrittenEach : List Piece → Prop
  | [] => True
  | p :: ps => p.Written (ps.flatMap Piece.chars) ∧ WrittenEach ps

variable {c : Char} {cs rest : List Char}

/-- A piece has a character. -/
lemma Written.chars_ne_nil {p : Piece} (h : p.Written rest) : p.chars ≠ [] := by
  cases h with
  | token h => exact h.ne_nil
  | _ => simp

/-! ## How the lexer cuts -/

/-- What is left after a run of characters does not go on with the run. -/
lemma eq_false_of_dropWhile {f : Char → Bool} {d : Char} {ds : List Char}
    (h : cs.dropWhile f = d :: ds) : f d = false := by
  have hhead := List.head?_dropWhile_not f cs
  rw [h] at hhead
  simpa using hhead

lemma written_lineComment (cs : List Char) :
    (lineComment '#' cs).1.Written (lineComment '#' cs).2 := by
  refine .lineComment (fun hmem => ?_) fun d ds hd => ?_
  · simpa using List.mem_takeWhile_imp hmem
  · simpa using eq_false_of_dropWhile hd

lemma written_blockComment (h : cs.head? = some '*') :
    (blockComment '/' cs).1.Written (blockComment '/' cs).2 := by
  obtain ⟨ds, rfl⟩ := List.head?_eq_some_iff.1 h
  cases hbody : commentBody? ds with
  | none =>
    simp only [blockComment, List.tail_cons, hbody]
    exact .openComment (commentBody?_eq_none hbody)
  | some p =>
    obtain ⟨body, rest⟩ := p
    obtain ⟨inner, rfl, hnone⟩ := commentBody?_eq_some hbody
    simp only [blockComment, List.tail_cons, hbody]
    exact .blockComment hnone rest

lemma written_quote (h : c = '"' ∨ c = '\'') : (quote c cs).1.Written (quote c cs).2 := by
  have hescape : c ≠ '\\' := by
    rintro rfl
    rcases h with h | h <;> cases h
  cases hbody : Escape.body? c cs with
  | none =>
    simp only [quote, hbody]
    refine .openQuote h fun body rest hcs hwritten => ?_
    rw [hcs, hwritten.body?_append hescape] at hbody
    cases hbody
  | some p =>
    simp only [quote, hbody]
    exact .token (.quoted h (Escape.body_of_body? hbody) p.2)

/-- The run of name characters behind the mark of a variable. -/
lemma name_of_startsName (h : startsName cs = true) :
    cs.takeWhile isNameChar ≠ [] ∧ (∀ d ∈ cs.takeWhile isNameChar, isNameChar d = true) ∧
      startsName (cs.dropWhile isNameChar) = false := by
  refine ⟨?_, fun d hd => List.mem_takeWhile_imp hd, ?_⟩
  · cases cs with
    | nil => cases h
    | cons d ds =>
      have hd : isNameChar d = true := h
      simp [hd]
  · cases hrest : cs.dropWhile isNameChar with
    | nil => rfl
    | cons d ds => exact eq_false_of_dropWhile hrest

lemma written_word (hstart : StartsWord c cs) (hc : endsWord c = false) :
    (word c cs).1.Written (word c cs).2 := by
  simp only [word]
  have hspan : cs.takeWhile (!endsWord ·) ++ cs.dropWhile (!endsWord ·) = cs :=
    List.takeWhile_append_dropWhile
  split
  · next hname =>
    rw [Bool.and_eq_true, beq_iff_eq, List.head?_eq_some_iff] at hname
    obtain ⟨hname, rest, hrest⟩ := hname
    rw [hrest]
    exact .token (.functionName hname rest)
  · next hname =>
    refine .token (.word (hspan.symm ▸ hstart) (fun d hd => ?_) (fun d ds hd => ?_) ?_)
    · rcases List.mem_cons.1 hd with rfl | hd
      · exact hc
      · simpa using List.mem_takeWhile_imp hd
    · simpa using eq_false_of_dropWhile hd
    · simpa using hname

/-- The first piece of a text is written as it should be. -/
lemma written_first (c : Char) (cs : List Char) : (first c cs).1.Written (first c cs).2 := by
  have hsign : ∀ {kind : Token.Kind}, (c, kind) ∈ Token.signs →
      (single kind c cs).1.Written (single kind c cs).2 := fun h => .token (.sign h cs)
  rw [first]
  by_cases hbreak : c = '\n'
  · rw [if_pos hbreak, hbreak]
    exact .lineBreak cs
  rw [if_neg hbreak]
  by_cases hblank : Text.isBlank c = true
  · rw [if_pos hblank]
    exact .blank hblank hbreak cs
  rw [if_neg hblank]
  by_cases hhash : c = '#'
  · rw [if_pos hhash, hhash]
    exact written_lineComment cs
  rw [if_neg hhash]
  by_cases hslash : c = '/' ∧ cs.head? = some '*'
  · rw [if_pos hslash, hslash.1]
    exact written_blockComment hslash.2
  rw [if_neg hslash]
  by_cases hquote : c = '"' ∨ c = '\''
  · rw [if_pos hquote]
    exact written_quote hquote
  rw [if_neg hquote]
  by_cases hopen : c = '('
  · rw [if_pos hopen]
    exact hsign (by simp [Token.signs, hopen])
  rw [if_neg hopen]
  by_cases hclose : c = ')'
  · rw [if_pos hclose]
    exact hsign (by simp [Token.signs, hclose])
  rw [if_neg hclose]
  by_cases hopen' : c = '['
  · rw [if_pos hopen']
    exact hsign (by simp [Token.signs, hopen'])
  rw [if_neg hopen']
  by_cases hclose' : c = ']'
  · rw [if_pos hclose']
    exact hsign (by simp [Token.signs, hclose'])
  rw [if_neg hclose']
  by_cases hcomma : c = ','
  · rw [if_pos hcomma]
    exact hsign (by simp [Token.signs, hcomma])
  rw [if_neg hcomma]
  by_cases hivar : c = '@' ∧ startsName cs = true
  · obtain ⟨hne, hall, hrest⟩ := name_of_startsName hivar.2
    rw [if_pos hivar, hivar.1]
    exact .token (.ivar hne hall hrest)
  rw [if_neg hivar]
  by_cases hvar : c = '$' ∧ startsName cs = true
  · obtain ⟨hne, hall, hrest⟩ := name_of_startsName hvar.2
    rw [if_pos hvar, hvar.1]
    exact .token (.var hne hall hrest)
  rw [if_neg hvar]
  by_cases hcontrol : Text.isControl c = true
  · rw [if_pos hcontrol]
    exact .token (.stray hcontrol (eq_false_of_ne_true hblank) cs)
  rw [if_neg hcontrol]
  refine written_word ⟨hhash, hslash, ?_, eq_false_of_ne_true hcontrol⟩ ?_
  · rintro ⟨rfl | rfl, hname⟩
    · exact hivar ⟨rfl, hname⟩
    · exact hvar ⟨rfl, hname⟩
  · rw [not_or] at hquote
    simp [endsWord, hblank, hquote, hopen, hclose, hopen', hclose', hcomma]

/-- The pieces of a text are written as they should be. -/
lemma writtenEach_split (cs : List Char) : WrittenEach (split cs) := by
  fun_induction split cs with
  | case1 => exact trivial
  | case2 c cs ih => exact ⟨by rw [flatMap_split]; exact written_first c cs, ih⟩

/-! ## There is no other way to cut -/

/-- A run of characters ends where the rest does not go on with it. -/
lemma span_append {f : Char → Bool} (h : ∀ d ∈ cs, f d = true)
    (hrest : ∀ d ds, rest = d :: ds → f d = false) :
    (cs ++ rest).takeWhile f = cs ∧ (cs ++ rest).dropWhile f = rest := by
  have hstop : rest.takeWhile f = [] ∧ rest.dropWhile f = rest := by
    cases rest with
    | nil => exact ⟨rfl, rfl⟩
    | cons d ds => simp [hrest d ds rfl]
  rw [List.takeWhile_append_of_pos h, List.dropWhile_append_of_pos h, hstop.1, hstop.2,
    List.append_nil]
  exact ⟨rfl, rfl⟩

/-- A block comment ends with the first mark that closes it. -/
lemma commentBody?_of_not_infix (h : ¬ ['*', '/'] <:+: cs ++ ['*']) (rest : List Char) :
    commentBody? (cs ++ '*' :: '/' :: rest) = some (cs ++ ['*', '/'], rest) := by
  induction cs with
  | nil => rfl
  | cons c cs ih =>
    rw [List.cons_append, List.infix_cons_iff, not_or] at h
    rw [List.cons_append, commentBody?, ih h.2, Option.map_some, List.cons_append]
    rintro ds rfl hslash
    refine h.1 (List.cons_prefix_cons.2 ⟨rfl, ?_⟩)
    cases cs with
    | nil => cases hslash
    | cons d cs =>
      obtain ⟨rfl, -⟩ := List.cons.inj hslash
      exact List.cons_prefix_cons.2 ⟨rfl, List.nil_prefix⟩

/-- The mark of a variable with a name behind it. -/
lemma named_of_name {kind : String → Token.Kind} {name : List Char}
    (h : ∀ d ∈ name, isNameChar d = true) (hrest : startsName rest = false) :
    named kind c (name ++ rest) = (⟨.token (kind (String.ofList name)), c :: name⟩, rest) := by
  have hstop : ∀ d ds, rest = d :: ds → isNameChar d = false := by
    rintro d ds rfl
    exact hrest
  obtain ⟨htake, hdrop⟩ := span_append h hstop
  rw [named, htake, hdrop]

lemma startsName_append {name : List Char} (hne : name ≠ [])
    (h : ∀ d ∈ name, isNameChar d = true) (rest : List Char) :
    startsName (name ++ rest) = true := by
  obtain ⟨d, ds, rfl⟩ := List.exists_cons_of_ne_nil hne
  exact h d (.head ds)

/-- The written form of a token is cut off a text as that token. -/
lemma first_of_lexeme {kind : Token.Kind} (h : Lexeme kind (c :: cs) rest) :
    first c (cs ++ rest) = (⟨.token kind, c :: cs⟩, rest) := by
  generalize htext : c :: cs = text at h
  cases h with
  | sign h =>
    obtain ⟨rfl, rfl⟩ := List.cons.inj htext
    simp only [Token.signs, List.mem_cons, Prod.mk.injEq, List.not_mem_nil, or_false] at h
    rcases h with ⟨rfl, rfl⟩ | ⟨rfl, rfl⟩ | ⟨rfl, rfl⟩ | ⟨rfl, rfl⟩ | ⟨rfl, rfl⟩ <;> rfl
  | @quoted q body hquote hbody =>
    obtain ⟨rfl, rfl⟩ := List.cons.inj htext
    have hfirst : first c (body ++ [c] ++ rest) = quote c (body ++ [c] ++ rest) := by
      rcases hquote with rfl | rfl <;> rfl
    have hescape : c ≠ '\\' := by
      rintro rfl
      rcases hquote with h | h <;> cases h
    rw [hfirst, quote, List.append_assoc, List.singleton_append, hbody.body?_append hescape]
  | ivar hne h hrest =>
    obtain ⟨rfl, rfl⟩ := List.cons.inj htext
    rw [← named_of_name h hrest]
    simp [first, Text.isBlank, startsName_append hne h]
  | var hne h hrest =>
    obtain ⟨rfl, rfl⟩ := List.cons.inj htext
    rw [← named_of_name h hrest]
    simp [first, Text.isBlank, startsName_append hne h]
  | stray hcontrol hblank =>
    obtain ⟨rfl, rfl⟩ := List.cons.inj htext
    have hne : ∀ d, Text.isControl d = false → c ≠ d := by
      rintro d hd rfl
      rw [hcontrol] at hd
      cases hd
    have hbreak : c ≠ '\n' := by
      rintro rfl
      cases hblank
    simp [first, single, hbreak, hblank, hcontrol, hne '#' rfl, hne '/' rfl, hne '"' rfl,
      hne '\'' rfl, hne '(' rfl, hne ')' rfl, hne '[' rfl, hne ']' rfl, hne ',' rfl, hne '@' rfl,
      hne '$' rfl]
  | functionName h =>
    subst htext
    exact first_functionName h
  | word hstart h hrest hname =>
    obtain ⟨rfl, rfl⟩ := List.cons.inj htext
    obtain ⟨hc, hcs⟩ := List.forall_mem_cons.1 h
    obtain ⟨hhash, hcomment, hvariable, hcontrol⟩ := hstart
    have hfirst : first c (cs ++ rest) = word c (cs ++ rest) := by
      have hbreak : c ≠ '\n' := by
        rintro rfl
        cases hc
      simp only [endsWord, Bool.or_eq_false_iff, beq_eq_false_iff_ne] at hc
      rw [first, if_neg hbreak, if_neg (by simp [hc]), if_neg hhash, if_neg hcomment,
        if_neg (by simp [hc]), if_neg (by simp [hc]), if_neg (by simp [hc]), if_neg (by simp [hc]),
        if_neg (by simp [hc]), if_neg (by simp [hc]),
        if_neg fun hivar => hvariable ⟨.inl hivar.1, hivar.2⟩,
        if_neg fun hvar => hvariable ⟨.inr hvar.1, hvar.2⟩, if_neg (by simp [hcontrol])]
    obtain ⟨htake, hdrop⟩ := span_append (f := (!endsWord ·)) (by simpa using hcs)
      (by simpa using hrest)
    rw [hfirst, Piece.word, htake, hdrop]
    simp only [Bool.and_eq_true, beq_iff_eq, hname, if_false]

/-- A written piece is what is cut off first. -/
lemma Written.first_eq {p : Piece} (h : p.Written rest) (hp : p.chars = c :: cs) :
    first c (cs ++ rest) = (p, rest) := by
  cases h with
  | lineBreak =>
    obtain ⟨rfl, rfl⟩ := List.cons.inj hp
    rfl
  | blank hblank hne =>
    obtain ⟨rfl, rfl⟩ := List.cons.inj hp
    simp [first, hne, hblank]
  | @lineComment cs' _ hcomment hrest =>
    obtain ⟨rfl, rfl⟩ := List.cons.inj hp
    have hgo : ∀ d ∈ cs', decide (d ≠ '\n') = true := fun d hd =>
      decide_eq_true fun hbreak => hcomment (hbreak ▸ hd)
    obtain ⟨htake, hdrop⟩ := span_append hgo (by simpa using hrest)
    change Piece.lineComment '#' (cs' ++ rest) = _
    rw [Piece.lineComment, htake, hdrop]
  | @blockComment inner hinner =>
    obtain ⟨rfl, rfl⟩ := List.cons.inj hp
    change Piece.blockComment '/' ('*' :: (inner ++ ['*', '/'] ++ rest)) = _
    rw [List.append_assoc]
    simp only [Piece.blockComment, List.tail_cons, List.cons_append, List.nil_append,
      commentBody?_of_not_infix hinner rest]
    rfl
  | token hlexeme =>
    cases hp
    exact first_of_lexeme hlexeme
  | @openQuote q inner hquote hopen =>
    obtain ⟨rfl, rfl⟩ := List.cons.inj hp
    have hfirst : first q (inner ++ []) = quote q inner := by
      rw [List.append_nil]
      rcases hquote with rfl | rfl <;> rfl
    have hnone : Escape.body? q inner = none := by
      refine Option.eq_none_iff_forall_not_mem.2 fun found hfound => ?_
      exact hopen found.1 found.2 (Escape.body?_append hfound) (Escape.body_of_body? hfound)
    rw [hfirst, quote, hnone]
  | @openComment inner hopen =>
    obtain ⟨rfl, rfl⟩ := List.cons.inj hp
    have hnone : commentBody? inner = none := by
      refine Option.eq_none_iff_forall_not_mem.2 fun found hfound => hopen ?_
      obtain ⟨body, hbody, -⟩ := commentBody?_eq_some hfound
      rw [commentBody?_append hfound, hbody, List.append_assoc]
      exact ⟨body, found.2, by simp⟩
    rw [List.append_nil]
    change Piece.blockComment '/' ('*' :: inner) = _
    rw [Piece.blockComment, List.tail_cons, hnone]

/-- Written pieces are those that their text is cut into. -/
lemma WrittenEach.eq_split {ps : List Piece} (h : WrittenEach ps) :
    ps = split (ps.flatMap Piece.chars) := by
  induction ps with
  | nil => rw [List.flatMap_nil, split]
  | cons p ps ih =>
    obtain ⟨c, cs, hp⟩ := List.exists_cons_of_ne_nil h.1.chars_ne_nil
    rw [List.flatMap_cons, hp, List.cons_append, split, h.1.first_eq hp, ← ih h.2]

end Piece

end CommandScript
