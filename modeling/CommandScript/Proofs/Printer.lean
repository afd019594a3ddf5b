import CommandScript.Proofs.Brackets
import CommandScript.Proofs.Nesting
import CommandScript.Script

/-!
# Printing expressions

A printer for expressions, whose texts compile to the expressions again. A call is written as its
name and its arguments in parentheses, with commas between them; a text stands between single
quotes, with a backslash before each backslash and each single quote in it; numbers are decimal,
and the statements of a script are written line by line.

## Main definitions

* `CommandScript.Node.written`, `CommandScript.Node.print` — the characters that an expression is
  written with, and the text of a script.
* `CommandScript.Node.Printable` — the expressions that the printer is for.
* `CommandScript.Node.unplaced` — an expression without the places of its parts.
* `CommandScript.Token.Placed` — characters that are placed as tokens of some form.

## Main results

* `CommandScript.Node.placed_written` — a printed expression is placed as tokens that the grammar
  derives it from.
* `CommandScript.Library.compile_print` — a printed script compiles to its statements.
-/

namespace CommandScript

/-! ## The printer -/

/-- A text as it is written between single quotes: a backslash and a single quote have a backslash
before them. -/
def Escape.write : List Char → List Char
  | [] => []
  | c :: cs => if c = '\\' ∨ c = '\'' then '\\' :: c :: write cs else c :: write cs

namespace Value

/-- The constants that have a written form of their own: texts, integers, truth values and null. -/
def isPlain : Value → Bool
  | string .. | int .. | boolean .. | null .. => true
  | _ => false

/-- The characters that a constant is written with. -/
def written : Value → List Char
  | string s _ => '\'' :: (Escape.write s.toList ++ ['\''])
  | int n _ => (toString n.toInt).toList
  | boolean b _ => (toString b).toList
  | null _ => "null".toList
  | _ => []

end Value

namespace Node

mutual

/-- The characters that an expression is written with. -/
def written : Node → List Char
  | literal v => v.written
  | ivar name _ => '@' :: name.toList
  | var name _ => '$' :: name.toList
  | call name args _ => name.toList ++ '(' :: ([','].intercalate (writtenEach args) ++ [')'])

/-- The characters that each of some expressions is written with. -/
def writtenEach : List Node → List (List Char)
  | [] => []
  | n :: ns => n.written :: writtenEach ns

end

/-- The text of a script, with a statement on each line. -/
def print (nodes : List Node) : String := String.ofList (['\n'].intercalate (writtenEach nodes))

mutual

/-- An expression without the places of its parts. -/
def unplaced : Node → Node
  | literal v => literal (v.relocate .unknown)
  | ivar name _ => ivar name .unknown
  | var name _ => var name .unknown
  | call name args _ => call name (unplacedEach args) .unknown

/-- Some expressions without the places of their parts. -/
def unplacedEach : List Node → List Node
  | [] => []
  | n :: ns => n.unplaced :: unplacedEach ns

end

/-- The expressions that the printer is for. The constants are plain, variables have names of
letters, digits and underscores, and calls have names that start with no digit and may be written
with the number of their arguments. -/
inductive Printable (sig : Signature) : Node → Prop where
  | literal {v : Value} (plain : v.isPlain = true) : Printable sig (literal v)
  | ivar {name : String} {l : Location} (ne_empty : name.toList ≠ [])
    (chars : ∀ c ∈ name.toList, Piece.isNameChar c = true) : Printable sig (ivar name l)
  | var {name : String} {l : Location} (ne_empty : name.toList ≠ [])
    (chars : ∀ c ∈ name.toList, Piece.isNameChar c = true) : Printable sig (var name l)
  | call {name : String} {args : List Node} {l : Location}
    (isName : Piece.isName name.toList = true) (allowed : Allowed sig name args.length)
    (parts : ∀ n ∈ args, Printable sig n) : Printable sig (call name args l)

lemma writtenEach_eq (ns : List Node) : writtenEach ns = ns.map written := by
  induction ns with
  | nil => rfl
  | cons n ns ih => rw [writtenEach, ih, List.map_cons]

lemma unplacedEach_eq (ns : List Node) : unplacedEach ns = ns.map unplaced := by
  induction ns with
  | nil => rfl
  | cons n ns ih => rw [unplacedEach, ih, List.map_cons]

end Node

/-! ## Escapes and numbers -/

/-- What is written between quotes is read as the text. -/
lemma Escape.undo_write (cs : List Char) : undo (write cs) = cs := by
  induction cs with
  | nil => rfl
  | cons c cs ih =>
    rw [write]
    split
    · next h => rcases h with rfl | rfl <;> simp [undo, short?, ih]
    · next h =>
      rw [not_or] at h
      simp [undo, h.1, ih]

/-- What is written between single quotes ends at the second quote. -/
lemma Escape.body?_write (cs rest : List Char) :
    body? '\'' (write cs ++ '\'' :: rest) = some (write cs, rest) := by
  induction cs with
  | nil => rfl
  | cons c cs ih =>
    rw [write]
    split
    · simp [body?, ih]
    · next h =>
      rw [not_or] at h
      simp [body?, h.1, h.2, ih]

namespace Decimal

/-- The digits of a number spell it. -/
lemma valueOf_toDigits (n : Nat) : valueOf (Nat.toDigits 10 n) = n :=
  Nat.ofDigitChars_toDigits (by decide) (by decide)

/-- The decimal form of an integer: digits, with a minus sign before them if it is negative. -/
lemma toList_toString (n : Int) :
    (∃ m : Nat, n = m ∧ (toString n).toList = Nat.toDigits 10 m) ∨
    ∃ m : Nat, n = -m ∧ (toString n).toList = '-' :: Nat.toDigits 10 m := by
  cases n with
  | ofNat m => exact .inl ⟨m, rfl, Nat.toList_repr⟩
  | negSucc m =>
    refine .inr ⟨m + 1, rfl, ?_⟩
    have hrepr : toString (Int.negSucc m) = "-" ++ Nat.repr (m + 1) := rfl
    rw [hrepr, String.toList_append, Nat.toList_repr]
    rfl

lemma isDigit_toDigits {n : Nat} {c : Char} (h : c ∈ Nat.toDigits 10 n) : c.isDigit = true :=
  Nat.isDigit_of_mem_toDigits (by decide) (by decide) h

/-- The decimal form of an integer spells it. -/
lemma int?_toString (n : Int) : int? (toString n).toList = some n := by
  have hdigits : ∀ m : Nat, (Nat.toDigits 10 m).all Char.isDigit = true := fun m =>
    List.all_eq_true.2 fun c hc => isDigit_toDigits hc
  have hne : ∀ m : Nat, (Nat.toDigits 10 m).isEmpty = false := fun m => by
    simp [Nat.toDigits_ne_nil]
  rcases toList_toString n with ⟨m, rfl, hm⟩ | ⟨m, rfl, hm⟩
  · rw [hm]
    unfold int?
    split
    · next heq =>
      have := isDigit_toDigits (n := m) (c := '-') (by rw [heq]; exact List.mem_cons_self)
      cases this
    · next heq =>
      have := isDigit_toDigits (n := m) (c := '+') (by rw [heq]; exact List.mem_cons_self)
      cases this
    · simp [hdigits, hne, valueOf_toDigits]
  · rw [hm]
    simp [int?, hdigits, hne, valueOf_toDigits]

/-- The decimal form of a word spells it. -/
lemma int64?_toString (n : Int64) : int64? (toString n.toInt).toList = some n := by
  have hrange : inRange n.toInt = true := by
    rw [inRange, Bool.and_eq_true, decide_eq_true_eq, decide_eq_true_eq]
    exact ⟨n.minValue_le_toInt, n.toInt_le⟩
  rw [int64?, int?_toString]
  simp [word?, hrange]

end Decimal

/-! ## The first token of a printed text -/

namespace Piece

variable {c : Char} {cs rest : List Char}

/-- The characters of names and numbers. -/
def IsWordChar (c : Char) : Prop := isNameChar c = true ∨ c = '-'

instance : DecidablePred IsWordChar := fun c =>
  inferInstanceAs (Decidable (isNameChar c = true ∨ c = '-'))

/-- The characters of a text are checked one after another. -/
lemma isWordChar_of_all (h : cs.all (fun c => decide (IsWordChar c)) = true) :
    ∀ c ∈ cs, IsWordChar c := by
  simpa using h

/-- The codes of the characters of names and numbers. -/
lemma IsWordChar.code (h : IsWordChar c) :
    (48 ≤ c.toNat ∧ c.toNat ≤ 57) ∨ (65 ≤ c.toNat ∧ c.toNat ≤ 90) ∨
      (97 ≤ c.toNat ∧ c.toNat ≤ 122) ∨ c.toNat = 95 ∨ c.toNat = 45 := by
  rcases h with h | rfl
  · change (decide (c.val ≥ 'A'.val ∧ c.val ≤ 'Z'.val) || (c.val ≥ 'a'.val && c.val ≤ 'z'.val) ||
      (c.val ≥ '0'.val && c.val ≤ '9'.val) || c == '_') = true at h
    simp only [Bool.or_eq_true, Bool.and_eq_true, decide_eq_true_eq, beq_iff_eq,
      UInt32.le_iff_toNat_le, ge_iff_le] at h
    rcases h with ((h | h) | h) | rfl
    · exact .inr (.inl h)
    · exact .inr (.inr (.inl h))
    · exact .inl h
    · decide
  · decide

/-- A character of a name or a number is none of those with other codes. -/
lemma IsWordChar.ne (h : IsWordChar c) {d : Char}
    (hd : d.toNat < 45 ∨ d.toNat = 47 ∨ d.toNat = 64 ∨ d.toNat = 91 ∨ d.toNat = 93) : c ≠ d := by
  have hcode := h.code
  rintro rfl
  omega

lemma IsWordChar.not_isBlank (h : IsWordChar c) : Text.isBlank c = false := by
  have hcode := h.code
  simp [Text.isBlank]
  omega

lemma IsWordChar.not_isControl (h : IsWordChar c) : Text.isControl c = false := by
  have hcode := h.code
  simp [Text.isControl]
  omega

/-- No character of a name or a number ends a word. -/
lemma IsWordChar.not_endsWord (h : IsWordChar c) : endsWord c = false := by
  have hparen : c ≠ '(' ∧ c ≠ ')' := ⟨h.ne (by decide), h.ne (by decide)⟩
  have hbracket : c ≠ '[' ∧ c ≠ ']' := ⟨h.ne (by decide), h.ne (by decide)⟩
  have hquote : c ≠ '"' ∧ c ≠ '\'' := ⟨h.ne (by decide), h.ne (by decide)⟩
  have hcomma : c ≠ ',' := h.ne (by decide)
  simp [endsWord, h.not_isBlank, hparen, hbracket, hquote, hcomma]

/-- A character of a name or a number starts a word. -/
lemma IsWordChar.first (h : IsWordChar c) : first c cs = word c cs := by
  have hparen : c ≠ '(' ∧ c ≠ ')' := ⟨h.ne (by decide), h.ne (by decide)⟩
  have hbracket : c ≠ '[' ∧ c ≠ ']' := ⟨h.ne (by decide), h.ne (by decide)⟩
  have hquote : c ≠ '"' ∧ c ≠ '\'' := ⟨h.ne (by decide), h.ne (by decide)⟩
  have hcomment : c ≠ '#' ∧ c ≠ '/' := ⟨h.ne (by decide), h.ne (by decide)⟩
  have hmark : c ≠ '@' ∧ c ≠ '$' := ⟨h.ne (by decide), h.ne (by decide)⟩
  have hend : c ≠ ',' ∧ c ≠ '\n' := ⟨h.ne (by decide), h.ne (by decide)⟩
  simp [Piece.first, h.not_isBlank, h.not_isControl, hparen, hbracket, hquote, hcomment, hmark,
    hend]

/-- The characters of a word are read up to one that ends it. -/
lemma word_append (hcs : ∀ d ∈ cs, IsWordChar d) (hrest : ∀ d ds, rest = d :: ds → endsWord d) :
    word c (cs ++ rest) = (⟨.token (if isName (c :: cs) && rest.head? == some '(' then
      .functionName (String.ofList (c :: cs)) else wordKind (c :: cs)), c :: cs⟩, rest) := by
  have hgo : ∀ d ∈ cs, (!endsWord d) = true := fun d hd => by simp [(hcs d hd).not_endsWord]
  have hstop : rest.takeWhile (!endsWord ·) = [] ∧ rest.dropWhile (!endsWord ·) = rest := by
    cases rest with
    | nil => exact ⟨rfl, rfl⟩
    | cons d ds => simp [hrest d ds rfl]
  simp only [word, List.takeWhile_append_of_pos hgo, List.dropWhile_append_of_pos hgo, hstop,
    List.append_nil]

/-- A printed expression is followed by nothing, or by a comma, a closing parenthesis or a line
break. -/
def Delimited (rest : List Char) : Prop :=
  ∀ d ds, rest = d :: ds → d = ',' ∨ d = ')' ∨ d = '\n'

/-- A name before an opening parenthesis is that of a function. -/
lemma first_functionName (h : isName (c :: cs) = true) :
    first c (cs ++ '(' :: rest) =
      (⟨.token (.functionName (String.ofList (c :: cs))), c :: cs⟩, '(' :: rest) := by
  have hname : ∀ d ∈ c :: cs, IsWordChar d := by
    simp only [isName, Bool.and_eq_true, List.all_eq_true] at h
    exact fun d hd => .inl (h.2 d hd)
  obtain ⟨hc, hcs⟩ := List.forall_mem_cons.1 hname
  rw [hc.first, word_append hcs (by rintro d ds ⟨⟩; rfl)]
  simp [h]

/-- A word that is not followed by a parenthesis is what it spells. -/
lemma first_wordKind (h : ∀ d ∈ c :: cs, IsWordChar d) (hrest : Delimited rest) :
    first c (cs ++ rest) = (⟨.token (wordKind (c :: cs)), c :: cs⟩, rest) := by
  obtain ⟨hc, hcs⟩ := List.forall_mem_cons.1 h
  have hends : ∀ d ds, rest = d :: ds → endsWord d := fun d ds heq => by
    rcases hrest d ds heq with rfl | rfl | rfl <;> decide
  have hparen : (rest.head? == some '(') = false := by
    cases rest with
    | nil => rfl
    | cons d ds => rcases hrest d ds rfl with rfl | rfl | rfl <;> rfl
  rw [hc.first, word_append hcs hends, hparen]
  simp

/-- The name of a variable is read up to a character that is not in names. -/
lemma named_append {kind : String → Token.Kind} (h : ∀ d ∈ cs, isNameChar d = true)
    (hrest : Delimited rest) :
    named kind c (cs ++ rest) = (⟨.token (kind (String.ofList cs)), c :: cs⟩, rest) := by
  have hstop : rest.takeWhile isNameChar = [] ∧ rest.dropWhile isNameChar = rest := by
    cases rest with
    | nil => exact ⟨rfl, rfl⟩
    | cons d ds => rcases hrest d ds rfl with rfl | rfl | rfl <;> exact ⟨rfl, rfl⟩
  simp only [named, List.takeWhile_append_of_pos h, List.dropWhile_append_of_pos h, hstop,
    List.append_nil]

/-- A mark with a name behind it is a variable. -/
lemma first_named (hne : cs ≠ []) (h : ∀ d ∈ cs, isNameChar d = true) (hrest : Delimited rest) :
    first '@' (cs ++ rest) = (⟨.token (.ivar (String.ofList cs)), '@' :: cs⟩, rest) ∧
    first '$' (cs ++ rest) = (⟨.token (.var (String.ofList cs)), '$' :: cs⟩, rest) := by
  have hstarts : startsName (cs ++ rest) = true := by
    obtain ⟨d, ds, rfl⟩ := List.exists_cons_of_ne_nil hne
    simp [startsName, h d List.mem_cons_self]
  constructor
  · refine Eq.trans ?_ (named_append h hrest)
    simp [first, Text.isBlank, hstarts]
  · refine Eq.trans ?_ (named_append h hrest)
    simp [first, Text.isBlank, hstarts]

/-- A text between single quotes is read as it is written. -/
lemma first_write : first '\'' (Escape.write cs ++ '\'' :: rest) =
    (⟨.token (.quoted (String.ofList cs)), '\'' :: (Escape.write cs ++ ['\''])⟩, rest) := by
  have hquote : first '\'' (Escape.write cs ++ '\'' :: rest) =
      quote '\'' (Escape.write cs ++ '\'' :: rest) := by
    simp [first, Text.isBlank]
  rw [hquote, quote, Escape.body?_write]
  simp [Escape.undo_write]

/-- The characters of the decimal form of an integer are those of words. -/
lemma isWordChar_toString {n : Int} (h : c ∈ (toString n).toList) : IsWordChar c := by
  have hdigit : ∀ {m : Nat}, c ∈ Nat.toDigits 10 m → IsWordChar c := fun {m} hc => by
    simp [IsWordChar, isNameChar, Char.isAlphanum, Decimal.isDigit_toDigits hc]
  rcases Decimal.toList_toString n with ⟨m, -, hm⟩ | ⟨m, -, hm⟩
  · rw [hm] at h
    exact hdigit h
  · rw [hm] at h
    rcases List.mem_cons.1 h with rfl | h
    · exact .inr rfl
    · exact hdigit h

/-- The decimal form of a word is an integer. -/
lemma wordKind_toString (n : Int64) : wordKind (toString n.toInt).toList = .int n := by
  have hread := Decimal.int64?_toString n
  have hne : ∀ keyword : String, Decimal.int64? keyword.toList = none →
      toString n.toInt ≠ keyword := by
    intro keyword hnone heq
    rw [heq, hnone] at hread
    cases hread
  rw [wordKind, String.ofList_toList, Value.ofText, if_neg (hne "null" (by decide)),
    if_neg (hne "true" (by decide)), if_neg (hne "false" (by decide)), hread]

end Piece

/-! ## The tokens of a printed expression -/

namespace Token

open Piece (split first Delimited)

variable {P : List Token → Prop} {opened : List Opener} {loc : Location}

/-- Before what may follow a printed expression, the characters are placed as tokens with the
property `P`, after which the same brackets are open as before. -/
def Placed (cs : List Char) (P : List Token → Prop) : Prop :=
  ∀ loc opened rest, Delimited rest → ∃ ts loc', P ts ∧ ∀ us,
    place loc' opened (split rest) = .ok us → place loc opened (split (cs ++ rest)) = .ok (ts ++ us)

/-- A token is placed in front of what follows it. -/
lemma place_token {c : Char} {cs w rest : List Char} {kind : Kind} {us : List Token}
    (h : first c cs = (⟨.token kind, w⟩, rest))
    (hus : place (loc.advance w) (brackets kind loc opened) (split rest) = .ok us) :
    place loc opened (split (c :: cs)) = .ok (⟨kind, loc⟩ :: us) := by
  rw [split, h]
  exact map_cons_eq_ok.2 ⟨us, hus, rfl⟩

/-- Tokens that are no brackets leave the open brackets as they are. -/
lemma brackets_of_atom {t : Token} {n : Node} (h : Grammar.Atom t n) :
    brackets t.kind t.loc opened = opened := by
  cases h <;> rfl

end Token

namespace Node

open Token Grammar

variable {sig : Signature} {m : Nat} {n : Node} {ns : List Node} {ts : List Token}

/-- The tokens derive, as a slot of measure `m`, an expression that may be written and that differs
from `n` in the places only. No token is a line break. -/
structure Spells (sig : Signature) (m : Nat) (n : Node) (ts : List Token) : Prop where
  exists_slot : ∃ n', Slot m ts n' ∧ n'.Checked sig ∧ n'.unplaced = n.unplaced
  ne_newline : ∀ t ∈ ts, t.kind.isNewline = false

/-- The tokens derive arguments of measure `m` that may be written and that differ from `ns` in the
places only. No token is a line break. -/
structure SpellsAll (sig : Signature) (m : Nat) (ns : List Node) (ts : List Token) : Prop where
  exists_arguments : ∃ ns', Grammar.Arguments m ts ns' ∧ (∀ n ∈ ns', n.Checked sig) ∧
    ns'.map unplaced = ns.map unplaced
  ne_newline : ∀ t ∈ ts, t.kind.isNewline = false

/-- The characters of a single token are placed as this token, which spells what it stands for. -/
lemma placed_atom {c : Char} {cs : List Char} {kind : Token.Kind}
    (h : ∀ {rest}, Piece.Delimited rest →
      Piece.first c (cs ++ rest) = (⟨.token kind, c :: cs⟩, rest))
    (hatom : ∀ l, ∃ n', Atom ⟨kind, l⟩ n' ∧ n'.unplaced = n.unplaced) (hm : m ≤ maxNesting) :
    Placed (c :: cs) (Spells sig m n) := by
  intro loc opened rest hrest
  obtain ⟨n', hn', hsame⟩ := hatom loc
  have hslot : Slot m [⟨kind, loc⟩] n' := slot_of_primary (.atom hn') hm
  refine ⟨[⟨kind, loc⟩], loc.advance (c :: cs), ⟨⟨n', hslot, ?_, hsame⟩, ?_⟩, fun us hus => ?_⟩
  · cases hn' <;> constructor
  · rw [List.forall_mem_singleton]
    cases hn' <;> rfl
  · refine place_token (h hrest) ?_
    rw [brackets_of_atom hn']
    exact hus

/-- A word is placed as the token that it spells. -/
lemma placed_word {cs : List Char} {kind : Token.Kind} (hne : cs ≠ [])
    (hcs : ∀ d ∈ cs, Piece.IsWordChar d) (hkind : Piece.wordKind cs = kind)
    (hatom : ∀ l, ∃ n', Atom ⟨kind, l⟩ n' ∧ n'.unplaced = n.unplaced) (hm : m ≤ maxNesting) :
    Placed cs (Spells sig m n) := by
  obtain ⟨d, ds, rfl⟩ := List.exists_cons_of_ne_nil hne
  subst hkind
  exact placed_atom (Piece.first_wordKind hcs) hatom hm

/-- A plain constant is placed as the token of its value. -/
lemma placed_literal {v : Value} (h : v.isPlain = true) (hm : m ≤ maxNesting) :
    Placed v.written (Spells sig m (literal v)) := by
  cases v with
  | string s l =>
    refine placed_atom (fun {rest} _ => ?_) (fun l => ⟨_, .quoted s l, rfl⟩) hm
    rw [List.append_assoc]
    refine Piece.first_write.trans ?_
    rw [String.ofList_toList]
    rfl
  | int n l =>
    have hne : (toString n.toInt).toList ≠ [] := by
      intro hnil
      have hread := Decimal.int?_toString n.toInt
      rw [hnil] at hread
      cases hread
    exact placed_word hne (fun d hd => Piece.isWordChar_toString hd) (Piece.wordKind_toString n)
      (fun l => ⟨_, .int n l, rfl⟩) hm
  | boolean b l =>
    have hword : ∀ b : Bool, (toString b).toList ≠ [] ∧
        (∀ d ∈ (toString b).toList, Piece.IsWordChar d) ∧
        Piece.wordKind (toString b).toList = .boolean b := by
      intro b
      cases b <;> exact ⟨by decide, Piece.isWordChar_of_all (by decide), by rfl⟩
    obtain ⟨hne, hcs, hkind⟩ := hword b
    exact placed_word hne hcs hkind (fun l => ⟨_, .boolean b l, rfl⟩) hm
  | null l =>
    have hword : "null".toList ≠ [] ∧ (∀ d ∈ "null".toList, Piece.IsWordChar d) ∧
        Piece.wordKind "null".toList = .null :=
      ⟨by decide, Piece.isWordChar_of_all (by decide), by rfl⟩
    obtain ⟨hne, hcs, hkind⟩ := hword
    exact placed_word hne hcs hkind (fun l => ⟨_, .null l, rfl⟩) hm
  | double | array | slot | void | external => cases h

/-- A printed expression may be followed by a comma, a parenthesis or a line break. -/
lemma delimited_cons {d : Char} {ds : List Char} (h : d = ',' ∨ d = ')' ∨ d = '\n') :
    Piece.Delimited (d :: ds) := by
  rintro _ _ ⟨⟩
  exact h

/-- Arguments with commas between them are placed as such, if each of them is. -/
lemma placed_arguments (h : ∀ n ∈ ns, Placed n.written (Spells sig m n)) :
    Placed ([','].intercalate (ns.map written)) (SpellsAll sig m ns) := by
  induction ns with
  | nil =>
    intro loc opened rest _
    exact ⟨[], loc, ⟨⟨[], .none, by simp, rfl⟩, by simp⟩, fun us hus => hus⟩
  | cons n ns ih =>
    obtain ⟨hn, hns⟩ := List.forall_mem_cons.1 h
    intro loc opened rest hrest
    cases ns with
    | nil =>
      obtain ⟨ts, loc', ⟨⟨n', hslot, hchecked, hsame⟩, hnl⟩, hplace⟩ := hn loc opened rest hrest
      refine ⟨ts, loc', ⟨⟨[n'], .last hslot, by simpa using hchecked, by simp [hsame]⟩, hnl⟩, ?_⟩
      simpa using hplace
    | cons k ns =>
      let others := [','].intercalate ((k :: ns).map written) ++ rest
      obtain ⟨ts, l, ⟨⟨n', hslot, hchecked, hsame⟩, hnl⟩, hplace⟩ :=
        hn loc opened (',' :: others) (delimited_cons (.inl rfl))
      obtain ⟨us, loc', ⟨⟨ns', hargs, hall, hmap⟩, hnl'⟩, hplace'⟩ :=
        ih hns (l.advance [',']) opened rest hrest
      obtain ⟨k', ks, rfl⟩ : ∃ k' ks, ns' = k' :: ks :=
        List.exists_cons_of_ne_nil (by rintro rfl; cases hmap)
      refine ⟨ts ++ ⟨.comma, l⟩ :: us, loc', ⟨⟨n' :: k' :: ks, .more hslot hargs, ?_, ?_⟩, ?_⟩,
        fun vs hvs => ?_⟩
      · exact List.forall_mem_cons.2 ⟨hchecked, hall⟩
      · rw [List.map_cons, hsame, hmap, ← List.map_cons]
      · rw [List.forall_mem_append, List.forall_mem_cons]
        exact ⟨hnl, rfl, hnl'⟩
      · have hcomma : place l opened (Piece.split (',' :: others)) =
            .ok (⟨.comma, l⟩ :: (us ++ vs)) := place_token rfl (hplace' vs hvs)
        simpa [others] using hplace _ hcomma

/-- A call is placed as such, if each of its arguments is. -/
lemma placed_call {name : String} {args : List Node} {l : Location}
    (hname : Piece.isName name.toList = true) (hallowed : Allowed sig name args.length)
    (h : ∀ n ∈ args, Placed n.written (Spells sig (m + 1) n)) (hm : m ≤ maxNesting) :
    Placed (call name args l).written (Spells sig m (call name args l)) := by
  intro loc opened rest hrest
  obtain ⟨c, cs, hcs⟩ : ∃ c cs, name.toList = c :: cs :=
    List.exists_cons_of_ne_nil fun hnil => by rw [hnil] at hname; cases hname
  let l₁ := loc.advance (c :: cs)
  obtain ⟨ts, l₂, ⟨⟨args', hargs, hall, hmap⟩, hnl⟩, hplace⟩ := placed_arguments h
    (l₁.advance ['(']) (⟨'(', l₁⟩ :: opened) (')' :: rest) (delimited_cons (.inr (.inl rfl)))
  have hlen : args'.length = args.length := by simpa using congrArg List.length hmap
  refine ⟨⟨.functionName name, loc⟩ :: ⟨.openParen, l₁⟩ :: (ts ++ [⟨.closeParen, l₂⟩]),
    l₂.advance [')'], ⟨⟨call name args' loc, ?_, ?_, ?_⟩, ?_⟩, fun us hus => ?_⟩
  · exact slot_of_primary (.call hargs) hm
  · exact .call (hlen ▸ hallowed) hall
  · rw [unplaced, unplaced, unplacedEach_eq, unplacedEach_eq, hmap]
  · simp only [List.forall_mem_cons, List.forall_mem_append]
    exact ⟨rfl, rfl, hnl, rfl, by simp⟩
  · -- the parenthesis is open for the arguments only
    have hclose : place l₂ (⟨'(', l₁⟩ :: opened) (Piece.split (')' :: rest)) =
        .ok (⟨.closeParen, l₂⟩ :: us) := place_token rfl hus
    have hopen : place l₁ opened (Piece.split ('(' :: _)) = .ok (⟨.openParen, l₁⟩ :: _) :=
      place_token rfl (hplace _ hclose)
    rw [hcs] at hname
    have hcall := place_token (Piece.first_functionName hname) hopen
    rw [← hcs, String.ofList_toList] at hcall
    simpa [written, writtenEach_eq, hcs] using hcall

/-- From every expression there is a path. -/
lemma Printable.exists_path (h : n.Printable sig) : ∃ p, n.Path p ∧ 1 ≤ p.length := by
  induction h with
  | literal | ivar | var => exact ⟨_, .leaf rfl, Nat.le_refl 1⟩
  | @call name args l _ _ _ ih =>
    cases args with
    | nil => exact ⟨_, .leaf rfl, Nat.le_refl 1⟩
    | cons a as =>
      obtain ⟨p, hp, -⟩ := ih a List.mem_cons_self
      exact ⟨_, .step List.mem_cons_self hp, Nat.le_add_left ..⟩

/-- A printed expression is placed as tokens that spell it in a slot of measure `m`, if this leaves
levels of nesting enough for its paths.

**Proof sketch.** By induction on the expression. The arguments of a call have a measure of one
more, and their paths are shorter by one. -/
lemma placed_written (h : n.Printable sig) (hm : ∀ p, n.Path p → m + p.length ≤ maxNesting + 1) :
    Placed n.written (Spells sig m n) := by
  have hlevel : m ≤ maxNesting := by
    obtain ⟨p, hp, hlen⟩ := h.exists_path
    have := hm p hp
    omega
  induction h generalizing m with
  | literal plain => exact placed_literal plain hlevel
  | @ivar name l ne_empty chars =>
    refine placed_atom (fun hrest => ?_) (fun l => ⟨_, .ivar name l, rfl⟩) hlevel
    refine (Piece.first_named ne_empty chars hrest).1.trans ?_
    rw [String.ofList_toList]
  | @var name l ne_empty chars =>
    refine placed_atom (fun hrest => ?_) (fun l => ⟨_, .var name l, rfl⟩) hlevel
    refine (Piece.first_named ne_empty chars hrest).2.trans ?_
    rw [String.ofList_toList]
  | @call name args l isName allowed parts ih =>
    refine placed_call isName allowed (fun a ha => ?_) hlevel
    have hpaths : ∀ p, a.Path p → m + 1 + p.length ≤ maxNesting + 1 := by
      intro p hp
      have := hm _ (.step ha hp)
      rw [List.length_cons] at this
      omega
    refine ih a ha hpaths ?_
    obtain ⟨p, hp, hlen⟩ := (parts a ha).exists_path
    have := hpaths p hp
    omega

/-! ## Printed scripts -/

/-- The tokens of some statements, with a line break between each two. -/
inductive Lines (sig : Signature) : List Node → List Token → Prop where
  | nil : Lines sig [] []
  | last {n : Node} {ts : List Token} (h : Spells sig 1 n ts) : Lines sig [n] ts
  | more {n k : Node} {ns : List Node} {ts us : List Token} {l : Location}
    (head : Spells sig 1 n ts) (tail : Lines sig (k :: ns) us) :
    Lines sig (n :: k :: ns) (ts ++ ⟨.newline, l⟩ :: us)

/-- What spells an expression starts with a token that is no line break. -/
lemma Spells.starts (h : Spells sig m n ts) :
    ∃ t us, ts = t :: us ∧ t.kind.isNewline = false := by
  obtain ⟨n', hslot, -, -⟩ := h.exists_slot
  obtain ⟨t, us, rfl, -⟩ := hslot.starts
  exact ⟨t, us, rfl, h.ne_newline t List.mem_cons_self⟩

/-- Printed statements are placed as such. -/
lemma place_lines (h : ∀ n ∈ ns, Placed n.written (Spells sig 1 n)) (loc : Location) :
    ∃ ts, place loc [] (Piece.split (['\n'].intercalate (ns.map written))) = .ok ts ∧
      Lines sig ns ts := by
  induction ns generalizing loc with
  | nil => exact ⟨[], by rw [List.map_nil, List.intercalate_nil, Piece.split, place], .nil⟩
  | cons n ns ih =>
    obtain ⟨hn, hns⟩ := List.forall_mem_cons.1 h
    cases ns with
    | nil =>
      obtain ⟨ts, loc', hspells, hplace⟩ := hn loc [] [] (fun d ds h => by cases h)
      have hend : place loc' [] (Piece.split []) = .ok [] := by rw [Piece.split, place]
      exact ⟨ts, by simpa using hplace [] hend, .last hspells⟩
    | cons k ns =>
      let others := ['\n'].intercalate ((k :: ns).map written)
      obtain ⟨ts, l, hspells, hplace⟩ :=
        hn loc [] ('\n' :: others) (delimited_cons (.inr (.inr rfl)))
      obtain ⟨us, hus, hlines⟩ := ih hns (l.advance ['\n'])
      have hbreak : place l [] (Piece.split ('\n' :: others)) = .ok (⟨.newline, l⟩ :: us) := by
        rw [Piece.split]
        exact map_cons_eq_ok.2 ⟨us, hus, rfl⟩
      exact ⟨ts ++ ⟨.newline, l⟩ :: us, by simpa [others] using hplace _ hbreak,
        .more hspells hlines⟩

/-- Tokens that are no line breaks stay. -/
lemma tidyFrom_append {us : List Token} (h : ∀ t ∈ ts, t.kind.isNewline = false) :
    tidyFrom false (ts ++ us) = ts ++ tidyFrom false us := by
  induction ts with
  | nil => rfl
  | cons t ts ih =>
    obtain ⟨ht, hts⟩ := List.forall_mem_cons.1 h
    rw [List.cons_append, tidyFrom, ht, if_neg Bool.false_ne_true, ih hts, List.cons_append]

/-- What spells an expression stays. -/
lemma Spells.tidyFrom {us : List Token} (h : Spells sig m n ts) (atStart : Bool) :
    tidyFrom atStart (ts ++ us) = ts ++ tidyFrom false us := by
  obtain ⟨t, vs, rfl, ht⟩ := h.starts
  obtain ⟨-, hvs⟩ := List.forall_mem_cons.1 h.ne_newline
  rw [List.cons_append, Token.tidyFrom, ht, if_neg Bool.false_ne_true, tidyFrom_append hvs,
    List.cons_append]

/-- Tokens of statements do not start with a line break. -/
lemma Lines.starts (h : Lines sig (n :: ns) ts) :
    ∃ t us, ts = t :: us ∧ t.kind.isNewline = false := by
  cases h with
  | last h => exact h.starts
  | more head tail =>
    obtain ⟨t, us, rfl, ht⟩ := head.starts
    exact ⟨t, _, rfl, ht⟩

/-- The line breaks between statements stay. -/
lemma Lines.tidyFrom (h : Lines sig ns ts) : tidyFrom true ts = ts := by
  induction h with
  | nil => rfl
  | @last n ts h =>
    have hsame : Token.tidyFrom true (ts ++ []) = ts ++ Token.tidyFrom false [] := h.tidyFrom true
    rwa [List.append_nil, Token.tidyFrom, List.append_nil] at hsame
  | @more n k ns ts us l head tail ih =>
    obtain ⟨t, vs, rfl, ht⟩ := tail.starts
    have hstays : Token.tidyFrom false (⟨.newline, l⟩ :: t :: vs) =
        ⟨.newline, l⟩ :: Token.tidyFrom true (t :: vs) := by
      have hnl : Kind.newline.isNewline = true := rfl
      rw [Token.tidyFrom]
      simp [hnl, ht]
    rw [head.tidyFrom true, hstays, ih]

/-- The parser reads the statements. -/
lemma Lines.parse (h : Lines sig ns ts) :
    ∃ ns', parse sig ts = .ok ns' ∧ ns'.map unplaced = ns.map unplaced := by
  induction h with
  | nil => exact ⟨[], parse_nil.2 rfl, rfl⟩
  | last h =>
    obtain ⟨n', hslot, hchecked, hsame⟩ := h.exists_slot
    exact ⟨[n'], parse_of_statement hslot hchecked, by simp [hsame]⟩
  | more head tail ih =>
    obtain ⟨n', hslot, hchecked, hsame⟩ := head.exists_slot
    obtain ⟨ns', hread, hmap⟩ := ih
    refine ⟨n' :: ns', parse_of_slot hslot hchecked ?_ ?_, by simp [hsame, hmap]⟩
    · rintro t us ⟨⟩
      rfl
    · rw [parse_newline rfl]
      exact hread

end Node

/-- A printed script compiles to its statements, up to their places. The statements are printable,
and on no path from the root of one of them to a leaf are there more than `maxNesting` expressions.
This holds with every library, for a text from any source, and compiling changes no array. -/
theorem Library.compile_print (lib : Library) {nodes : List Node}
    (hprint : ∀ n ∈ nodes, n.Printable lib.signature)
    (hpaths : ∀ n ∈ nodes, ∀ p, n.Path p → p.length ≤ maxNesting) (source : Option String)
    (s : Store) :
    ∃ nodes', lib.compile false (Node.print nodes) source s = (.ok nodes', s) ∧
      nodes'.map Node.unplaced = nodes.map Node.unplaced := by
  have hplaced : ∀ n ∈ nodes, Token.Placed n.written (n.Spells lib.signature 1) := fun n hn =>
    Node.placed_written (hprint n hn) fun p hp => by
      have := hpaths n hn p hp
      omega
  obtain ⟨ts, hplace, hlines⟩ := Node.place_lines hplaced (.start source)
  obtain ⟨nodes', hparse, hsame⟩ := hlines.parse
  have hlex : Token.lex (Node.print nodes) source = .ok ts := by
    rw [Token.lex, Node.print, String.toList_ofList, Node.writtenEach_eq, hplace]
    exact congrArg Except.ok hlines.tidyFrom
  refine ⟨nodes', ?_, hsame⟩
  rw [compile, hlex]
  simp only [compileTokens, hparse]
  rfl

/-- Three statements: a call of a procedure on a text with quotes, a backslash and a line break and
on the least integer, a call of a function, and a variable. -/
def Node.assorted : List Node :=
  [.call "_say" [.literal (.string "it's\n\\u0041" .unknown),
      .literal (.int Int64.minValue .unknown), .ivar "1" .unknown] .unknown,
    .call "not" [.literal (.boolean true .unknown)] .unknown, .var "x" .unknown]

/-- The text of these statements, and that it compiles to them again. -/
theorem Library.compile_print_assorted :
    Node.print Node.assorted =
      "_say('it\\'s\n\\\\u0041',-9223372036854775808,@1)\nnot(true)\n$x" ∧
    (∀ n ∈ Node.assorted, n.Printable builtin.signature ∧ ∀ p, n.Path p → p.length ≤ maxNesting) ∧
    ∃ nodes', builtin.compile false (Node.print Node.assorted) none .empty = (.ok nodes', .empty) ∧
      nodes'.map Node.unplaced = Node.assorted.map Node.unplaced := by
  have hprint : ∀ n ∈ Node.assorted, n.Printable builtin.signature := by
    simp only [Node.assorted, List.forall_mem_cons]
    refine ⟨.call (by decide) (.inl rfl) ?_, .call (by decide) Grammar.allowed_not ?_,
      .var (by decide) (List.all_eq_true.1 rfl), by simp⟩
    · simp only [List.forall_mem_cons]
      exact ⟨.literal rfl, .literal rfl, .ivar (by decide) (List.all_eq_true.1 rfl), by simp⟩
    · exact List.forall_mem_singleton.2 (.literal rfl)
  have hshort : ∀ n ∈ Node.assorted, n.PathsWithin (fun _ => true) 2 := by
    have hcall : ∀ {name args l}, (∀ a ∈ args, a.parts = []) →
        (Node.call name args l).PathsWithin (fun _ => true) 2 := fun hargs =>
      .call (fun a ha => .of_leaf (hargs a ha)) (Nat.le_refl 2)
    simp only [Node.assorted, List.forall_mem_cons]
    exact ⟨hcall (by simp [Node.parts]), hcall (by simp [Node.parts]),
      (Node.PathsWithin.of_leaf rfl).mono (by decide), by simp⟩
  have hpaths : ∀ n ∈ Node.assorted, ∀ p, n.Path p → p.length ≤ maxNesting := by
    intro n hn p hp
    have hlen := hshort n hn p hp
    rw [List.countP_true] at hlen
    exact Nat.le_trans hlen (by decide)
  exact ⟨by decide +kernel, fun n hn => ⟨hprint n hn, hpaths n hn⟩,
    compile_print builtin hprint hpaths none .empty⟩

end CommandScript
