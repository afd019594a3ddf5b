/-!
# Escapes in quoted text

Between quotes a backslash starts an escape. A backslash before a character that has no escape
stands for itself, as does `\u` without four hexadecimal digits that name a character.

## Main definitions

* `CommandScript.Escape.undo` — the text that the characters between two quotes stand for.
* `CommandScript.Escape.body?` — the characters up to the closing quote, and what follows it.

## Main results

* `CommandScript.Escape.body?_append` — the body, the quote and the rest make up the input.
-/

namespace CommandScript.Escape

/-- The value of a hexadecimal digit. -/
def hexDigit? (c : Char) : Option Nat :=
  if '0' ≤ c ∧ c ≤ '9' then some (c.toNat - '0'.toNat)
  else if 'a' ≤ c ∧ c ≤ 'f' then some (c.toNat - 'a'.toNat + 10)
  else if 'A' ≤ c ∧ c ≤ 'F' then some (c.toNat - 'A'.toNat + 10)
  else none

/-- The character with a code, if the code is that of a Unicode scalar value. -/
def scalar? (n : Nat) : Option Char := if n.isValidChar then some (Char.ofNat n) else none

/-- The character that four hexadecimal digits name. -/
def codePoint? (a b c d : Char) : Option Char := do
  let a ← hexDigit? a
  let b ← hexDigit? b
  let c ← hexDigit? c
  let d ← hexDigit? d
  scalar? (((a * 16 + b) * 16 + c) * 16 + d)

/-- The character that a one-letter escape stands for. -/
def short? : Char → Option Char
  | 'n' => some '\n'
  | 't' => some '\t'
  | 'r' => some '\r'
  | '\\' => some '\\'
  | '\'' => some '\''
  | '"' => some '"'
  | _ => none

/-- The text that the characters between two quotes stand for. -/
def undo : List Char → List Char
  | [] => []
  | '\\' :: 'u' :: a :: b :: c :: d :: rest =>
    match codePoint? a b c d with
    | some x => x :: undo rest
    | none => '\\' :: 'u' :: undo (a :: b :: c :: d :: rest)
  | '\\' :: e :: rest =>
    match short? e with
    | some x => x :: undo rest
    | none => '\\' :: e :: undo rest
  | c :: rest => c :: undo rest

/-- The characters before the closing quote `q` and those after it. A backslash takes the
character behind it along, so that a quote behind a backslash does not close. -/
def body? (q : Char) : List Char → Option (List Char × List Char)
  | [] => none
  | '\\' :: e :: rest => (body? q rest).map fun p => ('\\' :: e :: p.1, p.2)
  | c :: rest =>
    if c = '\\' then none
    else if c = q then some ([], rest)
    else (body? q rest).map fun p => (c :: p.1, p.2)

/-- The body, the closing quote and the rest make up the input. -/
theorem body?_append {q : Char} {cs body rest : List Char} (h : body? q cs = some (body, rest)) :
    cs = body ++ q :: rest := by
  fun_induction body? q cs generalizing body with
  | case1 => simp at h
  | case2 e cs ih =>
    obtain ⟨p, hp, he⟩ := Option.map_eq_some_iff.1 h
    obtain ⟨rfl, rfl⟩ := Prod.mk.injEq .. ▸ he
    simp [ih hp]
  | case3 => simp at h
  | case4 cs _ _ =>
    simp only [Option.some.injEq, Prod.mk.injEq] at h
    obtain ⟨rfl, rfl⟩ := h
    rfl
  | case5 c cs _ _ _ ih =>
    obtain ⟨p, hp, he⟩ := Option.map_eq_some_iff.1 h
    obtain ⟨rfl, rfl⟩ := Prod.mk.injEq .. ▸ he
    simp [ih hp]

end CommandScript.Escape
