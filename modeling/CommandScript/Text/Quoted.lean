import CommandScript.Unicode.Derived

/-!
# Quoted texts

## Main definitions

* `CommandScript.Text.quoted` — a text between quotes, in which quotes, backslashes and what cannot
  be printed on its own are written as escapes.
-/

namespace CommandScript.Text

/-- The hexadecimal digits of a number. -/
def hex (n : Nat) : String := String.ofList (Nat.toDigits 16 n)

/-- How a character is written between quotes. -/
def quotedChar (c : Char) : String :=
  if c.toNat = 0 then "\\0"
  else match c with
    | '\t' => "\\t"
    | '\r' => "\\r"
    | '\n' => "\\n"
    | '\\' => "\\\\"
    | '"' => "\\\""
    | c =>
      if Unicode.combining.contains c || !Unicode.printable.contains c then
        "\\u\x7b" ++ hex c.toNat ++ "\x7d"
      else String.singleton c

/-- A text between quotes. -/
def quoted (s : String) : String := "\"" ++ String.join (s.toList.map quotedChar) ++ "\""

end CommandScript.Text
