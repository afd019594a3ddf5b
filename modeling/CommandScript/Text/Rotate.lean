/-!
# Rotation of letters

## Main definitions

* `CommandScript.Text.rot13` — a text with every ASCII letter moved by half the alphabet.
-/

namespace CommandScript.Text

/-- An ASCII letter moved by thirteen places; every other character stays. -/
def rotate (c : Char) : Char :=
  if ('a' ≤ c ∧ c ≤ 'm') ∨ ('A' ≤ c ∧ c ≤ 'M') then Char.ofNat (c.toNat + 13)
  else if ('n' ≤ c ∧ c ≤ 'z') ∨ ('N' ≤ c ∧ c ≤ 'Z') then Char.ofNat (c.toNat - 13)
  else c

/-- A text with every ASCII letter moved by thirteen places. -/
def rot13 (s : String) : String := s.map rotate

end CommandScript.Text
