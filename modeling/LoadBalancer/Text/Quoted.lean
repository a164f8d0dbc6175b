import LoadBalancer.Text.Printable

/-!
# Quoted text in diagnostics

A text between double quotes, with the characters that would not show spelled out.

* `escapeChar` – the spelling of one character inside the quotes;
* `quote` – the quoted form of a text.
-/

namespace LoadBalancer.Text

/-- The spelling of a character inside double quotes. -/
def escapeChar (c : Char) : List Char :=
  if c = '\x00' then ['\\', '0']
  else if c = '\t' then ['\\', 't']
  else if c = '\r' then ['\\', 'r']
  else if c = '\n' then ['\\', 'n']
  else if c = '"' then ['\\', '"']
  else if c = '\\' then ['\\', '\\']
  else if isHidden c then
    ['\\', 'u', Char.ofNat 0x7B] ++ Nat.toDigits 16 c.toNat ++ [Char.ofNat 0x7D]
  else [c]

/-- A text between double quotes, as diagnostics show it. -/
def quote (s : String) : String :=
  "\"" ++ String.ofList (s.toList.flatMap escapeChar) ++ "\""

end LoadBalancer.Text
