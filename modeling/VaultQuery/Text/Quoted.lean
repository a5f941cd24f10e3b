import VaultQuery.Text.Printable

/-!
Texts shown inside messages.  A text stands between single quotes, or between double quotes if it
holds a single quote and no double one; what cannot be shown is written as an escape.
-/

namespace VaultQuery.Text

/-- The last `width` hexadecimal digits of a number, in lower case. -/
def hex : (width : Nat) → Nat → List Char
  | 0, _ => []
  | width + 1, n => hex width (n / 16) ++ [Nat.digitChar (n % 16)]

/-- The mark that a text is shown between. -/
def quoteMark (cs : List Char) : Char :=
  if cs.contains '\x27' && !cs.contains '\x22' then '\x22' else '\x27'

/-- One character of a shown text. -/
def shownChar (mark c : Char) : List Char :=
  if c == '\x5c' || c == mark then ['\x5c', c]
  else if c == '\n' then ['\x5c', 'n']
  else if c == '\r' then ['\x5c', 'r']
  else if c == '\t' then ['\x5c', 't']
  else if isPrintable c then [c]
  else if c.toNat < 0x100 then '\x5c' :: 'x' :: hex 2 c.toNat
  else if c.toNat < 0x10000 then '\x5c' :: 'u' :: hex 4 c.toNat
  else '\x5c' :: 'U' :: hex 8 c.toNat

/-- A text as it is shown in messages. -/
def shown (s : String) : String :=
  let cs := s.toList
  let mark := quoteMark cs
  String.ofList (mark :: cs.flatMap (shownChar mark) ++ [mark])

end VaultQuery.Text
