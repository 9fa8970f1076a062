import Mycelium.Text.Basic
import Mycelium.Text.Printable

/-!
# Quoted texts

A message shows a text it complains about in quotes.

* The quote is `'`, or `"` when the text holds a `'` and no `"`.
* The quote and the backslash are escaped by a backslash; tab, line feed and
  carriage return are written `\t`, `\n` and `\r`.
* Every other character that is not printable is written by its code point, in
  two hexadecimal digits after `\x`, four after `\u` or eight after `\U`.
-/

namespace Mycelium.Text

/-- A number in hexadecimal, filled up with zeros to a width. -/
def hexPadded (width n : Nat) : Text :=
  let ds := Nat.toDigits 16 n
  List.replicate (width - ds.length) '0' ++ ds

/-- The quote a text is shown in. -/
def quoteMark (s : Text) : Char :=
  if s.contains '\x27' && !s.contains '\x22' then '\x22' else '\x27'

/-- A character as it is written between two quotes. -/
def quotedChar (q c : Char) : Text :=
  if c = q || c = '\\' then ['\\', c]
  else if c = '\t' then ['\\', 't']
  else if c = '\n' then ['\\', 'n']
  else if c = '\r' then ['\\', 'r']
  else if isPrintable c then [c]
  else if c.toNat < 0x100 then ['\\', 'x'] ++ hexPadded 2 c.toNat
  else if c.toNat < 0x10000 then ['\\', 'u'] ++ hexPadded 4 c.toNat
  else ['\\', 'U'] ++ hexPadded 8 c.toNat

/-- A text in quotes. -/
def quoted (s : Text) : Text :=
  let q := quoteMark s
  q :: (s.flatMap (quotedChar q) ++ [q])

end Mycelium.Text
