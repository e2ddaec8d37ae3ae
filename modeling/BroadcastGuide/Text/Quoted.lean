import BroadcastGuide.Numeral.Hexadecimal
import BroadcastGuide.Text.Printable

/-!
Texts in quotes, for messages that must show where a text starts and ends.
-/

namespace BroadcastGuide.Text

/-- The code point of a character that cannot be shown, in two, four or eight digits. -/
def codePoint (c : Char) : List Char :=
  let n := c.toNat
  if n < 0x100 then '\x5c' :: 'x' :: (Numeral.hexLower 2 n).toList
  else if n < 0x10000 then '\x5c' :: 'u' :: (Numeral.hexLower 4 n).toList
  else '\x5c' :: 'U' :: (Numeral.hexLower 8 n).toList

def quoteChar (mark c : Char) : List Char :=
  if c = '\x5c' then ['\x5c', '\x5c']
  else if c = mark then ['\x5c', mark]
  else if c = '\t' then ['\x5c', 't']
  else if c = '\n' then ['\x5c', 'n']
  else if c = '\r' then ['\x5c', 'r']
  else if isPrintable c then [c]
  else codePoint c

/-- Double quotes are used only for a text that has single quotes and no double ones. -/
def quoteMark (s : List Char) : Char :=
  if s.contains '\x27' && !s.contains '\x22' then '\x22' else '\x27'

def quoted (s : String) : String :=
  let mark := quoteMark s.toList
  String.ofList (mark :: s.toList.flatMap (quoteChar mark) ++ [mark])

end BroadcastGuide.Text
