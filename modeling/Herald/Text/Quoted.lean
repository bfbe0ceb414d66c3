import Herald.Text.Digits
import Herald.Text.Extending
import Herald.Text.Unprintable
/-!
# Quoted text

A string between double quotes in which every character can be told from its
neighbours: quotes, backslashes and the common controls have short escapes,
and what cannot be printed, or would combine with the character before it, is
written by its code point.
-/

namespace Herald

namespace Quoted

/-- A code point escape: `\u`, and the code point in braces. -/
def codePoint (c : Char) : List Char :=
  ['\x5c', 'u', '\x7b'] ++ Digits.hexadecimal c.toNat ++ ['\x7d']

/-- How one character is written. -/
def escape (c : Char) : List Char :=
  if c = '\x00' then ['\x5c', '0']
  else if c = '\t' then ['\x5c', 't']
  else if c = '\r' then ['\x5c', 'r']
  else if c = '\n' then ['\x5c', 'n']
  else if c = '\x22' then ['\x5c', '\x22']
  else if c = '\x5c' then ['\x5c', '\x5c']
  else if isExtending c || isUnprintable c then codePoint c
  else [c]

/-- **Quoted text**, as a list of characters. -/
def encode (cs : List Char) : List Char := '\x22' :: cs.flatMap escape ++ ['\x22']

/-- Quoted text. -/
def quote (s : String) : String := String.ofList (encode s.toList)

end Quoted

end Herald
