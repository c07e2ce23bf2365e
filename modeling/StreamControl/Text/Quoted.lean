import StreamControl.Text.Combining
import StreamControl.Text.Unprintable

/-!
# Quoted text

Names and string values are shown between double quotes.  A quote, a
backslash, a tab, a line end and a null are written with a backslash; a
character that cannot be seen on its own is written by its code point in
hexadecimal; every other character stands for itself.
-/

set_option autoImplicit false

namespace StreamControl.Text

/-- A character by its code point, in lower-case hexadecimal. -/
def byCodePoint (c : Char) : List Char :=
  ['\\', 'u', '\x7b'] ++ Nat.toDigits 16 c.toNat ++ ['\x7d']

/-- The written form of one character between quotes. -/
def escape (c : Char) : List Char :=
  if c = '\x00' then ['\\', '0']
  else if c = '\t' then ['\\', 't']
  else if c = '\r' then ['\\', 'r']
  else if c = '\n' then ['\\', 'n']
  else if c = '"' then ['\\', '"']
  else if c = '\\' then ['\\', '\\']
  else if isCombining c || isUnprintable c then byCodePoint c
  else [c]

/-- A text between double quotes. -/
def quote (s : String) : String :=
  String.ofList ('"' :: s.toList.flatMap escape ++ ['"'])

/-- Several texts, each quoted, as a bracketed list. -/
def quoteList (texts : List String) : String :=
  "[" ++ ", ".intercalate (texts.map quote) ++ "]"

end StreamControl.Text
