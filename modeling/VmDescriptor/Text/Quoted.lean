import VmDescriptor.Text.Numeral
import VmDescriptor.Text.Printable

/-!
Quoted texts, as messages show them.

A quoted text stands between double quotes. A quote or backslash inside it follows a
backslash, five common controls have short escapes, and every other character that is not
printable is written by its code point in braces.
-/

namespace VmDescriptor.Text

/-- A code point in lower-case hexadecimal, without leading zeros. -/
def hexadecimal (n : Nat) : List Char :=
  Nat.toDigits 16 n

/-- How a character is shown inside a quoted text. -/
def quoteChar (c : Char) : List Char :=
  if c == '\x22' then ['\\', '\x22']
  else if c == '\\' then ['\\', '\\']
  else if c == '\n' then ['\\', 'n']
  else if c == '\r' then ['\\', 'r']
  else if c == '\t' then ['\\', 't']
  else if c.toNat == 0 then ['\\', '0']
  else if (0x20 ≤ c.toNat && c.toNat < 0x7F) || isPrintable c then [c]
  else ['\\', 'u', '\x7b'] ++ hexadecimal c.toNat ++ ['\x7d']

/-- A text in double quotes. -/
def quoted (s : String) : String :=
  .ofList (['\x22'] ++ s.toList.flatMap quoteChar ++ ['\x22'])

/-- A list of texts: each quoted, with commas between, in square brackets. -/
def quotedList (ss : List String) : String :=
  "[" ++ ", ".intercalate (ss.map quoted) ++ "]"

end VmDescriptor.Text
