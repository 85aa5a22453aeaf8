import VmDescriptor.Json.Basic

/-!
Compact JSON texts.

A value is written without blanks. Inside a string only the quote, the backslash and the
controls below U+0020 are escaped. An unreadable value has no text of its own.
-/

namespace VmDescriptor.Json

open Text

/-- How a character is written inside a string. -/
def escapeChar (c : Char) : List Char :=
  if c == '\x22' then ['\\', '\x22']
  else if c == '\\' then ['\\', '\\']
  else if c == '\n' then ['\\', 'n']
  else if c == '\r' then ['\\', 'r']
  else if c == '\t' then ['\\', 't']
  else if c.toNat == 8 then ['\\', 'b']
  else if c.toNat == 12 then ['\\', 'f']
  else if c.toNat < 0x20 then ['\\', 'u'] ++ hexDigits 4 c.toNat
  else [c]

/-- A string in quotes. -/
def stringText (s : String) : String :=
  .ofList (['\x22'] ++ s.toList.flatMap escapeChar ++ ['\x22'])

mutual

/-- The compact text of a value. -/
def text : Json → String
  | .null | .unreadable => "null"
  | .boolean b => if b then "true" else "false"
  | .number n => n.text
  | .string s => stringText s
  | .array items => "[" ++ ",".intercalate (itemTexts items) ++ "]"
  | .object fields => "\x7b" ++ ",".intercalate (fieldTexts fields) ++ "\x7d"

/-- The texts of the items of an array. -/
def itemTexts : List Json → List String
  | [] => []
  | j :: rest => text j :: itemTexts rest

/-- The texts of the fields of an object. -/
def fieldTexts : List (Name × Json) → List String
  | [] => []
  | (name, j) :: rest => (stringText name.text ++ ":" ++ text j) :: fieldTexts rest

end

end VmDescriptor.Json
