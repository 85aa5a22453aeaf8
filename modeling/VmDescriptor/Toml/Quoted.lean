import VmDescriptor.Text.Numeral

/-!
Strings of TOML texts.

A basic string stands between double quotes and has escapes; a literal string stands between
single quotes and has none. Between three quotes a string may run over several lines; a line
break directly after the opening quotes is dropped, and every other one is a line feed. In a
basic string of several lines a backslash at the end of a line removes all blanks and line
breaks up to the next other character.
-/

namespace VmDescriptor.Toml

open Text

/-- Whether a character may stand inside a string or comment as it is. -/
def isPlain (c : Char) : Bool :=
  c == '\t' || (0x20 ≤ c.toNat && c.toNat != 0x7F)

/-- The character of a code point in hexadecimal, if it is one. -/
def codePoint? (cs : List Char) : Option Char :=
  (hex? cs).bind fun n => if n.isValidChar then some (.ofNat n) else none

/-- The character that a backslash and a letter stand for. -/
def escaped? : Char → Option Char
  | 'b' => some '\x08'
  | 't' => some '\t'
  | 'n' => some '\n'
  | 'f' => some '\x0c'
  | 'r' => some '\r'
  | '\x22' => some '\x22'
  | '\\' => some '\\'
  | _ => none

/-- A string with one more character in front, and the rest. -/
def push (c : Char) (r : List Char × List Char) : List Char × List Char :=
  (c :: r.1, r.2)

/-- The string up to the closing quote of a basic string, and the rest. -/
def basic? : List Char → Option (List Char × List Char)
  | '\x22' :: rest => some ([], rest)
  | '\\' :: 'u' :: a :: b :: c :: d :: rest => do
    let x ← codePoint? [a, b, c, d]
    return push x (← basic? rest)
  | '\\' :: 'U' :: a :: b :: c :: d :: e :: f :: g :: h :: rest => do
    let x ← codePoint? [a, b, c, d, e, f, g, h]
    return push x (← basic? rest)
  | '\\' :: c :: rest => do
    let x ← escaped? c
    return push x (← basic? rest)
  | c :: rest => if isPlain c then (basic? rest).map (push c) else none
  | [] => none

/-- The string up to the closing quote of a literal string, and the rest. -/
def literal? : List Char → Option (List Char × List Char)
  | '\x27' :: rest => some ([], rest)
  | c :: rest => if isPlain c then (literal? rest).map (push c) else none
  | [] => none

/-- How a basic string of several lines goes on. -/
inductive LineState where
  | inside
  /-- After a backslash and blanks, up to the end of the line. -/
  | backslash
  /-- After such a line, among blanks and line breaks. -/
  | skipping
  deriving DecidableEq

/-- The string up to the closing quotes of a basic string of several lines, and the rest. Up
to two quotes before the closing ones belong to the string. -/
def basicLines? : LineState → List Char → Option (List Char × List Char)
  | .backslash, '\n' :: rest => basicLines? .skipping rest
  | .backslash, '\r' :: '\n' :: rest => basicLines? .skipping rest
  | .backslash, c :: rest =>
    if c = ' ' ∨ c = '\t' then basicLines? .backslash rest else none
  | .skipping, '\n' :: rest => basicLines? .skipping rest
  | .skipping, '\r' :: '\n' :: rest => basicLines? .skipping rest
  | .skipping, ' ' :: rest => basicLines? .skipping rest
  | .skipping, '\t' :: rest => basicLines? .skipping rest
  | _, '\x22' :: '\x22' :: '\x22' :: '\x22' :: '\x22' :: rest => some (['\x22', '\x22'], rest)
  | _, '\x22' :: '\x22' :: '\x22' :: '\x22' :: rest => some (['\x22'], rest)
  | _, '\x22' :: '\x22' :: '\x22' :: rest => some ([], rest)
  | _, '\\' :: 'u' :: a :: b :: c :: d :: rest => do
    let x ← codePoint? [a, b, c, d]
    return push x (← basicLines? .inside rest)
  | _, '\\' :: 'U' :: a :: b :: c :: d :: e :: f :: g :: h :: rest => do
    let x ← codePoint? [a, b, c, d, e, f, g, h]
    return push x (← basicLines? .inside rest)
  | _, '\\' :: '\n' :: rest => basicLines? .skipping rest
  | _, '\\' :: '\r' :: '\n' :: rest => basicLines? .skipping rest
  | _, '\\' :: c :: rest =>
    if c = ' ' ∨ c = '\t' then basicLines? .backslash rest
    else do
      let x ← escaped? c
      return push x (← basicLines? .inside rest)
  | _, '\n' :: rest => (basicLines? .inside rest).map (push '\n')
  | _, '\r' :: '\n' :: rest => (basicLines? .inside rest).map (push '\n')
  | _, c :: rest => if isPlain c then (basicLines? .inside rest).map (push c) else none
  | _, [] => none

/-- The string up to the closing quotes of a literal string of several lines, and the rest. -/
def literalLines? : List Char → Option (List Char × List Char)
  | '\x27' :: '\x27' :: '\x27' :: '\x27' :: '\x27' :: rest => some (['\x27', '\x27'], rest)
  | '\x27' :: '\x27' :: '\x27' :: '\x27' :: rest => some (['\x27'], rest)
  | '\x27' :: '\x27' :: '\x27' :: rest => some ([], rest)
  | '\n' :: rest => (literalLines? rest).map (push '\n')
  | '\r' :: '\n' :: rest => (literalLines? rest).map (push '\n')
  | c :: rest => if isPlain c then (literalLines? rest).map (push c) else none
  | [] => none

/-- A text without a line break at its front. -/
def withoutBreak : List Char → List Char
  | '\n' :: rest => rest
  | '\r' :: '\n' :: rest => rest
  | cs => cs

/-- The string at the front of a text that begins with a quote, and the rest. -/
def string? : List Char → Option (List Char × List Char)
  | '\x22' :: '\x22' :: '\x22' :: rest => basicLines? .inside (withoutBreak rest)
  | '\x22' :: rest => basic? rest
  | '\x27' :: '\x27' :: '\x27' :: rest => literalLines? (withoutBreak rest)
  | '\x27' :: rest => literal? rest
  | _ => none

end VmDescriptor.Toml
