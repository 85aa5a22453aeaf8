import VmDescriptor.Program

/-!
Encoders.

An encoder is a program that also writes: it calls a writer step by step, and makes its lookups
and reports its notices in between. A call that misuses the writer ends the build with an error.
The calls are kept on record beside the writer.
-/

namespace VmDescriptor

open Xml

/-- A writer in use: with the calls that have been made on it, the last one first. -/
structure Draft where
  writer : Writer
  calls : List Call

/-- A draft that nothing has been written on. -/
def Draft.empty : Draft := ⟨.empty, []⟩

/-- A program that writes on a draft. -/
abbrev Encoder := StateT Draft Program

namespace Encoder

/-- Calls the writer. -/
def call (c : Call) : Encoder Unit := fun d =>
  match d.writer.perform c with
  | .ok w => pure ((), ⟨w, c :: d.calls⟩)
  | .error misuse => .fail (.document misuse)

/-! ### Choices and loops -/

/-- Writes something only if a condition holds. -/
def when (c : Prop) [Decidable c] (e : Encoder Unit) : Encoder Unit :=
  if c then e else pure ()

/-- Writes something for a value, if there is one. -/
def whenSome {α : Type} (o : Option α) (f : α → Encoder Unit) : Encoder Unit :=
  forM o f

/-- Writes something for each value, in order. -/
def each {α : Type} (xs : List α) (f : α → Encoder Unit) : Encoder Unit :=
  forM xs f

/-! ### The operations of the writer -/

/-- Writes the XML declaration. -/
def declaration : Encoder Unit :=
  call .declaration

/-- Opens an element. -/
def start (name : String) : Encoder Unit :=
  call (.start name)

/-- Opens an element with a name in a namespace. -/
def startQualified (namespaceName name : String) : Encoder Unit :=
  start (Writer.qualified namespaceName name)

/-- Adds an attribute to the element just opened. -/
def addAttribute (key value : String) : Encoder Unit :=
  call (.attribute key value)

/-- Adds an attribute that has a value. -/
def addAttributeIf (key : String) (value : Option String) : Encoder Unit :=
  whenSome value (addAttribute key)

/-- Declares a namespace on the element just opened. -/
def declareNamespace (namespaceName uri : String) : Encoder Unit :=
  addAttribute (Writer.qualified "xmlns" namespaceName) uri

/-- Writes a text. -/
def text (s : String) : Encoder Unit :=
  call (.text s)

/-- Closes the innermost element. -/
def close : Encoder Unit :=
  call .close

/-- Writes an element with a text. -/
def withText (name s : String) : Encoder Unit := do
  start name
  text s
  close

/-- Writes an element without anything. -/
def bare (name : String) : Encoder Unit := do
  start name
  close

/-- Writes an element with attributes alone. -/
def leaf (name : String) (attributes : List (String × String)) : Encoder Unit := do
  start name
  each attributes fun (key, value) => addAttribute key value
  close

end Encoder

end VmDescriptor
