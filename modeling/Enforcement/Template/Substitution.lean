import Enforcement.Json.Printer
import Enforcement.Template.Reference

/-! Values put in place of references in the text of a document. -/

namespace Enforcement.Template

open Enforcement.Json

/-- The characters from `start` up to `stop` give way to `insert`. -/
structure Splice where
  start : Nat
  stop : Nat
  insert : List Char
  deriving Repr

def plainText : Value → List Char
  | .string text => text.toList
  | value => compact value

/--
A reference that is a whole string gives way, quotes included, to the value; within a longer
string it gives way to the text of the value.
-/
def Occurrence.splice (occurrence : Occurrence) (value : Value) : Splice :=
  if occurrence.isWholeString then
    ⟨occurrence.start - 1, occurrence.stop + 1, compact value⟩
  else ⟨occurrence.start, occurrence.stop, escape (plainText value)⟩

def splices (kind : ReferenceKind) (resolve : String → Option Value) (text : List Char) :
    List Splice :=
  (occurrences text).filterMap fun occurrence =>
    if occurrence.reference.kind = kind then
      (resolve (String.ofList occurrence.reference.name)).map occurrence.splice
    else none

def applySplices : Nat → List Char → List Splice → List Char
  | _, text, [] => text
  | cursor, text, splice :: rest =>
    text.take (splice.start - cursor) ++ splice.insert ++
      applySplices splice.stop (text.drop (splice.stop - cursor)) rest

/-- Text that was put in is not searched again. -/
def substitute (kind : ReferenceKind) (resolve : String → Option Value) (text : List Char) :
    List Char :=
  applySplices 0 text (splices kind resolve text)

end Enforcement.Template
