import Enforcement.Text.Blank

/-!
References to parameters and variables in a text, such as `[parameters('size')]`: what one looks
like, and where they stand.
-/

namespace Enforcement.Template

open Enforcement.Text

inductive ReferenceKind where
  | parameters
  | variables
  deriving DecidableEq, Repr, Inhabited

def ReferenceKind.keyword : ReferenceKind → List Char
  | .parameters => "parameters".toList
  | .variables => "variables".toList

structure Reference where
  kind : ReferenceKind
  name : List Char
  deriving DecidableEq, Repr

def isNameChar (c : Char) : Bool := c != '\'' && c != '.' && c != '/'

def after? : List Char → List Char → Option (List Char)
  | [], text => some text
  | _ :: _, [] => none
  | letter :: letters, c :: text => if letter = c then after? letters text else none

def keyword? (text : List Char) : Option (ReferenceKind × List Char) :=
  match after? ReferenceKind.parameters.keyword text with
  | some rest => some (.parameters, rest)
  | none => (after? ReferenceKind.variables.keyword text).map (.variables, ·)

def reference? (text : List Char) : Option (Reference × List Char) := do
  let rest ← after? ['['] text
  let (kind, rest) ← keyword? (trimStart rest)
  let rest ← after? ['('] rest
  let rest ← after? ['\''] (trimStart rest)
  let name := rest.takeWhile isNameChar
  guard (!name.isEmpty)
  let rest ← after? ['\''] (rest.dropWhile isNameChar)
  let rest ← after? [')', ']'] (trimStart rest)
  return (⟨kind, name⟩, rest)

/-- A reference with what stands around it; `before` runs backwards from it. -/
structure Occurrence where
  start : Nat
  stop : Nat
  reference : Reference
  before : List Char
  after : List Char
  deriving Repr

/--
The references of a text from left to right, none overlapping another. `covered` counts the
characters that still belong to the reference found last.
-/
def occurrencesFrom : Nat → Nat → List Char → List Char → List Occurrence
  | _, _, _, [] => []
  | position, covered + 1, before, c :: rest =>
    occurrencesFrom (position + 1) covered (c :: before) rest
  | position, 0, before, c :: rest =>
    match reference? (c :: rest) with
    | none => occurrencesFrom (position + 1) 0 (c :: before) rest
    | some (reference, after) =>
      let length := (c :: rest).length - after.length
      ⟨position, position + length, reference, before, after⟩ ::
        occurrencesFrom (position + 1) (length - 1) (c :: before) rest

def occurrences (text : List Char) : List Occurrence := occurrencesFrom 0 0 [] text

def containsReference (text : List Char) : Bool := !(occurrences text).isEmpty

/--
Whether the reference is all that a string of the document holds: quotes on both sides, the first
not escaped by an odd number of backslashes.
-/
def Occurrence.isWholeString (occurrence : Occurrence) : Bool :=
  match occurrence.before, occurrence.after with
  | '"' :: before, '"' :: _ => (before.takeWhile (· == '\\')).length % 2 == 0
  | _, _ => false

end Enforcement.Template
