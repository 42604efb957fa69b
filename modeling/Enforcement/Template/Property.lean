import Enforcement.Json.Value
import Enforcement.Text.LetterCase

/-! Properties of a document, found whatever the case of their letters. -/

namespace Enforcement.Template

open Enforcement.Json Enforcement.Text

/-- The member of this very name, or else the first whose name has the same letters. -/
def memberFor? (name : String) (members : List (String × Value)) : Option Value :=
  match memberAt? name members with
  | some value => some value
  | none => (members.find? (sameLetters ·.1 name)).map (·.2)

/-- A member that is null counts as absent and hides no other. -/
def member? (name : String) (members : List (String × Value)) : Option Value :=
  (memberFor? name members).filter (!·.isNull)

def property? (document : Value) (name : String) : Option Value :=
  document.members?.bind (member? name)

def textProperty? (document : Value) (name : String) : Option String :=
  (property? document name).bind Value.string?

def listProperty? (document : Value) (name : String) : Option (List Value) :=
  (property? document name).bind Value.array?

def spelling (members : List (String × Value)) (name : String) : String :=
  if (memberAt? name members).isSome then name
  else ((members.find? (sameLetters ·.1 name)).map (·.1)).getD name

end Enforcement.Template
