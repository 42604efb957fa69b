import Enforcement.Template.Basic
import Enforcement.Template.Substitution

/-!
Evaluation of a template: first its parameters and then its variables are put in place of the
references to them. A variable is taken as the template declares it, so a reference to a parameter
inside a variable stays.
-/

namespace Enforcement

open Enforcement.Json Enforcement.Template

structure Evaluated where
  document : Value
  deriving Repr, Inhabited

def Evaluated.resources? (evaluated : Evaluated) : Option (List Value) :=
  listProperty? evaluated.document "resources"

namespace Template

/-- A supplied value, then the declared one, then the default. -/
def parameterValue? (template : Template) (supplied : Supplied) (name : String) : Option Value :=
  (supplied.get? name).or do
    let declaration ← template.parameters?.bind (member? name)
    (property? declaration "value").or (property? declaration "defaultValue")

def variableValue? (template : Template) (name : String) : Option Value :=
  template.variables?.bind (member? name)

def substitutedText (template : Template) (supplied : Supplied) : List Char :=
  substitute .variables template.variableValue?
    (substitute .parameters (template.parameterValue? supplied) (compact template.document))

def evaluate (template : Template) (supplied : Supplied) : Except Error Evaluated := do
  supplied.ensureDeclared template
  let document ← (readText (template.substitutedText supplied)).mapError
    (.json "evaluated ARM template")
  return ⟨document⟩

end Template

end Enforcement
