import Enforcement.Error
import Enforcement.Json.Reader
import Enforcement.Template.Property

/-! Deployment templates and the parameter values that are supplied for them. -/

namespace Enforcement

open Enforcement.Json Enforcement.Template

def readJson (context text : String) : Except Error Value :=
  (Value.read text).mapError (.json context)

structure Template where
  members : List (String × Value)
  deriving Repr, Inhabited

namespace Template

def document (template : Template) : Value := .object template.members

def ofValue : Value → Except Error Template
  | .object members => .ok ⟨members⟩
  | _ => .error (.input .templateNotObject)

def read (text : String) : Except Error Template := do
  ofValue (← readJson "ARM template" text)

def parameters? (template : Template) : Option (List (String × Value)) :=
  (member? "parameters" template.members).bind Value.members?

def variables? (template : Template) : Option (List (String × Value)) :=
  (member? "variables" template.members).bind Value.members?

end Template

abbrev Supplied := List (String × Value)

namespace Supplied

def get? (supplied : Supplied) (name : String) : Option Value := member? name supplied

def names (supplied : Supplied) : List String := supplied.map (·.1)

private def addEntry (supplied : Supplied) : String × Value → Except Error Supplied
  | (name, entry) =>
    match (property? entry "value").or (property? entry "secureValue") with
    | some value => .ok (insertMember name value supplied)
    | none => .error (.input (.parameterWithoutValue name))

/-- The values of a parameters document; a secure value counts where there is no plain one. -/
def ofDocument (document : Value) : Except Error Supplied :=
  match (property? document "parameters").bind Value.members? with
  | some entries => entries.foldlM addEntry []
  | none => .error (.input .parametersMissing)

def Declares (template : Template) (name : String) : Prop :=
  (template.parameters?.bind (member? name)).isSome = true

instance (template : Template) (name : String) : Decidable (Declares template name) :=
  inferInstanceAs (Decidable (_ = true))

/-- Every supplied name must be declared; the first that is not is reported. -/
def ensureDeclared (supplied : Supplied) (template : Template) : Except Error Unit :=
  match supplied.names.find? (¬ Declares template ·) with
  | some name => .error (.input (.parameterUndeclared name))
  | none => .ok ()

end Supplied

end Enforcement
