/-! The variables that a program finds set. -/

namespace Enforcement

abbrev Environment := List (String × String)

def Environment.value? (environment : Environment) (name : String) : Option String :=
  (environment.find? (·.1 == name)).map (·.2)

end Enforcement
