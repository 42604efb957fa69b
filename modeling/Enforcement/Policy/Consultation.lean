import Enforcement.Error

/-!
Work that may put questions to somebody. The questions are kept in the order in which they are
asked, also when the work fails afterwards.
-/

namespace Enforcement

abbrev Consulting (question : Type) := ExceptT Error (StateM (List question))

namespace Consulting

def ask {question answer : Type} (decide : question → answer) (asked : question) :
    Consulting question answer := do
  modify (· ++ [asked])
  return decide asked

def outcome {question α : Type} (work : Consulting question α) :
    Except Error α × List question :=
  work.run.run []

end Consulting

/-- May a variable of a container, whose value is unknown, have any value? -/
structure WildcardQuestion where
  container : String
  variableName : String
  deriving DecidableEq, Repr, Inhabited

abbrev WildcardApprover := WildcardQuestion → Bool

end Enforcement
