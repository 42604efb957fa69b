import Enforcement.Policy.Group

/-!
Specification files, which list containers directly. They say exactly what a fragment
contributes, so nothing is added to the fragments that they list.
-/

namespace Enforcement.Policy

open Enforcement.Json Enforcement.Template

def listedFragments (document : Value) : Except Error (List FragmentImport) :=
  match property? document "fragments" with
  | none => .ok []
  | some (.array entries) => entries.mapM FragmentImport.ofValue
  | some _ => .error (.input (.fieldNotList "fragments"))

def ofSpecFile (approver : WildcardApprover) (options : BuildOptions) (document : Value) :
    Consulting WildcardQuestion Policy := do
  match filledList? document "containers" with
  | none => throw (.input .specFileWithoutContainers)
  | some declared =>
    let containers ← declared.mapM (Container.compile approver options .specFile)
    return ⟨distinct (← listedFragments document), containers⟩

end Enforcement.Policy
