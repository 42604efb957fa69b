import Enforcement.Policy.Consultation
import Enforcement.Policy.Group

/-! Policies written back into the container groups of a template. -/

namespace Enforcement.Injection

open Enforcement.Json Enforcement.Template

def confidentialKey : String := "confidentialComputeProperties"

def policyKey : String := "ccePolicy"

inductive Outcome where
  | written (group : String)
  | kept (group : String)
  deriving DecidableEq, Repr, Inhabited

/-- May the policy that a group has already be replaced? -/
abbrev OverwriteApprover := String → Bool

/-- The policy of a group, put where the group would be searched for it. -/
def injectGroup (approver : OverwriteApprover) (policy : String) (resource : Value) :
    Consulting String (Outcome × Value) := do
  let group := groupName resource
  let members := resource.members?.getD []
  let propertiesKey := spelling members "properties"
  match (memberAt? propertiesKey members).bind Value.members? with
  | none => throw (.input (.groupPropertiesNotObject group))
  | some properties =>
    let key := spelling properties confidentialKey
    match ((memberAt? key properties).getD (.object [])).members? with
    | none => throw (.input (.confidentialNotObject group))
    | some confidential =>
      let name := spelling confidential policyKey
      let present := match memberAt? name confidential with
        | some (.string held) => !held.isEmpty
        | _ => false
      let rewrite (confidential : List (String × Value)) : Value :=
        .object (insertMember propertiesKey
          (.object (insertMember key (.object confidential) properties)) members)
      if present then
        if ← Consulting.ask approver group then
          return (.written group, rewrite (insertMember name (.string policy) confidential))
        else return (.kept group, rewrite confidential)
      else return (.written group, rewrite (insertMember name (.string policy) confidential))

structure Progress where
  outcomes : List Outcome
  resources : List Value
  failure : Option Error
  asked : List String

/-- Each group takes the next policy; the first failure leaves the rest as it is. -/
def injectResources (approver : OverwriteApprover) :
    List String → List Value → Progress
  | _, [] => ⟨[], [], none, []⟩
  | policies, resource :: rest =>
    if isContainerGroup resource then
      match policies with
      | [] => ⟨[], resource :: rest, none, []⟩
      | policy :: policies =>
        match (injectGroup approver policy resource).outcome with
        | (.error failure, asked) => ⟨[], resource :: rest, some failure, asked⟩
        | (.ok (outcome, changed), asked) =>
          let after := injectResources approver policies rest
          ⟨outcome :: after.outcomes, changed :: after.resources, after.failure,
            asked ++ after.asked⟩
    else
      let after := injectResources approver policies rest
      { after with resources := resource :: after.resources }

/-- The outcome of an injection; the document holds what was written before any failure. -/
structure Report where
  result : Except Error (List Outcome)
  document : Value
  asked : List String

def inject (approver : OverwriteApprover) (policies : List String) (document : Value) : Report :=
  let members := document.members?.getD []
  let key := spelling members "resources"
  match (memberAt? key members).bind Value.array? with
  | none => ⟨.error (.input .resourcesMissing), document, []⟩
  | some resources =>
    let groups := (resources.filter isContainerGroup).length
    if groups ≠ policies.length then
      ⟨.error (.input (.policyCountDiffers groups policies.length)), document, []⟩
    else
      let progress := injectResources approver policies resources
      let result := match progress.failure with
        | some failure => .error failure
        | none => .ok progress.outcomes
      ⟨result, .object (insertMember key (.array progress.resources) members), progress.asked⟩

end Enforcement.Injection
