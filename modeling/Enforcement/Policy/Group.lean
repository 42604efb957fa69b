import Enforcement.Policy.Container
import Enforcement.Template.Evaluation

/-! Policies for the container groups of an evaluated template, one for each group. -/

namespace Enforcement

open Enforcement.Json Enforcement.Template Enforcement.Text

inductive ResourceKind where
  | containerGroup
  | containerGroupProfile
  | other (type : String)
  deriving DecidableEq, Repr, Inhabited

namespace ResourceKind

def ofResource (resource : Value) : ResourceKind :=
  let type := (textProperty? resource "type").getD ""
  if sameLetters type "Microsoft.ContainerInstance/containerGroups" then containerGroup
  else if sameLetters type "Microsoft.ContainerInstance/containerGroupProfiles" then
    containerGroupProfile
  else other type

def isGroup : ResourceKind → Bool
  | other _ => false
  | _ => true

end ResourceKind

def isContainerGroup (resource : Value) : Bool := (ResourceKind.ofResource resource).isGroup

def groupName (resource : Value) : String := (textProperty? resource "name").getD "<unnamed>"

namespace Policy

/-- The tag may be a flag or the text of one. -/
def isZeroSidecar (resource : Value) : Bool :=
  match (property? resource "tags").bind (property? · Defaults.zeroSidecarTag) with
  | some (.bool flag) => flag
  | some (.string text) => sameLetters text "true"
  | _ => false

def standaloneFragments (properties : Value) : Except Error (List FragmentImport) :=
  match (property? properties "confidentialComputeProperties").bind
      (property? · "standaloneFragments") with
  | none => .ok []
  | some (.array entries) => entries.mapM FragmentImport.ofValue
  | some _ => .error (.input .standaloneNotList)

def externalFragments (options : BuildOptions) (pulled : List FragmentImport)
    (resource : Value) : List FragmentImport :=
  if isZeroSidecar resource then []
  else if options.excludeDefaultFragments then pulled
  else Defaults.infrastructureFragment options.infrastructureSvn :: pulled

def filledList? (owner : Value) (key : String) : Option (List Value) :=
  (listProperty? owner key).filter (!·.isEmpty)

def ofGroup (approver : WildcardApprover) (options : BuildOptions)
    (pulled : List FragmentImport) (resource : Value) : Consulting WildcardQuestion Policy := do
  let group := groupName resource
  match property? resource "properties" with
  | none => throw (.input (.groupWithoutProperties group))
  | some properties =>
    match filledList? properties "containers" with
    | none => throw (.input (.groupWithoutContainers group))
    | some declared =>
      let initial := (listProperty? properties "initContainers").getD []
      let volumes := (listProperty? properties "volumes").getD []
      let containers ← (declared ++ initial).mapM
        (Container.compile approver options (.template volumes))
      let standalone ← standaloneFragments properties
      return ⟨distinct (externalFragments options pulled resource ++ standalone), containers⟩

def ofTemplate (approver : WildcardApprover) (options : BuildOptions)
    (pulled : List FragmentImport) (evaluated : Evaluated) :
    Consulting WildcardQuestion (List Policy) := do
  match evaluated.resources?.filter (!·.isEmpty) with
  | none => throw (.input .resourcesEmpty)
  | some resources =>
    match options.infrastructureSvn with
    | some svn => let _ ← Svn.parse svn
    | none => pure ()
    (resources.filter isContainerGroup).mapM (ofGroup approver options pulled)

end Policy

end Enforcement
