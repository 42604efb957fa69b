import Enforcement.Image.Reference
import Enforcement.Json.Shape
import Enforcement.Text.Line
import Enforcement.Text.Refusal
import Enforcement.Trust.Signer

/-! The registry client: fragments found, fetched and published beside the images they are for. -/

namespace Enforcement

open Enforcement.Files Enforcement.Json Enforcement.Text

def fragmentArtifactType : String := "application/x-ms-ccepolicy-frag"

def fragmentMediaType : String := "application/cose-x509+rego"

def discoveryShape : Shape :=
  .record [(["manifests"], true, .list (.record [(["digest"], false, .text)]))]

def discoveredDigests (found : Value) : List String :=
  let manifests := ((found.members?.bind (memberAt? "manifests")).bind Value.array?).getD []
  manifests.filterMap fun manifest =>
    (manifest.members?.bind (memberAt? "digest")).bind Value.string?

structure Registry where
  setting : ToolSetting
  artifactType : String
  deriving DecidableEq, Repr, Inhabited

namespace Registry

def installHint : String :=
  "install the ORAS CLI (https://oras.land/docs/installation) and put it on PATH, " ++
    "or set [tools] oras in ~/.confcom/config.toml"

def call (registry : Registry) (directory : Option String) (args : List String) :
    Job ToolOutput :=
  Job.call installHint
    ⟨registry.setting.program, args, directory, 1000 * registry.setting.seconds⟩

def failure (output : ToolOutput) : Error := .tool "oras" output.exit output.stderr

/-- Any exit code but zero is a failure; a refused login is told apart from the others. -/
def callChecked (registry : Registry) (reference : ImageReference) (directory : Option String)
    (args : List String) : Job ToolOutput := do
  let output ← registry.call directory args
  if output.succeeded then return output
  if isRefusal output.combined then
    Job.fail (.trust (.unauthorized reference.registry (trimmed output.combined)))
  Job.fail (failure output)

def checkAvailable (registry : Registry) : Job Unit := do
  let output ← registry.call none ["version"]
  if !output.succeeded then Job.fail (failure output)

def discover (registry : Registry) (image : String) : Job (List String) := do
  let reference ← ImageReference.parse image
  let output ← registry.callChecked reference none
    ["discover", reference.toText, "-o", "json", "--artifact-type", registry.artifactType]
  match discoveryShape.readDocument output.stdout with
  | .ok found => return discoveredDigests found
  | .error fault => Job.fail (.json "oras discover output" fault)

def downloadedName? (output : String) : Option String :=
  let report := "Downloaded".toList
  let line? := ((lines output.toList).map trim).find? (report.isPrefixOf ·)
  ((line?.bind fun line => (words line).getLast?).filter (· != report)).map String.ofList

def pull (registry : Registry) (image digest directory : String) : Job String := do
  let reference ← ImageReference.parse image
  Job.createDirectories directory
  let output ← registry.callChecked reference (some directory) ["pull", reference.atDigest digest]
  match downloadedName? output.stdout with
  | some name => return join directory name
  | none => Job.fail (.output "oras" (.noDownload digest))

def fileOperand (path : String) : Job (Option String × String) := do
  requireFile "signed fragment" path
  match fileName? path with
  | none => Job.fail (.input (.pathWithoutName path))
  | some name =>
    return ((parent? path).filter (!·.isEmpty), name ++ ":" ++ fragmentMediaType)

def attach (registry : Registry) (image signed : String) : Job Unit := do
  let reference ← ImageReference.parse image
  let (directory, operand) ← fileOperand signed
  let _ ← registry.callChecked reference directory
    ["attach", "--artifact-type", registry.artifactType, reference.toText, operand]

def push (registry : Registry) (signed destination : String) : Job Unit := do
  let reference ← ImageReference.parse destination
  let (directory, operand) ← fileOperand signed
  let _ ← registry.callChecked reference directory ["push", operand, reference.toText]

end Registry

end Enforcement
