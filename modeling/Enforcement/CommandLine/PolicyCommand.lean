import Enforcement.CommandLine.Request
import Enforcement.CommandLine.Work
import Enforcement.Digest.Base64
import Enforcement.Digest.Sha256
import Enforcement.Imports.File
import Enforcement.Policy.Injection
import Enforcement.Policy.SpecFile
import Enforcement.Template.Evaluation
import Enforcement.Template.Loading

/-!
Policies made from a template or from a specification file. Nobody can be asked, so no wildcard is
approved and no policy of a template is replaced.
-/

namespace Enforcement.CommandLine

open Enforcement.Json Enforcement.Template

namespace PolicySource

def policies (options : BuildOptions) (pulled : List FragmentImport) :
    PolicySource → Job (List Policy)
  | template path parameters => do
    let template ← Template.load path
    let supplied ← match parameters with
      | some path => Supplied.load path
      | none => pure []
    let evaluated ← template.evaluate supplied
    (Policy.ofTemplate (fun _ => false) options pulled evaluated).outcome.1
  | specFile path => do
    let document ← loadSpecFile path
    let policy ← (Policy.ofSpecFile (fun _ => false) options document).outcome.1
    return [{ policy with fragments := distinct (pulled ++ policy.fragments) }]

end PolicySource

def PolicyFormat.render (policy : Policy) (debugMode : Bool) : PolicyFormat → String
  | json => policy.toValue.prettyText
  | rego => Rego.renderPolicy policy debugMode
  | base64 => Digest.textBase64 (Rego.renderPolicy policy debugMode)

def writtenLines (outcomes : List Injection.Outcome) (texts : List String) : List String :=
  (outcomes.zip texts).filterMap fun
    | (.written group, text) => some (group ++ " " ++ Digest.textHash text)
    | (.kept _, _) => none

/-- Writes policies into the template that they were made from, all of them or none. -/
def injectInto (path : String) (policies : List Policy) (debugMode : Bool) : Work String := do
  let texts := policies.map (Rego.renderPolicy · debugMode)
  let template ← Template.load path
  let report := Injection.inject (fun _ => false) (texts.map Digest.textBase64) template.document
  let outcomes ← (report.result : Job (List Injection.Outcome))
  Work.writeText path (report.document.prettyText ++ "\n")
  return outputLines (writtenLines outcomes texts)

namespace PolicyRequest

def pulled (request : PolicyRequest) : Work (List FragmentImport) :=
  match request.imports with
  | none => return []
  | some path => return (← Work.ofJob (.loading path) (ImportsFile.load path)).fragments

def run (request : PolicyRequest) : Work String := do
  let pulled ← request.pulled
  match request.source with
  | none => Work.fail .sourceMissing
  | some source =>
    let policies ← source.policies request.options pulled
    let debugMode := request.options.debugMode
    match request.delivery, source with
    | .injection, .template path _ => injectInto path policies debugMode
    | .injection, .specFile _ => Work.fail .injectionWithoutTemplate
    | .output format path, _ =>
      let text := "\n".intercalate (policies.map (format.render · debugMode)) ++ "\n"
      match path with
      | none => return text
      | some path =>
        Work.writeText path text
        return ""

end PolicyRequest

end Enforcement.CommandLine
