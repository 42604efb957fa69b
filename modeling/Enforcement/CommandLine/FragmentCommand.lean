import Enforcement.CommandLine.Request
import Enforcement.CommandLine.Work
import Enforcement.Imports.File
import Enforcement.Imports.Resolver
import Enforcement.Policy.SpecFile
import Enforcement.Settings
import Enforcement.Template.Loading

/-! Fragments generated, signed, verified, published and imported. -/

namespace Enforcement.CommandLine

def registryOf (settings : Settings) : Registry := ⟨settings.registry, settings.artifactType⟩

def signerOf (settings : Settings) : Signer := ⟨settings.signer⟩

def algorithmFor (settings : Settings) (named : Option String) : Except Error Algorithm :=
  match named with
  | some name => Algorithm.ofName name
  | none => settings.algorithm.mapError .settings

/-- The tools are looked for before anything is written. -/
def GenerateRequest.run (request : GenerateRequest) (settings : Settings) : Job String := do
  let document ← loadSpecFile request.input
  let policy ← (Policy.ofSpecFile (fun _ => false) request.options document).outcome.1
  let signing ← request.signing.mapM fun paths => do
    let algorithm ← (algorithmFor settings request.algorithm : Job Algorithm)
    return SigningMaterial.mk paths.key paths.chain algorithm
  let signer := signerOf settings
  let registry := registryOf settings
  if signing.isSome then signer.checkAvailable
  if request.publication.isSome then registry.checkAvailable
  let fragment : FragmentRequest := ⟨request.package, request.svn, request.feed,
    request.outputDirectory, signing, request.publication⟩
  let files ← fragment.generate signer registry policy
  return outputLines (files.rego :: files.signed.toList)

def EnvelopeRequest.run (request : EnvelopeRequest) (settings : Settings) : Job String := do
  let signer := signerOf settings
  signer.checkAvailable
  let issuer ← match request.issuer with
    | some issuer => pure issuer
    | none => signer.createIssuer request.signing.chain
  let algorithm ← algorithmFor settings request.algorithm
  let out ← signer.sign ⟨request.payload, request.signing.key, request.signing.chain,
    request.feed, some issuer, algorithm, request.out.getD (envelopePath request.payload)⟩
  return outputLines [out]

def describe (fragment : VerifiedFragment) : List String :=
  ["issuer: " ++ fragment.issuer, "feed: " ++ fragment.feed] ++
    ((Rego.package? fragment.payload).map ("namespace: " ++ ·)).toList ++
    ((Rego.svn? fragment.payload).map fun svn => s!"svn: {svn}").toList

def verifySigned (settings : Settings) (signed : String) : Job String := do
  let signer := signerOf settings
  signer.checkAvailable
  return outputLines (describe (← signer.verify signed))

/-- The imports file is read only when all imports are there, and written in one step. -/
def ImportRequest.run (request : ImportRequest) (settings : Settings) : Work String := do
  let registry := registryOf settings
  let signer := signerOf settings
  let resolver : Resolver := ⟨registry, signer, settings.scratch⟩
  signer.checkAvailable
  let imports ← (match request.source with
    | .image image => do
      registry.checkAvailable
      resolver.resolveAll image request.minimumSvn
    | .signed path => return [← resolver.resolvePath path request.minimumSvn] :
    Job (List FragmentImport))
  let file ← Work.ofJob (.loading request.imports) (ImportsFile.load request.imports)
  (file.append imports).write request.imports
  return ""

def discoverFragments (settings : Settings) (image : String) : Job String := do
  let registry := registryOf settings
  registry.checkAvailable
  return outputLines (← registry.discover image)

def pushFragment (settings : Settings) (signed destination : String) : Job String := do
  let registry := registryOf settings
  registry.checkAvailable
  registry.push signed destination
  return ""

def attachFragment (settings : Settings) (signed image : String) : Job String := do
  let registry := registryOf settings
  registry.checkAvailable
  registry.attach image signed
  return ""

end Enforcement.CommandLine
