import Enforcement.Image.Name
import Enforcement.Image.Registry
import Enforcement.Policy.Rego

/-! Fragments written, signed and published. -/

namespace Enforcement

open Enforcement.Files

structure SigningMaterial where
  key : String
  chain : String
  algorithm : Algorithm
  deriving DecidableEq, Repr, Inhabited

inductive Publication where
  /-- Beside an image. -/
  | attachTo (image : String)
  /-- On its own. -/
  | pushTo (destination : String)
  deriving DecidableEq, Repr, Inhabited

structure FragmentRequest where
  package : String
  svn : String
  feed : Option String
  outputDirectory : String
  signing : Option SigningMaterial
  publication : Option Publication
  deriving DecidableEq, Repr, Inhabited

structure FragmentFiles where
  rego : String
  signed : Option String
  feed : String
  issuer : Option String
  deriving DecidableEq, Repr, Inhabited

namespace FragmentRequest

def feedFor (request : FragmentRequest) (policy : Policy) : Except Error String :=
  match request.feed, policy.containers with
  | some feed, _ => .ok feed
  | none, container :: _ => .ok (Image.stripVersion container.id)
  | none, [] => .error (.input .feedMissing)

def publish (registry : Registry) (signed : String) : Option Publication → Job Unit
  | none => return
  | some (.attachTo image) => registry.attach image signed
  | some (.pushTo destination) => registry.push signed destination

/-- Nothing is written before the whole request was found to make sense. -/
def generate (request : FragmentRequest) (signer : Signer) (registry : Registry)
    (policy : Policy) : Job FragmentFiles := do
  if request.publication.isSome && request.signing.isNone then
    Job.fail (.input .publishWithoutSigning)
  let feed ← request.feedFor policy
  let text ← Rego.renderFragment policy request.package request.svn
  Job.createDirectories request.outputDirectory
  let rego := join request.outputDirectory (request.package ++ ".rego")
  Job.writeText rego text
  match request.signing with
  | none => return ⟨rego, none, feed, none⟩
  | some material =>
    let issuer ← signer.createIssuer material.chain
    let signed ← signer.sign ⟨rego, material.key, material.chain, some feed, some issuer,
      material.algorithm, envelopePath rego⟩
    publish registry signed request.publication
    return ⟨rego, some signed, feed, some issuer⟩

end FragmentRequest

end Enforcement
