import Enforcement.Image.Digest
import Enforcement.Image.Registry

/-!
Published fragments turned into imports: each is pulled into a directory of its own, verified, held
against the minimum version, and the directory is removed again. One failure fails them all.
-/

namespace Enforcement

open Enforcement.Files

structure Resolver where
  registry : Registry
  signer : Signer
  scratch : String
  deriving DecidableEq, Repr, Inhabited

namespace Resolver

/-- The name of the directory for a digest: one path component whatever the digest is. -/
def scratchName (digest : String) : String :=
  String.ofList (digest.toList.map fun c =>
    if c.isAlphanum || c == '-' || c == '_' then c else '-')

def withDirectory {α : Type} (path : String) (work : Job α) : Job α := do
  Job.createDirectories path
  Job.withCleanUp work (·.removeDirectory path)

def importFile (resolver : Resolver) (path minimumSvn : String) : Job FragmentImport := do
  let fragment ← resolver.signer.verify path
  let _ ← fragment.ensureMinimum minimumSvn
  fragment.importStatement minimumSvn

def importDigest (resolver : Resolver) (image minimumSvn digest : String) :
    Job FragmentImport :=
  let directory := join resolver.scratch (scratchName digest)
  withDirectory directory do
    let pulled ← resolver.registry.pull image digest directory
    resolver.importFile pulled minimumSvn

def resolveAll (resolver : Resolver) (image minimumSvn : String) :
    Job (List FragmentImport) := do
  let _ ← (Svn.parse minimumSvn : Except Error Nat)
  let digests ← resolver.registry.discover image
  match digests.find? (!Image.isDigest ·) with
  | some digest => Job.fail (.output "oras" (.digestMalformed digest image))
  | none => return distinct (← digests.mapM (resolver.importDigest image minimumSvn))

def resolvePath (resolver : Resolver) (path minimumSvn : String) : Job FragmentImport := do
  let _ ← (Svn.parse minimumSvn : Except Error Nat)
  resolver.importFile path minimumSvn

end Resolver

end Enforcement
