import Enforcement.Text.Blank
import Enforcement.Tool.Job
import Enforcement.Trust.Algorithm
import Enforcement.Trust.Gate

/-! The signing tool: issuers, signatures and their verification. -/

namespace Enforcement

open Enforcement.Text

structure ToolSetting where
  program : String
  seconds : Nat
  deriving DecidableEq, Repr, Inhabited

structure SignRequest where
  payload : String
  key : String
  chain : String
  feed : Option String
  issuer : Option String
  algorithm : Algorithm
  out : String
  deriving DecidableEq, Repr, Inhabited

def envelopePath (payload : String) : String := payload ++ ".cose"

def requireFile (role path : String) : Job Unit := do
  if (← Job.files).isFile path then return
  Job.fail (.input (.fileMissing role path))

/-- Whatever stands for an issuer must say so. -/
def issuerMark : List Char := "did:x509:".toList

namespace SignRequest

private def optionalArgs (name : String) : Option String → List String
  | some value => [name, value]
  | none => []

/-- The salt is fixed, so that signing the same payload again gives the same envelope. -/
def args (request : SignRequest) : List String :=
  ["create", "-algo", request.algorithm.name, "-chain", request.chain, "-claims",
    request.payload, "-key", request.key, "-salt", "zero", "-content-type",
    "application/unknown+rego", "-out", request.out] ++
    optionalArgs "-feed" request.feed ++ optionalArgs "-issuer" request.issuer

end SignRequest

structure Signer where
  setting : ToolSetting
  deriving DecidableEq, Repr, Inhabited

namespace Signer

def installHint : String :=
  "install sign1util from https://github.com/microsoft/cosesign1go and put it on PATH, " ++
    "or set [tools] sign1util in ~/.confcom/config.toml"

def call (signer : Signer) (args : List String) : Job ToolOutput :=
  Job.call installHint ⟨signer.setting.program, args, none, 1000 * signer.setting.seconds⟩

def failure (output : ToolOutput) : Error := .tool "sign1util" output.exit output.stderr

/-- Any answer at all will do. -/
def checkAvailable (signer : Signer) : Job Unit := do
  let _ ← signer.call ["--help"]

def createIssuer (signer : Signer) (chain : String) : Job String := do
  requireFile "certificate chain" chain
  let output ← signer.call ["did:x509", "-chain", chain, "-policy", "CN"]
  if !output.succeeded then Job.fail (failure output)
  let issuer := trimmed output.stdout
  if !issuerMark.isPrefixOf issuer.toList then Job.fail (.trust (.issuerInvalid issuer))
  return issuer

def sign (signer : Signer) (request : SignRequest) : Job String := do
  requireFile "payload" request.payload
  requireFile "signing key" request.key
  requireFile "certificate chain" request.chain
  let output ← signer.call request.args
  if !output.succeeded then Job.fail (failure output)
  return request.out

def check (signer : Signer) (signed : String) : Job String := do
  requireFile "signed fragment" signed
  let output ← signer.call ["check", "--in", signed, "--verbose"]
  if !output.succeeded then Job.fail (.trust (.unverified signed output.stderr))
  return output.stdout

def verify (signer : Signer) (signed : String) : Job VerifiedFragment := do
  match VerifierOutput.parse (← signer.check signed) with
  | .ok fragment => return fragment
  | .error marker => Job.fail (.verifier marker)

def importStatement (signer : Signer) (signed minimumSvn : String) : Job FragmentImport := do
  (← signer.verify signed).importStatement minimumSvn

end Signer

end Enforcement
