import Enforcement.Files.Fault
import Enforcement.Json.Token
import Enforcement.Text.Quoted

/-! What can go wrong, by cause, and the one wording of each cause. -/

namespace Enforcement

open Enforcement.Text

inductive InputFault where
  | templateNotObject
  | parametersMissing
  | parameterWithoutValue (name : String)
  | parameterUndeclared (name : String)
  | resourcesEmpty
  | groupWithoutProperties (group : String)
  | groupWithoutContainers (group : String)
  | standaloneNotList
  | specFileNotObject (path : String)
  | specFileWithoutContainers
  | imageMissing
  | fieldNotList (key : String)
  | fieldNotText (key : String)
  | fieldNotTextList (key : String)
  | fieldNotFlag (key : String)
  | fieldNotInteger (key : String)
  | fieldMissing (owner key : String)
  | variableWithoutValue (name container : String)
  | variableNotScalar (name container : String)
  | specVariableNotScalar (name : String)
  | regexNotFlag (name found : String)
  | volumeUndeclared (name : String)
  | volumeUnsupported (name : String)
  | mountTypeUnsupported (kind : String)
  | execWithoutCommand
  | probeWithoutCommand (probe : String)
  | securityContextNotObject
  | signalUnknown (found : String)
  | fragmentFieldNotText (name : String)
  | fragmentMinimumNotInteger (feed : String)
  | fragmentIncludesNotList (feed : String)
  | fragmentIncludeUnknown (feed found : String)
  | namespaceNotWord (name : String)
  | resourcesMissing
  | policyCountDiffers (groups policies : Nat)
  | groupPropertiesNotObject (group : String)
  | confidentialNotObject (group : String)
  | algorithmUnknown (name : String)
  | minimumNotInteger (text : String)
  | fileMissing (role path : String)
  | pathWithoutName (path : String)
  | referenceInvalid (text reason : String)
  | importsTopLevelList
  | importsNotObject
  | importsFragmentsNotList
  | publishWithoutSigning
  | feedMissing
  deriving DecidableEq, Repr, Inhabited

namespace InputFault

def message : InputFault → String
  | templateNotObject => "ARM template must be a JSON object"
  | parametersMissing => "field [\"parameters\"] is empty or cannot be found in parameters file"
  | parameterWithoutValue name => s!"parameter [\"{name}\"] in parameters file has no value"
  | parameterUndeclared name =>
    s!"parameter [\"{name}\"] is empty or cannot be found in ARM template"
  | resourcesEmpty => "field [\"resources\"] is empty or cannot be found in ARM template"
  | groupWithoutProperties group =>
    s!"container group {group} is missing field [\"properties\"]"
  | groupWithoutContainers group =>
    s!"field [\"containers\"] is empty or cannot be found in container group {group}"
  | standaloneNotList => "[\"standaloneFragments\"] can only be a list value"
  | specFileNotObject path => s!"policy spec file {path} must be a JSON object"
  | specFileWithoutContainers =>
    "field [\"containers\"] is empty or cannot be found in policy spec file"
  | imageMissing => "field [\"image\"] is empty or cannot be found"
  | fieldNotList key => s!"field [\"{key}\"] can only be a list value"
  | fieldNotText key => s!"field [\"{key}\"] can only be a string value"
  | fieldNotTextList key => s!"field [\"{key}\"] can only be a list of strings"
  | fieldNotFlag key => s!"field [\"{key}\"] can only be a boolean value"
  | fieldNotInteger key => s!"field [\"{key}\"] can only be an integer value"
  | fieldMissing owner key => s!"{owner} is missing field [\"{key}\"]"
  | variableWithoutValue name container =>
    s!"environment variable [\"{name}\"] in container {container} " ++
      "has neither value nor secureValue"
  | variableNotScalar name container =>
    s!"environment variable [\"{name}\"] in container {container} must have a scalar value"
  | specVariableNotScalar name => s!"environment variable [\"{name}\"] must have a scalar value"
  | regexNotFlag name found =>
    s!"environment variable [\"{name}\"]: [\"regex\"] must be a boolean, got {found}"
  | volumeUndeclared name => s!"volume mount [\"{name}\"] does not match any declared volume"
  | volumeUnsupported name => s!"volume [\"{name}\"] has no supported volume type"
  | mountTypeUnsupported kind => s!"unsupported volume mount type [\"{kind}\"]"
  | execWithoutCommand => "exec process must declare a [\"command\"] list"
  | probeWithoutCommand probe => s!"[\"{probe}\"] exec must declare a [\"command\"] list"
  | securityContextNotObject => "[\"securityContext\"] must be an object"
  | signalUnknown found => s!"unknown signal {found}"
  | fragmentFieldNotText name => s!"fragment field [\"{name}\"] can only be a string value"
  | fragmentMinimumNotInteger feed =>
    s!"fragment {feed}: [\"minimum_svn\"] can only be a string with an integer value"
  | fragmentIncludesNotList feed => s!"fragment {feed}: [\"includes\"] can only be a list value"
  | fragmentIncludeUnknown feed found => s!"fragment {feed}: unknown include {found}"
  | namespaceNotWord name =>
    s!"fragment namespace {quoted name} must be a single non-empty word"
  | resourcesMissing => "field [\"resources\"] cannot be found in ARM template"
  | policyCountDiffers groups policies =>
    s!"ARM template has {groups} container groups but {policies} policies were generated"
  | groupPropertiesNotObject group => s!"container group {group} has no properties object"
  | confidentialNotObject group =>
    s!"confidentialComputeProperties of container group {group} is not an object"
  | algorithmUnknown name =>
    s!"unsupported signing algorithm {quoted name}; " ++
      "expected one of ES256, ES384, ES512, PS256, PS384, PS512"
  | minimumNotInteger text =>
    s!"minimum svn must be a string holding an integer, got {quoted text}"
  | fileMissing role path => s!"{role} {path} does not exist"
  | pathWithoutName path => s!"{path} is not a file path"
  | referenceInvalid text reason => s!"invalid image reference {quoted text}: {reason}"
  | importsTopLevelList =>
    "imports file must be an object with a [\"fragments\"] list, not a top-level array"
  | importsNotObject => "imports file must be a JSON object"
  | importsFragmentsNotList =>
    "field [\"fragments\"] in imports file can only be a list value"
  | publishWithoutSigning =>
    "publishing a fragment requires a signing key and certificate chain"
  | feedMissing => "a feed is required when the fragment has no containers"

end InputFault

inductive TrustFault where
  | belowMinimum (feed : String) (found minimum : Nat)
  | versionMissing (feed : String)
  | versionInvalid (text : String)
  | unauthorized (registry detail : String)
  | unverified (path stderr : String)
  | issuerInvalid (text : String)
  deriving DecidableEq, Repr, Inhabited

def TrustFault.message : TrustFault → String
  | belowMinimum feed found minimum =>
    s!"fragment {feed} has svn {found}, below the required minimum {minimum}"
  | versionMissing feed => s!"fragment {feed} does not declare an svn"
  | versionInvalid text => s!"svn must be a string holding an integer, got {quoted text}"
  | unauthorized registry detail =>
    s!"unauthorized access to registry {registry}; " ++
      s!"please log in (e.g. `oras login {registry}`) and retry: {detail}"
  | unverified path stderr => s!"signature verification failed for {path}: {stderr}"
  | issuerInvalid text =>
    s!"certificate chain did not yield a did:x509 issuer: {quoted text}"

/-- Why a tool gave no result at all. -/
inductive RunFault where
  | notFound (program hint : String)
  | notStarted (program detail : String)
  | timedOut (program : String) (seconds : Nat)
  deriving DecidableEq, Repr, Inhabited

def RunFault.message : RunFault → String
  | notFound program hint => s!"{program} was not found: {hint}"
  | notStarted program detail => s!"failed to spawn {program}: {detail}"
  | timedOut program seconds => s!"{program} timed out after {seconds}s"

inductive Marker where
  | issuer
  | feed
  | payload
  deriving DecidableEq, Repr, Inhabited

def Marker.missing : Marker → String
  | issuer => "verifier output has no issuer line (\"iss: ...\")"
  | feed => "verifier output has no feed line (\"feed: ...\")"
  | payload => "verifier output has no payload marker (\"payload:\")"

/-- Output of a tool that ended well and still makes no sense. -/
inductive OutputFault where
  | noDownload (digest : String)
  | digestMalformed (digest image : String)
  deriving DecidableEq, Repr, Inhabited

def OutputFault.message : OutputFault → String
  | noDownload digest => s!"no \"Downloaded\" line in pull output for {digest}"
  | digestMalformed digest image =>
    s!"discover returned malformed digest {quoted digest} for {image}"

inductive SettingsFault where
  | malformed
  | malformedFile (path : String)
  | unreadable (path : String) (fault : Files.Fault)
  | algorithm (fault : InputFault)
  deriving DecidableEq, Repr, Inhabited

def SettingsFault.messages : SettingsFault → List String
  | malformed => ["failed to parse config TOML"]
  | malformedFile path => [s!"invalid config file {path}", "failed to parse config TOML"]
  | unreadable path fault => [s!"failed to read config file {path}: {fault.message}"]
  | algorithm fault =>
    ["invalid [signing] algorithm in config", s!"invalid input: {fault.message}"]

inductive Error where
  | input (fault : InputFault)
  | file (path : String) (fault : Files.Fault)
  | json (context : String) (fault : Json.Fault)
  | tool (name : String) (exit : Option Int) (stderr : String)
  | output (tool : String) (fault : OutputFault)
  | trust (fault : TrustFault)
  | run (fault : RunFault)
  | verifier (missing : Marker)
  | settings (fault : SettingsFault)
  deriving DecidableEq, Repr, Inhabited

private def exitText : Option Int → String
  | some code => s!"Some({code})"
  | none => "None"

def Error.message : Error → String
  | input fault => s!"invalid input: {fault.message}"
  | file path fault => s!"i/o error on {path}: {fault.message}"
  | json context fault => s!"malformed JSON in {context}: {fault.category}"
  | tool name exit stderr => s!"{name} failed (exit code {exitText exit}): {stderr}"
  | output program fault => s!"unexpected output from {program}: {fault.message}"
  | trust fault => fault.message
  | run fault => fault.message
  | verifier missing => missing.missing
  | settings fault => ": ".intercalate fault.messages

@[simp]
theorem mapError_error {ε δ α : Type} (rename : ε → δ) (failure : ε) :
    (Except.error failure : Except ε α).mapError rename = .error (rename failure) := rfl

@[simp]
theorem mapError_ok {ε δ α : Type} (rename : ε → δ) (value : α) :
    (Except.ok value : Except ε α).mapError rename = .ok value := rfl

theorem mapError_ok_iff {ε δ α : Type} {rename : ε → δ} {result : Except ε α} {value : α} :
    result.mapError rename = .ok value ↔ result = .ok value := by
  cases result <;> simp

theorem exists_ok {ε α β : Type} (result : Except ε α) (view : α → β) (seen : β)
    (found : result.toOption.map view = some seen) :
    ∃ value, result = .ok value ∧ view value = seen := by
  cases result with
  | error failure => cases found
  | ok value =>
      cases found
      exact ⟨value, rfl, rfl⟩

theorem ok_of_toOption {ε α : Type} {result : Except ε α} {value : α}
    (found : result.toOption = some value) : result = .ok value := by
  cases result with
  | error failure => cases found
  | ok held => rw [Option.some.inj found]

theorem bind_ok {ε α β : Type} {result : Except ε α} {next : α → Except ε β} {value : β} :
    result >>= next = .ok value ↔ ∃ found, result = .ok found ∧ next found = .ok value := by
  cases result <;> simp [bind, Except.bind]

theorem toOption_bind {ε α β : Type} (result : Except ε α) (next : α → Except ε β) :
    (result >>= next).toOption = result.toOption >>= fun value => (next value).toOption := by
  cases result with
  | error failure => rfl
  | ok value => rfl

theorem toOption_mapM {ε α β : Type} (step : α → Except ε β) (items : List α) :
    (items.mapM step).toOption = items.mapM fun item => (step item).toOption := by
  induction items with
  | nil => rfl
  | cons item rest ih =>
      rw [List.mapM_cons, List.mapM_cons, toOption_bind]
      refine congrArg (_ >>= ·) (funext fun value => ?_)
      rw [toOption_bind, ih]
      rfl

end Enforcement
