import Enforcement.Policy.Consultation
import Enforcement.Policy.Defaults
import Enforcement.Template.Reference

/-! Containers compiled from their declarations, in templates and in specification files. -/

namespace Enforcement.Container

open Enforcement.Json Enforcement.Template

/-- The two forms of a declaration differ in how they write variables and mounts. -/
inductive Source where
  /-- A container of a group with these volumes. -/
  | template (volumes : List Value)
  | specFile
  deriving Repr, Inhabited

/-! Properties of the kinds a declaration may hold. -/

def fail {α : Type} (fault : InputFault) : Except Error α := .error (.input fault)

def listField (owner : Value) (key : String) : Except Error (List Value) :=
  match property? owner key with
  | none => .ok []
  | some (.array items) => .ok items
  | some _ => fail (.fieldNotList key)

def textField (owner : Value) (key : String) : Except Error (Option String) :=
  match property? owner key with
  | none => .ok none
  | some (.string text) => .ok (some text)
  | some _ => fail (.fieldNotText key)

def requiredText (owner : Value) (key role : String) : Except Error String := do
  match ← textField owner key with
  | some text => return text
  | none => fail (.fieldMissing role key)

def textListField (owner : Value) (key : String) : Except Error (Option (List String)) :=
  match property? owner key with
  | none => .ok none
  | some value =>
    match value.array?.bind (·.mapM Value.string?) with
    | some texts => .ok (some texts)
    | none => fail (.fieldNotTextList key)

def flagField (owner : Value) (key : String) : Except Error (Option Bool) :=
  match property? owner key with
  | none => .ok none
  | some (.bool flag) => .ok (some flag)
  | some _ => fail (.fieldNotFlag key)

def integerField (owner : Value) (key : String) : Except Error (Option Int64) :=
  match property? owner key with
  | none => .ok none
  | some (.number number) =>
    match number.signed? 64 with
    | some value => .ok (some (Int64.ofInt value))
    | none => fail (.fieldNotInteger key)
  | some _ => fail (.fieldNotInteger key)

def signal? : Value → Option Int32
  | .string name => Defaults.signalNumber? name
  | .number number => (number.signed? 32).map Int32.ofInt
  | _ => none

def readSignal (item : Value) : Except Error Int32 :=
  match signal? item with
  | some number => .ok number
  | none => fail (.signalUnknown item.compactText)

def signalsField (owner : Value) (key : String) : Except Error (List Int32) :=
  match property? owner key with
  | none => .ok []
  | some (.array items) => items.mapM readSignal
  | some _ => fail (.fieldNotList key)

def scalarText? : Value → Option String
  | .string text => some text
  | .number number => some (String.ofList number.render)
  | .bool flag => some (if flag then "true" else "false")
  | _ => none

/-! Environment variables. -/

/-- The rule for a variable of a template; none when its value is unknown and nobody approves. -/
def templateEnvRule (approver : WildcardApprover) (options : BuildOptions) (container : String)
    (declaration : Value) : Consulting WildcardQuestion (Option EnvRule) := do
  let name ← requiredText declaration "name" "environment variable"
  match (property? declaration "value").or (property? declaration "secureValue") with
  | none => fail (.variableWithoutValue name container)
  | some value =>
    match scalarText? value with
    | none => fail (.variableNotScalar name container)
    | some text =>
      if containsReference text.toList then
        if options.approveWildcards then return some (.wildcard name)
        else if ← Consulting.ask approver ⟨container, name⟩ then return some (.wildcard name)
        else return none
      else return some (.literal name text)

def specFileEnvRule (declaration : Value) : Except Error EnvRule := do
  let name ← requiredText declaration "name" "environment variable"
  match (property? declaration "value").bind scalarText? with
  | none => fail (.specVariableNotScalar name)
  | some text =>
    match property? declaration "regex" with
    | none => return .literal name text
    | some (.bool isRegex) => return if isRegex then .regex name text else .literal name text
    | some found => fail (.regexNotFlag name found.compactText)

def declaredEnvRules (approver : WildcardApprover) (options : BuildOptions) (source : Source)
    (container : String) (properties : Value) : Consulting WildcardQuestion (List EnvRule) := do
  let declarations ← listField properties "environmentVariables"
  match source with
  | .template _ =>
    return (← declarations.mapM (templateEnvRule approver options container)).filterMap
      fun rule => rule
  | .specFile => declarations.mapM (specFileEnvRule ·)

/-! Mounts. -/

/-- The first volume of the name, and the first of its keys that names a kind of volume. -/
def templateMount (volumes : List Value) (declaration : Value) : Except Error MountRule := do
  let name ← requiredText declaration "name" "volume mount"
  let destination ← requiredText declaration "mountPath" "volume mount"
  let readOnly := (← flagField declaration "readOnly").getD false
  match volumes.find? (textProperty? · "name" == some name) with
  | none => fail (.volumeUndeclared name)
  | some volume =>
    let kinds := (volume.members?.getD []).map (·.1)
    match kinds.findSome? (Defaults.mountRule? · destination readOnly) with
    | none => fail (.volumeUnsupported name)
    | some rule => return rule

def specFileMount (declaration : Value) : Except Error MountRule := do
  let kind ← requiredText declaration "mountType" "volume mount"
  let destination ← requiredText declaration "mountPath" "volume mount"
  let readOnly := (← flagField declaration "readonly").getD false
  match Defaults.mountRule? kind destination readOnly with
  | none => fail (.mountTypeUnsupported kind)
  | some rule => return rule

def declaredMounts (source : Source) (properties : Value) : Except Error (List MountRule) := do
  let declarations ← listField properties "volumeMounts"
  match source with
  | .template volumes => declarations.mapM (templateMount volumes)
  | .specFile => declarations.mapM specFileMount

def configMapMount (properties : Value) : List MountRule :=
  if (property? properties "configMap").isSome then
    (Defaults.mountRule? "configMap" Defaults.configMapPath false).toList
  else []

/-! Processes. -/

def declaredProcess (declaration : Value) : Except Error ExecProcess := do
  match ← textListField declaration "command" with
  | none => fail .execWithoutCommand
  | some command => return ⟨command, ← signalsField declaration "signals"⟩

def probeProcess (properties : Value) (probe : String) : Except Error (Option ExecProcess) := do
  match (property? properties probe).bind (property? · "exec") with
  | none => return none
  | some exec =>
    match ← textListField exec "command" with
    | none => fail (.probeWithoutCommand probe)
    | some command => return some ⟨command, []⟩

def allowedProcesses (options : BuildOptions) (properties : Value) :
    Except Error (List ExecProcess) := do
  let declared ← (← listField properties "execProcesses").mapM declaredProcess
  let readiness ← probeProcess properties "readinessProbe"
  let liveness ← probeProcess properties "livenessProbe"
  let shells := if options.debugMode then Defaults.debugShells else []
  return declared ++ readiness.toList ++ liveness.toList ++ shells

/-! Security context. -/

def readCapabilities (context : Value) : Except Error (Option Capabilities) := do
  match property? context "capabilities" with
  | none => return none
  | some changes =>
    let add := (← textListField changes "add").getD []
    return some ⟨add, (← textListField changes "drop").getD []⟩

def readSecurityContext (properties : Value) : Except Error (Option SecurityContext) := do
  match property? properties "securityContext" with
  | none => return none
  | some context =>
    if !context.isObject then fail .securityContextNotObject
    else
      let capabilities ← readCapabilities context
      let privileged ← flagField context "privileged"
      let escalation ← flagField context "allowPrivilegeEscalation"
      let user ← integerField context "runAsUser"
      let group ← integerField context "runAsGroup"
      return some ⟨privileged, escalation, user, group, capabilities⟩

/-- One container of the policy; it is named for its image unless it has a name. -/
def compile (approver : WildcardApprover) (options : BuildOptions) (source : Source)
    (declaration : Value) : Consulting WildcardQuestion Container := do
  let properties := (property? declaration "properties").getD declaration
  match ← textField properties "image" with
  | none => fail .imageMissing
  | some image =>
    let name := (← textField declaration "name").getD image
    let envRules ← declaredEnvRules approver options source name properties
    let mounts ← declaredMounts source properties
    let processes ← allowedProcesses options properties
    let command := (← textListField properties "command").getD []
    let signals ← signalsField properties "signals"
    let securityContext ← readSecurityContext properties
    return {
      id := image
      name := name
      command := command
      envRules := envRules ++ Defaults.envRules
      mounts := mounts ++ configMapMount properties ++ Defaults.userMounts image
      execProcesses := processes
      signals := signals
      allowStdioAccess := options.allowStdioAccess
      securityContext := securityContext }

end Enforcement.Container
