import Enforcement.Error
import Enforcement.Json.Shape
import Enforcement.Policy.Encoding

/-! Policies read back from documents. -/

namespace Enforcement

open Enforcement.Json

private def needed (name : String) (shape : Shape) : List String × Bool × Shape :=
  ([name], false, shape)

private def optional (name : String) (shape : Shape) : List String × Bool × Shape :=
  ([name], true, shape)

namespace Shapes

def texts : Shape := .list .text

def signals : Shape := .list (.integer 32)

def envRule : Shape :=
  .record [needed "pattern" .text, needed "strategy" (.choice ["string", "re2"]),
    needed "required" .flag]

def mountRule : Shape :=
  .record [needed "destination" .text, needed "source" .text, needed "type" .text,
    needed "options" texts]

def execProcess : Shape := .record [needed "command" texts, needed "signals" signals]

def capabilities : Shape := .record [needed "add" texts, needed "drop" texts]

def securityContext : Shape :=
  .record [optional "privileged" .flag, optional "allow_privilege_escalation" .flag,
    optional "run_as_user" (.integer 64), optional "run_as_group" (.integer 64),
    optional "capabilities" capabilities]

def container : Shape :=
  .record [needed "id" .text, needed "name" .text, needed "command" texts,
    needed "env_rules" (.list envRule), needed "mounts" (.list mountRule),
    needed "exec_processes" (.list execProcess), needed "signals" signals,
    needed "allow_stdio_access" .flag, optional "security_context" securityContext]

/-- The minimum goes by two names. -/
def fragment : Shape :=
  .record [needed "issuer" .text, needed "feed" .text,
    (["minimum_svn", "minimumSvn"], false, .text),
    needed "includes" (.list (.choice ["containers", "fragments"]))]

def policy : Shape :=
  .record [needed "fragments" (.list fragment), needed "containers" (.list container)]

end Shapes

namespace Decoding

def member (value : Value) (name : String) : Option Value :=
  value.members?.bind (memberAt? name)

def textOf (value : Value) (name : String) : Option String :=
  (member value name).bind Value.string?

def flagOf (value : Value) (name : String) : Option Bool :=
  match member value name with
  | some (.bool flag) => some flag
  | _ => none

def listOf {α : Type} (value : Value) (name : String) (item : Value → Option α) :
    Option (List α) :=
  ((member value name).bind Value.array?).bind (·.mapM item)

def whole? : Value → Option Int
  | .number (.whole value) => some value
  | _ => none

def signal? (value : Value) : Option Int32 := (whole? value).map Int32.ofInt

def account? (value : Value) : Option Int64 := (whole? value).map Int64.ofInt

def optionalOf {α : Type} (value : Value) (name : String) (decode : Value → Option α) :
    Option (Option α) :=
  match member value name with
  | none => some none
  | some held => (decode held).map some

def flag? : Value → Option Bool
  | .bool flag => some flag
  | _ => none

def strategy? (value : Value) : Option EnvStrategy :=
  match value with
  | .string "string" => some .string
  | .string "re2" => some .re2
  | _ => none

end Decoding

open Decoding

def EnvRule.ofValue? (value : Value) : Option EnvRule := do
  return ⟨← textOf value "pattern", ← (member value "strategy").bind strategy?,
    ← flagOf value "required"⟩

def MountRule.ofValue? (value : Value) : Option MountRule := do
  return ⟨← textOf value "destination", ← textOf value "source", ← textOf value "type",
    ← listOf value "options" Value.string?⟩

def ExecProcess.ofValue? (value : Value) : Option ExecProcess := do
  return ⟨← listOf value "command" Value.string?, ← listOf value "signals" signal?⟩

def Capabilities.ofValue? (value : Value) : Option Capabilities := do
  return ⟨← listOf value "add" Value.string?, ← listOf value "drop" Value.string?⟩

def SecurityContext.ofValue? (value : Value) : Option SecurityContext := do
  return ⟨← optionalOf value "privileged" flag?,
    ← optionalOf value "allow_privilege_escalation" flag?,
    ← optionalOf value "run_as_user" account?, ← optionalOf value "run_as_group" account?,
    ← optionalOf value "capabilities" Capabilities.ofValue?⟩

def Container.ofValue? (value : Value) : Option Container := do
  return {
    id := ← textOf value "id"
    name := ← textOf value "name"
    command := ← listOf value "command" Value.string?
    envRules := ← listOf value "env_rules" EnvRule.ofValue?
    mounts := ← listOf value "mounts" MountRule.ofValue?
    execProcesses := ← listOf value "exec_processes" ExecProcess.ofValue?
    signals := ← listOf value "signals" signal?
    allowStdioAccess := ← flagOf value "allow_stdio_access"
    securityContext := ← optionalOf value "security_context" SecurityContext.ofValue? }

def FragmentImport.decode? (value : Value) : Option FragmentImport := do
  return ⟨← textOf value "issuer", ← textOf value "feed", ← textOf value "minimum_svn",
    ← listOf value "includes" fun item => item.string?.bind Contribution.ofName?⟩

def Policy.ofValue? (value : Value) : Option Policy := do
  return ⟨← listOf value "fragments" FragmentImport.decode?,
    ← listOf value "containers" Container.ofValue?⟩

def decoded {α : Type} (context : String) (decode : Value → Option α) :
    Except Fault Value → Except Error α
  | .error fault => .error (.json context fault)
  | .ok value =>
    match decode value with
    | some result => .ok result
    | none => .error (.json context .mismatched)

def Policy.read (context text : String) : Except Error Policy :=
  decoded context Policy.ofValue? (Shapes.policy.readDocument text)

def Container.read (context text : String) : Except Error Container :=
  decoded context Container.ofValue? (Shapes.container.readDocument text)

def FragmentImport.listOfValue (context : String) (value : Value) :
    Except Error (List FragmentImport) :=
  match Shape.check (.list Shapes.fragment) value with
  | none => .error (.json context .mismatched)
  | some (.array items) =>
    match items.mapM FragmentImport.decode? with
    | some fragments => .ok fragments
    | none => .error (.json context .mismatched)
  | some _ => .error (.json context .mismatched)

end Enforcement
