import Enforcement.Json.Printer
import Enforcement.Policy.Basic

/-! Policies as documents. A member that has no value is left out. -/

namespace Enforcement

open Enforcement.Json

def textsValue (texts : List String) : Value := .array (texts.map .string)

def wholeValue (value : Int) : Value := .number (.whole value)

def signalsValue (signals : List Int32) : Value := .array (signals.map (wholeValue ·.toInt))

def optionalMember {α : Type} (name : String) (encode : α → Value) :
    Option α → List (String × Value)
  | none => []
  | some value => [(name, encode value)]

theorem memberAt?_optionalMember {α : Type} (key name : String) (encode : α → Value)
    (held : Option α) (rest : List (String × Value)) :
    memberAt? key (optionalMember name encode held ++ rest) =
      if name = key then (held.map encode).or (memberAt? key rest) else memberAt? key rest := by
  cases held with
  | none => exact (ite_self _).symm
  | some value => exact memberAt?_cons key (name, encode value) rest

def EnvStrategy.word : EnvStrategy → String
  | string => "string"
  | re2 => "re2"

def EnvRule.toValue (rule : EnvRule) : Value :=
  .object [("pattern", .string rule.pattern), ("strategy", .string rule.strategy.word),
    ("required", .bool rule.required)]

def MountRule.toValue (rule : MountRule) : Value :=
  .object [("destination", .string rule.destination), ("source", .string rule.source),
    ("type", .string rule.kind), ("options", textsValue rule.options)]

def ExecProcess.toValue (process : ExecProcess) : Value :=
  .object [("command", textsValue process.command), ("signals", signalsValue process.signals)]

def Capabilities.toValue (capabilities : Capabilities) : Value :=
  .object [("add", textsValue capabilities.add), ("drop", textsValue capabilities.drop)]

def SecurityContext.toValue (context : SecurityContext) : Value :=
  .object (optionalMember "privileged" .bool context.privileged ++
    optionalMember "allow_privilege_escalation" .bool context.allowPrivilegeEscalation ++
    optionalMember "run_as_user" (wholeValue ·.toInt) context.runAsUser ++
    optionalMember "run_as_group" (wholeValue ·.toInt) context.runAsGroup ++
    optionalMember "capabilities" Capabilities.toValue context.capabilities)

def Container.toValue (container : Container) : Value :=
  .object ([("id", .string container.id), ("name", .string container.name),
    ("command", textsValue container.command),
    ("env_rules", .array (container.envRules.map EnvRule.toValue)),
    ("mounts", .array (container.mounts.map MountRule.toValue)),
    ("exec_processes", .array (container.execProcesses.map ExecProcess.toValue)),
    ("signals", signalsValue container.signals),
    ("allow_stdio_access", .bool container.allowStdioAccess)] ++
    optionalMember "security_context" SecurityContext.toValue container.securityContext)

def FragmentImport.toValue (fragment : FragmentImport) : Value :=
  .object [("issuer", .string fragment.issuer), ("feed", .string fragment.feed),
    ("minimum_svn", .string fragment.minimumSvn),
    ("includes", .array (fragment.includes.map (.string ·.name)))]

def fragmentsValue (fragments : List FragmentImport) : Value :=
  .array (fragments.map FragmentImport.toValue)

def containersValue (containers : List Container) : Value :=
  .array (containers.map Container.toValue)

def Policy.toValue (policy : Policy) : Value :=
  .object [("fragments", fragmentsValue policy.fragments),
    ("containers", containersValue policy.containers)]

end Enforcement
