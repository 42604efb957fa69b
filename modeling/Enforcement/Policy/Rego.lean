import Enforcement.Digest.Sha256
import Enforcement.Policy.Encoding
import Enforcement.Svn
import Enforcement.Template.Reference
import Enforcement.Text.Digit
import Enforcement.Text.Line

/-! Policies and fragments as Rego modules, and the header of a module read back. -/

namespace Enforcement.Rego

open Enforcement.Json Enforcement.Text

def apiVersion : String := "0.10.0"

def frameworkVersion : String := "0.2.3"

def frameworkRules : List String :=
  ["mount_device", "unmount_device", "mount_overlay", "unmount_overlay", "create_container",
   "exec_in_container", "exec_external", "shutdown_container", "signal_container_process",
   "plan9_mount", "plan9_unmount", "get_properties", "dump_stacks", "runtime_logging",
   "load_fragment", "scratch_mount", "scratch_unmount"]

def listRules (policy : Policy) : String :=
  "fragments := " ++ (fragmentsValue policy.fragments).prettyText ++
    "\n\ncontainers := " ++ (containersValue policy.containers).prettyText ++ "\n"

def frameworkRule (name : String) : String := name ++ " := data.framework." ++ name ++ "\n"

/-- A whole policy. In debug mode stacks may be dumped and the runtime may log. -/
def renderPolicy (policy : Policy) (debugMode : Bool) : String :=
  let debug := if debugMode then "true" else "false"
  "package policy\n\nimport future.keywords.every\nimport future.keywords.in\n\n" ++
    "api_version := \"" ++ apiVersion ++ "\"\n" ++
    "framework_version := \"" ++ frameworkVersion ++ "\"\n\n" ++
    listRules policy ++ "\n" ++
    "allow_properties_access := true\n" ++
    "allow_dump_stacks := " ++ debug ++ "\n" ++
    "allow_runtime_logging := " ++ debug ++ "\n" ++
    "allow_environment_variable_dropping := true\n" ++
    "allow_unencrypted_scratch := false\n" ++
    "allow_capability_dropping := true\n\n" ++
    String.join (frameworkRules.map frameworkRule) ++
    "reason := \x7b\"errors\": data.framework.errors\x7d\n"

def renderFragment (policy : Policy) (package svn : String) : Except Error String := do
  if package.isEmpty || package.toList.any isBlank then
    throw (.input (.namespaceNotWord package))
  let _ ← Svn.parse svn
  return "package " ++ package ++ "\n\nsvn := \"" ++ svn ++ "\"\n" ++
    "framework_version := \"" ++ frameworkVersion ++ "\"\n\n" ++ listRules policy

def svnAt? (text : List Char) : Option (List Char) := do
  let rest ← Template.after? ['s', 'v', 'n'] text
  let rest ← Template.after? [':', '='] (trimStart rest)
  let rest ← Template.after? ['"'] (trimStart rest)
  let digits := rest.takeWhile isDecimalDigit
  let _ ← Template.after? ['"'] (rest.dropWhile isDecimalDigit)
  if digits.isEmpty then none else some digits

/-- The digits of the first version declaration anywhere in the text. -/
def findSvn? : List Char → Option (List Char)
  | [] => none
  | c :: rest => (svnAt? (c :: rest)).or (findSvn? rest)

def svnText? (text : String) : Option String := (findSvn? text.toList).map String.ofList

def svn? (text : String) : Option Nat := (svnText? text).bind Svn.parse?

def packageOfLine? (line : List Char) : Option (List Char) :=
  ((Template.after? "package ".toList (trim line)).map trim).filter (!·.isEmpty)

def package? (text : String) : Option String :=
  ((lines text.toList).findSome? packageOfLine?).map String.ofList

end Enforcement.Rego
