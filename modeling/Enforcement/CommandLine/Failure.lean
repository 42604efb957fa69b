import Enforcement.Error
import Enforcement.Files.Fault

/-! How a command fails, and the report of it with all causes. -/

namespace Enforcement.CommandLine

inductive Failure where
  | error (cause : Error)
  | loading (path : String) (cause : Error)
  | writing (path : String) (fault : Files.Fault)
  | settings (fault : SettingsFault)
  | logDirectory (path : String) (fault : Files.Fault)
  | sourceMissing
  | injectionWithoutTemplate
  deriving DecidableEq, Repr, Inhabited

def errorMessages : Error → List String
  | .file path fault => [(Error.file path fault).message, fault.message]
  | .settings fault => fault.messages
  | error => [error.message]

def Failure.messages : Failure → List String
  | error cause => errorMessages cause
  | loading path cause => s!"failed to load {path}" :: errorMessages cause
  | writing path fault => [s!"failed to write {path}", fault.message]
  | settings fault => "failed to load configuration" :: fault.messages
  | logDirectory path fault =>
    [s!"failed to create logs directory {path}: {fault.message}"]
  | sourceMissing => ["exactly one of --template or --input is required"]
  | injectionWithoutTemplate => ["--inject requires --template"]

/-- Each line but the first stands below the text of the first. -/
def indented (width : Nat) (text : String) : String :=
  text.replace "\n" ("\n" ++ String.ofList (List.replicate width ' '))

def causeLines : List String → List String
  | [cause] => ["    " ++ indented 4 cause]
  | causes => causes.zipIdx.map fun (cause, place) =>
    let number := toString place
    let margin := String.ofList (List.replicate (5 - number.length) ' ')
    margin ++ number ++ ": " ++ indented 7 cause

def reportText : List String → String
  | [] => ""
  | message :: causes =>
    let below := if causes.isEmpty then [] else "\nCaused by:" :: causeLines causes
    "Error: " ++ String.join ((message :: below).map (· ++ "\n"))

def Failure.report (failure : Failure) : String := reportText failure.messages

end Enforcement.CommandLine
