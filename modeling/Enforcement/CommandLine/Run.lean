import Enforcement.CommandLine.FragmentCommand
import Enforcement.CommandLine.PolicyCommand
import Enforcement.Tool.Host

/-! The whole program: the command line is read, then the settings, then it is done. -/

namespace Enforcement.CommandLine

def Request.run (settings : Settings) : Request → Work String
  | policy request => request.run
  | generate request => request.run settings
  | sign request => request.run settings
  | verify signed => verifySigned settings signed
  | imports request => request.run settings
  | discover image => discoverFragments settings image
  | push signed destination => pushFragment settings signed destination
  | attach signed image => attachFragment settings signed image

def makeLogDirectory (path : String) : Work Unit := do
  let (result, files) := (← Job.files).createDirectories path
  Job.setFiles files
  match result with
  | .ok _ => return
  | .error fault => Work.fail (.logDirectory path fault)

namespace Invocation

def run (environment : Environment) (invocation : Invocation) : Work String := do
  invocation.logDirectory.forM makeLogDirectory
  match Settings.load environment (← Job.files) with
  | .ok settings => invocation.request.run settings
  | .error fault => Work.fail (.settings fault)

end Invocation

inductive Ending where
  | done (text : String)
  | failed (failure : Failure)
  | misused (fault : UsageFault)
  deriving DecidableEq, Repr, Inhabited

namespace Ending

def exit : Ending → Nat
  | done _ => 0
  | failed _ => 1
  | misused _ => 2

def stdout : Ending → String
  | done text => text
  | _ => ""

def stderr : Ending → String
  | done _ => ""
  | failed failure => failure.report
  | misused fault => s!"error: {fault.message}\n\nFor more information, try '--help'.\n"

end Ending

def versionText : String := "confcom 0.1.0\n"

def helpText : String :=
  "confcom: confidential-container security policies and fragments\n\n" ++
    "Usage: confcom [--log-dir DIR] COMMAND\n\nCommands:\n" ++
    outputLines ["  policy              policies from a template or a specification file",
      "  fragment generate   a specification file as a fragment, perhaps signed and published",
      "  sign                a payload signed",
      "  verify              the claims of a signed fragment",
      "  import              imports added to an imports file",
      "  discover            the fragments of an image",
      "  push                a signed fragment published on its own",
      "  attach              a signed fragment published beside an image"]

def Inquiry.answer : Inquiry → String
  | help => helpText
  | version => versionText

def run (environment : Environment) (words : List String) (files : Files.Store) :
    Ending × Files.Store :=
  match Invocation.ofWords words with
  | .error (.usage fault) => (.misused fault, files)
  | .error (.answer inquiry) => (.done inquiry.answer, files)
  | .ok invocation =>
    let (result, desk) := (invocation.run environment).perform (hostTools environment) ⟨files, []⟩
    match result with
    | .ok text => (.done text, desk.files)
    | .error failure => (.failed failure, desk.files)

end Enforcement.CommandLine
