import Enforcement.Shell.Run
import Enforcement.Tool.Environment
import Enforcement.Tool.Job

/-!
Tools that are programs of a system: scripts among the files, and the programs that are always
there. A tool that has not ended in time is stopped; what it did until then stays.
-/

namespace Enforcement

open Enforcement.Files Enforcement.Shell

def standardHint : String := "make sure it is installed and on PATH"

private def startFault (program : String) : Fault → RunFault
  | .notFound => .notFound program standardHint
  | fault => .notStarted program fault.message

def startingMachine (environment : Environment) (files : Store) (limit : Nat) : Machine where
  files := files
  buffers := [[], []]
  channels := [(0, .nothing), (1, .buffer 0), (2, .buffer 1)]
  bindings := environment
  exported := environment.map (·.1)
  functions := []
  name := "sh"
  arguments := []
  line := 1
  status := 0
  elapsed := 0
  limit := limit
  stopOnFailure := false
  traps := []

private def hasNul (text : String) : Bool := text.toList.contains '\x00'

private def output (machine : Machine) (ending : Ending) : ToolOutput where
  exit := match ending with
    | .status code => some code
    | .signal _ => none
  stdout := Text.decodeUtf8 (machine.buffer 0)
  stderr := Text.decodeUtf8 (machine.buffer 1)

private def runFound (environment : Environment) (files : Store) (call : ToolCall) :
    Except RunFault ToolOutput × Store :=
  let searchPath := (environment.value? "PATH").getD "/bin:/usr/bin"
  match findProgram files searchPath call.program with
  | .fault fault => (.error (startFault call.program fault), files)
  | .unmarked _ => (.error (.notStarted call.program "Exec format error (os error 8)"), files)
  | found =>
    if call.milliseconds = 0 then (.error (.timedOut call.program 0), files)
    else
      let machine := startingMachine environment files call.milliseconds
      let (result, after) := (startFound runCommand found call.program call.args).run.run machine
      match result with
      | .ok (.ok ending) => (.ok (output after ending), after.files)
      | .ok (.error fault) => (.error (startFault call.program fault), after.files)
      | .error (.killed signal) => (.ok (output after (.signal signal)), after.files)
      | .error (.exit status) => (.ok (output after (.status status)), after.files)
      | .error _ => (.error (.timedOut call.program (call.milliseconds / 1000)), after.files)

def hostTools (environment : Environment) : Tools := fun _ files call =>
  if hasNul call.program || call.args.any hasNul || call.directory.any hasNul then
    (.error (.notStarted call.program "nul byte found in provided data"), files)
  else
    match call.directory with
    | none => runFound environment files call
    | some directory =>
      match files.resolve directory with
      | .error fault => (.error (startFault call.program fault), files)
      | .ok place =>
        match files.entry? place with
        | none => (.error (startFault call.program .notFound), files)
        | some (.file ..) => (.error (startFault call.program .notDirectory), files)
        | some .directory =>
          let (result, after) := runFound environment { files with home := place } call
          (result, { after with home := files.home })

end Enforcement
